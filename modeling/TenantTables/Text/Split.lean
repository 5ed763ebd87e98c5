/-!
# Cutting text at a separator

Every list notation of the library is a text with a one-character separator.
Cutting never yields an empty list: a text without the separator is its own
only piece.
-/

namespace TenantTables.Text

/-- All pieces between occurrences of the separator. -/
def pieces (separator : Char) : List Char → List (List Char)
  | [] => [[]]
  | c :: cs =>
      if c = separator then [] :: pieces separator cs
      else
        match pieces separator cs with
        | [] => [[c]]
        | piece :: others => (c :: piece) :: others

/-- The part before the first separator and, if there is one, the
part behind it. -/
def cutAt (separator : Char) : List Char → List Char × Option (List Char)
  | [] => ([], none)
  | c :: cs =>
      if c = separator then ([], some cs)
      else
        let (first, rest) := cutAt separator cs
        (c :: first, rest)

/-- The pieces of a text. -/
def split (separator : Char) (s : String) : List String :=
  (pieces separator s.toList).map String.ofList

/-- A text cut at the first separator. -/
def splitOnce (separator : Char) (s : String) : String × Option String :=
  let (first, rest) := cutAt separator s.toList
  (String.ofList first, rest.map String.ofList)

/-- Puts `image` in the place of every `c`. -/
def substitute (c : Char) (image : List Char) (s : String) : String :=
  String.ofList (s.toList.flatMap fun d => if d = c then image else [d])

end TenantTables.Text
