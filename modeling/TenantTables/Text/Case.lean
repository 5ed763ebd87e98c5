import TenantTables.Text.CaseTable
import TenantTables.Unicode.CharSet

/-!
# Upper and lower case

Case conversion of whole texts. A character may become several (the German
sharp s has two capitals), and one letter looks at its surroundings: a capital
sigma that ends a word becomes the final form.
-/

namespace TenantTables.Text

/-- The image of a code point under a table of runs, if some run holds it. -/
def imageIn (runs : List (Nat × Nat × Nat × Nat)) (n : Nat) : Option Nat :=
  runs.findSome? fun (first, last, step, image) =>
    if first ≤ n ∧ n ≤ last ∧ (n - first) % step = 0 then
      some (image + (n - first)) else none

/-- Characters that carry case. -/
def casedSet : Unicode.CharSet :=
  .ofTable casedTable

/-- Characters that case context passes over. -/
def caseIgnorableSet : Unicode.CharSet :=
  .ofTable caseIgnorableTable

def isCased (c : Char) : Bool :=
  casedSet.holds c

def isCaseIgnorable (c : Char) : Bool :=
  caseIgnorableSet.holds c

/-- The first character that case context does not pass over carries case. -/
def meetsCased (cs : List Char) : Bool :=
  (cs.dropWhile isCaseIgnorable).head?.any isCased

/-- Lower case of one character, without regard to its surroundings. -/
def lowerChar (c : Char) : List Char :=
  if c.toNat = 0x130 then ['i', '\u0307']
  else [((imageIn lowerRuns c.toNat).map Char.ofNat).getD c]

/-- Lower case from left to right; `before` holds what was
read, nearest first. -/
def lowerFrom (before : List Char) : List Char → List Char
  | [] => []
  | c :: rest =>
      let image :=
        if c = 'Σ' then
          if meetsCased before && !meetsCased rest then ['ς'] else ['σ']
        else lowerChar c
      image ++ lowerFrom (c :: before) rest

/-- The text in lower case. -/
def lower (s : String) : String :=
  String.ofList (lowerFrom [] s.toList)

/-- Upper case of one character, possibly several characters. -/
def upperChar (c : Char) : List Char :=
  match upperExpansions.lookup c.toNat with
  | some image => image.map Char.ofNat
  | none => [((imageIn upperRuns c.toNat).map Char.ofNat).getD c]

/-- The text in upper case. -/
def upper (s : String) : String :=
  String.ofList (s.toList.flatMap upperChar)

end TenantTables.Text
