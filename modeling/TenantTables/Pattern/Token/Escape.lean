import TenantTables.Pattern.Token
import TenantTables.Pattern.Token.Verbose
import TenantTables.Text.Class
import TenantTables.Text.Percent

/-!
# Escapes

What a backslash in front of a character makes of it: a character that has no
sign of its own, the sign of one that would mean something else, a class, or a
condition on the position.
-/

namespace TenantTables.Pattern

open Unicode (Query)

/-- Characters with a meaning of their own, which a backslash takes away. -/
def isMeta (c : Char) : Bool :=
  "\\.+*?()|[]\x7b\x7d^$#&-~".toList.contains c

/-- Whether a backslash in front makes the character stand for itself: any ASCII
character that is no letter, no digit and no angle bracket. -/
def isEscapable (c : Char) : Bool :=
  isMeta c ||
    (c.toNat < 128 && !Text.isAsciiDigit c && !Text.isAsciiLower c &&
      !Text.isAsciiUpper c && c != '<' && c != '>')

/-- What an escape stands for. -/
inductive Escape where
  | char (c : Char) (isByte : Bool)
  | mark (m : Mark)
  | family (f : Family) (negated : Bool)
  | property (q : Query) (negated : Bool)

def isHexDigit (c : Char) : Bool :=
  (Text.hexValue? c).isSome

/-- The character with a code point in hexadecimal digits. -/
def charOfHex? (digits : List Char) : Option Char :=
  let n := digits.foldl (fun n c => 16 * n + (Text.hexValue? c).getD 0) 0
  if digits.isEmpty then none
  else if n.isValidChar then some (Char.ofNat n) else none

/-- Reads hexadecimal digits of a fixed number. -/
def readDigits (verbose : Bool) :
    Nat → List Char → Option (List Char × List Char)
  | 0, cs => some ([], cs)
  | count + 1, cs =>
      match skipIgnored verbose cs with
      | [] => none
      | c :: rest =>
          if isHexDigit c then
            (readDigits verbose count rest).map fun (more, rest) =>
              (c :: more, rest)
          else none

/-- Reads a code point, in braces or with a fixed number of digits. Two digits
without braces write a byte. -/
def readCodePoint (verbose : Bool) (count : Nat) (cs : List Char) :
    Option (Escape × List Char) :=
  match skipIgnored verbose cs with
  | '\x7b' :: rest =>
      match spanIgnoring verbose isHexDigit rest with
      | (digits, '\x7d' :: rest) => (charOfHex? digits).map fun c =>
          (.char c false, rest)
      | _ => none
  | cs =>
      (readDigits verbose count cs).bind fun (digits, rest) =>
        (charOfHex? digits).map fun c => (.char c (count = 2), rest)

/-- The query that the text in braces writes. The first comparison of three
kinds cuts it; the kind that denies wins over the others. -/
def queryOf (text : String) : Query × Bool :=
  let cut (mark : String) : Option Query :=
    match text.splitOn mark with
    | property :: value :: more =>
        some (.valued property (mark.intercalate (value :: more)))
    | _ => none
  match cut "!=" with
  | some q => (q, true)
  | none => (((cut ":").or (cut "=")).getD (.named text), false)

/-- Reads what follows `\p`: one letter, or a text in braces. -/
def readProperty (verbose negated : Bool) (cs : List Char) :
    Option (Escape × List Char) :=
  match skipIgnored verbose cs with
  | '\x7b' :: rest =>
      match spanIgnoring verbose (· != '\x7d') rest with
      | (name, _ :: rest) =>
          let (q, denied) := queryOf (String.ofList name)
          some (.property q (negated != denied), rest)
      | (_, []) => none
  | '\\' :: _ => none
  | c :: rest => some (.property (.named (String.singleton c)) negated, rest)
  | [] => none

/-- A character of the names that narrow a word edge. -/
def isEdgeNameChar (c : Char) : Bool :=
  Text.isAsciiLower c || Text.isAsciiUpper c || c == '-'

/-- Reads what follows `\b`: a name in braces narrows it. Braces around anything
that starts otherwise are left to be read as a repetition. -/
def readWordEdge (verbose : Bool) (cs : List Char) :
    Option (Mark × List Char) :=
  match cs with
  | '\x7b' :: rest =>
      match spanIgnoring verbose isEdgeNameChar rest with
      | ([], []) => none
      | ([], _) => some (.wordEdge, cs)
      | (name, '\x7d' :: rest) =>
          match String.ofList name with
          | "start" => some (.wordStart, rest)
          | "end" => some (.wordEnd, rest)
          | "start-half" => some (.halfWordStart, rest)
          | "end-half" => some (.halfWordEnd, rest)
          | _ => none
      | _ => none
  | cs => some (.wordEdge, cs)

/-- Reads an escape behind its backslash. -/
def readEscape (verbose : Bool) : List Char → Option (Escape × List Char)
  | [] => none
  | c :: rest =>
      match c with
      | 'd' => some (.family .digit false, rest)
      | 'D' => some (.family .digit true, rest)
      | 's' => some (.family .space false, rest)
      | 'S' => some (.family .space true, rest)
      | 'w' => some (.family .word false, rest)
      | 'W' => some (.family .word true, rest)
      | 'p' => readProperty verbose false rest
      | 'P' => readProperty verbose true rest
      | 'x' => readCodePoint verbose 2 rest
      | 'u' => readCodePoint verbose 4 rest
      | 'U' => readCodePoint verbose 8 rest
      | 'a' => some (.char '\x07' false, rest)
      | 'f' => some (.char '\x0c' false, rest)
      | 't' => some (.char '\t' false, rest)
      | 'n' => some (.char '\n' false, rest)
      | 'r' => some (.char '\r' false, rest)
      | 'v' => some (.char '\x0b' false, rest)
      | 'A' => some (.mark .textStart, rest)
      | 'z' => some (.mark .textEnd, rest)
      | 'b' => (readWordEdge verbose rest).map fun (m, rest) => (.mark m, rest)
      | 'B' => some (.mark .noWordEdge, rest)
      | '<' => some (.mark .wordStart, rest)
      | '>' => some (.mark .wordEnd, rest)
      | c => if isEscapable c then some (.char c false, rest) else none

end TenantTables.Pattern
