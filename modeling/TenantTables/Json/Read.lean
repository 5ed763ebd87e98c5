import TenantTables.Json.Value
import TenantTables.Text.Class
import TenantTables.Text.Percent

/-!
# Reading documents

A reader for JSON text. It answers what the text denotes or nothing at all; why
a text is refused is of no interest to its callers.

Numbers need care. Digits are collected in an integer as long as it fits into
64 unsigned bits. An integer that fits is an integer. Everything else is the
collected integer scaled by a power of ten in binary64 arithmetic, one rounding
for the integer and one for each scaling step, so that long numerals may end up
one unit away from the nearest number.

Depth is limited, and every step consumes a character, so the length of the
text bounds the work.
-/

namespace TenantTables.Json

open TenantTables.Number (Double twoTo)

/-- Blank characters between tokens. -/
def isSpace (c : Char) : Bool :=
  c == ' ' || c == '\n' || c == '\t' || c == '\r'

def skipSpace (cs : List Char) : List Char :=
  cs.dropWhile isSpace

/-- Digits collected from a numeral: the integer so far, how many digits follow
the point, and how many were left out because the integer was full. -/
structure Collected where
  coefficient : Nat
  scale : Int
  full : Bool

/-- Adds one digit in front of the point. Once the integer is full,
digits only count. -/
def Collected.whole (s : Collected) (c : Char) : Collected :=
  let next := 10 * s.coefficient + Text.digitValue c
  if s.full || twoTo 64 ≤ next then
    { s with scale := s.scale + 1, full := true }
  else { s with coefficient := next }

/-- Adds one digit behind the point. Once a digit does not fit, the
rest is ignored. -/
def Collected.fraction (s : Collected) (c : Char) : Collected :=
  let next := 10 * s.coefficient + Text.digitValue c
  if s.full || twoTo 64 ≤ next then { s with full := true }
  else { s with coefficient := next, scale := s.scale - 1 }

/-- The number nearest to a power of ten up to the 308th. -/
def powerOfTen (n : Nat) : Double :=
  (Double.ofDecimal? false 1 n).getD (Double.zero false)

/-- Scales by a power of ten in steps of at most 308; `none` when the finite
range is left. `steps` bounds the number of steps. -/
def scaleBy (f : Double) (exponent : Int) (steps : Nat) : Option Double :=
  if exponent.natAbs ≤ 308 then
    if 0 ≤ exponent then f.mul? (powerOfTen exponent.toNat)
    else f.div? (powerOfTen (-exponent).toNat)
  else if f.magnitude = 0 then some f
  else if 0 ≤ exponent then none
  else
    match steps with
    | 0 => none
    | steps + 1 => (f.div? (powerOfTen 308)).bind fun f =>
        scaleBy f (exponent + 308) steps

/-- The number that a coefficient and a power of ten denote. -/
def numberOf? (negative : Bool) (coefficient : Nat)
    (exponent : Int) : Option Value :=
  let f := Double.ofInt coefficient
  (scaleBy f exponent 4).map fun d => .float (if negative then d.neg else d)

/-- Reads the exponent behind `e`. Exponents beyond 32 bits are clamped, which
leaves zero or leaves the range. -/
def readExponent (cs : List Char) : Option (Int × List Char) :=
  let (negative, rest) :=
    match cs with
    | '+' :: rest => (false, rest)
    | '-' :: rest => (true, rest)
    | rest => (false, rest)
  let digits := rest.takeWhile Text.isAsciiDigit
  if digits.isEmpty then none
  else
    let n : Int := min (Text.decimalValue digits) (twoTo 31)
    some (if negative then -n else n, rest.dropWhile Text.isAsciiDigit)

/-- Finishes a numeral that is no plain integer. -/
def finishNumber (negative : Bool) (s : Collected) (cs : List Char) :
    Option (Value × List Char) :=
  match cs with
  | e :: rest =>
      if e = 'e' ∨ e = 'E' then
        (readExponent rest).bind fun (exponent, rest) =>
          (numberOf? negative s.coefficient (s.scale + exponent)).map (·, rest)
      else (numberOf? negative s.coefficient s.scale).map (·, e :: rest)
  | [] => (numberOf? negative s.coefficient s.scale).map (·, [])

/-- Reads a number, the sign already taken. -/
def readNumber (negative : Bool) (cs : List Char) :
    Option (Value × List Char) :=
  let digits := cs.takeWhile Text.isAsciiDigit
  let rest := cs.dropWhile Text.isAsciiDigit
  if digits.isEmpty || (digits.head? == some '0' && 1 < digits.length) then none
  else
    let s := digits.foldl Collected.whole ⟨0, 0, false⟩
    match rest with
    | '.' :: rest =>
        let fraction := rest.takeWhile Text.isAsciiDigit
        if fraction.isEmpty then none
        else
          let s := fraction.foldl Collected.fraction { s with full := false }
          finishNumber negative s (rest.dropWhile Text.isAsciiDigit)
    | c :: _ =>
        if c = 'e' ∨ c = 'E' ∨ s.full then finishNumber negative s rest
        else plain s.coefficient rest
    | [] =>
        if s.full then finishNumber negative s rest
        else plain s.coefficient rest
where
  /-- An integer that fits. A negative one below the signed range, and the
  negative zero, are numbers with a fraction. -/
  plain (n : Nat) (rest : List Char) : Option (Value × List Char) :=
    if !negative then some (.int n, rest)
    else if n = 0 ∨ twoTo 63 < n then some (.float (Double.ofInt n).neg, rest)
    else some (.int (-n), rest)

/-- Four hexadecimal digits. -/
def readHex4 : List Char → Option (Nat × List Char)
  | a :: b :: c :: d :: rest =>
      match Text.hexValue? a, Text.hexValue? b, Text.hexValue? c,
        Text.hexValue? d with
      | some a, some b, some c, some d =>
          some (a * 4096 + b * 256 + c * 16 + d, rest)
      | _, _, _, _ => none
  | _ => none

/-- The character of a `\u` escape, which may take a second escape for the
other half of a surrogate pair. A lone surrogate is refused. -/
def readUnicode (cs : List Char) : Option (Char × List Char) :=
  (readHex4 cs).bind fun (n, rest) =>
    if 0xDC00 ≤ n ∧ n ≤ 0xDFFF then none
    else if 0xD800 ≤ n ∧ n ≤ 0xDBFF then
      match rest with
      | '\\' :: 'u' :: rest =>
          (readHex4 rest).bind fun (m, rest) =>
            if 0xDC00 ≤ m ∧ m ≤ 0xDFFF then
              some (Char.ofNat
                (0x10000 + (n - 0xD800) * 1024 + (m - 0xDC00)), rest)
            else none
      | _ => none
    else some (Char.ofNat n, rest)

/-- The character that a one-letter escape stands for. -/
def simpleEscape? (c : Char) : Option Char :=
  match c with
  | '"' => some '"'
  | '\\' => some '\\'
  | '/' => some '/'
  | 'b' => some (Char.ofNat 8)
  | 'f' => some (Char.ofNat 12)
  | 'n' => some '\n'
  | 'r' => some '\r'
  | 't' => some '\t'
  | _ => none

/-- The rest of a string behind its opening quote. -/
def readChars : Nat → List Char → Option (List Char × List Char)
  | 0, _ => none
  | fuel + 1, cs =>
      match cs with
      | [] => none
      | c :: rest =>
          if c = '"' then some ([], rest)
          else if c = '\\' then
            match rest with
            | 'u' :: rest =>
                (readUnicode rest).bind fun (d, rest) =>
                  (readChars fuel rest).map fun (ds, rest) => (d :: ds, rest)
            | e :: rest =>
                (simpleEscape? e).bind fun d =>
                  (readChars fuel rest).map fun (ds, rest) => (d :: ds, rest)
            | [] => none
          else if c.toNat < 32 then none
          else (readChars fuel rest).map fun (ds, rest) => (c :: ds, rest)

/-- A string behind its opening quote, as text. -/
def readString (cs : List Char) : Option (String × List Char) :=
  (readChars (cs.length + 1) cs).map fun (ds, rest) => (String.ofList ds, rest)

/-- The text behind a keyword, if the characters start with it. -/
def afterKeyword? (word : List Char) (cs : List Char) : Option (List Char) :=
  if word.isPrefixOf cs then some (cs.drop word.length) else none

mutual

/-- Reads one value; `depth` is how many containers may still be opened. -/
def readValue : Nat → Nat → List Char → Option (Value × List Char)
  | 0, _, _ => none
  | fuel + 1, depth, cs =>
      match skipSpace cs with
      | [] => none
      | c :: rest =>
          if c = '"' then (readString rest).map fun (s, rest) => (.str s, rest)
          else if c = '[' then
            if depth ≤ 1 then none
            else
              match skipSpace rest with
              | ']' :: rest => some (.arr [], rest)
              | rest =>
                  (readItems fuel (depth - 1) rest).map fun (vs, rest) =>
                    (.arr vs, rest)
          else if c = '\x7b' then
            if depth ≤ 1 then none
            else
              match skipSpace rest with
              | '\x7d' :: rest => some (.obj [], rest)
              | rest =>
                  (readFields fuel (depth - 1) [] rest).map fun (o, rest) =>
                    (.obj o, rest)
          else if c = '-' then readNumber true rest
          else if Text.isAsciiDigit c then readNumber false (c :: rest)
          else if c = 'n' then (afterKeyword? "ull".toList rest).map (.null, ·)
          else if c = 't' then
            (afterKeyword? "rue".toList rest).map (.bool true, ·)
          else if c = 'f' then
            (afterKeyword? "alse".toList rest).map (.bool false, ·)
          else none

/-- Items of a list up to the closing bracket. -/
def readItems : Nat → Nat → List Char → Option (List Value × List Char)
  | 0, _, _ => none
  | fuel + 1, depth, cs =>
      (readValue fuel depth cs).bind fun (v, rest) =>
        match skipSpace rest with
        | ',' :: rest => (readItems fuel depth rest).map fun (vs, rest) =>
            (v :: vs, rest)
        | ']' :: rest => some ([v], rest)
        | _ => none

/-- Fields of an object up to the closing brace, added to those already read. -/
def readFields : Nat → Nat → Object → List Char → Option (Object × List Char)
  | 0, _, _, _ => none
  | fuel + 1, depth, fields, cs =>
      match skipSpace cs with
      | '"' :: rest =>
          (readString rest).bind fun (key, rest) =>
            match skipSpace rest with
            | ':' :: rest =>
                (readValue fuel depth rest).bind fun (v, rest) =>
                  let fields := Object.insert fields key v
                  match skipSpace rest with
                  | ',' :: rest => readFields fuel depth fields rest
                  | '\x7d' :: rest => some (fields, rest)
                  | _ => none
            | _ => none
      | _ => none

end

/-- How deeply containers may be nested, one more than the deepest accepted. -/
def depthLimit : Nat := 128

/-- Reads a text that holds one document and blanks around it. -/
def parse? (s : String) : Option Value :=
  let cs := s.toList
  (readValue (2 * cs.length + 2) depthLimit cs).bind fun (v, rest) =>
    if (skipSpace rest).isEmpty then some v else none

end TenantTables.Json
