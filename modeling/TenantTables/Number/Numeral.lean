import TenantTables.Text.Class

/-!
# Numerals

The written form shared by filter literals, CSV cells and rule arguments: an
optional sign, digits with at most one point among or around them, and an
optional exponent. The class of digits is a parameter, because a text may look
like a number in digits that nothing here reads as a number.
-/

namespace TenantTables.Number

/-- A numeral taken apart. -/
structure Numeral where
  negative : Bool
  whole : List Char
  fraction : List Char
  /-- Sign and digits of the exponent. -/
  exponent : Option (Bool × List Char)
  deriving Repr, DecidableEq

/-- A leading sign, and what follows it. -/
def takeSign : List Char → Bool × List Char
  | '-' :: rest => (true, rest)
  | '+' :: rest => (false, rest)
  | rest => (false, rest)

/-- Sign and digits of an exponent that runs to the end of the text. -/
def exponentOf? (digit : Char → Bool) (cs : List Char) :
    Option (Bool × List Char) :=
  let (negative, digits) := takeSign cs
  if !digits.isEmpty && digits.all digit then some (negative, digits) else none

/-- Reads a whole text as one numeral. -/
def Numeral.read? (digit : Char → Bool) (cs : List Char) : Option Numeral :=
  let (negative, body) := takeSign cs
  let whole := body.takeWhile digit
  let (fraction, rest) :=
    match body.dropWhile digit with
    | '.' :: rest => (rest.takeWhile digit, rest.dropWhile digit)
    | rest => ([], rest)
  if whole.isEmpty && fraction.isEmpty then none
  else
    match rest with
    | [] => some ⟨negative, whole, fraction, none⟩
    | e :: rest =>
        if e = 'e' ∨ e = 'E' then
          (exponentOf? digit rest).map fun exponent =>
            ⟨negative, whole, fraction, some exponent⟩
        else none

/-- The digits of the numeral as one natural number. -/
def Numeral.coefficient (n : Numeral) : Nat :=
  Text.decimalValue (n.whole ++ n.fraction)

/-- The power of ten by which the coefficient is scaled. -/
def Numeral.scale (n : Numeral) : Int :=
  let written : Int :=
    match n.exponent with
    | none => 0
    | some (true, digits) => -(Text.decimalValue digits : Int)
    | some (false, digits) => Text.decimalValue digits
  written - n.fraction.length

/-- Whether the trimmed text looks like a number, in digits of any script. -/
def isNumeric (s : String) : Bool :=
  (Numeral.read? Text.isDecimalDigit (Text.trimChars s.toList)).isSome

end TenantTables.Number
