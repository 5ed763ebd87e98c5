import TenantTables.Number.Double
import TenantTables.Number.Numeral

/-!
# Reading numbers

Texts become numbers in two ways: as a 64-bit integer, which takes nothing but
a sign and digits, and as a binary64 number, which takes any numeral in ASCII
digits and the names of the values beyond the finite range.
-/

namespace TenantTables.Number

/-- The least and the greatest signed 64-bit integer. -/
def minInt64 : Int := -(twoTo 63)

def maxInt64 : Int := twoTo 63 - 1

/-- The greatest unsigned 64-bit integer. -/
def maxUInt64 : Int := twoTo 64 - 1

def isInt64 (n : Int) : Bool :=
  minInt64 ≤ n && n ≤ maxInt64

/-- A sign and ASCII digits, and nothing else, as an integer. -/
def integerOf? (cs : List Char) : Option Int :=
  let (negative, digits) := takeSign cs
  if digits.isEmpty || !digits.all Text.isAsciiDigit then none
  else
    let n : Int := Text.decimalValue digits
    some (if negative then -n else n)

/-- Reads a signed 64-bit integer; white space is not skipped. -/
def readInt64? (s : String) : Option Int :=
  (integerOf? s.toList).filter isInt64

/-- The value of a numeral, infinite when it exceeds the finite range. -/
def Numeral.toExtended (n : Numeral) : Extended :=
  match Double.ofDecimal? n.negative n.coefficient n.scale with
  | some d => .finite d
  | none => .infinite n.negative

/-- Reads a binary64 number; white space is not skipped. Besides numerals it
knows the names of infinity and NaN, in either case. -/
def readExtended? (s : String) : Option Extended :=
  match Numeral.read? Text.isAsciiDigit s.toList with
  | some n => some n.toExtended
  | none =>
      let (negative, rest) := takeSign s.toList
      match Text.lowerAscii (String.ofList rest) with
      | "inf" => some (.infinite negative)
      | "infinity" => some (.infinite negative)
      | "nan" => some .notANumber
      | _ => none

/-- Reads a finite binary64 number. -/
def readDouble? (s : String) : Option Double :=
  match readExtended? s with
  | some (.finite d) => some d
  | _ => none

/-- The finite number that a filter literal denotes. The literal is trimmed. -/
def literalValue? (s : String) : Option Double :=
  if isNumeric s then readDouble? (Text.trim s) else none

/-- Whether a filter literal compares as a finite number. -/
def isNumericLiteral (s : String) : Bool :=
  (literalValue? s).isSome

end TenantTables.Number
