import TenantTables.Number.Power

/-!
# Finite binary64 numbers

Numbers with a fraction are kept as their binary64 encoding, less the sign: the
lower sixty-three bits, which order finite numbers by absolute value. Every
finite binary64 number is a whole multiple of the least positive one, 2^-1074,
so all arithmetic is exact on `Nat` followed by one rounding, to nearest with
ties to even.

Infinities and NaN are no members of this type. Where a computation may leave
the finite range, its result is optional.
-/

namespace TenantTables.Number

/-- The encoding of infinity, the first that is not finite. -/
def firstInfinite : Nat := 0x7FF0000000000000

/-- A finite binary64 number. -/
structure Double where
  negative : Bool
  magnitude : Nat
  finite : magnitude < firstInfinite
  deriving DecidableEq, Repr

/-- The whole number nearest to a ratio, the even one of two. -/
def nearest (num den : Nat) : Nat :=
  let q := num / den
  let r := num % den
  if 2 * r < den then q
  else if den < 2 * r then q + 1
  else q + q % 2

namespace Double

/-- The number with this sign and encoding, if it is finite. -/
def ofMagnitude? (negative : Bool) (magnitude : Nat) : Option Double :=
  if h : magnitude < firstInfinite then some ⟨negative, magnitude, h⟩ else none

/-- Zero with a sign. -/
def zero (negative : Bool) : Double := ⟨negative, 0, by decide⟩

/-- The significand: at least 2^52, except below the normal range. -/
def significand (d : Double) : Nat :=
  if d.magnitude < twoTo 52 then d.magnitude
  else d.magnitude % twoTo 52 + twoTo 52

/-- The power of two that scales the significand, counted from 2^-1074. -/
def shift (d : Double) : Nat :=
  d.magnitude / twoTo 52 - 1

/-- The absolute value in units of 2^-1074. -/
def units (d : Double) : Nat :=
  d.significand * twoTo d.shift

/-- The encoding nearest to a ratio. The exponent is chosen so that fifty-three
bits remain; a carry out of the significand lands in the exponent field, where
it belongs. -/
def magnitudeOf (num den : Nat) : Nat :=
  let k := Nat.log2 (num * twoTo 1074 / den) - 52
  k * twoTo 52 + nearest (num * twoTo 1074) (den * twoTo k)

/-- The number nearest to a ratio, if the ratio is in range. -/
def ofRatio? (negative : Bool) (num den : Nat) : Option Double :=
  ofMagnitude? negative (magnitudeOf num den)

/-- The number nearest to `coefficient * 10 ^ exponent`. Exponents so small
that the value rounds to zero, or so large that it cannot be in range, are
recognised before any power is taken. -/
def ofDecimal? (negative : Bool) (coefficient : Nat)
    (exponent : Int) : Option Double :=
  if coefficient = 0 then some (zero negative)
  else if 309 < exponent then none
  else if (coefficient.log2 : Int) + 1076 < -3 * exponent then
    some (zero negative)
  else ofRatio? negative (coefficient * tenTo exponent.toNat)
    (tenTo (-exponent).toNat)

/-- The number nearest to a 64-bit integer; integers outside that
range are clamped. -/
def ofInt (n : Int) : Double :=
  (ofRatio? (n < 0) (min n.natAbs (twoTo 64)) 1).getD (zero false)

/-- The signed encoding: an integer that orders finite numbers. Both zeros have
the same. -/
def key (d : Double) : Int :=
  if d.negative then -d.magnitude else d.magnitude

/-- Numerical order. -/
def compare (a b : Double) : Ordering :=
  Ord.compare a.key b.key

/-- Numerical equality. It does not tell the two zeros apart. -/
def same (a b : Double) : Bool :=
  a.key == b.key

/-- The whole part of the absolute value. -/
def floorAbs (d : Double) : Nat :=
  d.units / twoTo 1074

def neg (d : Double) : Double :=
  { d with negative := !d.negative }

def mul? (a b : Double) : Option Double :=
  ofRatio? (a.negative != b.negative) (a.units * b.units) (twoTo 2148)

/-- Quotient of `a` by a `b` that is not zero. -/
def div? (a b : Double) : Option Double :=
  ofRatio? (a.negative != b.negative) a.units b.units

/-- Sum of two numbers that are not negative. -/
def addAbs? (a b : Double) : Option Double :=
  ofRatio? false (a.units + b.units) (twoTo 1074)

/-- The whole number nearest to the absolute value; a half goes up. -/
def roundAbs (d : Double) : Nat :=
  (d.units * 2 + twoTo 1074) / twoTo 1075

end Double

/-- What a written number may denote: a finite number, or one of the values
that only limits can take. -/
inductive Extended where
  | finite (value : Double)
  | infinite (negative : Bool)
  | notANumber
  deriving DecidableEq, Repr

/-- Whether a finite number is at least the limit. Nothing is at least NaN. -/
def Extended.leFinite (limit : Extended) (d : Double) : Bool :=
  match limit with
  | .finite l => l.key ≤ d.key
  | .infinite negative => negative
  | .notANumber => false

/-- Whether a finite number is at most the limit. Nothing is at most NaN. -/
def Extended.geFinite (limit : Extended) (d : Double) : Bool :=
  match limit with
  | .finite l => d.key ≤ l.key
  | .infinite negative => !negative
  | .notANumber => false

end TenantTables.Number
