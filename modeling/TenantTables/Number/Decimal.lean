import TenantTables.Number.Double
import TenantTables.Number.Numeral

/-!
# Decimals

Exact numbers as they are exchanged with the database: an integer of at most 96
bits, and how many of its digits are behind the point. One that is sent has at
most 28 places. One that is read has no digit but zero beyond the 28th, and as
many of the zeros that were written as its integer has room for. Zero has
neither a sign nor places.

A decimal becomes a binary64 number in steps, each of them rounded: the whole
part and the fraction are added up, and the sum is brought back to the places
that the decimal has.
-/

namespace TenantTables.Number

/-- The bound of the coefficient of a decimal. -/
def decimalBound : Nat := twoTo 96

/-- The greatest number of places behind the point that can be sent. -/
def maxPlaces : Nat := 28

/-- The number `coefficient / 10 ^ places` with a sign. -/
structure Decimal where
  negative : Bool
  coefficient : Nat
  places : Nat
  coefficient_lt : coefficient < decimalBound
  deriving DecidableEq, Repr

namespace Decimal

def zero : Decimal := ⟨false, 0, 0, by decide⟩

/-- The decimal with these parts, if they are in range. -/
def of? (negative : Bool) (coefficient places : Nat) : Option Decimal :=
  if h : coefficient < decimalBound then some ⟨negative, coefficient, places, h⟩
  else none

/-- How far an exponent moves the point to the left. -/
def leftShift (n : Numeral) : Nat :=
  match n.exponent with
  | some (true, digits) => Text.decimalValue digits
  | _ => 0

/-- A quotient rounded to the nearest integer, a half upwards. -/
def halfUp (num den : Nat) : Nat :=
  (num + den / 2) / den

/-- The decimal that is sent for a numeral. Written places are kept, and an
exponent moves the point, to the left by no more places than there can be. What
it moves out of reach is rounded, a half away from zero. -/
def ofText? (s : String) : Option Decimal :=
  (Numeral.read? Text.isAsciiDigit s.toList).bind fun n =>
    let places := n.fraction.length + leftShift n
    if n.coefficient = 0 then some zero
    else if maxPlaces < leftShift n then none
    else if maxPlaces < places then
      of? n.negative (halfUp n.coefficient (tenTo (places - maxPlaces)))
        maxPlaces
    else if n.scale ≤ 0 then of? n.negative n.coefficient (-n.scale).toNat
    else if n.scale ≤ maxPlaces then
      of? n.negative (n.coefficient * tenTo n.scale.toNat) 0
    else none

/-- The decimal nearest to a numeral with more digits than can be held: places
are rounded away from the end, a half to the even neighbour, until it fits. -/
def fit? (negative : Bool) (coefficient places : Nat) : Option Decimal :=
  (List.range (places + 1)).findSome? fun dropped =>
    of? negative (nearest coefficient (tenTo dropped)) (places - dropped)

/-- Reads a numeral that comes from the database. Zeros at the end may exceed
the places that can be sent, other digits may not. -/
def ofStored? (s : String) : Option Decimal :=
  (Numeral.read? Text.isAsciiDigit s.toList).bind fun n =>
    let needed := (n.fraction.reverse.dropWhile (· == '0')).length
    if n.exponent.isSome || maxPlaces < needed then none
    else if n.coefficient = 0 then some zero
    else fit? n.negative n.coefficient n.fraction.length

/-- The text of a decimal with all its places. -/
def toText (d : Decimal) : String :=
  let digits := (toString d.coefficient).toList
  let digits := List.replicate (d.places + 1 - digits.length) '0' ++ digits
  let whole := digits.take (digits.length - d.places)
  let fraction := digits.drop (digits.length - d.places)
  String.ofList ((if d.negative then ['-'] else []) ++ whole ++
    if fraction.isEmpty then [] else '.' :: fraction)

/-- The binary64 number nearest to a ratio that is in range. -/
def ratio (num den : Nat) : Double :=
  (Double.ofRatio? false num den).getD (Double.zero false)

/-- A product that is in range. -/
def product (a b : Double) : Double :=
  (a.mul? b).getD (Double.zero false)

/-- A quotient that is in range. -/
def quotient (a b : Double) : Double :=
  (a.div? b).getD (Double.zero false)

/-- A power of ten below the sixty-fourth, by repeated squaring with every
product rounded. -/
def powerBySquares (n : Nat) : Double :=
  ((List.range 6).foldl
    (fun (power, square) i =>
      (if n / twoTo i % 2 = 1 then product power square else power,
        product square square))
    (ratio 1 1, ratio 10 1)).1

/-- The absolute value of a decimal as a binary64 number. The unit of its last
place is a number of 128 bits. -/
def absDouble (d : Decimal) : Double :=
  let unit := tenTo d.places % twoTo 128
  let whole := ratio (d.coefficient / unit) 1
  let fraction := quotient (ratio (d.coefficient % unit) 1) (ratio unit 1)
  if fraction.magnitude = 0 then whole
  else
    let sum := (whole.addAbs? fraction).getD whole
    let power := powerBySquares d.places
    quotient (ratio (product sum power).roundAbs 1) power

/-- The decimal as a binary64 number. -/
def toDouble (d : Decimal) : Double :=
  if d.negative then d.absDouble.neg else d.absDouble

end Decimal

end TenantTables.Number
