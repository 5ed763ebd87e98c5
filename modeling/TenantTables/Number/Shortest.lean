import TenantTables.Number.Double

/-!
# The shortest text of a number

A finite number is written with the fewest digits that read back as the same
number, and among those with the digits nearest to it. Reading rounds to
nearest, so the texts that read back fill an interval around the number; its
ends belong to it exactly when the significand is even.

The interval is scanned from coarse decimal grids to fine ones. If a point of a
grid lies in the interval then so does one of the number's two neighbours on
that grid, so two candidates per grid are enough.
-/

namespace TenantTables.Number

/-- An interval of positive numbers around a value, all in units of 2^-1076. -/
structure Interval where
  low : Nat
  value : Nat
  high : Nat
  closed : Bool
  deriving Repr

/-- The numbers that round to `d`. Below a power of two they reach
only half as far. -/
def Double.interval (d : Double) : Interval :=
  let step := twoTo d.shift
  let narrow := d.magnitude % twoTo 52 = 0 ∧ twoTo 53 ≤ d.magnitude
  { low := 4 * d.units - (if narrow then step else 2 * step)
    value := 4 * d.units
    high := 4 * d.units + 2 * step
    closed := d.magnitude % 2 = 0 }

/-- Whether `c * 10 ^ p` lies in the interval. -/
def Interval.holds (i : Interval) (c : Nat) (p : Int) : Bool :=
  let point := c * tenTo p.toNat * twoTo 1076
  let scale := tenTo (-p).toNat
  if i.closed then i.low * scale ≤ point && point ≤ i.high * scale
  else i.low * scale < point && point < i.high * scale

/-- The neighbour of the value on the grid of `10 ^ p` that lies in the
interval, the nearer one of two. -/
def Interval.onGrid? (i : Interval) (p : Int) : Option Nat :=
  let num := i.value * tenTo (-p).toNat
  let den := tenTo p.toNat * twoTo 1076
  let c := num / den
  let below := 0 < c && i.holds c p
  let above := i.holds (c + 1) p
  if below && above then some (nearest num den)
  else if below then some c
  else if above then some (c + 1)
  else none

/-- The digits, as a natural number, and the power of ten that scales them. -/
def Double.shortest (d : Double) : Nat × Int :=
  let start : Int := ((d.units.log2 : Int) - 1073) * 30103 / 100000 + 1
  let found := (List.range 20).findSome? fun (i : Nat) =>
    (d.interval.onGrid? (start - i)).map fun c => (c, start - (i : Int))
  found.getD (0, 0)

/-- The digits without trailing zeros, and the exponent of the first of them. -/
def Double.digits (d : Double) : List Char × Int :=
  if d.magnitude = 0 then (['0'], 0)
  else
    let (c, p) := d.shortest
    let cs := (toString c).toList
    let trimmed := (cs.reverse.dropWhile (· == '0')).reverse
    (trimmed, p + (cs.length : Int) - 1)

/-- `n` zeros. -/
def zeros (n : Nat) : List Char := List.replicate n '0'

/-- Positional notation of digits whose first has weight `10 ^ e`; a fraction
is written only where there is one. -/
def positional (digits : List Char) (e : Int) : List Char :=
  if e < 0 then '0' :: '.' :: zeros (-e - 1).toNat ++ digits
  else
    let whole := e.toNat + 1
    if digits.length ≤ whole then digits ++ zeros (whole - digits.length)
    else digits.take whole ++ '.' :: digits.drop whole

/-- The sign in front of a text. -/
def signed (negative : Bool) (cs : List Char) : String :=
  String.ofList (if negative then '-' :: cs else cs)

/-- The notation of documents: positional with a fraction, at least `.0`, for
exponents from -5 to 15, and scientific with a signed exponent elsewhere. -/
def Double.toText (d : Double) : String :=
  let (digits, e) := d.digits
  let body :=
    if -5 ≤ e ∧ e < 16 then
      let cs := positional digits e
      if cs.contains '.' then cs else cs ++ ['.', '0']
    else
      let mantissa :=
        match digits with
        | [] => []
        | [c] => [c]
        | c :: rest => c :: '.' :: rest
      mantissa ++ 'e' :: (if e < 0 then '-' else '+') ::
        (toString e.natAbs).toList
  signed d.negative body

/-- The notation of limits in messages: positional, without `.0`. -/
def Double.toPlain (d : Double) : String :=
  let (digits, e) := d.digits
  signed d.negative (positional digits e)

/-- A limit in a message. -/
def Extended.toPlain : Extended → String
  | .finite d => d.toPlain
  | .infinite negative => signed negative "inf".toList
  | .notANumber => "NaN"

end TenantTables.Number
