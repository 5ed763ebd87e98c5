import TenantTables.Number.Decimal
import TenantTables.Proofs.NumberText

/-!
# The range of decimals

A number is sent as the decimal of its text. A decimal has ninety-six bits and
at most twenty-eight places, and there are numbers beyond it on both sides:
those with too many digits in front of the point, and those whose text moves
the point too far to the left. What has too many places for a decimal, but no
such text, is rounded.

Both bounds are those of the number: its shortest digits are on the same side of
a power of ten, and of the bound of decimals, as the number itself. At the two
bounds the shortest digits are evaluated.
-/

namespace TenantTables.Number

open Text (isAsciiDigit decimalValue decimalValue_eq decimalValue_lt
  writesNumber_toDigits)

namespace Decimal

variable {n : Numeral} {s : String} {negative : Bool} {coefficient places : Nat}

theorem isSome_of? : (of? negative coefficient places).isSome = true ↔
    coefficient < decimalBound := by
  unfold of?
  split
  · next h => simp [h]
  · next h => simp [h]

theorem halfUp_le {num den : Nat} (hnum : 0 < num) (hden : 2 ≤ den) :
    halfUp num den ≤ num := by
  obtain ⟨k, rfl⟩ : ∃ k, num = k + 1 := ⟨num - 1, by omega⟩
  have htwice : k * 2 ≤ k * den := Nat.mul_le_mul_left k hden
  have hsum : k + 1 + den / 2 ≤ (k + 1) * den := by
    rw [Nat.succ_mul]
    omega
  calc
    halfUp (k + 1) den ≤ (k + 1) * den / den := Nat.div_le_div_right hsum
    _ = k + 1 := Nat.mul_div_cancel _ (by omega)

/-- No coefficient has room for so many zeros behind it. -/
theorem decimalBound_le {m : Nat} (hpos : 0 < coefficient) (h : maxPlaces < m) :
    decimalBound ≤ coefficient * tenTo m := by
  calc
    decimalBound ≤ 1 * tenTo 29 := by decide
    _ ≤ coefficient * tenTo m := Nat.mul_le_mul hpos (tenTo_le h)

theorem ofText?_of_zero (hread : Numeral.read? isAsciiDigit s.toList = some n)
    (h : n.coefficient = 0) : ofText? s = some zero := by
  rw [ofText?, hread, Option.bind_some, if_pos h]

/-- A numeral is sent if its point is in reach and its digits in front of the
point fit. Places that are rounded away belong to a coefficient that fits. -/
theorem isSome_ofText? (hread : Numeral.read? isAsciiDigit s.toList = some n)
    (hcoefficient : n.coefficient ≠ 0)
    (hplaces : maxPlaces < n.fraction.length + leftShift n →
      n.scale ≤ 0 ∧ n.coefficient < decimalBound) :
    (ofText? s).isSome = true ↔
      leftShift n ≤ maxPlaces ∧
        n.coefficient * tenTo n.scale.toNat < decimalBound := by
  have hpos : 0 < n.coefficient := Nat.pos_of_ne_zero hcoefficient
  rw [ofText?, hread, Option.bind_some, if_neg hcoefficient]
  split
  · next hfar => simp [Nat.not_le.2 hfar]
  · next hnear =>
      rw [and_iff_right (Nat.not_lt.1 hnear)]
      split
      · next hmany =>
          obtain ⟨hscale, hfits⟩ := hplaces hmany
          have hunit :
              2 ≤ tenTo (n.fraction.length + leftShift n - maxPlaces) := by
            calc
              2 ≤ tenTo 1 := by decide
              _ ≤ _ := tenTo_le (by omega)
          have hzero : n.scale.toNat = 0 := Int.toNat_eq_zero.2 hscale
          have hone : tenTo 0 = 1 := rfl
          rw [isSome_of?, hzero, hone, Nat.mul_one]
          have := halfUp_le hpos hunit
          omega
      · split
        · next hscale =>
            have hzero : n.scale.toNat = 0 := Int.toNat_eq_zero.2 hscale
            have hone : tenTo 0 = 1 := rfl
            rw [isSome_of?, hzero, hone, Nat.mul_one]
        · split
          · exact isSome_of?
          · next hgreat =>
              have :=
                decimalBound_le hpos (show maxPlaces < n.scale.toNat by omega)
              simp only [Option.isSome_none, Bool.false_eq_true, false_iff]
              omega

/-! ## Integers -/

theorem isSome_ofText?_int (n : Int) :
    (ofText? (toString n)).isSome = true ↔ n.natAbs < decimalBound := by
  have hread := Numeral.read?_toString n
  have hcoefficient := Numeral.coefficient_ofInt n
  have hscale : (Numeral.ofInt n).scale = 0 := rfl
  have hshift : leftShift (Numeral.ofInt n) = 0 := rfl
  by_cases hzero : n.natAbs = 0
  · rw [ofText?_of_zero hread (hcoefficient.trans hzero), hzero]
    decide
  · rw [isSome_ofText? hread (hcoefficient ▸ hzero)
        (fun hmany => absurd hmany (show ¬ maxPlaces < 0 + 0 by decide)),
      hcoefficient, hscale, hshift]
    simp [tenTo]

end Decimal

namespace Double

variable {d : Double}

/-! ## Numbers with a fraction -/

theorem leftShift_numeral (hd : d.magnitude ≠ 0) :
    Decimal.leftShift d.numeral = if d.digits.2 < -5 then d.digits.2.natAbs
      else 0 := by
  obtain ⟨-, hexponent, -⟩ := numeral_parts hd
  rw [Decimal.leftShift, hexponent]
  by_cases hfar : d.digits.2 < -5
  · have hrange : ¬ (-5 ≤ d.digits.2 ∧ d.digits.2 < 16) := by omega
    have hsign : d.digits.2 < 0 := by omega
    rw [if_neg hrange, if_pos hfar, decide_eq_true hsign]
    exact (writesNumber_toDigits d.digits.2.natAbs).value
  · rw [if_neg hfar]
    split
    · next hnegative =>
        split at hnegative
        · cases hnegative
        · have hsign :=
            of_decide_eq_true (Prod.mk.inj (Option.some.inj hnegative)).1
          omega
    · rfl

/-- The digits alone always fit. -/
theorem digits_fit (hd : d.magnitude ≠ 0) :
    decimalValue d.digits.1 < decimalBound := by
  have hwritten := writtenBy_digits hd
  calc
    decimalValue d.digits.1 < 10 ^ d.digits.1.length :=
      decimalValue_lt hwritten.digit
    _ ≤ 10 ^ 22 := Nat.pow_le_pow_right (by decide) hwritten.length_le
    _ ≤ decimalBound := by decide

/-- The text of a number is sent if its first digit is in reach and its digits
fit with the zeros in front of the point. -/
theorem isSome_ofText?_toText (hd : d.magnitude ≠ 0) :
    (Decimal.ofText? d.toText).isSome = true ↔
      -(maxPlaces : Int) ≤ d.digits.2 ∧
        decimalValue d.digits.1 * tenTo d.scale.toNat < decimalBound := by
  have hwritten := writtenBy_digits hd
  have hread := d.read?_toText
  obtain ⟨hfraction, -, hparts⟩ := numeral_parts hd
  have hshift := leftShift_numeral hd
  have hmax : maxPlaces = 28 := rfl
  have hpositive : 0 < decimalValue d.digits.1 :=
    Nat.lt_of_lt_of_le (tenTo_pos _) hwritten.leading
  have hreach : Decimal.leftShift d.numeral ≤ maxPlaces ↔
      -(maxPlaces : Int) ≤ d.digits.2 := by
    rw [hshift, hmax]
    split <;> omega
  rw [← hreach]
  obtain ⟨hcoefficient, hscale⟩ | ⟨hscaled, hlow, hhigh, hcoefficient,
      hscale⟩ := hparts
  · rw [Decimal.isSome_ofText? hread (by omega), hcoefficient, hscale]
    intro hmany
    rw [hcoefficient, hscale]
    refine ⟨?_, digits_fit hd⟩
    rw [hshift] at hmany
    unfold scale
    split at hmany <;> omega
  · have hnone : Decimal.leftShift d.numeral = 0 := by
      rw [hshift, if_neg (by omega)]
    have hnonzero : d.numeral.coefficient ≠ 0 := by
      rw [hcoefficient]
      exact Nat.ne_of_gt (Nat.mul_pos hpositive (tenTo_pos _))
    have hone : tenTo (-1 : Int).toNat = 1 := rfl
    have hfits : decimalValue d.digits.1 * tenTo (d.scale.toNat + 1) <
        decimalBound := by
      calc
        decimalValue d.digits.1 * tenTo (d.scale.toNat + 1)
          < tenTo d.digits.1.length * tenTo (d.scale.toNat + 1) :=
            Nat.mul_lt_mul_of_pos_right (decimalValue_lt hwritten.digit)
              (tenTo_pos _)
        _ = tenTo (d.digits.1.length + (d.scale.toNat + 1)) :=
          (tenTo_add _ _).symm
        _ ≤ tenTo 17 := tenTo_le (by unfold scale at hscaled ⊢; omega)
        _ ≤ decimalBound := by decide
    have hless : decimalValue d.digits.1 * tenTo d.scale.toNat <
        decimalBound := by
      refine Nat.lt_of_le_of_lt (Nat.mul_le_mul_left _ ?_) hfits
      exact tenTo_le (Nat.le_succ _)
    rw [Decimal.isSome_ofText? hread hnonzero (by omega), hcoefficient, hscale,
      hone, Nat.mul_one]
    simp [hfits, hless]

/-! ## The bounds of the numbers that are sent -/

/-- The sign takes no part in the digits. -/
theorem digits_congr {d' : Double} (h : d.magnitude = d'.magnitude) :
    d.digits = d'.digits := by
  have hshift : d.shift = d'.shift := by rw [shift, shift, h]
  have hsignificand : d.significand = d'.significand := by
    rw [significand, significand, h]
  have hunits : d.units = d'.units := by rw [units, units, hsignificand, hshift]
  have hinterval : d.interval = d'.interval := by
    simp only [interval, hshift, hunits, h]
  have hshortest : d.shortest = d'.shortest := by
    unfold shortest
    rw [hunits, hinterval]
  unfold digits
  rw [h, hshortest]

/-- The numbers that are sent as decimals: zero, and those from the unit of the
last place on and below the bound of coefficients. -/
def Sendable (d : Double) : Prop :=
  d.magnitude = 0 ∨
    magnitudeOf 1 (tenTo maxPlaces) ≤ d.magnitude ∧
    d.magnitude < magnitudeOf decimalBound 1

instance (d : Double) : Decidable d.Sendable :=
  inferInstanceAs (Decidable (_ ∨ _ ∧ _))

/-- The number nearest to a unit of the last place. -/
def leastSent : Double :=
  ⟨false, magnitudeOf 1 (tenTo maxPlaces), by decide +kernel⟩

theorem digits_leastSent : leastSent.digits = (['1'], -28) := by decide +kernel

/-- The bound of coefficients, which is a power of two. -/
def firstBeyond : Double :=
  ⟨false, magnitudeOf decimalBound 1, by decide +kernel⟩

theorem digits_firstBeyond :
    firstBeyond.digits = ("7922816251426434".toList, 28) := by
  decide +kernel

/-- The first digit is in reach exactly from a unit of the last place on. -/
theorem unit_le_iff (hd : d.magnitude ≠ 0) :
    -(maxPlaces : Int) ≤ d.digits.2 ↔
      magnitudeOf 1 (tenTo maxPlaces) ≤ d.magnitude := by
  have hwritten := writtenBy_digits hd
  have hencoding := magnitudeOf_digits hd
  have hpos := hwritten.length_pos
  have hexponent : d.digits.2 = d.scale + (d.digits.1.length - 1 : Nat) := by
    unfold scale
    omega
  have hmax : maxPlaces = 28 := rfl
  constructor
  · intro hreach
    rw [← hencoding]
    refine magnitudeOf_mono (tenTo_pos _) (tenTo_pos _) ?_
    calc
      1 * tenTo (-d.scale).toNat ≤
        tenTo (d.digits.1.length - 1) * tenTo d.scale.toNat *
          tenTo maxPlaces := by
        rw [Nat.one_mul, ← tenTo_add, ← tenTo_add]
        exact tenTo_le (by omega)
      _ ≤ decimalValue d.digits.1 * tenTo d.scale.toNat * tenTo maxPlaces :=
        Nat.mul_le_mul_right _ (Nat.mul_le_mul_right _ hwritten.leading)
  · intro hle
    by_contra hfar
    have hless : magnitudeOf (decimalValue d.digits.1 * tenTo d.scale.toNat)
        (tenTo (-d.scale).toNat) ≤ magnitudeOf 1 (tenTo maxPlaces) := by
      refine magnitudeOf_mono (tenTo_pos _) (tenTo_pos _) ?_
      calc
        decimalValue d.digits.1 * tenTo d.scale.toNat * tenTo maxPlaces
          ≤ tenTo d.digits.1.length * tenTo d.scale.toNat * tenTo maxPlaces :=
            Nat.mul_le_mul_right _ (Nat.mul_le_mul_right _
              (Nat.le_of_lt (decimalValue_lt hwritten.digit)))
        _ ≤ 1 * tenTo (-d.scale).toNat := by
          rw [Nat.one_mul, ← tenTo_add, ← tenTo_add]
          exact tenTo_le (by omega)
    rw [hencoding] at hless
    -- The number would be the least that is sent, and its first
    -- digit is in reach.
    have hsame : d.digits = leastSent.digits :=
      digits_congr (Nat.le_antisymm hless hle)
    rw [hsame, digits_leastSent] at hfar
    exact hfar (by decide)

/-- The digits in front of the point fit exactly below the bound
of coefficients. -/
theorem lt_bound_iff (hd : d.magnitude ≠ 0) :
    decimalValue d.digits.1 * tenTo d.scale.toNat < decimalBound ↔
      d.magnitude < magnitudeOf decimalBound 1 := by
  have hencoding := magnitudeOf_digits hd
  constructor
  · intro hfits
    have hle : d.magnitude ≤ magnitudeOf decimalBound 1 := by
      rw [← hencoding]
      refine magnitudeOf_mono (tenTo_pos _) Nat.one_pos ?_
      rw [Nat.mul_one]
      exact Nat.le_trans (Nat.le_of_lt hfits)
        (Nat.le_mul_of_pos_right _ (tenTo_pos _))
    refine Nat.lt_of_le_of_ne hle fun hsame => ?_
    -- The digits of the bound itself are rounded up.
    have hdigits : d.digits = firstBeyond.digits := digits_congr hsame
    unfold scale at hfits
    rw [hdigits, digits_firstBeyond] at hfits
    exact absurd hfits (by decide)
  · intro hless
    by_contra hgreat
    have hfront : (-d.scale).toNat = 0 := by
      by_contra hplaces
      have hzero : d.scale.toNat = 0 := by omega
      rw [hzero] at hgreat
      exact hgreat (by simpa [tenTo] using digits_fit hd)
    refine Nat.not_le.2 hless ?_
    rw [← hencoding, hfront]
    refine magnitudeOf_mono Nat.one_pos (tenTo_pos _) ?_
    exact Nat.mul_le_mul (Nat.not_lt.1 hgreat) (Nat.le_refl 1)

/-- The text of a number is sent exactly if the number is in the
range of decimals. -/
theorem isSome_ofText?_iff (d : Double) :
    (Decimal.ofText? d.toText).isSome = true ↔ d.Sendable := by
  by_cases hd : d.magnitude = 0
  · have hread := d.read?_toText
    rw [numeral_of_zero hd] at hread
    rw [Decimal.ofText?_of_zero hread rfl]
    simp [Sendable, hd]
  · rw [isSome_ofText?_toText hd, unit_le_iff hd, lt_bound_iff hd, Sendable,
      or_iff_right hd]

end Double

end TenantTables.Number
