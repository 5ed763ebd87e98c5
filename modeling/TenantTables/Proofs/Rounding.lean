import Mathlib.Data.Nat.Log
import Mathlib.Tactic.Ring
import TenantTables.Number.Reading

/-!
# Rounding keeps the order

An integer and a decimal numeral both become the binary64 number that is
nearest. A greater number never becomes a lesser one: within one binade the
nearest multiple of a unit grows with the number, and the first number of a
later binade is at least what the earlier one is rounded up to. So rounding
loses a difference or keeps it, and never turns it around.
-/

namespace TenantTables.Number

theorem nearest_of_dvd {m den : Nat} (hden : 0 < den) :
    nearest (m * den) den = m := by
  have hdiv : m * den / den = m := Nat.mul_div_cancel m hden
  have hmod : m * den % den = 0 := Nat.mul_mod_left m den
  unfold nearest
  dsimp only
  rw [hdiv, hmod, if_pos (by omega)]

theorem floor_mono {a b c d : Nat} (hb : 0 < b) (hd : 0 < d)
    (h : a * d ≤ c * b) :
    a / b ≤ c / d := by
  rw [Nat.le_div_iff_mul_le hd]
  refine Nat.le_of_mul_le_mul_right ?_ hb
  calc
    a / b * d * b = a / b * b * d := Nat.mul_right_comm _ _ _
    _ ≤ a * d := Nat.mul_le_mul_right d (Nat.div_mul_le_self a b)
    _ ≤ c * b := h

/-- The nearest whole number grows with the ratio. -/
theorem nearest_mono {a b c d : Nat} (hb : 0 < b) (hd : 0 < d)
    (h : a * d ≤ c * b) :
    nearest a b ≤ nearest c d := by
  have hfloor := floor_mono hb hd h
  have hup : nearest a b ≤ a / b + 1 := by
    unfold nearest
    dsimp only
    split
    · omega
    · split <;> omega
  have hdown : c / d ≤ nearest c d := by
    unfold nearest
    dsimp only
    split
    · omega
    · split <;> omega
  rcases Nat.lt_or_eq_of_le hfloor with hlt | heq
  · exact Nat.le_trans hup (Nat.le_trans hlt hdown)
  · -- With equal floors the remainders decide, as parts of their denominators.
    have ha := Nat.div_add_mod a b
    have hc := Nat.div_add_mod c d
    have hpart : a % b * d ≤ c % d * b := by
      rw [← ha, ← hc, heq] at h
      have hexpand : (b * (c / d) + a % b) * d ≤ (d * (c / d) + c % d) * b := h
      have hleft : (b * (c / d) + a % b) * d = b * d * (c / d) + a % b * d := by
        ring
      have hright :
          (d * (c / d) + c % d) * b = b * d * (c / d) + c % d * b := by ring
      omega
    have hhalf : b ≤ 2 * (a % b) → d ≤ 2 * (c % d) := fun hle => by
      refine Nat.le_of_mul_le_mul_right ?_ hb
      calc
        d * b = b * d := Nat.mul_comm d b
        _ ≤ 2 * (a % b) * d := Nat.mul_le_mul_right d hle
        _ = 2 * (a % b * d) := Nat.mul_assoc _ _ _
        _ ≤ 2 * (c % d * b) := Nat.mul_le_mul_left 2 hpart
        _ = 2 * (c % d) * b := (Nat.mul_assoc _ _ _).symm
    have habove : b < 2 * (a % b) → d < 2 * (c % d) := fun hlt => by
      refine Nat.lt_of_mul_lt_mul_right (a := b) ?_
      calc
        d * b = b * d := Nat.mul_comm d b
        _ < 2 * (a % b) * d := Nat.mul_lt_mul_of_pos_right hlt hd
        _ = 2 * (a % b * d) := Nat.mul_assoc _ _ _
        _ ≤ 2 * (c % d * b) := Nat.mul_le_mul_left 2 hpart
        _ = 2 * (c % d) * b := (Nat.mul_assoc _ _ _).symm
    unfold nearest
    dsimp only
    rw [heq]
    split
    · exact hdown
    · split
      · rw [if_neg (by omega), if_pos (habove (by omega))]
      · rw [if_neg (by omega)]
        split <;> omega

/-! ## Encodings -/

theorem twoTo_eq (n : Nat) : twoTo n = 2 ^ n := rfl

theorem twoTo_add (m n : Nat) : twoTo (m + n) = twoTo m * twoTo n :=
  Nat.pow_add 2 m n

theorem twoTo_pos (n : Nat) : 0 < twoTo n := Nat.pow_pos (by decide)

theorem tenTo_pos (n : Nat) : 0 < tenTo n := Nat.pow_pos (by decide)

namespace Double

/-- The binade of a ratio: how many bits more it has than fifty-three. -/
def binade (p b : Nat) : Nat := (p / b).log2 - 52

variable {p b q d : Nat}

/-- Within its binade a ratio is rounded up to the next one at most. -/
theorem nearest_le (hb : 0 < b) :
    nearest p (b * twoTo (binade p b)) ≤ twoTo 53 := by
  have hunit : 0 < b * twoTo (binade p b) := Nat.mul_pos hb (twoTo_pos _)
  have hbits : p < twoTo ((p / b).log2 + 1) * b :=
    (Nat.div_lt_iff_lt_mul hb).1 Nat.lt_log2_self
  have hbound : p ≤ twoTo 53 * (b * twoTo (binade p b)) := by
    calc
      p ≤ twoTo ((p / b).log2 + 1) * b := Nat.le_of_lt hbits
      _ ≤ twoTo (53 + binade p b) * b :=
        Nat.mul_le_mul_right b
          (Nat.pow_le_pow_right (by decide) (by unfold binade; omega))
      _ = twoTo 53 * (b * twoTo (binade p b)) := by
        rw [twoTo_add]
        ring
  calc
    nearest p (b * twoTo (binade p b))
      ≤ nearest (twoTo 53 * (b * twoTo (binade p b)))
          (b * twoTo (binade p b)) :=
        nearest_mono hunit hunit (Nat.mul_le_mul_right _ hbound)
    _ = twoTo 53 := nearest_of_dvd hunit

/-- Beyond the first binade no ratio is rounded below the first
number of its own. -/
theorem le_nearest (hd : 0 < d) (h : 0 < binade q d) :
    twoTo 52 ≤ nearest q (d * twoTo (binade q d)) := by
  have hunit : 0 < d * twoTo (binade q d) := Nat.mul_pos hd (twoTo_pos _)
  have hlog : 52 + binade q d = (q / d).log2 := by
    unfold binade at h ⊢
    omega
  have hne : q / d ≠ 0 := by
    intro hzero
    rw [binade, hzero] at h
    exact absurd h (by decide)
  have hbits : twoTo (52 + binade q d) ≤ q / d := by
    rw [hlog]
    exact Nat.log2_self_le hne
  have hbound : twoTo 52 * (d * twoTo (binade q d)) ≤ q := by
    calc
      twoTo 52 * (d * twoTo (binade q d)) = twoTo (52 + binade q d) * d := by
        rw [twoTo_add]
        ring
      _ ≤ q := (Nat.le_div_iff_mul_le hd).1 hbits
  calc
    twoTo 52 =
        nearest (twoTo 52 * (d * twoTo (binade q d)))
          (d * twoTo (binade q d)) := (nearest_of_dvd hunit).symm
    _ ≤ nearest q (d * twoTo (binade q d)) :=
      nearest_mono hunit hunit (Nat.mul_le_mul_right _ hbound)

/-- The encoding grows with the ratio. -/
theorem magnitudeOf_mono {num den num' den' : Nat} (hden : 0 < den)
    (hden' : 0 < den') (h : num * den' ≤ num' * den) :
    magnitudeOf num den ≤ magnitudeOf num' den' := by
  have hscaled : num * twoTo 1074 * den' ≤ num' * twoTo 1074 * den := by
    calc
      num * twoTo 1074 * den' = num * den' * twoTo 1074 :=
        Nat.mul_right_comm _ _ _
      _ ≤ num' * den * twoTo 1074 := Nat.mul_le_mul_right _ h
      _ = num' * twoTo 1074 * den := Nat.mul_right_comm _ _ _
  unfold magnitudeOf
  generalize num * twoTo 1074 = p at hscaled ⊢
  generalize num' * twoTo 1074 = q at hscaled ⊢
  show binade p den * twoTo 52 + nearest p (den * twoTo (binade p den)) ≤
    binade q den' * twoTo 52 + nearest q (den' * twoTo (binade q den'))
  have hbinade : binade p den ≤ binade q den' := by
    have hfloor := floor_mono hden hden' hscaled
    have hlog : (p / den).log2 ≤ (q / den').log2 := by
      rw [Nat.log2_eq_log_two, Nat.log2_eq_log_two]
      exact Nat.log_mono_right hfloor
    unfold binade
    omega
  rcases Nat.lt_or_eq_of_le hbinade with hlt | heq
  · have hup := nearest_le (p := p) hden
    have hdown := le_nearest (q := q) hden' (by omega)
    have hstep : twoTo 53 = 2 * twoTo 52 := by decide
    have hnext : (binade p den + 1) * twoTo 52 ≤ binade q den' * twoTo 52 :=
      Nat.mul_le_mul_right _ hlt
    rw [Nat.add_mul] at hnext
    omega
  · rw [heq]
    refine Nat.add_le_add_left ?_ _
    have hunit : 0 < twoTo (binade q den') := twoTo_pos _
    refine nearest_mono (Nat.mul_pos hden hunit) (Nat.mul_pos hden' hunit) ?_
    rw [← Nat.mul_assoc, ← Nat.mul_assoc]
    exact Nat.mul_le_mul_right _ hscaled

/-- A ratio below half of the least positive number becomes zero. -/
theorem magnitudeOf_eq_zero {num den : Nat} (h : 2 * (num * twoTo 1074) < den) :
    magnitudeOf num den = 0 := by
  have hfloor : num * twoTo 1074 / den = 0 := Nat.div_eq_of_lt (by omega)
  have hrest : num * twoTo 1074 % den = num * twoTo 1074 :=
    Nat.mod_eq_of_lt (by omega)
  have hbinade : (num * twoTo 1074 / den).log2 - 52 = 0 := by
    rw [hfloor]
    rfl
  have hunit : twoTo 0 = 1 := rfl
  unfold magnitudeOf nearest
  dsimp only
  rw [hbinade, hunit, Nat.mul_one, hfloor, hrest, if_pos h, Nat.zero_mul]

/-- The signed encoding of a ratio. -/
def keyOf (num : Int) (den : Nat) : Int :=
  if num < 0 then -(magnitudeOf num.natAbs den : Int)
  else magnitudeOf num.natAbs den

theorem keyOf_zero {den : Nat} (hden : 0 < den) : keyOf 0 den = 0 := by
  have hzero : magnitudeOf 0 den = 0 := magnitudeOf_eq_zero (by omega)
  rw [keyOf, if_neg (by decide), Int.natAbs_zero, hzero]
  rfl

/-- The signed encoding grows with the ratio. -/
theorem keyOf_mono {num num' : Int} {den den' : Nat} (hden : 0 < den)
    (hden' : 0 < den') (h : num * den' ≤ num' * den) :
    keyOf num den ≤ keyOf num' den' := by
  unfold keyOf
  by_cases hneg : num < 0
  · by_cases hneg' : num' < 0
    · have hswap : num'.natAbs * den ≤ num.natAbs * den' := by
        have hcast : (num'.natAbs * den : Int) ≤ num.natAbs * den' := by
          rw [Int.ofNat_natAbs_of_nonpos (by omega),
            Int.ofNat_natAbs_of_nonpos (by omega), Int.neg_mul, Int.neg_mul]
          omega
        exact_mod_cast hcast
      have hle := magnitudeOf_mono hden' hden hswap
      rw [if_pos hneg, if_pos hneg']
      omega
    · rw [if_pos hneg, if_neg hneg']
      omega
  · by_cases hneg' : num' < 0
    · have hleft : 0 ≤ num * den' := Int.mul_nonneg (by omega) (by omega)
      have hright : num' * den < 0 := Int.mul_neg_of_neg_of_pos hneg' (by omega)
      omega
    · have hsame : num.natAbs * den' ≤ num'.natAbs * den := by
        have hcast : (num.natAbs * den' : Int) ≤ num'.natAbs * den := by
          rwa [Int.natAbs_of_nonneg (by omega), Int.natAbs_of_nonneg (by omega)]
        exact_mod_cast hcast
      have hle := magnitudeOf_mono hden hden' hsame
      rw [if_neg hneg, if_neg hneg']
      omega

/-! ## Integers and numerals -/

theorem key_ofInt {n : Int} (h : n.natAbs ≤ twoTo 64) :
    (ofInt n).key = keyOf n 1 := by
  have hfinite : magnitudeOf n.natAbs 1 < firstInfinite := by
    have hlast : magnitudeOf (twoTo 64) 1 < firstInfinite := by decide +kernel
    exact Nat.lt_of_le_of_lt
      (magnitudeOf_mono Nat.one_pos Nat.one_pos (by omega)) hlast
  rw [ofInt, Nat.min_eq_left h, ofRatio?, ofMagnitude?, dif_pos hfinite,
    Option.getD_some, key, keyOf]
  simp only [decide_eq_true_eq]

/-- Where a decimal is recognised as too small, it is one. -/
theorem tiny_of_log2 {coefficient : Nat} {exponent : Int}
    (h : (coefficient.log2 : Int) + 1076 < -3 * exponent) :
    2 * (coefficient * twoTo 1074) < tenTo (-exponent).toNat := by
  have hbits : coefficient < twoTo (coefficient.log2 + 1) := Nat.lt_log2_self
  have height : ∀ k, twoTo (3 * k) ≤ tenTo k := fun k => by
    rw [twoTo_eq, Nat.pow_mul]
    exact Nat.pow_le_pow_left (by decide) k
  have hdouble : twoTo (1074 + 1) = twoTo 1074 * twoTo 1 := twoTo_add 1074 1
  have htwo : twoTo 1 = 2 := rfl
  calc
    2 * (coefficient * twoTo 1074) = coefficient * twoTo (1074 + 1) := by
      rw [hdouble, htwo]
      ring
    _ < twoTo (coefficient.log2 + 1) * twoTo (1074 + 1) :=
      Nat.mul_lt_mul_of_pos_right hbits (twoTo_pos _)
    _ = twoTo (coefficient.log2 + 1 + (1074 + 1)) := (twoTo_add _ _).symm
    _ ≤ twoTo (3 * (-exponent).toNat) :=
      Nat.pow_le_pow_right (by decide) (by omega)
    _ ≤ tenTo (-exponent).toNat := height _

/-- An integer with a sign of its own. -/
def signedInt (negative : Bool) (n : Nat) : Int :=
  if negative then -(n : Int) else n

theorem keyOf_signedInt {negative : Bool} {num den : Nat} (hden : 0 < den) :
    keyOf (signedInt negative num) den =
      if negative then -(magnitudeOf num den : Int)
        else magnitudeOf num den := by
  cases negative with
  | false => exact if_neg (by simp [signedInt])
  | true =>
      by_cases hzero : num = 0
      · rw [hzero, magnitudeOf_eq_zero (by omega)]
        exact keyOf_zero hden
      · rw [keyOf, signedInt, if_pos rfl, if_pos (by omega), Int.natAbs_neg,
          Int.natAbs_natCast, if_pos rfl]

/-- The number that a decimal is read as has the encoding of the decimal. -/
theorem key_of_ofDecimal? {negative : Bool} {coefficient : Nat} {exponent : Int}
    {d : Double} (h : ofDecimal? negative coefficient exponent = some d) :
    d.key = keyOf (signedInt negative (coefficient * tenTo exponent.toNat))
      (tenTo (-exponent).toNat) := by
  have hzero : (zero negative).key = if negative then -((0 : Nat) : Int)
      else (0 : Nat) := rfl
  rw [keyOf_signedInt (tenTo_pos _)]
  unfold ofDecimal? at h
  split at h
  · next hcoefficient =>
      obtain rfl := Option.some.inj h
      rw [hcoefficient, Nat.zero_mul, magnitudeOf_eq_zero (by
        rw [Nat.zero_mul]
        exact tenTo_pos _), hzero]
  · split at h
    · cases h
    · split at h
      · next htiny =>
          obtain rfl := Option.some.inj h
          have hwhole : tenTo exponent.toNat = 1 := by
            rw [Int.toNat_of_nonpos (by omega)]
            rfl
          rw [hwhole, Nat.mul_one,
            magnitudeOf_eq_zero (tiny_of_log2 htiny), hzero]
      · unfold ofRatio? ofMagnitude? at h
        split at h
        · obtain rfl := Option.some.inj h
          rfl
        · cases h

end Double

namespace Numeral

/-- A numeral as a ratio. -/
def numerator (m : Numeral) : Int :=
  Double.signedInt m.negative (m.coefficient * tenTo m.scale.toNat)

def denominator (m : Numeral) : Nat := tenTo (-m.scale).toNat

/-- The order of two numerals as they are written. -/
def order (a b : Numeral) : Ordering :=
  compare (a.numerator * b.denominator) (b.numerator * a.denominator)

/-- A number has the encoding that a numeral is rounded to. -/
def RoundsTo (m : Numeral) (d : Double) : Prop :=
  d.key = Double.keyOf m.numerator m.denominator

theorem roundsTo_of_toExtended {m : Numeral} {d : Double}
    (h : m.toExtended = .finite d) : m.RoundsTo d := by
  unfold toExtended at h
  split at h
  · next heq =>
      obtain rfl := Extended.finite.inj h
      exact Double.key_of_ofDecimal? heq
  · cases h

/-- Numbers compare as the numerals that are rounded to them, unless both are
rounded to one number and differ. -/
theorem RoundsTo.compare_iff {a b : Numeral} {x y : Double} (hx : a.RoundsTo x)
    (hy : b.RoundsTo y) : x.compare y = a.order b ↔
      (x.compare y = .eq → a.order b = .eq) := by
  have ha : 0 < a.denominator := tenTo_pos _
  have hb : 0 < b.denominator := tenTo_pos _
  have hle : a.numerator * b.denominator ≤ b.numerator * a.denominator →
      x.key ≤ y.key := fun h => hx ▸ hy ▸ Double.keyOf_mono ha hb h
  have hge : b.numerator * a.denominator ≤ a.numerator * b.denominator →
      y.key ≤ x.key := fun h => hx ▸ hy ▸ Double.keyOf_mono hb ha h
  unfold Double.compare order
  refine ⟨fun heq hsame => heq ▸ hsame, fun hkeep => ?_⟩
  rcases Int.lt_trichotomy (a.numerator * b.denominator)
    (b.numerator * a.denominator) with hlt | heq | hgt
  · have hne : x.key ≠ y.key := fun hsame => by
      rw [compare_eq_iff_eq.2 hsame, compare_lt_iff_lt.2 hlt] at hkeep
      exact absurd (hkeep rfl) (by decide)
    rw [compare_lt_iff_lt.2 hlt,
      compare_lt_iff_lt.2 (lt_of_le_of_ne (hle (Int.le_of_lt hlt)) hne)]
  · rw [compare_eq_iff_eq.2 heq, compare_eq_iff_eq.2
      (Int.le_antisymm (hle (Int.le_of_eq heq)) (hge (Int.le_of_eq heq.symm)))]
  · have hne : y.key ≠ x.key := fun hsame => by
      rw [compare_eq_iff_eq.2 hsame.symm, compare_gt_iff_gt.2 hgt] at hkeep
      exact absurd (hkeep rfl) (by decide)
    rw [compare_gt_iff_gt.2 hgt,
      compare_gt_iff_gt.2 (lt_of_le_of_ne (hge (Int.le_of_lt hgt)) hne)]

end Numeral

-- The first integer that is not read as itself.
example :
    (Double.ofInt 9007199254740993).compare
      (Double.ofInt 9007199254740992) = .eq := by
  decide +kernel

/-- The numeral of a literal, which is trimmed. -/
def literalNumeral? (s : String) : Option Numeral :=
  Numeral.read? Text.isAsciiDigit (Text.trimChars s.toList)

/-- A literal that is a number is a numeral. -/
theorem literalNumeral?_of_literalValue? {s : String} {d : Double}
    (h : literalValue? s = some d) :
    ∃ m, literalNumeral? s = some m ∧ m.toExtended = .finite d := by
  unfold literalValue? readDouble? readExtended? at h
  rw [Text.trim, String.toList_ofList] at h
  unfold literalNumeral?
  split at h
  · cases hread : Numeral.read? Text.isAsciiDigit (Text.trimChars s.toList) with
    | none =>
        rw [hread] at h
        dsimp only at h
        split at h
        · next heq => split at heq <;> cases heq
        · cases h
    | some m =>
        rw [hread] at h
        dsimp only at h
        split at h
        · next heq =>
            obtain rfl := Option.some.inj h
            exact ⟨m, rfl, Option.some.inj heq⟩
        · cases h
  · cases h

/-- A finite number is read from the numerals of finite numbers. -/
theorem readDouble?_trim_iff {s : String} :
    (∃ d, readDouble? (Text.trim s) = some d) ↔
      ∃ n d, literalNumeral? s = some n ∧ n.toExtended = .finite d := by
  have hchars : (Text.trim s).toList = Text.trimChars s.toList := by
    rw [Text.trim, String.toList_ofList]
  unfold readDouble? readExtended? literalNumeral?
  rw [hchars]
  cases Numeral.read? Text.isAsciiDigit (Text.trimChars s.toList) with
  | none =>
      -- The names of infinity and NaN are no numbers either.
      refine iff_of_false ?_ (by simp)
      rintro ⟨d, hd⟩
      dsimp only at hd
      split at hd
      · next hread => split at hread <;> cases hread
      · cases hd
  | some n =>
      constructor
      · rintro ⟨d, hd⟩
        dsimp only at hd
        split at hd
        · next e hfinite => exact ⟨n, e, rfl, Option.some.inj hfinite⟩
        · cases hd
      · rintro ⟨m, d, hm, hfinite⟩
        obtain rfl := Option.some.inj hm
        refine ⟨d, ?_⟩
        dsimp only
        rw [hfinite]

end TenantTables.Number
