import Mathlib.Algebra.Group.Nat.Defs
import Mathlib.Order.Lattice
import TenantTables.Proofs.TextOrder
import TenantTables.Text.Class

/-!
# Numbers in digits

A number is written in digits of base ten. With equally many digits, also where
zeros lead, texts are in the order of the numbers that they write, since the
first digit that differs decides both.
-/

namespace TenantTables.Text

/-- ASCII digits that write a number in base ten. -/
structure WritesNumber (cs : List Char) (n : Nat) : Prop where
  digits : ∀ c ∈ cs, isAsciiDigit c = true
  value : decimalValue cs = n

theorem isAsciiDigit_eq : isAsciiDigit = Char.isDigit := rfl

theorem decimalValue_eq (cs : List Char) :
    decimalValue cs = Nat.ofDigitChars 10 cs 0 := rfl

theorem writesNumber_toDigits (n : Nat) :
    WritesNumber (Nat.toDigits 10 n) n where
  digits c hc := by
    rw [isAsciiDigit_eq]
    exact Nat.isDigit_of_mem_toDigits (by decide) (by decide) hc
  value := by rw [decimalValue_eq, Nat.ofDigitChars_ten_toDigits]

/-- Digits write less than the power of ten that their number gives. -/
theorem decimalValue_lt {digits : List Char}
    (h : ∀ c ∈ digits, isAsciiDigit c = true) :
    decimalValue digits < 10 ^ digits.length := by
  have hfrom : ∀ init,
      Nat.ofDigitChars 10 digits init < (init + 1) * 10 ^ digits.length := by
    induction digits with
    | nil => exact fun init => by simp [Nat.ofDigitChars]
    | cons c digits ih =>
        intro init
        rw [List.forall_mem_cons] at h
        have hdigit : c.toNat - '0'.toNat ≤ 9 := by
          have hvalue := h.1
          rw [isAsciiDigit, Bool.and_eq_true, decide_eq_true_eq,
            decide_eq_true_eq] at hvalue
          have hhigh : c.toNat ≤ 57 := hvalue.2
          have hzero : '0'.toNat = 48 := rfl
          omega
        rw [Nat.ofDigitChars_cons, List.length_cons, Nat.pow_succ]
        calc
          Nat.ofDigitChars 10 digits (10 * init + (c.toNat - '0'.toNat))
            < (10 * init + (c.toNat - '0'.toNat) + 1) * 10 ^ digits.length :=
              ih h.2 _
          _ ≤ (init + 1) * 10 * 10 ^ digits.length :=
            Nat.mul_le_mul_right _ (by omega)
          _ = (init + 1) * (10 ^ digits.length * 10) := by
            rw [Nat.mul_assoc, Nat.mul_comm 10]
  simpa [decimalValue_eq] using hfrom 0

/-! ## Comparing numbers -/

theorem compare_congr {α β : Type} [LinearOrder α] [LinearOrder β] {a b : α}
    {c d : β} (hlt : a < b ↔ c < d) (hgt : b < a ↔ d < c) :
    compare a b = compare c d := by
  rcases lt_trichotomy a b with hless | rfl | hmore
  · rw [compare_lt_iff_lt.2 hless, compare_lt_iff_lt.2 (hlt.1 hless)]
  · have heq : c = d := le_antisymm (not_lt.1 fun h => lt_irrefl a (hgt.2 h))
      (not_lt.1 fun h => lt_irrefl a (hlt.2 h))
    rw [compare_eq_iff_eq.2 rfl, compare_eq_iff_eq.2 heq]
  · rw [compare_gt_iff_gt.2 hmore, compare_gt_iff_gt.2 (hgt.1 hmore)]

theorem compare_sub {a b n : Nat} (ha : a ≤ n) (hb : b ≤ n) :
    compare (n - a) (n - b) = compare b a :=
  compare_congr (by omega) (by omega)

/-- A greater digit in front decides, whatever the numbers behind it are. -/
theorem compare_leading {a b m n scale : Nat} (hm : m < scale)
    (hn : n < scale) :
    compare (scale * a + m) (scale * b + n) =
      (compare a b).then (compare m n) := by
  rcases Nat.lt_trichotomy a b with hless | rfl | hmore
  · have hstep : scale * a + scale ≤ scale * b :=
      Nat.mul_le_mul_left scale hless
    rw [Nat.compare_eq_lt.2 hless, Nat.compare_eq_lt.2 (by omega)]
    rfl
  · rw [Std.compare_self, Nat.compare_eq_ite_lt, Nat.compare_eq_ite_lt]
    simp only [Nat.add_lt_add_iff_left]
    rfl
  · have hstep : scale * b + scale ≤ scale * a :=
      Nat.mul_le_mul_left scale hmore
    rw [Nat.compare_eq_gt.2 hmore, Nat.compare_eq_gt.2 (by omega)]
    rfl

/-! ## Comparing digits -/

/-- The first digit of a number, and the number behind it. -/
theorem decimalValue_cons (c : Char) (cs : List Char) :
    decimalValue (c :: cs) =
      10 ^ cs.length * (c.toNat - '0'.toNat) + decimalValue cs := by
  rw [decimalValue_eq, decimalValue_eq, Nat.ofDigitChars_cons,
    Nat.ofDigitChars_eq_ofDigitChars_zero, Nat.mul_zero, Nat.zero_add]

theorem zero_le_of_isAsciiDigit {c : Char} (h : isAsciiDigit c = true) :
    '0'.toNat ≤ c.toNat := by
  rw [isAsciiDigit, Bool.and_eq_true, decide_eq_true_eq] at h
  exact h.1

theorem length_toDigits {n width : Nat} (hwidth : 0 < width)
    (h : 10 ^ width ≤ n ∧ n < 10 ^ (width + 1)) :
    (Nat.toDigits 10 n).length = width + 1 := by
  have hmost :=
    (Nat.length_toDigits_le_iff (by decide) (Nat.succ_pos width)).2 h.2
  have hmore : ¬ (Nat.toDigits 10 n).length ≤ width := fun hle =>
    Nat.not_lt.2 h.1 ((Nat.length_toDigits_le_iff (by decide) hwidth).1 hle)
  omega

/-- Digits that are equally many are in the order of the numbers they write,
also where zeros lead. -/
theorem orderChars_of_digits {cs ds : List Char}
    (hc : ∀ c ∈ cs, isAsciiDigit c = true)
    (hd : ∀ d ∈ ds, isAsciiDigit d = true) (hlength : cs.length = ds.length) :
    orderChars cs ds = compare (decimalValue cs) (decimalValue ds) := by
  induction cs generalizing ds with
  | nil =>
      rw [List.length_eq_zero_iff.1 hlength.symm]
      rfl
  | cons c cs ih =>
      cases ds with
      | nil => cases hlength
      | cons d ds =>
          obtain ⟨hc, hcs⟩ := List.forall_mem_cons.1 hc
          obtain ⟨hd, hds⟩ := List.forall_mem_cons.1 hd
          have hlength : cs.length = ds.length := Nat.succ.inj hlength
          have hdigit : compare (c.toNat - '0'.toNat) (d.toNat - '0'.toNat) =
              compare c.toNat d.toNat := by
            have hzero := zero_le_of_isAsciiDigit hc
            have hzero' := zero_le_of_isAsciiDigit hd
            exact compare_congr (by omega) (by omega)
          rw [orderChars_cons, ih hcs hds hlength, decimalValue_cons,
            decimalValue_cons, hlength,
            compare_leading (hlength ▸ decimalValue_lt hcs)
              (decimalValue_lt hds), hdigit]

theorem orderChars_toDigits {m n width : Nat} (hwidth : 0 < width)
    (hm : 10 ^ width ≤ m ∧ m < 10 ^ (width + 1))
    (hn : 10 ^ width ≤ n ∧ n < 10 ^ (width + 1)) :
    orderChars (Nat.toDigits 10 m) (Nat.toDigits 10 n) = compare m n := by
  have hwrites := writesNumber_toDigits m
  have hwrites' := writesNumber_toDigits n
  have hlength : (Nat.toDigits 10 m).length = (Nat.toDigits 10 n).length := by
    rw [length_toDigits hwidth hm, length_toDigits hwidth hn]
  rw [orderChars_of_digits hwrites.digits hwrites'.digits hlength,
    hwrites.value, hwrites'.value]

end TenantTables.Text
