import TenantTables.Export
import TenantTables.Import.Row
import TenantTables.Proofs.NumberText

/-!
# Cells that are read as they were written

An integer is written as an optional sign and digits. Such a text has no white
space, is none of the words for null, looks like a number and is read as the
integer. A text is read as itself unless the reader makes something else of it,
so an integer in the range of the reader and a text that is left alone are the
values that come back from their cells.
-/

namespace TenantTables

open Text (writesNumber_toDigits)
open Time (isBlank_of_digit)

namespace Number

theorem isDecimalDigit_of_digit {c : Char} (h : Text.isAsciiDigit c = true) :
    Text.isDecimalDigit c = true := by
  have hrange : (0x30, 0x39) ∈ Unicode.decimalDigits.ranges := by decide +kernel
  rw [Text.isAsciiDigit, Bool.and_eq_true, decide_eq_true_eq, decide_eq_true_eq]
    at h
  have hlow : 48 ≤ c.toNat := h.1
  have hhigh : c.toNat ≤ 57 := h.2
  refine List.any_eq_true.2 ⟨_, hrange, ?_⟩
  simp [hlow, hhigh]

theorem char_of_toString {n : Int} {c : Char} (h : c ∈ (toString n).toList) :
    c = '-' ∨ Text.isAsciiDigit c = true := by
  rw [toList_toString] at h
  split at h
  · exact (List.mem_cons.1 h).imp_right ((writesNumber_toDigits _).digits c)
  · exact .inr ((writesNumber_toDigits _).digits c h)

theorem not_blank_of_toString {n : Int} {c : Char}
    (h : c ∈ (toString n).toList) :
    Text.isBlank c = false := by
  obtain rfl | hdigit := char_of_toString h
  · rfl
  · exact isBlank_of_digit hdigit

theorem trimChars_toString (n : Int) :
    Text.trimChars (toString n).toList = (toString n).toList :=
  Text.trimChars_eq_self (fun _ hc =>
    not_blank_of_toString (List.mem_of_mem_head? hc))
    fun _ hc => not_blank_of_toString (List.mem_of_getLast? hc)

theorem isNumeric_toString (n : Int) : isNumeric (toString n) = true := by
  have hdigits : ∀ c ∈ Nat.toDigits 10 n.natAbs, Text.isDecimalDigit c = true :=
    fun c hc =>
    isDecimalDigit_of_digit ((writesNumber_toDigits _).digits c hc)
  have htake : (Nat.toDigits 10 n.natAbs).takeWhile Text.isDecimalDigit =
      Nat.toDigits 10 n.natAbs := List.takeWhile_eq_self_iff.2 hdigits
  have hdrop : (Nat.toDigits 10 n.natAbs).dropWhile Text.isDecimalDigit = [] :=
    List.dropWhile_eq_nil_iff.2 hdigits
  have hempty : (Nat.toDigits 10 n.natAbs).isEmpty = false :=
    List.isEmpty_eq_false_iff.2 Nat.toDigits_ne_nil
  rw [isNumeric, trimChars_toString, Numeral.read?, takeSign_toString]
  dsimp only
  rw [htake, hdrop, hempty]
  rfl

end Number

namespace Import

open Json (Value Object)

theorem toString_not_null_word (n : Int) :
    nullWords.contains (Text.lower (toString n)) = false := by
  have hlower : Text.lower (toString n) = toString n := by
    refine Text.lower_eq_self fun c hc => ?_
    obtain rfl | hdigit := Number.char_of_toString hc
    · rfl
    · rw [Text.isAsciiDigit, Bool.and_eq_true, decide_eq_true_eq,
        decide_eq_true_eq] at hdigit
      have hlow : 48 ≤ c.toNat := hdigit.1
      have hhigh : c.toNat ≤ 57 := hdigit.2
      exact Text.isLowerAlready_of_toNat (by omega) (by omega)
  have hletter : nullWords.all (fun word =>
      word.toList.any fun c =>
        decide (c ≠ '-' ∧ Text.isAsciiDigit c = false)) = true := by
    decide
  rw [hlower]
  refine Bool.eq_false_iff.2 fun hcontains => ?_
  obtain ⟨c, hc, hother⟩ :=
    List.any_eq_true.1
      (List.all_eq_true.1 hletter _ (List.contains_iff_mem.1 hcontains))
  obtain ⟨hne, hdigit⟩ := of_decide_eq_true hother
  obtain rfl | h := Number.char_of_toString hc
  · exact hne rfl
  · rw [h] at hdigit
    exact absurd hdigit (by decide)

theorem readCell_toString {n : Int} (h : Number.isInt64 n = true) :
    readCell (toString n) = .int n := by
  have htrim : Text.trim (toString n) = toString n := by
    rw [Text.trim, Number.trimChars_toString, String.ofList_toList]
  rw [readCell, htrim, toString_not_null_word, if_neg Bool.false_ne_true,
    Number.isNumeric_toString, if_pos rfl, Number.readInt64?_toString h]

/-- A value that comes back from its cell. -/
def IsCell (v : Value) : Prop :=
  (∃ n, v = .int n ∧ Number.isInt64 n = true) ∨ ∃ s,
    v = .str s ∧ readCell s = .str s

theorem readCell_exportCell {v : Value} (h : IsCell v) :
    readCell (exportCell v) = v := by
  obtain ⟨n, rfl, hn⟩ | ⟨s, rfl, hs⟩ := h
  · exact readCell_toString hn
  · exact hs

end Import

end TenantTables
