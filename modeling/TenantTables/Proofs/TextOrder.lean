import Mathlib.Data.List.Basic
import TenantTables.Text.Order

/-!
# The order of texts

Texts are compared character by character, and a text stands in front of all
that go on behind it. That is an order: only equal texts compare as equal,
and what is turned around compares the other way. Where texts are put
together from parts, the parts can be compared one after the other as long as
they are equally long.
-/

namespace TenantTables.Text

theorem orderChars_eq (cs ds : List Char) :
    orderChars cs ds = List.compareLex (compareOn Char.toNat) cs ds := by
  induction cs generalizing ds with
  | nil => cases ds <;> rfl
  | cons c cs ih =>
      cases ds with
      | nil => rfl
      | cons d ds =>
          rw [orderChars, List.compareLex_cons_cons, ih, compareOn,
            Nat.compare_eq_ite_lt]
          split
          · rfl
          · split <;> rfl

theorem order_swap (a b : String) : order b a = (order a b).swap := by
  simp only [order, orderChars_eq]
  exact Std.OrientedCmp.eq_swap

instance : Std.TransCmp order where
  eq_swap := order_swap _ _
  isLE_trans {a b c} hab hbc := by
    simp only [order, orderChars_eq] at hab hbc ⊢
    exact Std.TransCmp.isLE_trans hab hbc

theorem orderChars_eq_iff {cs ds : List Char} :
    orderChars cs ds = .eq ↔ cs = ds := by
  induction cs generalizing ds with
  | nil => cases ds <;> simp [orderChars]
  | cons c cs ih =>
      cases ds with
      | nil => simp [orderChars]
      | cons d ds =>
          rw [orderChars, List.cons.injEq, ← Char.toNat_inj]
          split
          · next hlt => exact iff_of_false (by simp) fun h => by omega
          · split
            · next hgt => exact iff_of_false (by simp) fun h => by omega
            · rw [ih]
              exact ⟨fun h => ⟨by omega, h⟩, And.right⟩

theorem order_eq_iff {a b : String} : order a b = .eq ↔ a = b := by
  rw [order, orderChars_eq_iff, String.toList_inj]

/-! ## Texts in parts -/

theorem orderChars_cons (c d : Char) (cs ds : List Char) :
    orderChars (c :: cs) (d :: ds) =
      (compare c.toNat d.toNat).then (orderChars cs ds) := by
  rw [orderChars_eq, List.compareLex_cons_cons, ← orderChars_eq, compareOn]

/-- Texts in parts of equal length are in the order of their parts. -/
theorem orderChars_append {as bs : List Char} (h : as.length = bs.length)
    (cs ds : List Char) :
    orderChars (as ++ cs) (bs ++ ds) =
      (orderChars as bs).then (orderChars cs ds) := by
  induction as generalizing bs with
  | nil =>
      rw [List.length_eq_zero_iff.1 h.symm]
      rfl
  | cons a as ih =>
      cases bs with
      | nil => cases h
      | cons b bs =>
          rw [List.cons_append, List.cons_append, orderChars_cons,
            orderChars_cons, ih (Nat.succ.inj h), Ordering.then_assoc]

theorem orderChars_append_left (front cs ds : List Char) :
    orderChars (front ++ cs) (front ++ ds) = orderChars cs ds := by
  rw [orderChars_append rfl, orderChars_eq_iff.2 rfl, Ordering.eq_then]

end TenantTables.Text
