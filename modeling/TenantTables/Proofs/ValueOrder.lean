import TenantTables.Proofs.TextOrder
import TenantTables.Query.Order

/-!
# When the order of values is one

Sorting wants an order: what is turned around compares the other way, and what
is at most something at most a third is at most the third. Numbers alone have
one, as numbers, and so has everything else alone, by text. Together they need
not: between numbers it is the number that counts, between a number and a text
it is the text, and the two can lead round in a circle.

Of three values that both comparisons decide about, two are numbers and one is
not. They close a circle exactly if the text of the third lies between those of
the numbers, and the numbers do not stand as their texts do.
-/

namespace TenantTables

/-! ## Comparisons -/

instance : Std.TransCmp Number.Double.compare :=
  inferInstanceAs (Std.TransCmp (compareOn Number.Double.key))

theorem Number.Double.compare_swap (x y : Double) :
    y.compare x = (x.compare y).swap :=
  Std.OrientedCmp.eq_swap

namespace Query

open Json (Value)
open Number (Double)

theorem opposite_eq_swap (o : Ordering) : opposite o = o.swap := by
  cases o <;> rfl

/-- A comparison with what is missing behind everything else. -/
def missingLast {α : Type} (cmp : α → α → Ordering) :
    Option α → Option α → Ordering
  | none, none => .eq
  | none, some _ => .gt
  | some _, none => .lt
  | some a, some b => cmp a b

/-! ## The comparison of two values -/

/-- The value, if it is there and not null. -/
def present (v : Option Value) : Option Value := v.filter (!·.isNull)

/-- The text that a value is compared by. -/
def sortText (v : Value) : String := v.toText?.getD ""

/-- Two values that exist: numbers as numbers, and by text in all other cases.
Booleans are no exception, since their texts stand in their order. -/
def comparePresent (a b : Value) : Ordering :=
  match a.double?, b.double? with
  | some x, some y => x.compare y
  | _, _ => Text.order (sortText a) (sortText b)

theorem compareValues_eq (v w : Option Value) :
    compareValues v w = missingLast comparePresent (present v) (present w) := by
  have hbool : ∀ a b : Bool,
      (if a = b then Ordering.eq else if b then .lt else .gt) =
        comparePresent (.bool a) (.bool b) := by decide
  unfold compareValues present
  split
  · next hv hw => rw [hv, hw]; rfl
  · next hv hw => rw [hv, hw]; rfl
  · next hv hw => rw [hv, hw]; rfl
  · next a b hv hw => rw [hv, hw]; exact hbool a b
  · next a b _ hv hw => rw [hv, hw]; rfl

theorem comparePresent_of_numbers {a b : Value} {x y : Double}
    (ha : a.double? = some x) (hb : b.double? = some y) :
    comparePresent a b = x.compare y := by
  rw [comparePresent, ha, hb]

theorem comparePresent_of_left {a b : Value} (ha : a.double? = none) :
    comparePresent a b = Text.order (sortText a) (sortText b) := by
  rw [comparePresent, ha]

theorem comparePresent_of_right {a b : Value} (hb : b.double? = none) :
    comparePresent a b = Text.order (sortText a) (sortText b) := by
  rw [comparePresent, hb]
  cases a.double? <;> rfl

/-- Comparing the other way round gives the opposite. -/
theorem compareValues_swap (v w : Option Value) :
    compareValues w v = opposite (compareValues v w) := by
  have hpresent : ∀ a b : Value,
      comparePresent b a = (comparePresent a b).swap := by
    intro a b
    unfold comparePresent
    cases a.double? <;> cases b.double? <;>
      first | exact Double.compare_swap _ _ | exact Text.order_swap _ _
  rw [opposite_eq_swap, compareValues_eq, compareValues_eq]
  cases present v <;> cases present w <;> first | rfl | exact hpresent _ _

/-! ## Values that are in order -/

/-- Nothing leads round in a circle among these values. -/
def InOrder (vs : List (Option Value)) : Prop :=
  ∀ u ∈ vs, ∀ v ∈ vs, ∀ w ∈ vs,
    (compareValues u v).isLE = true → (compareValues v w).isLE = true →
      (compareValues u w).isLE = true

/-- Two numbers stand as their texts do, if the text of another value
lies between those. -/
def AgreeAcrossTexts (as : List Value) : Prop :=
  ∀ a ∈ as, ∀ b ∈ as, ∀ c ∈ as, ∀ x ∈ a.double?, ∀ y ∈ b.double?,
    c.double? = none →
    (Text.order (sortText a) (sortText c)).isLE = true →
    (Text.order (sortText c) (sortText b)).isLE = true →
      x.compare y = Text.order (sortText a) (sortText b)

/-- Only the values that are there can lead round in a circle. -/
theorem inOrder_iff {vs : List (Option Value)} :
    InOrder vs ↔ ∀ a ∈ vs.filterMap present, ∀ b ∈ vs.filterMap present,
      ∀ c ∈ vs.filterMap present, (comparePresent a b).isLE = true →
        (comparePresent b c).isLE = true →
        (comparePresent a c).isLE = true := by
  constructor
  · intro h a ha b hb c hc hab hbc
    obtain ⟨u, hu, hua⟩ := List.mem_filterMap.1 ha
    obtain ⟨v, hv, hvb⟩ := List.mem_filterMap.1 hb
    obtain ⟨w, hw, hwc⟩ := List.mem_filterMap.1 hc
    have hcircle := h u hu v hv w hw
    rw [compareValues_eq, compareValues_eq, compareValues_eq, hua, hvb, hwc]
      at hcircle
    exact hcircle hab hbc
  · intro h u hu v hv w hw huv hvw
    rw [compareValues_eq] at huv hvw ⊢
    cases hwc : present w with
    | none => cases present u <;> rfl
    | some c =>
        cases hvb : present v with
        | none =>
            rw [hvb, hwc] at hvw
            cases hvw
        | some b =>
            cases hua : present u with
            | none =>
                rw [hua, hvb] at huv
                cases huv
            | some a =>
                rw [hua, hvb] at huv
                rw [hvb, hwc] at hvw
                exact h a (List.mem_filterMap.2 ⟨u, hu, hua⟩) b
                  (List.mem_filterMap.2 ⟨v, hv, hvb⟩) c
                  (List.mem_filterMap.2 ⟨w, hw, hwc⟩) huv hvw

section Circle

variable {as : List Value}

theorem eq_of_isLE_iff {o p : Ordering} (h : o.isLE = true ↔ p.isLE = true)
    (hswap : o.swap.isLE = true ↔ p.swap.isLE = true) : o = p := by
  revert h hswap
  cases o <;> cases p <;> decide

/-- Without a circle through the value between them, two numbers compare as
their texts, both ways. -/
theorem agreeAcrossTexts_of_trans
    (h : ∀ a ∈ as, ∀ b ∈ as, ∀ c ∈ as, (comparePresent a b).isLE = true →
      (comparePresent b c).isLE = true → (comparePresent a c).isLE = true) :
    AgreeAcrossTexts as := by
  intro a ha b hb c hc x hx y hy hother hac hcb
  have hab := comparePresent_of_numbers hx hy
  have hba := comparePresent_of_numbers hy hx
  have hleft : ∀ v, comparePresent c v = Text.order (sortText c) (sortText v) :=
    fun v => comparePresent_of_left hother
  have hright : ∀ v,
      comparePresent v c = Text.order (sortText v) (sortText c) :=
    fun v => comparePresent_of_right hother
  have hforward : (x.compare y).isLE = true := by
    rw [← hab]
    exact h a ha c hc b hb (by rwa [hright]) (by rwa [hleft])
  have htext : (Text.order (sortText a) (sortText b)).isLE = true :=
    Std.TransCmp.isLE_trans hac hcb
  refine eq_of_isLE_iff (iff_of_true hforward htext) ?_
  rw [← Double.compare_swap, ← Text.order_swap, ← hba]
  constructor
  · intro hle
    have hca : (comparePresent c a).isLE = true :=
      h c hc b hb a ha (by rwa [hleft]) hle
    have hbc : (comparePresent b c).isLE = true :=
      h b hb a ha c hc hle (by rwa [hright])
    rw [hleft] at hca
    rw [hright] at hbc
    exact Std.TransCmp.isLE_trans hbc hca
  · intro hle
    refine h b hb c hc a ha ?_ ?_
    · rw [hright]
      exact Std.TransCmp.isLE_trans hle hac
    · rw [hleft]
      exact Std.TransCmp.isLE_trans hcb hle

theorem trans_of_agreeAcrossTexts (h : AgreeAcrossTexts as) :
    ∀ a ∈ as, ∀ b ∈ as, ∀ c ∈ as, (comparePresent a b).isLE = true →
      (comparePresent b c).isLE = true → (comparePresent a c).isLE = true := by
  intro a ha b hb c hc hab hbc
  cases hx : a.double? with
  | none =>
      rw [comparePresent_of_left hx] at hab ⊢
      cases hy : b.double? with
      | none =>
          rw [comparePresent_of_left hy] at hbc
          exact Std.TransCmp.isLE_trans hab hbc
      | some y =>
          cases hz : c.double? with
          | none =>
              rw [comparePresent_of_right hz] at hbc
              exact Std.TransCmp.isLE_trans hab hbc
          | some z =>
              by_contra hca
              have hlt := Std.OrientedCmp.lt_of_not_isLE hca
              have hcb := h c hc b hb a ha z hz y hy hx (by rw [hlt]; rfl) hab
              rw [Std.TransCmp.lt_of_lt_of_isLE hlt hab] at hcb
              rw [comparePresent_of_numbers hy hz] at hbc
              exact Std.OrientedCmp.not_isLE_of_lt hcb hbc
  | some x =>
      cases hy : b.double? with
      | none =>
          rw [comparePresent_of_right hy] at hab
          rw [comparePresent_of_left hy] at hbc
          cases hz : c.double? with
          | none =>
              rw [comparePresent_of_right hz]
              exact Std.TransCmp.isLE_trans hab hbc
          | some z =>
              rw [comparePresent_of_numbers hx hz,
                h a ha c hc b hb x hx z hz hy hab hbc]
              exact Std.TransCmp.isLE_trans hab hbc
      | some y =>
          rw [comparePresent_of_numbers hx hy] at hab
          cases hz : c.double? with
          | none =>
              rw [comparePresent_of_right hz] at hbc ⊢
              by_contra hac
              have hlt := Std.OrientedCmp.lt_of_not_isLE hac
              have hba := h b hb a ha c hc y hy x hx hz hbc (by rw [hlt]; rfl)
              rw [Std.TransCmp.lt_of_isLE_of_lt hbc hlt] at hba
              exact Std.OrientedCmp.not_isLE_of_lt hba hab
          | some z =>
              rw [comparePresent_of_numbers hy hz] at hbc
              rw [comparePresent_of_numbers hx hz]
              exact Std.TransCmp.isLE_trans hab hbc

end Circle

/-- Comparing values the other way round gives the opposite, whatever they are.
They are in order exactly if any two numbers among them with the text of another
value between theirs stand as their texts do. -/
theorem values_are_in_order_iff (vs : List (Option Value)) :
    (∀ v w : Option Value, compareValues w v = opposite (compareValues v w)) ∧
      (InOrder vs ↔ AgreeAcrossTexts (vs.filterMap present)) :=
  ⟨compareValues_swap,
    inOrder_iff.trans ⟨agreeAcrossTexts_of_trans, trans_of_agreeAcrossTexts⟩⟩

-- The text of ten is before that of nine, and 95 is behind both.
example : InOrder [some (.int 9), some (.str "95"), some (.int 10), none] := by
  unfold InOrder
  decide +kernel

/-- Nine comes before ten, ten before the text `5`, and that before nine. -/
theorem nine_ten_and_five_go_round :
    ¬ ∀ a b c : Option Value, (compareValues a b).isLE = true →
      (compareValues b c).isLE = true →
      (compareValues a c).isLE = true := by
  intro h
  have hcircle := h (some (.int 9)) (some (.int 10)) (some (.str "5"))
  revert hcircle
  decide +kernel

end Query

end TenantTables
