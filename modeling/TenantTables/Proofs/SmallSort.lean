import TenantTables.Proofs.MergedOrder

/-!
# Sorting short lists

What a sort owes: the same elements, none behind a later one, and those that tie
as they came. A merge of two sorted lists owes that to the lists put one behind
the other, and everything else is made of merges. Insertion is a merge from the
back with one element, and the five comparisons of four elements are those of
two merges of pairs and one of what comes out.

A sort that may have no result owes it where the comparison is an order. If it
is none, all that is left is that a result has the same elements.
-/

namespace TenantTables.Sorting

variable {α : Type}

/-! ## What a sort owes -/

/-- A list is another one in order, with what ties as it came. -/
structure Sorts (before : α → α → Bool) (s xs zs : List α) : Prop where
  perm : zs.Perm xs
  sorted : Sorted before zs
  stable : ∀ a ∈ s, zs.filter (ties before a) = xs.filter (ties before a)

/-- A list has the elements of another one, and is that one in order if the
comparison is an order. -/
structure Arranges (before : α → α → Bool) (s xs zs : List α) : Prop where
  perm : zs.Perm xs
  sorts : Orders before s → Sorts before s xs zs

/-- A step that has a result under a condition, and only such results. -/
structure Yields {β : Type} (condition : Prop) (P : β → Prop) (o : Option β) :
    Prop where
  sound : ∀ b, o = some b → P b
  result : condition → ∃ b, o = some b

/-- A sort has a result where the comparison is an order, and a result has the
same elements in any case. -/
def IsStableSort (before : α → α → Bool) (sort : List α → Option (List α)) :
    Prop :=
  ∀ s xs, xs ⊆ s →
    Yields (Orders before s) (Arranges before s xs) (sort xs)

namespace Yields

variable {β γ : Type} {condition : Prop} {P : β → Prop} {Q : γ → Prop}

theorem some {b : β} (h : P b) : Yields condition P (some b) :=
  ⟨fun _ hb => Option.some.inj hb ▸ h, fun _ => ⟨b, rfl⟩⟩

theorem bind {o : Option β} {f : β → Option γ} (h : Yields condition P o)
    (hf : ∀ b, P b → Yields condition Q (f b)) :
    Yields condition Q (o >>= f) := by
  refine ⟨fun c hc => ?_, fun hcondition => ?_⟩
  · obtain ⟨b, hb, hc⟩ := Option.bind_eq_some_iff.1 hc
    exact (hf b (h.sound b hb)).sound c hc
  · obtain ⟨b, hb⟩ := h.result hcondition
    obtain ⟨c, hc⟩ := (hf b (h.sound b hb)).result hcondition
    exact ⟨c, Option.bind_eq_some_iff.2 ⟨b, hb, hc⟩⟩

theorem map {o : Option β} {f : β → γ} (h : Yields condition P o)
    (hf : ∀ b, P b → Q (f b)) : Yields condition Q (o.map f) := by
  rw [Option.map_eq_bind]
  exact h.bind fun b hb => some (hf b hb)

end Yields

variable {before : α → α → Bool} {s xs ys zs ws : List α} {a x : α}

theorem Sorts.of_sorted (h : Sorted before xs) : Sorts before s xs xs :=
  ⟨.refl xs, h, fun _ _ => rfl⟩

theorem Sorts.subset (h : Sorts before s xs zs) (hxs : xs ⊆ s) : zs ⊆ s :=
  fun _ hz => hxs (h.perm.mem_iff.1 hz)

/-! ## Merges -/

theorem sorted_merge (h : Orders before s) (hxs : xs ⊆ s) (hys : ys ⊆ s)
    (hx : Sorted before xs) (hy : Sorted before ys) :
    Sorted before (merge before xs ys) := by
  revert hxs hys hx hy
  induction xs, ys using merge_induction before with
  | left ys => simp
  | right xs => intros; simpa
  | second x xs y ys hyx ih =>
      intro hxs hys hx hy
      obtain ⟨hymem, hyssub⟩ := List.cons_subset.1 hys
      obtain ⟨hyfirst, hysorted⟩ := List.pairwise_cons.1 hy
      have hxmem := (List.cons_subset.1 hxs).1
      have hnot := h.asymm y hymem x hxmem hyx
      rw [merge_cons_of_before hyx]
      refine List.pairwise_cons.2 ⟨fun z hz => ?_, ih hxs hyssub hx hysorted⟩
      rcases List.mem_append.1 ((perm_merge before _ _).mem_iff.1 hz) with
        hz | hz
      · rcases List.mem_cons.1 hz with rfl | hmem
        · exact hnot
        · exact h.trans y hymem x hxmem z (hxs hz) hnot
            ((List.pairwise_cons.1 hx).1 z hmem)
      · exact hyfirst z hz
  | first x xs y ys hyx ih =>
      intro hxs hys hx hy
      obtain ⟨hxmem, hxssub⟩ := List.cons_subset.1 hxs
      obtain ⟨hxfirst, hxsorted⟩ := List.pairwise_cons.1 hx
      have hymem := (List.cons_subset.1 hys).1
      rw [merge_cons_of_not hyx]
      refine List.pairwise_cons.2 ⟨fun z hz => ?_, ih hxssub hys hxsorted hy⟩
      rcases List.mem_append.1 ((perm_merge before _ _).mem_iff.1 hz) with
        hz | hz
      · exact hxfirst z hz
      · rcases List.mem_cons.1 hz with rfl | hmem
        · exact hyx
        · exact h.trans x hxmem y hymem z (hys hz) hyx
            ((List.pairwise_cons.1 hy).1 z hmem)

/-- What ties with what is before an element does not tie with anything behind
that element. -/
theorem filter_ties_eq_nil (h : Orders before s) (ha : a ∈ s) {y : α}
    (hy : y ∈ s) (hay : ties before a y = true) (hxs : xs ⊆ s)
    (hall : ∀ x ∈ xs, before y x = true) : xs.filter (ties before a) = [] := by
  refine List.filter_eq_nil_iff.2 fun x hx hax => ?_
  have hbefore := h.before_of_not_of_before ha hy (hxs hx) (ties_iff.1 hay).2
    (hall x hx)
  exact Bool.noConfusion ((ties_iff.1 hax).1.symm.trans hbefore)

theorem filter_merge (h : Orders before s) (ha : a ∈ s) (hxs : xs ⊆ s)
    (hys : ys ⊆ s) (hx : Sorted before xs) :
    (merge before xs ys).filter (ties before a) =
      xs.filter (ties before a) ++ ys.filter (ties before a) := by
  revert hxs hys hx
  induction xs, ys using merge_induction before with
  | left ys => simp
  | right xs => simp
  | second x xs y ys hyx ih =>
      intro hxs hys hx
      obtain ⟨hymem, hyssub⟩ := List.cons_subset.1 hys
      have hrest := ih hxs hyssub hx
      rw [merge_cons_of_before hyx]
      cases hay : ties before a y with
      | false =>
          have hneg : ¬ ties before a y = true := by simp [hay]
          rw [List.filter_cons_of_neg hneg, hrest, List.filter_cons_of_neg hneg]
      | true =>
          have hall : ∀ z ∈ x :: xs, before y z = true := by
            intro z hz
            rcases List.mem_cons.1 hz with rfl | hmem
            · exact hyx
            · exact h.before_of_before_of_not hymem (List.cons_subset.1 hxs).1
                (hxs hz) hyx ((List.pairwise_cons.1 hx).1 z hmem)
          have hnil := filter_ties_eq_nil h ha hymem hay hxs hall
          rw [List.filter_cons_of_pos hay, hrest, hnil, List.nil_append,
            List.nil_append, List.filter_cons_of_pos hay]
  | first x xs y ys hyx ih =>
      intro hxs hys hx
      have hrest := ih (List.cons_subset.1 hxs).2 hys
        (List.pairwise_cons.1 hx).2
      rw [merge_cons_of_not hyx]
      by_cases hax : ties before a x = true
      · rw [List.filter_cons_of_pos hax, hrest, List.filter_cons_of_pos hax,
          List.cons_append]
      · rw [List.filter_cons_of_neg hax, hrest, List.filter_cons_of_neg hax]

/-- Merging sorts two lists of which each is sorted. -/
theorem Sorts.merge (h : Orders before s) (hxs : xs ⊆ s) (hys : ys ⊆ s)
    (hx : Sorts before s xs zs) (hy : Sorts before s ys ws) :
    Sorts before s (xs ++ ys) (merge before zs ws) where
  perm := (perm_merge before zs ws).trans (hx.perm.append hy.perm)
  sorted := sorted_merge h (hx.subset hxs) (hy.subset hys) hx.sorted hy.sorted
  stable a ha := by
    rw [filter_merge h ha (hx.subset hxs) (hy.subset hys) hx.sorted,
      hx.stable a ha, hy.stable a ha, List.filter_append]

/-! ## Insertion -/

theorem insertBack_eq (before : α → α → Bool) (x : α) (ys : List α) :
    insertBack before x ys = Sorting.merge (flip before) [x] ys := by
  induction ys with
  | nil => simp [insertBack]
  | cons y ys ih =>
      rw [insertBack]
      cases hxy : flip before y x with
      | true => rw [merge_cons_of_before hxy, ← ih]; exact if_pos hxy
      | false =>
          rw [merge_cons_of_not hxy, merge_nil_left]
          exact if_neg (ne_true_of_eq_false hxy)

/-- One element is inserted by a merge from the back. -/
theorem insertInto_cons (before : α → α → Bool) (zs : List α) (x : α)
    (xs : List α) : insertInto before zs (x :: xs) =
      insertInto before (mergeBack before zs [x]) xs := by
  rw [insertInto, List.foldl_cons, insertBack_eq, insertInto, mergeBack,
    List.reverse_reverse]
  rfl

theorem perm_insertInto (before : α → α → Bool) (zs xs : List α) :
    (insertInto before zs xs).Perm (zs ++ xs) := by
  induction xs generalizing zs with
  | nil => simp [insertInto]
  | cons x xs ih =>
      rw [insertInto_cons, List.append_cons]
      exact (ih _).trans ((perm_mergeBack before zs [x]).append_right xs)

theorem Sorts.insertInto (h : Orders before s) (hxs : xs ⊆ s) (hys : ys ⊆ s)
    (hx : Sorts before s xs zs) :
    Sorts before s (xs ++ ys) (insertInto before zs ys) := by
  induction ys generalizing xs zs with
  | nil => simpa [Sorting.insertInto] using hx
  | cons y ys ih =>
      obtain ⟨hy, hys⟩ := List.cons_subset.1 hys
      have hone : [y] ⊆ s := List.cons_subset.2 ⟨hy, List.nil_subset s⟩
      have hsingle : Sorts before s [y] [y] :=
        .of_sorted (List.pairwise_singleton _ y)
      have hmerge := hx.merge h hxs hone hsingle
      rw [insertInto_cons, mergeBack_eq h (hx.subset hxs) hone hx.sorted
        hsingle.sorted, List.append_cons]
      exact ih (List.append_subset.2 ⟨hxs, hone⟩) hys hmerge

theorem perm_insertionSort (before : α → α → Bool) (xs : List α) :
    (insertionSort before xs).Perm xs :=
  perm_insertInto before [] xs

theorem sorts_insertionSort (h : Orders before s) (hxs : xs ⊆ s) :
    Sorts before s xs (insertionSort before xs) :=
  Sorts.insertInto h (List.nil_subset s) hxs (.of_sorted .nil)

/-! ## Four elements -/

/-- What is left of five comparisons after those of both pairs. -/
theorem merge_pairs (h : Orders before s) {a b c d : α} (ha : a ∈ s)
    (hb : b ∈ s) (hc : c ∈ s) (hd : d ∈ s) (hab : before b a = false)
    (hcd : before d c = false) :
    merge before [a, b] [c, d] =
      if before c a then
        if before d b then
          if before d a then [c, d, a, b] else [c, a, d, b]
        else [c, a, b, d]
      else if before d b then [a, c, d, b]
      else if before c b then [a, c, b, d] else [a, b, c, d] := by
  cases hca : before c a with
  | true =>
      rw [merge_cons_of_before hca]
      cases hda : before d a with
      | true =>
          have hdb := h.before_of_before_of_not hd ha hb hda hab
          simp [merge_cons_of_before hda, hdb]
      | false =>
          rw [merge_cons_of_not hda]
          cases hdb : before d b with
          | true => simp [merge_cons_of_before hdb]
          | false => simp [merge_cons_of_not hdb]
  | false =>
      rw [merge_cons_of_not hca]
      cases hdb : before d b with
      | true =>
          have hcb := h.before_of_not_of_before hc hd hb hcd hdb
          simp [merge_cons_of_before hcb, merge_cons_of_before hdb]
      | false =>
          cases hcb : before c b with
          | true => simp [merge_cons_of_before hcb, merge_cons_of_not hdb]
          | false => simp [merge_cons_of_not hcb]

theorem merge_singletons (before : α → α → Bool) (x y : α) :
    merge before [x] [y] = if before y x then [y, x] else [x, y] := by
  cases hyx : before y x with
  | true => simp [merge_cons_of_before hyx]
  | false => simp [merge_cons_of_not hyx]

/-- Five comparisons come to what three merges do. -/
theorem sortFour_eq (h : Orders before s) {w x y z : α}
    (hs : [w, x, y, z] ⊆ s) :
    sortFour before w x y z =
      merge before (merge before [w] [x]) (merge before [y] [z]) := by
  simp only [List.cons_subset] at hs
  obtain ⟨hw, hx, hy, hz, -⟩ := hs
  have hpair : ∀ x ∈ s, ∀ y ∈ s, ∃ a ∈ s, ∃ b ∈ s, before b a = false ∧
      merge before [x] [y] = [a, b] ∧
      (if before y x then (y, x) else (x, y)) = (a, b) := by
    intro x hx y hy
    rw [merge_singletons]
    cases hyx : before y x with
    | true => exact ⟨y, hy, x, hx, h.asymm y hy x hx hyx, rfl, rfl⟩
    | false => exact ⟨x, hx, y, hy, hyx, rfl, rfl⟩
  obtain ⟨a, ha, b, hb, hab, hmerge, hfirst⟩ := hpair w hw x hx
  obtain ⟨c, hc, d, hd, hcd, hmerge', hsecond⟩ := hpair y hy z hz
  rw [hmerge, hmerge', merge_pairs h ha hb hc hd hab hcd, sortFour, hfirst,
    hsecond]
  cases hca : before c a <;> cases hdb : before d b <;>
    simp [hca, hdb, hab, hcd]

theorem perm_sortFour (before : α → α → Bool) (w x y z : α) :
    (sortFour before w x y z).Perm [w, x, y, z] := by
  classical
  have hpair : ∀ x y : α, ∃ a b, [a, b].Perm [x, y] ∧
      (if before y x then (y, x) else (x, y)) = (a, b) := by
    intro x y
    split
    · exact ⟨y, x, .swap x y [], rfl⟩
    · exact ⟨x, y, .refl _, rfl⟩
  obtain ⟨a, b, hab, hfirst⟩ := hpair w x
  obtain ⟨c, d, hcd, hsecond⟩ := hpair y z
  refine .trans ?_ (hab.append hcd)
  rw [sortFour, hfirst, hsecond, List.perm_iff_count]
  intro e
  cases hca : before c a <;> cases hdb : before d b <;>
    simp only [hca, hdb, if_true, Bool.false_eq_true, if_false] <;> split <;>
    simp only [List.count_append, List.count_cons, List.count_nil] <;> omega

/-! ## Short lists -/

theorem perm_sortHalf (before : α → α → Bool) (long : Bool) (xs : List α) :
    (sortHalf before long xs).Perm xs := by
  unfold sortHalf
  split
  · next w x y z xs =>
      exact (perm_insertInto before _ xs).trans
        ((perm_sortFour before w x y z).append_right xs)
  · exact perm_insertionSort before xs

theorem sorts_sortHalf (h : Orders before s) (long : Bool) (hxs : xs ⊆ s) :
    Sorts before s xs (sortHalf before long xs) := by
  unfold sortHalf
  split
  · next w x y z xs =>
      obtain ⟨hfour, hrest⟩ := List.append_subset.1
        (show [w, x, y, z] ++ xs ⊆ s from hxs)
      obtain ⟨hleft, hright⟩ := List.append_subset.1
        (show [w, x] ++ [y, z] ⊆ s from hfour)
      have hpair : ∀ {x y}, [x, y] ⊆ s →
          Sorts before s [x, y] (merge before [x] [y]) := fun hxy =>
        .merge h (List.cons_subset.2
            ⟨(List.cons_subset.1 hxy).1, List.nil_subset s⟩)
          (List.cons_subset.1 hxy).2
          (.of_sorted (List.pairwise_singleton ..))
          (.of_sorted (List.pairwise_singleton ..))
      refine .insertInto h hfour hrest ?_
      rw [sortFour_eq h hfour]
      exact .merge h hleft hright (hpair hleft) (hpair hright)
  · exact sorts_insertionSort h hxs

/-- Lists of up to thirty-two elements are sorted, and any other one is, too. -/
theorem isStableSort_smallSort (before : α → α → Bool) :
    IsStableSort before (smallSort before) := by
  intro s xs hxs
  have hleft : xs.take (xs.length / 2) ⊆ s := fun _ hx =>
    hxs (List.mem_of_mem_take hx)
  have hright : xs.drop (xs.length / 2) ⊆ s := fun _ hx =>
    hxs (List.mem_of_mem_drop hx)
  have hlength := (perm_sortHalf before (decide (8 ≤ xs.length))
    (xs.take (xs.length / 2))).length_eq
  have hlength' := (perm_sortHalf before (decide (8 ≤ xs.length))
    (xs.drop (xs.length / 2))).length_eq
  rw [List.length_take] at hlength
  rw [List.length_drop] at hlength'
  have hmerge (h : Orders before s) :
      ∃ zs, smallSort before xs = some zs ∧ Sorts before s xs zs := by
    have hfirst := sorts_sortHalf h (decide (8 ≤ xs.length)) hleft
    have hsecond := sorts_sortHalf h (decide (8 ≤ xs.length)) hright
    have hsorts := hfirst.merge h hleft hright hsecond
    rw [List.take_append_drop] at hsorts
    exact ⟨_, mergeEnds_eq h (hfirst.subset hleft) (hsecond.subset hright)
      hfirst.sorted hsecond.sorted (by omega) (by omega), hsorts⟩
  refine ⟨fun zs hzs => ⟨?_, fun h => ?_⟩, fun h => ?_⟩
  · have hperm := (perm_mergeEnds hzs).trans
      ((perm_sortHalf before _ _).append (perm_sortHalf before _ _))
    rwa [List.take_append_drop] at hperm
  · obtain ⟨ws, hws, hsorts⟩ := hmerge h
    exact Option.some.inj (hws.symm.trans hzs) ▸ hsorts
  · exact (hmerge h).imp fun _ => And.left

end TenantTables.Sorting
