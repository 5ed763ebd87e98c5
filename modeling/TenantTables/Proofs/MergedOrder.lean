import TenantTables.Sorting.Merge

/-!
# Merging what is in order

A comparison is an order on the elements of a list if what is not behind a
second element, and that not behind a third, is not behind the third one. That
is all the sort relies on, and it is needed among the sorted elements only.

A merge of two lists may be cut in two wherever what is in front of the cut is
merged before what is behind it. A merge from the front reads up to such a cut,
and so does one from the back. Two cuts of the same lists cannot cross each
other: elements between them would be read twice by one end, and the comparison
of two of these would have come out both ways. So merging from either end, and
from both, is the same.
-/

namespace TenantTables.Sorting

variable {α : Type}

/-! ## Orders -/

/-- A comparison that is an order on the elements of a list. -/
structure Orders (before : α → α → Bool) (s : List α) : Prop where
  asymm : ∀ a ∈ s, ∀ b ∈ s, before a b = true → before b a = false
  trans : ∀ a ∈ s, ∀ b ∈ s, ∀ c ∈ s, before b a = false →
    before c b = false → before c a = false

/-- No element is behind a later one. -/
def Sorted (before : α → α → Bool) (xs : List α) : Prop :=
  xs.Pairwise fun a b => before b a = false

/-- Neither of two elements is before the other. -/
def ties (before : α → α → Bool) (a b : α) : Bool :=
  !before a b && !before b a

variable {before : α → α → Bool} {s xs ys : List α} {a b c x y : α}

theorem ties_iff :
    ties before a b = true ↔ before a b = false ∧ before b a = false := by
  simp [ties]

namespace Orders

/-- An order is one in the other direction, too. -/
theorem flip (h : Orders before s) : Orders (flip before) s where
  asymm a ha b hb := h.asymm b hb a ha
  trans a ha b hb c hc hab hbc := h.trans c hc b hb a ha hbc hab

theorem before_of_before_of_not (h : Orders before s) (ha : a ∈ s) (hb : b ∈ s)
    (hc : c ∈ s) (hab : before a b = true) (hbc : before c b = false) :
    before a c = true := by
  cases hac : before a c with
  | true => rfl
  | false => exact (h.trans b hb c hc a ha hbc hac).symm.trans hab

theorem before_of_not_of_before (h : Orders before s) (ha : a ∈ s) (hb : b ∈ s)
    (hc : c ∈ s) (hab : before b a = false) (hbc : before b c = true) :
    before a c = true := by
  cases hac : before a c with
  | true => rfl
  | false => exact (h.trans c hc a ha b hb hac hab).symm.trans hbc

theorem irrefl (h : Orders before s) (ha : a ∈ s) : before a a = false := by
  cases haa : before a a with
  | false => rfl
  | true => exact haa.symm.trans (h.asymm a ha a ha haa)

end Orders

theorem sorted_reverse :
    Sorted (flip before) xs.reverse ↔ Sorted before xs :=
  List.pairwise_reverse

/-! ## Merges -/

@[simp] theorem merge_nil_left (ys : List α) : merge before [] ys = ys :=
  List.nil_merge ys

@[simp] theorem merge_nil_right (xs : List α) : merge before xs [] = xs :=
  List.merge_right xs

theorem merge_cons_of_before (h : before y x = true) (xs ys : List α) :
    merge before (x :: xs) (y :: ys) = y :: merge before (x :: xs) ys :=
  List.cons_merge_cons_neg _ _ _ (by simp [h])

theorem merge_cons_of_not (h : before y x = false) (xs ys : List α) :
    merge before (x :: xs) (y :: ys) = x :: merge before xs (y :: ys) :=
  List.cons_merge_cons_pos _ _ _ (by simp [h])

theorem perm_merge (before : α → α → Bool) (xs ys : List α) :
    (merge before xs ys).Perm (xs ++ ys) :=
  List.merge_perm_append _

/-- A statement about merges follows step by step. -/
theorem merge_induction (before : α → α → Bool)
    {P : List α → List α → Prop}
    (left : ∀ ys, P [] ys) (right : ∀ xs, P xs [])
    (second : ∀ x xs y ys, before y x = true → P (x :: xs) ys →
      P (x :: xs) (y :: ys))
    (first : ∀ x xs y ys, before y x = false → P xs (y :: ys) →
      P (x :: xs) (y :: ys)) (xs ys : List α) : P xs ys := by
  induction xs generalizing ys with
  | nil => exact left ys
  | cons x xs ihx =>
      induction ys with
      | nil => exact right (x :: xs)
      | cons y ys ihy =>
          cases h : before y x with
          | true => exact second x xs y ys h ihy
          | false => exact first x xs y ys h (ihx (y :: ys))

/-! ## Cuts -/

/-- Two lists in front of two others, such that none of the later elements is
merged before one of the earlier. -/
structure Cut (before : α → α → Bool) (xs ys xs' ys' : List α) : Prop where
  left : ∀ x ∈ xs, ∀ y ∈ ys', before y x = false
  right : ∀ y ∈ ys, ∀ x ∈ xs', before y x = true

theorem merge_append_of_cut {xs' ys' : List α}
    (h : Cut before xs ys xs' ys') :
    merge before (xs ++ xs') (ys ++ ys') =
      merge before xs ys ++ merge before xs' ys' := by
  revert h
  induction xs, ys using merge_induction before with
  | left ys =>
      intro h
      induction ys with
      | nil => simp
      | cons y ys ih =>
          have hrest := ih ⟨h.left, fun y hy => h.right y (.tail _ hy)⟩
          rw [merge_nil_left] at hrest ⊢
          cases xs' with
          | nil => simp
          | cons x xs' =>
              have hyx := h.right y (.head _) x (.head _)
              exact (merge_cons_of_before hyx _ _).trans
                (congrArg (y :: ·) hrest)
  | right xs =>
      intro h
      induction xs with
      | nil => simp
      | cons x xs ih =>
          have hrest := ih ⟨fun x hx => h.left x (.tail _ hx), h.right⟩
          rw [merge_nil_right] at hrest ⊢
          cases ys' with
          | nil => simp
          | cons y ys' =>
              have hyx := h.left x (.head _) y (.head _)
              exact (merge_cons_of_not hyx _ _).trans (congrArg (x :: ·) hrest)
  | second x xs y ys hyx ih =>
      intro h
      have hrest := ih ⟨h.left, fun y hy => h.right y (.tail _ hy)⟩
      rw [merge_cons_of_before hyx]
      exact (merge_cons_of_before hyx _ _).trans (congrArg (y :: ·) hrest)
  | first x xs y ys hyx ih =>
      intro h
      have hrest := ih ⟨fun x hx => h.left x (.tail _ hx), h.right⟩
      rw [merge_cons_of_not hyx]
      exact (merge_cons_of_not hyx _ _).trans (congrArg (x :: ·) hrest)

/-- A cut behind that many elements of each list. -/
def CutAt (before : α → α → Bool) (xs ys : List α) (i j : Nat) : Prop :=
  Cut before (xs.take i) (ys.take j) (xs.drop i) (ys.drop j)

theorem merge_of_cutAt {i j : Nat} (h : CutAt before xs ys i j) :
    merge before xs ys = merge before (xs.take i) (ys.take j) ++
      merge before (xs.drop i) (ys.drop j) := by
  rw [← merge_append_of_cut h, List.take_append_drop, List.take_append_drop]

theorem mem_take_of_lt {i k : Nat} (hk : k < xs.length) (hik : k < i) :
    xs[k] ∈ xs.take i :=
  List.mem_take_iff_getElem.2 ⟨k, by omega, rfl⟩

theorem mem_drop_of_le {i k : Nat} (hk : k < xs.length) (hik : i ≤ k) :
    xs[k] ∈ xs.drop i :=
  List.mem_drop_iff_getElem.2 ⟨k - i, by omega, by simp [hik]⟩

/-- Two cuts of the same lists do not cross each other. -/
theorem CutAt.le {i j k l : Nat} (h : CutAt before xs ys i j)
    (h' : CutAt before xs ys k l) (hi : i ≤ xs.length) (hj : j ≤ ys.length)
    (hk : k ≤ xs.length) (hl : l ≤ ys.length) (hle : i + j ≤ k + l) :
    i ≤ k ∧ j ≤ l := by
  refine ⟨Nat.le_of_not_lt fun hki => ?_, Nat.le_of_not_lt fun hlj => ?_⟩
  · have hkx : k < xs.length := by omega
    have hjy : j < ys.length := by omega
    have hnot := h.left _ (mem_take_of_lt hkx hki) _
      (mem_drop_of_le hjy (Nat.le_refl j))
    have hbefore := h'.right _ (mem_take_of_lt hjy (by omega)) _
      (mem_drop_of_le hkx (Nat.le_refl k))
    exact Bool.noConfusion (hnot.symm.trans hbefore)
  · have hly : l < ys.length := by omega
    have hix : i < xs.length := by omega
    have hbefore := h.right _ (mem_take_of_lt hly hlj) _
      (mem_drop_of_le hix (Nat.le_refl i))
    have hnot := h'.left _ (mem_take_of_lt hix (by omega)) _
      (mem_drop_of_le hly (Nat.le_refl l))
    exact Bool.noConfusion (hnot.symm.trans hbefore)

/-! ## Reading from the front -/

/-- What is read is the merge of what is read from each list, and as many
elements are read as either list has. -/
structure Reads (before : α → α → Bool) (n : Nat) (xs ys : List α)
    (r : Reading α) : Prop where
  left_le : r.left ≤ xs.length
  right_le : r.right ≤ ys.length
  count : n ≤ xs.length → n ≤ ys.length → r.left + r.right = n
  elements : r.elements = merge before (xs.take r.left) (ys.take r.right)

theorem readFront_reads (before : α → α → Bool) (n : Nat) (xs ys : List α) :
    Reads before n xs ys (readFront before n xs ys) := by
  fun_induction readFront before n xs ys with
  | case1 n x xs y ys hyx r ih =>
      have ih : Reads before n (x :: xs) ys r := ih
      refine ⟨ih.left_le, Nat.succ_le_succ ih.right_le, fun hx hy => ?_, ?_⟩
      · have hx' : n ≤ (x :: xs).length := Nat.le_of_succ_le hx
        have hcount := ih.count hx' (Nat.le_of_succ_le_succ hy)
        exact congrArg (· + 1) hcount
      · rw [List.take_succ_cons, ih.elements]
        cases hleft : r.left with
        | zero => simp
        | succ i => rw [List.take_succ_cons, merge_cons_of_before hyx]
  | case2 n x xs y ys hyx r ih =>
      have ih : Reads before n xs (y :: ys) r := ih
      have hnot : before y x = false := eq_false_of_ne_true hyx
      refine ⟨Nat.succ_le_succ ih.left_le, ih.right_le, fun hx hy => ?_, ?_⟩
      · have hy' : n ≤ (y :: ys).length := Nat.le_of_succ_le hy
        have hcount := ih.count (Nat.le_of_succ_le_succ hx) hy'
        change r.left + 1 + r.right = n + 1
        omega
      · rw [List.take_succ_cons, ih.elements]
        cases hright : r.right with
        | zero => simp
        | succ i => rw [List.take_succ_cons, merge_cons_of_not hnot]
  | case3 n xs ys hne =>
      refine ⟨Nat.zero_le _, Nat.zero_le _, fun hx hy => ?_, by simp⟩
      cases n with
      | zero => rfl
      | succ n =>
          cases xs with
          | nil => exact absurd hx (Nat.not_succ_le_zero n)
          | cons x xs =>
              cases ys with
              | nil => exact absurd hy (Nat.not_succ_le_zero n)
              | cons y ys => exact (hne n x xs y ys rfl rfl rfl).elim

theorem readFront_cut (h : Orders before s) (n : Nat) (hxs : xs ⊆ s)
    (hys : ys ⊆ s) (hx : Sorted before xs) (hy : Sorted before ys) :
    CutAt before xs ys (readFront before n xs ys).left
      (readFront before n xs ys).right := by
  fun_induction readFront before n xs ys with
  | case1 n x xs y ys hyx r ih =>
      obtain ⟨hys', hysorted⟩ := List.pairwise_cons.1 hy
      obtain ⟨hymem, hyssub⟩ := List.cons_subset.1 hys
      have hcut := ih hxs hyssub hx hysorted
      refine ⟨hcut.left, fun y' hy' x' hx' => ?_⟩
      rcases List.mem_cons.1 hy' with rfl | hy'
      · -- `x` is the least element of the first list, and `y` is before it
        rcases List.mem_cons.1 (List.mem_of_mem_drop hx') with rfl | hmem
        · exact hyx
        · obtain ⟨hxmem, hxsub⟩ := List.cons_subset.1 hxs
          exact h.before_of_before_of_not hymem hxmem (hxsub hmem) hyx
            ((List.pairwise_cons.1 hx).1 x' hmem)
      · exact hcut.right y' hy' x' hx'
  | case2 n x xs y ys hyx r ih =>
      have hnot : before y x = false := eq_false_of_ne_true hyx
      obtain ⟨hxs', hxsorted⟩ := List.pairwise_cons.1 hx
      obtain ⟨hxmem, hxssub⟩ := List.cons_subset.1 hxs
      have hcut := ih hxssub hys hxsorted hy
      refine ⟨fun x' hx' y' hy' => ?_, hcut.right⟩
      rcases List.mem_cons.1 hx' with rfl | hx'
      · rcases List.mem_cons.1 (List.mem_of_mem_drop hy') with rfl | hmem
        · exact hnot
        · obtain ⟨hymem, hysub⟩ := List.cons_subset.1 hys
          exact h.trans x' hxmem y hymem y' (hysub hmem) hnot
            ((List.pairwise_cons.1 hy).1 y' hmem)
      · exact hcut.left x' hx' y' hy'
  | case3 n xs ys hne => exact ⟨nofun, nofun⟩

/-! ## Merging from the back -/

theorem merge_reverse (h : Orders before s) (hxs : xs ⊆ s) (hys : ys ⊆ s)
    (hx : Sorted (flip before) xs)
    (hy : Sorted (flip before) ys) :
    (merge (flip before) ys xs).reverse =
      merge before xs.reverse ys.reverse := by
  revert hxs hys hx hy
  induction ys, xs using merge_induction (flip before) with
  | left xs => simp
  | right ys => simp
  | second y ys x xs hyx ih =>
      intro hxs hys hx hy
      obtain ⟨hxmem, hxssub⟩ := List.cons_subset.1 hxs
      obtain ⟨hxlast, hxsorted⟩ := List.pairwise_cons.1 hx
      have hcut : Cut before xs.reverse (y :: ys).reverse [x] [] := by
        refine ⟨fun _ _ => nofun, fun y' hy' x' hx' => ?_⟩
        obtain rfl := List.mem_singleton.1 hx'
        rcases List.mem_cons.1 (List.mem_reverse.1 hy') with rfl | hmem
        · exact hyx
        · obtain ⟨hymem, hysub⟩ := List.cons_subset.1 hys
          exact h.before_of_not_of_before (hysub hmem) hymem hxmem
            ((List.pairwise_cons.1 hy).1 y' hmem) hyx
      have hmerged := merge_append_of_cut hcut
      rw [List.append_nil, merge_nil_right] at hmerged
      rw [merge_cons_of_before hyx, List.reverse_cons, List.reverse_cons,
        ih hxssub hys hxsorted hy, hmerged]
  | first y ys x xs hyx ih =>
      intro hxs hys hx hy
      obtain ⟨hymem, hyssub⟩ := List.cons_subset.1 hys
      obtain ⟨hylast, hysorted⟩ := List.pairwise_cons.1 hy
      have hcut : Cut before (x :: xs).reverse ys.reverse [] [y] := by
        refine ⟨fun x' hx' y' hy' => ?_, fun _ _ => nofun⟩
        obtain rfl := List.mem_singleton.1 hy'
        rcases List.mem_cons.1 (List.mem_reverse.1 hx') with rfl | hmem
        · exact hyx
        · obtain ⟨hxmem, hxsub⟩ := List.cons_subset.1 hxs
          exact h.trans x' (hxsub hmem) x hxmem y' hymem
            ((List.pairwise_cons.1 hx).1 x' hmem) hyx
      have hmerged := merge_append_of_cut hcut
      rw [List.append_nil, merge_nil_left] at hmerged
      have hlast : (y :: ys).reverse = ys.reverse ++ [y] := List.reverse_cons
      rw [merge_cons_of_not hyx, List.reverse_cons, hlast,
        ih hxs hyssub hx hysorted, hmerged]

/-- Merging from the back is merging. -/
theorem mergeBack_eq (h : Orders before s) (hxs : xs ⊆ s) (hys : ys ⊆ s)
    (hx : Sorted before xs) (hy : Sorted before ys) :
    mergeBack before xs ys = merge before xs ys := by
  have hreverse := merge_reverse h (List.reverse_subset.2 hxs)
    (List.reverse_subset.2 hys) (sorted_reverse.2 hx) (sorted_reverse.2 hy)
  rwa [List.reverse_reverse, List.reverse_reverse] at hreverse

theorem perm_mergeBack (before : α → α → Bool) (xs ys : List α) :
    (mergeBack before xs ys).Perm (xs ++ ys) :=
  calc
    (mergeBack before xs ys).Perm
        (merge (flip before) ys.reverse xs.reverse) :=
      List.reverse_perm _
    _ |>.Perm (ys.reverse ++ xs.reverse) := perm_merge _ _ _
    _ = (xs ++ ys).reverse := List.reverse_append.symm
    _ |>.Perm (xs ++ ys) := List.reverse_perm _

/-! ## Merging from both ends -/

/-- What is read from the back is the end of each list, merged from the back. -/
structure ReadsBack (before : α → α → Bool) (n : Nat) (xs ys : List α)
    (r : Reading α) : Prop where
  left_le : r.left ≤ xs.length
  right_le : r.right ≤ ys.length
  count : n ≤ xs.length → n ≤ ys.length → r.left + r.right = n
  elements : r.elements.reverse =
    mergeBack before (xs.drop (xs.length - r.left))
      (ys.drop (ys.length - r.right))

theorem readBack_reads (before : α → α → Bool) (n : Nat) (xs ys : List α) :
    ReadsBack before n xs ys (readBack before n xs ys) := by
  obtain ⟨hleft, hright, hcount, helements⟩ :=
    readFront_reads (flip before) n ys.reverse xs.reverse
  rw [List.length_reverse] at hleft hright
  rw [List.length_reverse, List.length_reverse] at hcount
  refine ⟨hright, hleft, fun hx hy => ?_, ?_⟩
  · exact (Nat.add_comm _ _).trans (hcount hy hx)
  · rw [mergeBack, ← List.take_reverse, ← List.take_reverse]
    exact congrArg List.reverse helements

theorem readBack_cut (h : Orders before s) (n : Nat) (hxs : xs ⊆ s)
    (hys : ys ⊆ s) (hx : Sorted before xs) (hy : Sorted before ys) :
    CutAt before xs ys (xs.length - (readBack before n xs ys).left)
      (ys.length - (readBack before n xs ys).right) := by
  have hcut := readFront_cut h.flip n (List.reverse_subset.2 hys)
    (List.reverse_subset.2 hxs) (sorted_reverse.2 hy) (sorted_reverse.2 hx)
  rw [CutAt, List.take_reverse, List.take_reverse, List.drop_reverse,
    List.drop_reverse] at hcut
  exact ⟨fun x hx y hy =>
      hcut.left y (List.mem_reverse.2 hy) x (List.mem_reverse.2 hx),
    fun y hy x hx =>
      hcut.right x (List.mem_reverse.2 hx) y (List.mem_reverse.2 hy)⟩

theorem extract_append_drop {i j : Nat} (h : i ≤ j) (xs : List α) :
    xs.extract i j ++ xs.drop j = xs.drop i := by
  have hrest : xs.drop j = (xs.drop i).drop (j - i) := by
    rw [List.drop_drop, Nat.add_sub_cancel' h]
  rw [List.extract, hrest, List.take_append_drop]

theorem take_append_extract {i j : Nat} (h : i ≤ j) (xs : List α) :
    xs.take i ++ xs.extract i j = xs.take j := by
  have hlength : j = i + (j - i) := (Nat.add_sub_cancel' h).symm
  rw [List.extract, ← List.take_add, ← hlength]

theorem merge_eq_append (h : xs.length + ys.length ≤ 1) :
    merge before xs ys = xs ++ ys := by
  cases xs with
  | nil => exact merge_nil_left ys
  | cons x xs =>
      have hys : ys = [] := List.length_eq_zero_iff.1 (by
        rw [List.length_cons] at h
        omega)
      rw [hys, merge_nil_right, List.append_nil]

/-- If there is a result, it has the elements of both lists. -/
theorem perm_mergeEnds {zs : List α} (h : mergeEnds before xs ys = some zs) :
    zs.Perm (xs ++ ys) := by
  classical
  obtain ⟨-, -, -, hfront⟩ := readFront_reads before xs.length xs ys
  obtain ⟨-, -, -, hback⟩ := readBack_reads before xs.length xs ys
  rw [mergeEnds] at h
  generalize readFront before xs.length xs ys = front at *
  generalize readBack before xs.length xs ys = back at *
  split at h
  · next hle =>
      have hx := extract_append_drop (Nat.le_sub_of_add_le hle.1) xs
      have hy := extract_append_drop (Nat.le_sub_of_add_le hle.2) ys
      rw [← Option.some.inj h, hfront, hback, List.perm_iff_count]
      intro a
      have hx := congrArg (List.count a)
        ((congrArg (xs.take front.left ++ ·) hx).trans
          (List.take_append_drop front.left xs))
      have hy := congrArg (List.count a)
        ((congrArg (ys.take front.right ++ ·) hy).trans
          (List.take_append_drop front.right ys))
      have hfirst := (perm_merge before (xs.take front.left)
        (ys.take front.right)).count_eq a
      have hlast := (perm_mergeBack before
        (xs.drop (xs.length - back.left))
        (ys.drop (ys.length - back.right))).count_eq a
      simp only [List.count_append] at hx hy hfirst hlast ⊢
      omega
  · cases h

/-- With an order there is a result, and merging from both ends is merging. -/
theorem mergeEnds_eq (h : Orders before s) (hxs : xs ⊆ s) (hys : ys ⊆ s)
    (hx : Sorted before xs) (hy : Sorted before ys)
    (hle : xs.length ≤ ys.length) (hlt : ys.length ≤ xs.length + 1) :
    mergeEnds before xs ys = some (merge before xs ys) := by
  have hcut := readFront_cut h xs.length hxs hys hx hy
  have hcut' := readBack_cut h xs.length hxs hys hx hy
  obtain ⟨hi, hj, hij, hfront⟩ := readFront_reads before xs.length xs ys
  obtain ⟨hk, hl, hkl, hback⟩ := readBack_reads before xs.length xs ys
  rw [mergeEnds]
  generalize readFront before xs.length xs ys = front at *
  generalize readBack before xs.length xs ys = back at *
  have hij := hij (Nat.le_refl _) hle
  have hkl := hkl (Nat.le_refl _) hle
  obtain ⟨hleft, hright⟩ := hcut.le hcut' hi hj (Nat.sub_le ..) (Nat.sub_le ..)
    (by omega)
  generalize hk' : xs.length - back.left = k at *
  generalize hl' : ys.length - back.right = l at *
  have hmiddle : Cut before (xs.extract front.left k)
      (ys.extract front.right l) (xs.drop k) (ys.drop l) := by
    rw [CutAt, ← take_append_extract hleft, ← take_append_extract hright]
      at hcut'
    exact ⟨fun x hx => hcut'.left x (List.mem_append_right _ hx),
      fun y hy => hcut'.right y (List.mem_append_right _ hy)⟩
  have hone : merge before (xs.extract front.left k)
      (ys.extract front.right l) =
        xs.extract front.left k ++ ys.extract front.right l := by
    refine merge_eq_append ?_
    rw [List.extract, List.extract, List.length_take, List.length_take]
    omega
  have hend : mergeBack before (xs.drop k) (ys.drop l) =
      merge before (xs.drop k) (ys.drop l) :=
    mergeBack_eq h (fun _ hx => hxs (List.mem_of_mem_drop hx))
      (fun _ hy => hys (List.mem_of_mem_drop hy))
      (hx.sublist (List.drop_sublist k xs))
      (hy.sublist (List.drop_sublist l ys))
  rw [if_pos ⟨by omega, by omega⟩, hfront, hback, hend, merge_of_cutAt hcut,
    ← extract_append_drop hleft, ← extract_append_drop hright,
    merge_append_of_cut hmiddle, hone, List.append_assoc]

end TenantTables.Sorting
