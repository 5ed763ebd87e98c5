import TenantTables.Sorting.Runs
import TenantTables.Proofs.SmallSort

/-!
# Sorting by partition

A partition puts what is chosen before everything else. If each chosen element
is before each other one, sorting both parts sorts the list. That holds for what
is before the pivot, and also for what the pivot is not before, which is sorted
already if nothing is before the pivot. The ancestor tells that without a look
at the elements: none of them is before it, so none is before a pivot that it
is not before.
-/

namespace TenantTables.Sorting

variable {α : Type} {before : α → α → Bool} {s xs ys zs ws : List α}

/-! ## Parts -/

/-- The chosen elements are before the others. -/
def Parts (before : α → α → Bool) (xs : List α) (chosen : α → Bool) : Prop :=
  ∀ x ∈ xs, chosen x = true → ∀ y ∈ xs, chosen y = false → before x y = true

variable {chosen : α → Bool}

/-- Where one choice implies another, nothing is chosen by the first alone. -/
theorem filter_and_of_imp {p q : α → Bool}
    (h : ∀ x ∈ xs, p x = true → q x = true) :
    xs.filter (fun x => p x && q x) = xs.filter p ∧
      xs.filter (fun x => p x && !q x) = [] := by
  refine ⟨List.filter_congr fun x hx => ?_,
    List.filter_eq_nil_iff.2 fun x hx => ?_⟩
  · cases hp : p x with
    | false => rfl
    | true => exact h x hx hp
  · cases hp : p x with
    | false => simp
    | true => simp [h x hx hp]

/-- What ties with one element is chosen as a whole or not at all. -/
theorem Parts.filter_ties (h : Orders before s) (hxs : xs ⊆ s)
    (hparts : Parts before xs chosen) {a : α} (ha : a ∈ s) :
    (xs.filter chosen).filter (ties before a) ++
        (xs.filter (!chosen ·)).filter (ties before a) =
      xs.filter (ties before a) := by
  rw [List.filter_filter, List.filter_filter]
  by_cases hall : ∀ x ∈ xs, ties before a x = true → chosen x = true
  · obtain ⟨hchosen, hothers⟩ := filter_and_of_imp hall
    rw [hchosen, hothers, List.append_nil]
  · simp only [Classical.not_forall, Bool.not_eq_true] at hall
    obtain ⟨y, hy, hay, hother⟩ := hall
    have hnot (x : α) (hx : x ∈ xs) (hax : ties before a x = true) :
        (!chosen x) = true := by
      cases hchosen : chosen x with
      | false => rfl
      | true =>
          have hxy := hparts x hx hchosen y hy hother
          have hnot := h.trans y (hxs hy) a ha x (hxs hx) (ties_iff.1 hay).1
            (ties_iff.1 hax).2
          exact hnot.symm.trans hxy
    obtain ⟨hothers, hchosen⟩ := filter_and_of_imp hnot
    simp only [Bool.not_not] at hchosen
    rw [hchosen, hothers, List.nil_append]

/-- A list is sorted by sorting both parts. -/
theorem Sorts.append (h : Orders before s) (hxs : xs ⊆ s)
    (hparts : Parts before xs chosen)
    (hx : Sorts before s (xs.filter chosen) zs)
    (hy : Sorts before s (xs.filter (!chosen ·)) ws) :
    Sorts before s xs (zs ++ ws) where
  perm := (hx.perm.append hy.perm).trans (List.filter_append_perm chosen xs)
  sorted := by
    refine List.pairwise_append.2 ⟨hx.sorted, hy.sorted, fun x hz y hw => ?_⟩
    obtain ⟨hxmem, hchosen⟩ := List.mem_filter.1 (hx.perm.mem_iff.1 hz)
    obtain ⟨hymem, hother⟩ := List.mem_filter.1 (hy.perm.mem_iff.1 hw)
    exact h.asymm x (hxs hxmem) y (hxs hymem)
      (hparts x hxmem hchosen y hymem (by simpa using hother))
  stable a ha := by
    rw [List.filter_append, hx.stable a ha, hy.stable a ha,
      hparts.filter_ties h hxs ha]

/-! ## The pivot -/

theorem parts_before (h : Orders before s) (hxs : xs ⊆ s) {pivot : α}
    (hpivot : pivot ∈ s) : Parts before xs (before · pivot) :=
  fun _ hx hchosen _ hy hother =>
    h.before_of_before_of_not (hxs hx) hpivot (hxs hy) hchosen hother

theorem parts_not_behind (h : Orders before s) (hxs : xs ⊆ s) {pivot : α}
    (hpivot : pivot ∈ s) : Parts before xs (!before pivot ·) :=
  fun _ hx hchosen _ hy hother =>
    h.before_of_not_of_before (hxs hx) hpivot (hxs hy) (by simpa using hchosen)
      (by simpa using hother)

/-- If nothing is before the pivot, what it is not before ties with it. -/
theorem sorted_equal (h : Orders before s) (hxs : xs ⊆ s) {pivot : α}
    (hpivot : pivot ∈ s) (hleast : ∀ x ∈ xs, before x pivot = false) :
    Sorted before (xs.filter (!before pivot ·)) := by
  refine List.pairwise_of_forall_mem_list fun x hx y hy => ?_
  obtain ⟨hxmem, hxnot⟩ := List.mem_filter.1 hx
  have hymem := (List.mem_filter.1 hy).1
  exact h.trans x (hxs hxmem) pivot hpivot y (hxs hymem) (by simpa using hxnot)
    (hleast y hymem)

/-- The pivot is put by itself where it is not chosen. -/
theorem perm_partition (chosen : α → Bool) (front : List α) (pivot : α)
    (back : List α) :
    ((front.filter (!chosen ·) ++ pivot :: back.filter (!chosen ·)) ++
      (front ++ back).filter chosen).Perm (front ++ pivot :: back) := by
  have hothers : ((front ++ back).filter (!chosen ·) ++
      (front ++ back).filter chosen).Perm (front ++ back) :=
    List.perm_append_comm.trans (List.filter_append_perm chosen _)
  rw [List.filter_append] at hothers
  calc
    ((front.filter (!chosen ·) ++ pivot :: back.filter (!chosen ·)) ++
        (front ++ back).filter chosen).Perm
      (pivot :: (front.filter (!chosen ·) ++ back.filter (!chosen ·)) ++
        (front ++ back).filter chosen) := List.perm_middle.append_right _
    _ |>.Perm (pivot :: (front ++ back)) := hothers.cons pivot
    _ |>.Perm (front ++ pivot :: back) := List.perm_middle.symm

theorem filter_pivot (chosen : α → Bool) (front back : List α) {pivot : α}
    (h : chosen pivot = false) :
    (front ++ back).filter chosen = (front ++ pivot :: back).filter chosen := by
  rw [List.filter_append, List.filter_append,
    List.filter_cons_of_neg (ne_true_of_eq_false h)]

theorem filter_not_pivot (chosen : α → Bool) (front back : List α) {pivot : α}
    (h : chosen pivot = false) :
    front.filter (!chosen ·) ++ pivot :: back.filter (!chosen ·) =
      (front ++ pivot :: back).filter (!chosen ·) := by
  rw [List.filter_append, List.filter_cons_of_pos (by simp [h])]

/-! ## The sort -/

/-- One partition of a long list. All that is known of the pivot is that it is
one of the elements. -/
theorem exists_partition (before : α → α → Bool)
    (fallback : List α → Option (List α)) (limit : Nat) (ancestor : Option α)
    {xs : List α} (hlong : ¬xs.length ≤ 32) :
    ∃ front pivot back, xs = front ++ pivot :: back ∧
      quicksort before fallback (limit + 1) ancestor xs =
        if ancestor.any (fun a => !before a pivot) ||
            ((front ++ back).filter (before · pivot)).isEmpty then
          (quicksort before fallback limit none
            ((front ++ back).filter (before pivot ·))).map
              ((front.filter (!before pivot ·) ++
                pivot :: back.filter (!before pivot ·)) ++ ·)
        else
          (quicksort before fallback limit (some pivot)
            (front.filter (!before · pivot) ++
              pivot :: back.filter (!before · pivot))).bind fun rest =>
            (quicksort before fallback limit ancestor
              ((front ++ back).filter (before · pivot))).bind fun least =>
              some (least ++ rest) := by
  let place := pseudoMedian before xs 0 xs.length (by omega) (by omega)
  refine ⟨xs.take place, xs[place], xs.drop (place + 1), ?_, ?_⟩
  · rw [Fin.getElem_fin, List.getElem_cons_drop, List.take_append_drop]
  · rw [quicksort, dif_neg hlong]
    rfl

/-- Nothing is before the pivot, if nothing is before an ancestor that is not
before the pivot, or if nothing was found before it. -/
theorem not_before_pivot (h : Orders before s) {ancestor : Option α}
    {front back : List α} {pivot : α} (hs : front ++ pivot :: back ⊆ s)
    (hancestor : ∀ a, ancestor = some a →
      a ∈ s ∧ ∀ x ∈ front ++ pivot :: back, before x a = false)
    (hfound : (ancestor.any (fun a => !before a pivot) ||
      ((front ++ back).filter (before · pivot)).isEmpty) = true) :
    ∀ x ∈ front ++ pivot :: back, before x pivot = false := by
  have hpivot : pivot ∈ s := hs (List.mem_append_right _ (.head _))
  rcases (Bool.or_eq_true ..).mp hfound with hany | hempty
  · cases ancestor with
    | none => cases hany
    | some a =>
        obtain ⟨ha, hall⟩ := hancestor a rfl
        intro x hx
        exact h.trans pivot hpivot a ha x (hs hx) (by simpa using hany)
          (hall x hx)
  · rw [filter_pivot (before · pivot) front back (h.irrefl hpivot)] at hempty
    intro x hx
    exact eq_false_of_ne_true
      (List.filter_eq_nil_iff.1 (List.isEmpty_iff.1 hempty) x hx)

/-- Sorting by partition sorts, if what it falls back to does. -/
theorem quicksort_yields {fallback : List α → Option (List α)}
    (hfallback : IsStableSort before fallback) (limit : Nat) :
    ∀ (ancestor : Option α) (xs : List α), xs ⊆ s →
      (Orders before s → ∀ a, ancestor = some a →
        a ∈ s ∧ ∀ x ∈ xs, before x a = false) →
      Yields (Orders before s) (Arranges before s xs)
        (quicksort before fallback limit ancestor xs) := by
  induction limit with
  | zero =>
      intro ancestor xs hxs hancestor
      rw [quicksort]
      split
      · exact isStableSort_smallSort before s xs hxs
      · exact hfallback s xs hxs
  | succ limit ih =>
      intro ancestor xs hxs hancestor
      by_cases hlong : xs.length ≤ 32
      · rw [quicksort, dif_pos hlong]
        exact isStableSort_smallSort before s xs hxs
      obtain ⟨front, pivot, back, rfl, hpartition⟩ :=
        exists_partition before fallback limit ancestor hlong
      have hpivot : pivot ∈ s := hxs (List.mem_append_right _ (.head _))
      rw [hpartition]
      split
      · next hfound =>
          have hperm := perm_partition (before pivot ·) front pivot back
          have hgreater := (List.append_subset.1 hperm.subset).2
          have hgreater := List.Subset.trans hgreater hxs
          refine (ih none _ hgreater fun _ _ => nofun).map fun zs hzs => ?_
          refine ⟨(hzs.perm.append_left _).trans hperm, fun h => ?_⟩
          have hsorts := hzs.sorts h
          have hirrefl := h.irrefl hpivot
          rw [filter_pivot (before pivot ·) front back hirrefl] at hsorts
          rw [filter_not_pivot (before pivot ·) front back hirrefl]
          have hleast := not_before_pivot h hxs (hancestor h) hfound
          exact .append h hxs (parts_not_behind h hxs hpivot)
            (.of_sorted (sorted_equal h hxs hpivot hleast))
            (by simpa using hsorts)
      · have hperm := perm_partition (before · pivot) front pivot back
        obtain ⟨hrest, hleast⟩ := List.append_subset.1 hperm.subset
        have hrestYields := ih (some pivot) _ (List.Subset.trans hrest hxs)
          fun h a ha => by
            obtain rfl := Option.some.inj ha
            refine ⟨hpivot, fun x hx => ?_⟩
            rw [filter_not_pivot (before · pivot) front back (h.irrefl hpivot)]
              at hx
            simpa using (List.mem_filter.1 hx).2
        have hleastYields := ih ancestor _ (List.Subset.trans hleast hxs)
          fun h a ha => ⟨(hancestor h a ha).1, fun x hx =>
            (hancestor h a ha).2 x (hleast hx)⟩
        refine hrestYields.bind fun rest hzs => hleastYields.bind
          fun least hws => .some ⟨?_, fun h => ?_⟩
        · exact (hws.perm.append hzs.perm).trans
            (List.perm_append_comm.trans hperm)
        · have hrestSorts := hzs.sorts h
          have hleastSorts := hws.sorts h
          have hirrefl := h.irrefl hpivot
          rw [filter_pivot (before · pivot) front back hirrefl] at hleastSorts
          rw [filter_not_pivot (before · pivot) front back hirrefl]
            at hrestSorts
          exact .append h hxs (parts_before h hxs hpivot) hleastSorts
            hrestSorts

end TenantTables.Sorting
