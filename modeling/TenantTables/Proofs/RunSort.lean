import TenantTables.Proofs.PartitionSort

/-!
# Sorting by runs

A run stands for the part of the list that it was cut from: sorted, or as it is.
Joining two runs gives one that stands for both parts, and every step of the
sort joins neighbours, so what the waiting runs, the current one and those still
to come stand for is the whole list at any time. Which runs are joined first is
of no consequence for the elements and their order.

So the sort is one: where the comparison is an order it has a result, which is
in order, with what ties as it came, and any result has the same elements.
-/

namespace TenantTables.Sorting

variable {α : Type} {before : α → α → Bool} {s xs ys zs ws : List α}

/-! ## Natural runs -/

/-- Steps of one kind go on from the first element to every later one. -/
theorem pairwise_chain {R : α → α → Prop} {step : α → α → Bool}
    (htrans : ∀ a ∈ s, ∀ b ∈ s, ∀ c ∈ s, R a b → R b c → R a c)
    (hstep : ∀ a b, step a b = true → R a b) {x : α} (hs : x :: xs ⊆ s) :
    (x :: xs.take (chain step x xs)).Pairwise R := by
  induction xs generalizing x with
  | nil => exact List.pairwise_singleton R x
  | cons y ys ih =>
      rw [chain]
      split
      · next hxy =>
          obtain ⟨hx, hys⟩ := List.cons_subset.1 hs
          have hrest := ih hys
          rw [List.take_succ_cons]
          refine List.pairwise_cons.2 ⟨fun z hz => ?_, hrest⟩
          rcases List.mem_cons.1 hz with rfl | hmem
          · exact hstep x z hxy
          · exact htrans x hx y (hys (.head _)) z
              (hys (.tail _ (List.mem_of_mem_take hmem))) (hstep x y hxy)
              ((List.pairwise_cons.1 hrest).1 z hmem)
      · exact List.pairwise_singleton R x

/-- Elements that are strictly in the opposite order are sorted by turning them
around: no two of them tie. -/
theorem Sorts.of_descending (h : Orders before s) (hxs : xs ⊆ s)
    (hdown : xs.Pairwise fun a b => before b a = true) :
    Sorts before s xs xs.reverse where
  perm := List.reverse_perm xs
  sorted := List.pairwise_reverse.2 <| hdown.imp_of_mem fun {a b} ha hb hba =>
    h.asymm b (hxs hb) a (hxs ha) hba
  stable a ha := by
    rw [List.filter_reverse]
    have hties : (xs.filter (ties before a)).Pairwise fun _ _ => False :=
      (hdown.filter (ties before a)).imp_of_mem fun {b c} hb hc hcb => by
        obtain ⟨hb, hab⟩ := List.mem_filter.1 hb
        obtain ⟨hc, hac⟩ := List.mem_filter.1 hc
        have hnot := h.trans b (hxs hb) a ha c (hxs hc) (ties_iff.1 hab).1
          (ties_iff.1 hac).2
        exact Bool.noConfusion (hnot.symm.trans hcb)
    match xs.filter (ties before a), hties with
    | [], _ => rfl
    | [_], _ => rfl
    | _ :: _ :: _, hties =>
        exact ((List.pairwise_cons.1 hties).1 _ (.head _)).elim

theorem naturalRun_pos (before : α → α → Bool) (hne : xs ≠ []) :
    0 < (naturalRun before xs).1 := by
  match xs, hne with
  | [_], _ => exact Nat.one_pos
  | _ :: _ :: _, _ => exact Nat.succ_pos _

theorem sorts_naturalRun (h : Orders before s) (hxs : xs ⊆ s) :
    Sorts before s (xs.take (naturalRun before xs).1)
      (if (naturalRun before xs).2 then
        (xs.take (naturalRun before xs).1).reverse
      else xs.take (naturalRun before xs).1) := by
  match xs with
  | [] => exact .of_sorted .nil
  | [x] => exact .of_sorted (List.pairwise_singleton _ x)
  | x :: y :: ys =>
      have htake :
          (x :: y :: ys).take (naturalRun before (x :: y :: ys)).1 ⊆ s :=
        fun _ hz => hxs (List.mem_of_mem_take hz)
      cases hyx : before y x with
      | true =>
          simp only [naturalRun, hyx, List.take_succ_cons, if_true] at htake ⊢
          exact .of_descending h htake (pairwise_chain
            (fun a ha b hb c hc hba hcb =>
              h.before_of_before_of_not hc hb ha hcb (h.asymm _ hb _ ha hba))
            (fun a b hba => by simpa using hba) hxs)
      | false =>
          simp only [naturalRun, hyx, List.take_succ_cons, Bool.false_eq_true,
            if_false]
          exact .of_sorted (pairwise_chain h.trans
            (fun a b hba => by simpa using hba) hxs)

/-! ## Runs -/

/-- A run stands for a part of the list. -/
inductive Run.StandsFor (before : α → α → Bool) (s : List α) :
    Run α → List α → Prop
  | sorted {xs zs : List α} (h : Arranges before s xs zs) :
      StandsFor before s ⟨zs, true⟩ xs
  | unsorted (xs : List α) : StandsFor before s ⟨xs, false⟩ xs

/-- The run that a list begins with stands for as many of its elements as it
takes up, and takes up at least one. -/
theorem firstRun_yields (before : α → α → Bool) {enough : Nat}
    (henough : 0 < enough) (eager : Bool) (hxs : xs ⊆ s) (hne : xs ≠ []) :
    0 < (firstRun before enough eager xs).1 ∧
      Yields (Orders before s)
        (Run.StandsFor before s · (xs.take (firstRun before enough eager xs).1))
        (firstRun before enough eager xs).2 := by
  rw [firstRun]
  generalize hnatural : naturalRun before xs = natural
  obtain ⟨length, down⟩ := natural
  dsimp only
  split
  · have hpos := naturalRun_pos before hne
    have hsorts := fun h : Orders before s => sorts_naturalRun h hxs
    rw [hnatural] at hpos hsorts
    refine ⟨hpos, .some (.sorted ⟨?_, hsorts⟩)⟩
    split
    · exact List.reverse_perm _
    · exact .refl _
  · split
    · have htake : xs.take 32 ⊆ s := fun _ hx => hxs (List.mem_of_mem_take hx)
      exact ⟨Nat.succ_pos 31, (isStableSort_smallSort before s _ htake).map
        fun zs hzs => .sorted hzs⟩
    · exact ⟨henough, .some (.unsorted _)⟩

/-- Runs stand for the parts of a list, one behind the other. -/
inductive StandFor (before : α → α → Bool) (s : List α) :
    List (Run α) → List α → Prop
  | nil : StandFor before s [] []
  | cons {run : Run α} {runs : List (Run α)} {xs ys : List α}
      (hrun : run.StandsFor before s xs) (hruns : StandFor before s runs ys) :
      StandFor before s (run :: runs) (xs ++ ys)

theorem cutRuns_yields (before : α → α → Bool) {enough : Nat}
    (henough : 0 < enough) (eager : Bool) (hxs : xs ⊆ s) :
    Yields (Orders before s) (StandFor before s · xs)
      (cutRuns before enough eager xs) := by
  fun_induction cutRuns before enough eager xs with
  | case1 => exact .some .nil
  | case2 x xs length run? hfirst ih =>
      obtain ⟨hpos, hrun⟩ := firstRun_yields before henough eager hxs
        (List.cons_ne_nil x xs)
      rw [hfirst] at hpos hrun
      have hpos : 0 < length := hpos
      have hrest : xs.drop (length - 1) = (x :: xs).drop length := by
        conv => rhs; rw [← Nat.sub_add_cancel hpos, List.drop_succ_cons]
      have hruns := ih fun y hy => hxs (by
        rw [hrest] at hy
        exact List.mem_of_mem_drop hy)
      refine hrun.bind fun run hrun => hruns.bind fun runs hruns => .some ?_
      rw [hrest] at hruns
      rw [← List.take_append_drop length (x :: xs)]
      exact .cons hrun hruns

/-! ## Joining runs -/

theorem Arranges.mergeSorted (hxs : xs ⊆ s) (hys : ys ⊆ s)
    (hx : Arranges before s xs zs) (hy : Arranges before s ys ws) :
    Arranges before s (xs ++ ys) (mergeSorted before zs ws) := by
  rw [Sorting.mergeSorted]
  split
  · exact ⟨(perm_merge before zs ws).trans (hx.perm.append hy.perm),
      fun h => (hx.sorts h).merge h hxs hys (hy.sorts h)⟩
  · refine ⟨(perm_mergeBack before zs ws).trans (hx.perm.append hy.perm),
      fun h => ?_⟩
    have hleft := hx.sorts h
    have hright := hy.sorts h
    rw [mergeBack_eq h (hleft.subset hxs) (hright.subset hys) hleft.sorted
      hright.sorted]
    exact hleft.merge h hxs hys hright

theorem Run.StandsFor.sort_yields {quick : List α → Option (List α)}
    (hquick : IsStableSort before quick) {run : Run α} (hxs : xs ⊆ s)
    (hrun : run.StandsFor before s xs) :
    Yields (Orders before s) (Arranges before s xs) (run.sort quick) := by
  cases hrun with
  | sorted h => exact .some h
  | unsorted => exact hquick s xs hxs

/-- Joined runs stand for what both of them stand for. -/
def Joins (before : α → α → Bool) (s : List α)
    (join : Run α → Run α → Option (Run α)) : Prop :=
  ∀ left right xs ys, xs ++ ys ⊆ s → left.StandsFor before s xs →
    right.StandsFor before s ys →
    Yields (Orders before s) (Run.StandsFor before s · (xs ++ ys))
      (join left right)

theorem joins_joinRuns {quick : List α → Option (List α)}
    (hquick : IsStableSort before quick) (space : Nat) :
    Joins before s (joinRuns before quick space) := by
  intro left right xs ys hs hleft hright
  obtain ⟨hxs, hys⟩ := List.append_subset.1 hs
  rw [joinRuns]
  split
  · next hunsorted =>
      obtain ⟨-, hfirst, hsecond⟩ := hunsorted
      cases hleft with
      | sorted => cases hfirst
      | unsorted =>
          cases hright with
          | sorted => cases hsecond
          | unsorted => exact .some (.unsorted _)
  · refine (hleft.sort_yields hquick hxs).bind fun zs hzs => ?_
    refine (hright.sort_yields hquick hys).bind fun ws hws => .some ?_
    exact .sorted (hzs.mergeSorted hxs hys hws)

/-- Runs that wait stand for the parts in front of the current one, the last of
them first. -/
inductive WaitFor (before : α → α → Bool) (s : List α) :
    Waiting α → List α → Prop
  | nil : WaitFor before s [] []
  | cons {run : Run α} {waiting : Waiting α} {ws xs : List α} (depth : Nat)
      (hwaiting : WaitFor before s waiting ws)
      (hrun : run.StandsFor before s xs) :
      WaitFor before s ((run, depth) :: waiting) (ws ++ xs)

/-- Where a part ends and the next one starts may change, and at depth zero no
run is left to wait. -/
theorem collapse_yields {join : Run α → Run α → Option (Run α)}
    (hjoin : Joins before s join) (depth : Nat) {waiting : Waiting α}
    {run : Run α} (hs : ws ++ xs ⊆ s) (hwaiting : WaitFor before s waiting ws)
    (hrun : run.StandsFor before s xs) :
    Yields (Orders before s)
      (fun r => ∃ ws' xs', ws' ++ xs' = ws ++ xs ∧ WaitFor before s r.1 ws' ∧
        r.2.StandsFor before s xs' ∧ (depth = 0 → ws' = []))
      (collapse join depth waiting run) := by
  induction hwaiting generalizing run xs with
  | nil => exact .some ⟨[], xs, rfl, .nil, hrun, fun _ => rfl⟩
  | @cons left waiting ws ys d hwaiting hleft ih =>
      rw [collapse]
      split
      · rw [List.append_assoc] at hs ⊢
        have hys := (List.append_subset.1 hs).2
        exact (hjoin left run ys xs hys hleft hrun).bind
          fun run hrun => ih hs hrun
      · next hd =>
          exact .some ⟨ws ++ ys, xs, rfl, .cons d hwaiting hleft, hrun,
            fun hzero => absurd (hzero ▸ Nat.zero_le d) hd⟩

theorem joinAll_yields {join : Run α → Run α → Option (Run α)}
    (hjoin : Joins before s join) (n place : Nat) {waiting : Waiting α}
    {run : Run α} {runs : List (Run α)} (hs : ws ++ xs ++ ys ⊆ s)
    (hwaiting : WaitFor before s waiting ws) (hrun : run.StandsFor before s xs)
    (hruns : StandFor before s runs ys) :
    Yields (Orders before s) (Run.StandsFor before s · (ws ++ xs ++ ys))
      (joinAll join n place waiting run runs) := by
  induction hruns generalizing place waiting run ws xs with
  | nil =>
      rw [List.append_nil] at hs ⊢
      refine (collapse_yields hjoin 0 hs hwaiting hrun).bind fun r hr => ?_
      obtain ⟨ws', xs', hparts, -, hrun, hnil⟩ := hr
      rw [← hparts, hnil rfl]
      exact .some hrun
  | @cons next runs ys zs hnext hruns ih =>
      rw [joinAll]
      refine (collapse_yields hjoin _ (List.append_subset.1 hs).1 hwaiting
        hrun).bind fun r hr => ?_
      obtain ⟨ws', xs', hparts, hwaiting, hrun, -⟩ := hr
      rw [← hparts, ← List.append_assoc] at hs ⊢
      exact ih _ hs (.cons _ hwaiting hrun) hnext

theorem enoughFor_pos {n : Nat} (hn : 0 < n) : 0 < enoughFor n := by
  rw [enoughFor]
  split
  · omega
  · next hlong =>
      have hlog : 1 ≤ n.log2 := (Nat.le_log2 (by omega)).2 (by omega)
      have hpow : 2 ^ 1 ≤ 1 <<< ((1 + n.log2) / 2) := by
        rw [Nat.one_shiftLeft]
        exact Nat.pow_le_pow_right Nat.two_pos (by omega)
      exact Nat.div_pos (Nat.le_add_right_of_le hpow) Nat.two_pos

/-! ## The sort -/

/-- Sorting by runs sorts, if what sorts the pieces does. -/
theorem isStableSort_runSort {quick : List α → Option (List α)}
    (hquick : IsStableSort before quick) (space : Nat) (eager : Bool) :
    IsStableSort before (runSort before quick space eager) := by
  intro s xs hxs
  have hcut : Yields (Orders before s) (StandFor before s · xs)
      (cutRuns before (enoughFor xs.length) eager xs) := by
    cases xs with
    | nil => rw [cutRuns]; exact .some .nil
    | cons =>
        exact cutRuns_yields before (enoughFor_pos (Nat.succ_pos _)) eager hxs
  refine hcut.bind fun runs hruns => ?_
  cases hruns with
  | nil => exact .some ⟨.refl _, fun _ => .of_sorted .nil⟩
  | cons hrun hruns =>
      exact (joinAll_yields (joins_joinRuns hquick space) _ _ hxs .nil hrun
        hruns).bind fun run hrun => hrun.sort_yields hquick hxs

/-- The sort of pieces is one: whatever it falls back to sorts at once. -/
theorem isStableSort_quick (before : α → α → Bool) :
    IsStableSort before (quick before) :=
  fun _ xs hxs => quicksort_yields
    (isStableSort_runSort (isStableSort_smallSort before) xs.length true) _ none
    xs hxs fun _ _ => nofun

theorem isStableSort_stableSort (before : α → α → Bool) :
    IsStableSort before (stableSort before) := by
  intro s xs hxs
  rw [stableSort]
  split
  · exact .some ⟨perm_insertionSort before xs, fun h =>
      sorts_insertionSort h hxs⟩
  · exact isStableSort_runSort (isStableSort_quick before) _ _ s xs hxs

/-- A list of up to thirty-two elements that begins with no run is one piece. -/
theorem stableSort_eq_smallSort (hlong : 20 < xs.length) (hle : xs.length ≤ 32)
    (hrun : (naturalRun before xs).1 < enoughFor xs.length) :
    stableSort before xs = smallSort before xs := by
  have hfirst : firstRun before (enoughFor xs.length) true xs =
      (32, (smallSort before xs).map fun elements => ⟨elements, true⟩) := by
    rw [firstRun, List.take_of_length_le hle]
    exact if_neg (Nat.not_le_of_lt hrun)
  have hcut : cutRuns before (enoughFor xs.length) true xs =
      (smallSort before xs).map fun elements => [⟨elements, true⟩] := by
    cases xs with
    | nil => cases hlong
    | cons x xs =>
        have hrest : xs.drop 31 = [] :=
          List.drop_of_length_le (Nat.le_of_succ_le_succ hle)
        rw [cutRuns, hfirst]
        dsimp only
        rw [hrest, cutRuns]
        cases smallSort before (x :: xs) <;> rfl
  rw [stableSort, if_neg (by omega), runSort, decide_eq_true (by omega), hcut]
  cases smallSort before xs <;> rfl

end TenantTables.Sorting
