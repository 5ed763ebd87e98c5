import TenantTables.Proofs.NestedOrder
import TenantTables.Proofs.RunSort

/-!
# Sorted rows

Terms are compared one after another, and turned around for a descending one. If
the values under each sort column are in order, so are the rows. The circles of
`TenantTables.Proofs.ValueOrder` go through a number and a value of another
kind, so it is enough that the values of a column are all numbers, or that none
is. Then the sort is what it should be: the same rows, in order, and rows that
no term tells apart as they came.

The order is needed among the sorted rows only, so it is asked for of a list and
not of all rows there could be. Without it the sort may have no result, but not
if there are only a few rows.
-/

namespace TenantTables.Query

open Json (Value Object)

/-! ## Orders on the elements of a list -/

/-- A comparison that puts the elements of a list in order. -/
structure OrdersOn {α : Type} (cmp : α → α → Ordering)
    (xs : List α) : Prop where
  swap : ∀ a b, cmp b a = (cmp a b).swap
  trans : ∀ a ∈ xs, ∀ b ∈ xs, ∀ c ∈ xs, (cmp a b).isLE = true →
    (cmp b c).isLE = true → (cmp a c).isLE = true

namespace OrdersOn

variable {α : Type} {cmp other : α → α → Ordering} {xs : List α} {a b c : α}

theorem lt_iff (h : OrdersOn cmp xs) :
    cmp a b = .lt ↔ ¬(cmp b a).isLE = true := by
  rw [h.swap a b]
  cases cmp a b <;> decide

theorem eq_iff (h : OrdersOn cmp xs) :
    cmp a b = .eq ↔ (cmp a b).isLE = true ∧ (cmp b a).isLE = true := by
  rw [h.swap a b]
  cases cmp a b <;> decide

theorem lt_of_lt_of_isLE (h : OrdersOn cmp xs) (ha : a ∈ xs) (hb : b ∈ xs)
    (hc : c ∈ xs) (hab : cmp a b = .lt) (hbc : (cmp b c).isLE = true) :
    cmp a c = .lt :=
  h.lt_iff.2 fun hca => h.lt_iff.1 hab (h.trans b hb c hc a ha hbc hca)

theorem lt_of_isLE_of_lt (h : OrdersOn cmp xs) (ha : a ∈ xs) (hb : b ∈ xs)
    (hc : c ∈ xs) (hab : (cmp a b).isLE = true) (hbc : cmp b c = .lt) :
    cmp a c = .lt :=
  h.lt_iff.2 fun hca => h.lt_iff.1 hbc (h.trans c hc a ha b hb hca hab)

theorem eq_trans (h : OrdersOn cmp xs) (ha : a ∈ xs) (hb : b ∈ xs) (hc : c ∈ xs)
    (hab : cmp a b = .eq) (hbc : cmp b c = .eq) : cmp a c = .eq := by
  rw [h.eq_iff] at hab hbc ⊢
  exact ⟨h.trans a ha b hb c hc hab.1 hbc.1, h.trans c hc b hb a ha hbc.2 hab.2⟩

/-- Comparing by a second order what the first does not tell apart. -/
theorem lex (h : OrdersOn cmp xs) (h' : OrdersOn other xs) :
    OrdersOn (fun a b => (cmp a b).then (other a b)) xs where
  swap a b := by rw [h.swap a b, h'.swap a b, Ordering.swap_then]
  trans a ha b hb c hc hab hbc := by
    rw [Ordering.isLE_then_iff_or] at hab hbc ⊢
    obtain hab | ⟨hab, hab'⟩ := hab
    · have hbc : (cmp b c).isLE = true := by
        obtain hbc | ⟨hbc, -⟩ := hbc <;> rw [hbc] <;> rfl
      exact .inl (h.lt_of_lt_of_isLE ha hb hc hab hbc)
    · obtain hbc | ⟨hbc, hbc'⟩ := hbc
      · exact .inl (h.lt_of_isLE_of_lt ha hb hc (by rw [hab]; rfl) hbc)
      · exact .inr ⟨h.eq_trans ha hb hc hab hbc,
          h'.trans a ha b hb c hc hab' hbc'⟩

/-- What is not behind an element is at most that element. -/
theorem not_before_iff (h : OrdersOn cmp xs) :
    (cmp b a == .lt) = false ↔ (cmp a b).isLE = true := by
  rw [beq_eq_false_iff_ne, Ne, h.lt_iff, not_not]

/-- The sort has an order to rely on. -/
theorem orders (h : OrdersOn cmp xs) :
    Sorting.Orders (fun a b => cmp a b == .lt) xs where
  asymm a _ b _ hab := by
    rw [h.not_before_iff, eq_of_beq hab]
    rfl
  trans a ha b hb c hc hab hbc := by
    rw [h.not_before_iff] at hab hbc ⊢
    exact h.trans a ha b hb c hc hab hbc

/-- Elements tie if they are not told apart. -/
theorem ties_eq (h : OrdersOn cmp xs) :
    Sorting.ties (fun a b => cmp a b == .lt) a b = (cmp a b == .eq) := by
  rw [Sorting.ties, h.swap a b]
  cases cmp a b <;> rfl

end OrdersOn

/-! ## Rows under a term -/

/-- The order of two rows under a term. A row without a value is last when
ascending and first when descending. -/
def SortTerm.order (s : SortTerm) (a b : Object) : Ordering :=
  match s.direction, present? a s.column, present? b s.column with
  | _, none, none => .eq
  | .asc, some _, none => .lt
  | .asc, none, some _ => .gt
  | .asc, some v, some w => comparePresent v w
  | .desc, some _, none => .gt
  | .desc, none, some _ => .lt
  | .desc, some v, some w => (comparePresent v w).swap

/-- The values of rows under a column are all numbers, or none is. -/
def OneKind (rows : List Object) (column : String) : Prop :=
  (∀ row ∈ rows, ∀ v ∈ present? row column, v.double?.isSome = true) ∨
    ∀ row ∈ rows, ∀ v ∈ present? row column, v.double? = none

variable {s : SortTerm} {sorts : List SortTerm} {rows : List Object}
  {a b : Object}

theorem compare_eq_order (s : SortTerm) (a b : Object) :
    s.compare a b = s.order a b := by
  obtain ⟨column, direction⟩ := s
  rw [Sql.compare_eq_directed, compareValues_eq]
  change Sql.directed direction
    (missingLast comparePresent (present? a column) (present? b column)) = _
  unfold SortTerm.order
  cases direction <;> cases present? a column <;>
    cases present? b column <;> rfl

/-- Values of one kind are in order. -/
theorem inOrder_of_oneKind {column : String} (h : OneKind rows column) :
    InOrder (rows.map (lookup · column)) := by
  have hmem : ∀ v ∈ (rows.map (lookup · column)).filterMap present,
      ∃ row ∈ rows, v ∈ present? row column := by
    intro v hv
    obtain ⟨found, hfound, hv⟩ := List.mem_filterMap.1 hv
    obtain ⟨row, hrow, rfl⟩ := List.mem_map.1 hfound
    exact ⟨row, hrow, hv⟩
  refine inOrder_iff.2 (trans_of_agreeAcrossTexts ?_)
  intro v hv w _ u hu x hx y _ hother
  obtain ⟨row, hrow, hv⟩ := hmem v hv
  obtain ⟨row', hrow', hu⟩ := hmem u hu
  rcases h with hnumbers | hothers
  · have hnumber := hnumbers row' hrow' u hu
    rw [hother] at hnumber
    cases hnumber
  · rw [hothers row hrow v hv] at hx
    cases hx

theorem ordersOn_compare (h : InOrder (rows.map (lookup · s.column))) :
    OrdersOn s.compare rows where
  swap := Sql.compare_swap s
  trans a ha b hb c hc hab hbc := by
    have hmem : ∀ row ∈ rows,
        lookup row s.column ∈ rows.map (lookup · s.column) :=
      fun row hrow => List.mem_map_of_mem hrow
    rw [Sql.compare_eq_directed] at hab hbc ⊢
    cases hdirection : s.direction with
    | asc =>
        rw [hdirection] at hab hbc
        exact h _ (hmem a ha) _ (hmem b hb) _ (hmem c hc) hab hbc
    | desc =>
        rw [hdirection] at hab hbc
        simp only [Sql.directed, ← compareValues_swap] at hab hbc ⊢
        exact h _ (hmem c hc) _ (hmem b hb) _ (hmem a ha) hbc hab

/-! ## Rows under all terms -/

theorem compareRows_cons (s : SortTerm) (sorts : List SortTerm) (a b : Object) :
    compareRows (s :: sorts) a b =
      (s.compare a b).then (compareRows sorts a b) := by
  rw [compareRows]
  cases s.compare a b <;> rfl

/-- The values of rows under each sort column are in order. -/
def Sortable (sorts : List SortTerm) (rows : List Object) : Prop :=
  ∀ s ∈ sorts, InOrder (rows.map (lookup · s.column))

theorem ordersOn_compareRows (h : Sortable sorts rows) :
    OrdersOn (compareRows sorts) rows := by
  induction sorts with
  | nil => exact ⟨fun _ _ => rfl, fun _ _ _ _ _ _ _ _ => rfl⟩
  | cons s sorts ih =>
      rw [Sortable, List.forall_mem_cons] at h
      have hlex := (ordersOn_compare h.1).lex (ih h.2)
      have heq : compareRows (s :: sorts) =
          fun a b => (s.compare a b).then (compareRows sorts a b) :=
        funext fun a => funext (compareRows_cons s sorts a)
      rwa [heq]

/-- No term tells two rows apart. -/
def Tied (sorts : List SortTerm) (a b : Object) : Prop :=
  ∀ s ∈ sorts, s.order a b = .eq

instance (sorts : List SortTerm) (a b : Object) : Decidable (Tied sorts a b) :=
  inferInstanceAs (Decidable (∀ s ∈ sorts, _))

/-- The first term that tells two rows apart puts the one in
front of the other. -/
def InFront (sorts : List SortTerm) (a b : Object) : Prop :=
  ∃ front s behind, sorts = front ++ s :: behind ∧ Tied front a b ∧
    s.order a b = .lt

theorem inFront_cons : InFront (s :: sorts) a b ↔
    s.order a b = .lt ∨ s.order a b = .eq ∧ InFront sorts a b := by
  constructor
  · rintro ⟨front, t, behind, hsorts, htied, hlt⟩
    cases front with
    | nil =>
        obtain ⟨rfl, rfl⟩ := List.cons.inj hsorts
        exact .inl hlt
    | cons s' front =>
        obtain ⟨rfl, rfl⟩ := List.cons.inj hsorts
        obtain ⟨heq, htied⟩ := List.forall_mem_cons.1 htied
        exact .inr ⟨heq, front, t, behind, rfl, htied, hlt⟩
  · rintro (hlt | ⟨heq, front, t, behind, rfl, htied, hlt⟩)
    · exact ⟨[], s, sorts, rfl, nofun, hlt⟩
    · exact ⟨s :: front, t, behind, rfl,
        List.forall_mem_cons.2 ⟨heq, htied⟩, hlt⟩

theorem compareRows_eq_lt_iff :
    compareRows sorts a b = .lt ↔ InFront sorts a b := by
  induction sorts with
  | nil =>
      refine iff_of_false nofun ?_
      rintro ⟨front, s, behind, hsorts, -⟩
      simp at hsorts
  | cons s sorts ih =>
      rw [compareRows_cons, Ordering.then_eq_lt, ih, compare_eq_order,
        inFront_cons]

theorem compareRows_eq_eq_iff :
    compareRows sorts a b = .eq ↔ Tied sorts a b := by
  induction sorts with
  | nil => exact iff_of_true rfl nofun
  | cons s sorts ih =>
      rw [compareRows_cons, Ordering.then_eq_eq, ih, compare_eq_order,
        Tied, Tied, List.forall_mem_cons]

/-! ## The sort -/

/-- Sorting rows is a sort by the terms, which has nothing to do without any. -/
theorem sortRows_yields (sorts : List SortTerm) (rows : List Object) :
    Sorting.Yields
      (Sorting.Orders (fun a b => compareRows sorts a b == .lt) rows)
      (Sorting.Arranges (fun a b => compareRows sorts a b == .lt) rows rows)
      (sortRows sorts rows) := by
  rw [sortRows]
  split
  · next hnone =>
      rw [List.isEmpty_iff.1 hnone]
      have hsorted :
          Sorting.Sorted (fun a b => compareRows [] a b == .lt) rows :=
        List.pairwise_of_forall_mem_list fun _ _ _ _ => rfl
      exact .some ⟨.refl rows, fun _ => .of_sorted hsorted⟩
  · exact Sorting.isStableSort_stableSort _ rows rows (List.Subset.refl rows)

/-- Sorting puts the rows into another order and does nothing else. -/
theorem perm_sortRows {sorted : List Object}
    (h : sortRows sorts rows = some sorted) :
    sorted.Perm rows :=
  ((sortRows_yields sorts rows).sound sorted h).perm

/-- Twenty rows are sorted whatever their values are. -/
theorem exists_sortRows (h : rows.length ≤ 20 ∨ Sortable sorts rows) :
    ∃ sorted, sortRows sorts rows = some sorted := by
  rcases h with hfew | hsortable
  · rw [sortRows, Sorting.stableSort, if_pos hfew]
    split
    · exact ⟨rows, rfl⟩
    · exact ⟨_, rfl⟩
  · exact (sortRows_yields sorts rows).result
      (ordersOn_compareRows hsortable).orders

/-- Rows whose values under each sort column are all numbers, or all something
else, are the same rows behind the sort. They stand in order, the first term
that tells two apart deciding, and those that no term tells apart stand as they
came. -/
theorem rows_are_sorted (h : ∀ s ∈ sorts, OneKind rows s.column) :
    ∃ sorted, sortRows sorts rows = some sorted ∧
      sorted.Perm rows ∧
      sorted.Pairwise (fun a b => InFront sorts a b ∨ Tied sorts a b) ∧
      ∀ row ∈ rows, sorted.filter (Tied sorts row) =
        rows.filter (Tied sorts row) := by
  have hsortable : Sortable sorts rows :=
    fun s hs => inOrder_of_oneKind (h s hs)
  have horders := ordersOn_compareRows hsortable
  obtain ⟨sorted, hsort⟩ := exists_sortRows (.inr hsortable)
  have harranged := (sortRows_yields sorts rows).sound sorted hsort
  have hsorts := harranged.sorts horders.orders
  refine ⟨sorted, hsort, hsorts.perm, ?_, fun row hrow => ?_⟩
  · refine hsorts.sorted.imp fun {a b} hle => ?_
    rw [horders.not_before_iff] at hle
    rw [← compareRows_eq_lt_iff, ← compareRows_eq_eq_iff]
    revert hle
    cases compareRows sorts a b <;> decide
  · have hties : (fun b => decide (Tied sorts row b)) =
        Sorting.ties (fun a b => compareRows sorts a b == .lt) row := by
      funext b
      rw [horders.ties_eq, Bool.eq_iff_iff, decide_eq_true_iff, beq_iff_eq,
        compareRows_eq_eq_iff]
    rw [hties]
    exact hsorts.stable row hrow

/-- Two orders of one group and size keep their places, and one without a size
is first. -/
theorem sizes_are_sorted_within_groups :
    let row (id : String) (group : String) (size : Value) : Object :=
      [("uid", .str id), ("group", .str group), ("size", size)]
    let rows := [row "a" "small" (.int 1), row "b" "large" (.int 5),
      row "c" "large" .null, row "d" "small" (.int 3), row "e" "small" (.int 1)]
    let sorts : List SortTerm := [⟨"group", .asc⟩, ⟨"size", .desc⟩]
    (∀ s ∈ sorts, OneKind rows s.column) ∧
      row "a" "small" (.int 1) ∈ rows ∧
      ∃ sorted, sortRows sorts rows = some sorted ∧
        sorted.Pairwise (fun a b => InFront sorts a b ∨ Tied sorts a b) ∧
        sorted.filter (Tied sorts (row "a" "small" (.int 1))) =
          rows.filter (Tied sorts (row "a" "small" (.int 1))) ∧
        sorted.map (fun row => (row.get? "uid").bind Value.toText?) =
          [some "c", some "b", some "d", some "a", some "e"] := by
  intro row rows sorts
  have hkinds : ∀ s ∈ sorts, OneKind rows s.column := by
    refine List.forall_mem_cons.2
        ⟨.inr ?_, List.forall_mem_cons.2 ⟨.inl ?_, nofun⟩⟩ <;>
      decide +kernel
  have hrow : row "a" "small" (.int 1) ∈ rows := List.mem_cons_self ..
  obtain ⟨sorted, hsort, -, hpairwise, hstable⟩ := rows_are_sorted hkinds
  have hnames : (sortRows sorts rows).map
      (·.map fun row => (row.get? "uid").bind Value.toText?) =
        some [some "c", some "b", some "d", some "a", some "e"] := by
    decide +kernel
  rw [hsort] at hnames
  exact ⟨hkinds, hrow, sorted, hsort, hpairwise, hstable _ hrow,
    Option.some.inj hnames⟩

end TenantTables.Query
