import TenantTables.Proofs.NestedPath

/-!
# Sorting below a column, in memory and in the database

What is found below a column comes out of the database as text, and is ordered
as text. In memory it is ordered by what it is: two numbers as numbers, and only
everything else by text. Missing values are last in ascending order on both
sides, and booleans stand as their texts do. So two rows are told apart exactly
by two numbers that do not stand as their texts do, such as 9 and 10.

That both sides find the same value is assumed here; when they do is the subject
of `TenantTables.Proofs.NestedPath`.
-/

namespace TenantTables.Sql

open Json (Value Object)
open Query

/-! ## The order of the rendered expression -/

variable {spec : TableSpec} {r : ColumnRef} {s : SortTerm} {a b : Object}

/-- What the database finds for a reference in a row. -/
def found? (r : ColumnRef) (row : Object) : Option Value :=
  (row.get? r.column.name).bind fun doc => extract doc (pathLiteral r.path)

/-- The value of the expression for a reference in a row. -/
def expressionText? (r : ColumnRef) (row : Object) : Option String :=
  (found? r row).bind Value.toText?

/-- An ascending order in some direction. -/
def directed : Direction → Ordering → Ordering
  | .asc, o => o
  | .desc, o => opposite o

/-- The order of the expression in two rows. Nulls are last when ascending and
first when descending. -/
def orderRows (r : ColumnRef) (direction : Direction)
    (a b : Object) : Ordering :=
  directed direction
    (missingLast Text.order (expressionText? r a) (expressionText? r b))

/-- Two rows, the second in front if it comes before the first. -/
def placed (order : Object → Object → Ordering) (a b : Object) : List Object :=
  if order b a = .lt then [b, a] else [a, b]

theorem directed_swap (direction : Direction) (o : Ordering) :
    directed direction o.swap = (directed direction o).swap := by
  cases direction <;> cases o <;> rfl

theorem directed_inj {direction : Direction} {o p : Ordering} :
    directed direction o = directed direction p ↔ o = p := by
  cases direction <;> cases o <;> cases p <;> decide

theorem missingLast_swap {α : Type} {cmp : α → α → Ordering}
    (h : ∀ a b, cmp b a = (cmp a b).swap) (x y : Option α) :
    missingLast cmp y x = (missingLast cmp x y).swap := by
  cases x <;> cases y <;> first | rfl | exact h _ _

theorem orderRows_swap (r : ColumnRef) (direction : Direction) (a b : Object) :
    orderRows r direction b a = (orderRows r direction a b).swap := by
  rw [orderRows, missingLast_swap Text.order_swap, directed_swap]
  rfl

/-- Where turning round gives the opposite, the places of two rows
tell their order. -/
theorem placed_eq_placed_iff {order other : Object → Object → Ordering}
    (horder : ∀ a b, order b a = (order a b).swap)
    (hother : ∀ a b, other b a = (other a b).swap) :
    placed order a b = placed other a b ∧ placed order b a = placed other b a ↔
      order a b = other a b := by
  unfold placed
  -- Rows that are equal stand the same way round in any order,
  -- and are in no order.
  by_cases hab : a = b
  · subst hab
    have hself : ∀ o : Ordering, o = o.swap → o = .eq := by decide
    simp [hself _ (horder a a), hself _ (hother a a)]
  · have hne : [a, b] ≠ [b, a] := fun h => hab (List.cons.inj h).1
    rw [horder a b, hother a b]
    cases order a b <;> cases other a b <;> simp [hne, hne.symm]

/-! ## The order in memory

A value that is found has a text on both sides, and only two numbers are
compared otherwise than by it. -/

theorem compare_eq_directed (s : SortTerm) (a b : Object) :
    s.compare a b =
      directed s.direction
        (compareValues (lookup a s.column) (lookup b s.column)) := by
  unfold SortTerm.compare directed
  cases s.direction <;> rfl

theorem compare_swap (s : SortTerm) (a b : Object) :
    s.compare b a = (s.compare a b).swap := by
  rw [compare_eq_directed, compareValues_swap, opposite_eq_swap, directed_swap,
    ← compare_eq_directed]

theorem sortRows_pair (s : SortTerm) (a b : Object) :
    sortRows [s] [a, b] = some (placed s.compare a b) := by
  have hone : ∀ c d, compareRows [s] c d = s.compare c d := by
    intro c d
    rw [compareRows]
    cases s.compare c d <;> rfl
  have hsort : sortRows [s] [a, b] =
      some (if s.compare b a == .lt then [b, a] else [a, b]) := by
    rw [← hone b a]
    change some (List.reverse (if compareRows [s] b a == .lt then _ else _)) = _
    split <;> rfl
  rw [hsort, placed]
  cases s.compare b a <;> rfl

theorem texts_of_present (found : Option Value) :
    (present found).bind Value.toText? = (present found).map sortText := by
  rcases hfound : present found with _ | v
  · rfl
  · have hnull := (Option.filter_eq_some_iff.1 hfound).2
    cases v with
    | null => cases hnull
    | _ => rfl

theorem comparePresent_eq_iff (v w : Value) :
    comparePresent v w = Text.order (sortText v) (sortText w) ↔
      ∀ x ∈ v.double?, ∀ y ∈ w.double?,
        x.compare y = Text.order (sortText v) (sortText w) := by
  unfold comparePresent
  cases v.double? with
  | none => simp
  | some x => cases w.double? <;> simp

theorem compare_eq_orderRows_iff (ha : present? a s.column = found? r a)
    (hb : present? b s.column = found? r b) :
    s.compare a b = orderRows r s.direction a b ↔
      ∀ v ∈ present? a s.column, ∀ w ∈ present? b s.column, ∀ x ∈ v.double?,
        ∀ y ∈ w.double?,
        x.compare y = Text.order (sortText v) (sortText w) := by
  have htext : ∀ c, present? c s.column = found? r c →
      expressionText? r c = (present? c s.column).map sortText := by
    intro c hc
    rw [expressionText?, ← hc]
    exact texts_of_present _
  rw [compare_eq_directed, orderRows, directed_inj, compareValues_eq,
    htext a ha, htext b hb]
  change missingLast comparePresent (present? a s.column)
    (present? b s.column) = _ ↔ _
  cases present? a s.column with
  | none => cases present? b s.column <;> simp [missingLast]
  | some v =>
      cases present? b s.column with
      | none => simp [missingLast]
      | some w =>
          rw [Option.map_some, Option.map_some, missingLast, missingLast,
            comparePresent_eq_iff]
          simp

/-- A sort on a path is rendered as the text below the column in its direction.
Where the path finds the same on both sides, it puts two rows in the order of
that text exactly if they do not have two numbers there that stand otherwise
than their texts. -/
theorem nested_column_sorts_alike_iff (h : spec.columnRef? s.column = some r)
    (hnested : r.isNested = true) (ha : present? a s.column = found? r a)
    (hb : present? b s.column = found? r b) :
    orderBy spec [s] =
      some ("(" ++ quote r.column.name ++ "#>>" ++ pathLiteral r.path ++ ")" ++
      " " ++ s.direction.sql) ∧
    (sortRows [s] [a, b] = some (placed (orderRows r s.direction) a b) ∧
        sortRows [s] [b, a] = some (placed (orderRows r s.direction) b a) ↔
      ∀ v ∈ present? a s.column, ∀ w ∈ present? b s.column, ∀ x ∈ v.double?,
        ∀ y ∈ w.double?,
        x.compare y = Text.order (sortText v) (sortText w)) := by
  constructor
  · have hterm : orderBy spec [s] =
        some (columnExpression r ++ " " ++ s.direction.sql) := by
      simp [orderBy, h]
    rw [hterm, columnExpression, if_pos hnested]
  · rw [sortRows_pair, sortRows_pair, Option.some_inj, Option.some_inj,
      placed_eq_placed_iff (compare_swap s) (orderRows_swap r s.direction),
      compare_eq_orderRows_iff ha hb]

/-- Sizes of two kinds, in the order of their texts both ways. -/
theorem three_and_large_sort_alike :
    let three : Object := [("data", .obj [("size", .int 3)])]
    let large : Object := [("data", .obj [("size", .str "L")])]
    TableSpec.default.columnRef? "data.size" = some ⟨dataColumn, ["size"]⟩ ∧
      present? three "data.size" = found? ⟨dataColumn, ["size"]⟩ three ∧
      present? large "data.size" = found? ⟨dataColumn, ["size"]⟩ large ∧
      sortRows [⟨"data.size", .desc⟩] [three, large] =
        some (placed (orderRows ⟨dataColumn, ["size"]⟩ .desc) three large) := by
  intro three large
  have href : TableSpec.default.columnRef? "data.size" =
      some ⟨dataColumn, ["size"]⟩ := by
    decide +kernel
  have hthree :
      present? three "data.size" = found? ⟨dataColumn, ["size"]⟩ three := rfl
  have hlarge :
      present? large "data.size" = found? ⟨dataColumn, ["size"]⟩ large := rfl
  have hsorts :=
    nested_column_sorts_alike_iff (s := ⟨"data.size", .desc⟩) href rfl
      hthree hlarge
  refine ⟨href, hthree, hlarge, (hsorts.2.2 ?_).1⟩
  rintro v - w hw x - y hy
  obtain rfl : Value.str "L" = w := Option.some.inj hw
  cases hy

/-- Nine comes before ten in memory, and behind it in the database. -/
theorem nine_and_ten_sort_apart :
    let nine : Object := [("data", .obj [("size", .int 9)])]
    let ten : Object := [("data", .obj [("size", .int 10)])]
    TableSpec.default.columnRef? "data.size" = some ⟨dataColumn, ["size"]⟩ ∧
      sortRows [⟨"data.size", .asc⟩] [nine, ten] = some [nine, ten] ∧
      placed (orderRows ⟨dataColumn, ["size"]⟩ .asc) nine ten =
        [ten, nine] := by
  intro nine ten
  have hmemory : SortTerm.compare ⟨"data.size", .asc⟩ ten nine ≠ .lt := by
    decide +kernel
  have hdatabase : orderRows ⟨dataColumn, ["size"]⟩ .asc ten nine = .lt := by
    decide +kernel
  refine ⟨by decide +kernel, ?_, if_pos hdatabase⟩
  rw [sortRows_pair]
  exact congrArg some (if_neg hmemory)

end TenantTables.Sql
