import TenantTables.Proofs.ConditionBinding

/-!
# The text of a condition does not depend on values

A filter and another of its shape become the same text, whatever their values
are. What the text does depend on besides columns, operators and negations can
be said in two bits for every clause: whether a range has both of its bounds,
and whether the literals of a comparison pass the test that the column has for
them. The first decides if there is a comparison, the second in which type it
is made. Nothing else of a value gets past the numbering of the placeholders,
and the number of bound values depends on the same.
-/

namespace TenantTables.Sql

open Query

/-- The literals that a clause tests: those of a comparison or a range. -/
def testedBy (c : Clause) : List String :=
  match c.operator with
  | .eq | .gt | .gte | .lt | .lte | .between => boundBy c
  | .isNull | .contains | .startsWith | .endsWith | .oneOf => []

/-- The test of literals: a value inside a document is compared as a number,
that of a column in the column's own type. -/
def passes (r : ColumnRef) (literals : List String) : Bool :=
  if r.isNested then literals.all Number.isNumericLiteral
  else literals.all r.column.type.acceptsLiteral

/-- Whether a range has both of its bounds. -/
def hasBounds (c : Clause) : Bool :=
  c.value.bounds.1.isSome && c.value.bounds.2.isSome

/-- Clauses that differ in their values only. -/
structure SameShape (spec : TableSpec) (c d : Clause) : Prop where
  column : c.column = d.column
  operator : c.operator = d.operator
  negate : c.negate = d.negate
  bounds : c.operator = .between → hasBounds c = hasBounds d
  tests : ∀ r ∈ spec.columnRef? c.column,
    passes r (testedBy c) = passes r (testedBy d)

variable {spec : TableSpec} {r : ColumnRef} {p q : Params}

/-! ## One clause -/

theorem comparesNested_congr {xs ys : List String}
    (h : passes r xs = passes r ys) :
    comparesNested r xs = comparesNested r ys := by
  unfold passes at h
  unfold comparesNested
  cases hr : r.isNested with
  | false => rfl
  | true => simpa [hr] using h

theorem typedOperand_congr {xs ys : List String} (h : passes r xs = passes r ys)
    (e : String) :
    typedOperand e r.type xs = typedOperand e r.type ys := by
  unfold passes at h
  unfold typedOperand ColumnRef.type
  cases hr : r.isNested with
  | true => rfl
  | false =>
      rw [hr, if_neg Bool.false_ne_true, if_neg Bool.false_ne_true] at h
      rw [if_neg Bool.false_ne_true, h]

theorem comparison_congr {v w : String} (h : passes r [v] = passes r [w])
    (hp : p.nextIndex = q.nextIndex) (sign : String) :
    (comparison r sign v p).1 = (comparison r sign w q).1 := by
  unfold comparison
  rw [Params.push_eq, Params.push_eq]
  dsimp only
  rw [comparesNested_congr h, typedOperand_congr h, hp]
  split <;> rfl

theorem range_congr {low high low' high' : String}
    (h : passes r [low, high] = passes r [low', high'])
    (hp : p.nextIndex = q.nextIndex) (not : String) :
    (range r not low high p).1 = (range r not low' high' q).1 := by
  unfold range
  rw [Params.push_eq, Params.push_eq]
  dsimp only
  rw [Params.push_eq, Params.push_eq, Params.nextIndex_pushAll,
    Params.nextIndex_pushAll, hp]
  dsimp only
  rw [comparesNested_congr h, typedOperand_congr h]
  split <;> rfl

theorem bounds_of_hasBounds {c : Clause} (h : hasBounds c = true) :
    ∃ low high, c.value.bounds = (some low, some high) := by
  rw [hasBounds, Bool.and_eq_true, Option.isSome_iff_exists,
    Option.isSome_iff_exists] at h
  obtain ⟨⟨low, hlow⟩, high, hhigh⟩ := h
  exact ⟨low, high, Prod.ext hlow hhigh⟩

/-- A range without a bound binds nothing. -/
theorem range_of_not_hasBounds {c : Clause} (hop : c.operator = .between)
    (h : hasBounds c = false) (r : ColumnRef) (p : Params) :
    boundBy c = [] ∧ clauseOn r c p = ("FALSE", p) := by
  unfold hasBounds at h
  unfold boundBy clauseOn
  rcases hbounds : c.value.bounds with ⟨_ | low, _ | high⟩
  case some.some => simp [hbounds] at h
  all_goals simp only [hop, and_self]

theorem clauseOn_congr {c d : Clause} (h : SameShape spec c d)
    (hr : spec.columnRef? c.column = some r) (hp : p.nextIndex = q.nextIndex) :
    (clauseOn r c p).1 = (clauseOn r d q).1 ∧
      (boundBy c).length = (boundBy d).length := by
  have htests := h.tests r hr
  have hbounds := h.bounds
  obtain ⟨column, operator, value, negate, combinator⟩ := c
  obtain ⟨column', operator', value', negate', combinator'⟩ := d
  obtain rfl : operator = operator' := h.operator
  obtain rfl : negate = negate' := h.negate
  cases operator with
  | isNull => exact ⟨rfl, rfl⟩
  | eq | gt | gte | lt | lte => exact ⟨comparison_congr htests hp _, rfl⟩
  | contains | startsWith | endsWith | oneOf =>
      refine ⟨?_, rfl⟩
      simp only [clauseOn, Params.push_eq, hp]
  | between =>
      specialize hbounds rfl
      cases hhas : hasBounds ⟨column, .between, value, negate, combinator⟩ with
      | true =>
          obtain ⟨low, high, hv⟩ := bounds_of_hasBounds hhas
          obtain ⟨low', high', hw⟩ :=
            bounds_of_hasBounds (hbounds.symm.trans hhas)
          simp only [testedBy, boundBy, hv, hw] at htests
          simp only [clauseOn, boundBy, hv, hw]
          exact ⟨range_congr htests hp _, rfl⟩
      | false =>
          obtain ⟨hbound, htext⟩ := range_of_not_hasBounds rfl hhas r p
          obtain ⟨hbound', htext'⟩ :=
            range_of_not_hasBounds rfl (hbounds.symm.trans hhas) r q
          rw [hbound, hbound', htext, htext']
          exact ⟨rfl, rfl⟩

/-! ## All clauses of a filter -/

theorem clauses_congr {cs ds : List Clause}
    (h : List.Forall₂ (SameShape spec) cs ds) (hp : p.nextIndex = q.nextIndex) :
    (clauses spec cs p).1 = (clauses spec ds q).1 ∧
      (boundByAll spec cs).length = (boundByAll spec ds).length := by
  induction h generalizing p q with
  | nil => exact ⟨rfl, rfl⟩
  | @cons c d cs ds hcd _ ih =>
      rw [boundByAll_cons, boundByAll_cons, clauses, clauses, clause, clause,
        ← hcd.column]
      cases hr : spec.columnRef? c.column with
      | none => exact ih hp
      | some r =>
          obtain ⟨htext, hlength⟩ := clauseOn_congr hcd hr hp
          obtain ⟨htexts, hlengths⟩ :=
            ih (p := (clauseOn r c p).2) (q := (clauseOn r d q).2)
              (by rw [clauseOn_snd, clauseOn_snd, Params.nextIndex_pushAll,
                Params.nextIndex_pushAll, hp, hlength])
          dsimp only
          rw [htext, htexts, Option.isSome_some, if_pos rfl, if_pos rfl,
            List.length_append, List.length_append, hlength, hlengths]
          exact ⟨rfl, rfl⟩

theorem groups_congr {gs hs : List (List Clause)}
    (h : List.Forall₂ (List.Forall₂ (SameShape spec)) gs hs)
    (hp : p.nextIndex = q.nextIndex) :
    (groups spec gs p).1 = (groups spec hs q).1 ∧
      (boundByAll spec gs.flatten).length =
        (boundByAll spec hs.flatten).length := by
  induction h generalizing p q with
  | nil => exact ⟨rfl, rfl⟩
  | @cons g k gs hs hgk _ ih =>
      obtain ⟨htext, hlength⟩ := clauses_congr hgk hp
      obtain ⟨htexts, hlengths⟩ :=
        ih (p := (clauses spec g p).2) (q := (clauses spec k q).2)
          (by rw [clauses_snd, clauses_snd, Params.nextIndex_pushAll,
            Params.nextIndex_pushAll, hp, hlength])
      rw [groups, groups, List.flatten_cons, List.flatten_cons,
        boundByAll_append, boundByAll_append, List.length_append,
        List.length_append, hlength, hlengths]
      dsimp only
      rw [htext, htexts]
      exact ⟨rfl, rfl⟩

/-- Filters that differ in their values only have one condition, wherever their
placeholders start, and bind equally many values. -/
theorem condition_is_that_of_its_shape {spec : TableSpec} {f g : Filter}
    (h : List.Forall₂ (List.Forall₂ (SameShape spec)) f.groups g.groups)
    (offset : Nat) :
    (condition spec f (.startingAt offset)).1 =
      (condition spec g (.startingAt offset)).1 ∧
      (condition spec f (.startingAt offset)).2.values.length =
        (condition spec g (.startingAt offset)).2.values.length := by
  obtain ⟨htexts, hlength⟩ := groups_congr h (p := .startingAt offset) rfl
  constructor
  · unfold condition
    dsimp only
    rw [htexts]
  · rw [condition_snd, condition_snd]
    simpa [Params.pushAll, Params.startingAt, Filter.clauses] using hlength

/-- Quotes, dollar signs, a null character and a longer list change nothing. -/
theorem condition_of_hostile_values :
    let f : Filter :=
      ⟨[[⟨"uid", .eq, .single "a", true, .and⟩,
          ⟨"started_at", .between, .list ["2024-01-02", "2024-02-03"],
            false, .or⟩],
        [⟨"data.qty", .gt, .single "", false, .and⟩,
          ⟨"data.note", .contains, .single "x", true, .or⟩,
          ⟨"uid", .oneOf, .list ["a"], false, .or⟩]]⟩
    let g : Filter :=
      ⟨[[⟨"uid", .eq, .single "' OR \"uid\" = $1 --", true, .and⟩,
          ⟨"started_at", .between, .list ["1999-12-31", "2030-01-01"],
            false, .or⟩],
        [⟨"data.qty", .gt, .single "+", false, .and⟩,
          ⟨"data.note", .contains, .single "$2 \x00", true, .or⟩,
          ⟨"uid", .oneOf, .list ["\"", "$3", "a"], false, .or⟩]]⟩
    (condition .default f (.startingAt 3)).1 =
      (condition .default g (.startingAt 3)).1 ∧
      (condition .default f (.startingAt 3)).2.values.length =
        (condition .default g (.startingAt 3)).2.values.length := by
  intro f g
  refine condition_is_that_of_its_shape (.cons (.cons ?_ (.cons ?_ .nil))
    (.cons (.cons ?_ (.cons ?_ (.cons ?_ .nil))) .nil)) 3
  all_goals exact ⟨rfl, rfl, rfl, by decide, by decide +kernel⟩

end TenantTables.Sql
