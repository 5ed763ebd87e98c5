import Mathlib.Data.Bool.Basic
import TenantTables.Proofs.ConditionBinding
import TenantTables.Proofs.OppositeClauses

/-!
# A clause and its opposite, as conditions

In memory negation turns a truth value around, whatever the operator is. In a
condition there is nothing to turn around but text, and every kind of test has
its own negated form: another sign, a `NOT` in front of a keyword, a `NOT`
around the whole. Inside a document a clause becomes two tests, one for numbers
and one for all other values, and both of them have to be negated.

A condition is taken apart into its tests here, which says what the negated one
should be. It is that for all operators but the four orders. Their sign stays as
it is, so an order and its opposite become one and the same condition.
-/

namespace TenantTables.Sql

open Query
open Json (Value Object)

/-! ## Tests and their negation -/

/-- The signs of comparisons. -/
inductive Sign where
  | eq
  | ne
  | gt
  | ge
  | lt
  | le
  deriving DecidableEq

namespace Sign

def text : Sign → String
  | eq => "="
  | ne => "!="
  | gt => ">"
  | ge => ">="
  | lt => "<"
  | le => "<="

/-- The sign that is true of the other orders. -/
def opposite : Sign → Sign
  | eq => ne
  | ne => eq
  | gt => le
  | ge => lt
  | lt => ge
  | le => gt

/-- The sign of a comparison that is not negated. -/
def ofOperator : Operator → Sign
  | .eq => eq
  | .gt => gt
  | .gte => ge
  | .lt => lt
  | _ => le

end Sign

/-- What a condition says of the expression on its left. -/
inductive Test where
  | isNull (left : String)
  | compare (left : String) (sign : Sign) (right : String)
  | like (left right : String)
  | between (left right : String)
  /-- One of the texts of a list. -/
  | any (left right : String)

namespace Test

/-- The text of a test or of its negation. -/
def text (negated : Bool) : Test → String
  | isNull left => left ++ " IS " ++ (if negated then "NOT " else "") ++ "NULL"
  | compare left sign right =>
      left ++ " " ++ (if negated then sign.opposite else sign).text ++
        " " ++ right
  | like left right =>
      left ++ " " ++ (if negated then "NOT " else "") ++ "LIKE " ++ right
  | between left right =>
      left ++ " " ++ (if negated then "NOT " else "") ++ "BETWEEN " ++ right
  | any left right =>
      let any := left ++ " = ANY(" ++ right ++ ")"
      if negated then "NOT (" ++ any ++ ")" else any

end Test

/-- The tests of a clause. -/
inductive Tests where
  | one (test : Test)
  /-- A test of numbers and one of all other values, behind the test for
  being a number. -/
  | byKind (isNumber : String) (number other : Test)

/-- The text of tests; negation goes through to each of them. -/
def Tests.text (negated : Bool) : Tests → String
  | one test => test.text negated
  | byKind isNumber number other =>
      "CASE WHEN " ++ isNumber ++ " THEN " ++ number.text negated ++ " ELSE " ++
        other.text negated ++ " END"

theorem Tests.text_one (negated : Bool) (test : Test) :
    (one test).text negated = test.text negated := rfl

theorem Tests.text_byKind (negated : Bool) (isNumber : String)
    (number other : Test) : (byKind isNumber number other).text negated =
      "CASE WHEN " ++ isNumber ++ " THEN " ++ number.text negated ++ " ELSE " ++
        other.text negated ++ " END" := rfl

/-- The tests of a comparison with literals, each made of the left side and the
type that it has there. -/
def Tests.compared (r : ColumnRef) (literals : List String)
    (test : String → String → Test) :
    Tests :=
  let e := columnExpression r
  if comparesNested r literals then
    .byKind (numberTest r) (test (e ++ "::numeric") "numeric")
      (test (e ++ "::text") "text")
  else
    let (left, cast) := typedOperand e r.type literals
    .one (test left cast)

/-- The tests that a clause becomes, its negation left out. -/
def Tests.ofClause (r : ColumnRef) (c : Clause) (p : Params) : Tests :=
  let e := columnExpression r
  let place := "$" ++ toString p.nextIndex
  match c.operator with
  | .isNull => .one (.isNull e)
  | .eq | .gt | .gte | .lt | .lte =>
      .compared r (boundBy c) fun left cast =>
        .compare left (.ofOperator c.operator) (place ++ "::" ++ cast)
  | .contains | .startsWith | .endsWith =>
      .one (.like (e ++ "::text") (place ++ "::text"))
  | .between =>
      .compared r (boundBy c) fun left cast =>
        .between left (place ++ "::" ++ cast ++ " AND " ++
          ("$" ++ toString (p.nextIndex + 1)) ++ "::" ++ cast)
  | .oneOf =>
      .one (.any (e ++ "::text")
        ("SELECT jsonb_array_elements_text(" ++ place ++ "::jsonb)"))

/-! ## The condition of a clause -/

variable {c : Clause}

theorem comparison_fst (r : ColumnRef) (sign : Sign) (negated : Bool)
    (value : String) (p : Params) :
    (comparison r (if negated then sign.opposite else sign).text value p).1 =
      (Tests.compared r [value] fun left cast =>
        .compare left sign
          ("$" ++ toString p.nextIndex ++ "::" ++ cast)).text negated := by
  unfold comparison Tests.compared
  rw [Params.push_eq]
  dsimp only
  split
  · rw [← String.toList_inj]
    simp only [Tests.text_byKind, Test.text, String.toList_append,
      List.append_assoc]
    rfl
  · simp only [Tests.text_one, Test.text, String.append_assoc]

theorem range_fst (r : ColumnRef) (negated : Bool) (low high : String)
    (p : Params) : (range r (if negated then "NOT " else "") low high p).1 =
      (Tests.compared r [low, high] fun left cast =>
        .between left ("$" ++ toString p.nextIndex ++ "::" ++ cast ++ " AND " ++
          ("$" ++ toString (p.nextIndex + 1)) ++ "::" ++
          cast)).text negated := by
  unfold range Tests.compared
  rw [Params.push_eq]
  dsimp only
  rw [Params.push_eq, Params.nextIndex_pushAll, List.length_singleton]
  split
  · rw [← String.toList_inj]
    simp only [Tests.text_byKind, Test.text, String.toList_append,
      List.append_assoc]
    rfl
  · simp only [Tests.text_one, Test.text, String.append_assoc]

/-- Only equality has a second sign. -/
theorem comparisonSign_eq (op : Operator) (negate : Bool) :
    comparisonSign op negate =
      (if negate && op == .eq then (Sign.ofOperator op).opposite
        else .ofOperator op).text := by
  cases op <;> cases negate <;> rfl

theorem bounds_of_hasOperand (hoperand : c.HasOperand)
    (hop : c.operator = .between) :
    ∃ low high, c.value.bounds = (some low, some high) := by
  obtain ⟨column, operator, value, negate, combinator⟩ := c
  obtain rfl := hop
  unfold Operand.bounds
  rcases hvalues : value.values with _ | ⟨low, _ | ⟨high, others⟩⟩
  · simp [Clause.HasOperand, hvalues] at hoperand
  · simp [Clause.HasOperand, hvalues] at hoperand
  · exact ⟨low, high, rfl⟩

/-- Every test of a clause is negated with it, unless it is one of an order. -/
theorem clauseOn_withNegate (hoperand : c.HasOperand) (r : ColumnRef)
    (negate : Bool) (p : Params) :
    clauseOn r (c.withNegate negate) p =
      ((Tests.ofClause r c p).text
        (negate && c.operator ∉ [.gt, .gte, .lt, .lte]),
        p.pushAll (boundBy c)) := by
  refine Prod.ext ?_ (clauseOn_snd r (c.withNegate negate) p)
  obtain ⟨column, operator, value, negate', combinator⟩ := c
  unfold Clause.withNegate
  cases operator with
  | isNull => cases negate <;> rfl
  | eq | gt | gte | lt | lte =>
      dsimp only [clauseOn, Tests.ofClause, boundBy]
      rw [comparisonSign_eq, comparison_fst]
      cases negate <;> rfl
  | contains | startsWith | endsWith =>
      dsimp only [clauseOn, Tests.ofClause, Tests.text, Test.text]
      rw [Params.push_eq, ← String.toList_inj]
      simp only [String.toList_append, List.append_assoc]
      cases negate <;> rfl
  | between =>
      obtain ⟨low, high, hbounds⟩ := bounds_of_hasOperand hoperand rfl
      dsimp only at hbounds
      simp only [clauseOn, Tests.ofClause, boundBy, hbounds, range_fst]
      cases negate <;> rfl
  | oneOf =>
      have hany : columnExpression r ++
          "::text = ANY(SELECT jsonb_array_elements_text(" ++
          ("$" ++ toString p.nextIndex) ++ "::jsonb))" =
            columnExpression r ++ "::text" ++ " = ANY(" ++
              ("SELECT jsonb_array_elements_text(" ++
              ("$" ++ toString p.nextIndex) ++ "::jsonb)") ++ ")" := by
        rw [← String.toList_inj]
        simp only [String.toList_append, List.append_assoc]
        rfl
      cases negate with
      | false => exact hany
      | true => exact congrArg (fun any => "NOT (" ++ any ++ ")") hany

/-! ## What becomes of the negation -/

/-- A test that negation makes longer. -/
def Test.Grows (test : Test) : Prop :=
  (test.text false).length < (test.text true).length

/-- All tests are of that kind but those whose sign is not that of equality. -/
theorem Test.grows {test : Test}
    (h : ∀ left sign right, test = .compare left sign right → sign = .eq) :
    test.Grows := by
  have hnot : 0 < "NOT ".length := by decide
  have hany : 0 < "NOT (".length := by decide
  have hsign : "=".length < "!=".length := by decide
  unfold Grows text
  cases test with
  | isNull left | like left right | between left right => simpa using hnot
  | compare left sign right =>
      obtain rfl := h left sign right rfl
      simpa [Sign.opposite, Sign.text] using hsign
  | any left right =>
      simp only [Bool.false_eq_true, if_false, if_true, String.length_append]
      omega

namespace Tests

theorem text_one_ne {test : Test} (h : test.Grows) :
    (one test).text true ≠ (one test).text false := fun heq =>
  absurd (congrArg String.length heq) (Nat.ne_of_gt h)

theorem text_byKind_ne {isNumber : String} {number other : Test}
    (hnumber : number.Grows) (hother : other.Grows) :
    (byKind isNumber number other).text true ≠
      (byKind isNumber number other).text false := by
  intro heq
  have hlength := congrArg String.length heq
  unfold Test.Grows at hnumber hother
  simp only [text_byKind, String.length_append] at hlength
  omega

theorem text_compared_ne {r : ColumnRef} {literals : List String}
    {test : String → String → Test} (h : ∀ left cast, (test left cast).Grows) :
    (compared r literals test).text true ≠
      (compared r literals test).text false := by
  unfold compared
  dsimp only
  split
  · exact text_byKind_ne (h _ _) (h _ _)
  · exact text_one_ne (h _ _)

/-- The negated tests of a clause have another text, those of
the orders apart. -/
theorem text_ofClause_ne (r : ColumnRef) (p : Params)
    (hop : c.operator ∉ [.gt, .gte, .lt, .lte]) :
    (ofClause r c p).text true ≠ (ofClause r c p).text false := by
  obtain ⟨column, operator, value, negate, combinator⟩ := c
  unfold ofClause
  cases operator with
  | isNull | contains | startsWith | endsWith | oneOf =>
      exact text_one_ne (Test.grows nofun)
  | eq =>
      exact text_compared_ne fun left cast => Test.grows fun _ _ _ heq =>
        (Test.compare.inj heq).2.1.symm
  | gt | gte | lt | lte => simp at hop
  | between => exact text_compared_ne fun left cast => Test.grows nofun

end Tests

variable {spec : TableSpec} {r : ColumnRef}

/-- A clause on a known column becomes tests, and its opposite the
negations of them all, unless its operator is one of the four orders: then
the two are one condition. In memory they are opposites all the same, on
every row with a value there. -/
theorem negation_is_rendered_iff (hr : spec.columnRef? c.column = some r)
    (hoperand : c.HasOperand) (p : Params) :
    clause spec (c.withNegate false) p =
        (some ((Tests.ofClause r c p).text false), p.pushAll (boundBy c)) ∧
      clause spec (c.withNegate true) p =
        (some ((Tests.ofClause r c p).text
          (c.operator ∉ [.gt, .gte, .lt, .lte])), p.pushAll (boundBy c)) ∧
      ((clause spec (c.withNegate true) p).1 ≠
        (clause spec (c.withNegate false) p).1 ↔
        c.operator ∉ [.gt, .gte, .lt, .lte]) ∧
      ∀ row : Object, (∃ v, lookup row c.column = some v ∧ v.isNull = false) →
        (c.withNegate true).holds row = !(c.withNegate false).holds row := by
  have hclause : ∀ negate, clause spec (c.withNegate negate) p =
      (some ((Tests.ofClause r c p).text
        (negate && c.operator ∉ [.gt, .gte, .lt, .lte])),
        p.pushAll (boundBy c)) := by
    intro negate
    have hcolumn : spec.columnRef? (c.withNegate negate).column = some r := hr
    rw [clause, hcolumn]
    dsimp only
    rw [clauseOn_withNegate hoperand]
  have hplain := hclause false
  have hnegated := hclause true
  rw [Bool.false_and] at hplain
  rw [Bool.true_and] at hnegated
  refine ⟨hplain, hnegated, ?_, fun row hpresent => ?_⟩
  · rw [hplain, hnegated]
    by_cases hop : c.operator ∈ [.gt, .gte, .lt, .lte]
    · simp [hop]
    · rw [decide_eq_true hop]
      exact iff_of_true
        (fun heq => Tests.text_ofClause_ne r p hop (Option.some.inj heq)) hop
  · have hknown := Clause.isSome_truth?_iff.2 (.inr ⟨hpresent, hoperand⟩)
    exact Bool.eq_not_iff.2 ((Clause.holds_ne_iff c row).2 hknown).symm

/-- A range inside a document. -/
theorem quantity_beyond_range_is_rendered :
    let c : Clause := ⟨"data.qty", .between, .list ["2", "8"], false, .and⟩
    let r : ColumnRef := ⟨{ name := "data", type := .json }, ["qty"]⟩
    let row : Object := [("data", .obj [("qty", .int 5)])]
    TableSpec.default.columnRef? c.column = some r ∧ c.HasOperand ∧
      (clause .default (c.withNegate true) (.startingAt 0)).1 =
        some ((Tests.ofClause r c (.startingAt 0)).text true) ∧
      (clause .default (c.withNegate true) (.startingAt 0)).1 ≠
        (clause .default (c.withNegate false) (.startingAt 0)).1 ∧
      (c.withNegate true).holds row = !(c.withNegate false).holds row := by
  intro c r row
  have hr : TableSpec.default.columnRef? c.column = some r := by decide +kernel
  have hoperand : c.HasOperand := Nat.le_refl 2
  have hsplit : Text.split '.' "data.qty" = ["data", "qty"] := by decide +kernel
  have hrow : lookup row c.column = some (.int 5) := by
    change descend (.obj row) (Text.split '.' "data.qty") = _
    rw [hsplit]
    rfl
  obtain ⟨-, hnegated, hdiffers, hopposite⟩ :=
    negation_is_rendered_iff hr hoperand (.startingAt 0)
  exact ⟨hr, hoperand, congrArg Prod.fst hnegated, hdiffers.2 (by decide),
    hopposite row ⟨_, hrow, rfl⟩⟩

/-- Not to be behind `m` is rendered as to be behind it, and in memory it
is the opposite. -/
theorem negated_order_is_rendered_plain :
    let c : Clause := ⟨"uid", .gt, .single "m", false, .and⟩
    (clause .default (c.withNegate false) (.startingAt 0)).1 =
      some "\"uid\"::text > $1::text" ∧
      (clause .default (c.withNegate true) (.startingAt 0)).1 =
        some "\"uid\"::text > $1::text" ∧
      (c.withNegate false).holds [("uid", .str "a")] = false ∧
      (c.withNegate true).holds [("uid", .str "a")] = true := by
  decide +kernel

end TenantTables.Sql
