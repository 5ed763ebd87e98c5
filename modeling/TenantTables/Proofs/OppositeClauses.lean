import Mathlib.Data.List.DropRight
import TenantTables.Proofs.DescriptorShape
import TenantTables.Query.Match

/-!
# A clause and its opposite

Tokens come in pairs, one of each negated. A clause has a truth value on every
row before it is negated, or none: it is unknown where there is nothing to
compare, be it that the row has no value or that a range lacks a bound. Negation
turns the truth value around and leaves the unknown as it is, so two opposite
clauses never both hold, and one of them holds exactly if the truth value is
known. The null test is always known.

Two clauses are opposite if they are written alike but for their tokens.
White space around the column and the token, and at the end of the text,
makes no difference.
-/

namespace TenantTables.Query

open Json (Value Object)

variable {c : Clause} {row : Object}

namespace Clause

/-! ## Truth before negation -/

/-- The truth value of a clause on a row, without its negation;
`none` is unknown. -/
def truth? (c : Clause) (row : Object) : Option Bool :=
  match c.operator with
  | .isNull => some (present? row c.column).isNone
  | _ => (present? row c.column).bind c.evaluate

/-- The operand has what the operator compares with. -/
def HasOperand (c : Clause) : Prop :=
  match c.operator with
  | .eq | .gt | .gte | .lt | .lte | .contains | .startsWith | .endsWith =>
      ∃ value, c.value = .single value
  | .between => 2 ≤ c.value.values.length
  | .oneOf | .isNull => True

theorem truth?_of_ne_isNull (h : c.operator ≠ .isNull) (row : Object) :
    c.truth? row = (present? row c.column).bind c.evaluate := by
  obtain ⟨column, operator, value, negate, combinator⟩ := c
  cases operator with
  | isNull => exact absurd rfl h
  | eq | gt | gte | lt | lte | contains | startsWith | endsWith | between
  | oneOf => rfl

/-- A clause holds where its truth value is known and, once negated, true. -/
theorem holds_eq (c : Clause) (row : Object) :
    c.holds row = (c.truth? row).any (· != c.negate) := by
  obtain ⟨column, operator, value, negate, combinator⟩ := c
  unfold holds truth?
  dsimp only
  cases operator with
  | isNull => rfl
  | eq | gt | gte | lt | lte | contains | startsWith | endsWith | between
  | oneOf =>
      cases present? row column with
      | none => rfl
      | some v =>
          dsimp only [Option.bind_some]
          split
          · next h => rw [h, Option.any_some]
          · next h => rw [h, Option.any_none]

theorem isSome_evaluate_iff {v : Value} (hv : v.isNull = false)
    (hop : c.operator ≠ .isNull) :
    (c.evaluate v).isSome = true ↔ c.HasOperand := by
  obtain ⟨text, htext⟩ : ∃ text, v.toText? = some text := by
    cases v with
    | null => cases hv
    | bool _ | int _ | float _ | str _ | arr _ | obj _ => exact ⟨_, rfl⟩
  obtain ⟨column, operator, value, negate, combinator⟩ := c
  unfold evaluate HasOperand
  rw [htext, Option.bind_some]
  cases operator with
  | isNull => exact absurd rfl hop
  | eq | gt | gte | lt | lte | contains | startsWith | endsWith =>
      cases value <;> simp [Operand.single?, Operator.likePattern?]
  | between =>
      unfold Operand.bounds
      rcases value.values with _ | ⟨low, _ | ⟨high, others⟩⟩ <;> simp
  | oneOf => simp

theorem present?_eq_some {column : String} {v : Value} :
    present? row column = some v ↔
      lookup row column = some v ∧ v.isNull = false := by
  rw [present?, Option.filter_eq_some_iff, Bool.not_eq_true']

/-- Known of a row is whether it has no value, or else how its value compares
with an operand, if there is one. -/
theorem isSome_truth?_iff :
    (c.truth? row).isSome = true ↔ c.operator = .isNull ∨
      ((∃ v, lookup row c.column = some v ∧ v.isNull = false) ∧
        c.HasOperand) := by
  by_cases hop : c.operator = .isNull
  · simp [truth?, hop]
  · rw [truth?_of_ne_isNull hop, or_iff_right hop]
    constructor
    · intro hknown
      cases hpresent : present? row c.column with
      | none => simp [hpresent] at hknown
      | some v =>
          have hv := present?_eq_some.1 hpresent
          rw [hpresent, Option.bind_some, isSome_evaluate_iff hv.2 hop]
            at hknown
          exact ⟨⟨v, hv⟩, hknown⟩
    · rintro ⟨⟨v, hv⟩, hoperand⟩
      rwa [present?_eq_some.2 hv, Option.bind_some,
        isSome_evaluate_iff hv.2 hop]

/-! ## Opposites -/

/-- The same clause, negated or not. -/
def withNegate (c : Clause) (negate : Bool) : Clause :=
  { c with negate }

theorem holds_withNegate (c : Clause) (negate : Bool) (row : Object) :
    (c.withNegate negate).holds row = (c.truth? row).any (· != negate) :=
  holds_eq _ row

theorem not_both_hold (c : Clause) (row : Object) :
    ¬ ((c.withNegate false).holds row = true ∧
      (c.withNegate true).holds row = true) := by
  rw [holds_withNegate, holds_withNegate]
  cases c.truth? row with
  | none => nofun
  | some truth => cases truth <;> simp

/-- One of the two holds where the truth value is known, and only there. -/
theorem holds_ne_iff (c : Clause) (row : Object) :
    (c.withNegate false).holds row ≠ (c.withNegate true).holds row ↔
      (c.truth? row).isSome = true := by
  rw [holds_withNegate, holds_withNegate]
  cases c.truth? row with
  | none => simp
  | some truth => cases truth <;> simp

end Clause

/-! ## Opposites as they are written -/

/-- The text of a clause. -/
def clauseText (column token value : String) : String :=
  column ++ ":" ++ (token ++ ":" ++ value)

/-- White space goes from the two ends of the text, which are those of
column and value. -/
theorem trim_clauseText (column token value : String) :
    Text.trim (clauseText column token value) =
      clauseText (String.ofList (Text.dropLeadingBlanks column.toList)) token
        (String.ofList (Text.dropTrailingBlanks value.toList)) := by
  have hchars : ∀ a b c : String,
      (clauseText a b c).toList =
        a.toList ++ ':' :: (b.toList ++ ':' :: c.toList) := by
    simp [clauseText]
  rw [← String.toList_inj, Text.trim, String.toList_ofList, Text.trimChars,
    hchars, hchars, Text.dropLeadingBlanks_append rfl, ← List.cons_append,
    ← List.append_assoc, Text.dropTrailingBlanks_append rfl, List.append_assoc,
    List.cons_append, String.toList_ofList, String.toList_ofList]

theorem trim_dropLeadingBlanks (s : String) :
    Text.trim (String.ofList (Text.dropLeadingBlanks s.toList)) =
      Text.trim s := by
  rw [Text.trim, String.toList_ofList, Text.trimChars, Text.dropLeadingBlanks,
    Text.dropLeadingBlanks, List.dropWhile_idempotent]
  rfl

/-- A token in one of its spellings: in any case, and with white
space around it. -/
structure Operator.Spells (token : String) (op : Operator)
    (negate : Bool) : Prop where
  colon : ':' ∉ token.toList
  known : ofToken? (Text.lower (Text.trim token)) = some (op, negate)

namespace Clause

variable {column token opposite : String} {op : Operator} {negate : Bool}
  {aliases : Aliases}

theorem parse?_clauseText (hcolumn : ':' ∉ column.toList)
    (hnamed : Text.trim (aliases.resolve (Text.trim column)) ≠ "")
    (htoken : Operator.Spells token op negate) (value : String)
    (combinator : Combinator) :
    parse? (clauseText column token value) aliases combinator =
      some ⟨Text.trim (aliases.resolve (Text.trim column)), op,
        .parse op (String.ofList (Text.dropTrailingBlanks value.toList)),
        negate, combinator⟩ := by
  have hfront :
      ':' ∉ (String.ofList (Text.dropLeadingBlanks column.toList)).toList := by
    rw [String.toList_ofList]
    exact fun hmem => hcolumn ((List.dropWhile_suffix _).subset hmem)
  have hempty :
      (Text.trim (aliases.resolve (Text.trim column))).isEmpty = false := by
    simpa using hnamed
  have hcolon : ":".toList = [':'] := rfl
  unfold parse?
  rw [trim_clauseText, clauseText]
  simp only [Text.splitOnce_append hcolon hfront,
    Text.splitOnce_append hcolon htoken.colon, Option.getD_some,
    trim_dropLeadingBlanks, hempty, Bool.false_eq_true, if_false, htoken.known,
    Option.map_some]

/-- Of an operand that is read only a range may lack something. -/
theorem hasOperand_parse (column encoded : String) (op : Operator)
    (negate : Bool) (combinator : Combinator) :
    HasOperand ⟨column, op, .parse op encoded, negate, combinator⟩ ↔
      (op = .between → 2 ≤ (Operand.parse op encoded).values.length) := by
  have hform := Operand.parse_form op encoded
  cases op with
  | eq | gt | gte | lt | lte | contains | startsWith | endsWith =>
      exact iff_of_true hform nofun
  | between => exact ⟨fun h _ => h, fun h => h rfl⟩
  | oneOf | isNull => exact iff_of_true trivial nofun

/-- Two clauses that differ in their tokens only, and these are opposite, never
both hold of a row. One of them holds exactly if they test for null, or the row
has a value there, and two bounds for it if they are ranges. -/
theorem opposite_clauses_exclude_each_other (hcolumn : ':' ∉ column.toList)
    (hnamed : Text.trim (aliases.resolve (Text.trim column)) ≠ "")
    (htoken : Operator.Spells token op false)
    (hopposite : Operator.Spells opposite op true) (value : String)
    (combinator : Combinator) :
    ∃ c d : Clause,
      parse? (clauseText column token value) aliases combinator = some c ∧
      parse? (clauseText column opposite value) aliases combinator = some d ∧
      c.column = Text.trim (aliases.resolve (Text.trim column)) ∧
      d.column = c.column ∧
      c.value =
        .parse op (String.ofList (Text.dropTrailingBlanks value.toList)) ∧
      d.value = c.value ∧
      ∀ row : Object, ¬ (c.holds row = true ∧ d.holds row = true) ∧
        (c.holds row ≠ d.holds row ↔ op = .isNull ∨
          ((∃ v, lookup row c.column = some v ∧ v.isNull = false) ∧
            (op = .between → 2 ≤ c.value.values.length))) := by
  let encoded := String.ofList (Text.dropTrailingBlanks value.toList)
  let c : Clause :=
    ⟨Text.trim (aliases.resolve (Text.trim column)), op, .parse op encoded,
      false, combinator⟩
  refine ⟨c, c.withNegate true,
    parse?_clauseText hcolumn hnamed htoken value combinator,
    parse?_clauseText hcolumn hnamed hopposite value combinator, rfl, rfl, rfl,
    rfl, fun row => ⟨not_both_hold c row, ?_⟩⟩
  rw [← hasOperand_parse c.column encoded op false combinator]
  exact (holds_ne_iff c row).trans isSome_truth?_iff

/-- A price within the range, one beyond it, and one that is not known. -/
theorem price_is_within_or_not :
    ':' ∉ "price".toList ∧
      Text.trim (Aliases.resolve [] (Text.trim "price")) ≠ "" ∧
      Operator.Spells " BT" .between false ∧
      Operator.Spells "not-between" .between true ∧
      ∃ c d : Clause,
        parse? (clauseText "price" " BT" "10%7C20 ") [] .and = some c ∧
        parse? (clauseText "price" "not-between" "10%7C20 ") [] .and = some d ∧
        c.holds [("price", .int 15)] ≠ d.holds [("price", .int 15)] ∧
        c.holds [("price", .int 25)] ≠ d.holds [("price", .int 25)] ∧
        c.holds [("price", .null)] = d.holds [("price", .null)] := by
  have hcolumn : ':' ∉ "price".toList := by decide
  have hnamed : Text.trim (Aliases.resolve [] (Text.trim "price")) ≠ "" := by
    decide
  have htoken : Operator.Spells " BT" .between false :=
    ⟨by decide, by decide +kernel⟩
  have hopposite : Operator.Spells "not-between" .between true :=
    ⟨by decide, by decide +kernel⟩
  obtain ⟨c, d, hc, hd, hname, -, hvalue, -, hrows⟩ :=
    opposite_clauses_exclude_each_other hcolumn hnamed htoken hopposite
      "10%7C20 " .and
  have hprice : c.column = "price" := hname.trans (by decide)
  have hbounds : 2 ≤ c.value.values.length := by rw [hvalue]; decide +kernel
  have hrow : ∀ v : Value, lookup [("price", v)] c.column = some v :=
    fun v => by
    rw [hprice]
    rfl
  refine ⟨hcolumn, hnamed, htoken, hopposite, c, d, hc, hd,
    (hrows _).2.2 (.inr ⟨⟨_, hrow _, rfl⟩, fun _ => hbounds⟩),
    (hrows _).2.2 (.inr ⟨⟨_, hrow _, rfl⟩, fun _ => hbounds⟩), ?_⟩
  by_contra hne
  obtain hop | ⟨⟨v, hv, hnull⟩, -⟩ := (hrows _).2.1 hne
  · cases hop
  · obtain rfl := Option.some.inj ((hrow _).symm.trans hv)
    cases hnull

end Clause

end TenantTables.Query
