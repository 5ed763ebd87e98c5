import TenantTables.Proofs.ConditionBinding
import TenantTables.Proofs.NumberText
import TenantTables.Proofs.TimestampText
import TenantTables.Query.Match

/-!
# Comparing with a literal

A filter literal is text, and there are two places that decide what it is
compared as. The evaluation looks at the stored value and the literal: two
numbers are compared as numbers, two timestamps as instants, everything else as
texts. The statement that is sent looks at the type of the column and the
literal: a literal that the type accepts is compared in the type, any other as
text.

The two agree about numbers, as far as rounding keeps them apart. A truth value
is compared as text by the one and as a truth value by the other. Texts that
happen to be timestamps are compared as instants by the one and as texts by the
other, and so it is with documents, also with those that are numbers. Instants
beyond the four-digit years do not come back from their texts.
-/

namespace TenantTables

open Json (Value)
open Time (Instant HyphenBehindDigit)

/-! ## Numbers are no timestamps -/

section Numbers

variable {cs : List Char} {c : Char}

theorem hyphenBehindDigit_cons (h : HyphenBehindDigit (c :: cs)) :
    (Text.isAsciiDigit c = true ∧ cs.head? = some '-') ∨
      HyphenBehindDigit cs := by
  obtain ⟨d, hd, hwithin⟩ := h
  rcases List.infix_cons_iff.1 hwithin with ⟨behind, heq⟩ | hwithin
  · obtain ⟨rfl, rfl⟩ := List.cons.inj heq
    exact .inl ⟨hd, rfl⟩
  · exact .inr ⟨d, hd, hwithin⟩

theorem not_hyphenBehindDigit (h : '-' ∉ cs) : ¬ HyphenBehindDigit cs := by
  rintro ⟨d, -, hwithin⟩
  exact h (hwithin.subset (by simp))

/-- Without a hyphen in it, a part in front takes no part. -/
theorem hyphenBehindDigit_of_append {front : List Char} (hfront : '-' ∉ front)
    (hc : c ≠ '-') (h : HyphenBehindDigit (front ++ c :: cs)) :
    HyphenBehindDigit (c :: cs) := by
  induction front with
  | nil => exact h
  | cons d front ih =>
      have hrest : '-' ∉ front :=
        fun hmem => hfront (List.mem_cons_of_mem d hmem)
      rcases hyphenBehindDigit_cons h with ⟨-, hhead⟩ | hbehind
      · cases front with
        | nil => exact absurd (Option.some.inj hhead) hc
        | cons e front =>
            obtain rfl := Option.some.inj hhead
            exact absurd List.mem_cons_self hrest
      · exact ih hrest hbehind

/-- A hyphen in front of everything is not behind a digit. -/
theorem not_hyphenBehindDigit_signed (negative : Bool)
    (h : ¬ HyphenBehindDigit cs) :
    ¬ HyphenBehindDigit (Number.signed negative cs).toList := by
  rw [Number.signed, String.toList_ofList]
  cases negative with
  | false => exact h
  | true =>
      intro hsigned
      rcases hyphenBehindDigit_cons hsigned with ⟨hdigit, -⟩ | hrest
      · exact absurd hdigit (by decide)
      · exact h hrest

theorem hyphen_not_mem_digits {digits : List Char}
    (h : ∀ c ∈ digits, c.isDigit = true) :
    '-' ∉ digits :=
  fun hmem => absurd (h _ hmem) (by decide)

theorem hyphen_not_mem_positional {digits : List Char} (h : '-' ∉ digits)
    (e : Int) :
    '-' ∉ Number.positional digits e := by
  have hzeros : ∀ n, '-' ∉ Number.zeros n := fun n hmem =>
    absurd (List.eq_of_mem_replicate hmem) (by decide)
  unfold Number.positional
  split
  · simp [hzeros, h]
  · dsimp only
    split
    · simp [hzeros, h]
    · have htake : '-' ∉ digits.take (e.toNat + 1) :=
        fun hmem => h (List.mem_of_mem_take hmem)
      have hdrop : '-' ∉ digits.drop (e.toNat + 1) :=
        fun hmem => h (List.mem_of_mem_drop hmem)
      simp [htake, hdrop]

theorem not_hyphenBehindDigit_double (d : Number.Double) :
    ¬ HyphenBehindDigit d.toText.toList := by
  have hdigits := hyphen_not_mem_digits d.digit_of_mem_digits
  unfold Number.Double.toText
  generalize d.digits = found at hdigits ⊢
  obtain ⟨digits, e⟩ := found
  dsimp only at hdigits ⊢
  refine not_hyphenBehindDigit_signed d.negative ?_
  split
  · have hpositional := hyphen_not_mem_positional hdigits e
    refine not_hyphenBehindDigit ?_
    split
    · exact hpositional
    · simp [hpositional]
  · -- Behind the mantissa the sign of the exponent stands behind the `e`.
    have hexponent := hyphen_not_mem_digits (Sql.all_isDigit_toString e.natAbs)
    have hscientific : ∀ mantissa : List Char, '-' ∉ mantissa →
        ¬ HyphenBehindDigit
        (mantissa ++ 'e' :: (if e < 0 then '-' else '+') ::
          (toString e.natAbs).toList) := by
      intro mantissa hmantissa h
      rcases hyphenBehindDigit_cons
        (hyphenBehindDigit_of_append hmantissa (by decide) h)
          with ⟨hdigit, -⟩ | hsign
      · exact absurd hdigit (by decide)
      · rcases hyphenBehindDigit_cons hsign with ⟨-, hhead⟩ | hbehind
        · exact hexponent (List.mem_of_mem_head? hhead)
        · exact not_hyphenBehindDigit hexponent hbehind
    cases digits with
    | nil => exact hscientific [] hdigits
    | cons c rest =>
        cases rest with
        | nil => exact hscientific [c] hdigits
        | cons c' rest =>
            exact hscientific (c :: '.' :: c' :: rest) (by simpa using hdigits)

theorem not_hyphenBehindDigit_int (n : Int) :
    ¬ HyphenBehindDigit (toString n).toList := by
  have hnat : ∀ m : Nat, ¬ HyphenBehindDigit (toString m).toList := fun m =>
    not_hyphenBehindDigit (hyphen_not_mem_digits (Sql.all_isDigit_toString m))
  cases n with
  | ofNat m => exact hnat m
  | negSucc m =>
      have htext : (toString (Int.negSucc m)).toList =
          '-' :: (toString (m + 1)).toList := by
        rw [Int.toString_eq_repr, Int.repr, String.toList_append,
          Nat.toString_eq_repr]
        rfl
      have hsigned := not_hyphenBehindDigit_signed true (hnat (m + 1))
      rwa [Number.signed, if_pos rfl, String.toList_ofList, ← htext] at hsigned

/-- The text of a number is not read as a timestamp. -/
theorem read?_of_number {v : Value} {text : String}
    (h : v.double?.isSome = true) (htext : v.toText? = some text) :
    Instant.read? text = none := by
  cases v with
  | int n =>
      obtain rfl : toString n = text := by
        simpa [Value.toText?, Value.text] using htext
      exact Instant.read?_eq_none (not_hyphenBehindDigit_int n)
  | float d =>
      obtain rfl : d.toText = text := by
        simpa [Value.toText?, Value.text] using htext
      exact Instant.read?_eq_none (not_hyphenBehindDigit_double d)
  | null | bool b | str s | arr items | obj fields => cases h

end Numbers

/-! ## Stored values -/

/-- What a type stores. -/
def ColumnType.Stores (t : ColumnType) (w : Value) : Prop :=
  match t with
  | .serial | .integer | .decimal .. => w.double?.isSome = true
  | .boolean => ∃ b, w = .bool b
  | .timestamp => ∃ i : Instant, i.Proper ∧ w = .str i.toText
  | .text | .varchar _ => ∃ s, w = .str s
  | .json => True

namespace ColumnType

variable {t : ColumnType} {v w : Value}

theorem stores_of_coerceText {s : String}
    (h : t.coerceText s = .ok w) : t.Stores w := by
  unfold coerceText at h
  cases t with
  | serial | integer =>
      dsimp only at h
      split at h
      · obtain rfl := Except.ok.inj h
        rfl
      · cases h
  | decimal precision scale =>
      dsimp only at h
      split at h
      · obtain rfl := Except.ok.inj h
        rfl
      · cases h
  | boolean =>
      dsimp only at h
      split at h
      · next b _ => exact ⟨b, (Except.ok.inj h).symm⟩
      · cases h
  | timestamp =>
      dsimp only at h
      split at h
      · next i hread =>
          exact ⟨i, Instant.proper_of_read? hread, (Except.ok.inj h).symm⟩
      · cases h
  | varchar length =>
      dsimp only at h
      split at h
      · exact ⟨s, (Except.ok.inj h).symm⟩
      · cases h
  | text => exact ⟨s, (Except.ok.inj h).symm⟩
  | json => trivial

theorem stores_of_coerceNumber (hv : v.double?.isSome = true)
    (htext : t.isText = false) (h : t.coerceNumber v = .ok w) : t.Stores w := by
  unfold coerceNumber at h
  cases t with
  | serial | integer =>
      dsimp only at h
      split at h
      · obtain rfl := Except.ok.inj h
        rfl
      · cases h
  | decimal precision scale =>
      obtain rfl := Except.ok.inj h
      exact hv
  | boolean =>
      dsimp only at h
      split at h
      · exact ⟨false, (Except.ok.inj h).symm⟩
      · exact ⟨true, (Except.ok.inj h).symm⟩
      · cases h
  | timestamp => cases h
  | text => cases htext
  | varchar length => cases htext
  | json => trivial

/-- What comes out of coercion and is not null is what the type stores. -/
theorem stores_of_coerce (h : t.coerce v = .ok w)
    (hw : w.isNull = false) : t.Stores w := by
  have hnull : (.ok .null : Except String Value) ≠ .ok w := by
    intro heq
    obtain rfl := Except.ok.inj heq
    cases hw
  cases v with
  | null => exact absurd h hnull
  | str s =>
      simp only [coerce] at h
      split at h
      · exact absurd h hnull
      · exact stores_of_coerceText h
  | int n =>
      cases t with
      | text | varchar length => exact stores_of_coerceText h
      | json => trivial
      | serial | integer | decimal precision scale | boolean | timestamp =>
          exact stores_of_coerceNumber rfl rfl h
  | float d =>
      cases t with
      | text | varchar length => exact stores_of_coerceText h
      | json => trivial
      | serial | integer | decimal precision scale | boolean | timestamp =>
          exact stores_of_coerceNumber (v := .float d) rfl rfl h
  | bool b =>
      cases t with
      | text | varchar length => exact stores_of_coerceText h
      | json => trivial
      | boolean => exact ⟨b, (Except.ok.inj h).symm⟩
      | serial | integer | decimal precision scale | timestamp => cases h
  | arr items | obj fields =>
      cases t with
      | text | varchar length => exact stores_of_coerceText h
      | json => trivial
      | serial | integer | decimal precision scale | boolean | timestamp =>
          cases h

end ColumnType

/-! ## What a comparison is made of -/

namespace Query

/-- What a stored value and a literal are compared as. -/
inductive Comparison where
  | numbers
  | truths
  | instants
  | texts
  deriving DecidableEq

namespace Comparison

/-- What evaluation compares a value, whose text is given, and a literal as. -/
def evaluated (v : Value) (text literal : String) : Comparison :=
  if v.double?.isSome && Number.isNumericLiteral literal then .numbers
  else if (Instant.read? text).isSome && (Instant.read? literal).isSome then
    .instants
  else .texts

/-- What a statement compares a column of a type and a literal as. -/
def rendered (t : ColumnType) (literal : String) : Comparison :=
  if t.acceptsLiteral literal then
    match t with
    | .serial | .integer | .decimal .. => .numbers
    | .boolean => .truths
    | .timestamp => .instants
    | .text | .varchar _ | .json => .texts
  else .texts

/-- A number as it is written. -/
def writtenNumeral? (v : Value) (text : String) : Option Number.Numeral :=
  if v.double?.isSome then
    Number.Numeral.read? Text.isAsciiDigit text.toList
  else none

/-- The order that a statement finds of a value, whose text is given, and a
literal. A number stands against the literal as both are written. -/
def order? (c : Comparison) (v : Value) (text literal : String) :
    Option Ordering :=
  match c with
  | .numbers => (writtenNumeral? v text).bind fun a =>
      (Number.literalNumeral? literal).map fun b => a.order b
  | .truths =>
      match v with
      | .bool a => (readBool? literal).map fun b => compare a b
      | _ => none
  | .instants =>
      (Instant.read? text).bind fun a => (Instant.read? literal).map fun b =>
        a.compare b
  | .texts => some (Text.order text literal)

/-- The order that evaluation finds: of numbers, that of the nearest ones in
binary64. -/
def found? (c : Comparison) (v : Value)
    (text literal : String) : Option Ordering :=
  match c with
  | .numbers => v.double?.bind fun a =>
      (Number.literalValue? literal).map fun b => a.compare b
  | c => c.order? v text literal

/-- The left side of the comparison in a statement, and the type that both sides
have there. -/
def operand (c : Comparison) (expression : String) : String × String :=
  match c with
  | .numbers => (expression, "numeric")
  | .truths => (expression, "boolean")
  | .instants => (expression, "timestamptz")
  | .texts => (expression ++ "::text", "text")

/-- The comparison of an expression with a placeholder. -/
def sql (c : Comparison) (expression sign place : String) : String :=
  (c.operand expression).1 ++ " " ++ sign ++ " " ++ place ++ "::" ++
    (c.operand expression).2

end Comparison

/-- The orders that satisfy a comparison operator. -/
def Operator.test? : Operator → Option (Ordering → Bool)
  | .eq => some (· == .eq)
  | .gt => some (· == .gt)
  | .gte => some (· != .lt)
  | .lt => some (· == .lt)
  | .lte => some (· != .gt)
  | _ => none

variable {c : Clause} {test : Ordering → Bool} {text literal : String}

theorem compareLiteral_of_numbers {v : Value} {a b : Number.Double}
    (ha : v.double? = some a) (hb : Number.literalValue? literal = some b) :
    compareLiteral v text literal = a.compare b := by
  rw [compareLiteral, ha, hb]

theorem compareLiteral_of_other {v : Value}
    (h : ¬ (v.double?.isSome && Number.isNumericLiteral literal) = true) :
    compareLiteral v text literal =
      ((Instant.read? text).bind fun a => (Instant.read? literal).map fun b =>
        a.compare b).getD
        (Text.order text literal) := by
  unfold Number.isNumericLiteral at h
  unfold compareLiteral
  cases hv : v.double? with
  | none => cases Instant.read? text <;> cases Instant.read? literal <;> rfl
  | some a =>
      cases hliteral : Number.literalValue? literal with
      | none => cases Instant.read? text <;> cases Instant.read? literal <;> rfl
      | some b =>
          rw [hv, hliteral] at h
          exact absurd rfl h

/-- What evaluation does not compare as numbers has the order that a statement
finds. -/
theorem order?_evaluated {v : Value}
    (h : Comparison.evaluated v text literal ≠ .numbers) :
    (Comparison.evaluated v text literal).order? v text literal =
      some (compareLiteral v text literal) := by
  unfold Comparison.evaluated at h ⊢
  split at h
  · exact absurd rfl h
  · next hother =>
      rw [if_neg hother, compareLiteral_of_other hother]
      cases htext : Instant.read? text with
      | none => rfl
      | some i =>
          cases hliteral : Instant.read? literal with
          | none => rfl
          | some j => simp [Comparison.order?, htext, hliteral]

/-- Evaluation compares as it is said to. -/
theorem found?_evaluated (v : Value) (text literal : String) :
    (Comparison.evaluated v text literal).found? v text literal =
      some (compareLiteral v text literal) := by
  by_cases hnumbers : (v.double?.isSome &&
    Number.isNumericLiteral literal) = true
  · rw [Comparison.evaluated, if_pos hnumbers]
    rw [Bool.and_eq_true] at hnumbers
    obtain ⟨a, ha⟩ := Option.isSome_iff_exists.1 hnumbers.1
    obtain ⟨b, hb⟩ := Option.isSome_iff_exists.1 hnumbers.2
    rw [compareLiteral_of_numbers ha hb, Comparison.found?, ha, hb]
    rfl
  · have hne : Comparison.evaluated v text literal ≠ .numbers := by
      rw [Comparison.evaluated, if_neg hnumbers]
      split <;> decide
    rw [← order?_evaluated hne]
    revert hne
    cases Comparison.evaluated v text literal with
    | numbers => exact fun hne => absurd rfl hne
    | truths | instants | texts => exact fun _ => rfl

theorem evaluate_eq {v : Value} (htest : c.operator.test? = some test)
    (hvalue : c.value = .single literal) (htext : v.toText? = some text) :
    c.evaluate v = some (test (compareLiteral v text literal)) := by
  obtain ⟨column, operator, value, negate, combinator⟩ := c
  dsimp only at htest hvalue
  subst hvalue
  unfold Clause.evaluate
  rw [htext]
  cases operator with
  | eq | gt | gte | lt | lte =>
      obtain rfl := Option.some.inj htest
      rfl
  | contains | startsWith | endsWith | between | oneOf | isNull => cases htest

theorem typedOperand_eq (expression : String) (t : ColumnType)
    (literal : String) :
    Sql.typedOperand expression t [literal] =
      (Comparison.rendered t literal).operand expression := by
  have hall : [literal].all t.acceptsLiteral = t.acceptsLiteral literal := by
    rw [List.all_cons, List.all_nil, Bool.and_true]
  unfold Sql.typedOperand Comparison.rendered
  rw [hall]
  cases haccepts : t.acceptsLiteral literal <;> cases t <;> rfl

/-- A statement compares a column with a literal as it is said to. -/
theorem clauseOn_eq {r : ColumnRef} (htest : c.operator.test? = some test)
    (hvalue : c.value = .single literal) (hr : r.path = []) (p : Sql.Params) :
    Sql.clauseOn r c p =
      ((Comparison.rendered r.column.type literal).sql (Sql.quote r.column.name)
        (Sql.comparisonSign c.operator c.negate) (p.push literal).1,
        (p.push literal).2) := by
  obtain ⟨column, path⟩ := r
  obtain rfl : path = [] := hr
  have hcomparison : ∀ sign, Sql.comparison ⟨column, []⟩ sign literal p =
      ((Comparison.rendered column.type literal).sql
        (Sql.quote column.name) sign
        (p.push literal).1, (p.push literal).2) := by
    intro sign
    rw [Comparison.sql, ← typedOperand_eq]
    rfl
  obtain ⟨name, operator, value, negate, combinator⟩ := c
  dsimp only at htest hvalue
  subst hvalue
  cases operator with
  | eq | gt | gte | lt | lte => exact hcomparison _
  | contains | startsWith | endsWith | between | oneOf | isNull => cases htest

/-! ## Where both compare alike -/

/-- Evaluation makes the comparison that a statement makes on a column of the
type: it compares as the same, and finds the same order. -/
def Alike (t : ColumnType) (v : Value) (text literal : String) : Prop :=
  Comparison.evaluated v text literal = Comparison.rendered t literal ∧
    (Comparison.rendered t literal).order? v text literal =
      (Comparison.evaluated v text literal).found? v text literal

/-- A number is not taken for a literal that is another number. -/
def NotMerged (v : Value) (text literal : String) : Prop :=
  ∀ a b, Comparison.writtenNumeral? v text = some a →
    Number.isNumericLiteral literal = true →
    Number.literalNumeral? literal = some b →
    compareLiteral v text literal = .eq → a.order b = .eq

/-- Which values of a type and literals are compared alike. -/
def ComparedAlike (t : ColumnType) (v : Value) (text literal : String) : Prop :=
  match t with
  | .serial | .integer | .decimal .. => NotMerged v text literal
  | .boolean => readBool? literal = none
  | .timestamp => ∃ i : Instant, i.Proper ∧ text = i.toText ∧
      ((Instant.read? literal).isSome = true →
        0 ≤ i.date.year ∧ i.date.year ≤ 9999)
  | .text | .varchar _ =>
      (Instant.read? text).isSome = true → Instant.read? literal = none
  | .json =>
      (v.double?.isSome = true → Number.isNumericLiteral literal = false) ∧
        ((Instant.read? text).isSome = true → Instant.read? literal = none)

theorem evaluated_of_number {v : Value} (h : v.double?.isSome = true)
    (htext : v.toText? = some text) :
    Comparison.evaluated v text literal =
      if Number.isNumericLiteral literal then .numbers else .texts := by
  rw [Comparison.evaluated, h, Bool.true_and, read?_of_number h htext]
  rfl

theorem evaluated_of_other {v : Value} (h : v.double?.isSome = false) :
    Comparison.evaluated v text literal =
      if (Instant.read? text).isSome && (Instant.read? literal).isSome then
        .instants
      else .texts := by
  rw [Comparison.evaluated, h, Bool.false_and, if_neg Bool.false_ne_true]

/-- Where a statement does not compare as numbers, it is enough to
compare as the same. -/
theorem alike_iff {t : ColumnType} {v : Value}
    (h : Comparison.rendered t literal ≠ .numbers) :
    Alike t v text literal ↔
      Comparison.evaluated v text literal = Comparison.rendered t literal := by
  refine ⟨And.left, fun heq => ⟨heq, ?_⟩⟩
  rw [found?_evaluated, ← heq]
  exact order?_evaluated (heq ▸ h)

theorem texts_iff (a b : Option Instant) :
    (if a.isSome && b.isSome then Comparison.instants else .texts) = .texts ↔
      (a.isSome = true → b = none) := by
  cases a <;> cases b <;> simp

/-- A number is what its text is rounded to. -/
theorem roundsTo_writtenNumeral? {v : Value} {x : Number.Double}
    (hx : v.double? = some x)
    (hint : ∀ n, v = .int n → n.natAbs ≤ Number.twoTo 64)
    (htext : v.toText? = some text) :
    ∃ a, Comparison.writtenNumeral? v text = some a ∧ a.RoundsTo x := by
  rw [Comparison.writtenNumeral?, hx, Option.isSome_some, if_pos rfl]
  cases v with
  | int n =>
      obtain rfl := Option.some.inj hx
      obtain rfl : toString n = text := by
        simpa [Value.toText?, Value.text] using htext
      exact ⟨.ofInt n, Number.Numeral.read?_toString n,
        Number.Double.roundsTo_ofInt (hint n rfl)⟩
  | float d =>
      obtain rfl := Option.some.inj hx
      obtain rfl : d.toText = text := by
        simpa [Value.toText?, Value.text] using htext
      exact ⟨d.numeral, d.read?_toText, d.roundsTo_numeral⟩
  | null | bool b | str s | arr items | obj fields => cases hx

/-- Numbers are compared as numbers, and so alike if rounding
keeps them apart. -/
theorem alike_numbers_iff {v : Value} (h : v.double?.isSome = true)
    (hint : ∀ n, v = .int n → n.natAbs ≤ Number.twoTo 64)
    (htext : v.toText? = some text) (literal : String) :
    Alike .integer v text literal ↔ NotMerged v text literal := by
  have hrendered : Comparison.rendered .integer literal =
      if Number.isNumericLiteral literal then .numbers else .texts := rfl
  have hevaluated := (evaluated_of_number h htext).trans hrendered.symm
  cases hnumeric : Number.isNumericLiteral literal with
  | false =>
      rw [hnumeric] at hrendered
      rw [alike_iff (by rw [hrendered]; decide)]
      refine iff_of_true hevaluated fun a b _ htrue => ?_
      rw [hnumeric] at htrue
      cases htrue
  | true =>
      rw [hnumeric] at hrendered
      obtain ⟨x, hx⟩ := Option.isSome_iff_exists.1 h
      obtain ⟨y, hy⟩ := Option.isSome_iff_exists.1 hnumeric
      obtain ⟨a, ha, hleft⟩ := roundsTo_writtenNumeral? hx hint htext
      obtain ⟨b, hb, hfinite⟩ := Number.literalNumeral?_of_literalValue? hy
      have hnumbers : compareLiteral v text literal = x.compare y :=
        compareLiteral_of_numbers hx hy
      have hcompare :=
        hleft.compare_iff (Number.Numeral.roundsTo_of_toExtended hfinite)
      rw [← hnumbers] at hcompare
      have horder : Comparison.order? .numbers v text literal =
          some (a.order b) := by
        rw [Comparison.order?, ha, hb]
        rfl
      unfold Alike NotMerged
      rw [found?_evaluated, hevaluated, hrendered, if_pos rfl, horder,
        Option.some_inj, eq_comm (a := a.order b), hcompare]
      constructor
      · rintro ⟨-, hkeep⟩ a' b' ha' - hb' hsame
        obtain rfl := Option.some.inj (ha.symm.trans ha')
        obtain rfl := Option.some.inj (hb.symm.trans hb')
        exact hkeep hsame
      · exact fun hkeep => ⟨rfl, hkeep a b ha hnumeric hb⟩

/-- Of what a type stores, exactly what `ComparedAlike` says is
compared alike. -/
theorem alike_iff_comparedAlike {t : ColumnType} {v : Value}
    (hstores : t.Stores v) (hint : ∀ n, v = .int n → n.natAbs ≤ Number.twoTo 64)
    (htext : v.toText? = some text) (literal : String) :
    Alike t v text literal ↔ ComparedAlike t v text literal := by
  cases t with
  | serial | integer | decimal precision scale =>
      exact alike_numbers_iff hstores hint htext literal
  | boolean =>
      obtain ⟨b, rfl⟩ := hstores
      have hnone : Instant.read? text = none := by
        obtain rfl := Option.some.inj htext
        refine Instant.read?_eq_none (not_hyphenBehindDigit ?_)
        cases b <;> decide
      have hrendered : Comparison.rendered .boolean literal =
          if (readBool? literal).isSome then .truths else .texts := rfl
      rw [alike_iff (by rw [hrendered]; split <;> decide),
        evaluated_of_other rfl, hnone, hrendered]
      show Comparison.texts =
          (if (readBool? literal).isSome then .truths else .texts) ↔
        readBool? literal = none
      cases readBool? literal with
      | none => exact iff_of_true rfl rfl
      | some b => exact iff_of_false (fun h => by cases h) (fun h => by cases h)
  | timestamp =>
      obtain ⟨i, hproper, rfl⟩ := hstores
      obtain rfl := Option.some.inj htext
      have hrendered : Comparison.rendered .timestamp literal =
          if (Instant.read? literal).isSome then .instants else .texts := rfl
      rw [alike_iff (by rw [hrendered]; split <;> decide),
        evaluated_of_other rfl, hrendered]
      constructor
      · intro heq
        refine ⟨i, hproper, rfl, fun haccepts => ?_⟩
        by_contra hyear
        rw [Instant.read?_toText hproper, if_neg hyear, if_pos haccepts] at heq
        cases heq
      · rintro ⟨j, hj, htext, hyear⟩
        rw [htext, Instant.read?_toText hj]
        cases hliteral : Instant.read? literal with
        | none => rw [Option.isSome_none, Bool.and_false]
        | some k =>
            rw [if_pos (hyear (by rw [hliteral]; rfl))]
            rfl
  | text =>
      obtain ⟨s, rfl⟩ := hstores
      have hrendered : Comparison.rendered .text literal = .texts := rfl
      rw [alike_iff (by rw [hrendered]; decide), evaluated_of_other rfl]
      exact texts_iff _ _
  | varchar length =>
      obtain ⟨s, rfl⟩ := hstores
      have hrendered : Comparison.rendered (.varchar length) literal = .texts :=
        rfl
      rw [alike_iff (by rw [hrendered]; decide), evaluated_of_other rfl]
      exact texts_iff _ _
  | json =>
      have hrendered : Comparison.rendered .json literal = .texts := rfl
      rw [alike_iff (by rw [hrendered]; decide), hrendered]
      show _ ↔ _ ∧ _
      cases hnumber : v.double?.isSome with
      | true =>
          have hnone := read?_of_number hnumber htext
          rw [evaluated_of_number hnumber htext, hnone]
          cases Number.isNumericLiteral literal <;> simp
      | false =>
          rw [evaluated_of_other hnumber, texts_iff]
          simp

/-- A clause on a stored value comes out by the order that evaluation finds, and
as a statement it is the comparison that the type of the column asks for. Both
compare as the same and find the same order exactly for the values and literals
of `ComparedAlike`. -/
theorem literals_are_compared_alike_iff {t : ColumnType} {v w : Value}
    (h : t.coerce v = .ok w) (hw : w.isNull = false)
    (hint : ∀ n, w = .int n → n.natAbs ≤ Number.twoTo 64) (literal : String) :
    ∃ text, w.toText? = some text ∧
      (∀ c test, Operator.test? c.operator = some test →
        c.value = .single literal →
        ∃ o, (Comparison.evaluated w text literal).found? w text
          literal = some o ∧ Clause.evaluate c w = some (test o)) ∧
      (∀ c test, Operator.test? c.operator = some test →
        c.value = .single literal →
        ∀ r : ColumnRef, r.path = [] → r.column.type = t → ∀ p,
          Sql.clauseOn r c p =
            ((Comparison.rendered t literal).sql (Sql.quote r.column.name)
              (Sql.comparisonSign c.operator c.negate) (p.push literal).1,
              (p.push literal).2)) ∧
      (Alike t w text literal ↔ ComparedAlike t w text literal) := by
  obtain ⟨text, htext⟩ : ∃ text, w.toText? = some text := by
    cases w with
    | null => cases hw
    | bool b | int n | float d | str s | arr items | obj fields =>
        exact ⟨_, rfl⟩
  refine ⟨text, htext, fun c test htest hvalue =>
    ?_, fun c test htest hvalue r hr htype p => ?_,
    alike_iff_comparedAlike (ColumnType.stores_of_coerce h hw) hint htext
      literal⟩
  · exact ⟨_, found?_evaluated w text literal, evaluate_eq htest hvalue htext⟩
  · subst htype
    exact clauseOn_eq htest hvalue hr p

/-- Midnight of a leap day, written as a date and as a time. -/
theorem leap_day_is_compared_alike :
    let day : Value := .str "2024-2-29"
    let stored : Value := .str "2024-02-29T00:00:00+00:00"
    let literal := "2024-02-29T01:00:00+01:00"
    ColumnType.timestamp.coerce day = .ok stored ∧ stored.isNull = false ∧
      (∀ n, stored = .int n → n.natAbs ≤ Number.twoTo 64) ∧
      ∃ text, stored.toText? = some text ∧
      Alike .timestamp stored text literal ∧
        compareLiteral stored text literal = .eq := by
  intro day stored literal
  have hcoerce : ColumnType.timestamp.coerce day = .ok stored := by rfl
  have hint : ∀ n, stored = .int n → n.natAbs ≤ Number.twoTo 64 :=
    fun n heq => Value.noConfusion heq
  obtain ⟨text, htext, -, -, hiff⟩ :=
    literals_are_compared_alike_iff hcoerce rfl hint literal
  obtain rfl := Option.some.inj htext
  have hyear :
      ComparedAlike .timestamp stored "2024-02-29T00:00:00+00:00" literal :=
    ⟨⟨1709164800, 0⟩,
      ⟨by decide, by decide⟩, by decide +kernel, by decide +kernel⟩
  exact ⟨hcoerce, rfl, hint, _, rfl, hiff.2 hyear, by decide +kernel⟩

/-- In a column of truth values `1` is true to a statement, and evaluation puts
its text in front of that of true. -/
theorem true_is_behind_one :
    ¬ ∀ (t : ColumnType) (v w : Value) (text literal : String),
      t.coerce v = .ok w →
      w.isNull = false → w.toText? = some text →
        (Comparison.rendered t literal).order? w text literal =
          some (compareLiteral w text literal) := by
  intro h
  have hone := h .boolean (.bool true) (.bool true) "true" "1" rfl rfl rfl
  have hrendered :
      (Comparison.rendered .boolean "1").order? (.bool true) "true" "1" =
        some .eq := by
    decide +kernel
  have hcompared : compareLiteral (.bool true) "true" "1" = .gt := by
    decide +kernel
  rw [hrendered, hcompared] at hone
  cases hone

end Query

end TenantTables
