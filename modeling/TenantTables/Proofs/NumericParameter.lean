import TenantTables.Proofs.ConditionShape
import TenantTables.Proofs.DecimalLiteral

/-!
# What is cast to a number

A condition compares numbers by casting the placeholder of a literal, and the
database refuses the whole statement if the literal cannot be cast. A condition
casts only what passes the test for being a number, and that test trims. What is
bound is the literal itself, so it matters which white space a cast skips: that
of ASCII, and none besides.

A single literal was trimmed when its clause was read. The bounds of a range
were trimmed together, in front of the first and behind the second, but not
where the two meet. There any white space passes the test.
-/

namespace TenantTables

namespace Text

/-- The white space that is skipped around a literal that is cast. -/
def isAsciiBlank (c : Char) : Bool :=
  c.toNat < 128 && isBlank c

/-- Removes ASCII white space at both ends. -/
def trimAscii (s : String) : String :=
  String.ofList
    ((s.toList.dropWhile isAsciiBlank).reverse.dropWhile isAsciiBlank).reverse

theorem isBlank_of_isAsciiBlank {c : Char}
    (h : isAsciiBlank c = true) : isBlank c = true :=
  (Bool.and_eq_true _ _ ▸ h).2

theorem exists_around_trimAscii (s : String) :
    ∃ front back, s.toList = front ++ (trimAscii s).toList ++ back ∧
      (∀ c ∈ front, isBlank c = true) ∧ ∀ c ∈ back, isBlank c = true := by
  have hfront :=
    List.takeWhile_append_dropWhile (p := isAsciiBlank) (l := s.toList)
  have hback := List.takeWhile_append_dropWhile (p := isAsciiBlank)
    (l := (s.toList.dropWhile isAsciiBlank).reverse)
  refine ⟨s.toList.takeWhile isAsciiBlank,
    ((s.toList.dropWhile isAsciiBlank).reverse.takeWhile isAsciiBlank).reverse,
    ?_, fun c hc => isBlank_of_isAsciiBlank (List.mem_takeWhile_imp hc),
    fun c hc =>
      isBlank_of_isAsciiBlank (List.mem_takeWhile_imp (List.mem_reverse.1 hc))⟩
  rw [trimAscii, String.toList_ofList, List.append_assoc,
    ← List.reverse_append, hback, List.reverse_reverse, hfront]

/-- What is left of a text without ASCII white space is all that is left of it,
if no other white space is in it. -/
theorem trimAscii_eq_trim {s : String} (hne : trimAscii s ≠ "")
    (h : ∀ c ∈ (trimAscii s).toList, isBlank c = false) :
    trimAscii s = trim s := by
  obtain ⟨front, back, hs, hfront, hback⟩ := exists_around_trimAscii s
  rw [trim, hs, trimChars_surrounded hfront hback h
    (fun hnil => hne (String.toList_eq_nil_iff.1 hnil)), String.ofList_toList]

theorem trimAscii_eq_self {s : String} (h : ∀ c ∈ s.toList, isBlank c = false) :
    trimAscii s = s := by
  obtain ⟨front, back, hs, hfront, hback⟩ := exists_around_trimAscii s
  have hnone : ∀ cs : List Char, (∀ c ∈ cs, isBlank c = true) →
      (∀ c ∈ cs, c ∈ s.toList) → cs = [] := fun cs hblank hwithin =>
    List.eq_nil_iff_forall_not_mem.2 fun c hc =>
      Bool.false_ne_true ((h c (hwithin c hc)).symm.trans (hblank c hc))
  rw [hnone front hfront fun c hc => by simp [hs, hc],
    hnone back hback fun c hc => by simp [hs, hc], List.nil_append,
    List.append_nil] at hs
  exact (String.toList_inj.1 hs).symm

end Text

namespace Number

/-- A number is a literal that can be cast if the white space
around it is ASCII. -/
theorem isDecimal_trimAscii_iff {s : String} (h : IsDecimal (Text.trim s)) :
    IsDecimal (Text.trimAscii s) ↔ Text.trimAscii s = Text.trim s := by
  constructor
  · intro hascii
    obtain ⟨hne, hblank⟩ := hascii.not_blank
    exact Text.trimAscii_eq_trim hne hblank
  · intro heq
    rwa [heq]

end Number

namespace Sql

open Query
open Number (IsDecimal)

/-! ## The placeholders that are cast to a number -/

/-- The number of a placeholder that is cast to a number. -/
def Token.numeric? : Token Place → Option Nat
  | .name _ => none
  | .place p => if p.cast = some "numeric" then some p.number else none

/-- The placeholders of a statement that are cast to a number. -/
def numericPlaces (sql : String) : List Nat :=
  (tokensFrom Place.before none sql.toList).filterMap Token.numeric?

/-- The value that is bound to a placeholder. -/
def Params.value? (p : Params) (n : Nat) : Option String :=
  if p.offset < n then p.values[n - p.offset - 1]? else none

theorem Reads.numericPlaces_eq {sql : String} {ts : List (Token Place)}
    (h : Reads Place.before sql ts) :
    numericPlaces sql = ts.filterMap Token.numeric? := by
  have htokens : tokensFrom Place.before none sql.toList = ts := by
    simpa [tokensFrom] using h [] rfl
  rw [numericPlaces, htokens]

/-! ## What a clause casts -/

variable {r : ColumnRef}

/-- Only types of numbers are compared as numbers, and only with numbers. -/
theorem acceptsLiteral_of_filterCast {type : ColumnType}
    (h : type.filterCast = some "numeric") :
    type.acceptsLiteral = Number.isNumericLiteral := by
  cases type <;> simp [ColumnType.filterCast] at h <;> rfl

theorem all_isNumericLiteral_of_typedOperand {e : String} {type : ColumnType}
    {literals : List String}
    (h : (typedOperand e type literals).2 = "numeric") :
    literals.all Number.isNumericLiteral = true := by
  unfold typedOperand at h
  split at h
  · next cast hcast =>
      split at h
      · next hall =>
          rwa [acceptsLiteral_of_filterCast (hcast.trans (congrArg some h))]
            at hall
      · simp at h
  · simp at h

/-- Behind others, placeholders are cast as they are by themselves. -/
theorem numeric_behind (ts : List (Token Place)) (k : Nat) :
    (ts.map (Token.map (Place.behind k))).filterMap Token.numeric? =
      (ts.filterMap Token.numeric?).map (k + ·) := by
  rw [List.filterMap_map, List.map_filterMap]
  refine List.filterMap_congr fun t _ => ?_
  cases t with
  | name s => rfl
  | place p =>
      simp only [Function.comp_apply, Token.map, Token.numeric?, Place.behind]
      split <;> rfl

theorem numeric_compared (column type : String) (values : List Nat) :
    (.name column :: values.map fun n => Token.place ⟨n, some type⟩).filterMap
        Token.numeric? = if type = "numeric" then values else [] := by
  rw [List.filterMap_cons_none rfl, List.filterMap_map]
  split
  · next htype => simp [Token.numeric?, htype]
  · next htype => simp [Token.numeric?, htype]

/-- A comparison casts its values to numbers only if all its
literals are numbers. -/
theorem of_numeric_comparisonTokens {literals : List String} {values : List Nat}
    {n : Nat}
    (h : n ∈ (comparisonTokens r literals values).filterMap Token.numeric?) :
    n ∈ values ∧ literals.all Number.isNumericLiteral = true := by
  unfold comparisonTokens at h
  dsimp only at h
  split at h
  · next hnested =>
      rw [List.filterMap_append, List.filterMap_cons_none rfl, numeric_compared,
        numeric_compared, if_pos rfl, if_neg (by decide), List.append_nil] at h
      exact ⟨h, (Bool.and_eq_true _ _ ▸ hnested :).2⟩
  · rw [numeric_compared] at h
    split at h
    · next hcast => exact ⟨h, all_isNumericLiteral_of_typedOperand hcast⟩
    · cases h

/-- A clause casts nothing to a number but literals that are numbers. -/
theorem of_numeric_clauseTokens {c : Clause} {n : Nat}
    (h : n ∈ (clauseTokens r c).filterMap Token.numeric?) :
    ∃ v ∈ testedBy c,
      (boundBy c)[n]? = some v ∧ Number.isNumericLiteral v = true := by
  obtain ⟨column, operator, value, negate, combinator⟩ := c
  cases operator with
  | isNull | contains | startsWith | endsWith | oneOf =>
      simp [clauseTokens, Token.numeric?] at h
  | eq | gt | gte | lt | lte =>
      obtain ⟨hn, hall⟩ := of_numeric_comparisonTokens h
      obtain rfl := List.mem_singleton.1 hn
      exact ⟨_, List.mem_singleton_self _, rfl, by simpa [boundBy] using hall⟩
  | between =>
      rcases hbounds : value.bounds with ⟨_ | low, _ | high⟩
      case some.some =>
        simp only [clauseTokens, boundBy, hbounds] at h
        simp only [testedBy, boundBy, hbounds]
        obtain ⟨hn, hall⟩ := of_numeric_comparisonTokens h
        rw [List.all_eq_true] at hall
        simp only [List.mem_cons, List.not_mem_nil, or_false] at hn
        obtain rfl | rfl := hn
        · exact ⟨low, by simp, rfl, hall low (by simp)⟩
        · exact ⟨high, by simp, rfl, hall high (by simp)⟩
      all_goals simp [clauseTokens, hbounds] at h

/-! ## What is bound to them -/

theorem value?_pushAll (p : Params) (values : List String) (i : Nat) :
    (p.pushAll values).value? (p.nextIndex + i) = values[i]? := by
  unfold Params.value? Params.pushAll Params.nextIndex
  dsimp only
  rw [if_pos (by omega), List.getElem?_append_right (by omega)]
  congr 1
  omega

/-- A single literal was trimmed. -/
theorem trim_of_mem_testedBy {raw : String} {aliases : Aliases}
    {combinator : Combinator} {c : Clause}
    (hc : Clause.parse? raw aliases combinator = some c)
    (hop : c.operator ≠ .between) {v : String}
    (hv : v ∈ testedBy c) : Text.trim v = v := by
  unfold Clause.parse? at hc
  dsimp only at hc
  split at hc
  · cases hc
  · obtain ⟨⟨op, negate⟩, -, rfl⟩ := Option.map_eq_some_iff.1 hc
    dsimp only at hop hv
    cases op with
    | eq | gt | gte | lt | lte =>
        obtain rfl := List.mem_singleton.1 hv
        exact Text.trim_trim _
    | between => exact absurd rfl hop
    | isNull | contains | startsWith | endsWith | oneOf => cases hv

/-- Whatever a clause that was read casts to a number is one when it is trimmed.
It is a literal that can be cast exactly if no white space but that of ASCII is
around it, and there is none around a single literal. -/
theorem numeric_parameter_is_decimal {raw : String} {aliases : Aliases}
    {combinator : Combinator} {c : Clause}
    (hc : Clause.parse? raw aliases combinator = some c) {spec : TableSpec}
    {p q : Params} {sql : String} (hsql : clause spec c p = (some sql, q)) :
    ∀ n ∈ numericPlaces sql, ∃ v,
      q.value? n = some v ∧ IsDecimal (Text.trim v) ∧
      (IsDecimal (Text.trimAscii v) ↔ Text.trimAscii v = Text.trim v) ∧
      (c.operator ≠ .between → IsDecimal (Text.trimAscii v)) := by
  unfold clause at hsql
  split at hsql
  · cases hsql
  · next r hr =>
      obtain ⟨htext, rfl⟩ : (clauseOn r c p).1 = sql ∧
          (clauseOn r c p).2 = q := by
        simpa using hsql
      have hplaces :=
        (reads_clauseOn (path_of_columnRef? hr) c p).numericPlaces_eq
      rw [htext, numeric_behind] at hplaces
      intro n hn
      rw [hplaces] at hn
      obtain ⟨i, hi, rfl⟩ := List.mem_map.1 hn
      obtain ⟨v, htested, hbound, hnumber⟩ := of_numeric_clauseTokens hi
      have hdecimal := Number.isDecimal_trim hnumber
      have hiff := Number.isDecimal_trimAscii_iff hdecimal
      refine ⟨v, ?_, hdecimal, hiff, fun hop => ?_⟩
      · rw [clauseOn_snd, value?_pushAll, hbound]
      · rw [trim_of_mem_testedBy hc hop htested] at hdecimal
        rwa [Text.trimAscii_eq_self hdecimal.not_blank.2]

/-- The condition of a range of the surrogate key. -/
theorem clause_range_of_id {low high : String}
    (hlow : Number.isNumericLiteral low = true)
    (hhigh : Number.isNumericLiteral high = true) :
    clause .default ⟨"id", .between, .list [low, high], false, .and⟩
      (.startingAt 0) =
      (some "\"id\" BETWEEN $1::numeric AND $2::numeric",
        ⟨[low, high], 0⟩) := by
  let r : ColumnRef :=
    ⟨{ name := "id", type := .serial, nullable := false }, []⟩
  have hr : TableSpec.default.columnRef? "id" = some r := by decide +kernel
  have htyped : typedOperand (columnExpression r) r.type [low, high] =
      ("\"id\"", "numeric") := by
    have hall : [low, high].all r.type.acceptsLiteral = true := by
      change [low, high].all Number.isNumericLiteral = true
      simp [hlow, hhigh]
    change (if _ then (columnExpression r, "numeric") else _) = _
    rw [if_pos hall]
    decide +kernel
  have hrange : range r "" low high (.startingAt 0) =
      ("\"id\" BETWEEN $1::numeric AND $2::numeric", ⟨[low, high], 0⟩) := by
    unfold range
    rw [Params.push_eq]
    dsimp only
    rw [Params.push_eq, Params.nextIndex_pushAll, htyped, List.length_singleton,
      if_neg (show ¬ comparesNested r [low, high] = true
        from Bool.false_ne_true)]
    dsimp only
    refine congrArg (fun sql => (sql, (⟨[low, high], 0⟩ : Params))) ?_
    decide +kernel
  rw [clause, hr]
  change (some (range r "" low high _).1, (range r "" low high _).2) = _
  rw [hrange]

/-- The bounds of a range, with spaces where they meet. -/
theorem range_with_spaces_is_cast :
    let sql := "\"id\" BETWEEN $1::numeric AND $2::numeric"
    ∃ c q, Clause.parse? "id:bt:1 | 2" [] .and = some c ∧
      clause .default c (.startingAt 0) = (some sql, q) ∧
      numericPlaces sql = [1, 2] ∧
      q.value? 1 = some "1 " ∧ IsDecimal (Text.trimAscii "1 ") ∧
      q.value? 2 = some " 2" ∧ IsDecimal (Text.trimAscii " 2") := by
  have hparse : Clause.parse? "id:bt:1 | 2" [] .and =
      some ⟨"id", .between, .list ["1 ", " 2"], false, .and⟩ := by
        decide +kernel
  have hplaces :
      numericPlaces "\"id\" BETWEEN $1::numeric AND $2::numeric" = [1, 2] := by
    decide +kernel
  have hone : Number.isNumericLiteral "1 " = true :=
    Number.isNumericLiteral_of_trim (n := 1) (by decide +kernel)
      (by decide +kernel)
  have htwo : Number.isNumericLiteral " 2" = true :=
    Number.isNumericLiteral_of_trim (n := 2) (by decide +kernel)
      (by decide +kernel)
  have hsql := clause_range_of_id hone htwo
  have hcast := numeric_parameter_is_decimal hparse hsql
  rw [hplaces] at hcast
  obtain ⟨low, hlow, -, hlowCast, -⟩ := hcast 1 (by decide)
  obtain ⟨high, hhigh, -, hhighCast, -⟩ := hcast 2 (by decide)
  obtain rfl : "1 " = low := Option.some.inj hlow
  obtain rfl : " 2" = high := Option.some.inj hhigh
  exact ⟨_, _, hparse, hsql, hplaces, hlow,
    hlowCast.2 (by decide +kernel), hhigh, hhighCast.2 (by decide +kernel)⟩

/-- A no-break space behind the lower bound passes the test for a number. -/
theorem range_with_no_break_space_is_cast :
    let sql := "\"id\" BETWEEN $1::numeric AND $2::numeric"
    ∃ c q, Clause.parse? "id:bt:1\u00a0|2" [] .and = some c ∧
      clause .default c (.startingAt 0) = (some sql, q) ∧
      numericPlaces sql = [1, 2] ∧
      q.value? 1 = some "1\u00a0" ∧ ¬ IsDecimal (Text.trimAscii "1\u00a0") := by
  have hparse : Clause.parse? "id:bt:1\u00a0|2" [] .and =
      some ⟨"id", .between, .list ["1\u00a0", "2"], false, .and⟩ := by
        decide +kernel
  have hone : Number.isNumericLiteral "1\u00a0" = true :=
    Number.isNumericLiteral_of_trim (n := 1) (by decide +kernel)
      (by decide +kernel)
  have htwo : Number.isNumericLiteral "2" = true :=
    Number.isNumericLiteral_of_trim (n := 2) (by decide +kernel)
      (by decide +kernel)
  refine ⟨_, _, hparse, clause_range_of_id hone htwo, by decide +kernel, rfl,
    fun hdecimal => ?_⟩
  have hblank := hdecimal.not_blank.2 '\u00a0' (by decide +kernel)
  exact absurd hblank (by decide)

end Sql

end TenantTables
