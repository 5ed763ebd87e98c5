import TenantTables.Proofs.WildcardPattern
import TenantTables.Query.Match
import TenantTables.Sql.Condition

/-!
# Pattern clauses, in memory and in the database

Both sides are given the same pattern, the value with `%` at one end or at both,
and both read `%` and `_` as wildcards. The database knows one thing more: a
backslash makes the next character of the pattern stand for itself. In memory it
is a character like any other. A value without a backslash therefore means the
same on both sides.

A value with one never does. What fits a pattern in memory has no fewer
backslashes than the pattern, since each of them takes one of the text. The
shortest text that the database takes has fewer: a backslash that escapes takes
nothing. Where there is no such text, the last backslash has nothing to escape,
and the database has no answer at all.
-/

namespace TenantTables

namespace Query

theorem count_le_of_takes {c p : Char} {piece : List Char} (hstar : c ≠ '%')
    (hany : c ≠ '_') (h : Takes p piece) : [p].count c ≤ piece.count c := by
  by_cases hp : p = c
  · subst hp
    rw [Takes, if_neg hstar, if_neg hany] at h
    rw [h]
  · rw [List.count_singleton, if_neg (by simpa using hp)]
    exact Nat.zero_le _

/-- A character that is no wildcard is in the text as often as
in the pattern. -/
theorem count_le_of_fits {c : Char} {ps text : List Char} (hstar : c ≠ '%')
    (hany : c ≠ '_') (h : Fits ps text) : ps.count c ≤ text.count c := by
  induction ps generalizing text with
  | nil => exact Nat.zero_le _
  | cons p ps ih =>
      obtain ⟨piece, rest, rfl, hp, hrest⟩ := fits_cons.1 h
      rw [← List.singleton_append, List.count_append, List.count_append]
      exact Nat.add_le_add (count_le_of_takes hstar hany hp) (ih hrest)

end Query

namespace Sql

open Json (Value)
open Query

/-! ## Patterns in the database -/

/-- What a part of a pattern stands for. -/
inductive PatternPart where
  /-- Any run of characters. -/
  | run
  /-- Any one character. -/
  | one
  | literal (c : Char)
  deriving DecidableEq

/-- What a character stands for that no backslash escapes. -/
def plainPart (p : Char) : PatternPart :=
  if p = '%' then .run else if p = '_' then .one else .literal p

/-- The parts of a pattern. A backslash escapes the next character, and
has to have one. -/
def patternParts? : List Char → Option (List PatternPart)
  | [] => some []
  | p :: ps =>
      if p = '\\' then
        match ps with
        | [] => none
        | c :: ps => (patternParts? ps).map (.literal c :: ·)
      else (patternParts? ps).map (plainPart p :: ·)

/-- Whether parts, one after another, take all of a text. -/
def takesAll : List PatternPart → List Char → Bool
  | [], text => text.isEmpty
  | .run :: parts, text => text.tails.any (takesAll parts)
  | .one :: _, [] => false
  | .one :: parts, _ :: cs => takesAll parts cs
  | .literal _ :: _, [] => false
  | .literal c :: parts, d :: cs => c == d && takesAll parts cs

/-- The `LIKE` of the database; it refuses a pattern that ends in the
middle of an escape. -/
def sqlLike? (pattern text : String) : Option Bool :=
  (patternParts? pattern.toList).map fun parts => takesAll parts text.toList

/-! ## Patterns without a backslash -/

variable {ps text : List Char} {parts : List PatternPart}

theorem patternParts?_cons {p : Char} (h : p ≠ '\\') :
    patternParts? (p :: ps) = (patternParts? ps).map (plainPart p :: ·) := by
  cases ps <;> simp [patternParts?, h]

theorem patternParts?_of_plain (h : '\\' ∉ ps) :
    patternParts? ps = some (ps.map plainPart) := by
  induction ps with
  | nil => rfl
  | cons p ps ih =>
      rw [List.mem_cons, not_or] at h
      rw [patternParts?_cons (Ne.symm h.1), ih h.2]
      rfl

theorem takesAll_run : takesAll (.run :: parts) text = true ↔
    ∃ rest, rest <:+ text ∧ takesAll parts rest = true := by
  simp [takesAll]

/-- Unescaped parts take what the characters take that they come from. -/
theorem takesAll_map_plainPart :
    takesAll (ps.map plainPart) text = true ↔ Fits ps text := by
  induction ps generalizing text with
  | nil => simp [takesAll, fits_nil]
  | cons p ps ih =>
      rw [List.map_cons]
      by_cases hstar : p = '%'
      · subst hstar
        rw [plainPart, if_pos rfl, takesAll_run, fits_star]
        simp only [ih]
      · rw [plainPart, if_neg hstar]
        cases text with
        | nil => split <;> simp [takesAll, fits_one hstar]
        | cons c cs =>
            rw [fits_cons_cons hstar]
            split
            · next hany => simp [takesAll, ih, hany]
            · next hany => simp [takesAll, ih, hany]

/-! ## Patterns with a backslash -/

/-- The shortest text that parts take, with some character for each
that may be any. -/
def shortestText (parts : List PatternPart) : List Char :=
  parts.flatMap fun
    | .run => []
    | .one => ['_']
    | .literal c => [c]

theorem takesAll_shortestText (parts : List PatternPart) :
    takesAll parts (shortestText parts) = true := by
  induction parts with
  | nil => rfl
  | cons part parts ih =>
      cases part with
      | run => exact takesAll_run.2 ⟨_, List.suffix_rfl, ih⟩
      | one => exact ih
      | literal c =>
          show (c == c && takesAll parts (shortestText parts)) = true
          rw [beq_self_eq_true, ih]
          rfl

theorem count_plainPart {p : Char} (h : p ≠ '\\') :
    (shortestText [plainPart p]).count '\\' = 0 := by
  unfold plainPart
  split
  · rfl
  · split
    · rfl
    · exact List.count_eq_zero.2 (by simpa [shortestText] using h.symm)

theorem count_shortestText_cons (part : PatternPart)
    (parts : List PatternPart) : (shortestText (part :: parts)).count '\\' =
      (shortestText [part]).count '\\' + (shortestText parts).count '\\' := by
  rw [← List.count_append]
  simp [shortestText]

/-- A backslash that escapes is not in the shortest text. -/
theorem count_shortestText (h : patternParts? ps = some parts) :
    (shortestText parts).count '\\' ≤ ps.count '\\' ∧
      ('\\' ∈ ps → (shortestText parts).count '\\' < ps.count '\\') := by
  fun_induction patternParts? ps generalizing parts with
  | case1 =>
      obtain rfl := Option.some.inj h
      exact ⟨Nat.le_refl _, fun hmem => absurd hmem List.not_mem_nil⟩
  | case2 => cases h
  | case3 c ps ih =>
      obtain ⟨rest, hrest, rfl⟩ := Option.map_eq_some_iff.1 h
      have hle := (ih hrest).1
      have hliteral : (shortestText [.literal c]).count '\\' = [c].count '\\' :=
        rfl
      have hcons : (c :: ps).count '\\' = [c].count '\\' + ps.count '\\' := by
        rw [← List.count_append, List.singleton_append]
      rw [count_shortestText_cons, hliteral, List.count_cons_self, hcons]
      exact ⟨by omega, fun _ => by omega⟩
  | case4 p ps hp ih =>
      obtain ⟨rest, hrest, rfl⟩ := Option.map_eq_some_iff.1 h
      obtain ⟨hle, hlt⟩ := ih hrest
      rw [count_shortestText_cons, count_plainPart hp, Nat.zero_add,
        List.count_cons_of_ne hp]
      exact ⟨hle, fun hmem =>
        hlt ((List.mem_cons.1 hmem).resolve_left (Ne.symm hp))⟩

/-- The database takes a text that does not fit in memory, or has no answer. -/
theorem exists_text_apart {pattern : String} (h : '\\' ∈ pattern.toList) :
    ∃ text, sqlLike? pattern text ≠ some (like pattern text) := by
  unfold sqlLike?
  cases hparts : patternParts? pattern.toList with
  | none => exact ⟨"", nofun⟩
  | some parts =>
      refine ⟨String.ofList (shortestText parts), fun heq => ?_⟩
      rw [Option.map_some, String.toList_ofList, takesAll_shortestText,
        Option.some.injEq] at heq
      have hfits := (like_iff_fits _ _).1 heq.symm
      rw [String.toList_ofList] at hfits
      have hle := count_le_of_fits (c := '\\') (by decide) (by decide) hfits
      have hlt := (count_shortestText hparts).2 h
      omega

theorem sqlLike?_eq_like_iff (pattern : String) :
    (∀ text, sqlLike? pattern text = some (like pattern text)) ↔
      '\\' ∉ pattern.toList := by
  constructor
  · intro h hmem
    obtain ⟨text, hne⟩ := exists_text_apart hmem
    exact hne (h text)
  · intro h text
    rw [sqlLike?, patternParts?_of_plain h, Option.map_some, Option.some.injEq,
      Bool.eq_iff_iff, like_iff_fits]
    exact takesAll_map_plainPart

/-! ## Clauses

Both sides make the pattern from the value of the clause. A list is no value:
there the database is given the pattern of an empty text, and in memory
nothing is matched. -/

variable {c : Clause}

/-- The pattern of a clause. -/
def patternOf (c : Clause) : String :=
  (c.operator.likePattern? (c.value.single?.getD "")).getD ""

section Pattern

variable (hop : c.operator = .contains ∨ c.operator = .startsWith ∨
    c.operator = .endsWith)
include hop

theorem clauseOn_pattern (r : ColumnRef) (p : Params) :
    clauseOn r c p =
      (columnExpression r ++ "::text " ++ (if c.negate then "NOT " else "") ++
        "LIKE " ++ ("$" ++ toString p.nextIndex) ++ "::text",
        { p with values := p.values ++ [patternOf c] }) := by
  obtain ⟨column, operator, value, negate, combinator⟩ := c
  obtain rfl | rfl | rfl := hop <;> rfl

theorem evaluate_pattern (v : Value) :
    c.evaluate v =
      v.toText?.bind fun text => c.value.single?.map fun _ =>
        like (patternOf c) text := by
  obtain ⟨column, operator, value, negate, combinator⟩ := c
  obtain rfl | rfl | rfl := hop <;> cases value <;> rfl

/-- The wildcards around a value are no backslashes. -/
theorem backslash_mem_patternOf :
    '\\' ∈ (patternOf c).toList ↔ '\\' ∈ (c.value.single?.getD "").toList := by
  unfold patternOf
  obtain h | h | h := hop <;> simp [h, Operator.likePattern?]

end Pattern

/-- A pattern clause is rendered as a `LIKE` on the pattern that it is evaluated
with. The two agree about every value exactly if the clause has a single value
without a backslash. -/
theorem pattern_clauses_match_alike_iff
    (hop : c.operator = .contains ∨ c.operator = .startsWith ∨
      c.operator = .endsWith)
    (r : ColumnRef) (p : Params) :
    ∃ pattern : String,
      clauseOn r c p =
        (columnExpression r ++ "::text " ++ (if c.negate then "NOT " else "") ++
          "LIKE " ++
          ("$" ++ toString p.nextIndex) ++ "::text",
          { p with values := p.values ++ [pattern] }) ∧
      (∀ v : Value, c.evaluate v =
        v.toText?.bind fun text => c.value.single?.map fun _ =>
          like pattern text) ∧
      ((∀ v : Value, c.evaluate v = v.toText?.bind (sqlLike? pattern)) ↔
        ∃ value, c.value = .single value ∧ '\\' ∉ value.toList) := by
  have heval := evaluate_pattern hop
  have hmem := backslash_mem_patternOf hop
  refine ⟨patternOf c, clauseOn_pattern hop r p, heval, ?_⟩
  cases hvalue : c.value with
  | list values =>
      rw [hvalue] at heval hmem
      refine iff_of_false (fun halike => ?_) fun ⟨value, heq, _⟩ =>
        Operand.noConfusion heq
      have hplain : '\\' ∉ (patternOf c).toList :=
        fun h => List.not_mem_nil (hmem.1 h)
      have hsome := (sqlLike?_eq_like_iff _).2 hplain ""
      have hnone := (heval (.str "")).symm.trans (halike (.str ""))
      cases hnone.trans hsome
  | single value =>
      rw [hvalue] at heval hmem
      have hvalues :
          (∃ other, Operand.single value = .single other ∧
            '\\' ∉ other.toList) ↔
          '\\' ∉ (patternOf c).toList := by
        rw [hmem]
        simp [Operand.single?]
      rw [hvalues, ← sqlLike?_eq_like_iff]
      constructor
      · intro halike text
        exact (halike (.str text)).symm.trans (heval (.str text))
      · intro halike v
        rw [heval v]
        exact congrArg v.toText?.bind (funext fun text => (halike text).symm)

/-- Wildcards in a value, and nothing to escape. -/
theorem half_off_matches_alike :
    let c : Clause := ⟨"note", .startsWith, .single "50%_off", true, .and⟩
    (c.operator = .contains ∨ c.operator = .startsWith ∨
      c.operator = .endsWith) ∧
      '\\' ∉ "50%_off".toList ∧
      ∀ v : Value, c.evaluate v = v.toText?.bind (sqlLike? "50%_off%") := by
  intro c
  have hop : c.operator = .contains ∨ c.operator = .startsWith ∨
      c.operator = .endsWith :=
    .inr (.inl rfl)
  have hplain : '\\' ∉ "50%_off".toList := by decide
  obtain ⟨pattern, hbound, -, halike⟩ := pattern_clauses_match_alike_iff hop
    ⟨{ name := "note", type := .text }, []⟩ (.startingAt 0)
  obtain rfl : pattern = "50%_off%" :=
    (List.cons.inj (congrArg (·.2.values) hbound)).1.symm
  exact ⟨hop, hplain, halike.2 ⟨_, rfl, hplain⟩⟩

/-- A path with a backslash is found in memory only, and the path without it in
the database only. -/
theorem backslash_is_taken_apart :
    let c : Clause := ⟨"path", .contains, .single "a\\b", false, .and⟩
    clauseOn ⟨{ name := "path", type := .text }, []⟩ c (.startingAt 0) =
        ("\"path\"::text LIKE $1::text", ⟨["%a\\b%"], 0⟩) ∧
      (c.evaluate (.str "a\\b") = some true ∧
        sqlLike? "%a\\b%" "a\\b" = some false) ∧
      c.evaluate (.str "ab") = some false ∧
      sqlLike? "%a\\b%" "ab" = some true := by
  intro c
  exact ⟨rfl,
    ⟨by decide +kernel, by decide +kernel⟩, by decide +kernel, by
      decide +kernel⟩

end Sql

end TenantTables
