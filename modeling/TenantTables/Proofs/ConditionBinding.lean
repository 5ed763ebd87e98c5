import TenantTables.Proofs.SqlToken

/-!
# What a condition binds, and where

A clause binds no value, one or two, and may have the placeholder of a value in
its text more than once: a comparison inside a document is written twice, as
one of numbers and as one of texts. `clauseTokens` says of one clause by itself
which columns and which of its own values its text has, in order. A filter has
them one clause after the other. Every value of it has a number, the clauses
number their values one after the other from the first on, and clauses on
unknown columns neither have nor take one.
-/

namespace TenantTables.Sql

open Query

/-- The values that a clause binds, in order. -/
def boundBy (c : Clause) : List String :=
  match c.operator with
  | .isNull => []
  | .eq | .gt | .gte | .lt | .lte => [c.value.single?.getD ""]
  | .contains | .startsWith | .endsWith =>
      [(c.operator.likePattern? (c.value.single?.getD "")).getD ""]
  | .between =>
      match c.value.bounds with
      | (some low, some high) => [low, high]
      | _ => []
  | .oneOf => [(Json.Value.arr (c.value.values.map .str)).text]

/-- A placeholder behind others. -/
def Place.behind (k : Nat) (place : Place) : Place :=
  { place with number := k + place.number }

/-- What is read of a comparison of a column with values. Where the
column is inside a document, it is first tested to be a number, and then
compared twice. -/
def comparisonTokens (r : ColumnRef) (literals : List String)
    (values : List Nat) :
    List (Token Place) :=
  let compared (type : String) : List (Token Place) :=
    .name r.column.name :: values.map fun n => .place ⟨n, type⟩
  if comparesNested r literals then
    .name r.column.name :: compared "numeric" ++ compared "text"
  else compared (typedOperand (columnExpression r) r.type literals).2

/-- What is read of a clause. Its values are counted from zero. -/
def clauseTokens (r : ColumnRef) (c : Clause) : List (Token Place) :=
  match c.operator with
  | .isNull => [.name r.column.name]
  | .eq | .gt | .gte | .lt | .lte => comparisonTokens r (boundBy c) [0]
  | .contains | .startsWith | .endsWith =>
      [.name r.column.name, .place ⟨0, "text"⟩]
  | .oneOf => [.name r.column.name, .place ⟨0, "jsonb"⟩]
  | .between =>
      match c.value.bounds with
      | (some _, some _) => comparisonTokens r (boundBy c) [0, 1]
      | _ => []

/-- The values that clauses bind: those of the known columns, in order. -/
def boundByAll (spec : TableSpec) (cs : List Clause) : List String :=
  cs.flatMap fun c => if (spec.columnRef? c.column).isSome then
    boundBy c else []

/-- What is read of clauses that number their values from `k` on. -/
def numberedTokens (spec : TableSpec) : List Clause → Nat → List (Token Nat)
  | [], _ => []
  | c :: cs, k =>
      match spec.columnRef? c.column with
      | none => numberedTokens spec cs k
      | some r =>
          (clauseTokens r c).map (Token.map (k + ·.number)) ++
            numberedTokens spec cs (k + (boundBy c).length)

/-- What is read of clauses, with the clause's own value at
every placeholder. -/
def valueTokens (spec : TableSpec) (cs : List Clause) :
    List (Token (Option String)) :=
  cs.flatMap fun c =>
    match spec.columnRef? c.column with
    | none => []
    | some r => (clauseTokens r c).map (Token.map ((boundBy c)[·.number]?))

/-- The parameters behind those that are bound already. -/
def Params.pushAll (p : Params) (values : List String) : Params :=
  { p with values := p.values ++ values }

namespace Params

variable (p : Params)

theorem pushAll_nil : p.pushAll [] = p := by
  simp [pushAll]

theorem pushAll_append (vs ws : List String) :
    (p.pushAll vs).pushAll ws = p.pushAll (vs ++ ws) := by
  simp [pushAll]

theorem nextIndex_pushAll (vs : List String) :
    (p.pushAll vs).nextIndex = p.nextIndex + vs.length := by
  simp only [pushAll, nextIndex, List.length_append]
  omega

theorem push_eq (value : String) :
    p.push value = ("$" ++ toString p.nextIndex, p.pushAll [value]) := rfl

end Params

/-! ## Columns and the paths below them -/

theorem plain_append {a b : String} (ha : Plain a)
    (hb : Plain b) : Plain (a ++ b) := by
  unfold Plain at ha hb ⊢
  rw [String.toList_append, List.all_append, ha, hb]
  rfl

theorem plain_intercalate {separator : String} (hs : Plain separator)
    {texts : List String} (h : ∀ s ∈ texts, Plain s) :
    Plain (separator.intercalate texts) := by
  induction texts with
  | nil => exact String.intercalate_nil ▸ by decide
  | cons a texts ih =>
      rw [List.forall_mem_cons] at h
      cases texts with
      | nil =>
          rw [String.intercalate_singleton]
          exact h.1
      | cons b texts =>
          rw [String.intercalate_cons_cons]
          exact plain_append (plain_append h.1 hs) (ih h.2)

theorem plain_of_isPathSegment {s : String}
    (h : TableSpec.isPathSegment s = true) : Plain s := by
  rw [TableSpec.isPathSegment, Bool.and_eq_true, List.all_eq_true] at h
  refine List.all_eq_true.2 fun c hc => ?_
  have hchar := h.2 c hc
  rw [Bool.and_eq_true, bne_iff_ne, bne_iff_ne]
  constructor <;> rintro rfl <;> exact absurd hchar (by decide)

theorem plain_pathLiteral {path : List String}
    (h : path.all TableSpec.isPathSegment = true) :
    Plain (pathLiteral path) := by
  have hpath : Plain (",".intercalate path) :=
    plain_intercalate (by decide) fun s hs =>
      plain_of_isPathSegment (List.all_eq_true.1 h s hs)
  refine plain_append (plain_append (by decide) ?_) (by decide)
  refine List.all_eq_true.2 fun c hc => ?_
  rw [Text.substitute, String.toList_ofList, List.mem_flatMap] at hc
  obtain ⟨d, hd, hc⟩ := hc
  split at hc
  · simp only [List.mem_cons, List.not_mem_nil, or_false, or_self] at hc
    rw [hc]
    rfl
  · rw [List.mem_singleton.1 hc]
    exact List.all_eq_true.1 hpath d hd

/-- A path that is found below a column has neither quotes nor dollar signs. -/
theorem path_of_columnRef? {spec : TableSpec} {name : String} {r : ColumnRef}
    (h : spec.columnRef? name = some r) :
    r.path.all TableSpec.isPathSegment = true := by
  unfold TableSpec.columnRef? at h
  split at h
  · rw [← Option.some.inj h]
    rfl
  · split at h
    · split at h
      · split at h
        · next hpath =>
            rw [← Option.some.inj h]
            simp only [Bool.and_eq_true] at hpath
            exact hpath.2
        · simp at h
      · simp at h
    · simp at h

variable {α : Type} {site : List Char → α} {r : ColumnRef}

theorem reads_columnExpression
    (hr : r.path.all TableSpec.isPathSegment = true) :
    Reads site (columnExpression r) [.name r.column.name] := by
  unfold columnExpression
  split
  · exact (closed_plain "(" (by decide)).append_reads (reads_quote _)
      |>.close "#>>" (by decide)
      |>.plain (pathLiteral r.path) (plain_pathLiteral hr)
      |>.plain ")" (by decide)
      |>.reads
  · exact reads_quote _

theorem closed_numberTest (hr : r.path.all TableSpec.isPathSegment = true) :
    Closed site (numberTest r) [.name r.column.name] :=
  (closed_plain "jsonb_typeof(" (by decide)).append_reads (reads_quote _)
    |>.close "#>" (by decide)
    |>.plain (pathLiteral r.path) (plain_pathLiteral hr)
    |>.plain ") = 'number'" (by decide)

/-! ## One clause -/

theorem plain_comparisonSign (op : Operator) (negate : Bool) :
    Plain (comparisonSign op negate) := by
  unfold comparisonSign
  split <;> decide

theorem isTypeName_filterCast {type : ColumnType} {cast : String}
    (h : type.filterCast = some cast) : IsTypeName cast := by
  cases type <;> simp [ColumnType.filterCast] at h <;> subst h <;> decide

theorem reads_typedOperand {e : String} {ts : List (Token α)}
    (he : Reads site e ts) (type : ColumnType) (literals : List String) :
    Reads site (typedOperand e type literals).1 ts ∧
      IsTypeName (typedOperand e type literals).2 := by
  have htext : Reads site (e ++ "::text") ts ∧ IsTypeName "text" :=
    ⟨(he.close "::text" (by decide)).reads, by decide⟩
  unfold typedOperand
  split
  · next cast hcast =>
      split
      · exact ⟨he, isTypeName_filterCast hcast⟩
      · exact htext
  · exact htext

variable {sign not : String}

theorem reads_comparison (hr : r.path.all TableSpec.isPathSegment = true)
    (hsign : Plain sign) (value : String) (p : Params) :
    Reads Place.before (comparison r sign value p).1
      (comparisonTokens r [value] [p.nextIndex]) := by
  have he : Reads Place.before _ _ := reads_columnExpression hr
  unfold comparison comparisonTokens
  rw [Params.push_eq]
  dsimp only
  split
  · exact (closed_plain "CASE WHEN " (by decide)).append (closed_numberTest hr)
      |>.plain " THEN " (by decide) |>.append_reads he
      |>.close "::numeric " (by decide) |>.plain sign hsign
      |>.plain " " (by decide)
      |>.castBefore p.nextIndex "numeric" " ELSE " (by decide)
      |>.append_reads he
      |>.close "::text " (by decide) |>.plain sign hsign
      |>.plain " " (by decide)
      |>.castBefore p.nextIndex "text" " END" (by decide)
      |>.reads
  · obtain ⟨hleft, hcast⟩ := reads_typedOperand he r.type [value]
    rw [@String.append_assoc _ "::"]
    exact hleft.close " " (by decide) |>.plain sign hsign
      |>.plain " " (by decide) |>.cast p.nextIndex _ hcast rfl

theorem reads_range (hr : r.path.all TableSpec.isPathSegment = true)
    (hnot : Plain not) (low high : String) (p : Params) :
    Reads Place.before (range r not low high p).1
      (comparisonTokens r [low, high] [p.nextIndex, p.nextIndex + 1]) := by
  have he : Reads Place.before _ _ := reads_columnExpression hr
  unfold range comparisonTokens
  rw [Params.push_eq]
  dsimp only
  rw [Params.push_eq, Params.nextIndex_pushAll, List.length_singleton]
  split
  · exact (closed_plain "CASE WHEN " (by decide)).append (closed_numberTest hr)
      |>.plain " THEN " (by decide) |>.append_reads he
      |>.close "::numeric " (by decide) |>.plain not hnot
      |>.plain "BETWEEN " (by decide)
      |>.castBefore p.nextIndex "numeric" " AND " (by decide)
      |>.castBefore (p.nextIndex + 1) "numeric" " ELSE " (by decide)
      |>.append_reads he
      |>.close "::text " (by decide) |>.plain not hnot
      |>.plain "BETWEEN " (by decide)
      |>.castBefore p.nextIndex "text" " AND " (by decide)
      |>.castBefore (p.nextIndex + 1) "text" " END" (by decide)
      |>.reads
  · obtain ⟨hleft, hcast⟩ := reads_typedOperand he r.type [low, high]
    simp only [@String.append_assoc _ "::"]
    exact hleft.close " " (by decide) |>.plain not hnot
      |>.plain "BETWEEN " (by decide) |>.cast p.nextIndex _ hcast rfl
      |>.close " AND " (by decide) |>.cast (p.nextIndex + 1) _ hcast rfl

theorem behind_comparisonTokens (r : ColumnRef) (literals : List String)
    (values : List Nat) (k : Nat) :
    (comparisonTokens r literals values).map (Token.map (Place.behind k)) =
      comparisonTokens r literals (values.map (k + ·)) := by
  unfold comparisonTokens
  split <;> simp [Token.map, Place.behind, Function.comp_def]

theorem comparison_snd (r : ColumnRef) (sign value : String) (p : Params) :
    (comparison r sign value p).2 = p.pushAll [value] := by
  unfold comparison
  rw [Params.push_eq]
  dsimp only
  split <;> rfl

theorem range_snd (r : ColumnRef) (not low high : String) (p : Params) :
    (range r not low high p).2 = p.pushAll [low, high] := by
  unfold range
  rw [Params.push_eq]
  dsimp only
  rw [Params.push_eq]
  split <;> exact Params.pushAll_append ..

theorem clauseOn_snd (r : ColumnRef) (c : Clause) (p : Params) :
    (clauseOn r c p).2 = p.pushAll (boundBy c) := by
  obtain ⟨column, operator, value, negate, combinator⟩ := c
  cases operator with
  | isNull => exact (p.pushAll_nil).symm
  | eq | gt | gte | lt | lte => exact comparison_snd ..
  | contains | startsWith | endsWith | oneOf => rfl
  | between =>
      rcases hbounds : value.bounds with ⟨_ | low, _ | high⟩
      case some.some =>
        simp only [clauseOn, boundBy, hbounds]
        exact range_snd ..
      all_goals
        simp only [clauseOn, boundBy, hbounds]
        exact (p.pushAll_nil).symm

/-- What is read of a clause, its casts included. -/
theorem reads_clauseOn (hr : r.path.all TableSpec.isPathSegment = true)
    (c : Clause) (p : Params) :
    Reads Place.before (clauseOn r c p).1
      ((clauseTokens r c).map (Token.map (Place.behind p.nextIndex))) := by
  obtain ⟨column, operator, value, negate, combinator⟩ := c
  have he : Reads Place.before _ _ := reads_columnExpression hr
  have hnot : Plain (if negate then "NOT " else "") := by split <;> decide
  cases operator with
  | isNull =>
      exact he.close " IS " (by decide) |>.plain _ hnot
        |>.plain "NULL" (by decide) |>.reads
  | eq | gt | gte | lt | lte =>
      change Reads _ _ ((comparisonTokens r _ [0]).map _)
      rw [behind_comparisonTokens]
      exact reads_comparison hr (plain_comparisonSign ..) _ p
  | contains | startsWith | endsWith =>
      exact he.close "::text " (by decide) |>.plain _ hnot
        |>.plain "LIKE " (by decide)
        |>.cast p.nextIndex "text" (by decide) (by decide)
  | between =>
      rcases hbounds : value.bounds with ⟨_ | low, _ | high⟩
      case some.some =>
        simp only [clauseOn, clauseTokens, boundBy, hbounds]
        rw [behind_comparisonTokens]
        exact reads_range hr hnot low high p
      all_goals
        simp only [clauseOn, clauseTokens, hbounds]
        exact (closed_plain "FALSE" (by decide)).reads
  | oneOf =>
      have hany :=
        he.close "::text = ANY(SELECT jsonb_array_elements_text(" (by decide)
        |>.castBefore (b := "::jsonb))") p.nextIndex "jsonb" "))"
          (by decide)
      cases negate with
      | false => exact hany.reads
      | true =>
          exact ((closed_plain "NOT (" (by decide)).append hany).plain ")"
              (by decide)
            |>.reads

/-- The numbers in a clause count on behind the values that
are bound already. -/
theorem reads_numbers (hr : r.path.all TableSpec.isPathSegment = true)
    (c : Clause) (p : Params) :
    Reads leadingNumber (clauseOn r c p).1
      ((clauseTokens r c).map (Token.map (p.nextIndex + ·.number))) := by
  have h := (reads_clauseOn hr c p).map Place.number
  rwa [Token.map_map] at h

/-- The placeholders of a clause number the values that it binds. -/
theorem numbers_clauseTokens (r : ColumnRef) (c : Clause) :
    Numbers 0 ((clauseTokens r c).map (Token.map Place.number)) (boundBy c)
      ((clauseTokens r c).map (Token.map ((boundBy c)[·.number]?))) := by
  refine ⟨fun i => ?_, Token.map_map ..⟩
  have hcompared (literals : List String) (values : List Nat) :
      .place i ∈
        (comparisonTokens r literals values).map (Token.map Place.number) ↔
        i ∈ values := by
    unfold comparisonTokens
    split <;> simp [Token.map]
  obtain ⟨column, operator, value, negate, combinator⟩ := c
  cases operator with
  | isNull => simp [clauseTokens, boundBy, Token.map]
  | eq | gt | gte | lt | lte => simp [clauseTokens, boundBy, hcompared]
  | contains | startsWith | endsWith | oneOf =>
      simp [clauseTokens, boundBy, Token.map]
  | between =>
      rcases hbounds : value.bounds with ⟨_ | low, _ | high⟩
      case some.some =>
        simp only [clauseTokens, boundBy, hbounds, hcompared, List.mem_cons,
          List.not_mem_nil, or_false, List.length_cons, List.length_nil]
        omega
      all_goals simp [clauseTokens, boundBy, hbounds]

/-! ## All clauses of a filter -/

variable {spec : TableSpec}

theorem boundByAll_cons (spec : TableSpec) (c : Clause) (cs : List Clause) :
    boundByAll spec (c :: cs) =
      (if (spec.columnRef? c.column).isSome then boundBy c else []) ++
        boundByAll spec cs := by
  rw [boundByAll, List.flatMap_cons]
  rfl

theorem boundByAll_append (spec : TableSpec) (cs ds : List Clause) :
    boundByAll spec (cs ++ ds) = boundByAll spec cs ++ boundByAll spec ds := by
  simp [boundByAll]

theorem numberedTokens_append (cs ds : List Clause) (k : Nat) :
    numberedTokens spec (cs ++ ds) k =
      numberedTokens spec cs k ++
        numberedTokens spec ds (k + (boundByAll spec cs).length) := by
  induction cs generalizing k with
  | nil => rfl
  | cons c cs ih =>
      rw [List.cons_append, numberedTokens, numberedTokens, boundByAll_cons]
      cases spec.columnRef? c.column with
      | none => simpa using ih k
      | some r => simp [ih, Nat.add_assoc]

theorem clauses_snd (cs : List Clause) (p : Params) :
    (clauses spec cs p).2 = p.pushAll (boundByAll spec cs) := by
  induction cs generalizing p with
  | nil => exact (p.pushAll_nil).symm
  | cons c cs ih =>
      rw [boundByAll_cons, clauses, clause]
      cases spec.columnRef? c.column with
      | none => simpa using ih p
      | some r =>
          dsimp only
          rw [ih, clauseOn_snd, Params.pushAll_append]
          rfl

theorem reads_clauses (spec : TableSpec) (cs : List Clause) (p : Params) :
    ∃ tss, List.Forall₂ (Reads leadingNumber) (clauses spec cs p).1 tss ∧
      tss.flatten = numberedTokens spec cs p.nextIndex := by
  induction cs generalizing p with
  | nil => exact ⟨[], .nil, rfl⟩
  | cons c cs ih =>
      rw [clauses, clause, numberedTokens]
      cases hr : spec.columnRef? c.column with
      | none => exact ih p
      | some r =>
          dsimp only
          obtain ⟨tss, hreads, hflatten⟩ := ih (clauseOn r c p).2
          refine ⟨_ :: tss,
            .cons (reads_numbers (path_of_columnRef? hr) c p) hreads, ?_⟩
          rw [List.flatten_cons, hflatten, clauseOn_snd,
            Params.nextIndex_pushAll]

theorem groups_snd (gs : List (List Clause)) (p : Params) :
    (groups spec gs p).2 = p.pushAll (boundByAll spec gs.flatten) := by
  induction gs generalizing p with
  | nil => exact (p.pushAll_nil).symm
  | cons g gs ih =>
      rw [groups]
      dsimp only
      rw [ih, clauses_snd, Params.pushAll_append, List.flatten_cons,
        boundByAll_append]

theorem reads_groups (spec : TableSpec) (gs : List (List Clause)) (p : Params) :
    ∃ tss, List.Forall₂ (Reads leadingNumber) (groups spec gs p).1 tss ∧
      tss.flatten = numberedTokens spec gs.flatten p.nextIndex := by
  induction gs generalizing p with
  | nil => exact ⟨[], .nil, rfl⟩
  | cons g gs ih =>
      rw [groups, List.flatten_cons, numberedTokens_append]
      obtain ⟨gtss, hgroup, hgflatten⟩ := reads_clauses spec g p
      obtain ⟨tss, hreads, hflatten⟩ := ih (clauses spec g p).2
      rw [clauses_snd, Params.nextIndex_pushAll] at hflatten
      dsimp only
      split
      · next hempty =>
          -- A group that keeps no clause is not there.
          rw [List.isEmpty_iff.1 hempty, List.forall₂_nil_left_iff] at hgroup
          refine ⟨tss, hreads, ?_⟩
          rw [hflatten, ← hgflatten, hgroup]
          rfl
      · have hjoined := (closed_plain "(" (by decide)).append_reads
          (reads_intercalate (show Separates " OR " by decide) hgroup)
          |>.close ")" (by decide)
        refine ⟨_ :: tss, .cons hjoined.reads hreads, ?_⟩
        rw [List.flatten_cons, hflatten, ← hgflatten]
        rfl

theorem condition_snd (f : Filter) (p : Params) :
    (condition spec f p).2 = p.pushAll (boundByAll spec f.clauses) :=
  groups_snd f.groups p

/-- Behind a table's name a condition reads as its clauses,
also if it is none. -/
theorem reads_where (f : Filter) (p : Params) :
    let text := ((condition spec f p).1.map (" WHERE " ++ ·)).getD ""
    Reads leadingNumber text (numberedTokens spec f.clauses p.nextIndex) ∧
      Ends text.toList := by
  obtain ⟨tss, hreads, hflatten⟩ := reads_groups spec f.groups p
  rw [Filter.clauses, ← hflatten]
  unfold condition
  dsimp only
  split
  · next hempty =>
      rw [List.isEmpty_iff.1 hempty, List.forall₂_nil_left_iff] at hreads
      rw [hreads]
      exact ⟨(closed_plain "" (by decide)).reads, rfl⟩
  · have hjoined := reads_intercalate (show Separates " AND " by decide) hreads
    refine ⟨(closed_plain " WHERE " (by decide)).append_reads hjoined, ?_⟩
    rw [Option.map_some, Option.getD_some, String.toList_append]
    exact (show Ends " WHERE ".toList by decide).append_of_ne_nil (by decide) _

/-- The clauses use the numbers of the values that they bind and no others, and
at every placeholder stands the value that its clause has for it. -/
theorem numbers_numberedTokens (spec : TableSpec) (cs : List Clause) (k : Nat) :
    Numbers k (numberedTokens spec cs k) (boundByAll spec cs)
      (valueTokens spec cs) := by
  induction cs generalizing k with
  | nil => exact .nil
  | cons c cs ih =>
      rw [boundByAll_cons, numberedTokens, valueTokens, List.flatMap_cons]
      cases spec.columnRef? c.column with
      | none => exact ih k
      | some r =>
          have hclause := (numbers_clauseTokens r c).shift k
          rw [Token.map_map] at hclause
          exact hclause.append (ih _)

end TenantTables.Sql
