import TenantTables.Proofs.ConditionBinding

/-!
# Statements and what they are sent with

A statement has a placeholder for each of its parameters, and no others. What
stands at each of them is best seen by putting the parameters in the places of
their placeholders: a statement then reads as the identifiers in it and the
values sent with it, in the order of its text.

A statement is put together from a table, the columns it selects, a condition,
an order, and parameters of its own. Only the condition numbers an unknown count
of values. What comes behind it goes on from there, and that is what `Numbers`
is for: each part is numbered by itself, and behind the part in front of it.
-/

namespace TenantTables.Sql

open Json (Value)
open Query (Filter SortTerm Descriptor)

namespace Statement

/-- The parameter of a placeholder. -/
def param? (st : Statement) : Nat → Option Parameter
  | 0 => none
  | k + 1 => st.params[k]?

/-- A statement has placeholders for its parameters, and for nothing else. -/
def Numbered (st : Statement) : Prop :=
  ∀ k, .place k ∈ tokens st.sql ↔ 1 ≤ k ∧ k ≤ st.params.length

/-- What a statement is sent with, and how it reads with that in place of the
placeholders. -/
structure Sends (st : Statement) (params : List Parameter)
    (read : List (Token (Option Parameter))) : Prop where
  numbered : st.Numbered
  params : st.params = params
  read : (tokens st.sql).map (Token.map st.param?) = read

theorem sends_of_reads {st : Statement} {ts : List (Token Nat)}
    {params : List Parameter} {read : List (Token (Option Parameter))}
    (hsql : Reads leadingNumber st.sql ts) (hparams : st.params = params)
    (h : Numbers 1 ts params read) : st.Sends params read where
  numbered k := by
    rw [hsql.tokens_eq, h.places, hparams]
    omega
  params := hparams
  read := by
    rw [hsql.tokens_eq, ← h.read]
    refine Token.map_congr fun k hk => ?_
    obtain ⟨k, rfl⟩ := Nat.exists_eq_add_of_le ((h.places k).1 hk).1
    rw [Nat.add_sub_cancel_left, Nat.add_comm, param?, hparams]

/-! ## Parts of a statement -/

/-- A value of a filter as it is sent. -/
def textParameter (s : String) : Parameter := .text (some s)

/-- The parameters of a filter. -/
def filterParams (spec : TableSpec) (f : Filter) : List Parameter :=
  (boundByAll spec f.clauses).map textParameter

/-- A filter with its values in place. -/
def filterRead (spec : TableSpec) (f : Filter) :
    List (Token (Option Parameter)) :=
  (valueTokens spec f.clauses).map (Token.map (Option.map textParameter))

/-- The columns that a statement names to select them. -/
def selectedNames (spec : TableSpec) (columns : List String) : List String :=
  if columns.contains "*" then [] else columns.filter spec.hasColumn

/-- The columns of an order. -/
def orderNames (spec : TableSpec) (sorts : List SortTerm) : List String :=
  let known :=
    sorts.filterMap fun s => (spec.columnRef? s.column).map (·.column.name)
  if known.isEmpty then [idColumn] else known

variable {spec : TableSpec} {t : TableName}

theorem whereClause_snd (spec : TableSpec) (f : Filter) :
    (whereClause spec f).2 = filterParams spec f := by
  change ((condition spec f (Params.startingAt 0)).2.values.map textParameter) =
    _
  rw [condition_snd]
  rfl

theorem reads_whereClause (spec : TableSpec) (f : Filter) :
    Reads leadingNumber (whereClause spec f).1
      (numberedTokens spec f.clauses 1) ∧
      Ends (whereClause spec f).1.toList :=
  reads_where f (Params.startingAt 0)

theorem numbers_filter (spec : TableSpec) (f : Filter) :
    Numbers 1 (numberedTokens spec f.clauses 1) (filterParams spec f)
      (filterRead spec f) :=
  (numbers_numberedTokens spec f.clauses 1).map textParameter

theorem plain_direction (d : Query.Direction) : Plain d.sql := by
  cases d <;> decide

theorem reads_sorts (spec : TableSpec) (sorts : List SortTerm) :
    List.Forall₂ (Reads leadingNumber)
      (sorts.filterMap fun s =>
        (spec.columnRef? s.column).map fun r =>
          columnExpression r ++ " " ++ s.direction.sql)
      ((sorts.filterMap fun s =>
        (spec.columnRef? s.column).map (·.column.name)).map
        fun s => [.name s]) := by
  induction sorts with
  | nil => exact .nil
  | cons s sorts ih =>
      rw [List.filterMap_cons, List.filterMap_cons]
      cases hr : spec.columnRef? s.column with
      | none => exact ih
      | some r =>
          refine .cons ?_ ih
          exact (reads_columnExpression (path_of_columnRef? hr)).close " "
              (by decide)
            |>.plain _ (plain_direction s.direction) |>.reads

theorem reads_orderClause (spec : TableSpec) (sorts : List SortTerm) :
    Reads leadingNumber (orderClause spec sorts)
      ((orderNames spec sorts).map .name) := by
  have hsorts := reads_sorts spec sorts
  unfold orderClause orderBy orderNames
  dsimp only
  split
  · next hempty =>
      rw [List.isEmpty_iff.1 hempty, List.forall₂_nil_left_iff,
        List.map_eq_nil_iff] at hsorts
      rw [hsorts]
      exact (reads_quote idColumn).close " ASC" (by decide) |>.reads
  · next hsome =>
      have hknown : (sorts.filterMap fun s =>
          (spec.columnRef? s.column).map (·.column.name)).isEmpty ≠ true := by
        intro hempty
        rw [List.isEmpty_iff.1 hempty, List.map_nil, List.forall₂_nil_right_iff]
          at hsorts
        exact hsome (by rw [hsorts]; rfl)
      rw [if_neg hknown, List.map_eq_flatMap (f := Token.name)]
      exact reads_intercalate (by decide) hsorts

theorem reads_selectList (spec : TableSpec) (columns : List String) :
    Reads leadingNumber (selectList spec columns)
      ((selectedNames spec columns).map .name) := by
  unfold selectList selectedNames
  split
  · exact (closed_plain "*" (by decide)).reads
  · dsimp only
    split
    · next hempty =>
        rw [List.isEmpty_iff.1 hempty]
        exact (closed_plain "*" (by decide)).reads
    · exact reads_intercalate_quote (by decide) _

/-! ## Reading and deleting selected rows -/

theorem filtered_sends {verb : String} (hverb : Plain verb) (spec : TableSpec)
    (t : TableName) (f : Filter) :
    Statement.Sends
      ⟨verb ++ quote t.physical ++ (whereClause spec f).1,
        (whereClause spec f).2⟩
      (filterParams spec f) (.name t.physical :: filterRead spec f) := by
  obtain ⟨hwhere, hends⟩ := reads_whereClause spec f
  have hsql :=
    ((closed_plain verb hverb).append_reads (reads_quote t.physical)).append
      hwhere hends
  exact sends_of_reads hsql (whereClause_snd spec f)
    ((numbers_filter spec f).name t.physical)

theorem count_sends (spec : TableSpec) (t : TableName) (f : Filter) :
    (count spec t f).Sends (filterParams spec f)
      (.name t.physical :: filterRead spec f) :=
  filtered_sends (show Plain "SELECT COUNT(*) FROM " by decide) spec t f

theorem deleteWhere_sends (spec : TableSpec) (t : TableName) (f : Filter) :
    (deleteWhere spec t f).Sends (filterParams spec f)
      (.name t.physical :: filterRead spec f) :=
  filtered_sends (show Plain "DELETE FROM " by decide) spec t f

theorem selectAll_sends (spec : TableSpec) (t : TableName) (f : Filter)
    (sorts : List SortTerm) :
    (selectAll spec t f sorts).Sends (filterParams spec f)
      (.name t.physical :: filterRead spec f ++
        (orderNames spec sorts).map .name) := by
  obtain ⟨hwhere, hends⟩ := reads_whereClause spec f
  have hsql := ((closed_plain "SELECT * FROM " (by decide)).append_reads
      (reads_quote t.physical)).append hwhere hends
    |>.close " ORDER BY " (by decide)
    |>.append_reads (reads_orderClause spec sorts)
  exact sends_of_reads hsql (whereClause_snd spec f)
    (((numbers_filter spec f).name t.physical).append_names
      (orderNames spec sorts))

/-- The size and the offset of a page as they are sent. -/
def pageParams (d : Descriptor) : List Parameter :=
  [.integer (some d.pageSize), .integer (some (min d.offset maxInteger : Nat))]

theorem page_sends (spec : TableSpec) (t : TableName) (d : Descriptor) :
    (page spec t d).Sends (filterParams spec d.filter ++ pageParams d)
      ((selectedNames spec d.selected).map .name ++
        .name t.physical :: filterRead spec d.filter ++
        (orderNames spec d.sorts).map .name ++
        (pageParams d).map (.place ∘ some)) := by
  obtain ⟨hwhere, hends⟩ := reads_whereClause spec d.filter
  have hparams := whereClause_snd spec d.filter
  have hsql :=
    (closed_plain "SELECT " (by decide)).append_reads
      (reads_selectList spec d.selected)
    |>.close " FROM " (by decide) |>.append_reads (reads_quote t.physical)
    |>.append hwhere hends
    |>.close " ORDER BY " (by decide)
    |>.append_reads (reads_orderClause spec d.sorts)
    |>.close " LIMIT " (by decide)
    |>.append_reads
      (reads_placeholder ((whereClause spec d.filter).2.length + 1))
    |>.close " OFFSET " (by decide)
    |>.append_reads
      (reads_placeholder ((whereClause spec d.filter).2.length + 2))
  have hnumbers :=
    (Numbers.names 1 (selectedNames spec d.selected)).append_names [t.physical]
    |>.append (numbers_filter spec d.filter)
    |>.append_names (orderNames spec d.sorts)
    |>.append_place (.integer (some d.pageSize))
      (n := (whereClause spec d.filter).2.length + 1)
      (by rw [hparams, List.nil_append, Nat.add_comm])
    |>.append_place (.integer (some (min d.offset maxInteger : Nat)))
      (n := (whereClause spec d.filter).2.length + 2)
      (by rw [hparams, List.nil_append, List.length_append,
        List.length_singleton]; omega)
  have hsends : (page spec t d).Sends _ _ := sends_of_reads hsql
    (show (whereClause spec d.filter).2 ++ pageParams d = _ by
      rw [hparams, List.nil_append, List.append_assoc]; rfl) hnumbers
  simpa [pageParams] using hsends

/-! ## Rows under their keys -/

theorem find_sends {field value : String} {st : Statement}
    (h : find? spec t field value = some st) :
    ∃ r, spec.columnRef? field = some r ∧
      st.Sends [textParameter value]
        [.name t.physical, .name r.column.name,
          .place (some (textParameter value)), .name idColumn] := by
  obtain ⟨r, hr, rfl⟩ := Option.map_eq_some_iff.1 h
  refine ⟨r, hr, ?_⟩
  have hplace : Closed leadingNumber "::text = $1 ORDER BY " [.place 1] :=
    (closed_plain "::text = " (by decide)).append_reads (reads_placeholder 1)
      |>.close " ORDER BY " (by decide)
  have hsql :=
    (closed_plain "SELECT * FROM " (by decide)).append_reads
      (reads_quote t.physical)
    |>.close " WHERE " (by decide)
    |>.append_reads (reads_columnExpression (path_of_columnRef? hr))
    |>.append_closed hplace (by decide) (by decide)
    |>.append_reads (reads_quote idColumn)
    |>.close " ASC LIMIT 1" (by decide) |>.reads
  have hnumbers := (Numbers.names 1 [t.physical, r.column.name]).append_place
      (textParameter value) (n := 1) rfl |>.append_names [idColumn]
  exact sends_of_reads hsql rfl hnumbers

theorem deleteRow_sends (t : TableName) (id : Int) :
    (deleteRow t id).Sends [.integer (some id)]
      [.name t.physical, .name idColumn,
        .place (some (.integer (some id)))] := by
  have hplace : Reads leadingNumber " = $1" [.place 1] :=
    (closed_plain " = " (by decide)).append_reads (reads_placeholder 1)
  have hsql :=
    (closed_plain "DELETE FROM " (by decide)).append_reads
      (reads_quote t.physical)
    |>.close " WHERE " (by decide) |>.append_reads (reads_quote idColumn)
    |>.append hplace (by decide)
  have hnumbers := (Numbers.names 1 [t.physical, idColumn]).append_place
    (Parameter.integer (some id)) (n := 1) rfl
  exact sends_of_reads hsql rfl hnumbers

/-! ## Writing rows -/

/-- An attribute is written to a column as a parameter. -/
def Writes (spec : TableSpec) (a : String × Value)
    (e : Column × Parameter) : Prop :=
  spec.column? a.1 = some e.1 ∧
    ∃ v, e.1.coerce a.2 = .ok v ∧ Parameter.ofValue e.1 v = .ok e.2

theorem of_coerceAll_cons {key : String} {v : Value}
    {attributes : List (String × Value)} {values : List (Column × Value)}
    (hkey : ¬ (key == idColumn) = true)
    (h : coerceAll spec t ((key, v) :: attributes) = .ok values) :
    ∃ column w rest, spec.column? key = some column ∧ column.coerce v = .ok w ∧
      coerceAll spec t attributes = .ok rest ∧
      values = (column, w) :: rest := by
  rw [coerceAll, if_neg hkey] at h
  split at h
  · simp at h
  · next column hcolumn =>
      split at h
      · simp at h
      · next w hw =>
          cases hrest : coerceAll spec t attributes with
          | error e =>
              rw [hrest] at h
              simp [Except.map] at h
          | ok rest =>
              rw [hrest] at h
              exact ⟨column, w, rest, hcolumn, hw, rfl, (Except.ok.inj h).symm⟩

theorem of_bind_eq_ok {α β : Type} {x : Except Error α}
    {k : α → Except Error β} {b : β} (h : (x >>= k) = .ok b) :
    ∃ a, x = .ok a ∧ k a = .ok b := by
  cases x with
  | error e => cases h
  | ok a => exact ⟨a, rfl, h⟩

theorem of_bindAll_cons {column : Column} {v : Value}
    {values : List (Column × Value)} {params : List Parameter}
    (h : bindAll ((column, v) :: values) = .ok params) :
    ∃ p rest, Parameter.ofValue column v = .ok p ∧ bindAll values = .ok rest ∧
      params = p :: rest := by
  rw [bindAll, List.mapM_cons] at h
  obtain ⟨p, hp, h⟩ := of_bind_eq_ok h
  obtain ⟨rest, hrest, h⟩ := of_bind_eq_ok h
  exact ⟨p, rest, hp, hrest, (Except.ok.inj h).symm⟩

/-- The columns that are written are those of the attributes in their order,
without the surrogate key. -/
theorem written_of_bindAll {attributes : List (String × Value)}
    {values : List (Column × Value)} {params : List Parameter}
    (hvalues : coerceAll spec t attributes = .ok values)
    (hparams : bindAll values = .ok params) :
    ∃ written,
      List.Forall₂ (Writes spec) (attributes.filter (·.1 != idColumn)) written ∧
      (values.map fun (column, _) => column.name) = written.map (·.1.name) ∧
        params = written.map (·.2) := by
  induction attributes generalizing values params with
  | nil =>
      obtain rfl := Except.ok.inj hvalues
      obtain rfl := Except.ok.inj hparams
      exact ⟨[], .nil, rfl, rfl⟩
  | cons a attributes ih =>
      obtain ⟨key, v⟩ := a
      by_cases hkey : (key == idColumn) = true
      · rw [coerceAll, if_pos hkey] at hvalues
        rw [List.filter_cons_of_neg (by simpa using hkey)]
        exact ih hvalues hparams
      · rw [List.filter_cons_of_pos (by simpa using hkey)]
        obtain ⟨column, w, restValues, hcolumn, hw, hvalues', rfl⟩ :=
          of_coerceAll_cons hkey hvalues
        obtain ⟨p, restParams, hp, hparams', rfl⟩ := of_bindAll_cons hparams
        obtain ⟨written, hwrites, hcolumns, rfl⟩ := ih hvalues' hparams'
        exact ⟨(column, p) :: written, .cons ⟨hcolumn, w, hw, hp⟩ hwrites,
          congrArg (column.name :: ·) hcolumns, rfl⟩

theorem placeholders_eq (n : Nat) :
    placeholders n = (List.range' 1 n).map placeholder := by
  rw [placeholders, List.range'_eq_map_range, List.map_map]
  exact List.map_congr_left fun i _ => congrArg placeholder (Nat.add_comm i 1)

theorem reads_insertSql (t : TableName) (columns : List String) :
    Reads leadingNumber (insertSql t columns)
      (.name t.physical :: columns.map .name ++
        (List.range' 1 columns.length).map .place) := by
  unfold insertSql
  split
  · next hempty =>
      rw [List.isEmpty_iff.1 hempty]
      exact (closed_plain "INSERT INTO " (by decide)).append_reads
          (reads_quote t.physical)
        |>.close " DEFAULT VALUES RETURNING *" (by decide) |>.reads
  · have hplaces :=
      reads_intercalate_map (show Separates ", " by decide) placeholder
        (fun k => [.place k]) (List.range' 1 columns.length) fun k _ =>
          reads_placeholder k
    rw [← List.map_eq_flatMap, ← placeholders_eq] at hplaces
    exact (closed_plain "INSERT INTO " (by decide)).append_reads
        (reads_quote t.physical)
      |>.close " (" (by decide)
      |>.append_reads (reads_intercalate_quote (by decide) columns)
      |>.close ") VALUES (" (by decide) |>.append_reads hplaces
      |>.close ") RETURNING *" (by decide) |>.reads

theorem insert_sends {attributes : List (String × Value)} {st : Statement}
    (h : insert spec t attributes = .ok st) :
    ∃ written,
      List.Forall₂ (Writes spec) (attributes.filter (·.1 != idColumn)) written ∧
      st.Sends (written.map (·.2))
        (.name t.physical :: (written.map fun e => .name e.1.name) ++
          written.map fun e => .place (some e.2)) := by
  unfold insert at h
  obtain ⟨values, hvalues, h⟩ := of_bind_eq_ok h
  obtain ⟨params, hparams, h⟩ := of_bind_eq_ok h
  obtain rfl := Except.ok.inj h
  obtain ⟨written, hwrites, hcolumns, rfl⟩ := written_of_bindAll hvalues hparams
  refine ⟨written, hwrites, ?_⟩
  have hsql := reads_insertSql t (written.map (·.1.name))
  have hnumbers :=
    (Numbers.names 1 (t.physical :: written.map (·.1.name))).append
      (.run 1 (written.map (·.2)))
  rw [List.length_map] at hsql hnumbers
  have hsends :
      Statement.Sends ⟨insertSql t (written.map (·.1.name)),
        written.map (·.2)⟩ _ _ :=
    sends_of_reads hsql rfl hnumbers
  rw [hcolumns]
  simpa [Function.comp_def] using hsends

/-- What is read of assignments to columns whose parameters are
numbered from `k` on. -/
def assignedTokens : List String → Nat → List (List (Token Nat))
  | [], _ => []
  | column :: columns, k =>
      [.name column, .place k] :: assignedTokens columns (k + 1)

theorem reads_assigned (columns : List String) (k : Nat) :
    List.Forall₂ (Reads leadingNumber)
      (List.zipWith (fun column place => quote column ++ " = " ++ place) columns
        ((List.range' k columns.length).map placeholder))
      (assignedTokens columns k) := by
  induction columns generalizing k with
  | nil => exact .nil
  | cons column columns ih =>
      refine .cons ?_ (ih (k + 1))
      exact (reads_quote column).close " = " (by decide)
        |>.append_reads (reads_placeholder k)

theorem numbers_assigned (written : List (Column × Parameter)) (k : Nat) :
    Numbers k (assignedTokens (written.map (·.1.name)) k).flatten
      (written.map (·.2))
      (written.flatMap fun e => [.name e.1.name, .place (some e.2)]) := by
  induction written generalizing k with
  | nil => exact .nil
  | cons e written ih =>
      exact ((Numbers.place k e.2).name e.1.name).append (ih (k + 1))

/-- The column for the time of writing, if changes do not give it. -/
def stampNames (spec : TableSpec) (changes : List Change) : List String :=
  if spec.hasColumn updatedColumn && !changes.any (·.key == updatedColumn) then
    [updatedColumn]
  else []

theorem reads_stamp (spec : TableSpec) (changes : List Change) :
    List.Forall₂ (Reads leadingNumber)
      (if spec.hasColumn updatedColumn &&
        !changes.any (·.key == updatedColumn) then
        [quote updatedColumn ++ " = NOW()"]
      else [])
      ((stampNames spec changes).map fun s => [.name s]) := by
  unfold stampNames
  split
  · exact .cons
      ((reads_quote updatedColumn).close " = NOW()" (by decide)).reads .nil
  · exact .nil

/-- The time of writing stands behind the numbered assignments and
takes no number. -/
theorem reads_set (spec : TableSpec) (columns : List String)
    (changes : List Change) :
    Reads leadingNumber
      (", ".intercalate (assignments columns ++
        if spec.hasColumn updatedColumn &&
            !changes.any (·.key == updatedColumn) then
          [quote updatedColumn ++ " = NOW()"]
        else []))
      ((assignedTokens columns 1).flatten ++
        (stampNames spec changes).map .name) := by
  have hassigned := reads_assigned columns 1
  rw [← placeholders_eq] at hassigned
  rw [List.map_eq_flatMap (f := Token.name), List.flatMap_def,
    ← List.flatten_append]
  exact reads_intercalate (by decide)
    (List.rel_append hassigned (reads_stamp spec changes))

theorem update_sends {id : Int} {changes : List Change} {st : Statement}
    (h : update spec t id changes = .ok st) :
    ∃ written,
      List.Forall₂ (Writes spec)
        ((changes.map fun c => (c.key, c.new)).filter (·.1 != idColumn))
        written ∧
      st.Sends (written.map (·.2) ++ [.integer (some id)])
        (.name t.physical ::
          (written.flatMap fun e => [.name e.1.name, .place (some e.2)]) ++
          (stampNames spec changes).map .name ++
          [.name idColumn, .place (some (.integer (some id)))]) := by
  unfold update at h
  obtain ⟨values, hvalues, h⟩ := of_bind_eq_ok h
  obtain ⟨params, hparams, h⟩ := of_bind_eq_ok h
  obtain rfl := Except.ok.inj h
  obtain ⟨written, hwrites, hcolumns, rfl⟩ := written_of_bindAll hvalues hparams
  refine ⟨written, hwrites, ?_⟩
  have hsql :=
    (closed_plain "UPDATE " (by decide)).append_reads (reads_quote t.physical)
    |>.close " SET " (by decide)
    |>.append_reads (reads_set spec (written.map (·.1.name)) changes)
    |>.close " WHERE " (by decide) |>.append_reads (reads_quote idColumn)
    |>.close " = " (by decide)
    |>.append_reads (reads_placeholder ((written.map (·.2)).length + 1))
    |>.close " RETURNING *" (by decide) |>.reads
  have hnumbers :=
    (Numbers.names 1 [t.physical]).append (numbers_assigned written 1)
    |>.append_names (stampNames spec changes) |>.append_names [idColumn]
    |>.append_place (.integer (some id)) (n := (written.map (·.2)).length + 1)
      (by rw [List.nil_append, Nat.add_comm])
  rw [hcolumns]
  have hsends :
      Statement.Sends ⟨_, written.map (·.2) ++ [.integer (some id)]⟩ _ _ :=
    sends_of_reads hsql rfl (by simpa using hnumbers)
  simpa [placeholder] using hsends

end Statement

end TenantTables.Sql
