import TenantTables.Proofs.ImportEntry
import TenantTables.Proofs.StoreInvariant

/-!
# The table behind an import

An import that succeeds leaves the table that its rows make of it one after
another. What a row does depends on the table as the rows before it left it: the
record found there under its identifier is shown to the hook, and is updated
unless the hook vetoes the row; where there is none, the row becomes a record.

The relation `Applies` says this of one row, on plain tables and in terms of the
rows in them. The work is in following the unit of work, whose state is a copy
that may not have been made yet, through searches, vetoes and writes; all of it
goes through what the unit of work sees.
-/

namespace TenantTables.Import

open Memory (Store Table Tables Work findIn writeRow)
open Json (Value)

/-! ## Rows on tables -/

/-- The text that a stored row has in the identifier field. -/
def storedId (field : String) (attributes : Json.Object) : Option String :=
  (Query.lookup attributes field).bind Value.toText?

namespace Plan

/-- The record of a table that a row names: the first with its identifier. -/
def named (p : Plan Work) (row : Row) (t : Table) : Option Record :=
  (row.id? p.spec.idField).bind (findIn t p.spec.idField)

/-- Whether a row carries an identifier that some row of the table has. -/
def Known (p : Plan Work) (row : Row) (t : Table) : Prop :=
  ∃ id, row.id? p.spec.idField = some id ∧
    ∃ e ∈ t.rows, storedId p.spec.idField e.2 = some id

theorem isSome_findIn_iff {t : Table} {field id : String} :
    (findIn t field id).isSome = true ↔ ∃ e ∈ t.rows,
      storedId field e.2 = some id := by
  unfold findIn storedId
  rw [Option.isSome_map, List.find?_isSome]
  simp only [beq_iff_eq]

theorem isSome_named_iff {p : Plan Work} {row : Row} {t : Table} :
    (p.named row t).isSome = true ↔ p.Known row t := by
  unfold named Known
  cases row.id? p.spec.idField with
  | none => simp
  | some id =>
      rw [Option.bind_some, isSome_findIn_iff]
      simp

/-- A record that was found in a table has a surrogate key. -/
theorem id_of_named {p : Plan Work} {row : Row} {t : Table} {r : Record}
    (h : p.named row t = some r) : ∃ key, r.id = some key := by
  unfold named at h
  obtain ⟨id, -, h⟩ := Option.bind_eq_some_iff.1 h
  unfold findIn at h
  obtain ⟨e, -, rfl⟩ := Option.map_eq_some_iff.1 h
  exact ⟨e.1, rfl⟩

theorem revised_id {τ : Type} (p : Plan τ) (row : Row) (r : Record) :
    (p.revised row r).id = r.id :=
  Record.id_fill r.withoutAudit _

end Plan

/-- What a row makes of a table, the supply at hand, and the entry it leaves. -/
inductive Applies (s : Store) (p : Plan Work) (row : Row) (t : Table)
    (u : Supply) :
    Entry → Table → Supply → Prop where
  /-- The hook vetoes the row, given the record that the row names. -/
  | skipped (hveto : p.veto row (p.named row t) = true) :
      Applies s p row t u (.skipped (row.id? p.spec.idField)) t u
  /-- Some row of the table has the identifier: its record is written again. -/
  | updated {r : Record} {id key : Int} {stored : Json.Object} {t' : Table}
      (hveto : p.veto row (p.named row t) = false) (hknown : p.Known row t)
      (hr : p.named row t = some r) (hid : r.id = some id)
      (hw : writeRow s.spec s.checks p.table.physical t (some id)
        (p.revised row r).attributes u.now.1 = .ok (key, stored, t')) :
      Applies s p row t u
        (.updated (p.reported row ((p.revised row r).markSaved key stored)))
        t' u.now.2
  /-- No row of the table has the identifier: a new record is written. -/
  | inserted {key : Int} {stored : Json.Object} {t' : Table}
      (hveto : p.veto row (p.named row t) = false) (hnew : ¬ p.Known row t)
      (hw : writeRow s.spec s.checks p.table.physical t none
        (p.created row u).attributes
        (p.supplyBehind row u).now.1 = .ok (key, stored, t')) :
      Applies s p row t u
        (.inserted (p.reported row ((p.created row u).markSaved key stored))) t'
        (p.supplyBehind row u).now.2

/-- The class of a row is decided by the hook and by the table that it meets. -/
theorem Applies.class_iff {s : Store} {p : Plan Work} {row : Row} {t t' : Table}
    {u u' : Supply} {entry : Entry} (h : Applies s p row t u entry t' u') :
    (entry.skipped?.isSome = true ↔ p.veto row (p.named row t) = true) ∧
    (entry.updated?.isSome = true ↔
      p.veto row (p.named row t) = false ∧ p.Known row t) ∧
    (entry.inserted?.isSome = true ↔
      p.veto row (p.named row t) = false ∧ ¬ p.Known row t) := by
  cases h with
  | skipped hveto =>
      simp [hveto, Entry.skipped?, Entry.updated?, Entry.inserted?]
  | updated hveto hknown _ _ _ =>
      simp [hveto, hknown, Entry.skipped?, Entry.updated?, Entry.inserted?]
  | inserted hveto hnew _ =>
      simp [hveto, hnew, Entry.skipped?, Entry.updated?, Entry.inserted?]

/-- A row leaves a table in one way only. -/
theorem Applies.unique {s : Store} {p : Plan Work} {row : Row} {t t₁ t₂ : Table}
    {u u₁ u₂ : Supply} {e₁ e₂ : Entry} (h₁ : Applies s p row t u e₁ t₁ u₁)
    (h₂ : Applies s p row t u e₂ t₂ u₂) : e₁ = e₂ ∧ t₁ = t₂ ∧ u₁ = u₂ := by
  cases h₁ with
  | skipped hveto =>
      cases h₂ with
      | skipped _ => exact ⟨rfl, rfl, rfl⟩
      | updated hveto' _ _ _ _ => simp [hveto] at hveto'
      | inserted hveto' _ _ => simp [hveto] at hveto'
  | updated hveto hknown hr hid hw =>
      cases h₂ with
      | skipped hveto' => simp [hveto] at hveto'
      | inserted _ hnew _ => exact absurd hknown hnew
      | updated _ _ hr' hid' hw' =>
          rw [hr, Option.some.injEq] at hr'
          subst hr'
          rw [hid, Option.some.injEq] at hid'
          subst hid'
          rw [hw, Except.ok.injEq, Prod.mk.injEq, Prod.mk.injEq] at hw'
          obtain ⟨rfl, rfl, rfl⟩ := hw'
          exact ⟨rfl, rfl, rfl⟩
  | inserted hveto hnew hw =>
      cases h₂ with
      | skipped hveto' => simp [hveto] at hveto'
      | updated _ hknown _ _ _ => exact absurd hknown hnew
      | inserted _ _ hw' =>
          rw [hw, Except.ok.injEq, Prod.mk.injEq, Prod.mk.injEq] at hw'
          obtain ⟨rfl, rfl, rfl⟩ := hw'
          exact ⟨rfl, rfl, rfl⟩

/-- What rows make of a table, each of what the rows before it left. -/
inductive AppliesAll (s : Store) (p : Plan Work) :
    List Row → Table → Supply → List Entry → Table → Supply → Prop where
  | nil {t : Table} {u : Supply} : AppliesAll s p [] t u [] t u
  | cons {row : Row} {rows : List Row} {t t' t'' : Table} {u u' u'' : Supply}
      {entry : Entry} {entries : List Entry}
      (h : Applies s p row t u entry t' u')
      (hs : AppliesAll s p rows t' u' entries t'' u'') :
      AppliesAll s p (row :: rows) t u (entry :: entries) t'' u''

theorem AppliesAll.length_eq {s : Store} {p : Plan Work} {rows : List Row}
    {t t' : Table} {u u' : Supply} {entries : List Entry}
    (h : AppliesAll s p rows t u entries t' u') :
    entries.length = rows.length := by
  induction h with
  | nil => rfl
  | cons _ _ ih => simp [ih]

/-- Rows leave a table in one way only. -/
theorem AppliesAll.unique {s : Store} {p : Plan Work} {rows : List Row}
    {t t₁ t₂ : Table} {u u₁ u₂ : Supply} {es₁ es₂ : List Entry}
    (h₁ : AppliesAll s p rows t u es₁ t₁ u₁)
    (h₂ : AppliesAll s p rows t u es₂ t₂ u₂) :
    es₁ = es₂ ∧ t₁ = t₂ ∧ u₁ = u₂ := by
  induction h₁ generalizing es₂ t₂ u₂ with
  | nil =>
      cases h₂
      exact ⟨rfl, rfl, rfl⟩
  | cons h _ ih =>
      cases h₂ with
      | cons h' hs' =>
          obtain ⟨rfl, rfl, rfl⟩ := h.unique h'
          obtain ⟨rfl, rfl, rfl⟩ := ih hs'
          exact ⟨rfl, rfl, rfl⟩

/-! ## Rows in a unit of work -/

section Runs

variable {s : Store} {p : Plan Work} {row : Row} {w w' : World Work} {t : Table}

/-- A search answers the record that the row names in the
table as it is seen. -/
theorem existing_runIn (hp : p.transaction = s.transaction)
    (hv : w.state.view p.table.physical = some t) (row : Row) :
    ∃ work, (p.existing (row.id? p.spec.idField)).runIn w =
        (.ok (p.named row t), ⟨work, w.supply⟩) ∧
      w.state.Moves work p.table.physical t := by
  unfold Plan.existing Plan.named
  cases row.id? p.spec.idField with
  | none => exact ⟨w.state, rfl, Work.moves_self hv⟩
  | some id =>
      refine ⟨w.state.hold p.table.physical t, ?_, Work.moves_hold _ _ _⟩
      simp only [hp]
      exact Store.find_runIn hv _ _

/-- A row that updates writes its record, as it revised it, over
the one it names. -/
theorem update_applies (hp : p.transaction = s.transaction)
    (hv : w.state.view p.table.physical = some t)
    (hveto : p.veto row (p.named row t) = false) {r : Record}
    (hr : p.named row t = some r) {entry : Entry}
    (h : (p.writeEntry row (some r)).runIn w = (.ok entry, w')) :
    ∃ t', Applies s p row t w.supply entry t' w'.supply ∧
      w.state.Moves w'.state p.table.physical t' := by
  obtain ⟨key, hid⟩ := Plan.id_of_named hr
  have hknown : p.Known row t := Plan.isSome_named_iff.1 (by rw [hr]; rfl)
  have hupdate : p.transaction.update p.table (p.revised row r) =
      s.write p.table (some key) (p.revised row r) := by
    simp only [hp, Store.transaction, Plan.revised_id, hid]
  rw [Plan.writeEntry, hupdate] at h
  obtain ⟨stored, w'', hrun, h⟩ := Action.ok_of_runIn_bind h
  obtain ⟨k, saved, t', hw, rfl, rfl⟩ := Store.of_write_runIn_ok hv hrun
  rw [Action.runIn_pure, Prod.mk.injEq, Except.ok.injEq] at h
  obtain ⟨rfl, rfl⟩ := h
  exact ⟨t', .updated hveto hknown hr hid hw, Work.moves_hold _ _ _⟩

/-- A row that inserts draws what a new record needs before it writes one. -/
theorem insert_applies (hp : p.transaction = s.transaction)
    (hv : w.state.view p.table.physical = some t)
    (hveto : p.veto row (p.named row t) = false) (hr : p.named row t = none)
    {entry : Entry} (h : (p.writeEntry row none).runIn w = (.ok entry, w')) :
    ∃ t', Applies s p row t w.supply entry t' w'.supply ∧
      w.state.Moves w'.state p.table.physical t' := by
  have hnew : ¬ p.Known row t := by
    rw [← Plan.isSome_named_iff, hr]
    simp
  have hinsert : p.transaction.insert p.table (p.created row w.supply) =
      s.write p.table none (p.created row w.supply) := by
    simp only [hp, Store.transaction]
  rw [Plan.writeEntry, Action.runIn_bind_ok (Action.runIn_drawing _ _)] at h
  change (p.transaction.insert p.table (p.created row w.supply) >>= _).runIn
    ⟨w.state, p.supplyBehind row w.supply⟩ = _ at h
  rw [hinsert] at h
  obtain ⟨stored, w'', hrun, h⟩ := Action.ok_of_runIn_bind h
  obtain ⟨k, saved, t', hw, rfl, rfl⟩ :=
    Store.of_write_runIn_ok
      (w := ⟨w.state, p.supplyBehind row w.supply⟩) hv hrun
  rw [Action.runIn_pure, Prod.mk.injEq, Except.ok.injEq] at h
  obtain ⟨rfl, rfl⟩ := h
  exact ⟨t', .inserted hveto hnew hw, Work.moves_hold _ _ _⟩

theorem enter_applies (hp : p.transaction = s.transaction)
    (hv : w.state.view p.table.physical = some t) {entry : Entry}
    (h : (p.enter row).runIn w = (.ok entry, w')) :
    ∃ t', Applies s p row t w.supply entry t' w'.supply ∧
      w.state.Moves w'.state p.table.physical t' := by
  obtain ⟨work, hfind, hmoves⟩ := existing_runIn hp hv row
  cases hveto : p.veto row (p.named row t) with
  | true =>
      rw [Plan.enter_runIn_vetoed hfind hveto, Prod.mk.injEq, Except.ok.injEq]
        at h
      obtain ⟨rfl, rfl⟩ := h
      exact ⟨t, .skipped hveto, hmoves⟩
  | false =>
      rw [Plan.enter_runIn_write hfind hveto] at h
      cases hr : p.named row t with
      | some r =>
          rw [hr] at h
          obtain ⟨t', happlies, hwrite⟩ :=
            update_applies (w := ⟨work, w.supply⟩) hp hmoves.here hveto hr h
          exact ⟨t', happlies, hmoves.trans hwrite⟩
      | none =>
          rw [hr] at h
          obtain ⟨t', happlies, hwrite⟩ :=
            insert_applies (w := ⟨work, w.supply⟩) hp hmoves.here hveto hr h
          exact ⟨t', happlies, hmoves.trans hwrite⟩

/-- Rows that were all applied have been applied one after another, and have
left the summary their entries. -/
theorem applyRows_applies (hp : p.transaction = s.transaction) {rows : List Row}
    {before summary : Summary} (hv : w.state.view p.table.physical = some t)
    (h : (p.applyRows rows before).runIn w = (.ok summary, w')) :
    ∃ entries t', AppliesAll s p rows t w.supply entries t' w'.supply ∧
      summary = entries.foldl Summary.add before ∧
      w.state.Moves w'.state p.table.physical t' := by
  induction rows generalizing before w t with
  | nil =>
      rw [Plan.applyRows, Action.runIn_pure, Prod.mk.injEq, Except.ok.injEq]
        at h
      obtain ⟨rfl, rfl⟩ := h
      exact ⟨[], t, .nil, rfl, Work.moves_self hv⟩
  | cons row rows ih =>
      rcases hrow : (p.enter row).runIn w with ⟨answer, w₁⟩
      cases answer with
      | error e =>
          rw [Plan.applyRows_runIn_error hrow] at h
          simp at h
      | ok entry =>
          rw [Plan.applyRows_runIn_ok hrow] at h
          obtain ⟨t₁, happlies, hmoves⟩ := enter_applies hp hv hrow
          obtain ⟨entries, t', hall, hsummary, hrest⟩ := ih hmoves.here h
          exact ⟨entry :: entries, t', .cons happlies hall, hsummary,
            hmoves.trans hrest⟩

/-- An import that succeeds, in a unit of work of its own, leaves its table as
its rows make it one after another, each of what the rows before it left, and
all other tables as they were. The summary has the entries of the rows, each in
the list of its kind, in the order of the rows. -/
theorem reconcile_applies_rows_in_order (hp : p.transaction = s.transaction)
    {tables : Tables} {supply : Supply} {rows : List Row} {summary : Summary}
    (ht : tables.lookup p.table.physical = some t)
    (h : (p.reconcile rows).runIn ⟨⟨tables, []⟩, supply⟩ = (.ok summary, w')) :
    ∃ entries t', AppliesAll s p rows t supply entries t' w'.supply ∧
      (s.repository.finish w'.state).lookup p.table.physical = some t' ∧
      (∀ n, n ≠ p.table.physical →
        (s.repository.finish w'.state).lookup n = tables.lookup n) ∧
      summary = Summary.ofEntries entries ∧ entries.length = rows.length ∧
      summary.rowCount = rows.length ∧
      summary.inserted.length + summary.updated.length +
        summary.skipped.length = rows.length := by
  have hv : Work.view ⟨tables, []⟩ p.table.physical = some t := by
    simpa using ht
  unfold Plan.reconcile at h
  obtain ⟨applied, w₁, hrows, h⟩ := Action.ok_of_runIn_bind h
  obtain ⟨entries, t', hall, rfl, hmoves⟩ :=
    applyRows_applies (w := ⟨⟨tables, []⟩, supply⟩) hp hv hrows
  -- The commit succeeds, and makes of what was seen what is there.
  obtain ⟨w₂, hcommit, hsupply, hview⟩ :=
    Store.commit_runIn (s := s) (w := w₁)
      (hmoves.proper (Work.proper_start tables))
  rw [hp, Action.runIn_bind_ok hcommit, Action.runIn_pure, Prod.mk.injEq,
    Except.ok.injEq] at h
  obtain ⟨rfl, rfl⟩ := h
  have hsummary :
      entries.foldl Summary.add { Summary.empty with rowCount := rows.length } =
        Summary.ofEntries entries := by
    rw [Summary.foldl_add, Summary.ofEntries, hall.length_eq]
    rfl
  refine ⟨entries, t', hsupply ▸ hall, ?_, ?_, hsummary, hall.length_eq, ?_, ?_⟩
  · exact (hview _).trans hmoves.here
  · intro n hn
    exact ((hview n).trans (hmoves.elsewhere n hn)).trans
      (Work.view_start tables)
  · rw [hsummary]
    exact hall.length_eq
  · rw [hsummary, Summary.length_ofEntries, hall.length_eq]

end Runs

/-- An import whose hook keeps out records with a long identifier. -/
def shortIdsPlan : Plan Work where
  transaction := Store.shortIds.transaction
  spec := .bare "uid"
  table := Store.ordersOfAcme
  veto row _ := (row.id? "uid").any fun uid => uid.length > 8

/-- Rows with nothing in them but identifiers. -/
def rowsOfIds (uids : List String) : List Row :=
  uids.zipIdx.map fun (uid, n) => ⟨n + 1, [("uid", .str uid)], "first"⟩

/-- An identifier comes twice, one row is vetoed, and one is blank: the second
row updates what the first inserted, and the last gets a fresh identifier. -/
theorem second_row_of_an_id_updates :
    ∃ summary entries t' w',
      (shortIdsPlan.reconcile (rowsOfIds ["a", "a", "abcdefghi", ""])).runIn
        ⟨⟨[("acme$orders", .empty)], []⟩, Store.stillSupply⟩ =
          (.ok summary, w') ∧
      summary = ⟨["a", "id0"], ["a"], [some "abcdefghi"], 4⟩ ∧
      AppliesAll Store.shortIds shortIdsPlan
        (rowsOfIds ["a", "a", "abcdefghi", ""]) .empty
        Store.stillSupply entries t' w'.supply ∧
      w'.state.tables.lookup "acme$orders" = some t' ∧
      entries.length = 4 := by
  rcases hrun :
    (shortIdsPlan.reconcile (rowsOfIds ["a", "a", "abcdefghi", ""])).runIn
    ⟨⟨[("acme$orders", .empty)], []⟩, Store.stillSupply⟩ with ⟨answer, w'⟩
  have hanswer :
      answer.toOption = some ⟨["a", "id0"], ["a"], [some "abcdefghi"], 4⟩ := by
    have h :
        ((shortIdsPlan.reconcile (rowsOfIds ["a", "a", "abcdefghi", ""])).runIn
        ⟨⟨[("acme$orders", .empty)], []⟩, Store.stillSupply⟩).1.toOption =
          some ⟨["a", "id0"], ["a"], [some "abcdefghi"], 4⟩ := by decide +kernel
    rwa [hrun] at h
  cases answer with
  | error e => simp [Except.toOption] at hanswer
  | ok summary =>
      have hname : "acme$orders" = shortIdsPlan.table.physical := by decide
      have hlookup :
          List.lookup shortIdsPlan.table.physical
              [("acme$orders", Table.empty)] =
            some .empty := by
        rw [← hname, List.lookup_cons_self]
      obtain ⟨entries, t', hall, htable, -, -, hlength, -, -⟩ :=
        reconcile_applies_rows_in_order (s := Store.shortIds) rfl hlookup hrun
      rw [← hname] at htable
      exact ⟨summary, entries, t', w', rfl, Option.some.inj hanswer, hall,
        htable, hlength⟩

end TenantTables.Import
