import TenantTables.Proofs.ImportTable
import TenantTables.Proofs.BulkDeletion
import TenantTables.Proofs.WrittenAttributes

/-!
# Imports succeed exactly if their rows apply

That rows apply one after another is said of plain tables, without a unit of
work, a summary or a request around it. Here it is brought together with runs:
if its rows apply, an import succeeds and leaves what they make, and if it
succeeds, its rows apply. Behind that, whatever is to be shown of an import, or
of two in a row, is shown of the rows.
-/

namespace TenantTables

open Memory (Store Table Tables Work)

namespace Import

section Runs

variable {s : Store} {p : Plan Work} {row : Row} {rows : List Row}
  {w w' : World Work} {t t' : Table} {u u' : Supply} {entry : Entry}
  {entries : List Entry}

/-! ## Rows in a unit of work -/

theorem Applies.instants (h : Applies s p row t u entry t' u') :
    u'.instants = u.instants := by
  cases h with
  | skipped _ => rfl
  | updated _ _ _ _ _ => rfl
  | inserted _ _ _ => exact TableSpec.instants_prepareInsert _ _ _

theorem AppliesAll.instants (h : AppliesAll s p rows t u entries t' u') :
    u'.instants = u.instants := by
  induction h with
  | nil => rfl
  | cons h _ ih => exact ih.trans h.instants

theorem enter_of_applies (hp : p.transaction = s.transaction)
    (hv : w.state.view p.table.physical = some t)
    (h : Applies s p row t w.supply entry t' u') :
    ∃ work, (p.enter row).runIn w = (.ok entry, ⟨work, u'⟩) ∧
      w.state.Moves work p.table.physical t' := by
  obtain ⟨work, hfind, hmoves⟩ := existing_runIn hp hv row
  cases h with
  | skipped hveto => exact ⟨work, Plan.enter_runIn_vetoed hfind hveto, hmoves⟩
  | @updated r id key stored t' hveto _ hr hid hw =>
      have hwrite := Store.write_runIn_ok (w := ⟨work, w.supply⟩) hmoves.here hw
      have hupdate : p.transaction.update p.table (p.revised row r) =
          s.write p.table (some id) (p.revised row r) := by
        simp only [hp, Store.transaction, Plan.revised_id, hid]
      rw [hr] at hfind hveto
      rw [← hupdate] at hwrite
      exact ⟨_,
        (Plan.enter_runIn_write hfind hveto).trans
          (Plan.writeEntry_some_runIn hwrite),
          hmoves.trans (Work.moves_hold _ _ _)⟩
  | @inserted key stored t' hveto hnew hw =>
      have hnone : p.named row t = none := by
        rwa [← Option.not_isSome_iff_eq_none, Plan.isSome_named_iff]
      have hwrite :=
        Store.write_runIn_ok (w := ⟨work, p.supplyBehind row w.supply⟩)
          hmoves.here hw
      have hinsert : p.transaction.insert p.table (p.created row w.supply) =
          s.write p.table none (p.created row w.supply) := by
        simp only [hp, Store.transaction]
      rw [hnone] at hfind hveto
      rw [← hinsert] at hwrite
      have hentry := Plan.writeEntry_none_runIn (w := ⟨work, w.supply⟩) hwrite
      exact ⟨_, (Plan.enter_runIn_write hfind hveto).trans hentry,
        hmoves.trans (Work.moves_hold _ _ _)⟩

theorem applyRows_of_appliesAll (hp : p.transaction = s.transaction)
    (hv : w.state.view p.table.physical = some t)
    (h : AppliesAll s p rows t w.supply entries t' u') (before : Summary) :
    ∃ work, (p.applyRows rows before).runIn w =
        (.ok (entries.foldl Summary.add before), ⟨work, u'⟩) ∧
      w.state.Moves work p.table.physical t' := by
  induction rows generalizing w t entries before with
  | nil =>
      cases h
      exact ⟨w.state, rfl, Work.moves_self hv⟩
  | cons row rows ih =>
      cases h with
      | @cons _ _ _ t₁ _ _ u₁ _ entry entries h hs =>
          obtain ⟨work, henter, hmoves⟩ := enter_of_applies hp hv h
          obtain ⟨work', hrest, hmoves'⟩ :=
            ih (w := ⟨work, u₁⟩) hmoves.here hs (before.add entry)
          exact ⟨work', (Plan.applyRows_runIn_ok henter).trans hrest,
            hmoves.trans hmoves'⟩

/-! ## Imports in a unit of work of their own -/

/-- An import whose rows apply succeeds, and leaves what the rows make. -/
theorem reconcile_of_appliesAll (hp : p.transaction = s.transaction)
    {tables : Tables} (ht : tables.lookup p.table.physical = some t)
    (h : AppliesAll s p rows t u entries t' u') :
    ∃ work : Work, (p.reconcile rows).runIn ⟨⟨tables, []⟩, u⟩ =
        (.ok (Summary.ofEntries entries), ⟨work, u'⟩) ∧
      work.tables.lookup p.table.physical = some t' ∧
      ∀ n, n ≠ p.table.physical → work.tables.lookup n = tables.lookup n := by
  have hv : Work.view ⟨tables, []⟩ p.table.physical = some t := by
    simpa using ht
  obtain ⟨work, hrows, hmoves⟩ :=
    applyRows_of_appliesAll (w := ⟨⟨tables, []⟩, u⟩) hp hv h
      { Summary.empty with rowCount := rows.length }
  obtain ⟨w₂, hcommit, hsupply, hview⟩ :=
    Store.commit_runIn (s := s) (w := ⟨work, u'⟩)
      (hmoves.proper (Work.proper_start tables))
  obtain ⟨work₂, u₂⟩ := w₂
  obtain rfl : u₂ = u' := hsupply
  rw [Summary.foldl_add_empty h.length_eq] at hrows
  refine ⟨work₂, ?_, (hview _).trans hmoves.here, fun n hn => ?_⟩
  · rw [Plan.reconcile, Action.runIn_bind_ok hrows, hp,
      Action.runIn_bind_ok hcommit, Action.runIn_pure]
  · exact ((hview n).trans (hmoves.elsewhere n hn)).trans
      (Work.view_start tables)

/-- The rows of an import that succeeds apply. -/
theorem appliesAll_of_reconcile (hp : p.transaction = s.transaction)
    {tables : Tables} (ht : tables.lookup p.table.physical = some t)
    {summary : Summary}
    (h : (p.reconcile rows).runIn ⟨⟨tables, []⟩, u⟩ = (.ok summary, w')) :
    ∃ entries t' u', AppliesAll s p rows t u entries t' u' := by
  have hv : Work.view ⟨tables, []⟩ p.table.physical = some t := by
    simpa using ht
  obtain ⟨applied, w₁, hrows, -⟩ := Action.ok_of_runIn_bind h
  obtain ⟨entries, t', hall, -⟩ :=
    applyRows_applies (w := ⟨⟨tables, []⟩, u⟩) hp hv hrows
  exact ⟨entries, t', w₁.supply, hall⟩

end Runs

end Import

/-! ## Requests to import -/

namespace Service

open Audit (Session)
open Import (AppliesAll Summary validateCsv)

variable {κ : Type} {svc : Service Tables Work κ} {s : Store}
  {ctx : RequestContext} {table : String} {name : TableName}
  {bytes : List UInt8} {rules : FieldRules}

def importPlan (svc : Service Tables Work κ)
    (name : TableName) : Import.Plan Work :=
  ⟨svc.repository.transaction, svc.repository.spec, name, svc.veto⟩

theorem importPlan_transaction (svc : Service Tables Work κ)
    (hs : svc.repository = s.repository) (name : TableName) :
    (svc.importPlan name).transaction = s.transaction := by
  rw [importPlan, hs]
  rfl

/-- Reporting an import leaves the store as it is. -/
theorem reportImport_runIn (svc : Service Tables Work κ) (ctx : RequestContext)
    (name : TableName) (importId : String) (summary : Summary)
    (w : World (ServiceState Tables κ)) :
    ∃ w', (svc.reportImport ctx name importId summary).runIn w = (.ok (), w') ∧
      w'.state.store = w.state.store := by
  unfold reportImport
  dsimp only
  split
  · exact ⟨_, rfl, rfl⟩
  · exact ⟨w, rfl, rfl⟩

variable (hs : svc.repository = s.repository)
  (hname : svc.tableName ctx table = .ok name)
include hs hname

/-- A request to import answers what its rows do in a unit of work of their own,
and reports it. -/
theorem importCsv_of_reconcile {w : World (ServiceState Tables κ)}
    {rows : List Import.Row} {summary : Summary} {inner : World Work}
    (hread :
      validateCsv ⟨rules, svc.config.importLimit⟩ w.supply.fresh.1 bytes =
        .ok rows)
    (h : ((svc.importPlan name).reconcile rows).runIn
        ⟨⟨Tables.ensured w.state.store name.physical, []⟩, w.supply.fresh.2⟩ =
      (.ok summary, inner)) :
    (svc.importCsv ctx table bytes rules).runIn w =
      (.ok ⟨summary, w.supply.fresh.1⟩,
        ((svc.reportImport ctx name w.supply.fresh.1 summary).runIn
          ⟨⟨inner.state.tables, w.state.sink⟩, inner.supply⟩).2) := by
  let opening : World (ServiceState Tables κ) :=
    ⟨⟨Tables.ensured w.state.store name.physical, w.state.sink⟩,
      w.supply.fresh.2⟩
  have hwork : (Session.onWork ((svc.importPlan name).reconcile rows)).runIn
      ⟨⟨⟨opening.state.store, []⟩, [], opening.state.sink⟩, opening.supply⟩ =
        (.ok summary,
          ⟨⟨inner.state, [], opening.state.sink⟩, inner.supply⟩) := by
    rw [Session.onWork, Action.runIn_zoom, h]
  obtain ⟨w', hreport, -⟩ :=
    svc.reportImport_runIn ctx name w.supply.fresh.1 summary
      ⟨⟨inner.state.tables, w.state.sink⟩, inner.supply⟩
  rw [importCsv, Action.runIn_bind_ok (openTable_runIn hs hname w),
    Action.runIn_bind_ok
      (show Action.fresh.runIn _ = (.ok w.supply.fresh.1, opening) from rfl),
    hread, Action.runIn_bind_ok (Action.runIn_lift _ _), hreport]
  exact (Action.runIn_bind_ok (inWork_runIn hs hwork)).trans
    (Action.runIn_bind_ok hreport)

/-- A request to import whose rows can be read and apply succeeds. -/
theorem importCsv_runIn {w : World (ServiceState Tables κ)}
    {rows : List Import.Row} {t' : Table} {u' : Supply}
    {entries : List Import.Entry}
    (hread :
      validateCsv ⟨rules, svc.config.importLimit⟩ w.supply.fresh.1 bytes =
        .ok rows)
    (h : AppliesAll s (svc.importPlan name) rows (opened w name)
      w.supply.fresh.2 entries t' u') :
    ∃ w', (svc.importCsv ctx table bytes rules).runIn w =
        (.ok ⟨Summary.ofEntries entries, w.supply.fresh.1⟩, w') ∧
      List.lookup name.physical w'.state.store = some t' := by
  have hp := svc.importPlan_transaction hs name
  have ht := Tables.lookup_ensured_self w.state.store name.physical
  obtain ⟨work, hrun, hafter, -⟩ := Import.reconcile_of_appliesAll hp ht h
  obtain ⟨w', hreport, hstore⟩ :=
    svc.reportImport_runIn ctx name w.supply.fresh.1
      (Summary.ofEntries entries) ⟨⟨work.tables, w.state.sink⟩, u'⟩
  have himport := importCsv_of_reconcile hs hname hread hrun
  rw [hreport] at himport
  exact ⟨w', himport, hstore ▸ hafter⟩

/-- The rows of a request to import that succeeds can be read, and apply. -/
theorem of_importCsv_runIn {w w' : World (ServiceState Tables κ)}
    {outcome : ImportOutcome}
    (h : (svc.importCsv ctx table bytes rules).runIn w = (.ok outcome, w')) :
    ∃ rows entries t' u',
      validateCsv ⟨rules, svc.config.importLimit⟩ w.supply.fresh.1 bytes =
        .ok rows ∧
      AppliesAll s (svc.importPlan name) rows (opened w name) w.supply.fresh.2
        entries t' u' ∧
      outcome.summary = Summary.ofEntries entries ∧ opened w' name = t' := by
  have hp := svc.importPlan_transaction hs name
  have ht := Tables.lookup_ensured_self w.state.store name.physical
  let opening : World (ServiceState Tables κ) :=
    ⟨⟨Tables.ensured w.state.store name.physical, w.state.sink⟩,
      w.supply.fresh.2⟩
  have hbody := h
  rw [importCsv, Action.runIn_bind_ok (openTable_runIn hs hname w),
    Action.runIn_bind_ok
      (show Action.fresh.runIn _ = (.ok w.supply.fresh.1, opening) from rfl)]
    at hbody
  obtain ⟨rows, w₁, hlift, hbody⟩ := Action.ok_of_runIn_bind hbody
  rw [Action.runIn_lift, Prod.mk.injEq] at hlift
  obtain ⟨hread, rfl⟩ := hlift
  obtain ⟨summary, w₂, hwork, -⟩ := Action.ok_of_runIn_bind hbody
  rcases hrun : ((svc.importPlan name).reconcile rows).runIn
    ⟨⟨opening.state.store, []⟩, opening.supply⟩ with ⟨answer, inner⟩
  have hsession : (Session.onWork ((svc.importPlan name).reconcile rows)).runIn
      ⟨⟨⟨opening.state.store, []⟩, [], opening.state.sink⟩, opening.supply⟩ =
        (answer, ⟨⟨inner.state, [], opening.state.sink⟩, inner.supply⟩) := by
    rw [Session.onWork, Action.runIn_zoom, hrun]
  -- The run is followed as far as its answer. What it leaves is known from
  -- the rows that apply.
  have hanswer := (inWork_runIn hs hsession).symm.trans hwork
  rw [Prod.mk.injEq] at hanswer
  obtain ⟨rfl, -⟩ := hanswer
  obtain ⟨entries, t', u', hall⟩ := Import.appliesAll_of_reconcile hp ht hrun
  obtain ⟨w₃, himport, hafter⟩ := importCsv_runIn hs hname hread hall
  rw [h, Prod.mk.injEq, Except.ok.injEq] at himport
  obtain ⟨rfl, rfl⟩ := himport
  exact ⟨rows, entries, t', u', hread, hall, rfl, opened_of_lookup hafter⟩

end Service

end TenantTables
