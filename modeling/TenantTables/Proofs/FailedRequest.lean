import TenantTables.Proofs.ImportEntry
import TenantTables.Proofs.Request
import TenantTables.Proofs.StoreInvariant

/-!
# A failed request leaves no trace

A request over the store in memory that fails has not written: the tables are
what they were, but for a target that was not there and is now there and empty,
and the sink has got no event.

Requests fail in many places, and some behind writes to a copy of their table.
No place is looked at by itself. Of a unit of work, the tables that it started
from and the sink are followed: every call keeps both, but for the commit, and
the commit cannot fail. So a body whose last step that can do anything to them
is the commit fails clean, wherever it fails, and what it leaves behind is what
it found.
-/

namespace TenantTables

open Json (Object)
open TenantTables.Action (Keeps FailsClean Succeeds)
open Audit (Session Auditor Sink Act)
open Memory (Store Table Tables Work)

/-! ## Calls of a unit of work -/

namespace Memory

namespace Store

variable {s : Store}

theorem keeps_find (name : TableName) (field value : String) :
    Keeps Work.tables (s.transaction.find name field value) :=
  fun w => (find_becomes s name field value [] w).tables

theorem keeps_insert (name : TableName) (r : Record) :
    Keeps Work.tables (s.transaction.insert name r) :=
  fun w => (insert_becomes s name r w).tables

theorem keeps_update (name : TableName) (r : Record) :
    Keeps Work.tables (s.transaction.update name r) :=
  fun w => (update_becomes s name r w).tables

theorem keeps_delete (name : TableName) (r : Record) :
    Keeps Work.tables (s.transaction.delete name r) :=
  fun w => (delete_becomes s name r [] w).tables

theorem keeps_rollback : Keeps Work.tables s.transaction.rollback :=
  fun _ => rfl

theorem succeeds_commit : Succeeds s.transaction.commit :=
  fun _ => ⟨(), _, rfl⟩

/-! ## Requests on whole tables -/

theorem keeps_tableIn (name : TableName) : Keeps id (tableIn name) := by
  intro w
  cases h : w.state.lookup name.physical with
  | none => rw [tableIn_runIn_of_none h]
  | some t => rw [tableIn_runIn h]

theorem failsClean_truncate (name : TableName) :
    FailsClean id (s.repository.truncate name) :=
  (keeps_tableIn name).failsClean.bind_succeeds fun _ _ => ⟨(), _, rfl⟩

theorem failsClean_deleteWhere (name : TableName) (f : Query.Filter) :
    FailsClean id (s.repository.deleteWhere name f) :=
  (keeps_tableIn name).failsClean.bind_succeeds fun _ _ => ⟨_, _, rfl⟩

theorem succeeds_dropTable (name : TableName) :
    Succeeds (s.repository.dropTable name) :=
  fun _ => ⟨(), _, rfl⟩

/-- A request that only reads its table. -/
theorem keeps_reading {α : Type} (name : TableName) (read : Table → α) :
    Keeps id (tableIn name >>= fun t => pure (read t)) :=
  (keeps_tableIn name).bind fun _ => Action.keeps_pure _

theorem keeps_paginate (name : TableName) (d : Query.Descriptor) :
    Keeps id (s.repository.paginate name d) :=
  (keeps_tableIn name).bind fun _ => (Action.keeps_lift _).bind fun _ =>
    Action.keeps_pure _

theorem keeps_selectAll (name : TableName) (f : Query.Filter)
    (sorts : List Query.SortTerm) :
    Keeps id (s.repository.selectAll name f sorts) :=
  (keeps_tableIn name).bind fun _ => (Action.keeps_lift _).bind fun _ =>
    Action.keeps_pure _

end Store

end Memory

/-! ## Sessions -/

namespace Audit

/-- What a session must leave alone until it commits. -/
def Session.trace {κ : Type} (session : Session Work κ) : Tables × κ :=
  (session.work.tables, session.sink)

variable {κ : Type} {α : Type} {a : Action Work α}

theorem Session.keeps_onWork (h : Keeps Work.tables a) :
    Keeps (Session.trace (κ := κ)) (Session.onWork a) := by
  intro w
  unfold Session.onWork
  rw [Action.runIn_zoom]
  exact congrArg (·, w.state.sink) (h ⟨w.state.work, w.supply⟩)

theorem Session.failsClean_onWork (h : FailsClean Work.tables a) :
    FailsClean (Session.trace (κ := κ)) (Session.onWork a) := by
  intro w e w' hrun
  unfold Session.onWork at hrun
  rw [Action.runIn_zoom, Prod.mk.injEq] at hrun
  obtain ⟨hfail, rfl⟩ := hrun
  exact congrArg (·, w.state.sink)
    (h ⟨w.state.work, w.supply⟩ e _ (Prod.ext hfail rfl))

theorem Session.succeeds_onWork (h : Succeeds a) :
    Succeeds (Session.onWork (κ := κ) a) := by
  intro w
  obtain ⟨x, w', hrun⟩ := h ⟨w.state.work, w.supply⟩
  unfold Session.onWork
  rw [Action.runIn_zoom, hrun]
  exact ⟨x, _, rfl⟩

namespace Auditor

variable (auditor : Auditor) (sink : Sink κ) {s : Store}

/-- An event that waits has not reached the sink. -/
theorem keeps_queue (t : TableName) (act : Act) (r : Record)
    (log : List Change) :
    Keeps (Session.trace (κ := κ)) (auditor.queue t act r log) := by
  unfold queue
  split
  · refine Action.keeps_now.bind fun now => ?_
    cases auditor.recordEvent? t act r log now with
    | none => exact Action.keeps_pure _
    | some e => exact fun _ => rfl
  · exact Action.keeps_pure _

theorem keeps_find (t : TableName) (field value : String) :
    Keeps Session.trace
      ((auditor.wrap sink s.transaction).find t field value) :=
  Session.keeps_onWork (Store.keeps_find (s := s) t field value)

theorem keeps_insert (t : TableName) (r : Record) :
    Keeps Session.trace ((auditor.wrap sink s.transaction).insert t r) := by
  refine (Session.keeps_onWork (Store.keeps_insert t r)).bind fun stored => ?_
  exact (auditor.keeps_queue t .create stored []).bind fun _ =>
    Action.keeps_pure _

theorem keeps_update (t : TableName) (r : Record) :
    Keeps Session.trace ((auditor.wrap sink s.transaction).update t r) := by
  refine (Session.keeps_onWork (Store.keeps_update t r)).bind fun stored => ?_
  split
  · exact Action.keeps_pure _
  · exact (auditor.keeps_queue t .update stored r.changes).bind fun _ =>
      Action.keeps_pure _

theorem keeps_delete (t : TableName) (r : Record) :
    Keeps Session.trace ((auditor.wrap sink s.transaction).delete t r) :=
  (Session.keeps_onWork (Store.keeps_delete t r)).bind fun _ =>
    auditor.keeps_queue t .delete r []

theorem succeeds_commit : Succeeds (auditor.wrap sink s.transaction).commit :=
  (Session.succeeds_onWork Store.succeeds_commit).bind fun _ _ => ⟨(), _, rfl⟩

end Auditor

end Audit

/-! ## Imports -/

namespace Import.Plan

variable {s : Store} {p : Plan Work}

theorem keeps_enter (hp : p.transaction = s.transaction) (row : Row) :
    Keeps Work.tables (p.enter row) := by
  have hexisting : Keeps Work.tables (p.existing (row.id? p.spec.idField)) := by
    unfold existing
    rw [hp]
    split
    · exact Store.keeps_find _ _ _
    · exact Action.keeps_pure _
  refine hexisting.bind fun found => ?_
  split
  · exact Action.keeps_pure _
  · unfold writeEntry
    rw [hp]
    cases found with
    | some r => exact (Store.keeps_update _ _).bind fun _ => Action.keeps_pure _
    | none =>
        refine (Action.keeps_drawing _).bind fun attributes => ?_
        exact (Store.keeps_insert _ _).bind fun _ => Action.keeps_pure _

/-- Rows are applied to copies only, whether or not they are all applied. -/
theorem keeps_applyRows (hp : p.transaction = s.transaction) (rows : List Row)
    (summary : Summary) : Keeps Work.tables (p.applyRows rows summary) := by
  induction rows generalizing summary with
  | nil => exact Action.keeps_pure _
  | cons row rows ih =>
      have happly : Keeps Work.tables (p.applyRow row summary) := by
        rw [applyRow_eq]
        exact (keeps_enter hp row).bind fun _ => Action.keeps_pure _
      refine happly.attempt.bind fun answer => ?_
      cases answer with
      | ok summary => exact ih summary
      | error e =>
          have hrollback : Keeps Work.tables p.transaction.rollback := by
            rw [hp]
            exact Store.keeps_rollback
          exact hrollback.attempt.bind fun _ => Action.keeps_lift _

theorem failsClean_reconcile (hp : p.transaction = s.transaction)
    (rows : List Row) :
    FailsClean Work.tables (p.reconcile rows) := by
  have hcommit : Succeeds p.transaction.commit := by
    rw [hp]
    exact Store.succeeds_commit
  exact (keeps_applyRows hp rows _).failsClean.bind_succeeds fun summary =>
    hcommit.bind fun _ => Action.succeeds_pure summary

end Import.Plan

/-! ## Requests -/

namespace Service

variable {κ : Type} {svc : Service Tables Work κ} {s : Store}
  {ctx : RequestContext} {table : String}

/-- What a failed request leaves: the state that it found, but that the target
may have been created. -/
inductive Opened (svc : Service Tables Work κ) (ctx : RequestContext)
    (table : String) (before : ServiceState Tables κ) :
    ServiceState Tables κ → Prop where
  | refused : Opened svc ctx table before before
  | ensured {t : TableName} (ht : svc.tableName ctx table = .ok t) :
      Opened svc ctx table before
        { before with store := Tables.ensured before.store t.physical }

/-- A run that fails leaves what it found, but that the target may
have been created. -/
def FailsOpened {α : Type} (svc : Service Tables Work κ) (ctx : RequestContext)
    (table : String) (a : Op Tables κ α) : Prop :=
  ∀ w e w', a.runIn w = (.error e, w') → Opened svc ctx table w.state w'.state

section Parts

variable {α β : Type} {a : Op Tables κ α}

theorem keeps_onStore {a : Action Tables α} (h : Keeps id a) :
    Keeps id (onStore (κ := κ) a) := by
  intro w
  have hw := h ⟨w.state.store, w.supply⟩
  unfold onStore
  rw [Action.runIn_zoom]
  exact congrArg (fun store => { w.state with store }) hw

theorem failsClean_onStore {a : Action Tables α} (h : FailsClean id a) :
    FailsClean id (onStore (κ := κ) a) := by
  intro w e w' hrun
  unfold onStore at hrun
  rw [Action.runIn_zoom, Prod.mk.injEq] at hrun
  obtain ⟨hfail, rfl⟩ := hrun
  have hw := h ⟨w.state.store, w.supply⟩ e _ (Prod.ext hfail rfl)
  exact congrArg (fun store => { w.state with store }) hw

theorem succeeds_onStore {a : Action Tables α} (h : Succeeds a) :
    Succeeds (onStore (κ := κ) a) := by
  intro w
  obtain ⟨x, w', hrun⟩ := h ⟨w.state.store, w.supply⟩
  unfold onStore
  rw [Action.runIn_zoom, hrun]
  exact ⟨x, _, rfl⟩

/-- A unit of work whose body fails clean leaves tables and sink
alone if it fails. -/
theorem failsClean_inWork (hs : svc.repository = s.repository)
    {body : Action (Session Work κ) α} (h : FailsClean Session.trace body) :
    FailsClean id (svc.inWork body) := by
  intro w e w' hrun
  rcases hbody : body.runIn ⟨⟨⟨w.state.store, []⟩, [], w.state.sink⟩, w.supply⟩
    with
    ⟨answer, inner⟩
  rw [inWork_runIn hs hbody, Prod.mk.injEq] at hrun
  obtain ⟨rfl, rfl⟩ := hrun
  have htrace := h _ e inner hbody
  unfold Session.trace at htrace
  rw [Prod.mk.injEq] at htrace
  obtain ⟨htables, hsink⟩ := htrace
  show ServiceState.mk inner.state.work.tables inner.state.sink = w.state
  rw [htables, hsink]

theorem failsOpened_of_failsClean (h : FailsClean id a) :
    FailsOpened svc ctx table a := by
  intro w e w' hrun
  have hw : w'.state = w.state := h w e w' hrun
  rw [hw]
  exact .refused

theorem FailsOpened.bind_pure (h : FailsOpened svc ctx table a) (f : α → β) :
    FailsOpened svc ctx table (a >>= fun x => pure (f x)) := by
  intro w e w'' hrun
  rcases Action.error_of_runIn_bind hrun with hfail | ⟨x, w', -, hfail⟩
  · exact h w e w'' hfail
  · exact absurd hfail (Action.succeeds_pure (f x)).not_error

/-- A check of the inputs may come before anything else. -/
theorem FailsOpened.lift_bind {r : Except Error β} {k : β → Op Tables κ α}
    (hk : ∀ x, FailsOpened svc ctx table (k x)) :
    FailsOpened svc ctx table (Action.lift r >>= k) := by
  intro w e w' hrun
  cases r with
  | error e' =>
      rw [Action.runIn_bind_error (Action.runIn_lift _ w), Prod.mk.injEq]
        at hrun
      obtain ⟨-, rfl⟩ := hrun
      exact .refused
  | ok x =>
      rw [Action.runIn_bind_ok (Action.runIn_lift _ w)] at hrun
      exact hk x w e w' hrun

/-- What comes behind the opening of a table has to fail clean. -/
theorem failsOpened_openTable (hs : svc.repository = s.repository)
    {k : TableName → Op Tables κ α} (hk : ∀ t, FailsClean id (k t)) :
    FailsOpened svc ctx table (svc.openTable ctx table >>= k) := by
  intro w e w' hrun
  cases ht : svc.tableName ctx table with
  | error e' =>
      rw [Action.runIn_bind_error (openTable_runIn_error ht w), Prod.mk.injEq]
        at hrun
      obtain ⟨-, rfl⟩ := hrun
      exact .refused
  | ok t =>
      rw [Action.runIn_bind_ok (openTable_runIn hs ht w)] at hrun
      have hw : w'.state =
          { w.state with store := Tables.ensured w.state.store t.physical } :=
        hk t _ e w' hrun
      rw [hw]
      exact .ensured ht

end Parts

theorem failsOpened_list (hs : svc.repository = s.repository)
    (params : Query.Params) :
    FailsOpened svc ctx table (svc.list ctx table params) := by
  refine failsOpened_openTable hs fun t => ?_
  rw [hs]
  dsimp only
  split
  · exact (failsClean_onStore
      (Store.failsClean_deleteWhere t _)).bind_succeeds fun n =>
      Action.succeeds_pure _
  · exact ((keeps_onStore (Store.keeps_paginate t _)).bind fun p =>
      Action.keeps_pure _).failsClean

theorem failsOpened_retrieve (hs : svc.repository = s.repository)
    (id : String) :
    FailsOpened svc ctx table (svc.retrieve ctx table id) := by
  refine failsOpened_openTable hs fun t => Keeps.failsClean ?_
  rw [hs]
  refine (keeps_onStore (Store.keeps_reading t _)).bind fun found => ?_
  cases found with
  | some r => exact Action.keeps_pure r
  | none => exact Action.keeps_lift _

theorem keeps_saveChanges (auditor : Auditor) (sink : Sink κ) (t : TableName)
    (r : Record) :
    Keeps Session.trace
      (saveChanges (auditor.wrap sink s.transaction) t r) := by
  unfold saveChanges
  split
  · exact auditor.keeps_update sink t r
  · exact Action.keeps_pure r

theorem keeps_saveNew (auditor : Auditor) (sink : Sink κ) (spec : TableSpec)
    (t : TableName) (id : Option String) (attributes : Object) :
    Keeps Session.trace
      (saveNew (auditor.wrap sink s.transaction) spec t id attributes) :=
  (Action.keeps_drawing _).bind fun _ => auditor.keeps_insert sink t _

theorem failsOpened_upsert (hs : svc.repository = s.repository)
    (id : Option String) (inputs : Object) (rules : FieldRules) :
    FailsOpened svc ctx table (svc.upsert ctx table id inputs rules) := by
  refine FailsOpened.lift_bind fun _ => failsOpened_openTable hs fun t => ?_
  refine failsClean_inWork hs ?_
  rw [hs]
  -- Both ways of storing a record end in the commit.
  have hcommit : ∀ stored : Record,
      Succeeds (((svc.auditor ctx).wrap svc.sink s.transaction).commit >>=
        fun _ => pure stored) :=
    fun stored => (Auditor.succeeds_commit _ _).bind fun _ =>
      Action.succeeds_pure stored
  have hchanges := fun r =>
    (keeps_saveChanges (s := s) (svc.auditor ctx) svc.sink t
      r).failsClean.bind_succeeds hcommit
  have hnew :=
    (keeps_saveNew (s := s) (svc.auditor ctx) svc.sink s.repository.spec t id
      (s.repository.spec.fillable
        (Path.undot inputs))).failsClean.bind_succeeds hcommit
  cases id with
  | none => exact hnew
  | some id =>
      refine (Auditor.keeps_find _ _ t _ id).bind_failsClean fun found => ?_
      cases found with
      | some r => exact hchanges _
      | none => exact hnew

theorem failsOpened_delete (hs : svc.repository = s.repository) (id : String) :
    FailsOpened svc ctx table (svc.delete ctx table id) := by
  refine failsOpened_openTable hs fun t => failsClean_inWork hs ?_
  rw [hs]
  refine (Auditor.keeps_find _ _ t _ id).bind_failsClean fun found => ?_
  cases found with
  | none =>
      have hrollback : Keeps (Session.trace (κ := κ))
          (((svc.auditor ctx).wrap svc.sink s.transaction).rollback) :=
        Session.keeps_onWork (Store.keeps_rollback (s := s))
      exact (hrollback.bind fun _ => Action.keeps_lift _).failsClean
  | some r =>
      exact (Auditor.keeps_delete _ _ t r).failsClean.bind_succeeds fun _ =>
        (Auditor.succeeds_commit _ _).bind fun _ => Action.succeeds_pure r

theorem succeeds_reportImport (t : TableName) (importId : String)
    (summary : Import.Summary) :
    Succeeds (svc.reportImport ctx t importId summary) := by
  unfold reportImport
  dsimp only
  split
  · exact fun _ => ⟨(), _, rfl⟩
  · exact Action.succeeds_pure ()

theorem failsOpened_importCsv (hs : svc.repository = s.repository)
    (bytes : List UInt8) (rules : FieldRules) :
    FailsOpened svc ctx table (svc.importCsv ctx table bytes rules) := by
  refine failsOpened_openTable hs fun t => ?_
  have hfresh : Keeps id (Action.fresh : Op Tables κ String) := fun _ => rfl
  refine hfresh.bind_failsClean fun importId => ?_
  refine (Action.keeps_lift _).bind_failsClean fun rows => ?_
  let plan : Import.Plan Work :=
    ⟨svc.repository.transaction, svc.repository.spec, t, svc.veto⟩
  have hplan : plan.transaction = s.transaction := by
    show svc.repository.transaction = s.transaction
    rw [hs]
    rfl
  have hwork :
      FailsClean id (svc.inWork (Session.onWork (plan.reconcile rows))) :=
    failsClean_inWork hs
      (Session.failsClean_onWork (Import.Plan.failsClean_reconcile hplan rows))
  exact hwork.bind_succeeds fun summary =>
    (succeeds_reportImport t importId summary).bind fun _ =>
      Action.succeeds_pure _

theorem failsOpened_exportTable (hs : svc.repository = s.repository)
    (params : Query.Params) (headings : Option (List String)) :
    FailsOpened svc ctx table (svc.exportTable ctx table params headings) := by
  refine failsOpened_openTable hs fun t => Keeps.failsClean ?_
  rw [hs]
  refine (keeps_onStore (Store.keeps_selectAll t _ _)).bind fun records => ?_
  exact Action.keeps_now.bind fun now => Action.keeps_pure _

theorem failsOpened_truncate (hs : svc.repository = s.repository) :
    FailsOpened svc ctx table (svc.truncate ctx table) := by
  refine failsOpened_openTable hs fun t => ?_
  rw [hs]
  exact failsClean_onStore (Store.failsClean_truncate t)

theorem failsOpened_drop (hs : svc.repository = s.repository) :
    FailsOpened svc ctx table (svc.drop ctx table) := by
  refine failsOpened_of_failsClean
    ((Action.keeps_lift _).failsClean.bind_succeeds fun t => ?_)
  rw [hs]
  exact succeeds_onStore (Store.succeeds_dropTable t)

theorem failsOpened_serve (hs : svc.repository = s.repository)
    (request : Request) :
    FailsOpened svc ctx table (svc.serve ctx table request) := by
  cases request with
  | list params => exact (failsOpened_list hs params).bind_pure _
  | retrieve id => exact (failsOpened_retrieve hs id).bind_pure _
  | create inputs rules =>
      exact (failsOpened_upsert hs none inputs rules).bind_pure _
  | upsert id inputs rules =>
      exact (failsOpened_upsert hs id inputs rules).bind_pure _
  | delete id => exact (failsOpened_delete hs id).bind_pure _
  | importCsv bytes rules =>
      exact (failsOpened_importCsv hs bytes rules).bind_pure _
  | importFile file rules =>
      cases file with
      | some bytes => exact (failsOpened_importCsv hs bytes rules).bind_pure _
      | none =>
          have hmissing : FailsClean id (svc.importFile ctx table none rules) :=
            (Action.keeps_lift _).failsClean
          exact (failsOpened_of_failsClean hmissing).bind_pure _
  | exportTable params headings =>
      exact (failsOpened_exportTable hs params headings).bind_pure _
  | truncate => exact (failsOpened_truncate hs).bind_pure _
  | drop => exact (failsOpened_drop hs).bind_pure _

/-- A request over the store in memory that fails leaves every table as it was,
with its rows and its next surrogate key, but that its own target, if it was not
there, may now be there and empty. No event has been written. -/
theorem failed_request_leaves_no_trace (hs : svc.repository = s.repository)
    {request : Request} {w w' : World (ServiceState Tables κ)} {e : Error}
    (h : (svc.serve ctx table request).runIn w = (.error e, w')) :
    (∀ n, List.lookup n w'.state.store = List.lookup n w.state.store ∨
      ∃ t, svc.tableName ctx table = .ok t ∧ n = t.physical ∧
        List.lookup n w.state.store = none ∧
        List.lookup n w'.state.store = some .empty) ∧
    w'.state.sink = w.state.sink := by
  have hopened := failsOpened_serve hs request w e w' h
  generalize w'.state = after at hopened ⊢
  cases hopened with
  | refused => exact ⟨fun n => .inl rfl, rfl⟩
  | @ensured t ht =>
      refine ⟨fun n => ?_, rfl⟩
      dsimp only
      by_cases hn : n = t.physical
      · subst hn
        rw [Tables.lookup_ensured_self]
        cases hbefore : List.lookup t.physical w.state.store with
        | some u => exact .inl rfl
        | none => exact .inr ⟨t, ht, rfl, rfl, rfl⟩
      · exact .inl (Tables.lookup_ensured_of_ne hn w.state.store)

/-- A service that audits every table, and gets its tenant from
its surroundings. -/
def ofShortIds : Service Tables Work (List Audit.Event) where
  repository := Store.shortIds.repository
  sink := .collecting
  config := { databaseUrl := "" }
  policy := ⟨some .empty, some .empty, none, none, []⟩
  aliases := []
  ambientTenant := some "acme"
  veto := .never

theorem ofShortIds_tableName :
    ofShortIds.tableName (.of "POST" "/") "orders" =
      .ok Store.ordersOfAcme := by
  have hresolved : (ofShortIds.tableName (.of "POST" "/") "orders").toOption =
      some Store.ordersOfAcme := by decide +kernel
  cases hname : ofShortIds.tableName (.of "POST" "/") "orders" with
  | error e =>
      rw [hname] at hresolved
      cases hresolved
  | ok t =>
      rw [hname] at hresolved
      exact congrArg _ (Option.some.inj hresolved)

/-- Renames the record `a`, to a name that is too long. -/
def renameA : Request :=
  .upsert (some "a") [("uid", .str "abcdefghi")] .empty

/-- The update that the check refuses leaves the row with its identifier. -/
theorem refused_rename_leaves_row :
    ∃ e w', (ofShortIds.serve (.of "PUT" "/") "orders" renameA).runIn
        ⟨⟨[("acme$orders", ⟨2, [(1, [("uid", .str "a")])]⟩)], []⟩,
          Store.stillSupply⟩ =
            (.error e, w') ∧
      List.lookup "acme$orders" w'.state.store =
        some ⟨2, [(1, [("uid", .str "a")])]⟩ ∧
      w'.state.sink = [] := by
  rcases hrun : (ofShortIds.serve (.of "PUT" "/") "orders" renameA).runIn
    ⟨⟨[("acme$orders", ⟨2, [(1, [("uid", .str "a")])]⟩)], []⟩,
      Store.stillSupply⟩ with
    ⟨answer, w'⟩
  have hanswer : answer.toOption.isNone = true := by
    have h : ((ofShortIds.serve (.of "PUT" "/") "orders" renameA).runIn
        ⟨⟨[("acme$orders", ⟨2, [(1, [("uid", .str "a")])]⟩)], []⟩,
          Store.stillSupply⟩).1.toOption.isNone = true := by decide +kernel
    rwa [hrun] at h
  cases answer with
  | ok answered => simp [Except.toOption] at hanswer
  | error e =>
      obtain ⟨htables, hsink⟩ :=
        failed_request_leaves_no_trace (s := Store.shortIds) rfl hrun
      refine ⟨e, w', rfl, ?_, hsink⟩
      rcases htables "acme$orders" with hsame | ⟨t, -, -, hnone, -⟩
      · rw [hsame, List.lookup_cons_self]
      · rw [List.lookup_cons_self] at hnone
        simp at hnone

end Service

end TenantTables
