import TenantTables.Proofs.FailedRequest
import TenantTables.Proofs.PairedRun
import TenantTables.Proofs.PhysicalName

/-!
# Tenants are isolated

A request over the store in memory serves one tenant. It leaves the tables of
every other tenant as they were, and neither its answer nor what it does to the
tenant's own tables, nor the events that it sends, depends on them.

Both are said of two runs side by side, over stores with one set of names in
which they hold the same tables. Outside the set the stores may differ, and what
each of them holds there is fixed from the start: so that the runs stay beside
each other says at once that nothing outside was read and that nothing outside
was written. A unit of work copies tables inside the set only. The set is that
of the physical names of a tenant; the delimiter keeps the sets of two tenants
apart.
-/

namespace TenantTables

open Json (Object)
open TenantTables.Action (Respects Beside)
open Audit (Session Auditor Sink)
open Memory (Store Table Tables Work)

namespace Memory

/-! ## Stores that share tables -/

/-- Stores that hold the same tables under some names, and under all others the
tables that were given for each of them. -/
structure Tables.Share (inside : String → Prop) (x y : String → Option Table)
    (ts us : Tables) : Prop where
  same {n : String} (h : inside n) : ts.lookup n = us.lookup n
  left {n : String} (h : ¬ inside n) : ts.lookup n = x n
  right {n : String} (h : ¬ inside n) : us.lookup n = y n

/-- Stores that hold the same tables of a tenant. -/
def Tables.AgreeOn (tenant : String) (ts us : Tables) : Prop :=
  ∀ n, TableName.IsOfTenant tenant n → ts.lookup n = us.lookup n

variable {inside : String → Prop} {x y : String → Option Table} {s : Store}
  {name : TableName}

namespace Tables.Share

variable {ts us : Tables}

theorem set (h : Share inside x y ts us) {n : String} (hn : inside n)
    (t : Table) :
    Share inside x y (ts.set n t) (us.set n t) where
  same {m} hm := by
    by_cases hmn : m = n
    · rw [hmn, lookup_set_self, lookup_set_self]
    · rw [lookup_set_of_ne hmn, lookup_set_of_ne hmn, h.same hm]
  left {m} hm := by
    have hmn : m ≠ n := fun heq => hm (heq ▸ hn)
    rw [lookup_set_of_ne hmn, h.left hm]
  right {m} hm := by
    have hmn : m ≠ n := fun heq => hm (heq ▸ hn)
    rw [lookup_set_of_ne hmn, h.right hm]

theorem remove (h : Share inside x y ts us) {n : String} (hn : inside n) :
    Share inside x y (ts.filter fun e => e.1 != n)
      (us.filter fun e => e.1 != n) where
  same {m} hm := by
    by_cases hmn : m = n
    · rw [hmn, lookup_remove_self, lookup_remove_self]
    · rw [lookup_remove_of_ne hmn, lookup_remove_of_ne hmn, h.same hm]
  left {m} hm := by
    have hmn : m ≠ n := fun heq => hm (heq ▸ hn)
    rw [lookup_remove_of_ne hmn, h.left hm]
  right {m} hm := by
    have hmn : m ≠ n := fun heq => hm (heq ▸ hn)
    rw [lookup_remove_of_ne hmn, h.right hm]

theorem ensured (h : Share inside x y ts us) {n : String} (hn : inside n) :
    Share inside x y (ts.ensured n) (us.ensured n) := by
  unfold Tables.ensured
  rw [h.same hn]
  cases us.lookup n with
  | some t => exact h
  | none => exact h.set hn .empty

end Tables.Share

theorem respects_tableIn (hn : inside name.physical) :
    Respects (Tables.Share inside x y) (tableIn name) := by
  intro w v hbeside
  have hsame := hbeside.1.same hn
  cases ht : v.state.lookup name.physical with
  | none =>
      rw [tableIn_runIn_of_none (hsame.trans ht), tableIn_runIn_of_none ht]
      exact ⟨rfl, hbeside⟩
  | some t =>
      rw [tableIn_runIn (hsame.trans ht), tableIn_runIn ht]
      exact ⟨rfl, hbeside⟩

/-- A request that reads its table and may put another in its place. -/
theorem respects_replacing {α : Type} (hn : inside name.physical)
    (f : Table → α) (g : Table → Table) :
    Respects (Tables.Share inside x y) (tableIn name >>= fun t =>
      Action.of fun w =>
      (.ok (f t),
        { w with state := Tables.set w.state name.physical (g t) })) :=
  (respects_tableIn hn).bind fun t =>
    Action.respects_change (f := fun ts => Tables.set ts name.physical (g t))
      fun h => h.set hn (g t)

theorem respects_reading {α : Type} (hn : inside name.physical)
    (read : Table → α) :
    Respects (Tables.Share inside x y)
      (tableIn name >>= fun t => pure (read t)) :=
  (respects_tableIn hn).bind fun _ => Action.respects_pure _

theorem Store.respects_paginate (hn : inside name.physical)
    (d : Query.Descriptor) :
    Respects (Tables.Share inside x y) (s.repository.paginate name d) :=
  (respects_tableIn hn).bind fun _ => (Action.respects_lift _).bind fun _ =>
    Action.respects_pure _

theorem Store.respects_selectAll (hn : inside name.physical)
    (f : Query.Filter) (sorts : List Query.SortTerm) :
    Respects (Tables.Share inside x y) (s.repository.selectAll name f sorts) :=
  (respects_tableIn hn).bind fun _ => (Action.respects_lift _).bind fun _ =>
    Action.respects_pure _

theorem Store.respects_ensureTable (hn : inside name.physical) :
    Respects (Tables.Share inside x y) (s.repository.ensureTable name) := by
  intro w v hbeside
  rw [ensureTable_runIn, ensureTable_runIn]
  exact ⟨rfl, hbeside.1.ensured hn, hbeside.2⟩

theorem Store.respects_dropTable (hn : inside name.physical) :
    Respects (Tables.Share inside x y) (s.repository.dropTable name) :=
  Action.respects_change (f := fun ts : Tables => ts.filter fun e =>
    e.1 != name.physical)
    fun h => h.remove hn

/-! ## Units of work over them -/

/-- Units of work over stores that share tables, which have
copied nothing else. -/
structure Work.Share (inside : String → Prop) (x y : String → Option Table)
    (work work' : Work) : Prop where
  tables : Tables.Share inside x y work.tables work'.tables
  copies :
    Tables.Share inside (fun _ => none) (fun _ => none) work.copies work'.copies
  proper : work.Proper
  proper' : work'.Proper

namespace Work.Share

variable {work work' : Work}

theorem start {ts us : Tables} (h : Tables.Share inside x y ts us) :
    Share inside x y ⟨ts, []⟩ ⟨us, []⟩ :=
  ⟨h, ⟨fun _ => rfl, fun _ => rfl, fun _ => rfl⟩, proper_start ts,
    proper_start us⟩

theorem view_eq (h : Share inside x y work work') {n : String} (hn : inside n) :
    work.view n = work'.view n := by
  unfold view
  rw [h.copies.same hn, h.tables.same hn]

theorem hold (h : Share inside x y work work') {n : String} (hn : inside n)
    (t : Table) :
    Share inside x y (work.hold n t) (work'.hold n t) :=
  ⟨h.tables, h.copies.set hn t, h.proper.hold n t, h.proper'.hold n t⟩

/-- The copies are all inside, so the commit puts nothing else in. -/
theorem commit (h : Share inside x y work work') :
    Share inside x y
      { work with
        tables := work.copies.foldl (fun ts e => ts.set e.1 e.2) work.tables }
      { work' with
        tables := work'.copies.foldl (fun ts e => ts.set e.1 e.2)
          work'.tables } where
  tables := {
    same := fun hn => by
      rw [Tables.lookup_foldl_set h.proper, Tables.lookup_foldl_set h.proper',
        h.copies.same hn, h.tables.same hn]
    left := fun hn => by
      rw [Tables.lookup_foldl_set h.proper, h.copies.left hn, h.tables.left hn,
        Option.none_or]
    right := fun hn => by
      rw [Tables.lookup_foldl_set h.proper', h.copies.right hn,
        h.tables.right hn, Option.none_or] }
  copies := h.copies
  proper := h.proper
  proper' := h.proper'

end Work.Share

theorem respects_copyOf (hn : inside name.physical) :
    Respects (Work.Share inside x y) (copyOf name) := by
  intro w v hbeside
  have hview := hbeside.1.view_eq hn
  cases ht : v.state.view name.physical with
  | none =>
      rw [copyOf_runIn_of_none (hview.trans ht), copyOf_runIn_of_none ht]
      exact ⟨rfl, hbeside⟩
  | some t =>
      rw [copyOf_runIn (hview.trans ht), copyOf_runIn ht]
      exact ⟨rfl, hbeside.1.hold hn t, hbeside.2⟩

theorem respects_putCopy (hn : inside name.physical) (t : Table) :
    Respects (Work.Share inside x y) (putCopy name t) := by
  intro w v hbeside
  rw [putCopy_runIn, putCopy_runIn]
  exact ⟨rfl, hbeside.1.hold hn t, hbeside.2⟩

theorem Store.respects_write (hn : inside name.physical) (id : Option Int)
    (r : Record) :
    Respects (Work.Share inside x y) (s.write name id r) := by
  refine (respects_copyOf hn).bind fun t =>
    Action.respects_now.bind fun now => ?_
  refine (Action.respects_lift _).bind fun written => ?_
  exact (respects_putCopy hn _).bind fun _ => Action.respects_pure _

theorem Store.respectsOn_transaction (hn : inside name.physical) :
    s.transaction.RespectsOn name (Work.Share inside x y) where
  find field value := (respects_copyOf hn).bind fun _ => Action.respects_pure _
  insert r := respects_write hn none r
  update r := by
    simp only [Store.transaction]
    cases r.id with
    | none => exact Action.respects_lift _
    | some id => exact respects_write hn (some id) r
  delete r := by
    refine (respects_copyOf hn).bind fun t => ?_
    cases r.id with
    | none => exact Action.respects_pure _
    | some id => exact respects_putCopy hn _
  commit := Action.respects_change
    (f := fun work : Work =>
      { work with
        tables := work.copies.foldl (fun ts e => ts.set e.1 e.2) work.tables })
    Work.Share.commit
  rollback := Action.respects_pure _

end Memory

/-! ## Requests -/

namespace Service

variable {κ : Type} {svc : Service Tables Work κ} {s : Store}
  {ctx : RequestContext} {table : String} {t : TableName}

/-- States of services whose stores share tables, with the same events sent
since two states of the sink. -/
structure Share (inside : String → Prop) (x y : String → Option Table)
    (sink : Sink κ) (k k' : κ)
    (state state' : ServiceState Tables κ) : Prop where
  store : Tables.Share inside x y state.store state'.store
  sent : sink.GotSame k k' state.sink state'.sink

variable {inside : String → Prop} {x y : String → Option Table} {k k' : κ}

theorem respects_onStore {α : Type} {a : Action Tables α}
    (h : Respects (Tables.Share inside x y) a) :
    Respects (Share inside x y svc.sink k k') (onStore (κ := κ) a) :=
  h.zoom (fun hs => hs.store) fun hs hstore => ⟨hstore, hs.sent⟩

theorem respects_inWork (hs : svc.repository = s.repository) {α : Type}
    {body : Action (Session Work κ) α}
    (h : Respects (Session.Beside (Work.Share inside x y) svc.sink k k') body) :
    Respects (Share inside x y svc.sink k k') (svc.inWork body) := by
  intro w v hbeside
  obtain ⟨hstate, hsupply⟩ := hbeside
  rcases hw : body.runIn ⟨⟨⟨w.state.store, []⟩, [], w.state.sink⟩, w.supply⟩
    with ⟨r, w'⟩
  rcases hv : body.runIn ⟨⟨⟨v.state.store, []⟩, [], v.state.sink⟩, v.supply⟩
    with ⟨r', v'⟩
  have hbody := h
    ⟨⟨⟨w.state.store, []⟩, [], w.state.sink⟩, w.supply⟩
    ⟨⟨⟨v.state.store, []⟩, [], v.state.sink⟩, v.supply⟩
    ⟨⟨.start hstate.store, rfl, hstate.sent⟩, hsupply⟩
  rw [hw, hv] at hbody
  obtain ⟨hanswer, hsession, hsupply'⟩ := hbody
  rw [inWork_runIn hs hw, inWork_runIn hs hv]
  exact ⟨hanswer, ⟨hsession.work.tables, hsession.sent⟩, hsupply'⟩

theorem tenant_of_tableName_ok {a : String}
    (ha : ctx.tenant.or svc.ambientTenant = some a)
    (ht : svc.tableName ctx table = .ok t) : t.tenant = slug a := by
  unfold tableName at ht
  cases hname : validateTableName table svc.config.reservedTables with
  | error e =>
      rw [hname] at ht
      simp [bind, Except.bind] at ht
  | ok u =>
      rw [hname] at ht
      exact TableName.tenant_of_resolve_ok ha ht

/-- The table that a request is about is inside. -/
def Inside (svc : Service Tables Work κ) (ctx : RequestContext) (table : String)
    (inside : String → Prop) : Prop :=
  ∀ t, svc.tableName ctx table = .ok t → inside t.physical

theorem respects_openTable (hs : svc.repository = s.repository)
    (hin : svc.Inside ctx table inside) {α : Type}
    {f : TableName → Op Tables κ α}
    (hf : ∀ t, inside t.physical →
      Respects (Share inside x y svc.sink k k') (f t)) :
    Respects (Share inside x y svc.sink k k')
      (svc.openTable ctx table >>= f) := by
  unfold openTable
  rw [bind_assoc]
  refine Action.respects_lift_bind fun t ht => ?_
  have hn := hin t ht
  rw [hs, bind_assoc]
  refine (respects_onStore (Store.respects_ensureTable hn)).bind fun _ => ?_
  rw [pure_bind]
  exact hf t hn

theorem respects_list (hs : svc.repository = s.repository)
    (hin : svc.Inside ctx table inside) (params : Query.Params) :
    Respects (Share inside x y svc.sink k k') (svc.list ctx table params) := by
  refine respects_openTable hs hin fun t hn => ?_
  rw [hs]
  dsimp only
  split
  · exact (respects_onStore (Memory.respects_replacing hn _ _)).bind fun _ =>
      Action.respects_pure _
  · exact (respects_onStore (Memory.Store.respects_paginate hn _)).bind fun _ =>
      Action.respects_pure _

theorem respects_retrieve (hs : svc.repository = s.repository)
    (hin : svc.Inside ctx table inside) (id : String) :
    Respects (Share inside x y svc.sink k k') (svc.retrieve ctx table id) := by
  refine respects_openTable hs hin fun t hn => ?_
  rw [hs]
  refine (respects_onStore (Memory.respects_reading hn _)).bind fun found => ?_
  cases found with
  | some r => exact Action.respects_pure r
  | none => exact Action.respects_lift _

/-- The audited calls of a unit of work on the table that a request is about. -/
theorem respectsOn_audited (hn : inside t.physical) :
    ((svc.auditor ctx).wrap svc.sink s.transaction).RespectsOn t
      (Session.Beside (Work.Share inside x y) svc.sink k k') :=
  Auditor.respectsOn_wrap _ (Store.respectsOn_transaction hn)

section Saving

variable {τ : Type} {tx : Transaction (Session τ κ)}
  {R : Session τ κ → Session τ κ → Prop}

theorem respects_saveChanges (h : tx.RespectsOn t R) (r : Record) :
    Respects R (saveChanges tx t r) := by
  unfold saveChanges
  split
  · exact h.update r
  · exact Action.respects_pure r

theorem respects_saveNew (h : tx.RespectsOn t R) (spec : TableSpec)
    (id : Option String) (attributes : Object) :
    Respects R (saveNew tx spec t id attributes) :=
  (Action.respects_drawing _).bind fun _ => h.insert _

end Saving

theorem respects_upsert (hs : svc.repository = s.repository)
    (hin : svc.Inside ctx table inside) (id : Option String) (inputs : Object)
    (rules : FieldRules) :
    Respects (Share inside x y svc.sink k k')
      (svc.upsert ctx table id inputs rules) := by
  refine (Action.respects_lift _).bind fun _ =>
    respects_openTable hs hin fun t hn => ?_
  refine respects_inWork hs ?_
  rw [hs]
  have htx : ((svc.auditor ctx).wrap svc.sink s.transaction).RespectsOn t
      (Session.Beside (Work.Share inside x y) svc.sink k k') :=
        respectsOn_audited hn
  -- Both ways of storing a record end in the commit.
  have hcommit :=
    fun r => htx.commit.bind fun _ => Action.respects_pure (α := Record) r
  have hnew := (respects_saveNew htx s.repository.spec id
    (s.repository.spec.fillable (Path.undot inputs))).bind hcommit
  cases id with
  | none => exact hnew
  | some id =>
      refine (htx.find _ id).bind fun found => ?_
      cases found with
      | some r => exact (respects_saveChanges htx _).bind hcommit
      | none => exact hnew

theorem respects_delete (hs : svc.repository = s.repository)
    (hin : svc.Inside ctx table inside) (id : String) :
    Respects (Share inside x y svc.sink k k') (svc.delete ctx table id) := by
  refine respects_openTable hs hin fun t hn => respects_inWork hs ?_
  rw [hs]
  have htx : ((svc.auditor ctx).wrap svc.sink s.transaction).RespectsOn t
      (Session.Beside (Work.Share inside x y) svc.sink k k') :=
        respectsOn_audited hn
  refine (htx.find _ id).bind fun found => ?_
  cases found with
  | none => exact htx.rollback.bind fun _ => Action.respects_lift _
  | some r => exact (htx.delete r).bind fun _ => htx.commit.bind fun _ =>
      Action.respects_pure r

theorem respects_reportImport (t : TableName) (importId : String)
    (summary : Import.Summary) :
    Respects (Share inside x y svc.sink k k')
      (svc.reportImport ctx t importId summary) := by
  unfold reportImport
  dsimp only
  split
  · refine Action.respects_now.bind fun created =>
      Action.respects_now.bind fun now => ?_
    exact Action.respects_change
      (f := fun state : ServiceState Tables κ => { state with
        sink := svc.sink.writeAll [(svc.auditor ctx).dayEvent t .import_
          (importReport importId summary) created now] state.sink })
      fun h => ⟨h.store, h.sent.writeAll _⟩
  · exact Action.respects_pure ()

theorem respects_importCsv (hs : svc.repository = s.repository)
    (hin : svc.Inside ctx table inside) (bytes : List UInt8)
    (rules : FieldRules) :
    Respects (Share inside x y svc.sink k k')
      (svc.importCsv ctx table bytes rules) := by
  refine respects_openTable hs hin fun t hn => ?_
  refine Action.respects_fresh.bind fun importId => ?_
  refine (Action.respects_lift _).bind fun rows => ?_
  rw [hs]
  have hreconcile := Import.Plan.respects_reconcile
    (p := ⟨s.repository.transaction, s.repository.spec, t, svc.veto⟩)
    (Store.respectsOn_transaction (x := x) (y := y) hn) rows
  refine (respects_inWork hs (Session.respects_onWork hreconcile)).bind
    fun summary => ?_
  exact (respects_reportImport t importId summary).bind fun _ =>
    Action.respects_pure _

theorem respects_exportTable (hs : svc.repository = s.repository)
    (hin : svc.Inside ctx table inside) (params : Query.Params)
    (headings : Option (List String)) :
    Respects (Share inside x y svc.sink k k')
      (svc.exportTable ctx table params headings) := by
  refine respects_openTable hs hin fun t hn => ?_
  rw [hs]
  refine (respects_onStore (Memory.Store.respects_selectAll hn _ _)).bind
    fun records => ?_
  exact Action.respects_now.bind fun now => Action.respects_pure _

theorem respects_truncate (hs : svc.repository = s.repository)
    (hin : svc.Inside ctx table inside) :
    Respects (Share inside x y svc.sink k k') (svc.truncate ctx table) := by
  refine respects_openTable hs hin fun t hn => ?_
  rw [hs]
  exact respects_onStore (Memory.respects_replacing hn _ _)

theorem respects_drop (hs : svc.repository = s.repository)
    (hin : svc.Inside ctx table inside) :
    Respects (Share inside x y svc.sink k k') (svc.drop ctx table) := by
  refine Action.respects_lift_bind fun t ht => ?_
  rw [hs]
  exact respects_onStore (Store.respects_dropTable (hin t ht))

theorem respects_serve (hs : svc.repository = s.repository)
    (hin : svc.Inside ctx table inside) (request : Request) :
    Respects (Share inside x y svc.sink k k')
      (svc.serve ctx table request) := by
  cases request with
  | list params => exact (respects_list hs hin params).bind fun _ =>
      Action.respects_pure _
  | retrieve id => exact (respects_retrieve hs hin id).bind fun _ =>
      Action.respects_pure _
  | create inputs rules =>
      exact (respects_upsert hs hin none inputs rules).bind fun _ =>
        Action.respects_pure _
  | upsert id inputs rules =>
      exact (respects_upsert hs hin id inputs rules).bind fun _ =>
        Action.respects_pure _
  | delete id => exact (respects_delete hs hin id).bind fun _ =>
      Action.respects_pure _
  | importCsv bytes rules =>
      exact (respects_importCsv hs hin bytes rules).bind fun _ =>
        Action.respects_pure _
  | importFile file rules =>
      refine Respects.bind ?_ fun _ => Action.respects_pure _
      cases file with
      | some bytes => exact respects_importCsv hs hin bytes rules
      | none => exact Action.respects_lift _
  | exportTable params headings =>
      exact (respects_exportTable hs hin params headings).bind fun _ =>
        Action.respects_pure _
  | truncate => exact (respects_truncate hs hin).bind fun _ =>
      Action.respects_pure _
  | drop => exact (respects_drop hs hin).bind fun _ => Action.respects_pure _

/-- A request that a tenant makes leaves the tables of every other tenant as
they were. From stores that agree on the tenant's own tables, and with the clock
and the fresh identifiers given, it answers the same, makes the same of the
tenant's tables, and sends the same events. -/
theorem requests_are_confined_to_their_tenant
    (hs : svc.repository = s.repository) {a b : String}
    (ha : ctx.tenant.or svc.ambientTenant = some a) (hab : slug a ≠ slug b)
    {request : Request} {w v w' v' : World (ServiceState Tables κ)}
    {r r' : Except Error Answer}
    (hagree : Tables.AgreeOn a w.state.store v.state.store)
    (hsupply : w.supply = v.supply)
    (hw : (svc.serve ctx table request).runIn w = (r, w'))
    (hv : (svc.serve ctx table request).runIn v = (r', v')) :
    Tables.AgreeOn b w'.state.store w.state.store ∧
    r = r' ∧ Tables.AgreeOn a w'.state.store v'.state.store ∧
    w'.supply = v'.supply ∧
    svc.sink.GotSame w.state.sink v.state.sink w'.state.sink v'.state.sink := by
  have hin : svc.Inside ctx table (TableName.IsOfTenant a) := fun t ht =>
    ⟨t, tenant_of_tableName_ok ha ht, rfl⟩
  have hbeside : Beside (Share (TableName.IsOfTenant a) (w.state.store.lookup ·)
      (v.state.store.lookup ·) svc.sink w.state.sink v.state.sink) w v :=
    ⟨⟨⟨hagree _, fun _ => rfl, fun _ => rfl⟩, svc.sink.gotSame_refl _ _⟩,
      hsupply⟩
  have hbehind := respects_serve hs hin request w v hbeside
  rw [hw, hv] at hbehind
  obtain ⟨hanswer, hstate, hsupply'⟩ := hbehind
  exact ⟨fun n hn => hstate.store.left (hn.not_other hab), hanswer,
    fun n hn => hstate.store.same hn, hsupply', hstate.sent⟩

/-- Orders with the one identifier `a`. -/
def orderA : Table := ⟨2, [(1, [("uid", .str "a")])]⟩

/-- Two tenants that each have an order `a`. -/
def bothTenants : World (ServiceState Tables (List Audit.Event)) :=
  ⟨⟨[("acme$orders", orderA), ("globex$orders", orderA)], []⟩,
    Store.stillSupply⟩

/-- The one of them alone. -/
def acmeAlone : World (ServiceState Tables (List Audit.Event)) :=
  ⟨⟨[("acme$orders", orderA)], []⟩, Store.stillSupply⟩

/-- One tenant deletes its order `a`, and the other's stays. Without the other
tenant the deletion goes the same way. -/
theorem order_of_another_tenant_stays :
    ∃ r w' v',
      (ofShortIds.serve (.of "DELETE" "/") "orders" (.delete "a")).runIn
        bothTenants = (r, w') ∧
      (ofShortIds.serve (.of "DELETE" "/") "orders" (.delete "a")).runIn
        acmeAlone = (r, v') ∧
      r.toOption.isSome = true ∧ slug "acme" ≠ slug "globex" ∧
      List.lookup "globex$orders" w'.state.store = some orderA ∧
      List.lookup "acme$orders" w'.state.store =
        List.lookup "acme$orders" v'.state.store ∧
      w'.state.sink = v'.state.sink := by
  rcases hw : (ofShortIds.serve (.of "DELETE" "/") "orders" (.delete "a")).runIn
    bothTenants with ⟨r, w'⟩
  rcases hv : (ofShortIds.serve (.of "DELETE" "/") "orders" (.delete "a")).runIn
    acmeAlone with ⟨r', v'⟩
  have hok : r.toOption.isSome = true := by
    have h : ((ofShortIds.serve (.of "DELETE" "/") "orders" (.delete "a")).runIn
        bothTenants).1.toOption.isSome = true := by decide +kernel
    rwa [hw] at h
  have hslugs : slug "acme" ≠ slug "globex" := by decide +kernel
  have hacme : TableName.IsOfTenant "acme" "acme$orders" :=
    ⟨Store.ordersOfAcme, by decide +kernel, by decide⟩
  have hglobex : TableName.IsOfTenant "globex" "globex$orders" :=
    ⟨⟨"globex", "orders", by decide, by decide⟩, by decide +kernel, by decide⟩
  have hagree :
      Tables.AgreeOn "acme" bothTenants.state.store acmeAlone.state.store := by
    intro n hn
    have hother : n ≠ "globex$orders" :=
      fun h => hglobex.not_other hslugs (h ▸ hn)
    simp [bothTenants, acmeAlone, List.lookup_cons, beq_false_of_ne hother]
  have hsupply : bothTenants.supply = acmeAlone.supply := rfl
  obtain ⟨hkept, rfl, hsame, -, events, hsent, hsent'⟩ :=
    requests_are_confined_to_their_tenant (s := Store.shortIds) rfl rfl hslugs
      hagree hsupply hw hv
  exact ⟨r, w', v', rfl, rfl, hok, hslugs, hkept _ hglobex, hsame _ hacme,
    hsent.trans hsent'.symm⟩

end Service

end TenantTables
