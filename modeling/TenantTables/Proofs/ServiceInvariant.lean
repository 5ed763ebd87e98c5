import TenantTables.Proofs.FailedRequest

/-!
# What a service maintains about its tables

A property of single tables that a new table has, that survives the loss of rows
and, if the request writes rows, that survives a checked write to the target, is
maintained by the request: if all tables have it before, all have it behind,
however the request ends.

Two uses are made of this. Being well formed survives every write, so all tables
of a service are well formed in every state that requests lead to. And what the
rows of a table do not have, no request gives them but one that writes rows, to
this table.

The property is carried through a unit of work for the tables it sees and those
it started from at once, since a unit of work may be given up at any call. What
a search has found matters only in that the surrogate key is no attribute of it.
-/

namespace TenantTables

open Json (Object)
open Audit (Session Auditor Sink Act)
open Memory (Store Table Tables Work)

namespace Action

variable {σ τ α β : Type} {I : σ → Prop} {J : τ → Prop}

/-- Runs from states of an invariant end in states of it. -/
def Maintains (I : σ → Prop) (a : Action σ α) : Prop :=
  ∀ w, I w.state → I (a.runIn w).2.state

/-- Some run answers this. -/
def Answers (a : Action σ α) (x : α) : Prop :=
  ∃ w w', a.runIn w = (.ok x, w')

theorem Keeps.maintains {a : Action σ α} (h : Keeps id a) : Maintains I a := by
  intro w hw
  have hkept : (a.runIn w).2.state = w.state := h w
  rw [hkept]
  exact hw

theorem maintains_pure (x : α) : Maintains I (pure x : Action σ α) :=
  fun _ h => h

theorem maintains_drawing (f : Supply → α × Supply) :
    Maintains I (drawing f : Action σ α) :=
  fun _ h => h

theorem maintains_lift (r : Except Error α) :
    Maintains I (lift r : Action σ α) :=
  fun _ h => h

theorem Maintains.bind {a : Action σ α} {k : α → Action σ β}
    (ha : Maintains I a) (hk : ∀ x, Answers a x → Maintains I (k x)) :
    Maintains I (a >>= k) := by
  intro w hw
  have hbehind := ha w hw
  rcases hrun : a.runIn w with ⟨r, w'⟩
  rw [hrun] at hbehind
  cases r with
  | error e =>
      rw [runIn_bind_error hrun]
      exact hbehind
  | ok x =>
      rw [runIn_bind_ok hrun]
      exact hk x ⟨w, w', hrun⟩ w' hbehind

theorem Maintains.bind_pure {a : Action σ α} (ha : Maintains I a) (f : α → β) :
    Maintains I (a >>= fun x => pure (f x)) :=
  ha.bind fun x _ => maintains_pure (f x)

theorem Maintains.attempt {a : Action σ α} (h : Maintains I a) :
    Maintains I a.attempt :=
  fun w hw => h w hw

theorem Maintains.zoom {a : Action τ α} (h : Maintains J a) {get : σ → τ}
    {set : σ → τ → σ} (hget : ∀ s, I s → J (get s))
    (hset : ∀ s p, I s → J p → I (set s p)) :
    Maintains I (a.zoom get set) := by
  intro w hw
  rw [runIn_zoom]
  exact hset _ _ hw (h ⟨get w.state, w.supply⟩ (hget _ hw))

end Action

open TenantTables.Action (Maintains Answers)

/-! ## Units of work -/

/-- The calls on a table that write no rows maintain an invariant. -/
structure Transaction.Spares {τ : Type} (tx : Transaction τ) (t : TableName)
    (I : τ → Prop) :
    Prop where
  find (field value : String) : Maintains I (tx.find t field value)
  delete (r : Record) : Maintains I (tx.delete t r)
  commit : Maintains I tx.commit
  rollback : Maintains I tx.rollback

/-- All calls on a table do, if records come without the surrogate key. -/
structure Transaction.Saves {τ : Type} (tx : Transaction τ) (t : TableName)
    (I : τ → Prop) :
    Prop extends tx.Spares t I where
  found {field value : String} {r : Record}
    (h : Answers (tx.find t field value) (some r)) :
    idColumn ∉ r.attributes.keys
  insert {r : Record} (h : idColumn ∉ r.attributes.keys) :
    Maintains I (tx.insert t r)
  update {r : Record} (h : idColumn ∉ r.attributes.keys) :
    Maintains I (tx.update t r)

namespace Memory

variable {P : String → Table → Prop} {s : Store} {name : TableName}

namespace Store

theorem maintains_copyOf (name : TableName) :
    Maintains (Work.Everywhere P) (copyOf name) := by
  intro w hw
  cases h : w.state.view name.physical with
  | none =>
      rw [copyOf_runIn_of_none h]
      exact hw
  | some t =>
      rw [copyOf_runIn h]
      exact hw.hold (hw.view _ _ h)

theorem spares_transaction (hP : Hereditary P) (s : Store) (name : TableName) :
    s.transaction.Spares name (Work.Everywhere P) where
  find field value := (maintains_copyOf name).bind_pure _
  delete r := by
    intro w hw
    simp only [transaction]
    cases h : w.state.view name.physical with
    | none =>
        rw [Action.runIn_bind_error (copyOf_runIn_of_none h)]
        exact hw
    | some t =>
        rw [Action.runIn_bind_ok (copyOf_runIn h)]
        have hcopied := hw.hold (hw.view _ _ h)
        cases r.id with
        | none => exact hcopied
        | some id =>
            exact hcopied.hold (hP.sublist (hw.view _ _ h) List.filter_sublist)
  commit := by
    intro w hw
    have hview : ∀ n, (s.transaction.commit.runIn w).2.state.tables.lookup n =
        w.state.view n :=
      fun n => Tables.lookup_foldl_set hw.proper w.state.tables n
    refine ⟨fun n t ht => ?_, fun n t ht =>
      hw.view n t ((hview n).symm.trans ht), hw.proper⟩
    refine hw.view n t ?_
    rw [← ht]
    show _ = (w.state.copies.lookup n).or _
    rw [hview, Work.view]
    cases w.state.copies.lookup n <;> rfl
  rollback := Action.maintains_pure ()

theorem saves_transaction (hP : Hereditary P)
    (hkeep : s.WritesKeep P name.physical) :
    s.transaction.Saves name (Work.Everywhere P) where
  toSpares := spares_transaction hP s name
  found {field value r} h := by
    obtain ⟨w, w', hrun⟩ := h
    obtain ⟨t, w₁, -, hfind⟩ := Action.ok_of_runIn_bind hrun
    simp only [Action.runIn_pure, Prod.mk.injEq, Except.ok.injEq] at hfind
    obtain ⟨e, -, rfl⟩ := Option.map_eq_some_iff.1 hfind.1
    exact Record.id_not_mem_withoutId _
  insert {r} hr w hw := hw.becomes hP hkeep hr (insert_becomes s name r w)
  update {r} hr w hw := hw.becomes hP hkeep hr (update_becomes s name r w)

end Store

end Memory

/-! ## Imports -/

namespace Import.Plan

variable {τ : Type} {p : Plan τ} {I : τ → Prop}

theorem maintains_enter (hp : p.transaction.Saves p.table I) (row : Row) :
    Maintains I (p.enter row) := by
  have hexisting : Maintains I (p.existing (row.id? p.spec.idField)) := by
    unfold existing
    split
    · exact hp.find _ _
    · exact Action.maintains_pure _
  refine hexisting.bind fun found hfound => ?_
  split
  · exact Action.maintains_pure _
  · cases found with
    | some r =>
        have hr : idColumn ∉ r.attributes.keys := by
          unfold existing at hfound
          split at hfound
          · exact hp.found hfound
          · obtain ⟨w, w', hrun⟩ := hfound
            cases hrun
        have hrevised : idColumn ∉ (p.revised row r).attributes.keys :=
          Record.id_not_mem_fill (show idColumn ∉ r.withoutAudit.attributes.keys
            from hr) _
        exact (hp.update hrevised).bind_pure _
    | none =>
        refine (Action.maintains_drawing _).bind fun attributes _ => ?_
        exact (hp.insert (Record.id_not_mem_withoutId attributes)).bind_pure _

theorem maintains_applyRows (hp : p.transaction.Saves p.table I)
    (rows : List Row) (summary : Summary) :
    Maintains I (p.applyRows rows summary) := by
  induction rows generalizing summary with
  | nil => exact Action.maintains_pure _
  | cons row rows ih =>
      have happly : Maintains I (p.applyRow row summary) := by
        rw [applyRow_eq]
        exact (maintains_enter hp row).bind_pure _
      refine happly.attempt.bind fun answer _ => ?_
      cases answer with
      | ok summary => exact ih summary
      | error e => exact hp.rollback.attempt.bind fun _ _ =>
          Action.maintains_lift _

theorem maintains_reconcile (hp : p.transaction.Saves p.table I)
    (rows : List Row) :
    Maintains I (p.reconcile rows) :=
  (maintains_applyRows hp rows _).bind fun _ _ => hp.commit.bind_pure _

end Import.Plan

/-! ## Audited units of work -/

namespace Audit

variable {τ κ : Type} {I : τ → Prop} {tx : Transaction τ} {t : TableName}

/-- A session whose unit of work is in a state of the invariant. -/
def Session.Within (I : τ → Prop) (session : Session τ κ) : Prop :=
  I session.work

theorem Session.maintains_onWork {α : Type} {a : Action τ α}
    (h : Maintains I a) :
    Maintains (Session.Within (κ := κ) I) (Session.onWork a) :=
  h.zoom (fun _ hs => hs) fun _ _ _ hp => hp

namespace Auditor

variable (auditor : Auditor) (sink : Sink κ)

theorem maintains_queue (t : TableName) (act : Act) (r : Record)
    (log : List Change) :
    Maintains (Session.Within (κ := κ) I) (auditor.queue t act r log) := by
  unfold queue
  split
  · refine (Action.maintains_drawing Supply.now).bind fun now _ => ?_
    cases auditor.recordEvent? t act r log now with
    | none => exact Action.maintains_pure _
    | some e => exact fun _ h => h
  · exact Action.maintains_pure _

theorem spares_wrap (h : tx.Spares t I) :
    (auditor.wrap sink tx).Spares t (Session.Within I) where
  find field value := Session.maintains_onWork (h.find field value)
  delete r :=
    (Session.maintains_onWork (h.delete r)).bind fun _ _ =>
      auditor.maintains_queue t .delete r []
  commit := (Session.maintains_onWork h.commit).bind fun _ _ => fun _ hw => hw
  rollback := Session.maintains_onWork h.rollback

theorem saves_wrap (h : tx.Saves t I) :
    (auditor.wrap sink tx).Saves t (Session.Within I) where
  toSpares := auditor.spares_wrap sink h.toSpares
  found {field value r} hfound := by
    obtain ⟨w, w', hrun⟩ := hfound
    simp only [wrap, Session.onWork, Action.runIn_zoom, Prod.mk.injEq] at hrun
    exact h.found ⟨⟨w.state.work, w.supply⟩, _, Prod.ext hrun.1 rfl⟩
  insert hr := by
    refine (Session.maintains_onWork (h.insert hr)).bind fun stored _ => ?_
    exact (auditor.maintains_queue t .create stored []).bind_pure _
  update {r} hr := by
    refine (Session.maintains_onWork (h.update hr)).bind fun stored _ => ?_
    split
    · exact Action.maintains_pure _
    · exact (auditor.maintains_queue t .update stored r.changes).bind_pure _

end Auditor

end Audit

/-! ## Requests -/

namespace Service

/-- Whether a request may write rows. -/
def Request.writes : Request → Bool
  | .create .. | .upsert .. | .importCsv .. | .importFile .. => true
  | _ => false

variable {κ : Type} {svc : Service Tables Work κ} {s : Store}
  {ctx : RequestContext} {table : String} {P : String → Table → Prop}

/-- A state of a service all of whose tables have the property. -/
def Within (P : String → Table → Prop) (state : ServiceState Tables κ) : Prop :=
  state.store.Everywhere P

theorem maintains_onStore {α : Type} {a : Action Tables α}
    (h : Maintains (Tables.Everywhere P) a) :
    Maintains (Within (κ := κ) P) (onStore a) :=
  h.zoom (fun _ hs => hs) fun _ _ _ hp => hp

theorem maintains_inWork (hs : svc.repository = s.repository) {α : Type}
    {body : Action (Session Work κ) α}
    (h : Maintains (Session.Within (Work.Everywhere P)) body) :
    Maintains (Within P) (svc.inWork body) := by
  intro w hw
  have hstart : Work.Everywhere P ⟨w.state.store, []⟩ :=
    ⟨fun n t ht => hw n t (by simpa using ht), hw, Work.proper_start _⟩
  have hbody := h ⟨⟨⟨w.state.store, []⟩, [], w.state.sink⟩, w.supply⟩ hstart
  rcases hrun : body.runIn ⟨⟨⟨w.state.store, []⟩, [], w.state.sink⟩, w.supply⟩
    with ⟨r, inner⟩
  rw [hrun] at hbody
  rw [inWork_runIn hs hrun]
  exact hbody.start

theorem maintains_openTable (hs : svc.repository = s.repository)
    (hP : Memory.Hereditary P) {α : Type} {k : TableName → Op Tables κ α}
    (hk : ∀ t, svc.tableName ctx table = .ok t → Maintains (Within P) (k t)) :
    Maintains (Within P) (svc.openTable ctx table >>= k) := by
  intro w hw
  cases ht : svc.tableName ctx table with
  | error e =>
      rw [Action.runIn_bind_error (openTable_runIn_error ht w)]
      exact hw
  | ok t =>
      rw [Action.runIn_bind_ok (openTable_runIn hs ht w)]
      exact hk t ht _ (Tables.Everywhere.ensured hw hP t.physical)

theorem maintains_upsert (hs : svc.repository = s.repository)
    (hP : Memory.Hereditary P)
    (hkeep : ∀ t, svc.tableName ctx table = .ok t → s.WritesKeep P t.physical)
    (id : Option String) (inputs : Object) (rules : FieldRules) :
    Maintains (Within P) (svc.upsert ctx table id inputs rules) := by
  refine (Action.maintains_lift _).bind fun _ _ =>
    maintains_openTable hs hP fun t ht => ?_
  refine maintains_inWork hs ?_
  rw [hs]
  have htx : ((svc.auditor ctx).wrap svc.sink s.transaction).Saves t
      (Session.Within (Work.Everywhere P)) :=
    Auditor.saves_wrap _ _ (Store.saves_transaction hP (hkeep t ht))
  have hnew : Maintains (Session.Within (Work.Everywhere P))
      (saveNew ((svc.auditor ctx).wrap svc.sink s.transaction)
        s.repository.spec t id
        (s.repository.spec.fillable (Path.undot inputs))) :=
    (Action.maintains_drawing _).bind fun attributes _ =>
      htx.insert (Record.id_not_mem_withoutId attributes)
  cases id with
  | none => exact hnew.bind fun r _ => htx.commit.bind_pure _
  | some id =>
      refine (htx.find _ id).bind fun found hfound => ?_
      cases found with
      | none => exact hnew.bind fun r _ => htx.commit.bind_pure _
      | some r =>
          refine Maintains.bind ?_ fun r _ => htx.commit.bind_pure _
          unfold saveChanges
          split
          · exact htx.update (Record.id_not_mem_fill (htx.found hfound) _)
          · exact Action.maintains_pure _

theorem maintains_delete (hs : svc.repository = s.repository)
    (hP : Memory.Hereditary P) (id : String) :
    Maintains (Within P) (svc.delete ctx table id) := by
  refine maintains_openTable hs hP fun t _ => maintains_inWork hs ?_
  rw [hs]
  have htx : ((svc.auditor ctx).wrap svc.sink s.transaction).Spares t
      (Session.Within (Work.Everywhere P)) :=
    Auditor.spares_wrap _ _ (Store.spares_transaction hP s t)
  refine (htx.find _ id).bind fun found _ => ?_
  cases found with
  | none => exact htx.rollback.bind fun _ _ => Action.maintains_lift _
  | some r => exact (htx.delete r).bind fun _ _ => htx.commit.bind_pure _

theorem maintains_importCsv (hs : svc.repository = s.repository)
    (hP : Memory.Hereditary P)
    (hkeep : ∀ t, svc.tableName ctx table = .ok t → s.WritesKeep P t.physical)
    (bytes : List UInt8) (rules : FieldRules) :
    Maintains (Within P) (svc.importCsv ctx table bytes rules) := by
  refine maintains_openTable hs hP fun t ht => ?_
  refine (Action.maintains_drawing Supply.fresh).bind fun importId _ => ?_
  refine (Action.maintains_lift _).bind fun rows _ => ?_
  rw [hs]
  refine (maintains_inWork hs (Session.maintains_onWork
    (Import.Plan.maintains_reconcile (Store.saves_transaction hP (hkeep t ht))
      rows))).bind
      fun summary _ => ?_
  have hreport :
      Maintains (Within P) (svc.reportImport ctx t importId summary) := by
    unfold reportImport
    dsimp only
    split
    · exact fun _ hw => hw
    · exact Action.maintains_pure _
  exact hreport.bind_pure _

theorem maintains_list (hs : svc.repository = s.repository)
    (hP : Memory.Hereditary P) (params : Query.Params) :
    Maintains (Within P) (svc.list ctx table params) := by
  refine maintains_openTable hs hP fun t _ => ?_
  rw [hs]
  dsimp only
  split
  · refine (maintains_onStore ?_).bind_pure _
    intro w hw
    cases h : w.state.lookup t.physical with
    | none =>
        rw [Store.deleteWhere_runIn_of_none h]
        exact hw
    | some u =>
        rw [Store.deleteWhere_runIn h]
        exact hw.set (hP.sublist (hw _ _ h) List.filter_sublist)
  · exact (keeps_onStore (Store.keeps_paginate t _)).maintains.bind_pure _

theorem maintains_truncate (hs : svc.repository = s.repository)
    (hP : Memory.Hereditary P) :
    Maintains (Within P) (svc.truncate ctx table) := by
  refine maintains_openTable hs hP fun t _ => ?_
  rw [hs]
  refine maintains_onStore fun w hw => ?_
  cases h : w.state.lookup t.physical with
  | none =>
      rw [Store.truncate_runIn_of_none h]
      exact hw
  | some u =>
      rw [Store.truncate_runIn h]
      exact hw.set (hP.empty _)

theorem maintains_drop (hs : svc.repository = s.repository) :
    Maintains (Within P) (svc.drop ctx table) := by
  refine (Action.maintains_lift _).bind fun t _ => ?_
  rw [hs]
  refine maintains_onStore fun w hw => ?_
  intro n u hu
  by_cases hn : n = t.physical
  · subst hn
    exact absurd ((Tables.lookup_remove_self _ _).symm.trans hu) (by simp)
  · exact hw n u ((Tables.lookup_remove_of_ne hn _).symm.trans hu)

theorem maintains_retrieve (hs : svc.repository = s.repository)
    (hP : Memory.Hereditary P) (id : String) :
    Maintains (Within P) (svc.retrieve ctx table id) := by
  refine maintains_openTable hs hP fun t _ => ?_
  rw [hs]
  refine (keeps_onStore (Store.keeps_reading t _)).maintains.bind fun found _ =>
    ?_
  cases found with
  | some r => exact Action.maintains_pure r
  | none => exact Action.maintains_lift _

theorem maintains_exportTable (hs : svc.repository = s.repository)
    (hP : Memory.Hereditary P) (params : Query.Params)
    (headings : Option (List String)) :
    Maintains (Within P) (svc.exportTable ctx table params headings) := by
  refine maintains_openTable hs hP fun t _ => ?_
  rw [hs]
  refine (keeps_onStore (Store.keeps_selectAll t _ _)).maintains.bind
    fun records _ => ?_
  exact (Action.maintains_drawing Supply.now).bind_pure _

/-- A request maintains a hereditary property of tables, if checked writes to
its target keep it or the request writes none. -/
theorem maintains_serve (hs : svc.repository = s.repository)
    (hP : Memory.Hereditary P) {request : Request}
    (hkeep : request.writes = true → ∀ t, svc.tableName ctx table = .ok t →
      s.WritesKeep P t.physical) :
    Maintains (Within P) (svc.serve ctx table request) := by
  cases request with
  | list params => exact (maintains_list hs hP params).bind_pure _
  | retrieve id => exact (maintains_retrieve hs hP id).bind_pure _
  | create inputs rules =>
      exact (maintains_upsert hs hP (hkeep rfl) none inputs rules).bind_pure _
  | upsert id inputs rules =>
      exact (maintains_upsert hs hP (hkeep rfl) id inputs rules).bind_pure _
  | delete id => exact (maintains_delete hs hP id).bind_pure _
  | importCsv bytes rules =>
      exact (maintains_importCsv hs hP (hkeep rfl) bytes rules).bind_pure _
  | importFile file rules =>
      refine Maintains.bind_pure ?_ _
      cases file with
      | some bytes => exact maintains_importCsv hs hP (hkeep rfl) bytes rules
      | none => exact Action.maintains_lift _
  | exportTable params headings =>
      exact (maintains_exportTable hs hP params headings).bind_pure _
  | truncate => exact (maintains_truncate hs hP).bind_pure _
  | drop => exact (maintains_drop hs).bind_pure _

/-! ## States that requests lead to -/

/-- The states of a service: from the store without tables, behind any requests,
whatever they answered. -/
inductive Reached (svc : Service Tables Work κ) :
    ServiceState Tables κ → Prop where
  | start (k : κ) : Reached svc ⟨[], k⟩
  | served {state : ServiceState Tables κ} (h : Reached svc state)
    (ctx : RequestContext)
      (table : String) (request : Request) (supply : Supply) :
      Reached svc ((svc.serve ctx table request).runIn ⟨state, supply⟩).2.state

/-- Those that they lead to while the clock shows no other instants. -/
inductive ReachedUnder (svc : Service Tables Work κ)
    (clock : Time.Instant → Prop) :
    ServiceState Tables κ → Prop where
  | start (k : κ) : ReachedUnder svc clock ⟨[], k⟩
  | served {state : ServiceState Tables κ} (h : ReachedUnder svc clock state)
      (ctx : RequestContext) (table : String) (request : Request)
      {supply : Supply} (hclock : ∀ n, clock (supply.instants n)) :
      ReachedUnder svc clock
        ((svc.serve ctx table request).runIn ⟨state, supply⟩).2.state

theorem ReachedUnder.reached {clock : Time.Instant → Prop}
    {state : ServiceState Tables κ} (h : svc.ReachedUnder clock state) :
    svc.Reached state := by
  induction h with
  | start k => exact .start k
  | served _ ctx table request _ ih => exact .served ih ctx table request _

theorem Reached.underAny {state : ServiceState Tables κ}
    (h : svc.Reached state) :
    svc.ReachedUnder (fun _ => True) state := by
  induction h with
  | start k => exact .start k
  | served _ ctx table request supply ih =>
      exact .served ih ctx table request fun _ => trivial

theorem Reached.sound {state : ServiceState Tables κ}
    (hs : svc.repository = s.repository) (h : svc.Reached state) :
    s.Sound (state.store.lookup ·) := by
  induction h with
  | start k => intro n t ht; cases ht
  | served _ ctx table request supply ih =>
      have hserve :
          Maintains (Within fun _ t => Memory.WellFormed s.spec s.checks t)
          (svc.serve ctx table request) :=
        maintains_serve hs
          (Memory.Store.hereditary_wellFormed s.spec s.checks) fun _ t _ =>
          Memory.Store.writesKeep_wellFormed s t.physical
      exact hserve ⟨_, supply⟩ ih

/-- The table that a request finds, or a new one, is well formed. -/
theorem Reached.wellFormed {state : ServiceState Tables κ}
    (hs : svc.repository = s.repository) (h : svc.Reached state) (n : String) :
    Memory.WellFormed s.spec s.checks
      ((List.lookup n state.store).getD .empty) := by
  cases ht : List.lookup n state.store with
  | none => exact .empty
  | some t => exact h.sound hs n t ht

end Service

end TenantTables
