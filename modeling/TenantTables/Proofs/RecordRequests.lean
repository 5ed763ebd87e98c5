import TenantTables.Proofs.AuditTrail
import TenantTables.Proofs.BulkDeletion
import TenantTables.Proofs.StaleUpdate

/-!
# Requests about one record

Retrieving, upserting and deleting look for a record by its identifier and then
do one thing, in a unit of work if they write. For the store in memory this file
says what each of them leaves and answers, by what the search finds. The bare
unit of work is followed, the audited one beside it, so the events of a request
are those that are due for its one write.
-/

namespace TenantTables

open Json (Object)
open Audit (Session Event audited onWork_runIn)
open Memory (Store Table Tables Work findIn)

namespace Service

variable {κ : Type} {svc : Service Tables Work κ} {s : Store}
  {ctx : RequestContext} {table id : String} {name : TableName}
  {w w' : World (ServiceState Tables κ)}

/-- The bare unit of work of a request on a table, behind the
search for a record. -/
def searched (w : World (ServiceState Tables κ))
    (name : TableName) : World Work :=
  ⟨Work.hold ⟨Tables.ensured w.state.store name.physical, []⟩ name.physical
    (opened w name), w.supply⟩

theorem view_start_opened (w : World (ServiceState Tables κ))
    (name : TableName) :
    Work.view ⟨Tables.ensured w.state.store name.physical, []⟩ name.physical =
      some (opened w name) := by
  rw [Work.view_start]
  exact Tables.lookup_ensured_self _ _

theorem view_searched (w : World (ServiceState Tables κ)) (name : TableName) :
    (searched w name).state.view name.physical = some (opened w name) :=
  Work.view_hold_self

theorem view_searched_of_ne (w : World (ServiceState Tables κ)) {n : String}
    (h : n ≠ name.physical) :
    (searched w name).state.view n = List.lookup n w.state.store := by
  rw [searched, Work.view_hold_of_ne h, Work.view_start,
    Tables.lookup_ensured_of_ne h]

theorem proper_searched (w : World (ServiceState Tables κ)) (name : TableName) :
    (searched w name).state.Proper :=
  (Work.proper_start _).hold _ _

/-- The search, as the audited unit of work of a request makes it. -/
theorem search_runIn (svc : Service Tables Work κ) (ctx : RequestContext)
    (s : Store) (w : World (ServiceState Tables κ)) (name : TableName)
    (field id : String) :
    (((svc.auditor ctx).wrap svc.sink s.transaction).find name field id).runIn
        (audited ⟨⟨Tables.ensured w.state.store name.physical, []⟩, w.supply⟩ []
          w.state.sink) =
      (.ok (findIn (opened w name) field id),
        audited (searched w name) [] w.state.sink) :=
  onWork_runIn
    (Store.find_runIn (s := s) (view_start_opened w name) field id) _ _

/-- Committing puts what the unit of work saw into the store, and the events
that wait into the sink. -/
theorem commit_runIn_audited (svc : Service Tables Work κ)
    (ctx : RequestContext) (s : Store) {v : World Work} (hv : v.state.Proper)
    (events : List Event) (k : κ) :
    ∃ work : Work,
      (((svc.auditor ctx).wrap svc.sink s.transaction).commit).runIn
        (audited v events k) =
          (.ok (), audited ⟨work, v.supply⟩ [] (svc.sink.writeAll events k)) ∧
      ∀ n, work.tables.lookup n = v.state.view n := by
  obtain ⟨⟨work, u⟩, hrun, hsupply, hview⟩ := Store.commit_runIn (s := s) hv
  obtain rfl : u = v.supply := hsupply
  exact ⟨work, Action.runIn_bind_ok (onWork_runIn hrun events k), hview⟩

/-- Attributes under the identifier of a request, if it has one. -/
def under (spec : TableSpec) (id : Option String)
    (attributes : Object) : Object :=
  match id with
  | some id => attributes.insert spec.idField (.str id)
  | none => attributes

/-- The record that an upsert makes where it finds none. -/
def created (spec : TableSpec) (id : Option String) (inputs : Object)
    (u : Supply) : Record :=
  Record.new
    (spec.prepareInsert (under spec id (spec.fillable (Path.undot inputs))) u).1

section Runs

variable (hs : svc.repository = s.repository)
  (hname : svc.tableName ctx table = .ok name)
include hs hname

/-- A request that opens its table and works in a unit of work leaves the tables
of that, and the sink that the session ends with. -/
theorem openTable_inWork_runIn {α : Type}
    {body : TableName → Action (Session Work κ) α} {r : Except Error α}
    (v : World Work) (events : List Event) (k : κ)
    (h : (body name).runIn (audited
      ⟨⟨Tables.ensured w.state.store name.physical, []⟩, w.supply⟩ []
        w.state.sink) = (r, audited v events k)) :
    (svc.openTable ctx table >>= fun t => svc.inWork (body t)).runIn w =
      (r, ⟨⟨v.state.tables, k⟩, v.supply⟩) := by
  rw [Action.runIn_bind_ok (openTable_runIn hs hname w)]
  exact inWork_runIn hs
    (w := { w with
      state.store := Tables.ensured w.state.store name.physical }) h

/-! ## Retrieving -/

theorem retrieve_runIn (w : World (ServiceState Tables κ)) (id : String) :
    (svc.retrieve ctx table id).runIn w =
      ((findIn (opened w name) s.spec.idField id).elim
        (.error (noRecord name id)) .ok, { w with
          state.store := Tables.ensured w.state.store name.physical }) := by
  have hfind : (s.repository.find name s.spec.idField id).runIn
      ⟨Tables.ensured w.state.store name.physical, w.supply⟩ =
        (.ok (findIn (opened w name) s.spec.idField id),
          ⟨Tables.ensured w.state.store name.physical, w.supply⟩) :=
    Action.runIn_bind_ok (Memory.tableIn_runIn (Tables.lookup_ensured_self _ _))
  rw [retrieve, Action.runIn_bind_ok (openTable_runIn hs hname w), idField, hs]
  rw [show s.repository.spec = s.spec from rfl,
    Action.runIn_bind_ok (onStore_runIn hfind)]
  cases findIn (opened w name) s.spec.idField id with
  | some r => rfl
  | none => rfl

/-! ## Deleting -/

theorem delete_runIn_of_none
    (hfind : findIn (opened w name) s.spec.idField id = none) :
    (svc.delete ctx table id).runIn w = (.error (noRecord name id),
      { w with
          state.store := Tables.ensured w.state.store name.physical }) := by
  have hsearch := svc.search_runIn ctx s w name s.spec.idField id
  rw [hfind] at hsearch
  rw [delete]
  refine openTable_inWork_runIn hs hname (searched w name) [] w.state.sink ?_
  rw [idField, hs]
  refine (Action.runIn_bind_ok hsearch).trans ?_
  exact Action.runIn_bind_ok
    (onWork_runIn (w := searched w name) (r := .ok ()) rfl _ _)

/-- Deleting a record that is found takes its row from the table. -/
theorem delete_runIn {r : Record} {key : Int} (hkey : r.id = some key)
    (hfind : findIn (opened w name) s.spec.idField id = some r) :
    ∃ w', (svc.delete ctx table id).runIn w = (.ok r, w') ∧
      List.lookup name.physical w'.state.store =
        some ((opened w name).erase key) ∧
      ∀ n, n ≠ name.physical →
        List.lookup n w'.state.store = List.lookup n w.state.store := by
  have hsearch := svc.search_runIn ctx s w name s.spec.idField id
  rw [hfind] at hsearch
  -- The bare unit of work holds the table without the row.
  let erased : World Work :=
    ⟨(searched w name).state.hold name.physical ((opened w name).erase key),
      w.supply⟩
  have hdelete : (s.transaction.delete name r).runIn (searched w name) =
      (.ok (), erased) := by
    simp only [Store.transaction]
    rw [Action.runIn_bind_ok (Memory.copyOf_runIn (view_searched w name)), hkey,
      Memory.putCopy_runIn, Work.hold_hold]
    rfl
  obtain ⟨v, hwrapped, hfollows⟩ :=
    Audit.delete_follows (svc.auditor ctx) svc.sink s.transaction hdelete []
      w.state.sink
  obtain ⟨supply, events, rfl, -⟩ := hfollows.eq_audited
  obtain ⟨work, hcommit, hview⟩ :=
    commit_runIn_audited svc ctx s (v := ⟨erased.state, supply⟩)
      ((proper_searched w name).hold _ _) events w.state.sink
  refine ⟨⟨⟨work.tables, svc.sink.writeAll events w.state.sink⟩, supply⟩, ?_,
    ?_, fun n hn => ?_⟩
  · rw [delete]
    refine openTable_inWork_runIn hs hname ⟨work, supply⟩ []
      (svc.sink.writeAll events _) ?_
    rw [idField, hs]
    refine (Action.runIn_bind_ok hsearch).trans ?_
    exact (Action.runIn_bind_ok hwrapped).trans (Action.runIn_bind_ok hcommit)
  · exact (hview _).trans Work.view_hold_self
  · refine (hview n).trans ?_
    exact (Work.view_hold_of_ne hn).trans (view_searched_of_ne w hn)

/-! ## Upserting -/

/-- The record that an upsert makes of one that it finds. -/
def revised (spec : TableSpec) (inputs : Object) (r : Record) : Record :=
  r.fill (spec.prepareUpdate (spec.fillable (Path.undot inputs)))

omit hs hname in
theorem upsert_runIn_error {rules : FieldRules} {inputs : Object} {e : Error}
    (hrules : rules.check inputs = .error e) (id : Option String) :
    (svc.upsert ctx table id inputs rules).runIn w = (.error e, w) := by
  rw [upsert, hrules, Action.runIn_bind_error (Action.runIn_lift _ _)]

/-- An upsert that changes nothing about the record it finds writes nothing. -/
theorem upsert_runIn_unchanged {rules : FieldRules} {inputs : Object}
    {r : Record} (hrules : rules.check inputs = .ok ())
    (hfind : findIn (opened w name) s.spec.idField id = some r)
    (hchanges : (revised s.spec inputs r).changes = []) :
    ∃ w', (svc.upsert ctx table (some id) inputs rules).runIn w =
        (.ok (revised s.spec inputs r), w') ∧ w'.state.sink = w.state.sink ∧
      ∀ n, List.lookup n w'.state.store = (searched w name).state.view n := by
  have hsearch := svc.search_runIn ctx s w name s.spec.idField id
  rw [hfind] at hsearch
  obtain ⟨work, hcommit, hview⟩ := commit_runIn_audited svc ctx s
    (proper_searched w name) [] w.state.sink
  refine ⟨⟨⟨work.tables, w.state.sink⟩, w.supply⟩, ?_, rfl, hview⟩
  rw [upsert, hrules, Action.runIn_bind_ok (Action.runIn_lift _ _)]
  refine openTable_inWork_runIn hs hname ⟨work, w.supply⟩ [] w.state.sink ?_
  rw [hs]
  refine (Action.runIn_bind_ok hsearch).trans ?_
  have hclean :
      (saveChanges ((svc.auditor ctx).wrap svc.sink s.transaction) name
          (revised s.spec inputs r)).runIn
          (audited (searched w name) [] w.state.sink) =
        (.ok (revised s.spec inputs r),
          audited (searched w name) [] w.state.sink) := by
    rw [saveChanges, if_neg (by simp [Record.isDirty, hchanges]),
      Action.runIn_pure]
  exact (Action.runIn_bind_ok hclean).trans (Action.runIn_bind_ok hcommit)

/-- An upsert that changes the record it finds answers what the update answers,
and leaves what it leaves if it succeeds. The sink gets the event that is due
for the update. -/
theorem upsert_runIn_changed {rules : FieldRules} {inputs : Object} {r : Record}
    {answer : Except Error Record} {w₁ : World Work}
    (hrules : rules.check inputs = .ok ())
    (hfind : findIn (opened w name) s.spec.idField id = some r)
    (hchanges : (revised s.spec inputs r).changes ≠ [])
    (hupdate :
      (s.transaction.update name (revised s.spec inputs r)).runIn
        (searched w name) = (answer, w₁)) :
    ∃ w' events,
      (svc.upsert ctx table (some id) inputs rules).runIn w = (answer, w') ∧
      w'.state.sink = svc.sink.writeAll events w.state.sink ∧
      (Audit.Untold (svc.auditor ctx)
        (.update name (revised s.spec inputs r) answer) ∧
          events = [] ∨
        ∃ now e, Audit.Told (svc.auditor ctx) now
          (.update name (revised s.spec inputs r) answer) e ∧ events = [e]) ∧
      ((∃ e, answer = .error e) ∧
          w'.state.store = Tables.ensured w.state.store name.physical ∨
        (∃ stored, answer = .ok stored) ∧
          ∀ n, List.lookup n w'.state.store = w₁.state.view n) := by
  have hsearch := svc.search_runIn ctx s w name s.spec.idField id
  rw [hfind] at hsearch
  obtain ⟨v, hwrapped, hfollows⟩ :=
    Audit.update_follows (svc.auditor ctx) svc.sink s.transaction hupdate []
      w.state.sink
  obtain ⟨supply, events, rfl, hevents⟩ := hfollows.eq_audited
  have hbecomes :=
    Store.update_becomes s name (revised s.spec inputs r) (searched w name)
  rw [hupdate] at hbecomes
  have hsave : saveChanges ((svc.auditor ctx).wrap svc.sink s.transaction) name
      (revised s.spec inputs r) =
        ((svc.auditor ctx).wrap svc.sink s.transaction).update name
        (revised s.spec inputs r) :=
    if_pos (by simpa [Record.isDirty] using hchanges)
  rw [← hsave] at hwrapped
  rw [upsert, hrules, Action.runIn_bind_ok (Action.runIn_lift _ _)]
  cases answer with
  | error e =>
      have hnone : events = [] := by
        obtain ⟨-, h⟩ | ⟨now, e, htold, -⟩ := hevents
        · exact h
        · cases htold
      subst hnone
      refine ⟨⟨⟨w₁.state.tables, w.state.sink⟩, supply⟩, [], ?_, rfl, hevents,
        .inl ⟨⟨e, rfl⟩, hbecomes.tables⟩⟩
      refine openTable_inWork_runIn hs hname ⟨w₁.state, supply⟩ []
        w.state.sink ?_
      rw [hs]
      exact (Action.runIn_bind_ok hsearch).trans
        (Action.runIn_bind_error hwrapped)
  | ok stored =>
      obtain ⟨work, hcommit, hview⟩ :=
        commit_runIn_audited svc ctx s (v := ⟨w₁.state, supply⟩)
          (hbecomes.proper (proper_searched w name)) events w.state.sink
      refine ⟨⟨⟨work.tables, svc.sink.writeAll events w.state.sink⟩, supply⟩,
        events, ?_, rfl, hevents, .inr ⟨⟨stored, rfl⟩, hview⟩⟩
      refine openTable_inWork_runIn hs hname ⟨work, supply⟩ []
        (svc.sink.writeAll events _) ?_
      rw [hs]
      refine (Action.runIn_bind_ok hsearch).trans ?_
      exact (Action.runIn_bind_ok hwrapped).trans (Action.runIn_bind_ok hcommit)

/-- What a request did in its unit of work, if it succeeded. -/
theorem of_openTable_inWork_runIn_ok {α : Type}
    {body : TableName → Action (Session Work κ) α} {x : α}
    (h : (svc.openTable ctx table >>= fun t => svc.inWork (body t)).runIn w =
      (.ok x, w')) :
    ∃ inner, (body name).runIn (audited
        ⟨⟨Tables.ensured w.state.store name.physical, []⟩, w.supply⟩ []
        w.state.sink) = (.ok x, inner) ∧
      w'.state.store = inner.state.work.tables := by
  rcases hbody : (body name).runIn (audited
    ⟨⟨Tables.ensured w.state.store name.physical, []⟩, w.supply⟩ []
    w.state.sink) with ⟨answer, inner⟩
  rw [Action.runIn_bind_ok (openTable_runIn hs hname w), inWork_runIn hs hbody,
    Prod.mk.injEq] at h
  obtain ⟨rfl, rfl⟩ := h
  exact ⟨inner, rfl, rfl⟩

omit hs hname in
/-- A new record is stored by a write that the table takes. -/
theorem of_saveNew_runIn_ok {v : World Work} {t : Table} {id : Option String}
    {attributes : Object} {k : κ} {r : Record} {inner : World (Session Work κ)}
    (hview : v.state.view name.physical = some t) (hproper : v.state.Proper)
    (h : (saveNew ((svc.auditor ctx).wrap svc.sink s.transaction) s.spec name id
        attributes >>= fun r =>
          ((svc.auditor ctx).wrap svc.sink s.transaction).commit >>= fun _ =>
            pure r).runIn (audited v [] k) = (.ok r, inner)) :
    ∃ n key row t', Memory.writeRow s.spec s.checks name.physical t none
        (Record.new (s.spec.prepareInsert (under s.spec id attributes)
          v.supply).1).attributes
          (v.supply.instants n) = .ok (key, row, t') ∧
      r = (Record.new
        (s.spec.prepareInsert (under s.spec id attributes)
          v.supply).1).markSaved key row ∧
      inner.state.work.tables.lookup name.physical = some t' := by
  let stored : Record :=
    Record.new (s.spec.prepareInsert (under s.spec id attributes) v.supply).1
  let drawn : World Work :=
    ⟨v.state, (s.spec.prepareInsert (under s.spec id attributes) v.supply).2⟩
  rcases hbare : (s.transaction.insert name stored).runIn drawn
    with ⟨answer, w₁⟩
  obtain ⟨v₁, hwrapped, hfollows⟩ :=
    Audit.insert_follows (svc.auditor ctx) svc.sink s.transaction hbare [] k
  obtain ⟨supply, events, rfl, -⟩ := hfollows.eq_audited
  have hsave :
      (saveNew ((svc.auditor ctx).wrap svc.sink s.transaction) s.spec name id
      attributes).runIn (audited v [] k) = (answer,
      audited ⟨w₁.state, supply⟩ ([] ++ events) k) :=
    (Action.runIn_bind_ok (Action.runIn_drawing _ _)).trans hwrapped
  cases answer with
  | error e =>
      rw [Action.runIn_bind_error hsave, Prod.mk.injEq] at h
      cases h.1
  | ok answered =>
      obtain ⟨key, row, t', hwrite, hanswered, hw₁⟩ :=
        Store.of_write_runIn_ok (s := s) (w := drawn) hview hbare
      have hbecomes := Store.insert_becomes s name stored drawn
      rw [hbare] at hbecomes
      obtain ⟨work, hcommit, hafter⟩ := commit_runIn_audited svc ctx s
        (v := ⟨w₁.state, supply⟩) (hbecomes.proper hproper) ([] ++ events) k
      rw [Action.runIn_bind_ok hsave, Action.runIn_bind_ok hcommit,
        Action.runIn_pure, Prod.mk.injEq, Except.ok.injEq] at h
      obtain ⟨rfl, rfl⟩ := h
      have hnow :
          drawn.supply.now.1 = v.supply.instants drawn.supply.instantsUsed := by
        show drawn.supply.instants _ = _
        rw [TableSpec.instants_prepareInsert]
      rw [hnow] at hwrite
      refine ⟨_, key, row, t', hwrite, hanswered, (hafter _).trans ?_⟩
      rw [hw₁]
      exact Work.view_hold_self

omit hs hname in
theorem check_ok_of_upsert_runIn_ok {rules : FieldRules} {inputs : Object}
    {id : Option String} {r : Record}
    (h : (svc.upsert ctx table id inputs rules).runIn w = (.ok r, w')) :
    rules.check inputs = .ok () := by
  cases hrules : rules.check inputs with
  | ok _ => rfl
  | error e =>
      rw [upsert_runIn_error hrules, Prod.mk.injEq] at h
      cases h.1

/-- An upsert that finds no record stores a new one, under the identifier that
was searched for. -/
theorem of_upsert_new_runIn_ok {rules : FieldRules} {inputs : Object}
    {id : Option String} {r : Record}
    (hfind : ∀ i, id = some i → findIn (opened w name) s.spec.idField i = none)
    (h : (svc.upsert ctx table id inputs rules).runIn w = (.ok r, w')) :
    ∃ n key row t',
      Memory.writeRow s.spec s.checks name.physical (opened w name) none
        (created s.spec id inputs w.supply).attributes (w.supply.instants n) =
          .ok (key, row, t') ∧
      r = (created s.spec id inputs w.supply).markSaved key row ∧
      opened w' name = t' := by
  have hrules := check_ok_of_upsert_runIn_ok h
  rw [upsert, hrules, Action.runIn_bind_ok (Action.runIn_lift _ _)] at h
  obtain ⟨inner, hbody, hstore⟩ := of_openTable_inWork_runIn_ok hs hname h
  rw [hs] at hbody
  -- Whether a search came first or not, a record is stored from here on.
  obtain ⟨v, hsupply, hview, hproper, hsave⟩ : ∃ v : World Work,
      v.supply = w.supply ∧
      v.state.view name.physical = some (opened w name) ∧ v.state.Proper ∧
      (saveNew ((svc.auditor ctx).wrap svc.sink s.transaction) s.spec name id
          (s.spec.fillable (Path.undot inputs)) >>= fun r =>
        ((svc.auditor ctx).wrap svc.sink s.transaction).commit >>= fun _ =>
          pure r).runIn
          (audited v [] w.state.sink) = (.ok r, inner) := by
    cases id with
    | none =>
        exact ⟨_, rfl, view_start_opened w name, Work.proper_start _, hbody⟩
    | some i =>
        have hsearch := svc.search_runIn ctx s w name s.spec.idField i
        rw [hfind i rfl] at hsearch
        exact ⟨_, rfl, view_searched w name, proper_searched w name,
          (Action.runIn_bind_ok hsearch).symm.trans hbody⟩
  obtain ⟨n, key, row, t', hwrite, hr, hafter⟩ :=
    of_saveNew_runIn_ok hview hproper hsave
  rw [hsupply] at hwrite hr
  exact ⟨n, key, row, t', hwrite, hr, opened_of_lookup (hstore ▸ hafter)⟩

/-- An upsert that finds a record and succeeds had nothing to change about it,
or has written it again. -/
theorem of_upsert_found_runIn_ok {rules : FieldRules} {inputs : Object}
    {found r : Record} {key : Int}
    (hfind : findIn (opened w name) s.spec.idField id = some found)
    (hkey : found.id = some key)
    (h : (svc.upsert ctx table (some id) inputs rules).runIn w = (.ok r, w')) :
    ((revised s.spec inputs found).changes = [] ∧
      r = revised s.spec inputs found ∧ opened w' name = opened w name) ∨
    ∃ now key' row t',
      Memory.writeRow s.spec s.checks name.physical (opened w name) (some key)
        (revised s.spec inputs found).attributes now = .ok (key', row, t') ∧
      r = (revised s.spec inputs found).markSaved key' row ∧
      opened w' name = t' := by
  have hrules := check_ok_of_upsert_runIn_ok h
  by_cases hchanges : (revised s.spec inputs found).changes = []
  · obtain ⟨v, hv, -, hview⟩ :=
      upsert_runIn_unchanged hs hname hrules hfind hchanges
    rw [h, Prod.mk.injEq, Except.ok.injEq] at hv
    obtain ⟨rfl, rfl⟩ := hv
    exact .inl ⟨hchanges, rfl,
      opened_of_lookup ((hview _).trans (view_searched w name))⟩
  · rcases hupdate :
      (s.transaction.update name (revised s.spec inputs found)).runIn
      (searched w name) with ⟨answer, w₁⟩
    obtain ⟨v, events, hv, -, -, hleft⟩ :=
      upsert_runIn_changed hs hname hrules hfind hchanges hupdate
    rw [h, Prod.mk.injEq] at hv
    obtain ⟨rfl, rfl⟩ := hv
    obtain ⟨⟨e, he⟩, -⟩ | ⟨-, hview⟩ := hleft
    · cases he
    have hid : (revised s.spec inputs found).id = some key :=
      (Record.id_fill _ _).trans hkey
    rw [Store.update_eq_write hid] at hupdate
    obtain ⟨key', row, t', hwrite, hr, hw₁⟩ :=
      Store.of_write_runIn_ok (view_searched w name) hupdate
    refine .inr ⟨_, key', row, t', hwrite, hr,
      opened_of_lookup ((hview _).trans ?_)⟩
    rw [hw₁]
    exact Work.view_hold_self

/-- A record is created only by a write that the table takes. -/
theorem of_create_runIn_ok {rules : FieldRules} {inputs : Object} {r : Record}
    (h : (svc.create ctx table inputs rules).runIn w = (.ok r, w')) :
    ∃ supply now key row t',
      Memory.writeRow s.spec s.checks name.physical (opened w name) none
      (Record.new (s.spec.prepareInsert (s.spec.fillable (Path.undot inputs))
        supply).1).attributes
        now = .ok (key, row, t') := by
  have hnew : ∀ i, (none : Option String) = some i →
      findIn (opened w name) s.spec.idField i = none := nofun
  obtain ⟨n, key, row, t', hwrite, -⟩ := of_upsert_new_runIn_ok hs hname hnew h
  exact ⟨w.supply, w.supply.instants n, key, row, t', hwrite⟩

end Runs

end Service

end TenantTables
