import TenantTables.Proofs.ChangeLog
import TenantTables.Proofs.GeneralRows

/-!
# What requests store over the general layout

An import applies its rows and an upsert stores its inputs, and either comes
down to rows that are written again and rows that are new. So a property of
single tables holds in every state that requests lead to if a new table has
it, the loss of rows leaves it, and it is kept where attributes are stored in
a row or in a new one. Nothing else has to be looked at: failed requests
leave no trace, other requests write no rows, and none writes to another
table than its own.
-/

namespace TenantTables

open Json (Value Object)
open Memory (Store Table Tables Work Check WellFormed Revises Creates Hereditary
  findIn textAt revision creation)
open Time (Instant)

/-- Writing a field that is kept, before or after the others are dropped. -/
theorem Json.Object.filter_insert (p : String → Bool) {key : String}
    (h : p key = true) (o : Object) (v : Value) :
    (o.insert key v).filter (fun f => p f.1) =
      Object.insert (o.filter fun f => p f.1) key v := by
  induction o with
  | nil => simp [Object.insert, h]
  | cons f o ih =>
      obtain ⟨l, u⟩ := f
      by_cases hl : l = key
      · subst hl
        simp [Object.insert, h]
      · by_cases hp : p l = true
        · simp [Object.insert, hl, hp, ih]
        · simp [Object.insert, hl, hp, ih]

/-! ## Rows of an import -/

namespace Import

variable {checks : List Check} {p : Plan Work} {row : Row} {t t' : Table}
  {u u' : Supply} {entry : Entry}

/-- The identifier that the summary has for a stored row. -/
def Row.reported (row : Row) (stored : Object) : String :=
  (((textAt stored "uid").filter (· ≠ "")).or (row.id? "uid")).getD ""

/-- What a row makes of a table of the general layout, and the
entry it leaves. -/
inductive Enters (checks : List Check) (p : Plan Work) (row : Row) (t : Table)
    (u : Supply) :
    Entry → Table → Prop where
  | skipped (hveto : p.veto row (p.named row t) = true) :
      Enters checks p row t u (.skipped (row.id? "uid")) t
  | updated {id : String} {now : Instant} {key : Int} {start stored : Object}
    {t' : Table}
      (hid : row.id? "uid" = some id) (hstart : textAt start "uid" = some id)
      (h : Revises checks p.table.physical row.attributes now t key start
        stored t') :
      Enters checks p row t u (.updated (row.reported stored)) t'
  | inserted {n : Nat} {stored : Object} {t' : Table}
      (hnew : ∀ id, row.id? "uid" = some id →
        ∀ e ∈ t.rows, textAt e.2 "uid" ≠ some id)
      (h : Creates checks p.table.physical row.attributes u (u.instants n) t
        stored t') :
      Enters checks p row t u (.inserted (row.reported stored)) t'

theorem Plan.reported_markSaved (hspec : p.spec = .default) (row : Row)
    (r : Record) (key : Int) (stored : Object) :
    p.reported row (r.markSaved key stored) = row.reported stored := by
  have huid : (r.markSaved key stored).uid? "uid" =
      (textAt stored "uid").filter (· ≠ "") := by
    show ((Object.get? (Record.withoutId stored) "uid").bind
        Value.toText?).filter _ = _
    rw [Record.get?_withoutId _ (by decide)]
    rfl
  rw [Plan.reported, reportedId, hspec, show TableSpec.default.idField = "uid"
    from rfl, huid]
  rfl

/-- Every way to apply a row stores its attributes in a row,
unless it is vetoed. -/
theorem Applies.enters (hspec : p.spec = .default)
    (hwf : WellFormed .default checks t)
    (h : Applies ⟨.default, checks⟩ p row t u entry t' u') :
    Enters checks p row t u entry t' := by
  have hnamed : p.named row t = (row.id? "uid").bind (findIn t "uid") := by
    rw [Plan.named, hspec]
    rfl
  have hknown : p.Known row t ↔
      ∃ id, row.id? "uid" = some id ∧ ∃ e ∈ t.rows,
        textAt e.2 "uid" = some id := by
    rw [Plan.Known, hspec]
    simp only [show TableSpec.default.idField = "uid" from rfl, storedId_uid]
  cases h with
  | skipped hveto =>
      rw [hspec]
      exact .skipped hveto
  | @updated r id key stored t' _ _ hr hid hw =>
      rw [hnamed] at hr
      obtain ⟨name, hname, hfind⟩ := Option.bind_eq_some_iff.1 hr
      obtain ⟨⟨i, start⟩, hmem, huid, rfl⟩ := Memory.of_findIn_uid hfind
      obtain rfl : i = id := Option.some.inj hid
      have hattributes : (p.revised row (.ofStored i start)).attributes =
          revision start row.attributes := by
        rw [Plan.revised, hspec]
        refine (Record.attributes_fill _ row.id_not_mem_written).trans ?_
        exact congrArg (Object.insertAll · row.written)
          (Record.withoutId_eq_self (hwf.rows_meet _ hmem).layout.id_not_mem)
      rw [hattributes] at hw
      obtain ⟨-, ⟨hkey, -⟩ | ⟨hnone, -⟩⟩ := Memory.writeRow_ok hw
      · obtain rfl := Option.some.inj hkey
        rw [Plan.reported_markSaved hspec]
        exact .updated hname huid ⟨row.nodup_keys_attributes, hmem, hw⟩
      · cases hnone
  | @inserted key stored t' _ hnew hw =>
      have hattributes :
          (p.created row u).attributes = creation row.attributes u := by
        rw [Plan.created, hspec]
        rfl
      have hnow : (p.supplyBehind row u).now.1 =
          u.instants (p.supplyBehind row u).instantsUsed := by
        show (p.supplyBehind row u).instants _ = _
        rw [Plan.supplyBehind, TableSpec.instants_prepareInsert]
      rw [hattributes, hnow] at hw
      obtain ⟨-, ⟨hsome, -⟩ | ⟨-, rfl, -⟩⟩ := Memory.writeRow_ok hw
      · cases hsome
      rw [Plan.reported_markSaved hspec]
      refine .inserted (fun id hid e he huid => hnew ?_)
        ⟨row.nodup_keys_attributes, hw⟩
      exact hknown.2 ⟨id, hid, e, he, huid⟩

theorem Enters.wellFormed (h : Enters checks p row t u entry t')
    (hwf : WellFormed .default checks t) : WellFormed .default checks t' := by
  cases h with
  | skipped _ => exact hwf
  | updated _ _ h => exact h.wellFormed hwf
  | inserted _ h => exact h.wellFormed hwf

end Import

/-! ## Upserts -/

namespace Service

open Import (Applies AppliesAll Enters)

variable {κ : Type} {svc : Service Tables Work κ} {checks : List Check}
  {ctx : RequestContext} {table : String} {name : TableName}
  {w w' : World (ServiceState Tables κ)} {inputs : Object} {id : Option String}
  {r : Record} {state : ServiceState Tables κ}

/-- What an upsert that succeeds makes of a table of the general layout, and the
record that it answers. -/
inductive Upserts (checks : List Check) (name : String) (id : Option String)
    (inputs : Object) (t : Table) (u : Supply) : Record → Table → Prop where
  | unchanged {i : String} {e : Int × Object} (hid : id = some i)
    (he : e ∈ t.rows)
      (huid : textAt e.2 "uid" = some i)
      (hchanges : (revised .default inputs (.ofStored e.1 e.2)).changes = []) :
      Upserts checks name id inputs t u
        (revised .default inputs (.ofStored e.1 e.2)) t
  | updated {i : String} {now : Instant} {key : Int} {start row : Object}
    {t' : Table}
      (hid : id = some i) (huid : textAt start "uid" = some i)
      (h : Revises checks name (Path.undot inputs) now t key start row t') :
      Upserts checks name id inputs t u (.ofStored key row) t'
  | inserted {n : Nat} {row : Object} {t' : Table}
      (hnew : ∀ i, id = some i → ∀ e ∈ t.rows, textAt e.2 "uid" ≠ some i)
      (h : Creates checks name (under .default id (Path.undot inputs)) u
        (u.instants n) t row t') :
      Upserts checks name id inputs t u (.ofStored t.nextId row) t'

theorem Upserts.wellFormed {n : String} {t t' : Table} {u : Supply}
    (h : Upserts checks n id inputs t u r t')
    (hwf : WellFormed .default checks t) :
    WellFormed .default checks t' := by
  cases h with
  | unchanged _ _ _ _ => exact hwf
  | updated _ _ h => exact h.wellFormed hwf
  | inserted _ h => exact h.wellFormed hwf

theorem fillable_under (id : Option String) (o : Object) :
    TableSpec.default.fillable (under .default id o) =
      under .default id (TableSpec.default.fillable o) := by
  cases id with
  | none => rfl
  | some id =>
      exact Object.filter_insert
        (fun k => TableSpec.default.hasColumn k && !managedColumns.contains k)
        (by decide) o _

theorem nodup_keys_under {o : Object} (h : o.keys.Nodup) (id : Option String) :
    (under .default id o).keys.Nodup := by
  cases id with
  | none => exact h
  | some id => exact Object.nodup_keys_insert h _ _

section Upserts

variable (hs : svc.repository = (⟨.default, checks⟩ : Store).repository)
  (hname : svc.tableName ctx table = .ok name)
include hs hname

theorem upserts_new {rules : FieldRules}
    (hnew : ∀ i, id = some i → findIn (opened w name) "uid" i = none)
    (h : (svc.upsert ctx table id inputs rules).runIn w = (.ok r, w')) :
    Upserts checks name.physical id inputs (opened w name) w.supply r
      (opened w' name) := by
  obtain ⟨n, key, row, t', hwrite, rfl, rfl⟩ :=
    of_upsert_new_runIn_ok hs hname hnew h
  have hcreated : (created .default id inputs w.supply).attributes =
      creation (under .default id (Path.undot inputs)) w.supply := by
    rw [creation, fillable_under]
    rfl
  dsimp only at hwrite
  rw [hcreated] at hwrite
  obtain ⟨-, ⟨hsome, -⟩ | ⟨-, rfl, -⟩⟩ := Memory.writeRow_ok hwrite
  · cases hsome
  refine .inserted (fun i hi e he huid => ?_)
    ⟨nodup_keys_under (Path.nodup_keys_undot inputs) id, hwrite⟩
  have hfound : (findIn (opened w name) "uid" i).isSome = true :=
    Import.Plan.isSome_findIn_iff.2 ⟨e, he,
      (Import.storedId_uid e.2).trans huid⟩
  rw [hnew i hi] at hfound
  cases hfound

theorem upserts_found {rules : FieldRules} {i : String} {found : Record}
    (hwf : WellFormed .default checks (opened w name))
    (hfind : findIn (opened w name) "uid" i = some found)
    (h : (svc.upsert ctx table (some i) inputs rules).runIn w = (.ok r, w')) :
    Upserts checks name.physical (some i) inputs (opened w name) w.supply r
      (opened w' name) := by
  obtain ⟨⟨key, start⟩, hmem, huid, rfl⟩ := Memory.of_findIn_uid hfind
  have hattributes :
      (revised .default inputs (.ofStored key start)).attributes =
        revision start (Path.undot inputs) := by
    rw [attributes_revised]
    exact congrArg (Object.insertAll · _)
      (Record.withoutId_eq_self (hwf.rows_meet _ hmem).layout.id_not_mem)
  obtain ⟨hchanges, rfl, hopened⟩ | ⟨now, key', row, t', hwrite, rfl, rfl⟩ :=
    of_upsert_found_runIn_ok hs hname hfind
      (show (Record.ofStored key start).id = some key from rfl) h
  · rw [hopened]
    exact .unchanged rfl hmem huid hchanges
  · dsimp only at hwrite
    rw [hattributes] at hwrite
    obtain ⟨-, ⟨hkey, -⟩ | ⟨hnone, -⟩⟩ := Memory.writeRow_ok hwrite
    · obtain rfl := Option.some.inj hkey
      have hsaved :
          (revised .default inputs (.ofStored key start)).markSaved key row =
            .ofStored key row := by
        rw [revised_eq]
        rfl
      rw [hsaved]
      exact .updated rfl huid ⟨Path.nodup_keys_undot inputs, hmem, hwrite⟩
    · cases hnone

theorem upserts_of_runIn_ok {rules : FieldRules}
    (hwf : WellFormed .default checks (opened w name))
    (h : (svc.upsert ctx table id inputs rules).runIn w = (.ok r, w')) :
    Upserts checks name.physical id inputs (opened w name) w.supply r
      (opened w' name) := by
  cases id with
  | none => exact upserts_new hs hname nofun h
  | some i =>
      cases hfind : findIn (opened w name) "uid" i with
      | some found => exact upserts_found hs hname hwf hfind h
      | none =>
          refine upserts_new hs hname (fun j hj => ?_) h
          obtain rfl := Option.some.inj hj
          exact hfind

end Upserts

/-! ## Properties that every table has -/

/-- A property that a new table has, that the loss of rows leaves, and
that is kept where attributes are stored, under a clock that shows
such instants only. -/
structure Lasting (checks : List Check) (Q : Table → Prop)
    (clock : Instant → Prop := fun _ => True) : Prop where
  empty : Q .empty
  sublist {t : Table} {rows : List (Int × Object)} (h : Q t)
    (hs : rows.Sublist t.rows) : Q { t with rows := rows }
  revises {name : String} {given : Object} {now : Instant} {t t' : Table}
    {key : Int} {start row : Object} (hwf : WellFormed .default checks t)
    (h : Revises checks name given now t key start row t') (hQ : Q t) : Q t'
  creates {name : String} {given : Object} {u : Supply} {now : Instant}
    {t t' : Table} {row : Object} (hwf : WellFormed .default checks t)
    (h : Creates checks name given u now t row t') (hnow : clock now)
      (hQ : Q t) : Q t'

namespace Lasting

variable {Q : Table → Prop} {clock : Instant → Prop} {t t' : Table}
  {u u' : Supply}

theorem enters (hQ : Lasting checks Q clock)
    (hwf : WellFormed .default checks t) (hclock : ∀ n, clock (u.instants n))
    {p : Import.Plan Work} {row : Import.Row} {entry : Import.Entry}
    (h : Enters checks p row t u entry t') (ht : Q t) : Q t' := by
  cases h with
  | skipped _ => exact ht
  | updated _ _ h => exact hQ.revises hwf h ht
  | inserted _ h => exact hQ.creates hwf h (hclock _) ht

theorem appliesAll (hQ : Lasting checks Q clock) {p : Import.Plan Work}
    (hspec : p.spec = .default) {rows : List Import.Row}
    {entries : List Import.Entry} (hwf : WellFormed .default checks t)
    (hclock : ∀ n, clock (u.instants n))
    (h : AppliesAll ⟨.default, checks⟩ p rows t u entries t' u')
    (ht : Q t) : Q t' := by
  induction h with
  | nil => exact ht
  | cons h _ ih =>
      have henters := h.enters hspec hwf
      exact ih (henters.wellFormed hwf) (h.instants ▸ hclock)
        (hQ.enters hwf hclock henters ht)

theorem upserts (hQ : Lasting checks Q clock)
    (hwf : WellFormed .default checks t) (hclock : ∀ n, clock (u.instants n))
    {n : String} (h : Upserts checks n id inputs t u r t')
    (ht : Q t) : Q t' := by
  cases h with
  | unchanged _ _ _ _ => exact ht
  | updated _ _ h => exact hQ.revises hwf h ht
  | inserted _ h => exact hQ.creates hwf h (hclock _) ht

theorem hereditary (hQ : Lasting checks Q clock) (name : String) :
    Hereditary fun n t => n ≠ name → Q t where
  empty _ _ := hQ.empty
  sublist h hs hn := hQ.sublist (h hn) hs

section Requests

variable (hQ : Lasting checks Q clock)
  (hs : svc.repository = (⟨.default, checks⟩ : Store).repository)
  (hname : svc.tableName ctx table = .ok name)
  (hwf : WellFormed .default checks (opened w name))
  (hclock : ∀ n, clock (w.supply.instants n)) (ht : Q (opened w name))
include hQ hs hname hwf hclock ht

theorem upsert {rules : FieldRules}
    (h : (svc.upsert ctx table id inputs rules).runIn w = (.ok r, w')) :
    Q (opened w' name) :=
  hQ.upserts hwf hclock (upserts_of_runIn_ok hs hname hwf h) ht

theorem importCsv {bytes : List UInt8} {rules : FieldRules}
    {outcome : ImportOutcome}
    (h : (svc.importCsv ctx table bytes rules).runIn w = (.ok outcome, w')) :
    Q (opened w' name) := by
  obtain ⟨rows, entries, t', u', -, hall, -, rfl⟩ :=
    of_importCsv_runIn hs hname h
  have hspec : (svc.importPlan name).spec = .default := by
    rw [importPlan, hs]
    rfl
  exact hQ.appliesAll hspec hwf (u := w.supply.fresh.2) hclock hall ht

/-- A request that writes rows and succeeds keeps the property of its table. -/
theorem serve {request : Request} {answer : Answer}
    (hwrites : request.writes = true)
    (h : (svc.serve ctx table request).runIn w = (.ok answer, w')) :
    Q (opened w' name) := by
  cases request with
  | create inputs rules =>
      obtain ⟨r, v, hrun, hpure⟩ := Action.ok_of_runIn_bind h
      cases hpure
      exact hQ.upsert hs hname hwf hclock ht hrun
  | upsert id inputs rules =>
      obtain ⟨r, v, hrun, hpure⟩ := Action.ok_of_runIn_bind h
      cases hpure
      exact hQ.upsert hs hname hwf hclock ht hrun
  | importCsv bytes rules =>
      obtain ⟨outcome, v, hrun, hpure⟩ := Action.ok_of_runIn_bind h
      cases hpure
      exact hQ.importCsv hs hname hwf hclock ht hrun
  | importFile file rules =>
      obtain ⟨outcome, v, hrun, hpure⟩ := Action.ok_of_runIn_bind h
      cases hpure
      cases file with
      | some bytes => exact hQ.importCsv hs hname hwf hclock ht hrun
      | none => cases hrun
  | list _ | retrieve _ | delete _ | exportTable _ _ | truncate | drop =>
      cases hwrites

end Requests

/-- A request keeps the property of all tables, whatever it asks for and however
it ends. -/
theorem maintains (hQ : Lasting checks Q clock)
    (hs : svc.repository = (⟨.default, checks⟩ : Store).repository)
    (h : svc.Reached state) (hstate : Within (fun _ t => Q t) state)
    (request : Request) {u : Supply} (hclock : ∀ n, clock (u.instants n)) :
    Within (fun _ t => Q t)
      ((svc.serve ctx table request).runIn ⟨state, u⟩).2.state := by
  rcases hrun : (svc.serve ctx table request).runIn ⟨state, u⟩ with ⟨answer, w'⟩
  have hpreserves : ∀ {P : String → Table → Prop}, Hereditary P →
      Within P state →
      (request.writes = true → ∀ t', svc.tableName ctx table = .ok t' →
        (⟨.default, checks⟩ : Store).WritesKeep P t'.physical) →
        Within P w'.state := by
    intro P hP hbefore hkeep
    have hserve :
        Within P ((svc.serve ctx table request).runIn ⟨state, u⟩).2.state :=
      maintains_serve hs hP hkeep ⟨state, u⟩ hbefore
    rwa [hrun] at hserve
  by_cases htarget : request.writes = true ∧ ∃ name,
    svc.tableName ctx table = .ok name
  · obtain ⟨hwrites, name, hname⟩ := htarget
    have hothers : Within (fun n t => n ≠ name.physical → Q t) w'.state := by
      refine hpreserves (hQ.hereditary name.physical)
        (fun n t ht _ => hstate n t ht) fun _ t' ht' => ?_
      obtain rfl : name = t' := Except.ok.inj (hname.symm.trans ht')
      exact fun _ _ _ hne => absurd rfl hne
    intro n t ht
    by_cases hn : n = name.physical
    · subst hn
      cases answer with
      | ok answer =>
          have hbefore : Q (opened ⟨state, u⟩ name) := by
            unfold opened
            cases hthere : List.lookup name.physical state.store with
            | some t => exact hstate _ t hthere
            | none => exact hQ.empty
          have hwf : WellFormed .default checks (opened ⟨state, u⟩ name) :=
            h.wellFormed hs name.physical
          have hafter := hQ.serve hs hname hwf hclock hbefore hwrites hrun
          rwa [opened_of_lookup ht] at hafter
      | error e =>
          have hfails := failsOpened_serve hs request _ e w' hrun
          generalize w'.state = after at hfails ht
          cases hfails with
          | refused => exact hstate _ t ht
          | ensured _ =>
              exact Tables.Everywhere.ensured hstate
                ⟨fun _ => hQ.empty, hQ.sublist⟩ _ _ t ht
    · exact hothers n t ht hn
  · exact hpreserves ⟨fun _ => hQ.empty, hQ.sublist⟩ hstate
      fun hwrites t' ht' => absurd ⟨hwrites, t', ht'⟩ htarget

theorem reachedUnder (hQ : Lasting checks Q clock)
    (hs : svc.repository = (⟨.default, checks⟩ : Store).repository)
    (h : svc.ReachedUnder clock state) : Within (fun _ t => Q t) state := by
  induction h with
  | start k => exact fun n t ht => by cases ht
  | served h ctx table request hclock ih =>
      exact hQ.maintains hs h.reached ih request hclock

theorem reached (hQ : Lasting checks Q)
    (hs : svc.repository = (⟨.default, checks⟩ : Store).repository)
    (h : svc.Reached state) :
    Within (fun _ t => Q t) state :=
  hQ.reachedUnder hs h.underAny

end Lasting

end Service

end TenantTables
