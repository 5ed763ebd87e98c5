import TenantTables.Proofs.TableRows
import TenantTables.Proofs.WorkView

/-!
# Every reachable table is well formed

A store is reachable if requests on whole tables and units of work, in any order
and however they end, lead to it from the store without tables. Every call may
fail, and a unit of work may go on behind a call that failed and then commit:
the steps below ask for the state that a run leaves, never for its success.

The invariant is about the tables of a store and, while a unit of work is open,
about every table it sees. A call changes at most one table of the view, and
that one by a write that was checked against the table it is put into. Records
come from callers in any state, stale or never stored; of them the proof needs
only that the surrogate key is not one of their attributes.
-/

namespace TenantTables

open Json (Object)

/-! ## Records of callers -/

namespace Record

/-- A record as callers can make one. -/
inductive Made : Record → Prop where
  | new (attributes : Object) : Made (.new attributes)
  | ofStored (id : Int) (attributes : Object) : Made (.ofStored id attributes)
  | set {r : Record} (h : Made r) (key : String) (v : Json.Value) :
    Made (r.set key v)
  | fill {r : Record} (h : Made r) (attributes : Object) :
    Made (r.fill attributes)
  | markSaved {r : Record} (h : Made r) (id : Int) (attributes : Object) :
      Made (r.markSaved id attributes)
  | withoutAudit {r : Record} (h : Made r) : Made r.withoutAudit

theorem id_not_mem_set {r : Record} (h : idColumn ∉ r.attributes.keys)
    (key : String) (v : Json.Value) :
    idColumn ∉ (r.set key v).attributes.keys := by
  unfold set
  split
  · exact h
  · next hkey =>
      rw [Object.mem_keys_insert]
      rintro (hmem | heq)
      · exact h hmem
      · exact hkey (by simp [heq])

theorem id_not_mem_fill {r : Record} (h : idColumn ∉ r.attributes.keys)
    (attributes : Object) : idColumn ∉ (r.fill attributes).attributes.keys := by
  unfold fill
  induction attributes generalizing r with
  | nil => exact h
  | cons f attributes ih => exact ih (id_not_mem_set h f.1 f.2)

theorem id_set (r : Record) (key : String) (v : Json.Value) :
    (r.set key v).id = r.id := by
  unfold set
  split
  · rfl
  · rfl

theorem id_fill (r : Record) (attributes : Object) :
    (r.fill attributes).id = r.id := by
  unfold fill
  induction attributes generalizing r with
  | nil => rfl
  | cons f attributes ih => exact (ih (r.set f.1 f.2)).trans (id_set r f.1 f.2)

/-- The surrogate key is no attribute of a record. -/
theorem Made.id_not_mem {r : Record} (h : r.Made) :
    idColumn ∉ r.attributes.keys := by
  induction h with
  | new attributes => exact id_not_mem_withoutId attributes
  | ofStored id attributes => exact id_not_mem_withoutId attributes
  | set _ key v ih => exact id_not_mem_set ih key v
  | fill _ attributes ih => exact id_not_mem_fill ih attributes
  | markSaved _ id attributes _ => exact id_not_mem_withoutId attributes
  | withoutAudit _ ih => exact ih

end Record

namespace Memory

/-! ## Properties of all tables -/

/-- A property that a new table has and that the loss of rows leaves. -/
structure Hereditary (P : String → Table → Prop) : Prop where
  empty (n : String) : P n .empty
  sublist {n : String} {t : Table} {rows : List (Int × Object)} (h : P n t)
    (hs : rows.Sublist t.rows) : P n { t with rows := rows }

/-- Checked writes to the table of this name leave the property. -/
def Store.WritesKeep (s : Store) (P : String → Table → Prop)
    (n : String) : Prop :=
  ∀ {t t' : Table} {id : Option Int} {attributes row : Object}
    {now : Time.Instant} {key : Int}, P n t → idColumn ∉ attributes.keys →
      writeRow s.spec s.checks n t id attributes now =
        .ok (key, row, t') → P n t'

/-- Every table has the property, under its name. -/
def Tables.Everywhere (P : String → Table → Prop) (tables : Tables) : Prop :=
  ∀ n t, tables.lookup n = some t → P n t

structure Work.Everywhere (P : String → Table → Prop) (work : Work) : Prop where
  view : ∀ n t, work.view n = some t → P n t
  start : work.tables.Everywhere P
  proper : work.Proper

section Everywhere

variable {P : String → Table → Prop} {s : Store} {work work' : Work}

theorem Tables.Everywhere.set {tables : Tables} (h : tables.Everywhere P)
    {n : String} {t : Table} (ht : P n t) : (tables.set n t).Everywhere P := by
  intro m u hu
  by_cases hm : m = n
  · subst hm
    rw [lookup_set_self, Option.some.injEq] at hu
    exact hu ▸ ht
  · rw [lookup_set_of_ne hm] at hu
    exact h m u hu

theorem Tables.Everywhere.ensured {tables : Tables} (h : tables.Everywhere P)
    (hP : Hereditary P) (n : String) : (tables.ensured n).Everywhere P := by
  unfold Tables.ensured
  split
  · exact h
  · exact h.set (hP.empty n)

theorem Work.Everywhere.hold {work : Work} (h : work.Everywhere P) {n : String}
    {t : Table} (ht : P n t) : (work.hold n t).Everywhere P where
  view m u hu := by
    by_cases hm : m = n
    · subst hm
      rw [view_hold_self, Option.some.injEq] at hu
      exact hu ▸ ht
    · rw [view_hold_of_ne hm] at hu
      exact h.view m u hu
  start := h.start
  proper := h.proper.hold n t

/-- What a call makes of a unit of work sees tables with the property again. -/
theorem Work.Everywhere.becomes (h : work.Everywhere P) (hP : Hereditary P)
    {name : TableName} (hkeep : s.WritesKeep P name.physical)
    {attributes : Object} (hid : idColumn ∉ attributes.keys)
    (hb : s.Becomes name attributes work work') :
    work'.Everywhere P := by
  cases hb with
  | same => exact h
  | read ht => exact h.hold (h.view _ _ ht)
  | written ht hw => exact h.hold (hkeep (h.view _ _ ht) hid hw)
  | erased id ht =>
      exact h.hold (hP.sublist (h.view _ _ ht) List.filter_sublist)

end Everywhere

/-! ## Reachable stores -/

namespace Store

/-- The states of a unit of work that was started from these tables. -/
inductive Works (s : Store) (tables : Tables) : Work → Prop where
  | start {work : Work} (supply : Supply)
      (h : (s.repository.start.runIn ⟨tables, supply⟩).1 = .ok work) :
        Works s tables work
  | find {work : Work} (h : Works s tables work) (name : TableName)
    (field value : String)
      (supply : Supply) :
      Works s tables
        ((s.transaction.find name field value).runIn ⟨work, supply⟩).2.state
  | insert {work : Work} (h : Works s tables work) (name : TableName)
    {r : Record}
      (hr : r.Made) (supply : Supply) :
      Works s tables
        ((s.transaction.insert name r).runIn ⟨work, supply⟩).2.state
  | update {work : Work} (h : Works s tables work) (name : TableName)
    {r : Record}
      (hr : r.Made) (supply : Supply) :
      Works s tables
        ((s.transaction.update name r).runIn ⟨work, supply⟩).2.state
  | delete {work : Work} (h : Works s tables work) (name : TableName)
    (r : Record)
      (supply : Supply) :
      Works s tables
        ((s.transaction.delete name r).runIn ⟨work, supply⟩).2.state

/-- The tables that a store can come to hold. -/
inductive Reachable (s : Store) : Tables → Prop where
  | new : Reachable s []
  | ensureTable {tables : Tables} (h : Reachable s tables) (name : TableName)
      (supply : Supply) :
      Reachable s
        ((s.repository.ensureTable name).runIn ⟨tables, supply⟩).2.state
  | dropTable {tables : Tables} (h : Reachable s tables) (name : TableName)
      (supply : Supply) :
      Reachable s ((s.repository.dropTable name).runIn ⟨tables, supply⟩).2.state
  | truncate {tables : Tables} (h : Reachable s tables) (name : TableName)
      (supply : Supply) :
      Reachable s ((s.repository.truncate name).runIn ⟨tables, supply⟩).2.state
  | deleteWhere {tables : Tables} (h : Reachable s tables) (name : TableName)
      (f : Query.Filter) (supply : Supply) :
      Reachable s
        ((s.repository.deleteWhere name f).runIn ⟨tables, supply⟩).2.state
  | committed {tables : Tables} (h : Reachable s tables) {work : Work}
      (hw : Works s tables work) (supply : Supply) :
      Reachable s
        (s.repository.finish
          (s.transaction.commit.runIn ⟨work, supply⟩).2.state)
  | rolledBack {tables : Tables} (h : Reachable s tables) {work : Work}
      (hw : Works s tables work) (supply : Supply) :
      Reachable s
        (s.repository.finish
          (s.transaction.rollback.runIn ⟨work, supply⟩).2.state)
  | abandoned {tables : Tables} (h : Reachable s tables) {work : Work}
      (hw : Works s tables work) : Reachable s (s.repository.finish work)

/-! ## The invariant -/

/-- Every table that stands under a name is well formed. -/
def Sound (s : Store) (lookup : String → Option Table) : Prop :=
  ∀ n t, lookup n = some t → WellFormed s.spec s.checks t

variable {s : Store} {tables : Tables} {work : Work}

section Everywhere

variable {P : String → Table → Prop}

/-- An open unit of work sees tables with a property that the tables had which
it started from, if a new table has it and no call takes it away. -/
theorem Works.everywhere (hP : Hereditary P) (hkeep : ∀ n, s.WritesKeep P n)
    (hs : tables.Everywhere P) (h : s.Works tables work) :
    work.Everywhere P := by
  have hnone : idColumn ∉ Object.keys [] := by simp [Object.keys]
  induction h with
  | start supply h =>
      obtain rfl := Except.ok.inj h
      exact ⟨fun n t ht => hs n t (by simpa using ht), hs,
        Work.proper_start tables⟩
  | find _ name field value supply ih =>
      exact ih.becomes hP (hkeep _) hnone
        (find_becomes s name field value [] ⟨_, supply⟩)
  | insert _ name hr supply ih =>
      exact ih.becomes hP (hkeep _) hr.id_not_mem
        (insert_becomes s name _ ⟨_, supply⟩)
  | update _ name hr supply ih =>
      exact ih.becomes hP (hkeep _) hr.id_not_mem
        (update_becomes s name _ ⟨_, supply⟩)
  | delete _ name r supply ih =>
      exact ih.becomes hP (hkeep _) hnone
        (delete_becomes s name r [] ⟨_, supply⟩)

theorem Reachable.everywhere (hP : Hereditary P) (hkeep : ∀ n, s.WritesKeep P n)
    (h : s.Reachable tables) : tables.Everywhere P := by
  induction h with
  | new => intro n t ht; cases ht
  | ensureTable _ name supply ih =>
      rw [ensureTable_runIn]
      exact ih.ensured hP name.physical
  | dropTable _ name supply ih =>
      intro n t ht
      by_cases hn : n = name.physical
      · subst hn
        exact absurd ((Tables.lookup_remove_self _ _).symm.trans ht) (by simp)
      · exact ih n t ((Tables.lookup_remove_of_ne hn _).symm.trans ht)
  | @truncate tables _ name supply ih =>
      cases ht : tables.lookup name.physical with
      | none => rw [truncate_runIn_of_none ht]; exact ih
      | some t => rw [truncate_runIn ht]; exact ih.set (hP.empty _)
  | @deleteWhere tables _ name f supply ih =>
      cases ht : tables.lookup name.physical with
      | none => rw [deleteWhere_runIn_of_none ht]; exact ih
      | some t =>
          rw [deleteWhere_runIn ht]
          exact ih.set (hP.sublist (ih _ t ht) List.filter_sublist)
  | @committed tables _ work hw supply ih =>
      have hwork := hw.everywhere hP hkeep ih
      obtain ⟨w', hrun, -, hview⟩ :=
        commit_runIn (s := s) (w := ⟨work, supply⟩) hwork.proper
      rw [hrun]
      intro n t ht
      exact hwork.view n t ((hview n).symm.trans ht)
  | rolledBack _ hw supply ih => exact (hw.everywhere hP hkeep ih).start
  | abandoned _ hw ih => exact (hw.everywhere hP hkeep ih).start

end Everywhere

theorem hereditary_wellFormed (spec : TableSpec) (checks : List Check) :
    Hereditary fun _ t => WellFormed spec checks t where
  empty _ := .empty
  sublist h hs := h.sublist hs

theorem writesKeep_wellFormed (s : Store) (n : String) :
    s.WritesKeep (fun _ t => WellFormed s.spec s.checks t) n :=
  fun ht hid hw => ht.writeRow hid hw

/-- A reachable store holds well-formed tables. -/
theorem Reachable.sound (h : s.Reachable tables) : s.Sound (tables.lookup ·) :=
  h.everywhere (hereditary_wellFormed s.spec s.checks) (writesKeep_wellFormed s)

/-- In every store that requests and units of work can lead to, every table has
surrogate keys from one to below its next key, rows whose keys are the columns
of the layout but for the surrogate key, a value in every column that has to
have one, no two rows with one text in a unique column, and no row that breaks a
named check. -/
theorem reachable_tables_meet_constraints (h : s.Reachable tables) {n : String}
    {t : Table} (ht : tables.lookup n = some t) :
    (t.rows.Pairwise fun a b => a.1 < b.1) ∧
    (∀ e ∈ t.rows, 1 ≤ e.1 ∧ e.1 < t.nextId) ∧
    (∀ e ∈ t.rows, e.2.keys.Nodup ∧
      ∀ key, key ∈ e.2.keys ↔ key ≠ idColumn ∧ ∃ c ∈ s.spec.columns,
        c.name = key) ∧
    (∀ e ∈ t.rows, ∀ c ∈ s.spec.columns, c.type ≠ .serial → c.nullable = false →
      ∃ v, e.2.get? c.name = some v ∧ v.isNull = false) ∧
    (t.rows.Pairwise fun a b => ∀ c ∈ s.spec.columns, c.unique = true →
      ∀ text, textAt a.2 c.name = some text → textAt b.2 c.name ≠ some text) ∧
    ∀ e ∈ t.rows, ∀ check ∈ s.checks, check.holds e.2 = true := by
  have hwf := h.sound n t ht
  refine ⟨hwf.ascending, hwf.keys_between, fun e he =>
    ⟨(hwf.rows_meet e he).layout.nodup, ?_⟩,
    fun e he => (hwf.rows_meet e he).filled, ?_, fun e he =>
      (hwf.rows_meet e he).checked⟩
  · intro key
    rw [(hwf.rows_meet e he).layout.mem_keys key, TableSpec.hasColumn_iff]
  · exact hwf.ascending.imp_of_mem fun ha hb hlt =>
      hwf.distinct _ ha _ hb (by omega)

/-- A table to look at. -/
def ordersOfAcme : TableName := ⟨"acme", "orders", by decide, by decide⟩

/-- A supply whose clock stands still. -/
def stillSupply : Supply := ⟨fun _ => ⟨0, 0⟩, fun n => "id" ++ toString n, 0, 0⟩

/-- The tables behind a unit of work that stores new orders, each that
is not refused. -/
def storing (s : Store) (rows : List Object) : Tables :=
  let start :=
    ((s.repository.ensureTable ordersOfAcme).runIn ⟨[], stillSupply⟩).2.state
  let work := rows.foldl
    (fun work row =>
      ((s.transaction.insert ordersOfAcme (.new row)).runIn
        ⟨work, stillSupply⟩).2.state)
    ⟨start, []⟩
  s.repository.finish (s.transaction.commit.runIn ⟨work, stillSupply⟩).2.state

theorem reachable_storing (s : Store) (rows : List Object) :
    s.Reachable (s.storing rows) := by
  refine .committed (.ensureTable .new ordersOfAcme stillSupply) ?_ stillSupply
  refine List.foldlRecOn rows _ (.start stillSupply rfl) fun work hwork row _ =>
    ?_
  exact .insert hwork ordersOfAcme (.new row) stillSupply

/-- A store with nothing but the two keys, whose identifiers
have to be short. -/
def shortIds : Store :=
  ⟨.bare "uid",
    [⟨"short", fun row => (textAt row "uid").all fun uid => uid.length ≤ 8⟩]⟩

/-- Of three new records the second repeats an identifier and the third has one
that is too long; the unit of work commits all the same. -/
theorem constraints_met_behind_refused_writes :
    ∃ (tables : Tables) (t : Table), shortIds.Reachable tables ∧
      tables.lookup "acme$orders" = some t ∧
      (t.nextId, t.rows.map (·.1)) = (2, [1]) ∧
      (t.rows.Pairwise fun a b => a.1 < b.1) ∧
      (∀ e ∈ t.rows, 1 ≤ e.1 ∧ e.1 < t.nextId) ∧
      (∀ e ∈ t.rows, e.2.keys.Nodup ∧
        ∀ key, key ∈ e.2.keys ↔ key ≠ idColumn ∧ ∃ c ∈ shortIds.spec.columns,
        c.name = key) ∧
      (∀ e ∈ t.rows, ∀ c ∈ shortIds.spec.columns, c.type ≠ .serial →
        c.nullable = false → ∃ v, e.2.get? c.name = some v ∧ v.isNull = false) ∧
      (t.rows.Pairwise fun a b => ∀ c ∈ shortIds.spec.columns, c.unique = true →
        ∀ text, textAt a.2 c.name = some text → textAt b.2 c.name ≠ some text) ∧
      ∀ e ∈ t.rows, ∀ check ∈ shortIds.checks, check.holds e.2 = true := by
  obtain ⟨tables, hreach, hkeys⟩ : ∃ tables, shortIds.Reachable tables ∧
      (tables.lookup "acme$orders").map
        (fun t => (t.nextId, t.rows.map (·.1))) =
        some (2, [1]) :=
    ⟨_, .committed
      (.ensureTable .new ordersOfAcme stillSupply)
      (.insert
        (.insert
          (.insert (.start stillSupply rfl)
            ordersOfAcme (.new [("uid", .str "a")]) stillSupply)
          ordersOfAcme (.new [("uid", .str "a")]) stillSupply)
        ordersOfAcme (.new [("uid", .str "abcdefghi")]) stillSupply)
      stillSupply, by decide +kernel⟩
  obtain ⟨t, ht, hrows⟩ := Option.map_eq_some_iff.1 hkeys
  exact ⟨tables, t, hreach, ht, hrows,
    reachable_tables_meet_constraints hreach ht⟩

end Store

end Memory

end TenantTables
