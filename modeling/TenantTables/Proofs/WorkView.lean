import TenantTables.Memory.Store
import TenantTables.Proofs.ActionRun
import TenantTables.Proofs.ObjectKeys

/-!
# What a unit of work sees

A unit of work sees a table as its copy of it, or else as the store had it. This
file says for each call of a unit of work what it answers and what the unit of
work holds behind it, in these words only: a call that finds its table leaves
the unit of work holding that table, written or not, and everything else as it
was seen before. Committing makes the store what the unit of work saw.

The copies of a unit of work have distinct names. That is what makes the commit
an easy step: it puts the copies in one after another, so of two copies of one
table the last would win, while a look-up reads the first.
-/

namespace TenantTables.Memory

/-! ## Tables under names -/

namespace Tables

theorem lookup_set_self (ts : Tables) (n : String) (t : Table) :
    (ts.set n t).lookup n = some t := by
  induction ts with
  | nil => simp [Tables.set]
  | cons e ts ih =>
      obtain ⟨m, u⟩ := e
      rw [Tables.set]
      by_cases hm : m = n
      · simp [hm]
      · simp only [beq_iff_eq, hm, if_false]
        rw [List.lookup_cons, beq_false_of_ne (Ne.symm hm)]
        exact ih

theorem lookup_set_of_ne {m n : String} (h : m ≠ n) (ts : Tables) (t : Table) :
    (ts.set n t).lookup m = ts.lookup m := by
  induction ts with
  | nil => simp [Tables.set, List.lookup_cons, beq_false_of_ne h]
  | cons e ts ih =>
      obtain ⟨l, u⟩ := e
      rw [Tables.set]
      by_cases hl : l = n
      · subst hl
        simp [List.lookup_cons, beq_false_of_ne h]
      · simp only [beq_iff_eq, hl, if_false, List.lookup_cons]
        rw [ih]

/-- Putting a table where it is already changes nothing. -/
theorem set_of_lookup {ts : Tables} {n : String} {t : Table}
    (h : ts.lookup n = some t) : ts.set n t = ts := by
  induction ts with
  | nil => simp at h
  | cons e ts ih =>
      obtain ⟨m, u⟩ := e
      rw [Tables.set]
      by_cases hm : m = n
      · subst hm
        simp only [List.lookup_cons_self, Option.some.injEq] at h
        simp [h]
      · rw [List.lookup_cons, beq_false_of_ne (Ne.symm hm)] at h
        simp only [beq_iff_eq, hm, if_false]
        rw [ih h]

theorem set_set (ts : Tables) (n : String) (t u : Table) :
    (ts.set n t).set n u = ts.set n u := by
  induction ts with
  | nil => simp [Tables.set]
  | cons e ts ih =>
      obtain ⟨m, v⟩ := e
      rw [Tables.set]
      by_cases hm : m = n
      · simp [hm, Tables.set]
      · simp only [beq_iff_eq, hm, if_false, Tables.set]
        rw [ih]

theorem mem_names_set {ts : Tables} {m n : String} {t : Table}
    (h : m ∈ (ts.set n t).map (·.1)) : m = n ∨ m ∈ ts.map (·.1) := by
  induction ts with
  | nil => simpa [Tables.set] using h
  | cons e ts ih =>
      obtain ⟨l, u⟩ := e
      rw [Tables.set] at h
      split at h
      · exact .inr h
      · rw [List.map_cons, List.mem_cons] at h
        rcases h with h | h
        · exact .inr (by simp [h])
        · rcases ih h with h | h
          · exact .inl h
          · exact .inr (List.mem_cons_of_mem _ h)

theorem nodup_names_set {ts : Tables} (h : (ts.map (·.1)).Nodup) (n : String)
    (t : Table) : ((ts.set n t).map (·.1)).Nodup := by
  induction ts with
  | nil => simp [Tables.set]
  | cons e ts ih =>
      obtain ⟨m, u⟩ := e
      rw [List.map_cons, List.nodup_cons] at h
      rw [Tables.set]
      split
      · exact List.nodup_cons.2 h
      · next hm =>
          rw [List.map_cons, List.nodup_cons]
          refine ⟨fun hmem => ?_, ih h.2⟩
          rcases mem_names_set hmem with heq | hmem
          · exact hm (by simpa using heq)
          · exact h.1 hmem

theorem lookup_remove_self (ts : Tables) (n : String) :
    (ts.filter fun e => e.1 != n).lookup n = none := by
  rw [Json.Object.lookup_filter (· != n), bne_self_eq_false,
    if_neg Bool.false_ne_true]

theorem lookup_remove_of_ne {m n : String} (h : m ≠ n) (ts : Tables) :
    (ts.filter fun e => e.1 != n).lookup m = ts.lookup m := by
  rw [Json.Object.lookup_filter (· != n), if_pos (bne_iff_ne.2 h)]

/-- Putting in tables of distinct names: each name now has the table put in,
and every other what it had. -/
theorem lookup_foldl_set {copies : Tables} (h : (copies.map (·.1)).Nodup)
    (ts : Tables) (n : String) :
    (copies.foldl (fun ts e => ts.set e.1 e.2) ts).lookup n =
      (copies.lookup n).or (ts.lookup n) := by
  induction copies generalizing ts with
  | nil => simp
  | cons e copies ih =>
      obtain ⟨m, t⟩ := e
      rw [List.map_cons, List.nodup_cons] at h
      rw [List.foldl_cons, ih h.2]
      by_cases hm : n = m
      · subst hm
        have hnone : copies.lookup n = none := by
          rw [List.lookup_eq_none_iff]
          intro e he
          have hmem : e.1 ∈ copies.map (·.1) := List.mem_map_of_mem he
          have hne : n ≠ e.1 := fun heq => h.1 (heq ▸ hmem)
          simpa using hne
        simp [hnone, lookup_set_self]
      · rw [lookup_set_of_ne hm, List.lookup_cons, beq_false_of_ne hm]

/-- The tables with an empty one put in where there is none. -/
def ensured (ts : Tables) (n : String) : Tables :=
  match ts.lookup n with
  | some _ => ts
  | none => ts.set n .empty

/-- A table that is ensured is what it was, or it is new and empty. -/
theorem lookup_ensured_self (ts : Tables) (n : String) :
    (ts.ensured n).lookup n = some ((ts.lookup n).getD .empty) := by
  unfold ensured
  cases h : ts.lookup n with
  | some t => simp [h]
  | none => simp [lookup_set_self]

theorem lookup_ensured_of_ne {m n : String} (h : m ≠ n) (ts : Tables) :
    (ts.ensured n).lookup m = ts.lookup m := by
  unfold ensured
  cases ts.lookup n with
  | some t => rfl
  | none => exact lookup_set_of_ne h ts .empty

end Tables

/-! ## Requests on whole tables -/

section Requests

variable {s : Store} {name : TableName} {w : World Tables} {t : Table}

theorem tableIn_runIn (h : w.state.lookup name.physical = some t) :
    (tableIn name).runIn w = (.ok t, w) := by
  unfold tableIn
  rw [Action.runIn_of, h]

theorem tableIn_runIn_of_none (h : w.state.lookup name.physical = none) :
    (tableIn name).runIn w = (.error (missingTable name), w) := by
  unfold tableIn
  rw [Action.runIn_of, h]

namespace Store

/-- A table that is there stays, and a missing one is created. -/
theorem ensureTable_runIn (s : Store) (name : TableName) (w : World Tables) :
    (s.repository.ensureTable name).runIn w =
      (.ok (), { w with state := Tables.ensured w.state name.physical }) := by
  simp only [repository, Action.runIn_of, Tables.ensured]
  cases w.state.lookup name.physical with
  | some t => rfl
  | none => rfl

theorem truncate_runIn (h : w.state.lookup name.physical = some t) :
    (s.repository.truncate name).runIn w =
      (.ok (), { w with state := w.state.set name.physical .empty }) := by
  simp only [repository]
  rw [Action.runIn_bind_ok (tableIn_runIn h)]
  rfl

theorem truncate_runIn_of_none (h : w.state.lookup name.physical = none) :
    (s.repository.truncate name).runIn w = (.error (missingTable name), w) := by
  simp only [repository]
  rw [Action.runIn_bind_error (tableIn_runIn_of_none h)]

/-- The rows that a deletion leaves. -/
def keptRows (s : Store) (f : Query.Filter) (t : Table) :
    List (Int × Json.Object) :=
  t.rows.filter fun e => !(knownFilter s.spec f).holds (storedRow e.1 e.2)

theorem deleteWhere_runIn (h : w.state.lookup name.physical = some t)
    (f : Query.Filter) : (s.repository.deleteWhere name f).runIn w =
      (.ok (t.rows.length - (s.keptRows f t).length),
        { w with
          state := w.state.set name.physical
            { t with rows := s.keptRows f t } }) := by
  simp only [repository]
  rw [Action.runIn_bind_ok (tableIn_runIn h)]
  rfl

theorem deleteWhere_runIn_of_none (h : w.state.lookup name.physical = none)
    (f : Query.Filter) :
    (s.repository.deleteWhere name f).runIn w =
      (.error (missingTable name), w) := by
  simp only [repository]
  rw [Action.runIn_bind_error (tableIn_runIn_of_none h)]

end Store

end Requests

/-! ## The view of a unit of work -/

namespace Work

/-- The table that a unit of work sees under a name. -/
def view (work : Work) (n : String) : Option Table :=
  (work.copies.lookup n).or (work.tables.lookup n)

/-- The unit of work with a copy of a table put in. -/
def hold (work : Work) (n : String) (t : Table) : Work :=
  { work with copies := work.copies.set n t }

/-- No table is copied twice. -/
def Proper (work : Work) : Prop :=
  (work.copies.map (·.1)).Nodup

variable {work : Work} {m n : String} {t u : Table}

@[simp] theorem hold_hold : (work.hold n t).hold n u = work.hold n u := by
  simp [hold, Tables.set_set]

@[simp] theorem view_hold_self : (work.hold n t).view n = some t := by
  simp [view, hold, Tables.lookup_set_self]

theorem view_hold_of_ne (h : m ≠ n) : (work.hold n t).view m = work.view m := by
  simp [view, hold, Tables.lookup_set_of_ne h]

theorem proper_start (ts : Tables) : Proper ⟨ts, []⟩ := by
  simp [Proper]

theorem Proper.hold (h : work.Proper) (n : String) (t : Table) :
    (work.hold n t).Proper :=
  Tables.nodup_names_set h n t

@[simp] theorem view_start (ts : Tables) : view ⟨ts, []⟩ n = ts.lookup n := by
  simp [view]

/-- A unit of work that now sees a table under a name, and all
else as before. -/
structure Moves (work work' : Work) (n : String) (t : Table) : Prop where
  here : work'.view n = some t
  elsewhere : ∀ m, m ≠ n → work'.view m = work.view m
  proper : work.Proper → work'.Proper

theorem moves_self (h : work.view n = some t) : work.Moves work n t :=
  ⟨h, fun _ _ => rfl, id⟩

theorem moves_hold (work : Work) (n : String) (t : Table) :
    work.Moves (work.hold n t) n t :=
  ⟨view_hold_self, fun _ hm => view_hold_of_ne hm, fun hp => hp.hold n t⟩

theorem Moves.trans {work' work'' : Work} (h : work.Moves work' n t)
    (h' : work'.Moves work'' n u) : work.Moves work'' n u :=
  ⟨h'.here, fun m hm => (h'.elsewhere m hm).trans (h.elsewhere m hm),
    h'.proper ∘ h.proper⟩

end Work

/-! ## Calls of a unit of work -/

section Calls

variable {s : Store} {name : TableName} {w : World Work} {t : Table}

theorem copyOf_runIn (h : w.state.view name.physical = some t) :
    (copyOf name).runIn w =
      (.ok t, { w with state := w.state.hold name.physical t }) := by
  unfold copyOf Work.hold
  rw [Action.runIn_of]
  cases hc : w.state.copies.lookup name.physical with
  | some u =>
      have hu : u = t := by simpa [Work.view, hc] using h
      subst hu
      simp [Tables.set_of_lookup hc]
  | none =>
      have ht : w.state.tables.lookup name.physical = some t := by
        simpa [Work.view, hc] using h
      simp [ht]

theorem copyOf_runIn_of_none (h : w.state.view name.physical = none) :
    (copyOf name).runIn w = (.error (missingTable name), w) := by
  unfold copyOf
  rw [Action.runIn_of]
  obtain ⟨hc, ht⟩ : w.state.copies.lookup name.physical = none ∧
      w.state.tables.lookup name.physical = none := by
    simpa [Work.view] using h
  simp [hc, ht]

@[simp] theorem putCopy_runIn (name : TableName) (t : Table) (w : World Work) :
    (putCopy name t).runIn w =
      (.ok (), { w with state := w.state.hold name.physical t }) := rfl

namespace Store

theorem find_runIn (h : w.state.view name.physical = some t)
    (field value : String) : (s.transaction.find name field value).runIn w =
      (.ok (findIn t field value),
        { w with state := w.state.hold name.physical t }) := by
  show (copyOf name >>= fun t => pure (findIn t field value)).runIn w = _
  rw [Action.runIn_bind_ok (copyOf_runIn h)]
  rfl

/-- A write that succeeds leaves the unit of work holding the written table. -/
theorem write_runIn_ok (h : w.state.view name.physical = some t)
    {id : Option Int} {r : Record} {key : Int} {row : Json.Object} {t' : Table}
    (hw : writeRow s.spec s.checks name.physical t id r.attributes
      w.supply.now.1 = .ok (key, row, t')) :
    (s.write name id r).runIn w =
      (.ok (r.markSaved key row),
        ⟨w.state.hold name.physical t', w.supply.now.2⟩) := by
  unfold write
  rw [Action.runIn_bind_ok (copyOf_runIn h),
    Action.runIn_bind_ok (Action.runIn_now _)]
  simp only [hw]
  rw [Action.runIn_bind_ok (Action.runIn_lift _ _),
    Action.runIn_bind_ok (putCopy_runIn ..)]
  simp

/-- A write that fails leaves the table as it was seen. -/
theorem write_runIn_error (h : w.state.view name.physical = some t)
    {id : Option Int} {r : Record} {e : Error}
    (hw : writeRow s.spec s.checks name.physical t id r.attributes
      w.supply.now.1 = .error e) :
    (s.write name id r).runIn w =
      (.error e, ⟨w.state.hold name.physical t, w.supply.now.2⟩) := by
  unfold write
  rw [Action.runIn_bind_ok (copyOf_runIn h),
    Action.runIn_bind_ok (Action.runIn_now _)]
  simp only [hw]
  rw [Action.runIn_bind_error (Action.runIn_lift _ _)]

theorem write_runIn_of_none (h : w.state.view name.physical = none)
    (id : Option Int) (r : Record) :
    (s.write name id r).runIn w = (.error (missingTable name), w) := by
  unfold write
  rw [Action.runIn_bind_error (copyOf_runIn_of_none h)]

/-- What a write that succeeded has done. -/
theorem of_write_runIn_ok (h : w.state.view name.physical = some t)
    {id : Option Int} {r stored : Record} {w' : World Work}
    (hrun : (s.write name id r).runIn w = (.ok stored, w')) :
    ∃ key row t',
      writeRow s.spec s.checks name.physical t id r.attributes w.supply.now.1 =
        .ok (key, row, t') ∧ stored = r.markSaved key row ∧
      w' = ⟨w.state.hold name.physical t', w.supply.now.2⟩ := by
  cases hw : writeRow s.spec s.checks name.physical t id r.attributes
    w.supply.now.1 with
  | error e =>
      rw [write_runIn_error h hw] at hrun
      simp at hrun
  | ok written =>
      obtain ⟨key, row, t'⟩ := written
      rw [write_runIn_ok h hw, Prod.mk.injEq, Except.ok.injEq] at hrun
      exact ⟨key, row, t', rfl, hrun.1.symm, hrun.2.symm⟩

/-- What a call on a table can make of a unit of work, whether it succeeds or
fails: the attributes are those that it writes, if it writes. -/
inductive Becomes (s : Store) (name : TableName) (attributes : Json.Object)
    (work : Work) :
    Work → Prop where
  /-- The table is missing, or the call never looked for it. -/
  | same : Becomes s name attributes work work
  | read {t : Table} : work.view name.physical = some t →
      Becomes s name attributes work (work.hold name.physical t)
  | written {t : Table} {id : Option Int} {now : Time.Instant} {key : Int}
      {row : Json.Object} {t' : Table} : work.view name.physical = some t →
      writeRow s.spec s.checks name.physical t id attributes now =
        .ok (key, row, t') →
      Becomes s name attributes work (work.hold name.physical t')
  | erased {t : Table} (id : Int) : work.view name.physical = some t →
      Becomes s name attributes work (work.hold name.physical (t.erase id))

theorem write_becomes (s : Store) (name : TableName) (id : Option Int)
    (r : Record) (w : World Work) :
    Becomes s name r.attributes w.state
      ((s.write name id r).runIn w).2.state := by
  cases h : w.state.view name.physical with
  | none =>
      rw [write_runIn_of_none h]
      exact .same
  | some t =>
      cases hw : writeRow s.spec s.checks name.physical t id r.attributes
        w.supply.now.1 with
      | error e =>
          rw [write_runIn_error h hw]
          exact .read h
      | ok written =>
          obtain ⟨key, row, t'⟩ := written
          rw [write_runIn_ok h hw]
          exact .written h hw

theorem find_becomes (s : Store) (name : TableName) (field value : String)
    (attributes : Json.Object) (w : World Work) :
    Becomes s name attributes w.state
      ((s.transaction.find name field value).runIn w).2.state := by
  cases h : w.state.view name.physical with
  | none =>
      show Becomes s name attributes w.state
        ((copyOf name >>= fun t => pure (findIn t field value)).runIn w).2.state
      rw [Action.runIn_bind_error (copyOf_runIn_of_none h)]
      exact .same
  | some t =>
      rw [find_runIn h]
      exact .read h

theorem insert_becomes (s : Store) (name : TableName) (r : Record)
    (w : World Work) :
    Becomes s name r.attributes w.state
      ((s.transaction.insert name r).runIn w).2.state :=
  write_becomes s name none r w

theorem update_becomes (s : Store) (name : TableName) (r : Record)
    (w : World Work) :
    Becomes s name r.attributes w.state
      ((s.transaction.update name r).runIn w).2.state := by
  cases hid : r.id with
  | none =>
      simp only [transaction, hid]
      exact .same
  | some id =>
      simp only [transaction, hid]
      exact write_becomes s name (some id) r w

theorem delete_becomes (s : Store) (name : TableName) (r : Record)
    (attributes : Json.Object) (w : World Work) :
    Becomes s name attributes w.state
      ((s.transaction.delete name r).runIn w).2.state := by
  simp only [transaction]
  cases h : w.state.view name.physical with
  | none =>
      rw [Action.runIn_bind_error (copyOf_runIn_of_none h)]
      exact .same
  | some t =>
      rw [Action.runIn_bind_ok (copyOf_runIn h)]
      cases hid : r.id with
      | none => exact .read h
      | some id =>
          rw [putCopy_runIn, Work.hold_hold]
          exact .erased id h

/-- No call touches the tables that the unit of work started from. -/
theorem Becomes.tables {attributes : Json.Object} {work work' : Work}
    (h : Becomes s name attributes work work') :
    work'.tables = work.tables := by
  cases h <;> rfl

theorem Becomes.proper {attributes : Json.Object} {work work' : Work}
    (h : Becomes s name attributes work work')
    (hp : work.Proper) : work'.Proper := by
  cases h with
  | same => exact hp
  | read _ => exact hp.hold _ _
  | written _ _ => exact hp.hold _ _
  | erased _ _ => exact hp.hold _ _

/-- Behind a commit the store has the tables that the unit of work saw. -/
theorem commit_runIn (hp : w.state.Proper) :
    ∃ w' : World Work, s.transaction.commit.runIn w = (.ok (), w') ∧
      w'.supply = w.supply ∧ ∀ n, w'.state.tables.lookup n = w.state.view n :=
  ⟨_, rfl, rfl, fun n => Tables.lookup_foldl_set hp w.state.tables n⟩

end Store

end Calls

end TenantTables.Memory
