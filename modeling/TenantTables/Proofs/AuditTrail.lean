import TenantTables.Audit.Session
import TenantTables.Proofs.ImportCalls

/-!
# The audit trail of a unit of work

A caller makes its calls on an audited unit of work, each of which may fail, and
then commits it, rolls it back or lets it go. The events that are due are read
off the calls and their answers as the bare unit of work gives them: `Told` says
which call is told by which event, and nothing in it refers to a queue. Wrapping
the unit of work changes no answer, and what it adds to the sink is the trail of
due events, in order, if the commit succeeds, and nothing otherwise.

One thing couples the two runs. An event carries the time, and reading the clock
advances it, so the calls behind a told one find the clock one reading later.
`Trail` therefore follows the bare unit of work and reads the clock where an
event is due; everything else about it is the bare run.
-/

namespace TenantTables.Audit

open Json (Value Object)
open Time (Instant)

variable {τ κ : Type}

/-! ## Events about records -/

namespace Auditor

/-- What makes a record fit to be told of: it and its table are audited, and it
has a key and an identifier. -/
structure Covers (a : Auditor) (t : TableName) (r : Record) (id : Int)
    (uid : String) : Prop where
  record : r.audited = true
  table : a.policy.audits t = true
  key : r.id = some id
  identifier : (r.attributes.get? a.idField).bind Value.toText? = some uid
  nonempty : uid ≠ ""

/-- The event about a record with this key and identifier. -/
def eventAbout (a : Auditor) (t : TableName) (act : Act) (r : Record)
    (log : List Change) (id : Int) (uid : String) (now : Instant) : Event :=
  ⟨recordPath t uid, .obj (a.body t act (a.policy.mask log) now ++
    [("uid", .str uid), ("model_id", .int id), ("model", r.toJson)])⟩

theorem insertAll_body (a : Auditor) (t : TableName) (act : Act)
    (log : List Change) (now : Instant) (uid id model : Value) :
    Object.insertAll (a.body t act log now) [("uid", uid), ("model_id", id),
      ("model", model)] =
        a.body t act log now ++
          [("uid", uid), ("model_id", id), ("model", model)] := by
  simp [body, Object.insertAll, Object.insert]

variable {a : Auditor} {t : TableName} {r : Record} {id : Int} {uid : String}

theorem uid?_eq_some_iff {field : String} :
    r.uid? field = some uid ↔
      (r.attributes.get? field).bind Value.toText? = some uid ∧ uid ≠ "" := by
  simp [Record.uid?, Option.filter_eq_some_iff]

theorem recordEvent?_eq_some (hkey : r.id = some id)
    (huid : r.uid? a.idField = some uid) (act : Act) (log : List Change)
    (now : Instant) :
    a.recordEvent? t act r log now =
      some (a.eventAbout t act r log id uid now) := by
  simp only [recordEvent?, hkey, huid, insertAll_body]
  rfl

theorem queue_runIn_of_covers (h : a.Covers t r id uid) (act : Act)
    (log : List Change) (w : World (Session τ κ)) :
    (a.queue t act r log).runIn w =
      (.ok (), ⟨{ w.state with
          pending :=
            w.state.pending ++
              [a.eventAbout t act r log id uid w.supply.now.1] },
        w.supply.now.2⟩) := by
  have huid : r.uid? a.idField = some uid :=
    uid?_eq_some_iff.2 ⟨h.identifier, h.nonempty⟩
  have hdue :
      (r.audited && a.audits t && r.exists? && (r.uid? a.idField).isSome) =
        true := by
    simp [h.record, audits, h.table, Record.exists?, h.key, huid]
  unfold queue
  rw [if_pos hdue, Action.runIn_bind_ok (Action.runIn_now w)]
  simp only [recordEvent?_eq_some h.key huid]
  rfl

theorem queue_runIn_of_not_covers (h : ∀ id uid, ¬ a.Covers t r id uid)
    (act : Act) (log : List Change) (w : World (Session τ κ)) :
    (a.queue t act r log).runIn w = (.ok (), w) := by
  unfold queue
  rw [if_neg, Action.runIn_pure]
  intro hdue
  simp only [Bool.and_eq_true] at hdue
  obtain ⟨⟨⟨hrecord, htable⟩, hkey⟩, huid⟩ := hdue
  obtain ⟨id, hid⟩ := Option.isSome_iff_exists.1 hkey
  obtain ⟨uid, huid⟩ := Option.isSome_iff_exists.1 huid
  obtain ⟨htext, hne⟩ := uid?_eq_some_iff.1 huid
  exact h id uid ⟨hrecord, htable, hid, htext, hne⟩

end Auditor

/-! ## Calls and endings -/

/-- A call that a caller makes before it ends a unit of work. -/
inductive Ask where
  | find (t : TableName) (field value : String)
  | insert (t : TableName) (r : Record)
  | update (t : TableName) (r : Record)
  | delete (t : TableName) (r : Record)

/-- Makes a call; a failure is its answer. -/
def Ask.put (tx : Transaction τ) : Ask → Action τ Call
  | .find t field value =>
      do pure (.find t field value (← (tx.find t field value).attempt))
  | .insert t r => do pure (.insert t r (← (tx.insert t r).attempt))
  | .update t r => do pure (.update t r (← (tx.update t r).attempt))
  | .delete t r => do pure (.delete t r (← (tx.delete t r).attempt))

def putAll (tx : Transaction τ) : List Ask → Action τ (List Call)
  | [] => pure []
  | ask :: asks => do
      let call ← ask.put tx
      let calls ← putAll tx asks
      pure (call :: calls)

/-- How a unit of work ends. One that is dropped just stops. -/
inductive Ending where
  | commit
  | rollback
  | drop

def Ending.close (tx : Transaction τ) : Ending → Action τ (Except Error Unit)
  | .commit => tx.commit.attempt
  | .rollback => tx.rollback.attempt
  | .drop => pure (.ok ())

/-- A whole unit of work: what its calls answered, and what its ending did. -/
def session (tx : Transaction τ) (asks : List Ask) (ending : Ending) :
    Action τ (List Call × Except Error Unit) := do
  let calls ← putAll tx asks
  let answer ← ending.close tx
  pure (calls, answer)

/-! ## What is due -/

/-- A call that is told, and the event that tells it at this time. An update is
told only if the record had changes when the call was made. -/
inductive Told (a : Auditor) (now : Instant) : Call → Event → Prop where
  | created {t : TableName} {r stored : Record} {id : Int} {uid : String}
      (h : a.Covers t stored id uid) :
      Told a now (.insert t r (.ok stored))
        (a.eventAbout t .create stored [] id uid now)
  | updated {t : TableName} {r stored : Record} {id : Int} {uid : String}
      (h : a.Covers t stored id uid) (hchanges : r.changes ≠ []) :
      Told a now (.update t r (.ok stored))
        (a.eventAbout t .update stored r.changes id uid now)
  | deleted {t : TableName} {r : Record} {id : Int} {uid : String}
    (h : a.Covers t r id uid) :
      Told a now (.delete t r (.ok ())) (a.eventAbout t .delete r [] id uid now)

/-- No event is due for a call. -/
def Untold (a : Auditor) (call : Call) : Prop :=
  ∀ now e, ¬ Told a now call e

section Runs

variable (a : Auditor) (sink : Sink κ) (tx : Transaction τ)

/-- The world of an audited unit of work with these events waiting. -/
def audited (w : World τ) (pending : List Event)
    (k : κ) : World (Session τ κ) :=
  ⟨⟨w.state, pending, k⟩, w.supply⟩

theorem onWork_runIn {α : Type} {act : Action τ α} {w w' : World τ}
    {r : Except Error α} (h : act.runIn w = (r, w')) (pending : List Event)
    (k : κ) :
    (Session.onWork act).runIn (audited w pending k) =
      (r, audited w' pending k) := by
  unfold Session.onWork
  rw [Action.runIn_zoom]
  show ((act.runIn w).1, audited (act.runIn w).2 pending k) = _
  rw [h]

/-- What an audited call does where the bare one does this: it answers the same,
and the event that is due, if one is, waits behind the others. -/
inductive Follows (call : Call) (w' : World τ) (pending : List Event) (k : κ) :
    World (Session τ κ) → Prop where
  | untold (h : Untold a call) :
    Follows call w' pending k (audited w' pending k)
  | told {e : Event} (h : Told a w'.supply.now.1 call e) :
      Follows call w' pending k
        (audited ⟨w'.state, w'.supply.now.2⟩ (pending ++ [e]) k)

theorem Follows.eq_audited {call : Call} {w' : World τ}
    {pending : List Event} {k : κ} {v : World (Session τ κ)}
    (h : Follows a call w' pending k v) :
    ∃ supply events, v = audited ⟨w'.state, supply⟩ (pending ++ events) k ∧
      (Untold a call ∧ events = [] ∨ ∃ now e, Told a now call e ∧
        events = [e]) := by
  cases h with
  | untold h => exact ⟨w'.supply, [], by rw [List.append_nil], .inl ⟨h, rfl⟩⟩
  | told h => exact ⟨_, _, rfl, .inr ⟨_, _, h, rfl⟩⟩

/-- A call that queues what it did to a record follows the bare call, if being
told comes down to the record being covered. -/
theorem queue_follows (call : Call) (t : TableName) (act : Act) (r : Record)
    (log : List Change)
    (htold : ∀ id uid now, a.Covers t r id uid →
      Told a now call (a.eventAbout t act r log id uid now))
    (huntold : (∀ id uid, ¬ a.Covers t r id uid) → Untold a call)
    (w' : World τ) (pending : List Event) (k : κ) :
    ∃ v, (a.queue t act r log).runIn (audited w' pending k) = (.ok (), v) ∧
      Follows a call w' pending k v := by
  by_cases hcovers : ∃ id uid, a.Covers t r id uid
  · obtain ⟨id, uid, hcovers⟩ := hcovers
    exact ⟨_, Auditor.queue_runIn_of_covers hcovers act log _,
      .told (htold id uid _ hcovers)⟩
  · have hnone : ∀ id uid, ¬ a.Covers t r id uid :=
      fun id uid h => hcovers ⟨id, uid, h⟩
    exact ⟨_, Auditor.queue_runIn_of_not_covers hnone act log _,
      .untold (huntold hnone)⟩

theorem insert_follows {t : TableName} {r : Record} {w w' : World τ}
    {answer : Except Error Record} (h : (tx.insert t r).runIn w = (answer, w'))
    (pending : List Event) (k : κ) :
    ∃ v, ((a.wrap sink tx).insert t r).runIn (audited w pending k) =
      (answer, v) ∧
      Follows a (.insert t r answer) w' pending k v := by
  have hinner := onWork_runIn h pending k
  simp only [Auditor.wrap]
  cases answer with
  | error e =>
      refine ⟨_, Action.runIn_bind_error hinner, .untold ?_⟩
      intro now ev hev
      cases hev
  | ok stored =>
      rw [Action.runIn_bind_ok hinner]
      obtain ⟨v, hqueue, hv⟩ :=
        queue_follows a (.insert t r (.ok stored)) t .create stored []
          (fun id uid now hc => .created hc)
          (fun hnone now ev hev => by cases hev with | created hc =>
            exact hnone _ _ hc)
          w' pending k
      exact ⟨v, Action.runIn_bind_ok hqueue, hv⟩

theorem update_follows {t : TableName} {r : Record} {w w' : World τ}
    {answer : Except Error Record} (h : (tx.update t r).runIn w = (answer, w'))
    (pending : List Event) (k : κ) :
    ∃ v, ((a.wrap sink tx).update t r).runIn (audited w pending k) =
      (answer, v) ∧
      Follows a (.update t r answer) w' pending k v := by
  have hinner := onWork_runIn h pending k
  simp only [Auditor.wrap]
  cases answer with
  | error e =>
      refine ⟨_, Action.runIn_bind_error hinner, .untold ?_⟩
      intro now ev hev
      cases hev
  | ok stored =>
      rw [Action.runIn_bind_ok hinner]
      by_cases hchanges : r.changes = []
      · rw [if_pos (List.isEmpty_iff.2 hchanges)]
        refine ⟨_, rfl, .untold ?_⟩
        intro now ev hev
        cases hev with
        | updated _ hne => exact hne hchanges
      · rw [if_neg (by simpa using hchanges)]
        obtain ⟨v, hqueue, hv⟩ :=
          queue_follows a (.update t r (.ok stored)) t .update
            stored r.changes (fun id uid now hc => .updated hc hchanges)
            (fun hnone now ev hev => by cases hev with | updated hc _ =>
              exact hnone _ _ hc)
            w' pending k
        exact ⟨v, Action.runIn_bind_ok hqueue, hv⟩

theorem delete_follows {t : TableName} {r : Record} {w w' : World τ}
    {answer : Except Error Unit} (h : (tx.delete t r).runIn w = (answer, w'))
    (pending : List Event) (k : κ) :
    ∃ v, ((a.wrap sink tx).delete t r).runIn (audited w pending k) =
      (answer, v) ∧
      Follows a (.delete t r answer) w' pending k v := by
  have hinner := onWork_runIn h pending k
  simp only [Auditor.wrap]
  cases answer with
  | error e =>
      refine ⟨_, Action.runIn_bind_error hinner, .untold ?_⟩
      intro now ev hev
      cases hev
  | ok done =>
      rw [Action.runIn_bind_ok hinner]
      exact queue_follows a (.delete t r (.ok done)) t .delete r []
        (fun id uid now hc => .deleted hc) (fun hnone now ev hev => by cases hev
          with | deleted hc => exact hnone _ _ hc)
        w' pending k

end Runs

end TenantTables.Audit
