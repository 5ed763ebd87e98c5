import TenantTables.Audit.Event
import TenantTables.Repository

/-!
# Audited units of work

A unit of work can be wrapped so that its writes are audited. Events wait until
it is committed, and only then reach the sink; a unit of work that is rolled
back or abandoned leaves none. A sink that fails has no say: what the event
tells of has happened.
-/

namespace TenantTables.Audit

/-- Where events go, over the states `κ`. -/
structure Sink (κ : Type) where
  write : Event → κ → Except Error Unit × κ

/-- A unit of work, the events that wait for its commit, and the sink. -/
structure Session (τ κ : Type) where
  work : τ
  pending : List Event
  sink : κ

/-- Writes events in order; failures are passed over. -/
def Sink.writeAll {κ : Type} (sink : Sink κ) (events : List Event)
    (k : κ) : κ :=
  events.foldl (fun k e => (sink.write e k).2) k

/-- Keeps the events in the order of their arrival. -/
def Sink.collecting : Sink (List Event) where
  write e events := (.ok (), events ++ [e])

/-- Takes no event. -/
def Sink.refusing : Sink (List Event) where
  write _ events := (.error (.connection "the sink takes no events"), events)

namespace Session

variable {τ κ : Type}

/-- Runs an action of the unit of work. -/
def onWork {α : Type} (a : Action τ α) : Action (Session τ κ) α :=
  a.zoom work fun s work => { s with work }

/-- Lets an event wait for the commit. -/
def push (e : Event) : Action (Session τ κ) Unit :=
  Action.of fun w =>
    (.ok (), { w with state.pending := w.state.pending ++ [e] })

end Session

namespace Auditor

variable {τ κ : Type}

/-- Queues the event about a record, if the record and its table are audited. -/
def queue (a : Auditor) (t : TableName) (act : Act) (r : Record)
    (log : List Change) :
    Action (Session τ κ) Unit :=
  if r.audited && a.audits t && r.exists? && (r.uid? a.idField).isSome then do
    let now ← Action.now
    match a.recordEvent? t act r log now with
    | some e => Session.push e
    | none => pure ()
  else pure ()

/-- The unit of work with its writes audited. -/
def wrap (a : Auditor) (sink : Sink κ) (tx : Transaction τ) :
    Transaction (Session τ κ) where
  find t field value := Session.onWork (tx.find t field value)
  insert t r := do
    let stored ← Session.onWork (tx.insert t r)
    a.queue t .create stored []
    pure stored
  update t r := do
    let stored ← Session.onWork (tx.update t r)
    if r.changes.isEmpty then pure () else a.queue t .update stored r.changes
    pure stored
  delete t r := do
    Session.onWork (tx.delete t r)
    a.queue t .delete r []
  commit := do
    Session.onWork tx.commit
    Action.of fun w => (.ok (), { w with
      state.pending := []
      state.sink := sink.writeAll w.state.pending w.state.sink })
  rollback := Session.onWork tx.rollback

end Auditor

end TenantTables.Audit
