import TenantTables.Audit.Session
import TenantTables.Proofs.ImportEntry

/-!
# Two runs side by side

What an operation may depend on is a statement about two of its runs. States are
related where they are alike in what may be depended on. An action respects the
relation if from related states, and one supply, both runs answer the same, use
the supply up alike, and end in related states.

Actions that respect a relation can be put in sequence, so an operation respects
what its calls respect. For units of work this is said once for the calls on a
table, whatever the store: auditing the calls and importing rows ask no more.
-/

namespace TenantTables

namespace Action

variable {σ τ α β : Type} {R : σ → σ → Prop} {Q : τ → τ → Prop}

/-- Worlds whose states are related, with one supply. -/
def Beside (R : σ → σ → Prop) (w v : World σ) : Prop :=
  R w.state v.state ∧ w.supply = v.supply

/-- Runs that start beside each other answer the same and end
beside each other. -/
def Respects (R : σ → σ → Prop) (a : Action σ α) : Prop :=
  ∀ w v, Beside R w v →
    (a.runIn w).1 = (a.runIn v).1 ∧ Beside R (a.runIn w).2 (a.runIn v).2

theorem respects_pure (x : α) : Respects R (pure x : Action σ α) :=
  fun _ _ h => ⟨rfl, h⟩

theorem respects_lift (r : Except Error α) :
    Respects R (Action.lift r : Action σ α) :=
  fun _ _ h => ⟨rfl, h⟩

/-- What is drawn depends on the supply alone. -/
theorem respects_drawing (f : Supply → α × Supply) :
    Respects R (Action.drawing f : Action σ α) := by
  intro w v h
  obtain ⟨hstate, hsupply⟩ := h
  rw [runIn_drawing, runIn_drawing, hsupply]
  exact ⟨rfl, hstate, rfl⟩

theorem respects_now : Respects R (Action.now : Action σ _) :=
  respects_drawing Supply.now

theorem respects_fresh : Respects R (Action.fresh : Action σ _) :=
  respects_drawing Supply.fresh

/-- A change of the state alone, which always succeeds. -/
theorem respects_change {x : α} {f : σ → σ}
    (hf : ∀ {s t}, R s t → R (f s) (f t)) :
    Respects R (Action.of fun w => (.ok x, { w with state := f w.state }) :
      Action σ α) :=
  fun _ _ h => ⟨rfl, hf h.1, h.2⟩

variable {a : Action σ α} {k : α → Action σ β}

theorem Respects.attempt (h : Respects R a) : Respects R a.attempt := by
  intro w v hbeside
  obtain ⟨hanswer, hbehind⟩ := h w v hbeside
  rw [runIn_attempt, runIn_attempt, hanswer]
  exact ⟨rfl, hbehind⟩

theorem Respects.bind (ha : Respects R a) (hk : ∀ x, Respects R (k x)) :
    Respects R (a >>= k) := by
  intro w v hbeside
  obtain ⟨hanswer, hbehind⟩ := ha w v hbeside
  rcases hw : a.runIn w with ⟨r, w'⟩
  rcases hv : a.runIn v with ⟨r', v'⟩
  rw [hw, hv] at hanswer hbehind
  obtain rfl : r = r' := hanswer
  cases r with
  | error e =>
      rw [runIn_bind_error hw, runIn_bind_error hv]
      exact ⟨rfl, hbehind⟩
  | ok x =>
      rw [runIn_bind_ok hw, runIn_bind_ok hv]
      exact hk x w' v' hbehind

/-- Behind a check that needs no state, only its success matters. -/
theorem respects_lift_bind {r : Except Error α}
    (hk : ∀ x, r = .ok x → Respects R (k x)) :
    Respects R (Action.lift r >>= k) := by
  intro w v hbeside
  cases r with
  | error e =>
      rw [runIn_bind_error (runIn_lift _ w), runIn_bind_error (runIn_lift _ v)]
      exact ⟨rfl, hbeside⟩
  | ok x =>
      rw [runIn_bind_ok (runIn_lift _ w), runIn_bind_ok (runIn_lift _ v)]
      exact hk x rfl w v hbeside

/-- An action on a part of the state respects what its part respects. -/
theorem Respects.zoom {a : Action τ α} (ha : Respects Q a) {get : σ → τ}
    {set : σ → τ → σ} (hget : ∀ {s t}, R s t → Q (get s) (get t))
    (hset : ∀ {s t p q}, R s t → Q p q → R (set s p) (set t q)) :
    Respects R (a.zoom get set) := by
  intro w v hbeside
  obtain ⟨hanswer, hpart, hsupply⟩ :=
    ha ⟨get w.state, w.supply⟩ ⟨get v.state, v.supply⟩
      ⟨hget hbeside.1, hbeside.2⟩
  rw [runIn_zoom, runIn_zoom]
  exact ⟨hanswer, hset hbeside.1 hpart, hsupply⟩

end Action

open TenantTables.Action (Respects)

/-! ## Units of work -/

/-- The calls of a unit of work on a table respect a relation. -/
structure Transaction.RespectsOn {τ : Type} (tx : Transaction τ) (t : TableName)
    (R : τ → τ → Prop) : Prop where
  find (field value : String) : Respects R (tx.find t field value)
  insert (r : Record) : Respects R (tx.insert t r)
  update (r : Record) : Respects R (tx.update t r)
  delete (r : Record) : Respects R (tx.delete t r)
  commit : Respects R tx.commit
  rollback : Respects R tx.rollback

namespace Import.Plan

variable {τ : Type} {p : Plan τ} {R : τ → τ → Prop}

theorem respects_enter (hp : p.transaction.RespectsOn p.table R) (row : Row) :
    Respects R (p.enter row) := by
  have hexisting : Respects R (p.existing (row.id? p.spec.idField)) := by
    unfold existing
    split
    · exact hp.find _ _
    · exact Action.respects_pure _
  refine hexisting.bind fun found => ?_
  split
  · exact Action.respects_pure _
  · unfold writeEntry
    cases found with
    | some r => exact (hp.update _).bind fun _ => Action.respects_pure _
    | none =>
        refine (Action.respects_drawing _).bind fun attributes => ?_
        exact (hp.insert _).bind fun _ => Action.respects_pure _

theorem respects_applyRows (hp : p.transaction.RespectsOn p.table R)
    (rows : List Row) (summary : Summary) :
    Respects R (p.applyRows rows summary) := by
  induction rows generalizing summary with
  | nil => exact Action.respects_pure _
  | cons row rows ih =>
      have happly : Respects R (p.applyRow row summary) := by
        rw [applyRow_eq]
        exact (respects_enter hp row).bind fun _ => Action.respects_pure _
      refine happly.attempt.bind fun answer => ?_
      cases answer with
      | ok summary => exact ih summary
      | error e => exact hp.rollback.attempt.bind fun _ =>
          Action.respects_lift _

theorem respects_reconcile (hp : p.transaction.RespectsOn p.table R)
    (rows : List Row) :
    Respects R (p.reconcile rows) :=
  (respects_applyRows hp rows _).bind fun _ =>
    hp.commit.bind fun _ => Action.respects_pure _

end Import.Plan

/-! ## Audited units of work -/

namespace Audit

variable {τ κ : Type}

/-- Sinks that have got the same events, each on top of what it had. -/
def Sink.GotSame (sink : Sink κ) (before before' after after' : κ) : Prop :=
  ∃ events, after = sink.writeAll events before ∧
    after' = sink.writeAll events before'

theorem Sink.gotSame_refl (sink : Sink κ) (k k' : κ) : sink.GotSame k k' k k' :=
  ⟨[], rfl, rfl⟩

theorem Sink.GotSame.writeAll {sink : Sink κ} {k k' l l' : κ}
    (h : sink.GotSame k k' l l') (events : List Event) :
    sink.GotSame k k' (sink.writeAll events l) (sink.writeAll events l') := by
  obtain ⟨earlier, rfl, rfl⟩ := h
  refine ⟨earlier ++ events, ?_, ?_⟩
  · exact (List.foldl_append ..).symm
  · exact (List.foldl_append ..).symm

/-- Sessions whose units of work are related, with the same events waiting and
the same events sent since two states of the sink. -/
structure Session.Beside (R : τ → τ → Prop) (sink : Sink κ) (k k' : κ)
    (session session' : Session τ κ) : Prop where
  work : R session.work session'.work
  pending : session.pending = session'.pending
  sent : sink.GotSame k k' session.sink session'.sink

variable {R : τ → τ → Prop} {sink : Sink κ} {k k' : κ} {α : Type}

theorem Session.respects_onWork {a : Action τ α} (h : Respects R a) :
    Respects (Session.Beside R sink k k') (Session.onWork a) :=
  h.zoom (fun hs => hs.work) fun hs hwork => ⟨hwork, hs.pending, hs.sent⟩

theorem Session.respects_push (e : Event) :
    Respects (Session.Beside R sink k k') (Session.push e) :=
  Action.respects_change (f := fun s : Session τ κ =>
    { s with pending := s.pending ++ [e] })
    fun hs => ⟨hs.work, congrArg (· ++ [e]) hs.pending, hs.sent⟩

/-- Committing sends the events that wait. -/
theorem Session.Beside.send {session session' : Session τ κ}
    (h : Session.Beside R sink k k' session session') :
    Session.Beside R sink k k'
      { session with
        pending := [], sink := sink.writeAll session.pending session.sink }
      { session' with
        pending := [], sink := sink.writeAll session'.pending session'.sink } :=
  ⟨h.work, rfl, h.pending ▸ h.sent.writeAll _⟩

namespace Auditor

variable (auditor : Auditor)

theorem respects_queue (t : TableName) (act : Act) (r : Record)
    (log : List Change) :
    Respects (Session.Beside R sink k k') (auditor.queue t act r log) := by
  unfold queue
  split
  · refine Action.respects_now.bind fun now => ?_
    cases auditor.recordEvent? t act r log now with
    | none => exact Action.respects_pure _
    | some e => exact Session.respects_push e
  · exact Action.respects_pure _

theorem respectsOn_wrap {tx : Transaction τ} {t : TableName}
    (h : tx.RespectsOn t R) :
    (auditor.wrap sink tx).RespectsOn t (Session.Beside R sink k k') where
  find field value := Session.respects_onWork (h.find field value)
  insert r := by
    refine (Session.respects_onWork (h.insert r)).bind fun stored => ?_
    exact (auditor.respects_queue t .create stored []).bind
      fun _ => Action.respects_pure _
  update r := by
    refine (Session.respects_onWork (h.update r)).bind fun stored => ?_
    split
    · exact Action.respects_pure _
    · exact (auditor.respects_queue t .update stored r.changes).bind fun _ =>
        Action.respects_pure _
  delete r :=
    (Session.respects_onWork (h.delete r)).bind fun _ => auditor.respects_queue
      t .delete r []
  commit :=
    (Session.respects_onWork h.commit).bind fun _ => Action.respects_change
      (f := fun s : Session τ κ =>
        { s with pending := [], sink := sink.writeAll s.pending s.sink })
      Session.Beside.send
  rollback := Session.respects_onWork h.rollback

end Auditor

end Audit

end TenantTables
