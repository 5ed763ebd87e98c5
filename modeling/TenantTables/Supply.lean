import TenantTables.Error
import TenantTables.Time.Instant

/-!
# Time and fresh identifiers

Stored rows carry the time of their writing, and records without an identifier
get a fresh one. Both are drawn from a supply that is threaded through every
operation: two runs from the same supply draw the same values in the same
order.

A world is a state together with the supply. An action runs in a world, and the
world it leaves behind is there whether it succeeds or fails.
-/

namespace TenantTables

open Time (Instant)

/-- A clock and a source of identifiers, with how much of each has been used. -/
structure Supply where
  instants : Nat → Instant
  identifiers : Nat → String
  instantsUsed : Nat
  identifiersUsed : Nat

namespace Supply

/-- The current instant. Every reading advances the clock. -/
def now (s : Supply) : Instant × Supply :=
  (s.instants s.instantsUsed, { s with instantsUsed := s.instantsUsed + 1 })

/-- An identifier that was not handed out before. -/
def fresh (s : Supply) : String × Supply :=
  (s.identifiers s.identifiersUsed,
    { s with identifiersUsed := s.identifiersUsed + 1 })

end Supply

/-- A state, and the supply that operations on it draw from. -/
structure World (σ : Type) where
  state : σ
  supply : Supply

/-- An operation on a world that may fail. -/
abbrev Action (σ α : Type) := ExceptT Error (StateM (World σ)) α

namespace Action

/-- Runs an action. -/
def runIn {σ α : Type} (a : Action σ α) (w : World σ) :
    Except Error α × World σ :=
  StateT.run (ExceptT.run a) w

/-- The action with the given outcome. -/
def of {σ α : Type} (f : World σ → Except Error α × World σ) : Action σ α :=
  ExceptT.mk fun w => f w

/-- Reads the clock. -/
def now {σ : Type} : Action σ Instant :=
  Action.of fun w =>
    let (t, supply) := w.supply.now
    (.ok t, { w with supply })

/-- Draws an identifier. -/
def fresh {σ : Type} : Action σ String :=
  Action.of fun w =>
    let (id, supply) := w.supply.fresh
    (.ok id, { w with supply })

/-- Uses the supply and leaves the state alone. -/
def drawing {σ α : Type} (f : Supply → α × Supply) : Action σ α :=
  Action.of fun w =>
    let (a, supply) := f w.supply
    (.ok a, { w with supply })

/-- Reads the state. -/
def state {σ : Type} : Action σ σ :=
  Action.of fun w => (.ok w.state, w)

/-- Replaces the state. -/
def put {σ : Type} (s : σ) : Action σ Unit :=
  Action.of fun w => (.ok (), { w with state := s })

/-- The outcome of a computation that needs no world. -/
def lift {σ α : Type} (r : Except Error α) : Action σ α :=
  Action.of fun w => (r, w)

/-- The outcome of an action as a value: this never fails. -/
def attempt {σ α : Type} (a : Action σ α) : Action σ (Except Error α) :=
  Action.of fun w =>
    let (r, w) := a.runIn w
    (.ok r, w)

/-- Runs an action on a part of the state. -/
def zoom {σ τ α : Type} (get : σ → τ) (set : σ → τ → σ)
    (a : Action τ α) : Action σ α :=
  Action.of fun w =>
    let (r, inner) := a.runIn ⟨get w.state, w.supply⟩
    (r, ⟨set w.state inner.state, inner.supply⟩)

end Action

end TenantTables
