import TenantTables.Supply

/-!
# Running actions

What each way of building an action does to a world, as equations. The proofs
about stores and services rewrite with these and never look into the monad.

Two properties of actions are carried through whole operations. An action
keeps a part of the state if no run changes that part, however it ends. It
fails clean if a run that fails has not changed the part: this is all that is
asked of an operation whose last step commits, since a step that cannot fail
may follow anything.
-/

namespace TenantTables.Action

variable {σ τ π α β : Type}

@[simp] theorem runIn_pure (x : α) (w : World σ) :
    (pure x : Action σ α).runIn w = (.ok x, w) := rfl

@[simp] theorem runIn_of (f : World σ → Except Error α × World σ)
    (w : World σ) : (Action.of f).runIn w = f w := rfl

@[simp] theorem runIn_lift (r : Except Error α) (w : World σ) :
    (Action.lift r : Action σ α).runIn w = (r, w) := rfl

@[simp] theorem runIn_now (w : World σ) :
    (Action.now : Action σ _).runIn w =
      (.ok w.supply.now.1, { w with supply := w.supply.now.2 }) := rfl

@[simp] theorem runIn_drawing (f : Supply → α × Supply) (w : World σ) :
    (Action.drawing f : Action σ α).runIn w =
      (.ok (f w.supply).1, { w with supply := (f w.supply).2 }) := rfl

@[simp] theorem runIn_attempt (a : Action σ α) (w : World σ) :
    a.attempt.runIn w = (.ok (a.runIn w).1, (a.runIn w).2) := rfl

@[simp] theorem runIn_zoom (get : σ → τ) (set : σ → τ → σ) (a : Action τ α)
    (w : World σ) :
    (a.zoom get set).runIn w =
      ((a.runIn ⟨get w.state, w.supply⟩).1,
        ⟨set w.state (a.runIn ⟨get w.state, w.supply⟩).2.state,
          (a.runIn ⟨get w.state, w.supply⟩).2.supply⟩) := rfl

/-- A sequence runs its second part where the first has left off. -/
theorem runIn_bind_ok {a : Action σ α} {k : α → Action σ β}
    {w w' : World σ} {x : α} (h : a.runIn w = (.ok x, w')) :
    (a >>= k).runIn w = (k x).runIn w' := by
  show (ExceptT.bindCont k (a.runIn w).1 : StateM (World σ) _) (a.runIn w).2 = _
  rw [h]
  rfl

theorem runIn_bind_error {a : Action σ α} {k : α → Action σ β} {w w' : World σ}
    {e : Error} (h : a.runIn w = (.error e, w')) :
    (a >>= k).runIn w = (.error e, w') := by
  show (ExceptT.bindCont k (a.runIn w).1 : StateM (World σ) _) (a.runIn w).2 = _
  rw [h]
  rfl

theorem runIn_bind_pure {a : Action σ α} {w w' : World σ} {r : Except Error α}
    (h : a.runIn w = (r, w')) (f : α → β) :
    (a >>= fun x => pure (f x)).runIn w = (r.map f, w') := by
  cases r with
  | error e => exact runIn_bind_error h
  | ok x => exact runIn_bind_ok h

theorem runIn_of_toOption {a : Action σ α} {w : World σ} {x : α}
    (h : (a.runIn w).1.toOption = some x) :
    a.runIn w = (.ok x, (a.runIn w).2) := by
  rcases hrun : a.runIn w with ⟨_ | y, w'⟩
  · rw [hrun] at h
    cases h
  · rw [hrun] at h
    rw [Option.some.inj h]

/-- A sequence that succeeds does so in both parts. -/
theorem ok_of_runIn_bind {a : Action σ α} {k : α → Action σ β} {w w'' : World σ}
    {y : β} (h : (a >>= k).runIn w = (.ok y, w'')) :
    ∃ x w', a.runIn w = (.ok x, w') ∧ (k x).runIn w' = (.ok y, w'') := by
  rcases ha : a.runIn w with ⟨r, w'⟩
  cases r with
  | error e =>
      rw [runIn_bind_error ha] at h
      simp at h
  | ok x =>
      rw [runIn_bind_ok ha] at h
      exact ⟨x, w', rfl, h⟩

/-- A sequence that fails does so in its first part, or in its second where the
first has left off. -/
theorem error_of_runIn_bind {a : Action σ α} {k : α → Action σ β}
    {w w'' : World σ} {e : Error} (h : (a >>= k).runIn w = (.error e, w'')) :
    a.runIn w = (.error e, w'') ∨
      ∃ x w', a.runIn w = (.ok x, w') ∧ (k x).runIn w' = (.error e, w'') := by
  rcases ha : a.runIn w with ⟨r, w'⟩
  cases r with
  | error e' =>
      rw [runIn_bind_error ha, Prod.mk.injEq, Except.error.injEq] at h
      obtain ⟨rfl, rfl⟩ := h
      exact .inl rfl
  | ok x =>
      rw [runIn_bind_ok ha] at h
      exact .inr ⟨x, w', rfl, h⟩

/-! ## Parts of the state that a run keeps -/

/-- No run of the action changes this part of the state. -/
def Keeps (part : σ → π) (a : Action σ α) : Prop :=
  ∀ w, part (a.runIn w).2.state = part w.state

/-- A run that fails has not changed this part of the state. -/
def FailsClean (part : σ → π) (a : Action σ α) : Prop :=
  ∀ w e w', a.runIn w = (.error e, w') → part w'.state = part w.state

/-- No run of the action fails. -/
def Succeeds (a : Action σ α) : Prop :=
  ∀ w, ∃ x w', a.runIn w = (.ok x, w')

variable {part : σ → π} {a : Action σ α} {k : α → Action σ β}

theorem Keeps.failsClean (h : Keeps part a) : FailsClean part a := by
  intro w e w' hw
  have := h w
  rw [hw] at this
  exact this

theorem Succeeds.not_error (h : Succeeds a) {w w' : World σ} {e : Error} :
    a.runIn w ≠ (.error e, w') := by
  intro hw
  obtain ⟨x, w'', hok⟩ := h w
  rw [hok] at hw
  simp at hw

theorem keeps_pure (x : α) : Keeps part (pure x : Action σ α) :=
  fun _ => rfl

theorem keeps_lift (r : Except Error α) :
    Keeps part (Action.lift r : Action σ α) :=
  fun _ => rfl

theorem keeps_now : Keeps part (Action.now : Action σ _) :=
  fun _ => rfl

theorem keeps_drawing (f : Supply → α × Supply) :
    Keeps part (Action.drawing f : Action σ α) :=
  fun _ => rfl

theorem Keeps.attempt (h : Keeps part a) : Keeps part a.attempt :=
  fun w => h w

theorem Keeps.bind (ha : Keeps part a) (hk : ∀ x, Keeps part (k x)) :
    Keeps part (a >>= k) := by
  intro w
  have hw := ha w
  rcases hrun : a.runIn w with ⟨r, w'⟩
  rw [hrun] at hw
  cases r with
  | error e =>
      rw [runIn_bind_error hrun]
      exact hw
  | ok x =>
      rw [runIn_bind_ok hrun]
      exact (hk x w').trans hw

/-- What keeps a part may come before what fails clean. -/
theorem Keeps.bind_failsClean (ha : Keeps part a)
    (hk : ∀ x, FailsClean part (k x)) :
    FailsClean part (a >>= k) := by
  intro w e w'' h
  rcases error_of_runIn_bind h with hfail | ⟨x, w', hrun, hfail⟩
  · exact ha.failsClean w e w'' hfail
  · have hw := ha w
    rw [hrun] at hw
    exact (hk x w' e w'' hfail).trans hw

/-- What cannot fail may come after what fails clean. -/
theorem FailsClean.bind_succeeds (ha : FailsClean part a)
    (hk : ∀ x, Succeeds (k x)) :
    FailsClean part (a >>= k) := by
  intro w e w'' h
  rcases error_of_runIn_bind h with hfail | ⟨x, w', -, hfail⟩
  · exact ha w e w'' hfail
  · exact absurd hfail (hk x).not_error

theorem succeeds_pure (x : α) : Succeeds (pure x : Action σ α) :=
  fun w => ⟨x, w, rfl⟩

theorem Succeeds.bind (ha : Succeeds a) (hk : ∀ x, Succeeds (k x)) :
    Succeeds (a >>= k) := by
  intro w
  obtain ⟨x, w', hrun⟩ := ha w
  rw [runIn_bind_ok hrun]
  exact hk x w'

end TenantTables.Action
