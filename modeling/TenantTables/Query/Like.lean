/-!
# Wildcard patterns

In a pattern `%` stands for any run of characters, `_` for any one character,
and every other character for itself. A text is matched from left to right. The
run of a `%` is empty at first; where matching gets stuck further on, the run of
the last `%` is made longer by one character, and what follows is matched anew.
The runs of earlier ones stay as they are.
-/

namespace TenantTables.Query

/-- How far a match has come: what is left of the pattern and of the text. -/
structure Attempt where
  pattern : List Char
  text : List Char
  /-- What was left of both behind the run of the last `%`. -/
  star : Option (List Char × List Char)
  /-- Since then every character of the pattern took one of the text. -/
  since : ∀ s ∈ star, ∃ ps cs, s = (ps ++ pattern, cs ++ text) ∧
    ps.length = cs.length ∧ '%' ∉ ps

namespace Attempt

/-- Nothing is matched yet. -/
def start (pattern text : List Char) : Attempt := ⟨pattern, text, none, nofun⟩

/-- The run of a `%` has ended in front of this text. -/
def behindStar (pattern text : List Char) : Attempt where
  pattern := pattern
  text := text
  star := some (pattern, text)
  since := by
    rintro s ⟨⟩
    exact ⟨[], [], rfl, rfl, List.not_mem_nil⟩

/-- One character of the pattern has taken one of the text. -/
def takeOne (a : Attempt) {p c : Char} {ps cs : List Char}
    (hp : a.pattern = p :: ps) (ht : a.text = c :: cs)
    (hne : p ≠ '%') : Attempt where
  pattern := ps
  text := cs
  star := a.star
  since := by
    intro s hs
    obtain ⟨qs, ds, rfl, hlength, hstar⟩ := a.since s hs
    refine ⟨qs ++ [p], ds ++ [c], ?_, by simp [hlength], ?_⟩
    · rw [hp, ht, List.append_cons, List.append_cons ds]
    · simp [hstar, hne.symm]

/-- Makes the run of the last `%` longer by one character, if there is one. -/
def widen (a : Attempt) : Bool ⊕ Attempt :=
  match a.star with
  | some (ps, _ :: cs) => .inr (behindStar ps cs)
  | _ => .inl false

/-- The answer, or how far the match has come behind one step. -/
def step (a : Attempt) : Bool ⊕ Attempt :=
  match ht : a.text with
  | [] => .inl (a.pattern.all (· = '%'))
  | c :: cs =>
      match hp : a.pattern with
      | [] => a.widen
      | p :: ps =>
          if hne : p = '%' then .inr (behindStar ps (c :: cs))
          else if p = '_' ∨ p = c then .inr (a.takeOne hp ht hne)
          else a.widen

/-- Something is left of the text, and the pattern has nothing that takes it. -/
def Stuck (a : Attempt) : Prop :=
  a.text ≠ [] ∧ ∀ p ps c cs, a.pattern = p :: ps → a.text = c :: cs →
    p ≠ '%' ∧ ¬ (p = '_' ∨ p = c)

/-- All that a step can do. -/
theorem step_cases (a : Attempt) :
    (a.text = [] ∧ a.step = .inl (a.pattern.all (· = '%'))) ∨
    (∃ ps, a.pattern = '%' :: ps ∧ a.step = .inr (behindStar ps a.text)) ∨
    (∃ p ps c cs,
      ∃ (hp : a.pattern = p :: ps) (ht : a.text = c :: cs) (hne : p ≠ '%'),
      (p = '_' ∨ p = c) ∧ a.step = .inr (a.takeOne hp ht hne)) ∨
    (a.Stuck ∧ a.step = a.widen) := by
  unfold step
  split
  · next ht => exact .inl ⟨ht, rfl⟩
  · next c cs ht =>
      have hleft : a.text ≠ [] := by simp [ht]
      split
      · next hp => exact .inr (.inr (.inr ⟨⟨hleft, by simp [hp]⟩, rfl⟩))
      · next p ps hp =>
          split
          · next hstar => exact .inr (.inl ⟨ps, hstar ▸ hp, by rw [ht]⟩)
          · next hne =>
              split
              · next htakes =>
                  exact .inr
                    (.inr (.inl ⟨p, ps, c, cs, hp, ht, hne, htakes, rfl⟩))
              · next hother =>
                  refine .inr
                    (.inr (.inr ⟨⟨hleft, fun q qs d ds hq hd => ?_⟩, rfl⟩))
                  obtain ⟨rfl, -⟩ := List.cons.inj (hp.symm.trans hq)
                  obtain ⟨rfl, -⟩ := List.cons.inj (ht.symm.trans hd)
                  exact ⟨hne, hother⟩

/-- How much text the last `%` may still be given; before the first,
more than there is. -/
def room (a : Attempt) : Nat :=
  match a.star with
  | some (_, text) => text.length
  | none => a.text.length + 1

/-- How much of the pattern a longer run would bring back. -/
def reach (a : Attempt) : Nat :=
  match a.star with
  | some (pattern, _) => pattern.length
  | none => a.pattern.length

/-- More steps than the match can still take: what is left of the pattern, and
all of the reach for each character of the room. -/
def stepsLeft (a : Attempt) : Nat :=
  a.room * (a.reach + 1) + a.pattern.length

theorem length_le_of_star {a : Attempt} {ps cs : List Char}
    (h : a.star = some (ps, cs)) :
    a.pattern.length ≤ ps.length ∧ a.text.length ≤ cs.length := by
  obtain ⟨qs, ds, heq, -⟩ := a.since _ h
  obtain ⟨rfl, rfl⟩ := Prod.mk.inj heq
  simp

theorem stepsLeft_of_widen {a b : Attempt} (h : a.widen = .inr b) :
    b.stepsLeft < a.stepsLeft := by
  unfold widen at h
  split at h
  · next ps c cs hstar =>
      obtain rfl := Sum.inr.inj h
      simp only [stepsLeft, room, reach, behindStar, hstar, List.length_cons,
        Nat.succ_mul]
      omega
  · cases h

/-- A `%` takes over from the one before, with no more room and
a shorter reach. -/
theorem stepsLeft_behindStar {a : Attempt} {p : Char} {ps : List Char}
    (hp : a.pattern = p :: ps) :
    (behindStar ps a.text).stepsLeft < a.stepsLeft := by
  have hle : a.text.length ≤ a.room ∧ ps.length + 1 ≤ a.reach := by
    cases hstar : a.star with
    | none => simp [room, reach, hstar, hp]
    | some s =>
        obtain ⟨hpattern, htext⟩ := length_le_of_star hstar
        rw [hp, List.length_cons] at hpattern
        simp only [room, reach, hstar]
        exact ⟨htext, hpattern⟩
  have hmul : a.text.length * (ps.length + 1) ≤ a.room * (a.reach + 1) :=
    Nat.mul_le_mul hle.1 (by omega)
  show a.text.length * (ps.length + 1) + ps.length <
      a.room * (a.reach + 1) + a.pattern.length
  rw [hp, List.length_cons]
  omega

theorem stepsLeft_takeOne {a : Attempt} {p c : Char} {ps cs : List Char}
    (hp : a.pattern = p :: ps) (ht : a.text = c :: cs) (hne : p ≠ '%') :
    (a.takeOne hp ht hne).stepsLeft < a.stepsLeft := by
  have hle : (a.takeOne hp ht hne).room ≤ a.room ∧
      (a.takeOne hp ht hne).reach ≤ a.reach := by
    cases hstar : a.star with
    | none => simp [room, reach, takeOne, hstar, hp, ht]
    | some s => simp [room, reach, takeOne, hstar]
  have hmul := Nat.mul_le_mul hle.1 (Nat.add_le_add_right hle.2 1)
  show _ * _ + ps.length < a.room * (a.reach + 1) + a.pattern.length
  rw [hp, List.length_cons]
  omega

theorem stepsLeft_of_step {a b : Attempt} (h : a.step = .inr b) :
    b.stepsLeft < a.stepsLeft := by
  obtain ⟨-, hstep⟩ | ⟨ps, hp, hstep⟩ | ⟨p, ps, c, cs, hp, ht, hne, -,
      hstep⟩ | ⟨-, hstep⟩ :=
    a.step_cases
  · cases h.symm.trans hstep
  · obtain rfl := Sum.inr.inj (h.symm.trans hstep)
    exact stepsLeft_behindStar hp
  · obtain rfl := Sum.inr.inj (h.symm.trans hstep)
    exact stepsLeft_takeOne hp ht hne
  · exact stepsLeft_of_widen (hstep.symm.trans h)

/-- Steps until there is an answer. -/
def run (a : Attempt) : Bool :=
  match _h : a.step with
  | .inl answer => answer
  | .inr b => b.run
termination_by a.stepsLeft
decreasing_by exact stepsLeft_of_step _h

end Attempt

/-- Whether a text matches a pattern. -/
def like (pattern text : String) : Bool :=
  (Attempt.start pattern.toList text.toList).run

end TenantTables.Query
