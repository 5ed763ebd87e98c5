import Mathlib.Data.List.Forall2
import Mathlib.Data.List.Infix
import TenantTables.Query.Clause
import TenantTables.Query.Like

/-!
# Which texts a pattern matches

A text fits a pattern if it splits into consecutive pieces, one for each
character of the pattern: any run for `%`, one character for `_`, and itself for
every other. This file shows that matching with one place to return to finds
such pieces exactly if there are any.

What has to be shown is that nothing is lost when a `%` is passed and the one
before it is forgotten. Between the two, each character of the pattern takes one
of the text. So if a longer run of the earlier `%` led to a match, the later one
would be met further to the right, and it could have taken what lies between as
well. That is `canWiden_fits`, and it is why what an attempt can still become,
`Succeeds`, is the same behind every step.
-/

namespace TenantTables.Query

/-! ## Pieces of a text -/

/-- The piece of a text that a character of a pattern takes. -/
def Takes (p : Char) (piece : List Char) : Prop :=
  if p = '%' then True else if p = '_' then piece.length = 1 else piece = [p]

/-- A text that splits into pieces, one for each character of a pattern. -/
def Fits (pattern text : List Char) : Prop :=
  ∃ pieces, List.Forall₂ Takes pattern pieces ∧ pieces.flatten = text

variable {p : Char} {ps qs text : List Char}

theorem fits_nil : Fits [] text ↔ text = [] := by
  constructor
  · rintro ⟨pieces, hpieces, rfl⟩
    cases hpieces
    rfl
  · rintro rfl
    exact ⟨[], .nil, rfl⟩

theorem fits_cons : Fits (p :: ps) text ↔
    ∃ piece rest, text = piece ++ rest ∧ Takes p piece ∧ Fits ps rest := by
  constructor
  · rintro ⟨pieces, hpieces, rfl⟩
    cases hpieces with
    | @cons _ piece _ pieces hp hps =>
        exact ⟨piece, _, rfl, hp, pieces, hps, rfl⟩
  · rintro ⟨piece, rest, rfl, hp, pieces, hps, rfl⟩
    exact ⟨piece :: pieces, .cons hp hps, rfl⟩

theorem fits_append : Fits (ps ++ qs) text ↔
    ∃ front rest, text = front ++ rest ∧ Fits ps front ∧ Fits qs rest := by
  induction ps generalizing text with
  | nil =>
      constructor
      · intro h
        exact ⟨[], text, rfl, fits_nil.2 rfl, h⟩
      · rintro ⟨front, rest, rfl, hfront, h⟩
        rw [fits_nil.1 hfront]
        exact h
  | cons p ps ih =>
      rw [List.cons_append, fits_cons]
      constructor
      · rintro ⟨piece, rest, rfl, hp, hrest⟩
        obtain ⟨front, rest, rfl, hps, hqs⟩ := ih.1 hrest
        refine ⟨piece ++ front, rest, by rw [List.append_assoc], ?_, hqs⟩
        exact fits_cons.2 ⟨piece, front, rfl, hp, hps⟩
      · rintro ⟨front, rest, rfl, hfront, hqs⟩
        obtain ⟨piece, front, rfl, hp, hps⟩ := fits_cons.1 hfront
        refine ⟨piece, front ++ rest, by rw [List.append_assoc], hp, ?_⟩
        exact ih.2 ⟨front, rest, rfl, hps, hqs⟩

theorem fits_star :
    Fits ('%' :: ps) text ↔ ∃ rest, rest <:+ text ∧ Fits ps rest := by
  rw [fits_cons]
  constructor
  · rintro ⟨piece, rest, rfl, -, h⟩
    exact ⟨rest, ⟨piece, rfl⟩, h⟩
  · rintro ⟨rest, ⟨piece, rfl⟩, h⟩
    exact ⟨piece, rest, rfl, trivial, h⟩

theorem takes_one_iff (hne : p ≠ '%') {piece : List Char} :
    Takes p piece ↔ ∃ c, piece = [c] ∧ (p = '_' ∨ p = c) := by
  unfold Takes
  rw [if_neg hne]
  split
  · next hany => simp [List.length_eq_one_iff, hany]
  · next hself => simp [hself]

theorem fits_one (hne : p ≠ '%') : Fits (p :: ps) text ↔
    ∃ c cs, text = c :: cs ∧ (p = '_' ∨ p = c) ∧ Fits ps cs := by
  rw [fits_cons]
  constructor
  · rintro ⟨piece, rest, rfl, hp, h⟩
    obtain ⟨c, rfl, hc⟩ := (takes_one_iff hne).1 hp
    exact ⟨c, rest, rfl, hc, h⟩
  · rintro ⟨c, cs, rfl, hc, h⟩
    exact ⟨[c], cs, rfl, (takes_one_iff hne).2 ⟨c, rfl, hc⟩, h⟩

theorem fits_cons_cons (hne : p ≠ '%') {c : Char} {cs : List Char} :
    Fits (p :: ps) (c :: cs) ↔ (p = '_' ∨ p = c) ∧ Fits ps cs := by
  rw [fits_one hne]
  constructor
  · rintro ⟨c, cs, heq, hc, h⟩
    obtain ⟨rfl, rfl⟩ := List.cons.inj heq
    exact ⟨hc, h⟩
  · rintro ⟨hc, h⟩
    exact ⟨c, cs, rfl, hc, h⟩

theorem fits_empty_iff : Fits ps [] ↔ ps.all (· = '%') = true := by
  induction ps with
  | nil => simp [fits_nil]
  | cons p ps ih =>
      by_cases hp : p = '%'
      · subst hp
        simp [fits_star, ih]
      · simp [fits_one hp, hp]

/-- A pattern without `%` takes as many characters as it has. -/
theorem length_of_fits (hstar : '%' ∉ ps) (h : Fits ps text) :
    text.length = ps.length := by
  induction ps generalizing text with
  | nil => rw [fits_nil.1 h]
  | cons p ps ih =>
      rw [List.mem_cons, not_or] at hstar
      obtain ⟨c, cs, rfl, -, hps⟩ := (fits_one (Ne.symm hstar.1)).1 h
      rw [List.length_cons, List.length_cons, ih hstar.2 hps]

/-! ## What an attempt can become

Either what is left fits, or it will be brought back to a longer run of the last
`%`. Where the attempt is stuck only the second is possible. -/

namespace Attempt

/-- A longer run of the last `%` leads to a match. -/
def CanWiden (a : Attempt) : Prop :=
  ∃ ps cs rest, a.star = some (ps, cs) ∧ rest <:+ cs ∧ rest.length < cs.length ∧
    Fits ps rest

/-- What is left fits as it is, or behind a longer run of the last `%`. -/
def Succeeds (a : Attempt) : Prop :=
  Fits a.pattern a.text ∨ a.CanWiden

variable {a b : Attempt} {answer : Bool}

/-- If a longer run leads to a match, what is left of the pattern
fits further on. -/
theorem canWiden_fits (h : a.CanWiden) :
    ∃ rest, rest <:+ a.text ∧ rest.length < a.text.length ∧
      Fits a.pattern rest := by
  obtain ⟨ps, cs, rest, hstar, hsuffix, hlt, hfits⟩ := h
  obtain ⟨qs, ds, heq, hlength, hqs⟩ := a.since _ hstar
  obtain ⟨rfl, rfl⟩ := Prod.mk.inj heq
  obtain ⟨front, rest, rfl, hfront, hrest⟩ := fits_append.1 hfits
  -- The front pairs off with `qs`, as `ds` does, so the rest begins further on
  -- than what is left.
  have hsame := length_of_fits hqs hfront
  rw [List.length_append, List.length_append] at hlt
  refine ⟨rest, ?_, by omega, hrest⟩
  refine List.suffix_of_suffix_length_le
    ((List.suffix_append front rest).trans hsuffix)
    (List.suffix_append ds a.text) (by omega)

theorem succeeds_start (ps cs : List Char) :
    (start ps cs).Succeeds ↔ Fits ps cs := by
  constructor
  · rintro (h | ⟨_, _, _, hstar, -⟩)
    · exact h
    · cases hstar
  · exact .inl

theorem succeeds_behindStar (ps cs : List Char) :
    (behindStar ps cs).Succeeds ↔ Fits ('%' :: ps) cs := by
  rw [fits_star]
  constructor
  · rintro (h | ⟨_, _, rest, ⟨⟩, hsuffix, -, h⟩)
    · exact ⟨cs, List.suffix_rfl, h⟩
    · exact ⟨rest, hsuffix, h⟩
  · rintro ⟨rest, hsuffix, h⟩
    rcases Nat.lt_or_eq_of_le hsuffix.length_le with hlt | heq
    · exact .inr ⟨ps, cs, rest, rfl, hsuffix, hlt, h⟩
    · obtain rfl := hsuffix.eq_of_length heq
      exact .inl h

theorem succeeds_of_widen (h : a.widen = .inr b) : b.Succeeds ↔ a.CanWiden := by
  unfold widen at h
  split at h
  · next ps c cs hstar =>
      obtain rfl := Sum.inr.inj h
      rw [succeeds_behindStar, fits_star]
      constructor
      · rintro ⟨rest, hsuffix, hfits⟩
        exact ⟨ps, c :: cs, rest, hstar, hsuffix.trans (List.suffix_cons c cs),
          Nat.lt_succ_of_le hsuffix.length_le, hfits⟩
      · rintro ⟨_, _, rest, hstar', hsuffix, hlt, hfits⟩
        obtain ⟨rfl, rfl⟩ :=
          Prod.mk.inj (Option.some.inj (hstar.symm.trans hstar'))
        rcases List.suffix_cons_iff.1 hsuffix with rfl | hsuffix
        · exact absurd hlt (Nat.lt_irrefl _)
        · exact ⟨rest, hsuffix, hfits⟩
  · cases h

theorem canWiden_of_widen (h : a.widen = .inl answer) :
    answer = true ↔ a.CanWiden := by
  unfold widen at h
  split at h
  · cases h
  · next hnone =>
      obtain rfl := Sum.inl.inj h
      refine iff_of_false Bool.false_ne_true ?_
      rintro ⟨ps, cs, rest, hstar, -, hlt, -⟩
      cases cs with
      | nil => exact absurd hlt (Nat.not_lt_zero _)
      | cons c cs => exact hnone ps c cs hstar

theorem succeeds_of_stuck (h : a.Stuck) : a.Succeeds ↔ a.CanWiden := by
  refine or_iff_right fun hfits => ?_
  obtain ⟨hleft, hnone⟩ := h
  cases hp : a.pattern with
  | nil =>
      rw [hp] at hfits
      exact hleft (fits_nil.1 hfits)
  | cons p ps =>
      cases ht : a.text with
      | nil => exact hleft ht
      | cons c cs =>
          obtain ⟨hne, hother⟩ := hnone p ps c cs hp ht
          rw [hp, ht, fits_cons_cons hne] at hfits
          exact hother hfits.1

/-! ## Steps and runs

A step that gives the answer gives the right one, and any other leaves what the
attempt can become as it is. So the answer of a run says what the attempt could
become at its start, by induction on the steps. -/

theorem succeeds_of_answer (h : a.step = .inl answer) :
    answer = true ↔ a.Succeeds := by
  obtain ⟨ht, hstep⟩ | ⟨ps, -, hstep⟩ | ⟨p, ps, c, cs, hp, ht, hne, -, hstep⟩ |
    ⟨hstuck, hstep⟩ := a.step_cases
  · obtain rfl := Sum.inl.inj (h.symm.trans hstep)
    rw [← fits_empty_iff, Succeeds, ht]
    refine ⟨.inl, fun hsucceeds => hsucceeds.resolve_right fun hwiden => ?_⟩
    obtain ⟨rest, -, hlt, -⟩ := canWiden_fits hwiden
    rw [ht] at hlt
    exact Nat.not_lt_zero _ hlt
  · cases h.symm.trans hstep
  · cases h.symm.trans hstep
  · exact (canWiden_of_widen (hstep.symm.trans h)).trans
      (succeeds_of_stuck hstuck).symm

theorem succeeds_of_step (h : a.step = .inr b) : b.Succeeds ↔ a.Succeeds := by
  obtain ⟨-, hstep⟩ | ⟨ps, hp, hstep⟩ | ⟨p, ps, c, cs, hp, ht, hne, htakes,
      hstep⟩ |
    ⟨hstuck, hstep⟩ := a.step_cases
  · cases h.symm.trans hstep
  · obtain rfl := Sum.inr.inj (h.symm.trans hstep)
    rw [succeeds_behindStar, Succeeds, hp]
    refine ⟨.inl, fun hsucceeds => hsucceeds.elim id fun hwiden => ?_⟩
    -- What a longer run of the earlier `%` finds, this one can reach itself.
    obtain ⟨rest, hsuffix, -, hfits⟩ := canWiden_fits hwiden
    rw [hp, fits_star] at hfits
    obtain ⟨rest', hsuffix', hfits⟩ := hfits
    exact fits_star.2 ⟨rest', hsuffix'.trans hsuffix, hfits⟩
  · obtain rfl := Sum.inr.inj (h.symm.trans hstep)
    have hfits : Fits ps cs ↔ Fits a.pattern a.text := by
      rw [hp, ht, fits_cons_cons hne, and_iff_right htakes]
    exact or_congr hfits Iff.rfl
  · exact (succeeds_of_widen (hstep.symm.trans h)).trans
      (succeeds_of_stuck hstuck).symm

theorem run_iff_succeeds (a : Attempt) : a.run = true ↔ a.Succeeds := by
  fun_induction run a with
  | case1 a answer h => exact succeeds_of_answer h
  | case2 a b h ih => exact ih.trans (succeeds_of_step h)

/-- No attempt goes on for ever. -/
theorem wellFounded_step : WellFounded fun b a : Attempt => a.step = .inr b :=
  Subrelation.wf stepsLeft_of_step (measure stepsLeft).wf

end Attempt

theorem like_iff_fits (pattern text : String) :
    like pattern text = true ↔ Fits pattern.toList text.toList :=
  (Attempt.run_iff_succeeds _).trans (Attempt.succeeds_start _ _)

/-! ## Patterns of plain values -/

theorem fits_plain (hstar : '%' ∉ ps) (hany : '_' ∉ ps) :
    Fits ps text ↔ text = ps := by
  induction ps generalizing text with
  | nil => exact fits_nil
  | cons p ps ih =>
      rw [List.mem_cons, not_or] at hstar hany
      rw [fits_one (Ne.symm hstar.1)]
      constructor
      · rintro ⟨c, cs, rfl, hp, h⟩
        rw [(ih hstar.2 hany.2).1 h, hp.resolve_left (Ne.symm hany.1)]
      · rintro rfl
        exact ⟨p, ps, rfl, .inr rfl, (ih hstar.2 hany.2).2 rfl⟩

section Plain

variable {value : List Char} (hstar : '%' ∉ value) (hany : '_' ∉ value)
include hstar hany

theorem fits_startsWith : Fits (value ++ ['%']) text ↔ value <+: text := by
  rw [fits_append]
  constructor
  · rintro ⟨front, rest, rfl, hfront, -⟩
    rw [(fits_plain hstar hany).1 hfront]
    exact List.prefix_append value rest
  · rintro ⟨rest, rfl⟩
    refine ⟨value, rest, rfl, (fits_plain hstar hany).2 rfl,
      fits_star.2 ⟨[], ?_, fits_nil.2 rfl⟩⟩
    exact List.nil_suffix

theorem fits_endsWith : Fits ('%' :: value) text ↔ value <:+ text := by
  rw [fits_star]
  constructor
  · rintro ⟨rest, hsuffix, h⟩
    rwa [(fits_plain hstar hany).1 h] at hsuffix
  · intro h
    exact ⟨value, h, (fits_plain hstar hany).2 rfl⟩

theorem fits_contains :
    Fits ('%' :: (value ++ ['%'])) text ↔ value <:+: text := by
  rw [fits_star, List.infix_iff_prefix_suffix]
  simp only [fits_startsWith hstar hany, and_comm]

end Plain

/-- Matching takes finitely many steps, and succeeds exactly if the text splits
into pieces, one for each character of the pattern. So a value without wildcards
is looked for as it stands: inside, in front or at the end. -/
theorem like_splits_text :
    WellFounded (fun b a : Attempt => a.step = .inr b) ∧
    (∀ pattern text : String, like pattern text = true ↔
      ∃ pieces : List (List Char),
        List.Forall₂ Takes pattern.toList pieces ∧
          pieces.flatten = text.toList) ∧
    ∀ value text : String, '%' ∉ value.toList → '_' ∉ value.toList →
      (Operator.contains.likePattern? value).map (like · text) =
        some (decide (value.toList <:+: text.toList)) ∧
      (Operator.startsWith.likePattern? value).map (like · text) =
        some (decide (value.toList <+: text.toList)) ∧
      (Operator.endsWith.likePattern? value).map (like · text) =
        some (decide (value.toList <:+ text.toList)) := by
  refine ⟨Attempt.wellFounded_step, like_iff_fits,
    fun value text hstar hany => ?_⟩
  have hcontains : Fits ('%' :: (value.toList ++ ['%'])) text.toList ↔ _ :=
    fits_contains hstar hany
  have hstarts : Fits (value.toList ++ ['%']) text.toList ↔ _ :=
    fits_startsWith hstar hany
  have hends : Fits ('%' :: value.toList) text.toList ↔ _ :=
    fits_endsWith hstar hany
  refine ⟨congrArg some ?_, congrArg some ?_, congrArg some ?_⟩ <;>
    rw [Bool.eq_iff_iff, decide_eq_true_iff, like_iff_fits]
  · simpa using hcontains
  · simpa using hstarts
  · simpa using hends

/-- The first `%` is passed in front of `xx`, and the second gives up
on the first `b`. -/
example : like "%a%b_c" "xxaxbxbxc" = true := by decide +kernel

/-- A plain value is found inside a text that has wildcards itself. -/
theorem off_is_found_inside :
    '%' ∉ "off".toList ∧ '_' ∉ "off".toList ∧
      (Operator.contains.likePattern? "off").map (like · "50% off_") =
        some true := by
  have hstar : '%' ∉ "off".toList := by decide
  have hany : '_' ∉ "off".toList := by decide
  obtain ⟨-, -, hplain⟩ := like_splits_text
  obtain ⟨hcontains, -⟩ := hplain "off" "50% off_" hstar hany
  exact ⟨hstar, hany, hcontains.trans (congrArg some (by decide +kernel))⟩

end TenantTables.Query
