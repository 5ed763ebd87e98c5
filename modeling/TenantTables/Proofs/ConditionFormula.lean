import TenantTables.Memory.Table
import TenantTables.Sql.Condition

/-!
# A condition as a formula over its clauses

The store in memory and the database each leave out of a filter what they do not
know, and they have to leave out the same: a group that one side drops and the
other keeps empty turns everything into nothing.

Here a condition is read the way SQL reads it, with the conditions of clauses as
atoms. `Evaluates` is the grammar, one level for each strength of binding, and
it gives every condition a value. That it gives only one is not seen from the
rules, since they do not say where to cut. `scan` reads from left to right and
cuts nowhere; it finds the value of every reading, so there is but one.

Negation is part of a clause here, so conjunction and disjunction are all there
is, and a clause that is unknown may be counted as false.
-/

namespace TenantTables.Sql

open Query
open Json (Object)

/-- A part of a condition. Its atoms are what clauses become. -/
inductive Piece (α : Type) where
  | atom (a : α)
  | opening
  | closing
  | and
  | or
  deriving DecidableEq, Repr

/-- What the parts of a condition are to each other, from the loosest to the
tightest. -/
inductive Binding where
  | disjunction
  | conjunction
  | operand

/-- The readings of a condition and their values: `AND` binds tighter than `OR`,
and parentheses make an operand of anything. -/
inductive Evaluates {α : Type} (v : α → Bool) :
    Binding → List (Piece α) → Bool → Prop
  | atom (a : α) : Evaluates v .operand [.atom a] (v a)
  | parentheses {ps : List (Piece α)} {b : Bool}
      (h : Evaluates v .disjunction ps b) :
      Evaluates v .operand (.opening :: ps ++ [.closing]) b
  | operand {ps : List (Piece α)} {b : Bool} (h : Evaluates v .operand ps b) :
      Evaluates v .conjunction ps b
  | and {ps qs : List (Piece α)} {a b : Bool}
      (h : Evaluates v .conjunction ps a)
      (h' : Evaluates v .operand qs b) :
        Evaluates v .conjunction (ps ++ .and :: qs) (a && b)
  | conjunction {ps : List (Piece α)} {b : Bool}
      (h : Evaluates v .conjunction ps b) :
      Evaluates v .disjunction ps b
  | or {ps qs : List (Piece α)} {a b : Bool} (h : Evaluates v .disjunction ps a)
      (h' : Evaluates v .conjunction qs b) :
        Evaluates v .disjunction (ps ++ .or :: qs) (a || b)

/-! ## A condition has one value -/

/-- What is known of a condition that is read up to some place: whether an
alternative before the present one is true, and the present one so far. -/
structure Reading where
  before : Bool
  current : Bool

namespace Reading

def value (r : Reading) : Bool := r.before || r.current

def meet (r : Reading) (b : Bool) : Reading :=
  { r with current := r.current && b }

theorem meet_meet (r : Reading) (a b : Bool) :
    (r.meet a).meet b = r.meet (a && b) := by
  simp [meet, Bool.and_assoc]

end Reading

section Scan

variable {α : Type} {v : α → Bool} {ps : List (Piece α)} {a b : Bool}

/-- Reads from left to right. What stands around an open parenthesis waits. -/
def scan (v : α → Bool) : List Reading → Reading → List (Piece α) → Bool
  | _, r, [] => r.value
  | outer, r, .atom a :: ps => scan v outer (r.meet (v a)) ps
  | outer, r, .opening :: ps => scan v (r :: outer) ⟨false, true⟩ ps
  | [], r, .closing :: ps => scan v [] r ps
  | o :: outer, r, .closing :: ps => scan v outer (o.meet r.value) ps
  | outer, r, .and :: ps => scan v outer r ps
  | outer, r, .or :: ps => scan v outer ⟨r.value, true⟩ ps

/-- A scan makes of these pieces what a value makes: of an operand and of a
conjunction one more conjunct, and of a disjunction alternatives, of which the
last may still go on. -/
def ScansAs (v : α → Bool) : Binding → List (Piece α) → Bool → Prop
  | .disjunction, ps, b =>
      ∀ outer before rest, ∃ r : Reading, r.value = (before || b) ∧
        scan v outer ⟨before, true⟩ (ps ++ rest) = scan v outer r rest
  | _, ps, b =>
      ∀ outer r rest, scan v outer r (ps ++ rest) = scan v outer (r.meet b) rest

theorem Evaluates.scansAs {level : Binding} (h : Evaluates v level ps b) :
    ScansAs v level ps b := by
  induction h with
  | atom a => exact fun outer r rest => rfl
  | parentheses _ ih =>
      intro outer r rest
      obtain ⟨inner, hvalue, hscan⟩ := ih (r :: outer) false (.closing :: rest)
      rw [List.cons_append, List.cons_append, List.append_assoc,
        List.singleton_append, scan, hscan, scan, hvalue, Bool.false_or]
  | operand _ ih => exact ih
  | and _ _ ih ih' =>
      intro outer r rest
      rw [List.append_assoc, ih, List.cons_append, scan, ih', Reading.meet_meet]
  | @conjunction _ b _ ih =>
      intro outer before rest
      exact ⟨⟨before, b⟩, rfl, ih outer ⟨before, true⟩ rest⟩
  | @or ps qs _ b _ _ ih ih' =>
      intro outer before rest
      obtain ⟨r, hvalue, hscan⟩ := ih outer before (.or :: qs ++ rest)
      refine ⟨⟨r.value, b⟩, ?_, ?_⟩
      · rw [Reading.value, hvalue, Bool.or_assoc]
      · rw [List.append_assoc, hscan, List.cons_append, scan, ih']
        rfl

theorem Evaluates.unique (ha : Evaluates v .disjunction ps a)
    (hb : Evaluates v .disjunction ps b) : a = b := by
  obtain ⟨r, hr, hscan⟩ := ha.scansAs [] false []
  obtain ⟨s, hs, hscan'⟩ := hb.scansAs [] false []
  have hvalue : r.value = s.value := by
    simpa only [scan] using hscan.symm.trans hscan'
  rwa [hr, hs, Bool.false_or, Bool.false_or] at hvalue

end Scan

/-! ## Conjunctions of groups -/

section Formula

variable {α : Type} {v : α → Bool}

/-- Parts with a piece between every two. -/
def joined (separator : Piece α) : List (List (Piece α)) → List (Piece α)
  | [] => []
  | part :: parts => part ++ parts.flatMap (separator :: ·)

/-- A group: its alternatives in parentheses. -/
def groupPieces (g : List α) : List (Piece α) :=
  .opening :: joined .or (g.map fun a => [.atom a]) ++ [.closing]

/-- The formula of groups that must all hold. There is none without groups. -/
def formula? (gs : List (List α)) : Option (List (Piece α)) :=
  if gs.isEmpty then none else some (joined .and (gs.map groupPieces))

/-- The value of a condition that may be absent; what is absent
excludes nothing. -/
def Decides (v : α → Bool) : Option (List (Piece α)) → Bool → Prop
  | none, b => b = true
  | some ps, b => Evaluates v .disjunction ps b

theorem evaluates_alternatives {ps : List (Piece α)} {a : Bool}
    (h : Evaluates v .disjunction ps a) (g : List α) :
    Evaluates v .disjunction
      (ps ++ (g.map fun a => [Piece.atom a]).flatMap (.or :: ·))
      (a || g.any v) := by
  induction g generalizing ps a with
  | nil => simpa using h
  | cons x g ih =>
      have hnext := ih (h.or (.operand (.atom x)))
      simpa [Bool.or_assoc] using hnext

theorem evaluates_groupPieces {g : List α} (hne : g ≠ []) :
    Evaluates v .operand (groupPieces g) (g.any v) := by
  cases g with
  | nil => exact absurd rfl hne
  | cons x g =>
      exact (evaluates_alternatives (.conjunction (.operand (.atom x)))
        g).parentheses

theorem evaluates_conjuncts {ps : List (Piece α)} {a : Bool}
    (h : Evaluates v .conjunction ps a) {gs : List (List α)}
    (hne : ∀ g ∈ gs, g ≠ []) :
    Evaluates v .conjunction (ps ++ (gs.map groupPieces).flatMap (.and :: ·))
      (a && gs.all (·.any v)) := by
  induction gs generalizing ps a with
  | nil => simpa using h
  | cons g gs ih =>
      rw [List.forall_mem_cons] at hne
      have hnext := ih (h.and (evaluates_groupPieces hne.1)) hne.2
      simpa [Bool.and_assoc] using hnext

/-- Groups that are not empty come to this: of each one, some
alternative is true. -/
theorem decides_iff {gs : List (List α)} (hne : ∀ g ∈ gs, g ≠ []) {b : Bool} :
    Decides v (formula? gs) b ↔ b = gs.all (·.any v) := by
  cases gs with
  | nil => rfl
  | cons g gs =>
      rw [List.forall_mem_cons] at hne
      have hread :
          Evaluates v .disjunction (joined .and ((g :: gs).map groupPieces))
          ((g :: gs).all (·.any v)) :=
        .conjunction
          (evaluates_conjuncts (.operand (evaluates_groupPieces hne.1)) hne.2)
      constructor
      · exact fun h => h.unique hread
      · rintro rfl
        exact hread

end Formula

/-! ## The text of a condition -/

/-- The text of a piece; an atom is a clause and the condition
that it became. -/
def Piece.text : Piece (Clause × String) → String
  | .atom (_, sql) => sql
  | .opening => "("
  | .closing => ")"
  | .and => " AND "
  | .or => " OR "

/-- The text of pieces. -/
def textOf (ps : List (Piece (Clause × String))) : String :=
  String.join (ps.map Piece.text)

theorem textOf_cons (p : Piece (Clause × String))
    (ps : List (Piece (Clause × String))) :
    textOf (p :: ps) = p.text ++ textOf ps :=
  String.join_cons

theorem textOf_append (ps qs : List (Piece (Clause × String))) :
    textOf (ps ++ qs) = textOf ps ++ textOf qs := by
  rw [textOf, List.map_append, String.join_append]
  rfl

theorem textOf_joined (separator : Piece (Clause × String))
    (parts : List (List (Piece (Clause × String)))) :
    textOf (joined separator parts) =
      separator.text.intercalate (parts.map textOf) := by
  cases parts with
  | nil => exact String.intercalate_nil.symm
  | cons part parts =>
      rw [joined]
      induction parts generalizing part with
      | nil => simp
      | cons next parts ih =>
          rw [List.map_cons, List.map_cons, String.intercalate_cons_cons,
            ← List.map_cons, ← ih, List.flatMap_cons]
          simp only [textOf_append, textOf_cons, String.append_assoc]

theorem textOf_groupPieces (g : List (Clause × String)) :
    textOf (groupPieces g) =
      "(" ++ " OR ".intercalate (g.map Prod.snd) ++ ")" := by
  have hatoms :
      (g.map fun a => [Piece.atom a]).map textOf = g.map Prod.snd := by
    rw [List.map_map]
    exact List.map_congr_left fun a _ => by simp [textOf, Piece.text]
  rw [groupPieces, List.cons_append, textOf_cons, textOf_append,
    textOf_joined, hatoms]
  simp [textOf, Piece.text, String.append_assoc]

/-! ## What a filter becomes -/

/-- The conditions of clauses one after the other: each binds its values behind
those that the clauses before it have bound. -/
inductive Writes (spec : TableSpec) :
    Params → List (Clause × String) → Params → Prop
  | nil (p : Params) : Writes spec p [] p
  | cons {p q p' : Params} {c : Clause} {sql : String}
    {atoms : List (Clause × String)}
      (h : clause spec c p = (some sql, q)) (hrest : Writes spec q atoms p') :
      Writes spec p ((c, sql) :: atoms) p'

section Condition

variable {spec : TableSpec} {p q p' : Params}

theorem Writes.append {as bs : List (Clause × String)} (ha : Writes spec p as q)
    (hb : Writes spec q bs p') : Writes spec p (as ++ bs) p' := by
  induction ha with
  | nil => exact hb
  | cons h _ ih => exact .cons h (ih hb)

/-- Whether a clause is on a known column. -/
def isKnown (spec : TableSpec) (c : Clause) : Bool :=
  (spec.columnRef? c.column).isSome

theorem clauses_written (spec : TableSpec) (cs : List Clause) (p : Params) :
    ∃ atoms, Writes spec p atoms (clauses spec cs p).2 ∧
      atoms.map Prod.fst = cs.filter (isKnown spec) ∧
      (clauses spec cs p).1 = atoms.map Prod.snd := by
  induction cs generalizing p with
  | nil => exact ⟨[], .nil p, rfl, rfl⟩
  | cons c cs ih =>
      cases hr : spec.columnRef? c.column with
      | none =>
          obtain ⟨atoms, hwrites, hclauses, htexts⟩ := ih p
          have hskip : clause spec c p = (none, p) := by rw [clause, hr]
          refine ⟨atoms, ?_, ?_, ?_⟩
          · rwa [clauses, hskip]
          · rwa [List.filter_cons_of_neg (by simp [isKnown, hr])]
          · rw [clauses, hskip]
            exact htexts
      | some r =>
          obtain ⟨atoms, hwrites, hclauses, htexts⟩ := ih (clauseOn r c p).2
          have hwrite : clause spec c p =
              (some (clauseOn r c p).1, (clauseOn r c p).2) := by
            rw [clause, hr]
          refine ⟨(c, (clauseOn r c p).1) :: atoms, ?_, ?_, ?_⟩
          · rw [clauses, hwrite]
            exact .cons hwrite hwrites
          · rw [List.filter_cons_of_pos (by simp [isKnown, hr]), List.map_cons,
              hclauses]
          · rw [clauses, hwrite, List.map_cons, ← htexts]
            rfl

theorem groups_written (spec : TableSpec) (fs : List (List Clause))
    (p : Params) :
    ∃ gs : List (List (Clause × String)),
      Writes spec p gs.flatten (groups spec fs p).2 ∧
      gs.map (·.map Prod.fst) =
        (fs.map (·.filter (isKnown spec))).filter
          (fun group => !group.isEmpty) ∧
      (groups spec fs p).1 = gs.map fun g => textOf (groupPieces g) := by
  induction fs generalizing p with
  | nil => exact ⟨[], .nil p, rfl, rfl⟩
  | cons f fs ih =>
      obtain ⟨atoms, hwrites, hclauses, htexts⟩ := clauses_written spec f p
      obtain ⟨gs, hrest, hgroups, hgroupTexts⟩ := ih (clauses spec f p).2
      rw [groups, List.map_cons, ← hclauses]
      dsimp only
      rw [htexts, hgroupTexts]
      cases atoms with
      | nil => exact ⟨gs, hwrites.append hrest, hgroups, rfl⟩
      | cons a atoms =>
          refine ⟨(a :: atoms) :: gs, hwrites.append hrest, ?_, ?_⟩
          · rw [List.map_cons, hgroups, List.filter_cons_of_pos (by simp)]
          · exact congrArg (· :: _) (textOf_groupPieces (a :: atoms)).symm

end Condition

/-- The condition of a filter is the conjunction, group by group, of the clauses
that the store in memory keeps, no group being empty, and it is absent if
nothing is kept. So whatever the truth of clauses is, the condition comes to the
same value as the kept filter: of each of its groups, some clause is true. -/
theorem condition_decides_as_known_filter (spec : TableSpec) (f : Filter)
    (p : Params) :
    ∃ gs : List (List (Clause × String)),
      gs.map (·.map Prod.fst) = (Memory.knownFilter spec f).groups ∧
      (∀ g ∈ gs, g ≠ []) ∧
      Writes spec p gs.flatten (condition spec f p).2 ∧
      (condition spec f p).1 = (formula? gs).map textOf ∧
      ((condition spec f p).1 = none ↔
        (Memory.knownFilter spec f).groups = []) ∧
      (∀ (truth : Clause → Bool) (b : Bool),
        Decides (fun a => truth a.1) (formula? gs) b ↔
          b = (Memory.knownFilter spec f).groups.all fun group =>
            group.any truth) ∧
      ∀ (row : Object) (b : Bool),
        Decides (fun a => a.1.holds row) (formula? gs) b ↔
          b = (Memory.knownFilter spec f).holds row := by
  obtain ⟨gs, hwrites, hgroups, htexts⟩ := groups_written spec f.groups p
  have hknown : gs.map (·.map Prod.fst) = (Memory.knownFilter spec f).groups :=
    hgroups
  have hne : ∀ g ∈ gs, g ≠ [] := by
    rintro g hg rfl
    have hmem : [] ∈ gs.map (·.map Prod.fst) := List.mem_map_of_mem hg
    rw [hgroups] at hmem
    simpa using (List.mem_filter.1 hmem).2
  have htext : (condition spec f p).1 = (formula? gs).map textOf := by
    unfold condition formula?
    dsimp only
    rw [htexts, List.isEmpty_map]
    split
    · rfl
    · rw [Option.map_some, textOf_joined, List.map_map]
      rfl
  have hdecides : ∀ (truth : Clause → Bool) (b : Bool),
      Decides (fun a => truth a.1) (formula? gs) b ↔
        b = (Memory.knownFilter spec f).groups.all fun group =>
          group.any truth := by
    intro truth b
    rw [decides_iff hne, ← hknown, List.all_map]
    simp only [Function.comp_def, List.any_map]
  refine ⟨gs, hknown, hne, hwrites, htext, ?_, hdecides, fun row =>
    hdecides (·.holds row)⟩
  rw [htext, ← hknown, Option.map_eq_none_iff, List.map_eq_nil_iff]
  unfold formula?
  split
  · next h => exact ⟨fun _ => List.isEmpty_iff.1 h, fun _ => rfl⟩
  · next h =>
      exact ⟨fun heq => by simp at heq, fun heq =>
        absurd (List.isEmpty_iff.2 heq) h⟩

end TenantTables.Sql
