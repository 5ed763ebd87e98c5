import TenantTables.Postgres.Store
import TenantTables.Proofs.ActionRun
import TenantTables.Proofs.ObjectKeys
import TenantTables.Proofs.PhysicalName

/-!
# Tables, and what is known of them

A table is in the database from the statement that creates it to the statement
that drops it, and it is known to the cache from the note that it exists to the
note that it may not. This file says what each part of a call does to either,
one part at a time, and in these words only.

Of the database nothing is known but what its statements are documented to do
where they succeed. The cache forgets by the clock as well; with a clock on
which the time to live never passes, an entry is fresh for as long as it is
there.
-/

namespace TenantTables.Postgres

open Sql (Statement)
open Time (Instant)

variable {δ : Type} {holds : δ → TableName → Prop}

/-! ## Tables of the database -/

/-- What statements on tables do where they succeed. `CREATE TABLE IF NOT
EXISTS` leaves a table behind, new or not, and `DROP TABLE IF EXISTS` leaves
none; indexes and the bounds of a transaction are no matter of tables. The
names of indexes are taken to be no names of tables. -/
structure Peer.DefinesTables (p : Peer δ) (spec : TableSpec)
    (holds : δ → TableName → Prop) :
    Prop where
  bound {b : Boundary} {d d' : δ} : b ≠ .rollback → p.bound b d = (.ok (), d') →
    ∀ t, holds d' t ↔ holds d t
  createTable {u : TableName} {d d' : δ} {reply : Reply} :
    p.execute (.plain (Sql.createTable spec u.physical)) d = (.ok reply, d') →
      ∀ t, holds d' t ↔ t = u ∨ holds d t
  createIndex {u : TableName} {i : Index} {d d' : δ} {reply : Reply} :
    i ∈ spec.indexes →
    p.execute (.plain (Sql.createIndex u.physical i)) d = (.ok reply, d') →
      ∀ t, holds d' t ↔ holds d t
  dropTable {u : TableName} {d d' : δ} {reply : Reply} :
    p.execute (.plain (Sql.dropTable u.physical)) d = (.ok reply, d') →
      ∀ t, holds d' t ↔ t ≠ u ∧ holds d t

section Exchange

variable {p : Peer δ} {α : Type}

theorem execute_of_query {st : Statement} {reply : Reply} {w w' : World δ}
    (h : (p.query st).runIn w = (.ok reply, w')) :
    p.execute st w.state = (.ok reply, w'.state) ∧ w'.supply = w.supply := by
  unfold Peer.query at h
  rw [Action.runIn_of] at h
  rcases hexecute : p.execute st w.state with ⟨r, d⟩
  rw [hexecute, Prod.mk.injEq] at h
  obtain ⟨hr, rfl⟩ := h
  cases r with
  | error fault => cases hr
  | ok answer =>
      obtain rfl := Except.ok.inj hr
      exact ⟨rfl, rfl⟩

theorem bound_of_issue {b : Boundary} {x : Unit} {w w' : World δ}
    (h : (p.issue b).runIn w = (.ok x, w')) :
    p.bound b w.state = (.ok (), w'.state) ∧ w'.supply = w.supply := by
  unfold Peer.issue at h
  rw [Action.runIn_of] at h
  rcases hbound : p.bound b w.state with ⟨r, d⟩
  rw [hbound, Prod.mk.injEq] at h
  obtain ⟨hr, rfl⟩ := h
  cases r with
  | error fault => cases hr
  | ok answer => exact ⟨rfl, rfl⟩

theorem of_onPeer {a : Action δ α} {x : α} {w w' : World (Database δ)}
    (h : (Store.onPeer a).runIn w = (.ok x, w')) :
    ∃ v, a.runIn ⟨w.state.peer, w.supply⟩ = (.ok x, v) ∧
      w' = ⟨{ w.state with peer := v.state }, v.supply⟩ := by
  obtain ⟨hx, hw⟩ := Prod.mk.inj h
  exact ⟨_, Prod.ext hx rfl, hw.symm⟩

theorem of_inWork {a : Action δ α} {x : α} {w w' : World (Work δ)}
    (h : (Store.inWork a).runIn w = (.ok x, w')) :
    ∃ v, a.runIn ⟨w.state.database.peer, w.supply⟩ = (.ok x, v) ∧
      w' =
        ⟨{ w.state with database := { w.state.database with peer := v.state } },
        v.supply⟩ := by
  obtain ⟨hx, hw⟩ := Prod.mk.inj h
  exact ⟨_, Prod.ext hx rfl, hw.symm⟩

/-- Statements that change no table change none one after the other. -/
theorem holds_of_queryAll {statements : List Statement} {w w' : World δ}
    (hkeep : ∀ st ∈ statements, ∀ d d' reply, p.execute st d = (.ok reply, d') →
      ∀ t, holds d' t ↔ holds d t)
    (h : (p.queryAll statements).runIn w = (.ok (), w')) :
    (∀ t, holds w'.state t ↔ holds w.state t) ∧ w'.supply = w.supply := by
  induction statements generalizing w with
  | nil =>
      obtain ⟨-, rfl⟩ := Prod.mk.inj h
      exact ⟨fun t => Iff.rfl, rfl⟩
  | cons st statements ih =>
      obtain ⟨reply, v, hquery, hrest⟩ := Action.ok_of_runIn_bind h
      obtain ⟨hexecute, hsupply⟩ := execute_of_query hquery
      obtain ⟨hholds, hsupply'⟩ :=
        ih (fun st' hst => hkeep st' (List.mem_cons_of_mem st hst)) hrest
      refine ⟨fun t => ?_, hsupply'.trans hsupply⟩
      rw [hholds t, hkeep st List.mem_cons_self _ _ _ hexecute t]

end Exchange

namespace Store

variable {s : Store δ} {t u : TableName} {w w' : World (Database δ)}

theorem holds_of_creation (hp : s.peer.DefinesTables s.spec holds)
    {w w' : World δ}
    (h : (s.peer.queryAll (s.creation u)).runIn w = (.ok (), w')) :
    (∀ t, holds w'.state t ↔ t = u ∨ holds w.state t) ∧
      w'.supply = w.supply := by
  obtain ⟨reply, v, hquery, hrest⟩ := Action.ok_of_runIn_bind h
  obtain ⟨hexecute, hsupply⟩ := execute_of_query hquery
  have hindexes :
      ∀ st ∈ (Sql.createIndexes s.spec u.physical).map Statement.plain,
      ∀ d d' reply, s.peer.execute st d = (.ok reply, d') → ∀ t, holds d' t ↔
        holds d t := by
    intro st hst d d' reply hexecute'
    obtain ⟨sql, hsql, rfl⟩ := List.mem_map.1 hst
    obtain ⟨i, hi, rfl⟩ := List.mem_map.1 hsql
    exact hp.createIndex hi hexecute'
  obtain ⟨hholds, hsupply'⟩ := holds_of_queryAll hindexes hrest
  refine ⟨fun t => ?_, hsupply'.trans hsupply⟩
  rw [hholds t, hp.createTable hexecute t]

theorem start_ok {work : Work δ} (h : s.start.runIn w = (.ok work, w')) :
    s.peer.bound .start w.state.peer = (.ok (), w'.state.peer) ∧
      work = ⟨w'.state, true⟩ ∧ w'.state.cache = w.state.cache ∧
      w'.supply = w.supply := by
  obtain ⟨x, v, hissue, hpure⟩ := Action.ok_of_runIn_bind h
  obtain ⟨v', hbegin, rfl⟩ := of_onPeer hissue
  obtain ⟨hbound, hsupply⟩ := bound_of_issue hbegin
  obtain ⟨hwork, rfl⟩ := Prod.mk.inj hpure
  obtain rfl := Except.ok.inj hwork
  exact ⟨hbound, rfl, rfl, hsupply⟩

theorem finishWith_ok {b : Boundary} {w w' : World (Work δ)}
    (h : (s.finishWith b).runIn w = (.ok (), w')) :
    s.peer.bound b w.state.database.peer = (.ok (), w'.state.database.peer) ∧
      w'.state.isOpen = false ∧
      w'.state.database.cache = w.state.database.cache ∧
      w'.supply = w.supply := by
  obtain ⟨x, v, hissue, hclose⟩ := Action.ok_of_runIn_bind h
  obtain ⟨v', hend, rfl⟩ := of_inWork hissue
  obtain ⟨hbound, hsupply⟩ := bound_of_issue hend
  rw [close, Action.runIn_of, Prod.mk.injEq] at hclose
  obtain ⟨-, rfl⟩ := hclose
  exact ⟨hbound, rfl, rfl, hsupply⟩

theorem create_runIn {work : Work δ} {outer : World (Database δ)}
    {inner : World (Work δ)} {r : Except Error Unit}
    (hstart : s.start.runIn w = (.ok work, outer))
    (hbody :
      (do inWork (s.peer.queryAll (s.creation u)); s.finishWith .commit).runIn
      ⟨work, outer.supply⟩ = (r, inner)) :
    (s.create u).runIn w = (r, ⟨s.finish inner.state, inner.supply⟩) := by
  rw [create, Action.runIn_of, hstart]
  dsimp only
  rw [hbody]

/-- A creation that succeeds leaves the table behind, and the cache alone. -/
theorem create_ok (hp : s.peer.DefinesTables s.spec holds)
    (h : (s.create u).runIn w = (.ok (), w')) :
    (∀ t, holds w'.state.peer t ↔ t = u ∨ holds w.state.peer t) ∧
      w'.state.cache = w.state.cache ∧ w'.supply = w.supply := by
  rcases hstart : s.start.runIn w with ⟨_ | work, outer⟩
  · rw [create, Action.runIn_of, hstart] at h
    cases h
  · rcases hbody :
      (do inWork (s.peer.queryAll (s.creation u)); s.finishWith .commit).runIn
      ⟨work, outer.supply⟩ with ⟨r, inner⟩
    rw [create_runIn hstart hbody, Prod.mk.injEq] at h
    obtain ⟨rfl, rfl⟩ := h
    obtain ⟨hbegin, rfl, hcache, hsupply⟩ := start_ok hstart
    obtain ⟨x, v, hcreate, hcommit⟩ := Action.ok_of_runIn_bind hbody
    obtain ⟨v', hdefine, rfl⟩ := of_inWork hcreate
    obtain ⟨hholds, hsupply'⟩ := holds_of_creation hp hdefine
    obtain ⟨hend, hclosed, hcache', hsupply''⟩ := finishWith_ok hcommit
    have hfinish : s.finish inner.state = inner.state.database := by
      rw [finish, hclosed, if_neg Bool.false_ne_true]
    rw [hfinish]
    refine ⟨fun t =>
      ?_, hcache'.trans hcache, hsupply''.trans (hsupply'.trans hsupply)⟩
    rw [hp.bound (by decide) hend t, hholds t, hp.bound (by decide) hbegin t]

/-- A drop that succeeds leaves no table behind, and the cache alone. -/
theorem drop_ok (hp : s.peer.DefinesTables s.spec holds) {reply : Reply}
    (h : (onPeer (s.peer.query (.plain (Sql.dropTable u.physical)))).runIn w =
      (.ok reply, w')) :
    (∀ t, holds w'.state.peer t ↔ t ≠ u ∧ holds w.state.peer t) ∧
      w'.state.cache = w.state.cache ∧ w'.supply = w.supply := by
  obtain ⟨v, hquery, rfl⟩ := of_onPeer h
  obtain ⟨hexecute, hsupply⟩ := execute_of_query hquery
  exact ⟨hp.dropTable hexecute, rfl, hsupply⟩

end Store

/-! ## Tables that the cache knows -/

def TableCache.Knows (c : TableCache) (t : TableName) : Prop :=
  (c.entries.lookup t.physical).isSome = true

/-- Whether the cache has a fresh entry for a table, by the
clock of the world. -/
def IsFresh (w : World (Database δ)) (t : TableName) : Prop :=
  (w.state.cache.check w.supply.now.1 t.physical).1 = true

/-- No time to live ever passes: the clock never gets so far from any of its
readings, and the entries of the cache are readings of it. -/
structure Lasting (w : World (Database δ)) : Prop where
  clock : ∀ i j,
    TableCache.elapsed (w.supply.instants i) (w.supply.instants j) <
      (w.state.cache.seconds : Int) * 1000000000
  entries : ∀ e ∈ w.state.cache.entries, ∃ i, e.2 = w.supply.instants i

namespace TableCache

variable {c : TableCache} {t u : TableName}

theorem knows_forget : (c.forget u.physical).Knows t ↔ t ≠ u ∧ c.Knows t := by
  have hname : t.physical = u.physical ↔ t = u :=
    ⟨TableName.physical_injective, congrArg _⟩
  unfold Knows forget
  rw [Json.Object.lookup_filter (· != u.physical)]
  by_cases htu : t = u
  · simp [htu]
  · simp [hname, htu]

/-- With no stale entries about, a note drops none. -/
theorem remember_eq {now : Instant}
    (h : ∀ e ∈ c.entries, c.isFreshAt now e.2 = true) (n : String) :
    c.remember now n =
      { c with entries := (c.forget n).entries ++ [(n, now)] } := by
  unfold remember
  rw [List.filter_eq_self.2 h]

theorem knows_remember {now : Instant}
    (h : ∀ e ∈ c.entries, c.isFreshAt now e.2 = true) :
    (c.remember now u.physical).Knows t ↔ t = u ∨ c.Knows t := by
  have hforget :
      ((c.forget u.physical).entries.lookup t.physical).isSome = true ↔
        t ≠ u ∧ c.Knows t := knows_forget
  rw [remember_eq h, Knows, List.lookup_append, Option.isSome_or,
    Bool.or_eq_true, hforget]
  by_cases htu : t = u
  · simp [htu]
  · have hname : t.physical ≠ u.physical :=
      fun heq => htu (TableName.physical_injective heq)
    simp [htu, List.lookup_cons, beq_false_of_ne hname]

end TableCache

namespace Lasting

variable {w w' : World (Database δ)} {t u : TableName}

theorem isFreshAt (h : Lasting w) {e : String × Instant}
    (he : e ∈ w.state.cache.entries) (j : Nat) :
    w.state.cache.isFreshAt (w.supply.instants j) e.2 = true := by
  obtain ⟨i, hi⟩ := h.entries e he
  rw [TableCache.isFreshAt, hi]
  exact decide_eq_true (h.clock i j)

theorem check_eq (h : Lasting w) (t : TableName) :
    w.state.cache.check w.supply.now.1 t.physical =
      ((w.state.cache.entries.lookup t.physical).isSome, w.state.cache) := by
  unfold TableCache.check
  cases hseen : w.state.cache.entries.lookup t.physical with
  | none => rfl
  | some seen =>
      obtain ⟨before, after, hentries, -⟩ := List.lookup_eq_some_iff.1 hseen
      have hmem : (t.physical, seen) ∈ w.state.cache.entries := by
        simp [hentries]
      dsimp only
      rw [show w.supply.now.1 = w.supply.instants w.supply.instantsUsed
        from rfl,
        h.isFreshAt hmem, if_pos rfl]
      rfl

theorem isFresh_iff (h : Lasting w) : IsFresh w t ↔ w.state.cache.Knows t := by
  rw [IsFresh, h.check_eq t]
  exact Iff.rfl

/-- The clock goes on, and what is noted is noted at a reading of it. -/
theorem of_entries (h : Lasting w)
    (hclock : w'.supply.instants = w.supply.instants)
    (hseconds : w'.state.cache.seconds = w.state.cache.seconds)
    (hentries : ∀ e ∈ w'.state.cache.entries,
      e ∈ w.state.cache.entries ∨ e.2 = w.supply.now.1) : Lasting w' where
  clock i j := by
    rw [hclock, hseconds]
    exact h.clock i j
  entries e he := by
    rw [hclock]
    obtain hold | hnew := hentries e he
    · exact h.entries e hold
    · exact ⟨w.supply.instantsUsed, hnew⟩

theorem checkCache_runIn (h : Lasting w) (t : TableName) :
    (Store.checkCache t).runIn w =
      (.ok (w.state.cache.entries.lookup t.physical).isSome,
        ⟨w.state, w.supply.now.2⟩) := by
  show (Except.ok (w.state.cache.check w.supply.now.1 t.physical).1,
    (⟨{ w.state
      with cache := (w.state.cache.check w.supply.now.1 t.physical).2 },
      w.supply.now.2⟩ : World (Database δ))) = _
  rw [h.check_eq t]

theorem check_ok (h : Lasting w) {known : Bool}
    (hrun : (Store.checkCache t).runIn w = (.ok known, w')) :
    Lasting w' ∧ w'.state = w.state := by
  rw [h.checkCache_runIn, Prod.mk.injEq] at hrun
  obtain ⟨-, rfl⟩ := hrun
  exact ⟨h.of_entries rfl rfl fun _ he => .inl he, rfl⟩

theorem remember_ok (h : Lasting w)
    (hrun : (Store.rememberTable u).runIn w = (.ok (), w')) :
    Lasting w' ∧ w'.state.peer = w.state.peer ∧
      ∀ t, w'.state.cache.Knows t ↔ t = u ∨ w.state.cache.Knows t := by
  obtain rfl : ((Store.rememberTable u).runIn w).2 = w' :=
    congrArg Prod.snd hrun
  refine ⟨h.of_entries rfl rfl fun e he => ?_, rfl, fun t => ?_⟩
  · obtain hmem | hmem := List.mem_append.1 he
    · exact .inl (List.mem_filter.1 (List.mem_filter.1 hmem).1).1
    · exact .inr (congrArg Prod.snd (List.mem_singleton.1 hmem))
  · exact TableCache.knows_remember fun _ he =>
      h.isFreshAt he w.supply.instantsUsed

theorem forget_ok (h : Lasting w)
    (hrun : (Store.forgetTable u).runIn w = (.ok (), w')) :
    Lasting w' ∧ w'.state.peer = w.state.peer ∧
      ∀ t, w'.state.cache.Knows t ↔ t ≠ u ∧ w.state.cache.Knows t := by
  obtain rfl : ((Store.forgetTable u).runIn w).2 = w' := congrArg Prod.snd hrun
  exact ⟨h.of_entries rfl rfl fun _ he => .inl (List.mem_filter.1 he).1, rfl,
    fun t => TableCache.knows_forget⟩

end Lasting

end TenantTables.Postgres
