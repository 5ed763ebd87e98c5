import Mathlib.Logic.Function.Basic
import TenantTables.Proofs.SqlToken
import TenantTables.Proofs.StoreInvariant
import TenantTables.Proofs.TableExistence

/-!
# Calls that overlap

A store may be called again while a call waits for the database. What a call
does between two waits is one event: a table is looked up in the cache, created
and then remembered, or dropped and then forgotten. The events of one call come
in this order, and those of different calls come in any.

A history has its newest event in front. Two things can be read off it for each
table: whether the table is there, which is what the last creation or drop has
made of it, and whether the cache knows it, which is what was last noted. The
two agree as long as notes come in the order of what they note, and they need
not: a call that has created a table may be late to remember it. So a table
that is not there is known, once no call is under way, exactly if such a call
was overtaken by a whole drop.
-/

namespace TenantTables.Postgres

open Sql (Statement)

variable {δ : Type} {holds : δ → TableName → Prop}

/-! ## Events and histories -/

/-- What a call does between two waits. -/
inductive Act where
  /-- The cache has the table, and the call is over. -/
  | found
  | missed
  | created
  | remembered
  | dropped
  | forgotten
  deriving DecidableEq, Repr

structure Event where
  call : Nat
  act : Act
  table : TableName
  deriving DecidableEq

/-- Where a call stands, with the table that it has to go on with. -/
inductive Progress where
  | idle
  | creating (t : TableName)
  | remembering (t : TableName)
  | forgetting (t : TableName)
  | over
  deriving DecidableEq

namespace Event

-- An event is possible where its call stands `before` it, and
-- leaves it `after`.

def before (e : Event) : Progress :=
  match e.act with
  | .found | .missed | .dropped => .idle
  | .created => .creating e.table
  | .remembered => .remembering e.table
  | .forgotten => .forgetting e.table

def after (e : Event) : Progress :=
  match e.act with
  | .missed => .creating e.table
  | .created => .remembering e.table
  | .dropped => .forgetting e.table
  | .found | .remembered | .forgotten => .over

/-- The part of a call that an event is, and that it succeeds. -/
def Runs (s : Store δ) (e : Event) (w w' : World (Database δ)) : Prop :=
  match e.act with
  | .found => (Store.checkCache e.table).runIn w = (.ok true, w')
  | .missed => (Store.checkCache e.table).runIn w = (.ok false, w')
  | .created => (s.create e.table).runIn w = (.ok (), w')
  | .remembered => (Store.rememberTable e.table).runIn w = (.ok (), w')
  | .dropped => ∃ reply,
      (Store.onPeer
        (s.peer.query (.plain (Sql.dropTable e.table.physical)))).runIn w =
        (.ok reply, w')
  | .forgotten => (Store.forgetTable e.table).runIn w = (.ok (), w')

/-- Whether a table is there behind an event, if the event decides it. -/
def defines (t : TableName) (e : Event) : Option Bool :=
  if e.table = t then
    match e.act with
    | .created => some true
    | .dropped => some false
    | .found | .missed | .remembered | .forgotten => none
  else none

/-- Whether the cache knows a table behind an event, if the event decides it. -/
def notes (t : TableName) (e : Event) : Option Bool :=
  if e.table = t then
    match e.act with
    | .remembered => some true
    | .forgotten => some false
    | .found | .missed | .created | .dropped => none
  else none

end Event

/-- A store in use: its world, and where each of its calls stands. -/
structure Scene (δ : Type) where
  world : World (Database δ)
  calls : Nat → Progress

/-- One call goes on by one event. -/
structure Step (s : Store δ) (y : Scene δ) (e : Event)
    (z : Scene δ) : Prop where
  ready : y.calls e.call = e.before
  runs : e.Runs s y.world z.world
  calls : z.calls = Function.update y.calls e.call e.after

/-- Calls go on in any order. -/
inductive Run (s : Store δ) (x : Scene δ) : List Event → Scene δ → Prop where
  | start : Run s x [] x
  | step {h : List Event} {y z : Scene δ} {e : Event} :
      Run s x h y → Step s y e z → Run s x (e :: h) z

/-- A store that was just opened. -/
structure Scene.Opening (x : Scene δ) : Prop where
  idle : ∀ c, x.calls c = .idle
  unknown : x.world.state.cache.entries = []
  clock : ∀ i j,
    TableCache.elapsed (x.world.supply.instants i) (x.world.supply.instants j) <
      (x.world.state.cache.seconds : Int) * 1000000000

def Scene.AtRest (z : Scene δ) : Prop :=
  ∀ c, z.calls c = .idle ∨ z.calls c = .over

theorem Scene.Opening.lasting {x : Scene δ}
    (h : x.Opening) : Lasting x.world where
  clock := h.clock
  entries e he := by simp [h.unknown] at he

/-! ## Calls that are left alone -/

section Alone

variable {s : Store δ} {y : Scene δ} {c : Nat} {t : TableName}
  {w : World (Database δ)}

theorem run_of_ensureTable (hidle : y.calls c = .idle)
    (h : (s.ensureTable t).runIn y.world = (.ok (), w)) :
    ∃ hist, Run s y hist ⟨w, Function.update y.calls c .over⟩ := by
  obtain ⟨known, v, hcheck, hrest⟩ := Action.ok_of_runIn_bind h
  cases known with
  | true =>
      obtain ⟨-, rfl⟩ := Prod.mk.inj hrest
      exact ⟨[⟨c, .found, t⟩], .step .start ⟨hidle, hcheck, rfl⟩⟩
  | false =>
      obtain ⟨_, v', hcreate, hremember⟩ := Action.ok_of_runIn_bind hrest
      have hmissed :
          Step s y ⟨c, .missed, t⟩
            ⟨v, Function.update y.calls c (.creating t)⟩ :=
        ⟨hidle, hcheck, rfl⟩
      have hcreated :
          Step s ⟨v, Function.update y.calls c (.creating t)⟩ ⟨c, .created, t⟩
            ⟨v', Function.update y.calls c (.remembering t)⟩ :=
        ⟨Function.update_self .., hcreate, (Function.update_idem ..).symm⟩
      have hremembered : Step s ⟨v', Function.update y.calls c (.remembering t)⟩
          ⟨c, .remembered, t⟩ ⟨w, Function.update y.calls c .over⟩ :=
        ⟨Function.update_self .., hremember, (Function.update_idem ..).symm⟩
      exact ⟨_, ((Run.start.step hmissed).step hcreated).step hremembered⟩

theorem run_of_dropTable (hidle : y.calls c = .idle)
    (h : (s.repository.dropTable t).runIn y.world = (.ok (), w)) :
    ∃ hist, Run s y hist ⟨w, Function.update y.calls c .over⟩ := by
  obtain ⟨reply, v, hdrop, hforget⟩ := Action.ok_of_runIn_bind h
  have hdropped :
      Step s y ⟨c, .dropped, t⟩
        ⟨v, Function.update y.calls c (.forgetting t)⟩ :=
    ⟨hidle, ⟨reply, hdrop⟩, rfl⟩
  have hforgotten :
      Step s ⟨v, Function.update y.calls c (.forgetting t)⟩ ⟨c, .forgotten, t⟩
        ⟨w, Function.update y.calls c .over⟩ :=
    ⟨Function.update_self .., hforget, (Function.update_idem ..).symm⟩
  exact ⟨_, (Run.start.step hdropped).step hforgotten⟩

end Alone

/-! ## What a history has made of a table -/

section Effects

variable {s : Store δ} {e : Event} {w w' : World (Database δ)} {x z : Scene δ}
  {hist : List Event}

theorem Event.Runs.effects (hp : s.peer.DefinesTables s.spec holds)
    (hw : Lasting w) (h : e.Runs s w w') :
    Lasting w' ∧
      (∀ t, holds w'.state.peer t ↔
        e.defines t = some true ∨ e.defines t = none ∧ holds w.state.peer t) ∧
      ∀ t, w'.state.cache.Knows t ↔
        e.notes t = some true ∨ e.notes t = none ∧ w.state.cache.Knows t := by
  obtain ⟨c, act, u⟩ := e
  cases act with
  | found | missed =>
      obtain ⟨hlasting, hstate⟩ := hw.check_ok h
      rw [hstate]
      exact ⟨hlasting, fun t => by simp [Event.defines],
        fun t => by simp [Event.notes]⟩
  | created =>
      obtain ⟨hholds, hcache, hsupply⟩ := Store.create_ok hp h
      refine ⟨hw.of_entries (by rw [hsupply]) (by rw [hcache]) fun e he =>
        .inl (hcache ▸ he),
        fun t => ?_, fun t => ?_⟩
      · rw [hholds t, Event.defines, eq_comm]
        by_cases htu : u = t <;> simp [htu]
      · rw [hcache]
        simp [Event.notes]
  | dropped =>
      obtain ⟨reply, h⟩ := h
      obtain ⟨hholds, hcache, hsupply⟩ := Store.drop_ok hp h
      refine ⟨hw.of_entries (by rw [hsupply]) (by rw [hcache]) fun e he =>
        .inl (hcache ▸ he),
        fun t => ?_, fun t => ?_⟩
      · rw [hholds t, Event.defines, ne_comm]
        by_cases htu : u = t <;> simp [htu]
      · rw [hcache]
        simp [Event.notes]
  | remembered =>
      obtain ⟨hlasting, hpeer, hknows⟩ := hw.remember_ok h
      refine ⟨hlasting, fun t => ?_, fun t => ?_⟩
      · rw [hpeer]
        simp [Event.defines]
      · rw [hknows t, Event.notes, eq_comm]
        by_cases htu : u = t <;> simp [htu]
  | forgotten =>
      obtain ⟨hlasting, hpeer, hknows⟩ := hw.forget_ok h
      refine ⟨hlasting, fun t => ?_, fun t => ?_⟩
      · rw [hpeer]
        simp [Event.defines]
      · rw [hknows t, Event.notes, ne_comm]
        by_cases htu : u = t <;> simp [htu]

/-- A table is there behind a run if the last event to decide that says so, or
if it was there and none decides it; and the same holds of what is known. -/
theorem Run.effects (hp : s.peer.DefinesTables s.spec holds)
    (hx : Lasting x.world) (h : Run s x hist z) :
    Lasting z.world ∧
      (∀ t, holds z.world.state.peer t ↔
        hist.findSome? (Event.defines t) = some true ∨
        hist.findSome? (Event.defines t) = none ∧ holds x.world.state.peer t) ∧
      ∀ t, z.world.state.cache.Knows t ↔
        hist.findSome? (Event.notes t) = some true ∨
        hist.findSome? (Event.notes t) = none ∧
        x.world.state.cache.Knows t := by
  induction h with
  | start => exact ⟨hx, fun t => by simp, fun t => by simp⟩
  | @step hist y z e _ hstep ih =>
      obtain ⟨hlasting, hholds, hknows⟩ := ih
      obtain ⟨hlasting', hholds', hknows'⟩ := hstep.runs.effects hp hlasting
      refine ⟨hlasting', fun t => ?_, fun t => ?_⟩
      · rw [hholds' t, hholds t, List.findSome?_cons]
        cases e.defines t <;> simp
      · rw [hknows' t, hknows t, List.findSome?_cons]
        cases e.notes t <;> simp

end Effects

/-! ## The events of one call -/

section Order

variable {s : Store δ} {x z : Scene δ} {hist older newer : List Event}
  {e : Event} {c : Nat} {t : TableName}

theorem Event.eq_of_after_remembering (h : e.after = .remembering t) :
    e = ⟨e.call, .created, t⟩ := by
  obtain ⟨c, act, u⟩ := e
  cases act with
  | created =>
      obtain rfl : u = t := Progress.remembering.inj h
      rfl
  | found | missed | remembered | dropped | forgotten => cases h

theorem Event.eq_of_before_forgetting (h : e.before = .forgetting t) :
    e = ⟨e.call, .forgotten, t⟩ := by
  obtain ⟨c, act, u⟩ := e
  cases act with
  | forgotten =>
      obtain rfl : u = t := Progress.forgetting.inj h
      rfl
  | found | missed | created | remembered | dropped => cases h

theorem Event.eq_of_notes_true (h : e.notes t = some true) :
    e = ⟨e.call, .remembered, t⟩ := by
  obtain ⟨c, act, u⟩ := e
  unfold Event.notes at h
  split at h
  · next htable =>
      cases act with
      | remembered => rw [← htable]
      | found | missed | created | dropped | forgotten => cases h
  · cases h

theorem Event.eq_of_defines_false (h : e.defines t = some false) :
    e = ⟨e.call, .dropped, t⟩ := by
  obtain ⟨c, act, u⟩ := e
  unfold Event.defines at h
  split at h
  · next htable =>
      cases act with
      | dropped => rw [← htable]
      | found | missed | created | remembered | forgotten => cases h
  · cases h

/-- Each event of a run is a step from what the events before it have led to. -/
theorem Run.of_append (h : Run s x (newer ++ e :: older) z) :
    ∃ y y', Run s x older y ∧ Step s y e y' := by
  induction newer generalizing z with
  | nil =>
      cases h with
      | step hrun hstep => exact ⟨_, _, hrun, hstep⟩
  | cons e' newer ih =>
      cases h with
      | step hrun _ => exact ih hrun

/-- A call that is about to remember a table has created it. -/
theorem Run.created_of_remembering (hx : ∀ c, x.calls c = .idle)
    (h : Run s x hist z) (hz : z.calls c = .remembering t) :
    ⟨c, .created, t⟩ ∈ hist := by
  induction h with
  | start =>
      rw [hx c] at hz
      cases hz
  | @step hist y z e _ hstep ih =>
      rw [hstep.calls] at hz
      by_cases hc : c = e.call
      · subst hc
        rw [Function.update_self] at hz
        rw [Event.eq_of_after_remembering hz]
        exact List.mem_cons_self
      · rw [Function.update_of_ne hc] at hz
        exact List.mem_cons_of_mem e (ih hz)

/-- A call that has dropped a table forgets it next. -/
theorem Run.forgotten_of_dropped
    (h : Run s x (newer ++ ⟨c, .dropped, t⟩ :: older) z) :
    ⟨c, .forgotten, t⟩ ∈ newer ∨ z.calls c = .forgetting t := by
  induction newer generalizing z with
  | nil =>
      cases h with
      | step hrun hstep =>
          right
          rw [hstep.calls]
          exact Function.update_self ..
  | cons e newer ih =>
      cases h with
      | step hrun hstep =>
          obtain hmem | hdue := ih hrun
          · exact .inl (List.mem_cons_of_mem e hmem)
          · by_cases hc : c = e.call
            · subst hc
              left
              rw [← Event.eq_of_before_forgetting (hstep.ready.symm.trans hdue)]
              exact List.mem_cons_self
            · right
              rw [hstep.calls, Function.update_of_ne hc]
              exact hdue

/-- A table that was created and is not there now was dropped, and nothing has
decided otherwise since. -/
theorem exists_last_drop (hcreated : ⟨c, .created, t⟩ ∈ hist)
    (habsent : hist.findSome? (Event.defines t) ≠ some true) :
    ∃ d newer older, hist = newer ++ ⟨d, .dropped, t⟩ :: older ∧
      ∀ e ∈ newer, e.defines t = none := by
  cases hlast : hist.findSome? (Event.defines t) with
  | none =>
      have hnone := List.findSome?_eq_none_iff.1 hlast _ hcreated
      simp [Event.defines] at hnone
  | some there =>
      cases there with
      | true => exact absurd hlast habsent
      | false =>
          obtain ⟨newer, e, older, hhist, he, hnewer⟩ :=
            List.findSome?_eq_some_iff.1 hlast
          rw [Event.eq_of_defines_false he] at hhist
          exact ⟨e.call, newer, older, hhist, hnewer⟩

/-- A list cut at `a`, and again at `b` further down: between the two lies an
element `m` that is in front of `b` but not of `a`, and behind both lies `k`. -/
theorem exists_nested {α : Type} {front rest upper lower : List α} {a b m k : α}
    (h : front ++ a :: rest = upper ++ b :: lower) (hab : a ≠ b)
    (hm : m ∈ upper) (hmfront : m ∉ front) (hma : m ≠ a) (hk : k ∈ rest)
    (hkupper : k ∉ upper) (hkb : k ≠ b) :
    ∃ between dropping meanwhile older,
      rest = between ++ m :: (dropping ++ b :: (meanwhile ++ k :: older)) ∧
      upper = front ++ a :: (between ++ m :: dropping) := by
  obtain ⟨mid, hupper, hrest⟩ | ⟨mid, hfront, -⟩ :=
    List.append_eq_append_iff.1 h
  · cases mid with
    | nil => exact absurd (List.cons.inj hrest).1 hab
    | cons a' mid =>
        obtain ⟨rfl, rfl⟩ := List.cons.inj hrest
        have hmid : m ∈ mid := by
          rw [hupper] at hm
          obtain hm | hm := List.mem_append.1 hm
          · exact absurd hm hmfront
          · exact (List.mem_cons.1 hm).resolve_left hma
        have hlower : k ∈ lower := by
          obtain hk | hk := List.mem_append.1 hk
          · exact absurd
              (hupper ▸
                List.mem_append_right _ (List.mem_cons_of_mem _ hk)) hkupper
          · exact (List.mem_cons.1 hk).resolve_left hkb
        obtain ⟨between, dropping, rfl⟩ := List.append_of_mem hmid
        obtain ⟨meanwhile, older, rfl⟩ := List.append_of_mem hlower
        exact ⟨between, dropping, meanwhile, older, by simp, hupper⟩
  · exact absurd (hfront ▸ List.mem_append_left _ hm) hmfront

end Order

/-! ## Tables that outlive themselves in the cache -/

/-- A call `c` created the table, and before it remembered that, a call `d`
dropped the table and forgot it. Since then the table was not created again, and
since the late note it was not forgotten. -/
def Overtaken (t : TableName) (hist : List Event) : Prop :=
  ∃ c d newest between dropping meanwhile older,
    hist = newest ++ ⟨c, .remembered, t⟩ :: (between ++ ⟨d, .forgotten, t⟩ ::
      (dropping ++
        ⟨d, .dropped, t⟩ :: (meanwhile ++ ⟨c, .created, t⟩ :: older))) ∧
    (∀ e ∈ newest, e.notes t = none) ∧
    ∀ e ∈ newest ++ between ++ dropping, e.defines t = none

section Rest

variable {s : Store δ} {x z : Scene δ} {hist : List Event} {t : TableName}

theorem Overtaken.notes (h : Overtaken t hist) :
    hist.findSome? (Event.notes t) = some true := by
  obtain ⟨c, d, newest, between, dropping, meanwhile, older, rfl, hnotes, -⟩ :=
    h
  rw [List.findSome?_append, List.findSome?_eq_none_iff.2 hnotes,
    Option.none_or]
  simp [Event.notes]

theorem Overtaken.defines (h : Overtaken t hist) :
    hist.findSome? (Event.defines t) = some false := by
  obtain ⟨c, d, newest, between, dropping, meanwhile, older, rfl, -,
      hdefines⟩ := h
  simp only [List.mem_append] at hdefines
  have hnewest : newest.findSome? (Event.defines t) = none :=
    List.findSome?_eq_none_iff.2 fun e he => hdefines e (.inl (.inl he))
  have hbetween : between.findSome? (Event.defines t) = none :=
    List.findSome?_eq_none_iff.2 fun e he => hdefines e (.inl (.inr he))
  have hdropping : dropping.findSome? (Event.defines t) = none :=
    List.findSome?_eq_none_iff.2 fun e he => hdefines e (.inr he)
  simp [List.findSome?_append, hnewest, hbetween, hdropping, Event.defines]

/-- At rest a drop is over, so the table was forgotten behind it. -/
theorem Run.forgotten_at_rest {newer older : List Event} {d : Nat}
    (hz : z.AtRest) (h : Run s x (newer ++ ⟨d, .dropped, t⟩ :: older) z) :
    ⟨d, .forgotten, t⟩ ∈ newer := by
  obtain hmem | hdue := h.forgotten_of_dropped
  · exact hmem
  · obtain hidle | hover := hz d
    · rw [hidle] at hdue
      cases hdue
    · rw [hover] at hdue
      cases hdue

theorem Run.overtaken (h : Run s x hist z) (hx : ∀ c, x.calls c = .idle)
    (hz : z.AtRest) (hnoted : hist.findSome? (Event.notes t) = some true)
    (habsent : hist.findSome? (Event.defines t) ≠ some true) :
    Overtaken t hist := by
  obtain ⟨newest, e, rest, rfl, he, hnewest⟩ :=
    List.findSome?_eq_some_iff.1 hnoted
  obtain ⟨c, rfl⟩ : ∃ c, e = ⟨c, .remembered, t⟩ :=
    ⟨_, Event.eq_of_notes_true he⟩
  obtain ⟨y, y', hrun, hstep⟩ := h.of_append
  have hcreated : ⟨c, .created, t⟩ ∈ rest :=
    hrun.created_of_remembering hx hstep.ready
  obtain ⟨d, upper, lower, heq, hupper⟩ :=
    exists_last_drop
      (List.mem_append_right newest (List.mem_cons_of_mem _ hcreated)) habsent
  have hforgotten : ⟨d, .forgotten, t⟩ ∈ upper := (heq ▸ h).forgotten_at_rest hz
  -- The note of `c` is the last, so `d` forgot the table before it; and the
  -- drop is the last to decide, so `c` created the table before that.
  obtain ⟨between, dropping, meanwhile, older, rfl, rfl⟩ := exists_nested heq
    (by simp) hforgotten
    (fun hmem => by simpa [Event.notes] using hnewest _ hmem) (by simp) hcreated
    (fun hmem => by simpa [Event.defines] using hupper _ hmem) (by simp)
  refine ⟨c, d, newest, between, dropping, meanwhile, older,
    rfl, hnewest, fun e he => ?_⟩
  rw [List.mem_append, List.mem_append] at he
  refine hupper e ?_
  simp only [List.mem_append, List.mem_cons]
  obtain (hmem | hmem) | hmem := he
  · exact .inl hmem
  · exact .inr (.inr (.inl hmem))
  · exact .inr (.inr (.inr (.inr hmem)))

/-- Once no call is under way, a table that is not there is known exactly if a
creation of it was overtaken. -/
theorem fresh_without_table_iff (hp : s.peer.DefinesTables s.spec holds)
    (hx : x.Opening) (h : Run s x hist z) (hz : z.AtRest) :
    IsFresh z.world t ∧ ¬ holds z.world.state.peer t ↔ Overtaken t hist := by
  obtain ⟨hlasting, hholds, hknows⟩ := h.effects hp hx.lasting
  have hunknown : ¬ x.world.state.cache.Knows t := by
    simp [TableCache.Knows, hx.unknown]
  rw [hlasting.isFresh_iff, hknows t, hholds t]
  constructor
  · rintro ⟨hnoted, habsent⟩
    have hnoted : hist.findSome? (Event.notes t) = some true :=
      hnoted.resolve_right fun hnone => hunknown hnone.2
    exact h.overtaken hx.idle hz hnoted fun hthere => habsent (.inl hthere)
  · intro hlate
    rw [hlate.notes, hlate.defines]
    simp

end Rest

/-! ## A creation that is overtaken by a drop -/

def begins (words sql : String) : Bool :=
  words.toList.isPrefixOf sql.toList

/-- A database that keeps nothing but the names of its tables. A statement is
about the name that it gives first. -/
def ledger : Peer (List String) where
  bound _ names := (.ok (), names)
  execute st names :=
    (.ok ⟨[], 0⟩,
      match (Sql.tokens st.sql).head? with
      | some (.name n) =>
          if begins "CREATE TABLE" st.sql then n :: names
          else if begins "DROP TABLE" st.sql then names.filter (· != n)
          else names
      | _ => names)

def Listed (names : List String) (t : TableName) : Prop :=
  t.physical ∈ names

instance (names : List String) (t : TableName) : Decidable (Listed names t) :=
  inferInstanceAs (Decidable (_ ∈ _))

/-- A text that is about a name, however it goes on. -/
def About (n text : String) : Prop :=
  ∀ rest, ∃ ts,
    Sql.tokensFrom Sql.leadingNumber none (text.toList ++ rest) = .name n :: ts

/-- A text that is long enough to tell whether it begins with these words. -/
def Tells (words : String) (yes : Bool) (text : String) : Prop :=
  words.toList.length ≤ text.toList.length ∧ begins words text = yes

instance (words : String) (yes : Bool) (text : String) :
    Decidable (Tells words yes text) :=
  inferInstanceAs (Decidable (_ ∧ _))

section Statements

variable {n words text : String} {yes : Bool}

theorem about_quote {verb : String} (hverb : Sql.Plain verb) {behind : String}
    (hbehind : Sql.Separates behind) :
    About n (verb ++ Sql.quote n ++ behind) := by
  intro rest
  have hclosed : Sql.Closed Sql.leadingNumber _ _ :=
    ((Sql.closed_plain verb hverb).append_reads (Sql.reads_quote n)).close
      behind hbehind
  exact ⟨_, hclosed rest⟩

theorem About.append (h : About n text) (more : String) :
    About n (text ++ more) := by
  intro rest
  rw [String.toList_append, List.append_assoc]
  exact h _

theorem About.head? (h : About n text) :
    (Sql.tokens text).head? = some (.name n) := by
  obtain ⟨ts, hts⟩ := h []
  rw [List.append_nil] at hts
  rw [Sql.tokens, hts]
  rfl

theorem Tells.append (h : Tells words yes text) (more : String) :
    Tells words yes (text ++ more) := by
  obtain ⟨hlength, hbegins⟩ := h
  constructor
  · rw [String.toList_append, List.length_append]
    omega
  · rw [← hbegins, begins, begins, Bool.eq_iff_iff, List.isPrefixOf_iff_prefix,
      List.isPrefixOf_iff_prefix, List.prefix_iff_eq_take,
      List.prefix_iff_eq_take, String.toList_append,
      List.take_append_of_le_length hlength]

theorem tells_createIndex (table : String) (i : Index)
    (hunique :
      Tells words yes ("CREATE " ++ "UNIQUE " ++ "INDEX IF NOT EXISTS "))
    (hplain : Tells words yes ("CREATE " ++ "" ++ "INDEX IF NOT EXISTS ")) :
    Tells words yes (Sql.createIndex table i) := by
  have hverb : Tells words yes
      ("CREATE " ++ (if i.unique then "UNIQUE " else "") ++
        "INDEX IF NOT EXISTS ") := by
    split
    · exact hunique
    · exact hplain
  exact (((((hverb.append _).append _).append _).append _).append _).append _

end Statements

theorem ledger_definesTables (spec : TableSpec) :
    ledger.DefinesTables spec Listed where
  bound _ h t := by
    obtain ⟨-, rfl⟩ := Prod.mk.inj h
    exact Iff.rfl
  createTable {u d d' reply} h t := by
    have habout : About u.physical (Sql.createTable spec u.physical) :=
      ((about_quote (by decide) (by decide)).append _).append ")"
    have hcreate :
        Tells "CREATE TABLE" true (Sql.createTable spec u.physical) :=
      (((Tells.append (by decide) (Sql.quote u.physical)).append " (").append
        _).append ")"
    simp only [ledger, Statement.plain, habout.head?, hcreate.2, if_true,
      Prod.mk.injEq] at h
    obtain ⟨-, rfl⟩ := h
    rw [Listed, Listed, List.mem_cons]
    exact or_congr_left ⟨fun h => TableName.physical_injective h, congrArg _⟩
  createIndex {u i d d' reply} _ h t := by
    have hcreate : Tells "CREATE TABLE" false (Sql.createIndex u.physical i) :=
      tells_createIndex u.physical i (by decide) (by decide)
    have hdrop : Tells "DROP TABLE" false (Sql.createIndex u.physical i) :=
      tells_createIndex u.physical i (by decide) (by decide)
    simp only [ledger, Statement.plain, hcreate.2, hdrop.2, Bool.false_eq_true,
      if_false, Prod.mk.injEq] at h
    obtain ⟨-, rfl⟩ := h
    split <;> exact Iff.rfl
  dropTable {u d d' reply} h t := by
    have habout : About u.physical (Sql.dropTable u.physical) :=
      about_quote (by decide) (by decide)
    have hcreate : Tells "CREATE TABLE" false (Sql.dropTable u.physical) :=
      (Tells.append (by decide) (Sql.quote u.physical)).append " CASCADE"
    have hdrop : Tells "DROP TABLE" true (Sql.dropTable u.physical) :=
      (Tells.append (by decide) (Sql.quote u.physical)).append " CASCADE"
    simp only [ledger, Statement.plain, habout.head?, hcreate.2, hdrop.2,
      Bool.false_eq_true, if_true, if_false, Prod.mk.injEq] at h
    obtain ⟨-, rfl⟩ := h
    rw [Listed, Listed, List.mem_filter, bne_iff_ne, and_comm]
    exact and_congr_left'
      (not_congr ⟨fun h => TableName.physical_injective h, congrArg _⟩)

def Event.next (s : Store δ) (e : Event)
    (w : World (Database δ)) : World (Database δ) :=
  match e.act with
  | .found | .missed => ((Store.checkCache e.table).runIn w).2
  | .created => ((s.create e.table).runIn w).2
  | .remembered => ((Store.rememberTable e.table).runIn w).2
  | .dropped =>
      ((Store.onPeer
        (s.peer.query (.plain (Sql.dropTable e.table.physical)))).runIn w).2
  | .forgotten => ((Store.forgetTable e.table).runIn w).2

/-- What a history makes of a scene, if every event of it
succeeds in its turn. -/
def Scene.play (s : Store δ) (x : Scene δ) (hist : List Event) : Scene δ :=
  hist.foldr
    (fun e y => ⟨e.next s y.world, Function.update y.calls e.call e.after⟩) x

/-- A store that was just opened over an empty database, and whose
clock stands still. -/
def opened : Scene (List String) :=
  ⟨⟨⟨[], .empty 43200⟩, Memory.Store.stillSupply⟩, fun _ => .idle⟩

def orderStore : Store (List String) := ⟨ledger, .bare "uid"⟩

/-- A call creates the table; before it has remembered that, another drops the
table and forgets it. -/
def lateNote : List Event :=
  [⟨0, .remembered, Memory.Store.ordersOfAcme⟩,
    ⟨1, .forgotten, Memory.Store.ordersOfAcme⟩,
    ⟨1, .dropped, Memory.Store.ordersOfAcme⟩,
    ⟨0, .created, Memory.Store.ordersOfAcme⟩,
    ⟨0, .missed, Memory.Store.ordersOfAcme⟩]

theorem opened_opening : opened.Opening where
  idle _ := rfl
  unknown := rfl
  clock i j := by
    show (0 : Int) < 43200 * 1000000000
    decide

theorem Run.next {s : Store δ} {x : Scene δ} {hist : List Event} {e : Event}
    (h : Run s x hist (x.play s hist))
    (hready : (x.play s hist).calls e.call = e.before)
    (hruns : e.Runs s (x.play s hist).world (e.next s (x.play s hist).world)) :
    Run s x (e :: hist) (x.play s (e :: hist)) :=
  h.step ⟨hready, hruns, rfl⟩

theorem ledger_query (st : Statement) (w : World (Database (List String))) :
    (Store.onPeer (ledger.query st)).runIn w =
      (.ok ⟨[], 0⟩, ((Store.onPeer (ledger.query st)).runIn w).2) := rfl

theorem run_lateNote :
    Run orderStore opened lateNote (opened.play orderStore lateNote) := by
  refine Run.next
    (Run.next (Run.next (Run.next (Run.next .start ?_ ?_) ?_ ?_) ?_ ?_) ?_
      ?_) ?_ ?_
  · rfl
  · exact Action.runIn_of_toOption (x := false) (by decide +kernel)
  · rfl
  · exact Action.runIn_of_toOption (x := ()) (by decide +kernel)
  · rfl
  · exact ⟨⟨[], 0⟩, ledger_query _ _⟩
  · rfl
  · exact Action.runIn_of_toOption (x := ()) (by decide +kernel)
  · rfl
  · exact Action.runIn_of_toOption (x := ()) (by decide +kernel)

theorem atRest_lateNote : (opened.play orderStore lateNote).AtRest := by
  intro c
  by_cases h0 : c = 0
  · subst h0
    exact .inr rfl
  · by_cases h1 : c = 1
    · subst h1
      exact .inr rfl
    · left
      simp [Scene.play, lateNote, opened, Function.update, h0, h1]

theorem overtaken_creation_is_fresh :
    IsFresh (opened.play orderStore lateNote).world Memory.Store.ordersOfAcme ∧
      ¬ Listed (opened.play orderStore lateNote).world.state.peer
        Memory.Store.ordersOfAcme :=
  (fresh_without_table_iff (ledger_definesTables _) opened_opening run_lateNote
    atRest_lateNote).2
    ⟨0, 1, [], [], [], [], [⟨0, .missed, Memory.Store.ordersOfAcme⟩], rfl,
      fun _ he => absurd he List.not_mem_nil, fun _ he =>
        absurd he List.not_mem_nil⟩

theorem cache_outlives_table :
    ∃ z, opened.Opening ∧ Run orderStore opened lateNote z ∧ z.AtRest ∧
      (z.world.state.cache.check z.world.supply.now.1 "acme$orders").1 = true ∧
      z.world.state.peer = [] :=
  ⟨opened.play orderStore lateNote, opened_opening, run_lateNote,
    atRest_lateNote, by decide +kernel, by decide +kernel⟩

end TenantTables.Postgres
