import TenantTables.Proofs.GeneralRequests

/-!
# The window of time is kept at midnights

An end of the window may be given in any spelling, with any offset, or as no
timestamp at all. It is moved to midnight before it is brought into the shape of
its column, and what comes of that is null or the text of a midnight that reads
as that midnight again. From then on the text goes through the same two steps
with every write to its row, and both leave it as it is. Were it not read again,
the move would be skipped, and what a caller gave would be stored; that is why
the invariant is about the text that is stored and not about the instant.
-/

namespace TenantTables

open Json (Value Object)
open Memory (Store Table Tables Work Check WellFormed Revises Creates)
open TableSpec (windowEnds)
open Time (Instant)

namespace Time.Instant

/-- An instant that its day starts with is the midnight of its date. -/
theorem eq_ofDate {i : Instant} (h : i.startOfDay = i) : i = ofDate i.date := by
  have hsecond : i.second - i.second % 86400 = i.second :=
    congrArg Instant.second h
  have hnano : 0 = i.nano := congrArg Instant.nano h
  rw [ofDate, date, Date.toDays_ofDays]
  obtain ⟨second, nano⟩ := i
  simp only [mk.injEq] at hsecond hnano ⊢
  omega

end Time.Instant

namespace TableSpec

/-- Null, or the text of a midnight that is read from it. -/
def IsMidnight (v : Value) : Prop :=
  v = .null ∨ ∃ i, Instant.read? i.toText = some i ∧ i.startOfDay = i ∧
    v = .str i.toText

variable {k : String} {v w : Value}

/-- A midnight is where it is moved to. -/
theorem IsMidnight.atMidnight (h : IsMidnight v) :
    TableSpec.atMidnight v = v := by
  obtain rfl | ⟨i, hread, hstart, rfl⟩ := h
  · rfl
  · rw [TableSpec.atMidnight, Value.str?, Option.bind_some, hread]
    dsimp only
    rw [hstart]

/-- What was moved to midnight is at midnight in the shape of its column. -/
theorem isMidnight_of_coerce {c : Column} (hk : k ∈ windowEnds)
    (hc : default.column? k = some c)
    (hw : c.coerce (TableSpec.atMidnight v) = .ok w) :
    IsMidnight w := by
  have hcoerce := (Column.coerce_eq_ok_iff.1 hw).1
  rw [type_of_windowEnd hk hc] at hcoerce
  exact midnight_of_coerce hcoerce

end TableSpec

open TableSpec (IsMidnight isMidnight_of_coerce)

namespace Memory

variable {checks : List Check} {name : String} {given start row : Object}
  {u : Supply} {now : Instant} {t t' : Table} {key : Int}

/-- A row both ends of whose window are at midnight. -/
def AtMidnights (row : Object) : Prop :=
  ∀ k ∈ windowEnds, ∃ v, row.get? k = some v ∧ IsMidnight v

theorem unmanaged_of_windowEnd {k : String} (hk : k ∈ windowEnds) :
    TableSpec.default.hasColumn k = true ∧ k ∉ managedColumns := by
  have hall : ∀ k ∈ windowEnds,
      TableSpec.default.hasColumn k = true ∧ k ∉ managedColumns := by decide
  exact hall k hk

theorem Revises.atMidnights
    (h : Revises checks name given now t key start row t')
    (hwf : WellFormed .default checks t)
    (hstart : AtMidnights start) : AtMidnights row := by
  intro k hk
  obtain ⟨hcol, hunmanaged⟩ := unmanaged_of_windowEnd hk
  -- Whether it is given or was stored, what is written is at midnight already.
  obtain ⟨v, hv⟩ : ∃ v,
      (revision start given).get? k = some (TableSpec.atMidnight v) := by
    obtain ⟨old, hold, hmidnight⟩ := hstart k hk
    rw [get?_revision h.nodup]
    cases hgiven : Object.get?
        (TableSpec.default.prepareUpdate (TableSpec.default.fillable given)) k
          with
    | some v =>
        obtain ⟨v, rfl⟩ := TableSpec.midnight_of_prepareUpdate hcol hk hgiven
        exact ⟨v, rfl⟩
    | none => exact ⟨old, by rw [Option.none_or, hold, hmidnight.atMidnight]⟩
  have hne : k ≠ "updated_at" := fun heq => hunmanaged (heq ▸ by decide)
  obtain ⟨c, w, hc, hw, hget⟩ := h.get? hwf hne hv
  exact ⟨w, hget, isMidnight_of_coerce hk hc hw⟩

theorem Creates.atMidnights
    (h : Creates checks name given u now t row t') : AtMidnights row := by
  intro k hk
  obtain ⟨hcol, hunmanaged⟩ := unmanaged_of_windowEnd hk
  have hid : k ≠ idColumn := fun heq => hunmanaged (heq ▸ by decide)
  cases hv : (creation given u).get? k with
  | some v =>
      rw [get?_creation hid] at hv
      obtain ⟨v, rfl⟩ := TableSpec.midnight_of_prepareInsert u hcol hk hv
      rw [← get?_creation hid] at hv
      obtain ⟨c, w, hc, hw, hget⟩ := h.get? hv
      exact ⟨w, hget, isMidnight_of_coerce hk hc hw⟩
  | none =>
      have hblank : k ∈ (blankRow .default now).keys :=
        ((blankRow_hasLayout .default now).mem_keys k).2 ⟨hid, hcol⟩
      obtain ⟨v, hget⟩ := Object.mem_keys_iff.1 hblank
      refine ⟨v, (h.get?_of_none hv).trans hget, .inl ?_⟩
      exact (get?_blankRow hget).resolve_right fun hnow => hunmanaged hnow.1

end Memory

namespace Service

open Memory (AtMidnights textAt)

variable {κ : Type} {svc : Service Tables Work κ} {checks : List Check}
  {state : ServiceState Tables κ}

theorem lasting_atMidnights (checks : List Check) :
    Lasting checks fun t => ∀ e ∈ t.rows, AtMidnights e.2 where
  empty e he := by cases he
  sublist h hs e he := h e (hs.subset he)
  revises hwf h hQ e he := by
    rcases (h.mem_rows_iff hwf).1 he with rfl | ⟨he, -⟩
    · exact h.atMidnights hwf (hQ _ h.stands)
    · exact hQ e he
  creates hwf h _ hQ e he := by
    rcases (h.mem_rows_iff hwf).1 he with rfl | he
    · exact h.atMidnights
    · exact hQ e he

/-- In every state that requests lead to over the general layout, whatever they
give, both ends of the window of time of every row are there, and each is null
or a text that is read as the midnight that its date starts with. -/
theorem window_ends_are_midnights
    (hs : svc.repository = (⟨.default, checks⟩ : Store).repository)
    (h : svc.Reached state) {n : String} {t : Table}
    (ht : List.lookup n state.store = some t) {e : Int × Object}
    (he : e ∈ t.rows) :
    ∀ k ∈ ["started_at", "ended_at"], ∃ v, e.2.get? k = some v ∧
      (v = .null ∨ ∃ text i, v = .str text ∧ Instant.read? text = some i ∧
        i = .ofDate i.date) := by
  intro k hk
  obtain ⟨v, hv, hmidnight⟩ :=
    (lasting_atMidnights checks).reached hs h n t ht e he k hk
  refine ⟨v, hv, ?_⟩
  obtain hnull | ⟨i, hread, hstart, htext⟩ := hmidnight
  · exact .inl hnull
  · exact .inr ⟨i.toText, i, htext, hread, Instant.eq_ofDate hstart⟩

/-- The state behind moving the window of the order to an evening
of another zone. -/
def eveningOrder : ServiceState Tables (List Audit.Event) :=
  ((ofRecords.serve (.of "PUT" "/") "orders" (.upsert (some "a")
    [("started_at", .str "2024-02-29T21:30:00-05:00"), ("ended_at", .str " ")]
    .empty)).runIn
      ⟨oneOrder, Store.stillSupply⟩).2.state

/-- The evening was past midnight in UTC. -/
theorem evening_order_starts_at_midnight :
    ∃ t e i, List.lookup "acme$orders" eveningOrder.store = some t ∧
      e ∈ t.rows ∧
      e.2.get? "started_at" = some (.str "2024-03-01T00:00:00+00:00") ∧
      Instant.read? "2024-03-01T00:00:00+00:00" = some i ∧ i = .ofDate i.date ∧
      e.2.get? "ended_at" = some .null := by
  have hreached : ofRecords.Reached eveningOrder :=
    .served reached_oneOrder (.of "PUT" "/") "orders" (.upsert (some "a")
      [("started_at", .str "2024-02-29T21:30:00-05:00"),
        ("ended_at", .str " ")] .empty)
      Store.stillSupply
  have hrows : (List.lookup "acme$orders" eveningOrder.store).map (fun t =>
      t.rows.map fun e => (textAt e.2 "started_at", textAt e.2 "ended_at")) =
        some [(some "2024-03-01T00:00:00+00:00", none)] := by decide +kernel
  obtain ⟨t, ht, hmap⟩ := Option.map_eq_some_iff.1 hrows
  obtain ⟨e, he, htexts⟩ := List.map_eq_singleton_iff.1 hmap
  obtain ⟨hstart, hend⟩ := Prod.mk.inj htexts
  have hmem : e ∈ t.rows := he ▸ List.mem_singleton_self e
  have hwindow := window_ends_are_midnights (show ofRecords.repository =
    (⟨.default, []⟩ : Store).repository from rfl) hreached ht hmem
  obtain ⟨v, hv, hmidnight⟩ := hwindow "started_at" (by decide)
  obtain ⟨w, hw, hended⟩ := hwindow "ended_at" (by decide)
  rw [textAt, hv, Option.bind_some] at hstart
  rw [textAt, hw, Option.bind_some] at hend
  obtain rfl | ⟨text, i, rfl, hread, hdate⟩ := hmidnight
  · cases hstart
  obtain rfl | ⟨text', -, rfl, -⟩ := hended
  · obtain rfl : text = "2024-03-01T00:00:00+00:00" := Option.some.inj hstart
    exact ⟨t, e, i, ht, hmem, hv, hread, hdate, hw⟩
  · cases hend

end Service

end TenantTables
