import TenantTables.Proofs.Coercion
import TenantTables.Proofs.TableRows
import TenantTables.Record

/-!
# Attributes on their way to a row

Between a request and a row attributes are filtered, completed and moved to
midnight, and filled into a record. All of that is said key by key: what stands
under a key afterwards, in terms of what stood there before. An insert and an
update differ in one key only, the start of the window of time, which an insert
puts in where it is missing or null.
-/

namespace TenantTables

open Json (Value Object)
open Time (Instant)

namespace TableSpec

variable {spec : TableSpec} {o : Object} {k key : String} {v : Value}

/-! ## Attributes that callers may write -/

theorem get?_fillable (spec : TableSpec) (o : Object) (k : String) :
    Object.get? (spec.fillable o) k =
      if spec.hasColumn k && !managedColumns.contains k then o.get? k
        else none :=
  Object.get?_filter
    (fun k => spec.hasColumn k && !managedColumns.contains k) o k

theorem of_mem_keys_fillable (h : k ∈ Object.keys (spec.fillable o)) :
    spec.hasColumn k = true ∧ k ∉ managedColumns := by
  obtain ⟨v, hv⟩ := Object.mem_keys_iff.1 h
  rw [get?_fillable] at hv
  split at hv
  · next hallowed => simpa using hallowed
  · cases hv

theorem nodup_keys_fillable (h : o.keys.Nodup) (spec : TableSpec) :
    (Object.keys (spec.fillable o)).Nodup :=
  Object.nodup_keys_filter h _

/-! ## The window of time -/

def windowEnds : List String := ["started_at", "ended_at"]

theorem keys_truncate (spec : TableSpec) (o : Object) (key : String) :
    Object.keys (prepareUpdate.truncate spec o key) = o.keys := by
  unfold prepareUpdate.truncate
  split
  · rfl
  · split
    · next i hread =>
        obtain ⟨s, hs, -⟩ := Option.bind_eq_some_iff.1 hread
        obtain ⟨v, hv, -⟩ := Option.bind_eq_some_iff.1 hs
        exact Object.keys_insert_of_mem (Object.mem_keys_iff.2 ⟨v, hv⟩) _
    · rfl

theorem get?_truncate (spec : TableSpec) (o : Object) (key k : String) :
    Object.get? (prepareUpdate.truncate spec o key) k =
      if k = key ∧ spec.hasColumn key = true then (o.get? k).map atMidnight
        else o.get? k := by
  unfold prepareUpdate.truncate
  cases hcol : spec.hasColumn key with
  | false => simp
  | true =>
      rw [Bool.not_true, if_neg Bool.false_ne_true]
      by_cases hk : k = key
      · subst hk
        rw [if_pos ⟨rfl, rfl⟩]
        cases hv : o.get? k with
        | none =>
            rw [Option.bind_none, Option.bind_none]
            exact hv
        | some v =>
            rw [Option.bind_some, Option.map_some, atMidnight]
            cases hread : v.str?.bind Instant.read? with
            | some i => exact Object.get?_insert_self _ _ _
            | none => exact hv
      · rw [if_neg fun h => hk h.1]
        split
        · exact Object.get?_insert_of_ne _ hk _
        · rfl

theorem keys_prepareUpdate (spec : TableSpec) (o : Object) :
    Object.keys (spec.prepareUpdate o) = o.keys := by
  rw [prepareUpdate, List.foldl_cons, List.foldl_cons, List.foldl_nil,
    keys_truncate, keys_truncate]

/-- The ends of the window of time are moved to midnight, and
nothing else is. -/
theorem get?_prepareUpdate (spec : TableSpec) (o : Object) (k : String) :
    Object.get? (spec.prepareUpdate o) k =
      if k ∈ windowEnds ∧ spec.hasColumn k = true then (o.get? k).map atMidnight
      else o.get? k := by
  rw [prepareUpdate, List.foldl_cons, List.foldl_cons, List.foldl_nil,
    get?_truncate, get?_truncate, windowEnds]
  by_cases hstart : k = "started_at"
  · subst hstart
    simp
  · by_cases hend : k = "ended_at"
    · subst hend
      simp
    · simp [hstart, hend]

/-! ## New records -/

theorem missesId_eq_false {id : String} (hv : o.get? spec.idField = some v)
    (htext : v.toText? = some id) (hblank : Text.isBlankText id = false) :
    spec.missesId o = false := by
  rw [missesId, hv]
  cases v with
  | null => cases htext
  | str s =>
      obtain rfl := Option.some.inj htext
      exact hblank
  | bool _ | int _ | float _ | arr _ | obj _ => rfl

/-- A record with an identifier is completed with a start of its window. -/
theorem prepareInsert_of_id (h : spec.missesId o = false) (u : Supply) :
    spec.prepareInsert o u =
      if spec.missesStart o then
        (spec.prepareUpdate (o.insert "started_at" (.str u.now.1.toText)),
          u.now.2)
      else (spec.prepareUpdate o, u) := by
  rw [prepareInsert, h]
  dsimp only
  rw [if_neg Bool.false_ne_true]
  dsimp only
  split
  · rfl
  · rfl

/-- An insert and an update of a record with an identifier write the same, but
for a start that the window of time misses. -/
theorem get?_prepareInsert (h : spec.missesId o = false) (u : Supply)
    (hk : k = "started_at" → spec.missesStart o = false) :
    Object.get? (spec.prepareInsert o u).1 k =
      Object.get? (spec.prepareUpdate o) k := by
  rw [prepareInsert_of_id h]
  split
  · next hstart =>
      have hne : k ≠ "started_at" := fun heq => by simp [hk heq] at hstart
      rw [get?_prepareUpdate, get?_prepareUpdate,
        Object.get?_insert_of_ne _ hne]
  · rfl

/-- A start that is missed is written as null by an update, if at all. -/
theorem null_of_missesStart (h : spec.missesStart o = true)
    (hv : Object.get? (spec.prepareUpdate o) "started_at" = some v) :
    v = .null := by
  rw [missesStart, Bool.and_eq_true] at h
  rw [get?_prepareUpdate, if_pos ⟨by decide, h.1⟩] at hv
  obtain ⟨u, hu, rfl⟩ := Option.map_eq_some_iff.1 hv
  have hnull := h.2
  rw [hu, Option.all_some] at hnull
  cases u with
  | null => rfl
  | bool _ | int _ | float _ | str _ | arr _ | obj _ => cases hnull

/-- A new record has some day for a start that is missed. -/
theorem start_of_prepareInsert (h : spec.missesId o = false)
    (hstart : spec.missesStart o = true) {u : Supply} (hnow : u.now.1.Proper) :
    ∃ i : Instant, i.Proper ∧
      Object.get? (spec.prepareInsert o u).1 "started_at" =
        some (.str i.toText) := by
  have hcol : spec.hasColumn "started_at" = true := by
    rw [missesStart, Bool.and_eq_true] at hstart
    exact hstart.1
  rw [prepareInsert_of_id h, if_pos hstart, get?_prepareUpdate,
    if_pos ⟨by decide, hcol⟩, Object.get?_insert_self, Option.map_some,
    atMidnight]
  split
  · next i _ => exact ⟨i.startOfDay, ⟨Nat.zero_lt_succ _, nofun⟩, rfl⟩
  · exact ⟨u.now.1, hnow, rfl⟩

theorem mem_keys_prepareInsert (h : spec.missesId o = false) (u : Supply)
    (hk : k ∈ Object.keys (spec.prepareInsert o u).1) :
    k ∈ o.keys ∨ k = "started_at" := by
  rw [prepareInsert_of_id h] at hk
  split at hk
  · rw [keys_prepareUpdate] at hk
    exact Object.mem_keys_insert.1 hk
  · rw [keys_prepareUpdate] at hk
    exact .inl hk

/-- The ends of the window of time are written at midnight. -/
theorem midnight_of_prepareUpdate (hcol : spec.hasColumn k = true)
    (hk : k ∈ windowEnds) (hv : Object.get? (spec.prepareUpdate o) k = some v) :
    ∃ u, v = atMidnight u := by
  rw [get?_prepareUpdate, if_pos ⟨hk, hcol⟩] at hv
  obtain ⟨u, -, rfl⟩ := Option.map_eq_some_iff.1 hv
  exact ⟨u, rfl⟩

/-- What an insert writes is what an update writes, of attributes that
were completed. -/
theorem exists_completed (spec : TableSpec) (o : Object) (u : Supply) :
    ∃ completed : Object,
      (spec.prepareInsert o u).1 = spec.prepareUpdate completed ∧
      (o.keys.Nodup → completed.keys.Nodup) := by
  have hstart : ∀ (completed : Object) (u : Supply),
      (o.keys.Nodup → completed.keys.Nodup) →
      ∃ started : Object,
        spec.prepareUpdate (if spec.missesStart completed then
          (completed.insert "started_at" (.str u.now.1.toText), u.now.2)
          else (completed, u)).1 = spec.prepareUpdate started ∧
        (o.keys.Nodup → started.keys.Nodup) := by
    intro completed u hnodup
    split
    · exact ⟨_, rfl, fun h => Object.nodup_keys_insert (hnodup h) _ _⟩
    · exact ⟨_, rfl, hnodup⟩
  unfold prepareInsert
  dsimp only
  split
  · exact hstart _ _ fun h => Object.nodup_keys_insert h _ _
  · exact hstart _ _ id

theorem nodup_keys_prepareInsert (spec : TableSpec) (u : Supply)
    (hnodup : o.keys.Nodup) :
    (Object.keys (spec.prepareInsert o u).1).Nodup := by
  obtain ⟨completed, heq, hcompleted⟩ := exists_completed spec o u
  rw [heq, keys_prepareUpdate]
  exact hcompleted hnodup

theorem midnight_of_prepareInsert (u : Supply) (hcol : spec.hasColumn k = true)
    (hk : k ∈ windowEnds)
    (hv : Object.get? (spec.prepareInsert o u).1 k = some v) :
    ∃ u, v = atMidnight u := by
  obtain ⟨completed, heq, -⟩ := exists_completed spec o u
  rw [heq] at hv
  exact midnight_of_prepareUpdate hcol hk hv

/-- The clock is read, never set. -/
theorem instants_prepareInsert (spec : TableSpec) (o : Object) (u : Supply) :
    (spec.prepareInsert o u).2.instants = u.instants := by
  cases hid : spec.missesId o with
  | false =>
      rw [prepareInsert_of_id hid]
      split
      · rfl
      · rfl
  | true =>
      rw [prepareInsert, hid]
      dsimp only
      rw [if_pos rfl]
      dsimp only
      split
      · rfl
      · rfl

end TableSpec

/-! ## Attributes in a record -/

namespace Record

variable {r : Record} {attributes : Object} {k : String}

theorem get?_withoutId (o : Object) (h : k ≠ idColumn) :
    Object.get? (withoutId o) k = o.get? k := by
  rw [withoutId, Object.get?_filter (· != idColumn), if_pos (bne_iff_ne.2 h)]

theorem withoutId_eq_self (h : idColumn ∉ Object.keys attributes) :
    withoutId attributes = attributes :=
  List.filter_eq_self.2 fun _ hf =>
    bne_iff_ne.2 fun heq => h (heq ▸ List.mem_map_of_mem hf)

/-- Filling a record writes its attributes and touches nothing else of it. -/
theorem fill_eq (r : Record) (h : idColumn ∉ Object.keys attributes) :
    r.fill attributes =
      { r with attributes := r.attributes.insertAll attributes } := by
  unfold fill
  induction attributes generalizing r with
  | nil => rfl
  | cons f attributes ih =>
      obtain ⟨key, v⟩ := f
      rw [Object.keys, List.map_cons, List.mem_cons, not_or] at h
      have hset :
          r.set key v = { r with attributes := r.attributes.insert key v } := by
        rw [set, if_neg (by simpa using Ne.symm h.1)]
      rw [List.foldl_cons, ih _ h.2, Object.insertAll_cons]
      dsimp only
      rw [hset]

theorem attributes_fill (r : Record) (h : idColumn ∉ Object.keys attributes) :
    (r.fill attributes).attributes = r.attributes.insertAll attributes := by
  rw [fill_eq r h]

end Record

end TenantTables
