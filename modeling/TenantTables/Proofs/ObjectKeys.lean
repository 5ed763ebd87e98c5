import TenantTables.Json.Value

/-!
# Keys of objects

An object is a list of fields, and writing a field keeps its keys distinct. A
key that is present keeps its place, so writing to one changes no list of keys.
-/

namespace TenantTables.Json.Object

variable {o : Object} {k key : String} {v : Value}

/-- Writing to a key that is present changes no list of keys. -/
theorem keys_insert_of_mem (h : key ∈ o.keys) (v : Value) :
    (o.insert key v).keys = o.keys := by
  unfold keys at h ⊢
  induction o with
  | nil => simp at h
  | cons f o ih =>
      obtain ⟨l, u⟩ := f
      rw [insert]
      by_cases hl : l = key
      · simp [hl]
      · have hmem : key ∈ o.map (·.1) := by
          rw [List.map_cons, List.mem_cons] at h
          exact h.resolve_left (Ne.symm hl)
        simp only [beq_iff_eq, hl, if_false, List.map_cons]
        rw [ih hmem]

/-- A new key goes last. -/
theorem keys_insert_of_not_mem (h : key ∉ o.keys) (v : Value) :
    (o.insert key v).keys = o.keys ++ [key] := by
  unfold keys at h ⊢
  induction o with
  | nil => simp [insert]
  | cons f o ih =>
      obtain ⟨l, u⟩ := f
      rw [List.map_cons, List.mem_cons, not_or] at h
      rw [insert]
      simp only [beq_iff_eq, Ne.symm h.1, if_false, List.map_cons,
        List.cons_append]
      rw [ih h.2]

theorem insert_of_not_mem (h : key ∉ o.keys) (v : Value) :
    o.insert key v = o ++ [(key, v)] := by
  unfold keys at h
  induction o with
  | nil => rfl
  | cons f o ih =>
      obtain ⟨l, u⟩ := f
      rw [List.map_cons, List.mem_cons, not_or] at h
      rw [insert]
      simp only [beq_iff_eq, Ne.symm h.1, if_false, List.cons_append]
      rw [ih h.2]

theorem mem_keys_insert : k ∈ (o.insert key v).keys ↔ k ∈ o.keys ∨ k = key := by
  by_cases h : key ∈ o.keys
  · rw [keys_insert_of_mem h]
    exact ⟨.inl, fun hk => hk.elim id fun heq => heq ▸ h⟩
  · rw [keys_insert_of_not_mem h, List.mem_append, List.mem_singleton]

theorem nodup_keys_insert (h : o.keys.Nodup) (key : String) (v : Value) :
    (o.insert key v).keys.Nodup := by
  by_cases hmem : key ∈ o.keys
  · rw [keys_insert_of_mem hmem]
    exact h
  · rw [keys_insert_of_not_mem hmem]
    exact List.nodup_append.2 ⟨h, by simp, by
      intro a ha b hb heq
      rw [List.mem_singleton] at hb
      exact hmem (hb ▸ heq ▸ ha)⟩

/-! ## What a write leaves to read -/

theorem get?_insert_self (o : Object) (key : String) (v : Value) :
    (o.insert key v).get? key = some v := by
  unfold get?
  induction o with
  | nil => simp [insert]
  | cons f o ih =>
      obtain ⟨l, u⟩ := f
      rw [insert]
      by_cases hl : l = key
      · simp [hl]
      · simp only [beq_iff_eq, hl, if_false]
        rw [List.lookup_cons, beq_false_of_ne (Ne.symm hl)]
        exact ih

theorem get?_insert_of_ne (o : Object) (h : k ≠ key) (v : Value) :
    (o.insert key v).get? k = o.get? k := by
  unfold get?
  induction o with
  | nil => simp [insert, List.lookup_cons, beq_false_of_ne h]
  | cons f o ih =>
      obtain ⟨l, u⟩ := f
      rw [insert]
      by_cases hl : l = key
      · subst hl
        simp [List.lookup_cons, beq_false_of_ne h]
      · simp only [beq_iff_eq, hl, if_false]
        rw [List.lookup_cons, List.lookup_cons, ih]

theorem get?_eq_none_iff : o.get? k = none ↔ k ∉ o.keys := by
  unfold get? keys
  rw [List.lookup_eq_none_iff, List.mem_map]
  constructor
  · rintro h ⟨f, hf, rfl⟩
    exact absurd (h f hf) (by simp)
  · exact fun h f hf => bne_iff_ne.2 fun heq => h ⟨f, hf, heq.symm⟩

theorem mem_keys_iff : k ∈ o.keys ↔ ∃ v, o.get? k = some v := by
  rw [← Option.ne_none_iff_exists', ne_eq, get?_eq_none_iff, Decidable.not_not]

/-- Where no key occurs twice, every field is read under its key. -/
theorem get?_of_mem (h : o.keys.Nodup) (hmem : (k, v) ∈ o) :
    o.get? k = some v := by
  obtain ⟨before, after, rfl⟩ := List.append_of_mem hmem
  refine List.lookup_eq_some_iff.2 ⟨before, after, rfl, fun f hf => ?_⟩
  rw [keys, List.map_append, List.map_cons, List.nodup_append] at h
  exact bne_iff_ne.2
    (h.2.2 f.1 (List.mem_map_of_mem hf) k (List.mem_cons_self ..)).symm

/-- Fields in one order that read alike under every key are the same. -/
theorem eq_of_keys_of_get? {o o' : Object} (hnodup : o.keys.Nodup)
    (hkeys : o.keys = o'.keys) (h : ∀ k, o.get? k = o'.get? k) : o = o' := by
  induction o generalizing o' with
  | nil => exact (List.map_eq_nil_iff.1 hkeys.symm).symm
  | cons f o ih =>
      obtain ⟨k, v⟩ := f
      obtain _ | ⟨⟨k', v'⟩, o'⟩ := o'
      · cases hkeys
      obtain ⟨rfl, htail⟩ :=
        List.cons.inj (show k :: keys o = k' :: keys o' from hkeys)
      obtain ⟨hnew, hrest⟩ :=
        List.nodup_cons.1 (show (k :: keys o).Nodup from hnodup)
      have hv : v = v' := by simpa [get?] using h k
      subst hv
      rw [ih hrest htail]
      intro l
      by_cases hl : l = k
      · subst hl
        rw [get?_eq_none_iff.2 hnew, get?_eq_none_iff.2 (htail ▸ hnew)]
      · simpa [get?, List.lookup_cons, beq_false_of_ne hl] using h l

/-- Of two writes to a key the second remains. -/
theorem insert_insert (o : Object) (key : String) (u v : Value) :
    (o.insert key u).insert key v = o.insert key v := by
  induction o with
  | nil => simp [insert]
  | cons f o ih =>
      obtain ⟨k, w⟩ := f
      by_cases hk : k = key
      · simp [insert, hk]
      · simp [insert, hk, ih]

theorem mem_of_mem_insert {f : String × Value} (h : f ∈ o.insert key v) :
    f ∈ o ∨ f = (key, v) := by
  induction o with
  | nil => exact .inr (List.mem_singleton.1 h)
  | cons g o ih =>
      obtain ⟨k, u⟩ := g
      rw [insert] at h
      split at h
      · next hk =>
          rw [beq_iff_eq] at hk
          obtain rfl | h := List.mem_cons.1 h
          · exact .inr (by rw [hk])
          · exact .inl (List.mem_cons_of_mem _ h)
      · obtain rfl | h := List.mem_cons.1 h
        · exact .inl List.mem_cons_self
        · exact (ih h).imp_left (List.mem_cons_of_mem _)

theorem mem_of_get? (h : o.get? k = some v) : (k, v) ∈ o := by
  obtain ⟨before, after, rfl, -⟩ := List.lookup_eq_some_iff.1 h
  exact List.mem_append_right _ List.mem_cons_self

/-- Entries that are kept or dropped by their keys, whatever is under them. -/
theorem lookup_filter {α : Type} (p : String → Bool)
    (entries : List (String × α)) (k : String) :
    (entries.filter fun e => p e.1).lookup k = if p k then entries.lookup k
      else none := by
  induction entries with
  | nil => simp
  | cons e entries ih =>
      obtain ⟨l, x⟩ := e
      by_cases hl : k = l
      · subst hl
        by_cases hp : p k
        · simp [hp]
        · simpa [hp] using ih
      · by_cases hp : p l
        · simpa [hp, List.lookup_cons, beq_false_of_ne hl] using ih
        · simpa [hp, List.lookup_cons, beq_false_of_ne hl] using ih

theorem get?_filter (p : String → Bool) (o : Object) (k : String) :
    get? (o.filter fun f => p f.1) k = if p k then o.get? k else none :=
  lookup_filter p o k

theorem nodup_keys_filter (h : o.keys.Nodup) (p : String × Value → Bool) :
    (keys (o.filter p)).Nodup :=
  (List.Sublist.map _ List.filter_sublist).nodup h

/-! ## Fields written one after the other -/

theorem mem_keys_insertAll (fields : List (String × Value)) :
    k ∈ (o.insertAll fields).keys ↔ k ∈ o.keys ∨ k ∈ fields.map (·.1) := by
  unfold insertAll
  induction fields generalizing o with
  | nil => simp
  | cons f fields ih =>
      obtain ⟨l, u⟩ := f
      rw [List.foldl_cons, ih, mem_keys_insert, List.map_cons, List.mem_cons,
        or_assoc]

theorem nodup_keys_insertAll (h : o.keys.Nodup)
    (fields : List (String × Value)) : (o.insertAll fields).keys.Nodup := by
  unfold insertAll
  induction fields generalizing o with
  | nil => exact h
  | cons f fields ih => exact ih (nodup_keys_insert h f.1 f.2)

theorem insertAll_cons (k : String) (v : Value)
    (fields : List (String × Value)) :
    o.insertAll ((k, v) :: fields) = (o.insert k v).insertAll fields := rfl

theorem keys_insertAll_of_subset {o : Object} {fields : List (String × Value)}
    (h : ∀ f ∈ fields, f.1 ∈ o.keys) : (o.insertAll fields).keys = o.keys := by
  induction fields generalizing o with
  | nil => rfl
  | cons f fields ih =>
      obtain ⟨hf, hrest⟩ := List.forall_mem_cons.1 h
      have hkeys := keys_insert_of_mem hf f.2
      rw [insertAll_cons, ih fun g hg => hkeys ▸ hrest g hg, hkeys]

/-- Of fields with distinct keys each is read under its key. -/
theorem get?_insertAll {fields : Object} (h : fields.keys.Nodup) (o : Object)
    (k : String) :
    (o.insertAll fields).get? k = (fields.get? k).or (o.get? k) := by
  induction fields generalizing o with
  | nil => rfl
  | cons f fields ih =>
      obtain ⟨l, u⟩ := f
      obtain ⟨hnew, hrest⟩ := List.nodup_cons.1 h
      rw [insertAll_cons, ih hrest]
      by_cases hk : k = l
      · subst hk
        rw [get?_eq_none_iff.2 hnew, get?_insert_self, get?,
          List.lookup_cons_self]
        rfl
      · rw [get?_insert_of_ne _ hk]
        simp [get?, List.lookup_cons, beq_false_of_ne hk]

theorem mem_of_mem_insertAll {f : String × Value}
    {fields : List (String × Value)} (h : f ∈ o.insertAll fields) :
    f ∈ o ∨ f ∈ fields := by
  induction fields generalizing o with
  | nil => exact .inl h
  | cons g fields ih =>
      obtain h | h := ih h
      · obtain h | rfl := mem_of_mem_insert h
        · exact .inl h
        · exact .inr List.mem_cons_self
      · exact .inr (List.mem_cons_of_mem _ h)

/-- Fields whose keys are new and distinct go last, in their order. -/
theorem insertAll_of_nodup {fields : List (String × Value)}
    (h : (o.keys ++ fields.map (·.1)).Nodup) :
    o.insertAll fields = o ++ fields := by
  induction fields generalizing o with
  | nil => exact (List.append_nil o).symm
  | cons f fields ih =>
      obtain ⟨k, v⟩ := f
      have hnew : k ∉ o.keys := fun hmem =>
        (List.nodup_append.1 h).2.2 k hmem k List.mem_cons_self rfl
      rw [insertAll_cons, insert_of_not_mem hnew, ih, List.append_assoc,
        List.singleton_append]
      simpa [keys] using h

/-- A field that is not written to again keeps its place and its value. -/
theorem insertAll_cons_of_not_mem {fields : List (String × Value)}
    (h : key ∉ fields.map (·.1)) (v : Value) :
    insertAll ((key, v) :: o) fields = (key, v) :: o.insertAll fields := by
  induction fields generalizing o with
  | nil => rfl
  | cons f fields ih =>
      obtain ⟨k, u⟩ := f
      rw [List.map_cons, List.mem_cons, not_or] at h
      have hkeep : insert ((key, v) :: o) k u = (key, v) :: o.insert k u := by
        rw [insert, if_neg (by simpa using h.1)]
      rw [insertAll_cons, insertAll_cons, hkeep, ih h.2]

/-- The keys of the object that fields write. -/
theorem mem_keys_ofFields (fields : List (String × Value)) :
    k ∈ (ofFields fields).keys ↔ k ∈ fields.map (·.1) := by
  unfold ofFields
  rw [mem_keys_insertAll]
  simp [keys]

theorem nodup_keys_ofFields (fields : List (String × Value)) :
    (ofFields fields).keys.Nodup :=
  nodup_keys_insertAll (by simp [keys]) fields

/-- Of the fields with a key the last is read, and what was there
if there is none. -/
theorem get?_insertAll_last (o : Object) (fields : List (String × Value))
    (k : String) : (o.insertAll fields).get? k =
      ((fields.filter (·.1 == k)).getLast?.map (·.2)).or (o.get? k) := by
  induction fields generalizing o with
  | nil => rfl
  | cons f fields ih =>
      obtain ⟨l, u⟩ := f
      rw [insertAll_cons, ih]
      by_cases hk : k = l
      · subst hk
        rw [get?_insert_self, List.filter_cons, if_pos (beq_self_eq_true k),
          List.getLast?_cons]
        cases (fields.filter (·.1 == k)).getLast? <;> rfl
      · rw [get?_insert_of_ne _ hk, List.filter_cons,
          if_neg (by simpa using Ne.symm hk)]

end TenantTables.Json.Object
