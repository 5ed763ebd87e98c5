import Mathlib.Data.List.Induction
import TenantTables.Path
import TenantTables.Proofs.ObjectKeys
import TenantTables.Proofs.TextCutting

/-!
# One path, read in the flat row and in the nested one

A flat row is read at a path under a single key: the path itself where it is a
key, and else its first segment. In the nested row every key has written at its
own path, one after the other, so what is read there is decided by the last of
the keys that lead through the path or on from it. Where both are the same key,
the two rows read alike. Keys that meet a path nowhere do not matter, and
neither does what is written before the last that does.
-/

namespace TenantTables.Path

open Json (Value Object)

variable {target o : Object} {v : Value} {segments steps : List String}
  {k path : String}

/-! ## One write, and one read behind it -/

theorem getAt_obj_cons (fields : Object) (step : String) (steps : List String) :
    getAt (.obj fields) (step :: steps) = (fields.get? step).bind fun v =>
      getAt v steps := by
  rw [getAt]

theorem setAt_cons (target : Object) (step : String) (h : segments ≠ [])
    (v : Value) :
    setAt target (step :: segments) v =
      target.insert step
        (.obj (setAt (fieldsOf (target.get? step)) segments v)) := by
  cases segments with
  | nil => exact absurd rfl h
  | cons _ _ =>
      rw [setAt]
      exact h

/-- A write is one to its first segment. -/
theorem setAt_eq_insert (target : Object) (step : String)
    (segments : List String) (v : Value) :
    ∃ u, setAt target (step :: segments) v = target.insert step u := by
  cases segments with
  | nil => exact ⟨v, rfl⟩
  | cons _ _ => exact ⟨_, setAt_cons target step (by simp) v⟩

theorem getAt_fieldsOf (v : Option Value) (h : steps ≠ []) :
    getAt (.obj (fieldsOf v)) steps = v.bind fun v => getAt v steps := by
  obtain ⟨step, steps, rfl⟩ := List.exists_cons_of_ne_nil h
  match v with
  | none => rfl
  | some .null | some (.bool _) | some (.int _) | some (.float _) | some
    (.str _)
  | some (.arr _) | some (.obj _) => rfl

/-- Behind a write to a path, whatever lies below is read in the value. -/
theorem getAt_setAt_append (target : Object) (h : segments ≠ []) (v : Value)
    (steps : List String) :
    getAt (.obj (setAt target segments v)) (segments ++ steps) =
      getAt v steps := by
  induction segments generalizing target with
  | nil => exact absurd rfl h
  | cons step segments ih =>
      rw [List.cons_append, getAt_obj_cons]
      by_cases hnil : segments = []
      · subst hnil
        rw [setAt, Object.get?_insert_self, Option.bind_some, List.nil_append]
      · rw [setAt_cons target step hnil, Object.get?_insert_self,
          Option.bind_some]
        exact ih _ hnil

/-- A write leaves an object wherever it passes through. -/
theorem getAt_setAt_of_passed (target : Object) (h : steps <+: segments)
    (hne : steps ≠ segments) (v : Value) : ∃ fields,
      getAt (.obj (setAt target segments v)) steps = some (.obj fields) := by
  induction steps generalizing target segments with
  | nil => exact ⟨_, rfl⟩
  | cons step steps ih =>
      obtain ⟨below, rfl⟩ := h
      have hbelow : below ≠ [] := fun heq => hne (by rw [heq, List.append_nil])
      rw [List.cons_append, setAt_cons target step (by simp [hbelow]),
        getAt_obj_cons, Object.get?_insert_self, Option.bind_some]
      exact ih _ (List.prefix_append ..) (by simpa using hbelow)

/-- A write changes nothing at a path that it does not meet. -/
theorem getAt_setAt_of_apart (target : Object) (hbelow : ¬ segments <+: steps)
    (habove : ¬ steps <+: segments) (v : Value) :
    getAt (.obj (setAt target segments v)) steps =
      getAt (.obj target) steps := by
  induction segments generalizing target steps with
  | nil => exact absurd (List.nil_prefix ..) hbelow
  | cons segment segments ih =>
      cases steps with
      | nil => exact absurd (List.nil_prefix ..) habove
      | cons step steps =>
          rw [getAt_obj_cons, getAt_obj_cons]
          by_cases heq : step = segment
          · subst heq
            rw [List.cons_prefix_cons, not_and] at hbelow habove
            have hsegments : segments ≠ [] :=
              fun h => hbelow rfl (h ▸ List.nil_prefix ..)
            have hsteps : steps ≠ [] :=
              fun h => habove rfl (h ▸ List.nil_prefix ..)
            rw [setAt_cons target step hsegments, Object.get?_insert_self,
              Option.bind_some, ih _ (hbelow rfl) (habove rfl),
              getAt_fieldsOf _ hsteps]
          · obtain ⟨u, hu⟩ := setAt_eq_insert target segment segments v
            rw [hu, Object.get?_insert_of_ne target heq]

/-- No key of an object is cut, so each is a path of one segment. -/
def Uncut (o : Object) : Prop :=
  ∀ k ∈ o.keys, Text.split '.' k = [k]

/-- The first segment of a path is not cut either. -/
theorem uncut_set (h : Uncut target) (path : String) (v : Value) :
    Uncut (set target path v) := by
  obtain ⟨step, steps, hsplit⟩ :=
    List.exists_cons_of_ne_nil (Text.split_ne_nil '.' path)
  obtain ⟨u, hu⟩ := setAt_eq_insert target step steps v
  intro k hk
  rw [set, hsplit, hu, Object.mem_keys_insert] at hk
  rcases hk with hk | rfl
  · exact h k hk
  · exact Text.split_of_mem_split (hsplit ▸ List.mem_cons_self ..)

/-- Where no key is cut, going for the whole key first makes no difference. -/
theorem get?_eq_getAt (h : Uncut o) (path : String) :
    get? o path = getAt (.obj o) (Text.split '.' path) := by
  rw [get?]
  split
  · next v hv =>
      rw [h path (Object.mem_keys_iff.2 ⟨v, hv⟩), getAt_obj_cons, hv,
        Option.bind_some, getAt]
  · rfl

/-- Objects inside each other, with a value below all the given keys. -/
def nest : List String → Value → Value
  | [], v => v
  | step :: steps, v => .obj [(step, nest steps v)]

theorem getAt_nest (steps : List String) (v : Value) :
    getAt (nest steps v) steps = some v := by
  induction steps with
  | nil => rfl
  | cons step steps ih => simpa [nest, getAt, Object.get?] using ih

/-! ## The keys that decide -/

/-- One of two paths leads through the other. -/
def Meets (key path : String) : Prop :=
  Text.split '.' key <+: Text.split '.' path ∨
    Text.split '.' path <+: Text.split '.' key

instance (key path : String) : Decidable (Meets key path) :=
  inferInstanceAs (Decidable (_ ∨ _))

/-- The last of the keys that meet a path: what it wrote is read in
the nested row. -/
def lastMeeting? (keys : List String) (path : String) : Option String :=
  (keys.filter (Meets · path)).getLast?

/-- The key under which a flat row is read at a path. -/
def readKey? (keys : List String) (path : String) : Option String :=
  if path ∈ keys then some path
  else (Text.split '.' path).head?.filter (· ∈ keys)

/-- The key under which the flat row is read is the last that wrote there. -/
def ReadsAlike (keys : List String) (path : String) : Prop :=
  lastMeeting? keys path = readKey? keys path

instance (keys : List String) (path : String) :
    Decidable (ReadsAlike keys path) :=
  inferInstanceAs (Decidable (_ = _))

theorem lastMeeting?_concat (keys : List String) (k path : String) :
    lastMeeting? (keys ++ [k]) path =
      if Meets k path then some k else lastMeeting? keys path := by
  unfold lastMeeting?
  rw [List.filter_append]
  split
  · next h => simp [h]
  · next h => simp [h]

/-- A flat row is read at a key's path, or below it. -/
theorem split_of_readKey? {keys : List String}
    (h : readKey? keys path = some k) :
    k ∈ keys ∧ ∃ steps, Text.split '.' path = Text.split '.' k ++ steps := by
  unfold readKey? at h
  split at h
  · next hmem =>
      obtain rfl := Option.some.inj h
      exact ⟨hmem, [], by rw [List.append_nil]⟩
  · obtain ⟨hhead, hmem⟩ := Option.filter_eq_some_iff.1 h
    obtain ⟨steps, hsteps⟩ := List.head?_eq_some_iff.1 hhead
    have hk : Text.split '.' k = [k] :=
      Text.split_of_mem_split (List.mem_of_mem_head? hhead)
    exact ⟨of_decide_eq_true hmem,
      steps, by rw [hsteps, hk, List.singleton_append]⟩

theorem meets_of_readKey? {keys : List String}
    (h : readKey? keys path = some k) :
    Meets k path := by
  obtain ⟨-, steps, hsteps⟩ := split_of_readKey? h
  exact .inl ⟨steps, hsteps.symm⟩

theorem get?_of_readKey?_none (h : readKey? o.keys path = none) :
    get? o path = none := by
  unfold readKey? at h
  split at h
  · simp at h
  · next hpath =>
      obtain ⟨step, steps, hsplit⟩ :=
        List.exists_cons_of_ne_nil (Text.split_ne_nil '.' path)
      rw [hsplit, List.head?_cons, Option.filter_eq_none_iff] at h
      have hstep : step ∉ o.keys :=
        of_decide_eq_false (Bool.eq_false_iff.2 (h step rfl))
      rw [get?, Object.get?_eq_none_iff.2 hpath, hsplit, getAt_obj_cons,
        Object.get?_eq_none_iff.2 hstep, Option.bind_none]

theorem get?_of_readKey? (h : readKey? o.keys path = some k)
    (hsteps : Text.split '.' path = Text.split '.' k ++ steps)
    (hv : o.get? k = some v) :
    get? o path = getAt v steps := by
  unfold readKey? at h
  split at h
  · obtain rfl := Option.some.inj h
    obtain rfl : steps = [] := List.self_eq_append_right.1 hsteps
    rw [get?, hv, getAt]
  · next hpath =>
      obtain ⟨hhead, -⟩ := Option.filter_eq_some_iff.1 h
      rw [Text.split_of_mem_split (List.mem_of_mem_head? hhead)] at hsteps
      rw [get?, Object.get?_eq_none_iff.2 hpath, hsteps, List.singleton_append,
        getAt_obj_cons, hv, Option.bind_some]

/-! ## The nested row -/

theorem undot_concat (o : Object) (k : String) (v : Value) :
    undot (o ++ [(k, v)]) = set (undot o) k v := by
  simp [undot]

theorem uncut_undot (o : Object) : Uncut (undot o) := by
  induction o using List.reverseRecOn with
  | nil => exact fun k hk => absurd hk List.not_mem_nil
  | append_singleton o f ih =>
      rw [undot_concat]
      exact uncut_set ih f.1 f.2

theorem get?_undot_eq_getAt (o : Object) (path : String) :
    get? (undot o) path = getAt (.obj (undot o)) (Text.split '.' path) :=
  get?_eq_getAt (uncut_undot o) path

theorem get?_undot_of_none (h : lastMeeting? o.keys path = none) :
    get? (undot o) path = none := by
  rw [get?_undot_eq_getAt]
  induction o using List.reverseRecOn with
  | nil =>
      obtain ⟨step, steps, hsplit⟩ :=
        List.exists_cons_of_ne_nil (Text.split_ne_nil '.' path)
      rw [hsplit]
      rfl
  | append_singleton o f ih =>
      obtain ⟨key, v⟩ := f
      rw [Object.keys, List.map_append, List.map_singleton, lastMeeting?_concat]
        at h
      split at h
      · simp at h
      · next hmeets =>
          rw [Meets, not_or] at hmeets
          rw [undot_concat, set, getAt_setAt_of_apart _ hmeets.1 hmeets.2]
          exact ih h

/-- Of all keys that meet a path the last decides what the
nested row has there. -/
theorem get?_undot_of_some (h : lastMeeting? o.keys path = some k) :
    Meets k path ∧ ∃ earlier v, (k, v) ∈ o ∧
      get? (undot o) path =
        getAt (.obj (set earlier k v)) (Text.split '.' path) := by
  rw [get?_undot_eq_getAt]
  induction o using List.reverseRecOn with
  | nil => simp [lastMeeting?, Object.keys] at h
  | append_singleton o f ih =>
      obtain ⟨key, v⟩ := f
      rw [Object.keys, List.map_append, List.map_singleton, lastMeeting?_concat]
        at h
      split at h
      · next hmeets =>
          obtain rfl := Option.some.inj h
          exact ⟨hmeets, undot o, v, by simp, by rw [undot_concat]⟩
      · next hmeets =>
          obtain ⟨hk, earlier, u, hu, hread⟩ := ih h
          rw [Meets, not_or] at hmeets
          refine ⟨hk, earlier, u, List.mem_append_left _ hu, ?_⟩
          rw [undot_concat, set, getAt_setAt_of_apart _ hmeets.1 hmeets.2]
          exact hread

/-- Where one key decides both ways, a row reads alike flat and nested. -/
theorem get?_undot (h : o.keys.Nodup) (halike : ReadsAlike o.keys path) :
    get? (undot o) path = get? o path := by
  cases hread : readKey? o.keys path with
  | none =>
      rw [get?_of_readKey?_none hread, get?_undot_of_none (halike.trans hread)]
  | some k =>
      obtain ⟨-, steps, hsteps⟩ := split_of_readKey? hread
      obtain ⟨-, earlier, v, hv, hnested⟩ :=
        get?_undot_of_some (halike.trans hread)
      rw [hnested,
        get?_of_readKey? hread hsteps (Object.get?_of_mem h hv), hsteps]
      exact getAt_setAt_append earlier (Text.split_ne_nil '.' k) v steps

end TenantTables.Path
