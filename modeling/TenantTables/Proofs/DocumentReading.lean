import TenantTables.Proofs.Flattening

/-!
# Documents that read alike

A flat row whose paths are apart nests to the same document in whatever order
its fields are written, up to the order of keys: what is read behind given keys
is decided by the one field on whose path they are, and where there are several
they all lead on. Two documents are the same when behind all keys both have
nothing, both an object, or both the same leaf.
-/

namespace TenantTables.Json

open TenantTables.Path (getAt)

variable {v w : Value} {xs ys : Object}

/-! ## Fields -/

/-- Two objects have the same fields when each of the one has an equal partner
in the other, and there are equally many. -/
theorem Value.sameFields_iff :
    Value.sameFields xs ys = true ↔
      ∀ f ∈ xs, ∃ y, Object.get? ys f.1 = some y ∧ f.2.same y = true := by
  induction xs with
  | nil => simp [sameFields]
  | cons f xs ih =>
      obtain ⟨key, x⟩ := f
      rw [sameFields, Bool.and_eq_true, ih, List.forall_mem_cons]
      refine and_congr_left fun _ => ?_
      rw [Object.get?]
      cases ys.lookup key <;> simp

/-! ## Alike -/

/-- What is read behind the same keys in two documents. -/
inductive Alike : Option Value → Option Value → Prop where
  | missing : Alike none none
  | objects (xs ys : Object) : Alike (some (.obj xs)) (some (.obj ys))
  | leaf (v : Value) (h : v.same v = true) : Alike (some v) (some v)

theorem Value.DotFree.fields (h : (Value.obj xs).DotFree) :
    xs.keys.Nodup ∧ (∀ f ∈ xs, '.' ∉ f.1.toList) ∧ ∀ f ∈ xs, f.2.DotFree := by
  cases h with
  | leaf hleaf => exact absurd rfl (hleaf xs)
  | obj hnodup hdot hfields => exact ⟨hnodup, hdot, hfields⟩

theorem getAt_singleton (o : Object) (key : String) :
    getAt (.obj o) [key] = o.get? key := by
  rw [Path.getAt_obj_cons]
  cases o.get? key <;> rfl

theorem keys_of_alike (h : ∀ key, Alike (xs.get? key) (ys.get? key))
    (key : String) :
    key ∈ xs.keys ↔ key ∈ ys.keys := by
  rw [Object.mem_keys_iff, Object.mem_keys_iff]
  have hkey := h key
  generalize xs.get? key = x at hkey
  generalize ys.get? key = y at hkey
  cases hkey <;> simp

theorem same_of_alike (hv : v.DotFree) (hw : w.DotFree)
    (h : ∀ steps, Alike (getAt v steps) (getAt w steps)) : v.same w = true := by
  -- No key tells the kind of a value, one key which keys there are, and
  -- more the values below.
  induction hv generalizing w with
  | leaf hleaf =>
      have hroot := h []
      rw [getAt, getAt] at hroot
      cases hroot with
      | objects xs ys => exact absurd rfl (hleaf xs)
      | leaf _ hsame => exact hsame
  | @obj xs hnodup _ _ ih =>
      have hroot := h []
      rw [getAt, getAt] at hroot
      cases hroot with
      | leaf _ hsame => exact hsame
      | objects _ ys =>
          obtain ⟨hnodup', -, hfields'⟩ := hw.fields
          have hkeys : ∀ key, key ∈ xs.keys ↔ key ∈ ys.keys := by
            refine keys_of_alike fun key => ?_
            rw [← getAt_singleton, ← getAt_singleton]
            exact h [key]
          have hlength : xs.length = ys.length := by
            have hperm := (List.perm_ext_iff_of_nodup hnodup hnodup').2 hkeys
            simpa [Object.keys] using hperm.length_eq
          rw [Value.same, hlength, beq_self_eq_true, Bool.true_and,
            Value.sameFields_iff]
          intro f hf
          obtain ⟨key, x⟩ := f
          obtain ⟨y, hy⟩ :=
            Object.mem_keys_iff.1 ((hkeys key).1 (List.mem_map_of_mem hf))
          refine ⟨y, hy,
            ih _ hf (hfields' _ (Object.mem_of_get? hy)) fun steps => ?_⟩
          have hbelow := h (key :: steps)
          rwa [Path.getAt_obj_cons, Path.getAt_obj_cons,
            Object.get?_of_mem hnodup hf, hy, Option.bind_some,
            Option.bind_some] at hbelow

end TenantTables.Json

namespace TenantTables.Path

open Json (Value Object Alike)

variable {flat other target : Object} {v : Value} {path key : String}
  {steps segments : List String}

/-! ## Reading a nested row behind keys -/

/-- Keys on or below a path do not meet a path that is apart from it. -/
theorem not_meets_of_apart {path key : List String} (hbelow : ¬ path <+: key)
    (habove : ¬ key <+: path) (h : path <+: steps) :
    ¬ key <+: steps ∧ ¬ steps <+: key :=
  ⟨fun hkey => (List.prefix_or_prefix_of_prefix h hkey).elim hbelow habove,
    fun hkey => hbelow (h.trans hkey)⟩

/-- What is read behind keys on or below the path of a field is
read in its value. -/
theorem getAt_undot_of_below (hflat : flat.Pairwise fun f g => Apart f.1 g.1)
    (hmem : (path, v) ∈ flat) (steps : List String) :
    getAt (.obj (undot flat)) (Text.split '.' path ++ steps) =
      getAt v steps := by
  -- The field that is written last is the one that reading meets first.
  induction flat using List.reverseRecOn with
  | nil => exact absurd hmem List.not_mem_nil
  | append_singleton flat f ih =>
      obtain ⟨key, u⟩ := f
      obtain ⟨hflat, -, happart⟩ := List.pairwise_append.1 hflat
      rw [undot_concat, set]
      rcases List.mem_append.1 hmem with hmem | hlast
      · have hapart : Apart path key :=
          happart _ hmem _ (List.mem_singleton_self _)
        rw [Apart, Meets, not_or] at hapart
        obtain ⟨hbelow, habove⟩ :=
          not_meets_of_apart hapart.1 hapart.2
            (List.prefix_append (Text.split '.' path) steps)
        rw [getAt_setAt_of_apart _ hbelow habove, ih hflat hmem]
      · obtain ⟨rfl, rfl⟩ := Prod.mk.inj (List.mem_singleton.1 hlast)
        exact getAt_setAt_append _ (Text.split_ne_nil '.' path) v steps

/-- Behind keys that lead on to a field there is an object. -/
theorem getAt_undot_of_above (hflat : flat.Pairwise fun f g => Apart f.1 g.1)
    (hmem : (path, v) ∈ flat) (habove : steps <+: Text.split '.' path)
    (hne : steps ≠ Text.split '.' path) :
    ∃ fields, getAt (.obj (undot flat)) steps = some (.obj fields) := by
  induction flat using List.reverseRecOn with
  | nil => exact absurd hmem List.not_mem_nil
  | append_singleton flat f ih =>
      obtain ⟨key, u⟩ := f
      obtain ⟨hflat, -, happart⟩ := List.pairwise_append.1 hflat
      rw [undot_concat, set]
      rcases List.mem_append.1 hmem with hmem | hlast
      · have hapart : Apart path key :=
          happart _ hmem _ (List.mem_singleton_self _)
        rw [Apart, Meets, not_or] at hapart
        by_cases hkey : steps <+: Text.split '.' key
        · refine getAt_setAt_of_passed _ hkey (fun heq => hapart.2 ?_) _
          rwa [← heq]
        · have hbelow : ¬ Text.split '.' key <+: steps :=
            fun h => hapart.2 (h.trans habove)
          rw [getAt_setAt_of_apart _ hbelow hkey]
          exact ih hflat hmem
      · obtain ⟨rfl, rfl⟩ := Prod.mk.inj (List.mem_singleton.1 hlast)
        exact getAt_setAt_of_passed _ habove hne _

theorem getAt_undot_of_apart (hne : steps ≠ [])
    (h : ∀ f ∈ flat, ¬ Text.split '.' f.1 <+: steps ∧
      ¬ steps <+: Text.split '.' f.1) :
    getAt (.obj (undot flat)) steps = none := by
  induction flat using List.reverseRecOn with
  | nil =>
      obtain ⟨step, steps, rfl⟩ := List.exists_cons_of_ne_nil hne
      rfl
  | append_singleton flat f ih =>
      obtain ⟨key, u⟩ := f
      obtain ⟨hbelow, habove⟩ :=
        h (key, u) (List.mem_append_right _ List.mem_cons_self)
      rw [undot_concat, set, getAt_setAt_of_apart _ hbelow habove]
      exact ih fun f hf => h f (List.mem_append_left _ hf)

theorem getAt_of_isLeaf (h : v.IsLeaf) (hne : steps ≠ []) :
    getAt v steps = none := by
  obtain ⟨step, steps, rfl⟩ := List.exists_cons_of_ne_nil hne
  match v with
  | .obj (f :: fields) => exact absurd rfl (h f fields)
  | .null | .bool _ | .int _ | .float _ | .str _ | .arr _ | .obj [] => rfl

/-- The order in which fields are written does not matter to what is read. -/
theorem alike_of_perm (hflat : flat.Pairwise fun f g => Apart f.1 g.1)
    (hperm : other.Perm flat)
    (hleaf : ∀ f ∈ flat, f.2.IsLeaf ∧ f.2.same f.2 = true)
    (steps : List String) :
    Alike (getAt (.obj (undot other)) steps)
      (getAt (.obj (undot flat)) steps) := by
  have hother : other.Pairwise fun f g => Apart f.1 g.1 :=
    (hperm.pairwise_iff fun {f g} h => fun hmeets => h hmeets.symm).2 hflat
  -- The keys stop at the root, lead into a field, stop on the way to
  -- one, or miss them all.
  by_cases hroot : steps = []
  · subst hroot
    exact .objects _ _
  by_cases hbelow : ∃ f ∈ flat, Text.split '.' f.1 <+: steps
  · obtain ⟨⟨path, v⟩, hmem, rest, rfl⟩ := hbelow
    rw [getAt_undot_of_below hother (hperm.mem_iff.2 hmem),
      getAt_undot_of_below hflat hmem]
    obtain ⟨hv, hsame⟩ := hleaf _ hmem
    by_cases hrest : rest = []
    · subst hrest
      exact .leaf v hsame
    · rw [getAt_of_isLeaf hv hrest]
      exact .missing
  · by_cases habove : ∃ f ∈ flat, steps <+: Text.split '.' f.1
    · obtain ⟨⟨path, v⟩, hmem, hsteps⟩ := habove
      have hne : steps ≠ Text.split '.' path := fun heq =>
        hbelow ⟨_, hmem, heq ▸ List.prefix_refl _⟩
      obtain ⟨xs, hxs⟩ :=
        getAt_undot_of_above hother (hperm.mem_iff.2 hmem) hsteps hne
      obtain ⟨ys, hys⟩ := getAt_undot_of_above hflat hmem hsteps hne
      rw [hxs, hys]
      exact .objects xs ys
    · have hnone : ∀ f ∈ flat,
          ¬ Text.split '.' f.1 <+: steps ∧ ¬ steps <+: Text.split '.' f.1 :=
        fun f hf => ⟨fun h => hbelow ⟨f, hf, h⟩, fun h => habove ⟨f, hf, h⟩⟩
      rw [getAt_undot_of_apart hroot hnone,
        getAt_undot_of_apart hroot fun f hf => hnone f (hperm.mem_iff.1 hf)]
      exact .missing

/-! ## Nested rows have no dots -/

theorem dotFree_insert (htarget : (Value.obj target).DotFree)
    (hkey : '.' ∉ key.toList) (hv : v.DotFree) :
    (Value.obj (target.insert key v)).DotFree := by
  obtain ⟨hnodup, hdot, hfields⟩ := htarget.fields
  refine .obj (Object.nodup_keys_insert hnodup key v)
    (fun f hf => ?_) fun f hf => ?_
  · obtain hf | rfl := Object.mem_of_mem_insert hf
    · exact hdot f hf
    · exact hkey
  · obtain hf | rfl := Object.mem_of_mem_insert hf
    · exact hfields f hf
    · exact hv

theorem dotFree_nil : (Value.obj []).DotFree :=
  .obj List.nodup_nil (fun _ hf => absurd hf List.not_mem_nil) fun _ hf =>
    absurd hf List.not_mem_nil

theorem dotFree_fieldsOf (htarget : (Value.obj target).DotFree) (key : String) :
    (Value.obj (fieldsOf (target.get? key))).DotFree := by
  cases hget : target.get? key with
  | none => exact dotFree_nil
  | some v =>
      have hv : v.DotFree := htarget.fields.2.2 _ (Object.mem_of_get? hget)
      match v with
      | .obj _ => exact hv
      | .null | .bool _ | .int _ | .float _ | .str _ | .arr _ =>
          exact dotFree_nil

theorem dotFree_setAt (htarget : (Value.obj target).DotFree) (hv : v.DotFree)
    (hsegments : ∀ segment ∈ segments, '.' ∉ segment.toList) :
    (Value.obj (setAt target segments v)).DotFree := by
  induction segments generalizing target with
  | nil => exact htarget
  | cons key segments ih =>
      have hkey := hsegments key List.mem_cons_self
      by_cases hnil : segments = []
      · subst hnil
        exact dotFree_insert htarget hkey hv
      · rw [setAt_cons _ _ hnil]
        exact dotFree_insert htarget hkey (ih (dotFree_fieldsOf htarget key)
          fun segment hmem => hsegments segment (List.mem_cons_of_mem _ hmem))

theorem dotFree_undot (h : ∀ f ∈ flat, f.2.DotFree) :
    (Value.obj (undot flat)).DotFree := by
  induction flat using List.reverseRecOn with
  | nil => exact dotFree_nil
  | append_singleton flat f ih =>
      obtain ⟨key, v⟩ := f
      rw [undot_concat]
      refine dotFree_setAt (ih fun f hf => h f (List.mem_append_left _ hf))
        (h _ (List.mem_append_right _ List.mem_cons_self))
        fun segment hsegment => ?_
      obtain ⟨cs, hcs, rfl⟩ := List.mem_map.1 hsegment
      rw [String.toList_ofList]
      exact Text.not_mem_of_mem_pieces hcs

theorem dotFree_of_isLeaf (h : v.IsLeaf) : v.DotFree := by
  match v with
  | .obj (f :: fields) => exact absurd rfl (h f fields)
  | .obj [] => exact dotFree_nil
  | .null | .bool _ | .int _ | .float _ | .str _ | .arr _ => exact .leaf nofun

/-- The leaves of a document build up the same document in any order. -/
theorem same_undot_of_perm (h : (Value.obj target).DotFree)
    (hperm : flat.Perm (flatten target))
    (hleaf : ∀ f ∈ flatten target, f.2.IsLeaf ∧ f.2.same f.2 = true) :
    (Value.obj (undot flat)).same (.obj target) = true := by
  have hflat : (flatten target).Pairwise fun f g => Apart f.1 g.1 := by
    rw [flatten_of_dotFree h]
    exact apart_of_dotFree h target rfl
  have hundot : (Value.obj (undot flat)).DotFree :=
    dotFree_undot fun f hf => dotFree_of_isLeaf (hleaf f (hperm.mem_iff.1 hf)).1
  refine Json.same_of_alike hundot h fun steps => ?_
  have halike := alike_of_perm hflat hperm hleaf steps
  rwa [undot_flatten h] at halike

end TenantTables.Path
