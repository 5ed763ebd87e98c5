import TenantTables.Proofs.PathReading

/-!
# Flat rows and the documents they nest to

Flattening lists the leaves of a document under their paths, field by field.
Where no key has a dot, the path of a leaf is cut into the keys that lead to it,
so no path leads through another, and writing the leaves one after the other
builds up the document again, keys in the same order.
-/

namespace TenantTables.Json

/-- Documents whose keys, outside lists, have no dot and are distinct
in each object. -/
inductive Value.DotFree : Value → Prop where
  | leaf {v : Value} (h : ∀ fields, v ≠ .obj fields) : DotFree v
  | obj {fields : Object} (hnodup : fields.keys.Nodup)
      (hdot : ∀ f ∈ fields, '.' ∉ f.1.toList)
      (hfields : ∀ f ∈ fields, DotFree f.2) : DotFree (.obj fields)

/-- A value that flattening does not open. -/
def Value.IsLeaf (v : Value) : Prop :=
  ∀ f fields, v ≠ .obj (f :: fields)

end TenantTables.Json

namespace TenantTables.Path

open Json (Value Object)

variable {o target : Object} {v : Value} {key path : String}
  {steps : List String}

/-! ## Leaves -/

theorem leaves_ne_nil (path : String) : ∀ v : Value, leaves path v ≠ []
  | .null | .bool _ | .int _ | .float _ | .str _ | .arr _ | .obj [] =>
      List.cons_ne_nil _ _
  | .obj ((key, v) :: fields) => by
      rw [leaves, leavesOf]
      exact List.append_ne_nil_of_left_ne_nil
        (leaves_ne_nil (path ++ "." ++ key) v) _

mutual

/-- What stands in front of a path stands in front of all paths below. -/
theorem leaves_append (start path : String) :
    ∀ v : Value, leaves (start ++ path) v = (leaves path v).map fun f =>
      (start ++ f.1, f.2)
  | .null | .bool _ | .int _ | .float _ | .str _ | .arr _ | .obj [] => rfl
  | .obj (f :: fields) => by
      rw [leaves, leaves, String.append_assoc, leavesOf_append_start]

theorem leavesOf_append_start (start path : String) :
    ∀ fields : List (String × Value),
      leavesOf (start ++ path) fields = (leavesOf path fields).map fun f =>
        (start ++ f.1, f.2)
  | [] => rfl
  | (key, v) :: fields => by
      rw [leavesOf, leavesOf, String.append_assoc, leaves_append,
        leavesOf_append_start, List.map_append]

end

/-- The leaves below an object are those of its fields, behind a dot. -/
theorem leaves_obj (key : String) (f : String × Value) (fields : Object) :
    leaves key (.obj (f :: fields)) =
      (leavesOf "" (f :: fields)).map fun f => (key ++ "." ++ f.1, f.2) := by
  rw [leaves, ← leavesOf_append_start, String.append_empty]

/-- A path begins with what stands in front. -/
theorem isPrefix_of_mem_leaves {f : String × Value} (h : f ∈ leaves path v) :
    path.toList <+: f.1.toList := by
  rw [← String.append_empty (s := path), leaves_append] at h
  obtain ⟨g, -, rfl⟩ := List.mem_map.1 h
  rw [String.toList_append]
  exact List.prefix_append _ _

theorem leavesOf_empty_cons (key : String) (v : Value) (fields : Object) :
    leavesOf "" ((key, v) :: fields) = leaves key v ++ leavesOf "" fields := by
  rw [leavesOf, String.empty_append]

theorem split_behind_dot (hkey : '.' ∉ key.toList) (path : String) :
    Text.split '.' (key ++ "." ++ path) = key :: Text.split '.' path := by
  have hchars :
      (key ++ "." ++ path).toList = key.toList ++ '.' :: path.toList := by simp
  rw [Text.split, hchars, Text.pieces_append hkey, List.map_cons,
    String.ofList_toList, ← Text.split]

theorem split_of_dotFree (hkey : '.' ∉ key.toList) :
    Text.split '.' key = [key] := by
  rw [Text.split, Text.pieces_of_not_mem hkey, List.map_singleton,
    String.ofList_toList]

/-! ## Writing the leaves -/

/-- Writes the fields of a flat row into a nested one. -/
def setAll (target : Object) (flat : List (String × Value)) : Object :=
  flat.foldl (fun nested f => set nested f.1 f.2) target

theorem undot_eq_setAll (flat : Object) : undot flat = setAll [] flat := rfl

theorem setAll_append (target : Object) (flat more : List (String × Value)) :
    setAll target (flat ++ more) = setAll (setAll target flat) more :=
  List.foldl_append ..

theorem set_of_dotFree (hkey : '.' ∉ key.toList) (target : Object) (v : Value) :
    set target key v = target.insert key v := by
  rw [set, split_of_dotFree hkey, setAt]

theorem set_behind_dot (hkey : '.' ∉ key.toList) (target : Object)
    (path : String) (v : Value) :
    set target (key ++ "." ++ path) v =
      target.insert key (.obj (set (fieldsOf (target.get? key)) path v)) := by
  rw [set, split_behind_dot hkey, setAt_cons _ _ (Text.split_ne_nil '.' path),
    ← set]

/-- Fields behind a key are written into the object under the key. -/
theorem setAll_behind_dot (hkey : '.' ∉ key.toList) (target : Object)
    (f : String × Value) (flat : List (String × Value)) :
    setAll target ((f :: flat).map fun f => (key ++ "." ++ f.1, f.2)) =
      target.insert key
        (.obj (setAll (fieldsOf (target.get? key)) (f :: flat))) := by
  induction flat generalizing target f with
  | nil => exact set_behind_dot hkey target f.1 f.2
  | cons g flat ih =>
      have hfirst :
          setAll target
              ((f :: g :: flat).map fun f => (key ++ "." ++ f.1, f.2)) =
            setAll (set target (key ++ "." ++ f.1) f.2)
              ((g :: flat).map fun f => (key ++ "." ++ f.1, f.2)) := rfl
      rw [hfirst, ih, set_behind_dot hkey, Object.get?_insert_self, fieldsOf,
        Object.insert_insert]
      rfl

theorem setAll_leaves (hkey : '.' ∉ key.toList) (hnew : key ∉ target.keys)
    (hbelow : ∀ below, v = .obj below → undot (leavesOf "" below) = below) :
    setAll target (leaves key v) = target ++ [(key, v)] := by
  rw [← Object.insert_of_not_mem hnew]
  match v with
  | .obj ((k, u) :: fields) =>
      have hempty : fieldsOf (target.get? key) = [] := by
        rw [Object.get?_eq_none_iff.2 hnew]
        rfl
      obtain ⟨g, flat, hleaves⟩ : ∃ g flat,
          leavesOf "" ((k, u) :: fields) = g :: flat := by
        refine List.exists_cons_of_ne_nil ?_
        rw [leavesOf_empty_cons]
        exact List.append_ne_nil_of_left_ne_nil (leaves_ne_nil k u) _
      rw [leaves_obj, hleaves, setAll_behind_dot hkey, hempty,
        ← undot_eq_setAll, ← hleaves, hbelow _ rfl]
  | .null | .bool _ | .int _ | .float _ | .str _ | .arr _ | .obj [] =>
      exact set_of_dotFree hkey target _

theorem setAll_leavesOf {fields : Object}
    (hnodup : (target.keys ++ fields.keys).Nodup)
    (hdot : ∀ f ∈ fields, '.' ∉ f.1.toList)
    (hbelow : ∀ f ∈ fields, ∀ below, f.2 = .obj below →
      undot (leavesOf "" below) = below) :
    setAll target (leavesOf "" fields) = target ++ fields := by
  induction fields generalizing target with
  | nil => exact (List.append_nil target).symm
  | cons f fields ih =>
      obtain ⟨key, v⟩ := f
      have hnew : key ∉ target.keys := fun hmem =>
        (List.nodup_append.1 hnodup).2.2 key hmem key List.mem_cons_self rfl
      have hfield := setAll_leaves (v := v) (hdot _ List.mem_cons_self) hnew
        (hbelow _ List.mem_cons_self)
      rw [leavesOf_empty_cons, setAll_append, hfield, ih, List.append_assoc,
        List.singleton_append]
      · simpa [Object.keys] using hnodup
      · exact fun f hf => hdot f (List.mem_cons_of_mem _ hf)
      · exact fun f hf => hbelow f (List.mem_cons_of_mem _ hf)

theorem undot_leavesOf (h : v.DotFree) :
    ∀ fields, v = .obj fields → undot (leavesOf "" fields) = fields := by
  -- The hypothesis for the fields of an object is what writing them
  -- below their keys needs.
  induction h with
  | leaf hleaf => exact fun fields heq => absurd heq (hleaf fields)
  | obj hnodup hdot _ ih =>
      rintro fields heq
      obtain rfl := Value.obj.inj heq
      change setAll [] (leavesOf "" _) = [] ++ _
      exact setAll_leavesOf hnodup hdot ih

/-! ## Paths of leaves -/

/-- Neither of two paths leads through the other. -/
def Apart (path other : String) : Prop :=
  ¬ Meets path other

theorem split_of_mem_leaves (hkey : '.' ∉ key.toList) {f : String × Value}
    (h : f ∈ leaves key v) : ∃ steps, Text.split '.' f.1 = key :: steps := by
  match v with
  | .obj (g :: fields) =>
      rw [leaves_obj] at h
      obtain ⟨below, -, rfl⟩ := List.mem_map.1 h
      exact ⟨_, split_behind_dot hkey below.1⟩
  | .null | .bool _ | .int _ | .float _ | .str _ | .arr _ | .obj [] =>
      rw [List.mem_singleton.1 h]
      exact ⟨[], split_of_dotFree hkey⟩

theorem key_of_mem_leavesOf {fields : Object}
    (hdot : ∀ f ∈ fields, '.' ∉ f.1.toList) {f : String × Value}
    (h : f ∈ leavesOf "" fields) :
    ∃ key ∈ fields.keys, ∃ steps, Text.split '.' f.1 = key :: steps := by
  induction fields with
  | nil => exact absurd h List.not_mem_nil
  | cons g fields ih =>
      obtain ⟨key, v⟩ := g
      rw [leavesOf_empty_cons, List.mem_append] at h
      obtain h | h := h
      · exact ⟨key, List.mem_cons_self,
          split_of_mem_leaves (hdot _ List.mem_cons_self) h⟩
      · obtain ⟨k, hk, hsteps⟩ :=
          ih (fun g hg => hdot g (List.mem_cons_of_mem _ hg)) h
        exact ⟨k, List.mem_cons_of_mem _ hk, hsteps⟩

theorem apart_of_heads {path other k l : String} {steps rest : List String}
    (hpath : Text.split '.' path = k :: steps)
    (hother : Text.split '.' other = l :: rest)
    (hne : k ≠ l) : Apart path other := by
  rw [Apart, Meets, hpath, hother, List.cons_prefix_cons, List.cons_prefix_cons]
  rintro (⟨heq, -⟩ | ⟨heq, -⟩)
  · exact hne heq
  · exact hne heq.symm

theorem apart_behind_dot (hkey : '.' ∉ key.toList) {path other : String}
    (h : Apart path other) :
    Apart (key ++ "." ++ path) (key ++ "." ++ other) := by
  rw [Apart, Meets, split_behind_dot hkey, split_behind_dot hkey]
  simpa [Apart, Meets] using h

theorem apart_leaves (hkey : '.' ∉ key.toList)
    (hbelow : ∀ below, v = .obj below → (leavesOf "" below).Pairwise fun f g =>
      Apart f.1 g.1) :
    (leaves key v).Pairwise fun f g => Apart f.1 g.1 := by
  match v with
  | .obj (g :: fields) =>
      rw [leaves_obj, List.pairwise_map]
      exact (hbelow _ rfl).imp fun h => apart_behind_dot hkey h
  | .null | .bool _ | .int _ | .float _ | .str _ | .arr _ | .obj [] =>
      exact List.pairwise_singleton _ _

/-- No path of a leaf leads through that of another. -/
theorem apart_leavesOf {fields : Object} (hnodup : fields.keys.Nodup)
    (hdot : ∀ f ∈ fields, '.' ∉ f.1.toList)
    (hbelow : ∀ f ∈ fields, ∀ below, f.2 = .obj below →
      (leavesOf "" below).Pairwise fun f g => Apart f.1 g.1) :
    (leavesOf "" fields).Pairwise fun f g => Apart f.1 g.1 := by
  induction fields with
  | nil => exact List.Pairwise.nil
  | cons f fields ih =>
      obtain ⟨key, v⟩ := f
      have hkey : '.' ∉ key.toList := hdot _ List.mem_cons_self
      rw [Object.keys, List.map_cons, List.nodup_cons] at hnodup
      have hdot' : ∀ f ∈ fields, '.' ∉ f.1.toList :=
        fun f hf => hdot f (List.mem_cons_of_mem _ hf)
      rw [leavesOf_empty_cons, List.pairwise_append]
      refine ⟨apart_leaves hkey (hbelow _ List.mem_cons_self),
        ih hnodup.2 hdot' fun f hf => hbelow f (List.mem_cons_of_mem _ hf),
        fun f hf g hg => ?_⟩
      obtain ⟨steps, hsteps⟩ := split_of_mem_leaves hkey hf
      obtain ⟨k, hk, rest, hrest⟩ := key_of_mem_leavesOf hdot' hg
      exact apart_of_heads hsteps hrest fun heq => hnodup.1 (heq ▸ hk)

theorem apart_of_dotFree (h : v.DotFree) :
    ∀ fields, v = .obj fields → (leavesOf "" fields).Pairwise fun f g =>
      Apart f.1 g.1 := by
  induction h with
  | leaf hleaf => exact fun fields heq => absurd heq (hleaf fields)
  | obj hnodup hdot _ ih =>
      rintro fields heq
      obtain rfl := Value.obj.inj heq
      exact apart_leavesOf hnodup hdot ih

theorem nodup_of_apart {flat : Object}
    (h : flat.Pairwise fun f g => Apart f.1 g.1) :
    flat.keys.Nodup := by
  rw [Object.keys, List.Nodup, List.pairwise_map]
  refine h.imp fun {f g} hapart heq => hapart ?_
  rw [heq]
  exact .inl (List.prefix_refl _)

/-! ## Flattening and nesting -/

theorem flatten_of_dotFree (h : (Value.obj o).DotFree) :
    flatten o = leavesOf "" o := by
  have hnodup := nodup_of_apart (apart_of_dotFree h o rfl)
  exact Object.insertAll_of_nodup (o := []) hnodup

/-- A document without dots is built up again from its flat row. -/
theorem undot_flatten (h : (Value.obj o).DotFree) : undot (flatten o) = o := by
  rw [flatten_of_dotFree h, undot_leavesOf h o rfl]

end TenantTables.Path
