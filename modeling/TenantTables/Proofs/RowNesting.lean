import TenantTables.Proofs.DocumentReading

/-!
# A flat row comes back from the document it nests to

A path is a key without a dot, or such a key, a dot and a path behind it. Along
this reading a write goes down: into the object under the first key, or into a
new one where there is none. Where the path meets no leaf of the document, the
write never goes through a leaf and never ends on an object, so it adds one leaf
and leaves the others as they are.

So the leaves of a document that was built from a flat row are the entries of
the row. Their order may differ: entries below one key stand together in the
document, wherever they stood in the row.
-/

namespace TenantTables.Json.Object

variable {o : Object} {key : String} {u : Value}

/-- A write to a key that is present changes the value in its place. -/
theorem exists_insert_of_get? (h : o.get? key = some u) :
    ∃ front behind, o = front ++ (key, u) :: behind ∧
      ∀ v, o.insert key v = front ++ (key, v) :: behind := by
  induction o with
  | nil => cases h
  | cons f o ih =>
      obtain ⟨k, w⟩ := f
      by_cases hk : k = key
      · subst hk
        obtain rfl : w = u := by simpa [get?] using h
        exact ⟨[], o, rfl, fun v => by simp [insert]⟩
      · have hrest : get? o key = some u := by
          rw [get?, List.lookup_cons, beq_false_of_ne (Ne.symm hk)] at h
          exact h
        obtain ⟨front, behind, ho, hinsert⟩ := ih hrest
        refine ⟨(k, w) :: front, behind, by rw [ho]; rfl, fun v => ?_⟩
        rw [insert, if_neg (by simpa using hk), hinsert]
        rfl

end TenantTables.Json.Object

namespace TenantTables.Path

open Json (Value Object)

variable {o target : Object} {u v : Value} {key path : String}

/-- Paths are read from the front: a key, or a key with a path behind a dot. -/
theorem path_induction {motive : String → Prop}
    (single : ∀ key : String, '.' ∉ key.toList → motive key)
    (behind : ∀ key path : String, '.' ∉ key.toList → motive path →
      motive (key ++ "." ++ path))
    (path : String) : motive path := by
  have hparts : ∀ parts : List (List Char), parts ≠ [] →
      (∀ part ∈ parts, '.' ∉ part) →
      motive (String.ofList (['.'].intercalate parts)) := by
    intro parts hne hdot
    induction parts with
    | nil => exact absurd rfl hne
    | cons part parts ih =>
        have hpart : '.' ∉ (String.ofList part).toList := by
          rw [String.toList_ofList]
          exact hdot part List.mem_cons_self
        cases parts with
        | nil =>
            rw [List.intercalate_singleton]
            exact single _ hpart
        | cons next parts =>
            have hrest := behind _ _ hpart
              (ih (List.cons_ne_nil _ _) fun part hmem =>
                hdot part (List.mem_cons_of_mem _ hmem))
            have hjoined :
                String.ofList (['.'].intercalate (part :: next :: parts)) =
                  String.ofList part ++ "." ++
                    String.ofList (['.'].intercalate (next :: parts)) := by
              rw [List.intercalate_cons_cons, String.ofList_append,
                String.ofList_append]
            rwa [hjoined]
  have hpath := hparts (Text.pieces '.' path.toList) (Text.pieces_ne_nil _ _)
    fun part hmem => Text.not_mem_of_mem_pieces hmem
  rwa [Text.intercalate_pieces, String.ofList_toList] at hpath

instance (path other : String) : Decidable (Apart path other) :=
  inferInstanceAs (Decidable (¬ _))

/-! ## One write -/

theorem leavesOf_append (start : String) (xs ys : Object) :
    leavesOf start (xs ++ ys) = leavesOf start xs ++ leavesOf start ys := by
  induction xs with
  | nil => rfl
  | cons f xs ih =>
      obtain ⟨key, v⟩ := f
      rw [List.cons_append, leavesOf, leavesOf, ih, List.append_assoc]

theorem mem_leavesOf {f : String × Value} (hmem : (key, u) ∈ o)
    (hf : f ∈ leaves key u) :
    f ∈ leavesOf "" o := by
  obtain ⟨front, behind, rfl⟩ := List.append_of_mem hmem
  rw [leavesOf_append, leavesOf_empty_cons]
  exact List.mem_append_right _ (List.mem_append_left _ hf)

theorem leaves_of_isLeaf (h : v.IsLeaf) (key : String) :
    leaves key v = [(key, v)] := by
  match v with
  | .obj (f :: fields) => exact absurd rfl (h f fields)
  | .null | .bool _ | .int _ | .float _ | .str _ | .arr _ | .obj [] => rfl

/-- Leaves that are added below a key are added to the leaves of the object. -/
theorem perm_leavesOf_insert {more : List (String × Value)}
    (hget : o.get? key = some u)
    (h : (leaves key v).Perm (leaves key u ++ more)) :
    (leavesOf "" (o.insert key v)).Perm (leavesOf "" o ++ more) := by
  obtain ⟨front, behind, rfl, hinsert⟩ := Object.exists_insert_of_get? hget
  rw [hinsert, leavesOf_append, leavesOf_append, leavesOf_empty_cons,
    leavesOf_empty_cons, List.append_assoc, List.append_assoc]
  refine List.Perm.append_left _ ((h.append_right _).trans ?_)
  rw [List.append_assoc]
  exact List.perm_append_comm.append_left _

theorem leavesOf_insert_new (hnew : o.get? key = none) (v : Value) :
    leavesOf "" (o.insert key v) = leavesOf "" o ++ leaves key v := by
  rw [Object.insert_of_not_mem (Object.get?_eq_none_iff.1 hnew),
    leavesOf_append, leavesOf_empty_cons]
  exact congrArg _ (List.append_nil _)

theorem set_ne_nil (target : Object) (path : String) (v : Value) :
    set target path v ≠ [] := by
  obtain ⟨step, steps, hsplit⟩ :=
    List.exists_cons_of_ne_nil (Text.split_ne_nil '.' path)
  obtain ⟨u, hu⟩ := setAt_eq_insert target step steps v
  rw [set, hsplit, hu]
  intro hnil
  have hmem : step ∈ (target.insert step u).keys :=
    Object.mem_keys_insert.2 (.inr rfl)
  rw [hnil] at hmem
  exact absurd hmem List.not_mem_nil

theorem leaves_obj_of_ne_nil {fields : Object} (h : fields ≠ [])
    (key : String) :
    leaves key (.obj fields) = (leavesOf "" fields).map fun f =>
      (key ++ "." ++ f.1, f.2) := by
  obtain ⟨f, fields, rfl⟩ := List.exists_cons_of_ne_nil h
  exact leaves_obj key f fields

/-- A value below a key has leaves, and the key leads to all of them. -/
theorem exists_leaf (htarget : (Value.obj target).DotFree)
    (hget : target.get? key = some u) :
    ∃ f ∈ leavesOf "" target, ∃ steps, Text.split '.' f.1 = key :: steps := by
  have hmem := Object.mem_of_get? hget
  obtain ⟨f, rest, hleaves⟩ := List.exists_cons_of_ne_nil (leaves_ne_nil key u)
  have hf : f ∈ leaves key u := hleaves ▸ List.mem_cons_self
  exact ⟨f, mem_leavesOf hmem hf,
    split_of_mem_leaves (htarget.fields.2.1 _ hmem) hf⟩

/-- A write of a leaf at a path that is apart from all leaves adds this leaf. -/
theorem perm_leavesOf_set (htarget : (Value.obj target).DotFree) (hv : v.IsLeaf)
    (hapart : ∀ f ∈ leavesOf "" target, Apart f.1 path) :
    (leavesOf "" (set target path v)).Perm
      (leavesOf "" target ++ [(path, v)]) := by
  induction path using path_induction generalizing target with
  | single key hkey =>
      cases hget : target.get? key with
      | none =>
          rw [set_of_dotFree hkey, leavesOf_insert_new hget,
            leaves_of_isLeaf hv]
      | some u =>
          -- Below the key is a leaf, and the key leads to it.
          obtain ⟨f, hf, steps, hsteps⟩ := exists_leaf htarget hget
          refine absurd (.inr ?_) (hapart f hf)
          rw [hsteps, split_of_dotFree hkey]
          exact List.prefix_append [key] steps
  | behind key path hkey ih =>
      rw [set_behind_dot hkey]
      cases hget : target.get? key with
      | none =>
          have hbelow := ih dotFree_nil fun f hf => absurd hf List.not_mem_nil
          rw [leavesOf_insert_new hget, leaves_obj_of_ne_nil (set_ne_nil _ _ _)]
          exact (hbelow.map _).append_left _
      | some u =>
          by_cases hu : u.IsLeaf
          · -- The path would lead through a leaf.
            have hleaf : (key, u) ∈ leaves key u := by
              rw [leaves_of_isLeaf hu]
              exact List.mem_cons_self
            refine absurd (.inl ?_)
              (hapart _ (mem_leavesOf (Object.mem_of_get? hget) hleaf))
            rw [split_of_dotFree hkey, split_behind_dot hkey]
            exact List.prefix_append [key] _
          · obtain ⟨g, fields, rfl⟩ : ∃ g fields, u = .obj (g :: fields) := by
              simpa [Value.IsLeaf] using hu
            have hmem := Object.mem_of_get? hget
            have hapart' : ∀ f ∈ leavesOf "" (g :: fields), Apart f.1 path := by
              intro f hf
              have hbehind : (key ++ "." ++ f.1, f.2) ∈
                  leaves key (.obj (g :: fields)) := by
                rw [leaves_obj]
                exact List.mem_map_of_mem hf
              have hmeets := hapart _ (mem_leavesOf hmem hbehind)
              rw [Apart, Meets, split_behind_dot hkey, split_behind_dot hkey]
                at hmeets
              simpa [Apart, Meets] using hmeets
            have hbelow := ih (htarget.fields.2.2 _ hmem) hapart'
            refine perm_leavesOf_insert hget ?_
            have hmapped := hbelow.map fun f => (key ++ "." ++ f.1, f.2)
            rwa [List.map_append, ← leaves_obj_of_ne_nil (set_ne_nil _ _ _),
              ← leaves_obj_of_ne_nil (List.cons_ne_nil g fields)] at hmapped

/-! ## A whole row -/

/-- The leaves of the document that a flat row nests to are the
entries of the row. -/
theorem perm_leavesOf_undot {flat : Object}
    (hflat : flat.Pairwise fun f g => Apart f.1 g.1)
    (hleaf : ∀ f ∈ flat, f.2.IsLeaf) :
    (leavesOf "" (undot flat)).Perm flat := by
  induction flat using List.reverseRecOn with
  | nil => exact List.Perm.refl []
  | append_singleton flat f ih =>
      obtain ⟨path, v⟩ := f
      obtain ⟨hfront, -, hlast⟩ := List.pairwise_append.1 hflat
      have hleaves := ih hfront fun f hf => hleaf f (List.mem_append_left _ hf)
      have hundot : (Value.obj (undot flat)).DotFree :=
        dotFree_undot fun f hf =>
        dotFree_of_isLeaf (hleaf f (List.mem_append_left _ hf))
      rw [undot_concat]
      have hv : v.IsLeaf :=
        hleaf (path, v) (List.mem_append_right _ List.mem_cons_self)
      refine (perm_leavesOf_set hundot hv fun f hf => ?_).trans
        (hleaves.append_right _)
      exact hlast f (hleaves.mem_iff.1 hf) _ List.mem_cons_self

/-- A document without dots is what its flat row nests to, keys in the
same order. A flat row whose paths are apart has the entries of the
document it nests to. -/
theorem flattening_and_nesting_undo_each_other :
    (∀ o : Object, (Value.obj o).DotFree → undot (flatten o) = o) ∧
      ∀ flat : Object, (flat.Pairwise fun f g => Apart f.1 g.1) →
        (∀ f ∈ flat, f.2.IsLeaf) →
        (flatten (undot flat)).Perm flat := by
  refine ⟨fun o h => undot_flatten h, fun flat hflat hleaf => ?_⟩
  rw [flatten_of_dotFree (dotFree_undot fun f hf =>
    dotFree_of_isLeaf (hleaf f hf))]
  exact perm_leavesOf_undot hflat hleaf

/-- A flat row with the fields of one object apart. -/
def scattered : Object :=
  [("data.size", .int 1), ("uid", .str "a"), ("data..note", .null),
    ("data.tags", .arr [.obj [("a.b", .int 1)]]), ("meta", .obj [])]

/-- The document that it nests to. -/
def gathered : Object :=
  [("data", .obj [("size", .int 1), ("", .obj [("note", .null)]),
    ("tags", .arr [.obj [("a.b", .int 1)]])]), ("uid", .str "a"),
    ("meta", .obj [])]

/-- The row has its entries again, those below one key together. -/
theorem scattered_row_is_gathered :
    undot scattered = gathered ∧ (Value.obj gathered).DotFree ∧
      undot (flatten gathered) = gathered ∧ (flatten gathered).Perm scattered ∧
      (flatten gathered).keys =
        ["data.size", "data..note", "data.tags", "uid", "meta"] := by
  obtain ⟨hdocument, hrow⟩ := flattening_and_nesting_undo_each_other
  have hgathered : undot scattered = gathered := by rfl
  have hapart : scattered.Pairwise fun f g => Apart f.1 g.1 := by decide
  have hleaf : ∀ f ∈ scattered, f.2.IsLeaf := by
    simp [scattered, Value.IsLeaf]
  have hdotFree : (Value.obj gathered).DotFree :=
    hgathered ▸ dotFree_undot fun f hf => dotFree_of_isLeaf (hleaf f hf)
  exact ⟨hgathered, hdotFree, hdocument gathered hdotFree,
    hgathered ▸ hrow scattered hapart hleaf, by rfl⟩

end TenantTables.Path
