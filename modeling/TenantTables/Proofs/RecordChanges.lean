import TenantTables.Proofs.ChangeLog
import TenantTables.Proofs.DocumentReading

/-!
# The changes of a record are what it differs in

Between two saves a caller writes to a record, and what it has written is
what the next update sends and what the audit log tells. The record keeps no
list of its writes. It keeps what was saved last, and its changes are read
off by comparison.

Writes add keys and take none away, and a new key goes behind those that are
there. So the keys that were saved last stay in front and in their order, and
comparing the attributes that are there misses nothing. Equality of documents is
meant throughout: a value that was written again with its keys in another order,
or zero with the other sign, is no change, and the record and the store differ
in nothing else then.
-/

namespace TenantTables

open Json (Value Object)

/-! ## Documents with distinct keys -/

namespace Json

/-- No object in the document has a key twice. -/
inductive Value.WellKeyed : Value → Prop where
  | null : WellKeyed .null
  | bool (b : Bool) : WellKeyed (.bool b)
  | int (n : Int) : WellKeyed (.int n)
  | float (d : Number.Double) : WellKeyed (.float d)
  | str (s : String) : WellKeyed (.str s)
  | arr {items : List Value} (hitems : ∀ v ∈ items, WellKeyed v) :
    WellKeyed (.arr items)
  | obj {fields : Object} (hnodup : fields.keys.Nodup)
      (hfields : ∀ f ∈ fields, WellKeyed f.2) :
      WellKeyed (.obj fields)

theorem Value.sameItems_self {items : List Value}
    (h : ∀ v ∈ items, v.same v = true) :
    Value.sameItems items items = true := by
  induction items with
  | nil => simp [sameItems]
  | cons v items ih =>
      obtain ⟨hv, hrest⟩ := List.forall_mem_cons.1 h
      rw [sameItems, hv, ih hrest]
      rfl

theorem Value.same_obj_iff {xs ys : Object} :
    (Value.obj xs).same (.obj ys) = true ↔ xs.length = ys.length ∧
      ∀ f ∈ xs, ∃ y, Object.get? ys f.1 = some y ∧ f.2.same y = true := by
  rw [same, Bool.and_eq_true, beq_iff_eq, sameFields_iff]

/-- A document equals itself. -/
theorem Value.WellKeyed.same_self {v : Value}
    (h : v.WellKeyed) : v.same v = true := by
  induction h with
  | null => simp [same]
  | bool b => simp [same]
  | int n => simp [same]
  | float d => simp [same, Number.Double.same]
  | str s => simp [same]
  | arr _ ih =>
      rw [same]
      exact sameItems_self ih
  | obj hnodup _ ih =>
      exact same_obj_iff.2 ⟨rfl, fun f hf =>
        ⟨f.2, Object.get?_of_mem hnodup hf, ih f hf⟩⟩

attribute [simp] Value.WellKeyed.null Value.WellKeyed.bool Value.WellKeyed.int
  Value.WellKeyed.float Value.WellKeyed.str

@[simp] theorem Value.wellKeyed_arr_iff {items : List Value} :
    (Value.arr items).WellKeyed ↔ ∀ v ∈ items, v.WellKeyed :=
  ⟨fun h => by cases h; assumption, .arr⟩

@[simp] theorem Value.wellKeyed_obj_iff {fields : Object} :
    (Value.obj fields).WellKeyed ↔ fields.keys.Nodup ∧ ∀ f ∈ fields,
      f.2.WellKeyed :=
  ⟨fun h => by cases h; exact ⟨‹_›, ‹_›⟩, fun h => .obj h.1 h.2⟩

theorem Value.WellKeyed.nodup {fields : Object}
    (h : (Value.obj fields).WellKeyed) :
    fields.keys.Nodup := (wellKeyed_obj_iff.1 h).1

theorem Value.WellKeyed.field {fields : Object}
    (h : (Value.obj fields).WellKeyed) :
    ∀ f ∈ fields, f.2.WellKeyed := (wellKeyed_obj_iff.1 h).2

namespace Object

variable {o : Object} {k : String}

/-- The keys that are there stay in front. -/
theorem keys_isPrefix_insert (o : Object) (key : String) (v : Value) :
    o.keys <+: (o.insert key v).keys := by
  by_cases h : key ∈ o.keys
  · rw [keys_insert_of_mem h]
  · rw [keys_insert_of_not_mem h]
    exact List.prefix_append _ _

theorem get?_eq_some_iff (h : o.keys.Nodup) {v : Value} :
    o.get? k = some v ↔ (k, v) ∈ o :=
  ⟨mem_of_get?, get?_of_mem h⟩

theorem insertAll_append (o fields more : Object) :
    o.insertAll (fields ++ more) = (o.insertAll fields).insertAll more :=
  List.foldl_append

end Object

end Json

/-! ## What happens to a record -/

namespace Record

/-- How a record comes about. -/
inductive Origin where
  | new (attributes : Object)
  | stored (id : Int) (attributes : Object)

/-- What is done to a record. -/
inductive Call where
  | set (key : String) (v : Value)
  | fill (attributes : Object)
  | save (id : Int) (attributes : Object)
  | exempt

namespace Origin

def record : Origin → Record
  | new attributes => .new attributes
  | stored id attributes => .ofStored id attributes

/-- What is stored of the record when it comes about. -/
def saved : Origin → Object
  | new _ => []
  | stored _ attributes => withoutId attributes

def WellKeyed : Origin → Prop
  | new attributes => (Value.obj attributes).WellKeyed
  | stored _ attributes => (Value.obj attributes).WellKeyed

end Origin

namespace Call

def apply (r : Record) : Call → Record
  | set key v => r.set key v
  | fill attributes => r.fill attributes
  | save id attributes => r.markSaved id attributes
  | exempt => r.withoutAudit

/-- What a call says is stored, if it says so. -/
def saved? : Call → Option Object
  | save _ attributes => some (withoutId attributes)
  | _ => none

def WellKeyed : Call → Prop
  | set _ v => v.WellKeyed
  | fill attributes => (Value.obj attributes).WellKeyed
  | save _ attributes => (Value.obj attributes).WellKeyed
  | exempt => True

end Call

/-- The record behind calls, one after the other. -/
def after (o : Origin) (calls : List Call) : Record :=
  calls.foldl Call.apply o.record

/-- What was saved last. -/
def lastSaved (o : Origin) (calls : List Call) : Object :=
  (calls.filterMap Call.saved?).getLast?.getD o.saved

/-! ## What calls keep -/

/-- A record whose snapshot is what was saved, and whose attributes have the
keys of the snapshot in front and in their order. -/
structure Tracks (saved : Object) (r : Record) : Prop where
  snapshot : r.snapshot = saved
  keys : saved.keys <+: r.attributes.keys
  wellKeyed : (Value.obj r.attributes).WellKeyed

variable {saved : Object} {r : Record}

theorem wellKeyed_withoutId {attributes : Object}
    (h : (Value.obj attributes).WellKeyed) :
    (Value.obj (withoutId attributes)).WellKeyed :=
  .obj (Object.nodup_keys_filter h.nodup _) fun f hf =>
    h.field f (List.mem_of_mem_filter hf)

theorem Origin.made (o : Origin) : o.record.Made := by
  cases o with
  | new attributes => exact .new attributes
  | stored id attributes => exact .ofStored id attributes

theorem Made.apply (h : r.Made) (c : Call) : (c.apply r).Made := by
  cases c with
  | set key v => exact h.set key v
  | fill attributes => exact h.fill attributes
  | save id attributes => exact h.markSaved id attributes
  | exempt => exact h.withoutAudit

theorem made_after (o : Origin) (calls : List Call) : (after o calls).Made :=
  List.foldlRecOn calls Call.apply o.made fun _ h c _ => h.apply c

theorem Origin.tracks {o : Origin} (h : o.WellKeyed) :
    Tracks o.saved o.record := by
  cases o with
  | new attributes => exact ⟨rfl, List.nil_prefix, wellKeyed_withoutId h⟩
  | stored id attributes => exact ⟨rfl, List.prefix_rfl, wellKeyed_withoutId h⟩

theorem Tracks.set (h : Tracks saved r) (key : String) {v : Value}
    (hv : v.WellKeyed) :
    Tracks saved (r.set key v) := by
  rw [Record.set]
  split
  · exact h
  · refine ⟨h.snapshot, h.keys.trans (Object.keys_isPrefix_insert _ key v),
      .obj (Object.nodup_keys_insert h.wellKeyed.nodup key v) fun f hf => ?_⟩
    obtain hf | rfl := Object.mem_of_mem_insert hf
    · exact h.wellKeyed.field f hf
    · exact hv

theorem Tracks.fill (h : Tracks saved r) {attributes : Object}
    (hattributes : ∀ f ∈ attributes, f.2.WellKeyed) :
    Tracks saved (r.fill attributes) := by
  induction attributes generalizing r with
  | nil => exact h
  | cons f attributes ih =>
      obtain ⟨hf, hrest⟩ := List.forall_mem_cons.1 hattributes
      exact ih (h.set f.1 hf) hrest

/-- One call keeps track of what was saved last. -/
theorem Tracks.apply (h : Tracks saved r) {c : Call} (hc : c.WellKeyed) :
    Tracks (c.saved?.getD saved) (c.apply r) := by
  cases c with
  | set key v => exact h.set key hc
  | fill attributes => exact h.fill hc.field
  | save id attributes => exact ⟨rfl, List.prefix_rfl, wellKeyed_withoutId hc⟩
  | exempt => exact ⟨h.snapshot, h.keys, h.wellKeyed⟩

theorem tracks_foldl (h : Tracks saved r) {calls : List Call}
    (hcalls : ∀ c ∈ calls, c.WellKeyed) :
    Tracks ((calls.filterMap Call.saved?).getLast?.getD saved)
      (calls.foldl Call.apply r) := by
  induction calls generalizing saved r with
  | nil => exact h
  | cons c calls ih =>
      obtain ⟨hc, hrest⟩ := List.forall_mem_cons.1 hcalls
      have hstep := ih (h.apply hc) hrest
      rw [List.foldl_cons]
      cases hsaved : c.saved? with
      | none => simpa [List.filterMap_cons, hsaved] using hstep
      | some attributes =>
          rw [hsaved] at hstep
          simpa [List.filterMap_cons, hsaved, List.getLast?_cons] using hstep

/-! ## What changes tell -/

/-- Two values that may be missing are equal. -/
def Agree : Option Value → Option Value → Prop
  | none, none => True
  | some v, some w => v.same w = true
  | _, _ => False

/-- The fields that the changes of a record list, with their new values. -/
def written (r : Record) : Object :=
  r.changes.map fun c => (c.key, c.new)

/-- The changes of a record list each key once, in the order of the attributes,
under which the record differs from what was saved, with the value that was
saved, or null, and with the value that is there now. Written over what was
saved they give the attributes again. -/
structure Told (saved : Object) (r : Record) : Prop where
  in_order : List.Sublist (r.changes.map (·.key)) r.attributes.keys
  once : (r.changes.map (·.key)).Nodup
  listed (k : String) :
    k ∈ r.changes.map (·.key) ↔ ¬ Agree (saved.get? k) (r.attributes.get? k)
  values (c : Change) (hc : c ∈ r.changes) :
    c.old = (saved.get? c.key).getD .null ∧ r.attributes.get? c.key = some c.new
  keys_overlaid : (saved.insertAll r.written).keys = r.attributes.keys
  overlaid :
    (Value.obj (saved.insertAll r.written)).same (.obj r.attributes) = true

theorem written_eq (r : Record) :
    r.written = r.attributes.filter fun f => !r.isUnchanged f.1 f.2 := by
  rw [written, changes, List.map_map]
  exact List.map_id _

theorem keys_written (r : Record) : r.written.keys = r.changes.map (·.key) := by
  rw [written, Object.keys, List.map_map]
  rfl

theorem keys_written_sublist (r : Record) :
    List.Sublist r.written.keys r.attributes.keys := by
  rw [written_eq]
  exact List.filter_sublist.map _

theorem get?_written (h : r.attributes.keys.Nodup) (k : String) :
    r.written.get? k = (r.attributes.get? k).filter fun v =>
      !r.isUnchanged k v := by
  refine Option.ext fun v => ?_
  rw [Object.get?_eq_some_iff (r.keys_written_sublist.nodup h),
    Option.filter_eq_some_iff, Object.get?_eq_some_iff h, written_eq,
    List.mem_filter]

namespace Tracks

variable {k : String} {v : Value}

theorem nodup (h : Tracks saved r) : r.attributes.keys.Nodup :=
  h.wellKeyed.nodup

/-- What is saved under a key is no less than what is there. -/
theorem get?_saved_of_none (h : Tracks saved r)
    (hk : r.attributes.get? k = none) :
    saved.get? k = none := by
  rw [Object.get?_eq_none_iff] at hk ⊢
  exact fun hmem => hk (h.keys.subset hmem)

theorem agree_iff (h : Tracks saved r) (hv : r.attributes.get? k = some v) :
    Agree (saved.get? k) (r.attributes.get? k) ↔ r.isUnchanged k v = true := by
  rw [hv, isUnchanged, h.snapshot]
  cases saved.get? k with
  | none => exact iff_of_false (fun h => h) Bool.false_ne_true
  | some old => exact Iff.rfl

theorem listed (h : Tracks saved r) (k : String) :
    k ∈ r.changes.map (·.key) ↔
      ¬ Agree (saved.get? k) (r.attributes.get? k) := by
  rw [← keys_written, Object.mem_keys_iff, get?_written h.nodup]
  cases hv : r.attributes.get? k with
  | none =>
      rw [h.get?_saved_of_none hv]
      exact iff_of_false (fun ⟨v, hnone⟩ => nomatch hnone) (not_not.2 trivial)
  | some v =>
      rw [← hv, h.agree_iff hv, hv]
      simp [Option.filter_eq_some_iff]

theorem agree_overlaid (h : Tracks saved r) (k : String) :
    Agree ((saved.insertAll r.written).get? k) (r.attributes.get? k) := by
  rw [Object.get?_insertAll (r.keys_written_sublist.nodup h.nodup),
    get?_written h.nodup]
  cases hv : r.attributes.get? k with
  | none =>
      rw [h.get?_saved_of_none hv]
      trivial
  | some v =>
      cases hunchanged : r.isUnchanged k v with
      | false =>
          rw [Option.filter_some, hunchanged]
          exact (h.wellKeyed.field _ (Object.mem_of_get? hv)).same_self
      | true =>
          rw [Option.filter_some, hunchanged, ← hv]
          exact (h.agree_iff hv).2 hunchanged

/-- What was saved keeps its place, and of the attributes behind
it each is new. -/
theorem keys_overlaid (h : Tracks saved r) :
    (saved.insertAll r.written).keys = r.attributes.keys := by
  obtain ⟨more, hkeys⟩ := h.keys
  obtain ⟨front, back, hattributes, hfront, hback⟩ :=
    List.map_eq_append_iff.1 hkeys.symm
  have hnodup : (saved.keys ++ back.map (·.1)).Nodup := by
    rw [hback, hkeys]
    exact h.nodup
  have hnew : back.filter (fun f => !r.isUnchanged f.1 f.2) = back := by
    refine List.filter_eq_self.2 fun f hf => ?_
    have hmissing : saved.get? f.1 = none :=
      Object.get?_eq_none_iff.2 fun hmem =>
      (List.nodup_append.1 hnodup).2.2 _ hmem _ (List.mem_map_of_mem hf) rfl
    rw [isUnchanged, h.snapshot, hmissing]
    rfl
  have hwritten :
      r.written = front.filter (fun f => !r.isUnchanged f.1 f.2) ++ back := by
    rw [written_eq, hattributes, List.filter_append, hnew]
  have hkept :
      (saved.insertAll (front.filter fun f => !r.isUnchanged f.1 f.2)).keys =
        saved.keys := by
    refine Object.keys_insertAll_of_subset fun f hf => ?_
    rw [← hfront]
    exact List.mem_map_of_mem (List.mem_of_mem_filter hf)
  rw [hwritten, Object.insertAll_append,
    Object.insertAll_of_nodup (by rwa [hkept]), ← hkeys, ← hback, ← hkept]
  exact List.map_append

theorem told (h : Tracks saved r) : Told saved r where
  in_order := r.keys_written ▸ r.keys_written_sublist
  once := nodup_keys_changes h.nodup
  listed := h.listed
  values c hc := by
    obtain ⟨hnew, -, hold⟩ := (mem_changes_iff h.nodup).1 hc
    exact ⟨h.snapshot ▸ hold, hnew⟩
  keys_overlaid := h.keys_overlaid
  overlaid := by
    have hnodup : (saved.insertAll r.written).keys.Nodup :=
      h.keys_overlaid ▸ h.nodup
    refine Value.same_obj_iff.2 ⟨?_, fun f hf => ?_⟩
    · simpa [Object.keys] using congrArg List.length h.keys_overlaid
    · have hagree := h.agree_overlaid f.1
      rw [Object.get?_of_mem hnodup hf] at hagree
      cases hv : r.attributes.get? f.1 with
      | none =>
          rw [hv] at hagree
          exact hagree.elim
      | some v =>
          rw [hv] at hagree
          exact ⟨v, rfl, hagree⟩

end Tracks

/-- A record that stands as it was saved has no changes. -/
theorem changes_eq_nil (hsnapshot : r.snapshot = r.attributes)
    (h : (Value.obj r.attributes).WellKeyed) : r.changes = [] := by
  rw [changes, List.map_eq_nil_iff, List.filter_eq_nil_iff]
  intro f hf
  have hsaved : r.isUnchanged f.1 f.2 = true := by
    rw [isUnchanged, hsnapshot, Object.get?_of_mem h.nodup hf]
    exact (h.field f hf).same_self
  simp [hsaved]

/-! ## The audit flag -/

theorem audited_fill (r : Record) (attributes : Object) :
    (r.fill attributes).audited = r.audited := by
  induction attributes generalizing r with
  | nil => rfl
  | cons f attributes ih =>
      have hset : (r.set f.1 f.2).audited = r.audited := by
        rw [Record.set]
        split <;> rfl
      exact (ih _).trans hset

/-- Only an exemption takes a record out of audit. -/
theorem audited_apply (r : Record) (c : Call) :
    (c.apply r).audited = true ↔ r.audited = true ∧ c ≠ .exempt := by
  cases c with
  | set key v =>
      rw [Call.apply, Record.set]
      split <;> simp
  | fill attributes => simp [Call.apply, audited_fill]
  | save id attributes => simp [Call.apply, markSaved]
  | exempt => simp [Call.apply, withoutAudit]

theorem audited_foldl (r : Record) (calls : List Call) :
    (calls.foldl Call.apply r).audited = true ↔
      r.audited = true ∧ Call.exempt ∉ calls := by
  induction calls generalizing r with
  | nil => simp
  | cons c calls ih =>
      rw [List.foldl_cons, ih, audited_apply, List.mem_cons, not_or, ne_comm,
        and_assoc]

/-! ## Every record -/

/-- Whatever was done to a record, its attributes do not have the surrogate
key, its changes tell what they differ in from what was saved last, and it is
audited unless it was exempted. Right behind a save it has no changes, and is
audited if it was before. -/
theorem changes_tell_what_differs (o : Origin) (calls : List Call)
    (ho : o.WellKeyed) (hcalls : ∀ c ∈ calls, c.WellKeyed) :
    idColumn ∉ (after o calls).attributes.keys ∧
    Told (lastSaved o calls) (after o calls) ∧
    ((after o calls).audited = true ↔ Call.exempt ∉ calls) ∧
    ∀ id attributes, (Value.obj attributes).WellKeyed →
      (ofStored id attributes).changes = [] ∧
      ((after o calls).markSaved id attributes).changes = [] ∧
      ((after o calls).markSaved id attributes).audited =
        (after o calls).audited := by
  have htracks : Tracks (lastSaved o calls) (after o calls) :=
    tracks_foldl (Origin.tracks ho) hcalls
  have horigin : o.record.audited = true := by cases o <;> rfl
  refine ⟨(made_after o calls).id_not_mem, htracks.told, ?_,
    fun id attributes h => ⟨?_, ?_, rfl⟩⟩
  · rw [after, audited_foldl, horigin]
    simp
  · exact changes_eq_nil rfl (wellKeyed_withoutId h)
  · exact changes_eq_nil rfl (wellKeyed_withoutId h)

/-- An order as it was read. -/
def orderRead : Origin :=
  .stored 1 [("id", .int 1), ("uid", .str "a"), ("qty", .int 1)]

/-- The order is saved once on the way. Behind that the surrogate key is written
to, a document comes back with its keys in another order, a text is replaced,
and a null is new. -/
def orderEdits : List Call := [
  .set "qty" (.int 2),
  .save 1 [("uid", .str "a"),
    ("data", .obj [("x", .int 1), ("y", .arr [.bool true])])],
  .set "id" (.int 9),
  .fill [("data", .obj [("y", .arr [.bool true]), ("x", .int 1)]),
    ("uid", .str "b"), ("note", .null)],
  .exempt]

theorem two_edits_are_told :
    (after orderRead orderEdits).changes =
      [⟨"uid", .str "a", .str "b"⟩, ⟨"note", .null, .null⟩] ∧
    Told (lastSaved orderRead orderEdits) (after orderRead orderEdits) ∧
    ¬ (after orderRead orderEdits).audited = true := by
  have hread : orderRead.WellKeyed := by
    simp [orderRead, Origin.WellKeyed, Object.keys]
  have hedits : ∀ c ∈ orderEdits, c.WellKeyed := by
    simp [orderEdits, Call.WellKeyed, Object.keys, or_imp, forall_and]
  obtain ⟨-, htold, haudited, -⟩ :=
    changes_tell_what_differs orderRead orderEdits hread hedits
  exact ⟨by rfl, htold, fun h => haudited.1 h (by simp [orderEdits])⟩

end Record

end TenantTables
