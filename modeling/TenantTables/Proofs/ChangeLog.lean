import TenantTables.Proofs.ImportRows
import TenantTables.Proofs.RecordRequests
import TenantTables.Proofs.ServiceInvariant

/-!
# Change logs and what is stored

An upsert that finds a row logs what the caller's values differ in from the row,
and only then are these values brought into the shape of their columns and
stored. A log is faithful if it lists what is stored differently behind the
upsert, with the value before and the value that is stored now.

So the question is what a column makes of a value. If a column turns a value
into another one, not both can equal the value that was stored before: a
conversion changes the kind of a value, except between texts, and equal texts
are the same text. Hence the log of an update is faithful exactly if every value
that the record carries is one that its column takes as it is. What is listed is
otherwise not what is stored, or what is stored is not listed.

Apart from that, no event is made of a record without an identifier, and an
update may leave the identifier empty.
-/

namespace TenantTables

open Json (Value Object)
open Audit (Event)
open Memory (Store Table Tables Work WellFormed HasLayout LeavesUnder findIn)

/-! ## What a column makes of a value -/

namespace Json.Value

/-- The kinds of values; values of different kinds are never equal. -/
inductive Kind where
  | null
  | bool
  | int
  | float
  | str
  | arr
  | obj
  deriving DecidableEq

def kind : Value → Kind
  | null => .null
  | bool _ => .bool
  | int _ => .int
  | float _ => .float
  | str _ => .str
  | arr _ => .arr
  | obj _ => .obj

theorem kind_of_same {v w : Value} (h : v.same w = true) : v.kind = w.kind := by
  cases v <;> cases w <;> first | rfl | cases h

theorem eq_of_same_texts {v : Value} {a b : String}
    (ha : v.same (.str a) = true) (hb : v.same (.str b) = true) : a = b := by
  cases v with
  | str s =>
      have hsa : s = a := by simpa [same] using ha
      have hsb : s = b := by simpa [same] using hb
      rw [← hsa, hsb]
  | null | bool _ | int _ | float _ | arr _ | obj _ => cases ha

end Json.Value

namespace ColumnType

variable {t : ColumnType} {v w : Value}

theorem eq_int_of_int64? {n : Int} (h : v.int64? = some n) : v = .int n := by
  cases v with
  | int m =>
      simp only [Value.int64?] at h
      split at h
      · rw [Option.some.inj h]
      · cases h
  | null | bool _ | float _ | str _ | arr _ | obj _ => cases h

/-- A number that a column keeps a number of its kind is kept as it is. -/
theorem eq_of_coerceNumber (h : t.coerceNumber v = .ok w)
    (hkind : w.kind = v.kind) : w = v := by
  cases t with
  | serial | integer =>
      simp only [coerceNumber] at h
      split at h
      · next n hn =>
          rw [eq_int_of_int64? hn]
          exact (Except.ok.inj h).symm
      · cases h
  | boolean =>
      simp only [coerceNumber] at h
      split at h
      · next hn =>
          obtain rfl := Except.ok.inj h
          rw [eq_int_of_int64? hn] at hkind
          cases hkind
      · next hn =>
          obtain rfl := Except.ok.inj h
          rw [eq_int_of_int64? hn] at hkind
          cases hkind
      · cases h
  | decimal _ _ | json => exact (Except.ok.inj h).symm
  | text | varchar _ | timestamp => cases h

/-- A value that a column keeps a value of its kind is kept as it
is, but for texts. -/
theorem eq_or_texts_of_coerce (h : t.coerce v = .ok w)
    (hkind : w.kind = v.kind) :
    w = v ∨ ∃ a b, v = .str a ∧ w = .str b := by
  by_cases htext : t.isText = true ∧ v.isNull = false
  · obtain ⟨a, ha⟩ := Json.Value.exists_toText? htext.2
    obtain rfl := eq_str_of_isText htext.1 ha h
    cases v with
    | str b => exact .inr ⟨b, a, rfl, rfl⟩
    | null | bool _ | int _ | float _ | arr _ | obj _ => cases hkind
  cases v with
  | null => exact .inl (Except.ok.inj h).symm
  | str a =>
      cases w with
      | str b => exact .inr ⟨a, b, rfl, rfl⟩
      | null | bool _ | int _ | float _ | arr _ | obj _ => cases hkind
  | int n =>
      have hnot : t.isText = false := by simpa [Value.isNull] using htext
      rw [coerce_of_number hnot rfl] at h
      exact .inl (eq_of_coerceNumber h hkind)
  | float d =>
      have hnot : t.isText = false := by simpa [Value.isNull] using htext
      rw [coerce_of_number hnot rfl] at h
      exact .inl (eq_of_coerceNumber h hkind)
  | bool _ | arr _ | obj _ =>
      cases t with
      | text | varchar _ => simp [isText, Value.isNull] at htext
      | serial | integer | decimal _ _ | timestamp => cases h
      | boolean | json => first | exact .inl (Except.ok.inj h).symm | cases h

end ColumnType

/-- A value and what a column makes of it, both equal to one
value, are the same. -/
theorem Column.eq_of_coerce_of_same {c : Column} {old v w : Value}
    (h : c.coerce v = .ok w) (hv : old.same v = true)
    (hw : old.same w = true) : w = v := by
  have hkind : w.kind = v.kind :=
    (Value.kind_of_same hw).symm.trans (Value.kind_of_same hv)
  obtain heq | ⟨a, b, rfl, rfl⟩ :=
    ColumnType.eq_or_texts_of_coerce (coerce_eq_ok_iff.1 h).1 hkind
  · exact heq
  · rw [Value.eq_of_same_texts hv hw]

/-! ## The changes of a record -/

namespace Change

theorem toJson_injective : Function.Injective toJson := by
  rintro ⟨key, old, new⟩ ⟨key', old', new'⟩ h
  simp only [toJson, Value.obj.injEq, List.cons.injEq, Prod.mk.injEq,
    Value.str.injEq] at h
  obtain ⟨⟨-, rfl⟩, ⟨-, rfl⟩, ⟨-, rfl⟩, -⟩ := h
  rfl

end Change

namespace Record

variable {r : Record} {k : String} {v : Value}

theorem isUnchanged_eq_false_iff :
    r.isUnchanged k v = false ↔ ∀ old, r.snapshot.get? k = some old →
      old.same v = false := by
  rw [isUnchanged]
  cases r.snapshot.get? k with
  | none => exact iff_of_true rfl fun _ h => by cases h
  | some old =>
      constructor
      · intro h old' hold
        rwa [← Option.some.inj hold]
      · exact fun h => h old rfl

theorem mem_changes_iff (hnodup : r.attributes.keys.Nodup) {c : Change} :
    c ∈ r.changes ↔ r.attributes.get? c.key = some c.new ∧
      (∀ old, r.snapshot.get? c.key = some old → old.same c.new = false) ∧
      c.old = (r.snapshot.get? c.key).getD .null := by
  rw [changes, List.mem_map]
  constructor
  · rintro ⟨⟨key, v⟩, hf, rfl⟩
    obtain ⟨hmem, hchanged⟩ := List.mem_filter.1 hf
    exact ⟨Object.get?_of_mem hnodup hmem,
      isUnchanged_eq_false_iff.1 (by simpa using hchanged), rfl⟩
  · rintro ⟨hget, hchanged, hold⟩
    refine ⟨(c.key, c.new), List.mem_filter.2 ⟨Object.mem_of_get? hget, ?_⟩, ?_⟩
    · simpa using isUnchanged_eq_false_iff.2 hchanged
    · dsimp only
      rw [← hold]

theorem nodup_keys_changes (hnodup : r.attributes.keys.Nodup) :
    (r.changes.map (·.key)).Nodup := by
  rw [changes, List.map_map]
  exact Object.nodup_keys_filter hnodup fun f => !r.isUnchanged f.1 f.2

end Record

/-! ## Faithful logs -/

namespace Audit

variable {before after : Object} {k : String}

/-- What is stored under a key behind a request is not what was
stored before it. -/
def Changed (before after : Object) (k : String) : Prop :=
  ∃ v, after.get? k = some v ∧ ∀ old, before.get? k = some old →
    old.same v = false

/-- A log that lists each change between two states of a row once and nothing
else, the time of writing aside, with the values that are stored in the one and
in the other. -/
structure Lists (log : List Change) (before after : Object) : Prop where
  once : (log.map (·.key)).Nodup
  changed : ∀ k, (∃ c ∈ log, c.key = k) ↔
    k ≠ "updated_at" ∧ Changed before after k
  values : ∀ c ∈ log, c.old = (before.get? c.key).getD .null ∧
    after.get? c.key = some c.new

/-- The events tell what became of a row: one event of an update with the log of
all changes if there are any, and none otherwise. -/
def Faithful (before after : Object) (events : List Event) : Prop :=
  ∃ log, Lists log before after ∧
    (log = [] ∧ events = [] ∨
      log ≠ [] ∧ ∃ e fields, events = [e] ∧ e.body = .obj fields ∧
        Object.get? fields "action" = some (.str Act.update.name) ∧
        Object.get? fields "log" = some (.arr (log.map Change.toJson)))

theorem lists_nil_iff :
    Lists [] before after ↔ ∀ k, k ≠ "updated_at" →
      ¬ Changed before after k := by
  constructor
  · intro h k hk hchanged
    obtain ⟨c, hc, -⟩ := (h.changed k).2 ⟨hk, hchanged⟩
    cases hc
  · intro h
    refine ⟨List.nodup_nil, fun k => ⟨?_, fun hk => absurd hk.2 (h k hk.1)⟩,
      fun c hc => by cases hc⟩
    rintro ⟨c, hc, -⟩
    cases hc

theorem faithful_nil_iff :
    Faithful before after [] ↔ ∀ k, k ≠ "updated_at" →
      ¬ Changed before after k := by
  rw [← lists_nil_iff]
  constructor
  · rintro ⟨log, hlists, ⟨rfl, -⟩ | ⟨-, e, -, hevents, -⟩⟩
    · exact hlists
    · cases hevents
  · exact fun h => ⟨[], h, .inl ⟨rfl, rfl⟩⟩

theorem not_changed_self
    (hself : ∀ k v, before.get? k = some v → v.same v = true) :
    ¬ Changed before before k := by
  rintro ⟨v, hv, hdiffers⟩
  have hsame := hdiffers v hv
  rw [hself k v hv] at hsame
  cases hsame

theorem not_changed_of_all
    (h : (after.all fun f => (before.get? f.1).any (·.same f.2)) = true) :
    ¬ Changed before after k := by
  rintro ⟨v, hv, hdiffers⟩
  have hf := List.all_eq_true.1 h _ (Object.mem_of_get? hv)
  cases hold : before.get? k with
  | none =>
      rw [hold] at hf
      cases hf
  | some old =>
      rw [hold, Option.any_some, hdiffers old hold] at hf
      cases hf

theorem mask_of_none_hidden {p : Policy} (h : p.hiddenFields = [])
    (log : List Change) :
    p.mask log = log := by
  have hmask : ∀ c ∈ log, p.maskChange c = c := fun c _ => by
    simp [Policy.maskChange, h]
  rw [Policy.mask, List.map_congr_left hmask, List.map_id']

theorem faithful_eventAbout_iff {a : Auditor}
    (hhidden : a.policy.hiddenFields = []) {log : List Change} (hlog : log ≠ [])
    (t : TableName) (r : Record) (id : Int) (uid : String)
    (now : Time.Instant) :
    Faithful before after [a.eventAbout t .update r log id uid now] ↔
      Lists log before after := by
  constructor
  · rintro ⟨log', hlists,
      ⟨-, hevents⟩ | ⟨-, e, fields, hevents, hbody, -, hfield⟩⟩
    · cases hevents
    · obtain rfl := List.singleton_inj.1 hevents
      obtain rfl := Value.obj.inj hbody
      simp only [Auditor.body, mask_of_none_hidden hhidden] at hfield
      obtain rfl :=
        Change.toJson_injective.list_map
          (Value.arr.inj (Option.some.inj hfield))
      exact hlists
  · intro h
    refine ⟨log, h, .inr ⟨hlog, _, _, rfl, rfl, rfl, ?_⟩⟩
    rw [mask_of_none_hidden hhidden]
    rfl

end Audit

namespace Memory

open Audit (Lists Changed)

variable {spec : TableSpec} {r : Record} {row' : Object}

/-- Attributes that their columns take as they are, the time
of writing aside. -/
def Fits (spec : TableSpec) (attributes : Object) : Prop :=
  ∀ k v c, k ≠ "updated_at" → attributes.get? k = some v →
    spec.column? k = some c →
    c.coerce v = .ok v

theorem fits_of_all {attributes : Object}
    (h : (attributes.all fun f => f.2.same f.2 &&
      (spec.column? f.1).all fun c =>
        (c.coerce f.2).toOption.any f.2.same) = true) :
    Fits spec attributes := by
  intro k v c _ hv hc
  have hf := List.all_eq_true.1 h _ (Object.mem_of_get? hv)
  rw [Bool.and_eq_true, hc, Option.all_some] at hf
  cases hw : c.coerce v with
  | error e =>
      rw [hw] at hf
      cases hf.2
  | ok w =>
      rw [hw] at hf
      rw [Column.eq_of_coerce_of_same hw hf.1 hf.2]

section Logged

variable (hnodup : r.attributes.keys.Nodup)
  (hleaves : ∀ k, k ≠ "updated_at" →
    LeavesUnder spec r.attributes r.snapshot k row')
include hnodup hleaves

theorem fits_of_lists (h : Lists r.changes r.snapshot row') :
    Fits spec r.attributes := by
  intro k v c hk hv hc
  have hstored := hleaves k hk
  rw [LeavesUnder, hv] at hstored
  obtain ⟨c', w, hc', hw, hget⟩ := hstored
  obtain rfl := Option.some.inj (hc.symm.trans hc')
  suffices heq : w = v by rw [hw, heq]
  by_cases hlisted : ∃ ch ∈ r.changes, ch.key = k
  · -- The log has the value that is carried as the one that is stored.
    obtain ⟨ch, hch, rfl⟩ := hlisted
    have hnew := ((Record.mem_changes_iff hnodup).1 hch).1
    rw [(h.values ch hch).2] at hget
    rw [hnew] at hv
    rw [← Option.some.inj hget, Option.some.inj hv]
  · -- The value that is carried and the one that is stored equal the old one.
    obtain ⟨old, hold, hsame⟩ := Record.same_of_not_listed
      (fun ch hch heq => hlisted ⟨ch, hch, heq⟩) hv
    have hkept : old.same w = true := by
      by_contra hdiffers
      refine hlisted ((h.changed k).2 ⟨hk, w, hget, fun old' hold' => ?_⟩)
      obtain rfl := Option.some.inj (hold.symm.trans hold')
      simpa using hdiffers
    exact Column.eq_of_coerce_of_same hw hsame hkept

theorem lists_of_fits
    (hcarries : ∀ k, r.attributes.get? k = none → r.snapshot.get? k = none)
    (hstamp : ∀ c ∈ r.changes, c.key ≠ "updated_at")
    (h : Fits spec r.attributes) :
    Lists r.changes r.snapshot row' := by
  have hget : ∀ k, k ≠ "updated_at" → row'.get? k = r.attributes.get? k := by
    intro k hk
    have hstored := hleaves k hk
    cases hv : r.attributes.get? k with
    | none =>
        rw [LeavesUnder, hv] at hstored
        exact hstored.trans (hcarries k hv)
    | some v =>
        rw [LeavesUnder, hv] at hstored
        obtain ⟨c, w, hc, hw, hget⟩ := hstored
        rw [hget, Except.ok.inj (hw.symm.trans (h k v c hk hv hc))]
  refine ⟨Record.nodup_keys_changes hnodup, fun k => ⟨?_, ?_⟩, fun c hc => ?_⟩
  · rintro ⟨c, hc, rfl⟩
    obtain ⟨hnew, hdiffers, -⟩ := (Record.mem_changes_iff hnodup).1 hc
    exact ⟨hstamp c hc, c.new, (hget _ (hstamp c hc)).trans hnew, hdiffers⟩
  · rintro ⟨hk, v, hv, hdiffers⟩
    exact ⟨⟨k, (r.snapshot.get? k).getD .null, v⟩,
      (Record.mem_changes_iff hnodup).2 ⟨(hget k hk).symm.trans hv, hdiffers,
        rfl⟩, rfl⟩
  · obtain ⟨hnew, -, hold⟩ := (Record.mem_changes_iff hnodup).1 hc
    exact ⟨hold, (hget _ (hstamp c hc)).trans hnew⟩

end Logged

/-- A record as it stands in a table under a key, with nothing changed yet. -/
structure Stands (spec : TableSpec) (t : Table) (key : Int)
    (r : Record) : Prop where
  row : t.row? key = some r.attributes
  layout : HasLayout spec r.attributes
  id : r.id = some key
  snapshot : r.snapshot = r.attributes
  audited : r.audited = true

theorem WellFormed.stands_of_findIn {checks : List Check} {t : Table}
    (h : WellFormed spec checks t) {field id : String}
    (hfind : findIn t field id = some r) :
    ∃ key, Stands spec t key r := by
  obtain ⟨⟨key, row⟩, hfound, rfl⟩ := Option.map_eq_some_iff.1 hfind
  have hmem := List.mem_of_find?_eq_some hfound
  have hlayout := (h.rows_meet _ hmem).layout
  have hplain : Record.withoutId row = row :=
    Record.withoutId_eq_self hlayout.id_not_mem
  have hstored : Record.ofStored key row = ⟨some key, row, row, true⟩ := by
    rw [Record.ofStored, hplain]
  dsimp only
  rw [hstored]
  exact ⟨key, row?_of_mem h.ascending hmem, hlayout, rfl, rfl, rfl⟩

/-- An update that succeeds stores a row under the key of the record, and
answers the record of this row. -/
theorem Store.of_update_runIn_ok {s : Store} {name : TableName}
    {stored : Record} {w w' : World Work} {t : Table} {row : Object} {key : Int}
    (hid : r.id = some key) (hnodup : r.attributes.keys.Nodup)
    (hnoid : idColumn ∉ r.attributes.keys)
    (ht : w.state.view name.physical = some t)
    (hwf : WellFormed s.spec s.checks t) (hrow : t.row? key = some row)
    (hrun : (s.transaction.update name r).runIn w = (.ok stored, w')) :
    ∃ t' row', w'.state.view name.physical = some t' ∧ t'.row? key = some row' ∧
      idColumn ∉ row'.keys ∧ stored = r.markSaved key row' ∧
      ∀ k, k ≠ "updated_at" → LeavesUnder s.spec r.attributes row k row' := by
  rw [Store.update_eq_write hid] at hrun
  obtain ⟨key', row', t', hw, rfl, rfl⟩ := Store.of_write_runIn_ok ht hrun
  obtain ⟨hrow', hleaves⟩ := row?_of_writeRow hw hnodup hrow
  obtain ⟨-, ⟨hkey, -⟩ | ⟨hnone, -⟩⟩ := writeRow_ok hw
  · obtain rfl := Option.some.inj hkey
    have hlayout :=
      ((hwf.writeRow hnoid hw).rows_meet _ (mem_of_lookup hrow')).layout
    exact ⟨t', row', Work.view_hold_self, hrow', hlayout.id_not_mem, rfl,
      hleaves⟩
  · cases hnone

end Memory

/-! ## Upserts that find a row -/

namespace Service

open Audit (Changed Faithful)
open Memory (textAt Fits Stands)

variable {κ : Type} {svc : Service Tables Work κ} {s : Store}
  {ctx : RequestContext} {table id : String} {name : TableName}
  {w w' : World (ServiceState Tables κ)} {r : Record} {key : Int}
  {row inputs : Object}

/-- A table in which a row is found is there. -/
theorem lookup_of_findIn {field : String}
    (h : findIn (opened w name) field id = some r) :
    List.lookup name.physical w.state.store = some (opened w name) := by
  unfold opened at h ⊢
  cases ht : List.lookup name.physical w.state.store with
  | some t => rfl
  | none =>
      rw [ht] at h
      cases h

theorem id_not_mem_given (spec : TableSpec) (inputs : Object) :
    idColumn ∉
      Object.keys (spec.prepareUpdate (spec.fillable (Path.undot inputs))) := by
  intro h
  rw [TableSpec.keys_prepareUpdate] at h
  exact (TableSpec.of_mem_keys_fillable h).2 (by decide)

theorem revised_eq (spec : TableSpec) (inputs : Object) (r : Record) :
    revised spec inputs r = { r with
      attributes := r.attributes.insertAll
        (spec.prepareUpdate (spec.fillable (Path.undot inputs))) } :=
  Record.fill_eq r (id_not_mem_given spec inputs)

section Revised

variable (spec : TableSpec) (inputs : Object) (r : Record)

theorem id_revised : (revised spec inputs r).id = r.id := by
  rw [revised_eq]

theorem snapshot_revised : (revised spec inputs r).snapshot = r.snapshot := by
  rw [revised_eq]

theorem audited_revised : (revised spec inputs r).audited = r.audited := by
  rw [revised_eq]

theorem attributes_revised : (revised spec inputs r).attributes =
    r.attributes.insertAll
      (spec.prepareUpdate (spec.fillable (Path.undot inputs))) := by
  rw [revised_eq]

theorem get?_attributes_revised (k : String) :
    (revised spec inputs r).attributes.get? k =
      (Object.get?
        (spec.prepareUpdate (spec.fillable (Path.undot inputs))) k).or
        (r.attributes.get? k) := by
  have hnodup :
      (Object.keys
        (spec.prepareUpdate (spec.fillable (Path.undot inputs)))).Nodup := by
    rw [TableSpec.keys_prepareUpdate]
    exact TableSpec.nodup_keys_fillable (Path.nodup_keys_undot inputs) spec
  rw [attributes_revised, Object.get?_insertAll hnodup]

theorem nodup_keys_revised (h : r.attributes.keys.Nodup) :
    (revised spec inputs r).attributes.keys.Nodup := by
  rw [attributes_revised]
  exact Object.nodup_keys_insertAll h _

/-- The time of writing is nothing that a request gives. -/
theorem get?_revised_updated_at :
    (revised spec inputs r).attributes.get? "updated_at" =
      r.attributes.get? "updated_at" := by
  have hnone :
      Object.get? (spec.prepareUpdate (spec.fillable (Path.undot inputs)))
      "updated_at" = none := by
    rw [Object.get?_eq_none_iff, TableSpec.keys_prepareUpdate]
    exact fun h => (TableSpec.of_mem_keys_fillable h).2 (by decide)
  rw [get?_attributes_revised, hnone, Option.none_or]

end Revised

/-- The log of what a request makes of a record is that of the row exactly if
the record fits. -/
theorem lists_changes_revised_iff {spec : TableSpec} {t : Table} {row' : Object}
    (hstands : Stands spec t key r)
    (hself : ∀ k v, r.attributes.get? k = some v → v.same v = true)
    (hleaves : ∀ k, k ≠ "updated_at" →
      LeavesUnder spec (revised spec inputs r).attributes r.attributes k row') :
    Audit.Lists (revised spec inputs r).changes r.attributes row' ↔
      Fits spec (revised spec inputs r).attributes := by
  have hsnapshot : (revised spec inputs r).snapshot = r.attributes :=
    (snapshot_revised ..).trans hstands.snapshot
  have hnodup : (revised spec inputs r).attributes.keys.Nodup :=
    nodup_keys_revised _ _ _ hstands.layout.nodup
  have hcarries : ∀ k, (revised spec inputs r).attributes.get? k = none →
      r.attributes.get? k = none := by
    intro k hk
    rw [get?_attributes_revised, Option.or_eq_none_iff] at hk
    exact hk.2
  have hstamp : ∀ c ∈ (revised spec inputs r).changes,
      c.key ≠ "updated_at" := by
    intro c hc heq
    obtain ⟨hnew, hdiffers, -⟩ := (Record.mem_changes_iff hnodup).1 hc
    rw [heq, get?_revised_updated_at] at hnew
    have hsame := hdiffers c.new (by rw [hsnapshot, heq, hnew])
    rw [hself _ _ hnew] at hsame
    cases hsame
  rw [← hsnapshot] at hcarries hleaves ⊢
  exact ⟨Memory.fits_of_lists hnodup hleaves,
    Memory.lists_of_fits hnodup hleaves hcarries hstamp⟩

section Upserts

variable (hs : svc.repository = s.repository)
  (hname : svc.tableName ctx table = .ok name)
include hs hname

/-- An upsert that fails or finds nothing to change leaves the row that it
found, and writes no event. -/
theorem upsert_leaves_row {rules : FieldRules} {answer : Except Error Record}
    (hfind : findIn (opened w name) s.spec.idField id = some r)
    (hrun : (svc.upsert ctx table (some id) inputs rules).runIn w =
      (answer, w'))
    (h : (∃ e, answer = .error e) ∨ (revised s.spec inputs r).changes = []) :
    List.lookup name.physical w'.state.store = some (opened w name) ∧
      w'.state.sink = w.state.sink := by
  cases hrules : rules.check inputs with
  | error e =>
      rw [upsert_runIn_error hrules, Prod.mk.injEq] at hrun
      obtain ⟨-, rfl⟩ := hrun
      exact ⟨lookup_of_findIn hfind, rfl⟩
  | ok _ =>
      by_cases hchanges : (revised s.spec inputs r).changes = []
      · obtain ⟨v, hv, hsink, hview⟩ :=
          upsert_runIn_unchanged hs hname hrules hfind hchanges
        obtain ⟨-, rfl⟩ := Prod.mk.inj (hv.symm.trans hrun)
        exact ⟨(hview _).trans (view_searched w name), hsink⟩
      · obtain ⟨e, rfl⟩ := h.resolve_right hchanges
        rcases hupdate :
          (s.transaction.update name (revised s.spec inputs r)).runIn
          (searched w name) with ⟨answer, w₁⟩
        obtain ⟨v, events, hv, hsink, hevents, hleft⟩ :=
          upsert_runIn_changed hs hname hrules hfind hchanges hupdate
        obtain ⟨rfl, rfl⟩ := Prod.mk.inj (hv.symm.trans hrun)
        obtain ⟨-, hstore⟩ | ⟨⟨stored, hok⟩, -⟩ := hleft
        · refine ⟨?_, ?_⟩
          · rw [hstore]
            exact Tables.lookup_ensured_self _ _
          · obtain ⟨-, rfl⟩ | ⟨now, e', htold, -⟩ := hevents
            · exact hsink
            · cases htold
        · cases hok

omit hs hname in
theorem covers_markSaved_iff (haudits : svc.policy.audits name = true)
    (haudited : r.audited = true) (hnoid : idColumn ∉ row.keys) {i : Int}
    {uid : String} : (svc.auditor ctx).Covers name (r.markSaved key row) i uid ↔
      key = i ∧ textAt row svc.idField = some uid ∧ uid ≠ "" := by
  have hstored : (r.markSaved key row).attributes = row :=
    Record.withoutId_eq_self hnoid
  constructor
  · intro h
    refine ⟨Option.some.inj h.key, ?_, h.nonempty⟩
    have huid := h.identifier
    rwa [hstored] at huid
  · rintro ⟨rfl, huid, hne⟩
    refine ⟨haudited, haudits, rfl, ?_, hne⟩
    rwa [hstored]

/-- An upsert that succeeds and has something to change writes the row. If the
row has an identifier behind it, there is one event, with the changes of the
record that was written; if it has none, there is no event. -/
theorem upsert_writes_row {rules : FieldRules} {stored : Record}
    (haudits : svc.policy.audits name = true)
    (hwf : WellFormed s.spec s.checks (opened w name))
    (hstands : Stands s.spec (opened w name) key r)
    (hfind : findIn (opened w name) s.spec.idField id = some r)
    (hchanges : (revised s.spec inputs r).changes ≠ [])
    (hrun : (svc.upsert ctx table (some id) inputs rules).runIn w =
      (.ok stored, w')) :
    ∃ t' row' events, List.lookup name.physical w'.state.store = some t' ∧
      t'.row? key = some row' ∧
      w'.state.sink = svc.sink.writeAll events w.state.sink ∧
      (∀ k, k ≠ "updated_at" →
        LeavesUnder s.spec (revised s.spec inputs r).attributes
          r.attributes k row') ∧
      ((∀ uid, textAt row' s.spec.idField = some uid → uid = "") ∧ events = [] ∨
        ∃ uid now, textAt row' s.spec.idField = some uid ∧ uid ≠ "" ∧
          events = [(svc.auditor ctx).eventAbout name .update stored
            (revised s.spec inputs r).changes key uid now]) := by
  have hfield : svc.idField = s.spec.idField := by rw [idField, hs]; rfl
  have hid : (revised s.spec inputs r).id = some key :=
    (id_revised ..).trans hstands.id
  have haudited : (revised s.spec inputs r).audited = true :=
    (audited_revised ..).trans hstands.audited
  have hnodup : (revised s.spec inputs r).attributes.keys.Nodup :=
    nodup_keys_revised _ _ _ hstands.layout.nodup
  cases hrules : rules.check inputs with
  | error e =>
      rw [upsert_runIn_error hrules] at hrun
      cases hrun
  | ok _ =>
      rcases hupdate :
        (s.transaction.update name (revised s.spec inputs r)).runIn
        (searched w name) with ⟨answer, w₁⟩
      obtain ⟨v, events, hv, hsink, hevents, hleft⟩ :=
        upsert_runIn_changed hs hname hrules hfind hchanges hupdate
      obtain ⟨rfl, rfl⟩ := Prod.mk.inj (hv.symm.trans hrun)
      obtain ⟨⟨e, he⟩, -⟩ | ⟨-, hview⟩ := hleft
      · cases he
      obtain ⟨t', row', ht', hrow', hnoid, rfl, hleaves⟩ :=
        Memory.Store.of_update_runIn_ok hid
          hnodup (Record.id_not_mem_fill hstands.layout.id_not_mem _)
          (view_searched w name) hwf hstands.row hupdate
      refine ⟨t', row', events, (hview _).trans ht', hrow', hsink, hleaves, ?_⟩
      have hcovers : ∀ i uid, (svc.auditor ctx).Covers name
          ((revised s.spec inputs r).markSaved key row') i uid ↔
            key = i ∧ textAt row' s.spec.idField = some uid ∧ uid ≠ "" := by
        intro i uid
        rw [covers_markSaved_iff haudits haudited hnoid, hfield]
      obtain ⟨huntold, rfl⟩ | ⟨now, e, htold, rfl⟩ := hevents
      · refine .inl ⟨fun uid huid => ?_, rfl⟩
        by_contra hne
        exact huntold ⟨0, 0⟩ _
          (.updated ((hcovers ..).2 ⟨rfl, huid, hne⟩) hchanges)
      · cases htold with
        | updated h _ =>
            obtain ⟨rfl, huid, hne⟩ := (hcovers ..).1 h
            exact .inr ⟨_, now, huid, hne, rfl⟩

/-- An upsert that finds a row, in a table that is audited and conceals nothing.
If it fails or finds nothing to change, the row stays and there is no event. If
the row has no identifier behind it, there is none either. Otherwise, if every
value that the record carries is one that its column takes as it is, the events
tell what became of the row. The values of the row are such as are equal to
themselves as documents: no number is none, and no key comes twice. -/
theorem change_log_is_faithful {rules : FieldRules}
    {answer : Except Error Record} (haudits : svc.policy.audits name = true)
    (hhidden : svc.policy.hiddenFields = []) (hreached : svc.Reached w.state)
    (hfind : findIn (opened w name) s.spec.idField id = some r)
    (hself : ∀ k v, r.attributes.get? k = some v → v.same v = true)
    (hrun : (svc.upsert ctx table (some id) inputs rules).runIn w =
      (answer, w')) :
    ∃ key t' row' events,
      r.id = some key ∧ (opened w name).row? key = some r.attributes ∧
      List.lookup name.physical w'.state.store = some t' ∧
      t'.row? key = some row' ∧
      w'.state.sink = svc.sink.writeAll events w.state.sink ∧
      ((∃ e, answer = .error e) ∨ (revised s.spec inputs r).changes = [] →
        row' = r.attributes ∧ events = []) ∧
      ((∀ uid, textAt row' s.spec.idField = some uid → uid = "") →
        events = []) ∧
      ∀ uid, textAt row' s.spec.idField = some uid → uid ≠ "" →
        Fits s.spec (revised s.spec inputs r).attributes →
        Faithful r.attributes row' events := by
  have hwf : WellFormed s.spec s.checks (opened w name) :=
    hreached.wellFormed hs name.physical
  obtain ⟨key, hstands⟩ := hwf.stands_of_findIn hfind
  by_cases hidle : (∃ e, answer = .error e) ∨
    (revised s.spec inputs r).changes = []
  · obtain ⟨hlookup, hsink⟩ := upsert_leaves_row hs hname hfind hrun hidle
    refine ⟨key, _, r.attributes, [], hstands.id, hstands.row, hlookup,
      hstands.row, hsink, fun _ => ⟨rfl, rfl⟩, fun _ => rfl, fun _ _ _ _ => ?_⟩
    exact Audit.faithful_nil_iff.2 fun k _ => Audit.not_changed_self hself
  · obtain ⟨hok, hchanges⟩ := not_or.1 hidle
    obtain ⟨stored, rfl⟩ : ∃ stored, answer = .ok stored := by
      cases answer with
      | error e => exact absurd ⟨e, rfl⟩ hok
      | ok stored => exact ⟨stored, rfl⟩
    obtain ⟨t', row', events, ht', hrow', hsink, hleaves, hevents⟩ :=
      upsert_writes_row hs hname haudits hwf hstands hfind hchanges hrun
    refine ⟨key, t', row', events, hstands.id, hstands.row, ht', hrow', hsink,
      fun h => absurd h hidle, ?_⟩
    obtain ⟨hblank, rfl⟩ | ⟨uid, now, huid, hne, rfl⟩ := hevents
    · exact ⟨fun _ => rfl, fun uid huid hne => absurd (hblank uid huid) hne⟩
    · refine ⟨fun hblank => absurd (hblank uid huid) hne, fun _ _ _ hfits => ?_⟩
      rw [Audit.faithful_eventAbout_iff hhidden hchanges]
      exact (lists_changes_revised_iff hstands hself hleaves).2 hfits

end Upserts

/-- A service of orders with a city and a note. -/
def ofAddressed : Service Tables Work (List Event) :=
  { ofShortIds with repository := Store.addressed.repository }

/-- The state behind the creation of an order with a text for its note. -/
def orderSeven : ServiceState Tables (List Event) :=
  ((ofAddressed.serve (.of "POST" "/") "orders"
    (.create [("uid", .str "a"), ("note", .str "7")] .empty)).runIn
      ⟨⟨[], []⟩, Store.stillSupply⟩).2.state

/-- The order as it is found. -/
def foundSeven : Option Record :=
  findIn (opened ⟨orderSeven, Store.stillSupply⟩ Store.ordersOfAcme) "uid" "a"

/-- The order is upserted. -/
def edited (inputs : Object) :
    Except Error Record × World (ServiceState Tables (List Event)) :=
  (ofAddressed.upsert (.of "POST" "/") "orders" (some "a") inputs .empty).runIn
    ⟨orderSeven, Store.stillSupply⟩

/-- What the upsert makes of the row that it finds, and the events
that it writes. -/
def Edits (inputs : Object) (r : Record) (row' : Object)
    (events : List Event) : Prop :=
  ∃ key t', foundSeven = some r ∧ r.id = some key ∧
    List.lookup Store.ordersOfAcme.physical
      (edited inputs).2.state.store = some t' ∧
    t'.row? key = some row' ∧
    (edited inputs).2.state.sink =
      ofAddressed.sink.writeAll events orderSeven.sink

/-- A relation of the order as it is found and any row that there is
behind the upsert. -/
def relates (inputs : Object) (p : Record → Object → Bool)
    (r : Record) : Bool :=
  (List.lookup Store.ordersOfAcme.physical
    (edited inputs).2.state.store).all fun t =>
    t.rows.all fun e => p r e.2

section Edits

variable {inputs : Object} {p : Record → Object → Bool} {t' : Table}
  {row' : Object}

theorem of_relates (h : relates inputs p r = true)
    (ht' : List.lookup Store.ordersOfAcme.physical
      (edited inputs).2.state.store = some t')
    (hrow' : t'.row? key = some row') : p r row' = true := by
  rw [relates, ht', Option.all_some, List.all_eq_true] at h
  exact h _ (Memory.mem_of_lookup hrow')

theorem ofAddressed_repository :
    ofAddressed.repository = Store.addressed.repository := rfl

theorem ofAddressed_tableName :
    ofAddressed.tableName (.of "POST" "/") "orders" = .ok Store.ordersOfAcme :=
  ofShortIds_tableName

theorem orderSeven_reached : ofAddressed.Reached orderSeven :=
  .served (.start []) _ _ _ _

theorem edited_runIn (inputs : Object) :
    (ofAddressed.upsert (.of "POST" "/") "orders" (some "a")
      inputs .empty).runIn
      ⟨orderSeven, Store.stillSupply⟩ =
        ((edited inputs).1, (edited inputs).2) := by
  rw [Prod.mk.eta, edited]

/-- Another text is logged as it is stored. -/
theorem eight_is_told :
    ∃ r row' events, Edits [("note", .str "8")] r row' events ∧
      textAt r.attributes "note" = some "7" ∧ textAt row' "note" = some "8" ∧
      Faithful r.attributes row' events := by
  have hfound :
      foundSeven.any (fun r => textAt r.attributes "note" == some "7" &&
      (r.attributes.all fun f => f.2.same f.2) &&
      ((revised Store.addressed.spec [("note", .str "8")]
        r).attributes.all fun f =>
        f.2.same f.2 && (Store.addressed.spec.column? f.1).all fun c =>
          (c.coerce f.2).toOption.any f.2.same) &&
      relates [("note", .str "8")] (fun _ row' =>
        textAt row' "uid" == some "a" &&
          textAt row' "note" == some "8") r) = true := by
    decide +kernel
  obtain ⟨r, hr, hr'⟩ := Option.any_eq_true _ _ |>.1 hfound
  simp only [Bool.and_eq_true, beq_iff_eq] at hr'
  obtain ⟨⟨⟨hseven, hself⟩, hfits⟩, hrelates⟩ := hr'
  obtain ⟨key, t', row', events, hkey, -, ht', hrow', hsink, -, -, hfaithful⟩ :=
    change_log_is_faithful (w := ⟨orderSeven, Store.stillSupply⟩)
      ofAddressed_repository ofAddressed_tableName (by decide +kernel) rfl
      orderSeven_reached hr (fun k v hv =>
        List.all_eq_true.1 hself _ (Object.mem_of_get? hv))
      (edited_runIn [("note", .str "8")])
  have hstored := of_relates hrelates ht' hrow'
  rw [Bool.and_eq_true, beq_iff_eq, beq_iff_eq] at hstored
  exact ⟨r, row', events, ⟨key, t', hr, hkey, ht', hrow', hsink⟩, hseven,
    hstored.2, hfaithful "a" hstored.1 (by decide) (Memory.fits_of_all hfits)⟩

/-- An upsert of the order that succeeds and has something to change, and a
relation that holds of what it finds and leaves. -/
theorem exists_edits (inputs : Object) (p : Record → Object → Bool)
    (h : foundSeven.any (fun r =>
      (revised Store.addressed.spec inputs r).isDirty &&
      (edited inputs).1.toOption.isSome && relates inputs p r) = true) :
    ∃ r row' events, Edits inputs r row' events ∧ p r row' = true ∧
      (revised Store.addressed.spec inputs r).changes ≠ [] ∧
      ((∀ uid, textAt row' "uid" = some uid → uid = "") ∧ events = [] ∨
        ∃ key stored uid now, textAt row' "uid" = some uid ∧ uid ≠ "" ∧
          events =
            [(ofAddressed.auditor (.of "POST" "/")).eventAbout
              Store.ordersOfAcme .update stored
              (revised Store.addressed.spec inputs r).changes key uid
              now]) := by
  obtain ⟨r, hr, h⟩ := Option.any_eq_true _ _ |>.1 h
  rw [Bool.and_eq_true, Bool.and_eq_true] at h
  obtain ⟨⟨hdirty, hok⟩, hrelates⟩ := h
  have hchanges : (revised Store.addressed.spec inputs r).changes ≠ [] := by
    simpa [Record.isDirty] using hdirty
  have hwf : WellFormed Store.addressed.spec []
      (opened ⟨orderSeven, Store.stillSupply⟩ Store.ordersOfAcme) :=
    orderSeven_reached.wellFormed ofAddressed_repository
      Store.ordersOfAcme.physical
  obtain ⟨key, hstands⟩ := hwf.stands_of_findIn hr
  cases hanswer : (edited inputs).1 with
  | error e =>
      rw [hanswer] at hok
      cases hok
  | ok stored =>
      obtain ⟨t', row', events, ht', hrow', hsink, -, hevents⟩ :=
        upsert_writes_row (w := ⟨orderSeven, Store.stillSupply⟩)
          ofAddressed_repository ofAddressed_tableName (by decide +kernel) hwf
          hstands hr hchanges
          ((edited_runIn inputs).trans (Prod.ext hanswer rfl))
      refine ⟨r, row', events, ⟨key, t', hr, hstands.id, ht', hrow', hsink⟩,
        of_relates hrelates ht' hrow', hchanges, ?_⟩
      obtain hnone | htold := hevents
      · exact .inl hnone
      · exact .inr ⟨key, stored, htold⟩

/-- A number that is stored as the text that is there is logged, though nothing
changes; and a changed identifier is not logged if the new one is empty. -/
theorem edits_are_told_amiss :
    (∃ r row' events, Edits [("note", .int 7)] r row' events ∧
      events.length = 1 ∧
      (∀ k, ¬ Changed r.attributes row' k) ∧
      ¬ Faithful r.attributes row' events) ∧
    ∃ r row', Edits [("uid", .str "")] r row' [] ∧
    Changed r.attributes row' "uid" ∧
      ¬ Faithful r.attributes row' [] := by
  constructor
  · obtain ⟨r, row', events, hedits, hrow, hchanges, hevents⟩ :=
      exists_edits [("note", .int 7)]
        (fun r row' => textAt row' "uid" == some "a" &&
          row'.all fun f =>
            (r.attributes.get? f.1).any (·.same f.2)) (by decide +kernel)
    rw [Bool.and_eq_true, beq_iff_eq] at hrow
    have hsame : ∀ k, ¬ Changed r.attributes row' k :=
      fun k => Audit.not_changed_of_all hrow.2
    obtain ⟨hblank, -⟩ | ⟨key, stored, uid, now, -, -, rfl⟩ := hevents
    · exact absurd (hblank "a" hrow.1) (by decide)
    · refine ⟨r, row', _, hedits, rfl, hsame, ?_⟩
      rw [Audit.faithful_eventAbout_iff rfl hchanges]
      intro hlists
      obtain ⟨c, hc⟩ := List.exists_mem_of_ne_nil _ hchanges
      exact hsame c.key ((hlists.changed c.key).1 ⟨c, hc, rfl⟩).2
  · obtain ⟨r, row', events, hedits, hrow, -, hevents⟩ :=
      exists_edits [("uid", .str "")]
        (fun r row' =>
          textAt row' "uid" == some "" && (row'.get? "uid").any fun v =>
          (r.attributes.get? "uid").all fun old =>
            !old.same v) (by decide +kernel)
    rw [Bool.and_eq_true, beq_iff_eq] at hrow
    have hchanged : Changed r.attributes row' "uid" := by
      obtain ⟨v, hv, hdiffers⟩ := Option.any_eq_true _ _ |>.1 hrow.2
      refine ⟨v, hv, fun old hold => ?_⟩
      rw [hold, Option.all_some] at hdiffers
      simpa using hdiffers
    obtain ⟨-, rfl⟩ | ⟨key, stored, uid, now, huid, hne, -⟩ := hevents
    · refine ⟨r, row', hedits, hchanged, fun hfaithful => ?_⟩
      exact Audit.faithful_nil_iff.1 hfaithful "uid" (by decide) hchanged
    · exact absurd (Option.some.inj (huid.symm.trans hrow.1)) hne

end Edits

end Service

end TenantTables
