import TenantTables.Proofs.ExportedFile
import TenantTables.Proofs.GeneralLayout
import TenantTables.Proofs.ImportRows
import TenantTables.Proofs.ImportRun

/-!
# Importing a file twice

An import whose rows carry identifiers that the table does not have makes a
record of each. Imported again, each row finds the one record with its
identifier, and everything that is written there was written before: what the
row brings was taken by its columns the first time, and what stands in the
record are values that their columns take as they are. So no row can fail, and
none makes a record.

What is held on to between the two imports is, of every row, where its record
stands and that no other has its identifier. Each import keeps that of the rows
it is done with, since it writes to other records.
-/

namespace TenantTables

namespace Import

open Json (Value Object)
open Memory (Store Table Tables Work Ascending HasLayout Settled Accepts
  Prepared Check textAt findIn writeRow)
open Time (Instant IsStamp)

/-- The store of the general layout, without checks. -/
def general : Store := ⟨.default, []⟩

/-- An import into the store of the general layout that vetoes no row. -/
def generalPlan (name : TableName) : Plan Work :=
  ⟨general.transaction, .default, name, Veto.never⟩

theorem storedId_uid (row : Object) :
    storedId "uid" row = textAt row "uid" := by
  have hsplit : Text.split '.' "uid" = ["uid"] := by decide
  rw [storedId, textAt, Query.lookup, hsplit]
  cases h : row.get? "uid" with
  | some v => rfl
  | none => simp [Query.descend, h]

/-! ## What a row writes -/

/-- What a row writes to the record that it names. -/
def Row.written (row : Row) : Object :=
  TableSpec.default.prepareUpdate (TableSpec.default.fillable row.attributes)

def Row.inserted (row : Row) (u : Supply) : Object :=
  (TableSpec.default.prepareInsert
    (TableSpec.default.fillable row.attributes) u).1

namespace Row

variable {row : Row} {id : String} {k : String} {v : Value}

theorem nodup_keys_written (row : Row) : row.written.keys.Nodup := by
  rw [written, TableSpec.keys_prepareUpdate]
  exact TableSpec.nodup_keys_fillable row.nodup_keys_attributes _

theorem of_mem_keys_written (h : k ∈ row.written.keys) :
    TableSpec.default.hasColumn k = true ∧ k ∉ managedColumns := by
  rw [written, TableSpec.keys_prepareUpdate] at h
  exact TableSpec.of_mem_keys_fillable h

theorem id_not_mem_written (row : Row) : idColumn ∉ row.written.keys :=
  fun h => (of_mem_keys_written h).2 (by decide)

theorem Carries.fillable (h : row.Carries id) :
    ∃ v, Object.get? (TableSpec.default.fillable row.attributes)
      "uid" = some v ∧
      v.toText? = some id := by
  obtain ⟨v, hv, htext⟩ := h.attribute
  refine ⟨v, ?_, htext⟩
  rw [TableSpec.get?_fillable, if_pos (by decide)]
  exact hv

theorem Carries.written (h : row.Carries id) :
    ∃ v, row.written.get? "uid" = some v ∧ v.toText? = some id := by
  obtain ⟨v, hv, htext⟩ := h.fillable
  refine ⟨v, ?_, htext⟩
  rw [Row.written, TableSpec.get?_prepareUpdate, if_neg (by decide)]
  exact hv

theorem Carries.has_id (h : row.Carries id) :
    TableSpec.default.missesId
      (TableSpec.default.fillable row.attributes) = false := by
  obtain ⟨v, hv, htext⟩ := h.fillable
  exact TableSpec.missesId_eq_false hv htext h.not_blank

theorem Carries.prepared (h : row.Carries id) (u : Supply) :
    Prepared (row.inserted u) :=
  Memory.prepared_prepareInsert row.nodup_keys_attributes h.has_id u

/-- An insert writes what an update writes, unless that is a
null for the start. -/
theorem Carries.inserted (h : row.Carries id) (u : Supply)
    (hv : row.written.get? k = some v) :
    (row.inserted u).get? k = some v ∨ k = "started_at" ∧ v = .null := by
  by_cases hk : k = "started_at" ∧
      TableSpec.default.missesStart
        (TableSpec.default.fillable row.attributes) = true
  · obtain ⟨rfl, hstart⟩ := hk
    exact .inr ⟨rfl, TableSpec.null_of_missesStart hstart hv⟩
  · rw [not_and, Bool.not_eq_true] at hk
    rw [Row.inserted, TableSpec.get?_prepareInsert h.has_id u hk]
    exact .inl hv

/-- The import that a row is for is written under a column of its own. -/
theorem get?_written_under (importId : String) (row : Row) (k : String) :
    (row.under importId).written.get? k =
      if k = importIdColumn then some (.str importId)
        else row.written.get? k := by
  by_cases hk : k = importIdColumn
  · subst hk
    rw [if_pos rfl, Row.written, TableSpec.get?_prepareUpdate,
      if_neg (by decide), TableSpec.get?_fillable, if_pos (by decide)]
    exact Object.get?_insert_self _ _ _
  · rw [if_neg hk, Row.written, Row.written, TableSpec.get?_prepareUpdate,
      TableSpec.get?_prepareUpdate, TableSpec.get?_fillable,
      TableSpec.get?_fillable, attributes, attributes,
      Object.get?_insert_of_ne _ hk, Object.get?_insert_of_ne _ hk]
    rfl

/-- What was taken in an insert is taken in an update, whatever
the import it is for. -/
theorem Carries.accepts (h : row.Carries id) {u : Supply}
    (haccepts : Accepts .default (row.inserted u)) (importId : String) :
    Accepts .default (row.under importId).written := by
  intro f hf
  obtain ⟨k, v⟩ := f
  have hv := Object.get?_of_mem (nodup_keys_written _) hf
  rw [get?_written_under] at hv
  split at hv
  · next hk =>
      subst hk
      obtain rfl := Option.some.inj hv
      exact ⟨_, .str importId, TableSpec.import_id_column, rfl⟩
  · rcases h.inserted u hv with hinserted | ⟨rfl, rfl⟩
    · exact haccepts (k, v) (Object.mem_of_get? hinserted)
    · exact ⟨⟨"started_at", .timestamp, true, false, none⟩,
        .null, by decide, rfl⟩

end Row

/-! ## Rows that stand under an identifier -/

/-- A row that can be written again, and the text of its identifier. -/
structure Kept (id : String) (stored : Object) : Prop where
  layout : HasLayout .default stored
  settled : Settled .default stored
  id : textAt stored "uid" = some id

/-- The one row of a table with an identifier, and where it stands. -/
structure Held (t : Table) (id : String) (key : Int)
    (stored : Object) : Prop where
  mem : (key, stored) ∈ t.rows
  below : key < t.nextId
  kept : Kept id stored
  sole : ∀ e ∈ t.rows, textAt e.2 "uid" = some id → e.1 = key

section Tables

variable {t : Table} {id other : String} {key : Int} {stored row : Object}

/-- A row is held on to while rows with other identifiers are
written elsewhere. -/
theorem Held.setRow (h : Held t id key stored) (hasc : Ascending t.rows)
    {at_ next : Int} (hkey : key ≠ at_) (hnext : t.nextId ≤ next)
    (hrow : textAt row "uid" ≠ some id) :
    Held ⟨next, Table.setRow at_ row t.rows⟩ id key stored where
  mem := (Memory.mem_setRow hasc).2 (.inr ⟨h.mem, hkey⟩)
  below := Int.lt_of_lt_of_le h.below hnext
  kept := h.kept
  sole e he hid := by
    rcases (Memory.mem_setRow hasc).1 he with rfl | ⟨he, -⟩
    · exact absurd hid hrow
    · exact h.sole e he hid

/-- The row under a key decides which identifier is held there. -/
theorem Held.key_ne (h : Held t id key stored) (hasc : Ascending t.rows)
    {key' : Int} {stored' : Object} (h' : Held t other key' stored')
    (hne : id ≠ other) : key ≠ key' := by
  intro hkey
  obtain ⟨-, rfl⟩ := Prod.mk.inj (hasc.eq_of_key h.mem h'.mem hkey)
  exact hne (Option.some.inj (h.kept.id.symm.trans h'.kept.id))

theorem Held.found (h : Held t id key stored) (hasc : Ascending t.rows) :
    findIn t "uid" id = some (.ofStored key stored) := by
  have hsome : (findIn t "uid" id).isSome = true :=
    Plan.isSome_findIn_iff.2 ⟨_, h.mem, (storedId_uid stored).trans h.kept.id⟩
  obtain ⟨r, hr⟩ := Option.isSome_iff_exists.1 hsome
  have hfound := hr
  rw [findIn] at hr
  obtain ⟨e, he, rfl⟩ := Option.map_eq_some_iff.1 hr
  obtain ⟨i, attributes⟩ := e
  have hmem := List.mem_of_find?_eq_some he
  have hid := List.find?_some he
  rw [beq_iff_eq] at hid
  have hkey : i = key :=
    h.sole _ hmem ((storedId_uid attributes).symm.trans hid)
  obtain ⟨rfl, rfl⟩ := Prod.mk.inj (hasc.eq_of_key hmem h.mem hkey)
  exact hfound

end Tables

/-- A written identifier stands in the row as its text. -/
theorem uid_of_assign {name id : String} {attributes row row' : Object}
    {v : Value} (h : Memory.assign .default name attributes row = .ok row')
    (hnodup : attributes.keys.Nodup) (hv : attributes.get? "uid" = some v)
    (htext : v.toText? = some id) :
    textAt row' "uid" = some id := by
  obtain ⟨c, w, hc, hw, hget⟩ := Memory.get?_assigned h hnodup hv
  obtain rfl := Option.some.inj (hc.symm.trans TableSpec.uid_column)
  obtain rfl :=
    ColumnType.eq_str_of_isText rfl htext (Column.coerce_eq_ok_iff.1 hw).1
  exact Memory.textAt_eq_some_iff.2 ⟨_, hget, rfl⟩

/-! ## A row for the first time -/

section First

variable {name : TableName} {row : Row} {id : String} {t t' : Table}
  {u u' : Supply} {entry : Entry}

/-- The identifier of a stored row is what the summary reports. -/
theorem reported_eq {stored : Object} (hid : textAt stored "uid" = some id)
    (hblank : Text.isBlankText id = false) (r : Record) (key : Int) :
    (generalPlan name).reported row (r.markSaved key stored) = id := by
  have hne : id ≠ "" := by
    rintro rfl
    cases hblank
  have huid : (r.markSaved key stored).uid? "uid" = some id := by
    rw [Record.uid?, Record.markSaved, Record.ofStored]
    dsimp only
    rw [Record.get?_withoutId _ (by decide)]
    exact Option.filter_eq_some_iff.2 ⟨hid, decide_eq_true hne⟩
  exact congrArg (fun uid => (Option.or uid _).getD "") huid

/-- A row whose identifier no record has becomes a record, the only one with its
identifier. -/
theorem applies_new (hcarries : row.Carries id)
    (hnew : ∀ e ∈ t.rows, textAt e.2 "uid" ≠ some id) (hasc : Ascending t.rows)
    (hclock : u.Dated)
    (h : Applies general (generalPlan name) row t u entry t' u') :
    entry = .inserted id ∧
      (∃ key stored, key = t.nextId ∧ Held t' id key stored ∧
        t' = ⟨t.nextId + 1, Table.setRow key stored t.rows⟩) ∧
      ∀ importId, Accepts .default (row.under importId).written := by
  cases h with
  | skipped hveto => cases hveto
  | updated _ hknown _ _ _ =>
      obtain ⟨named, hnamed, e, he, hid⟩ := hknown
      obtain rfl := Option.some.inj (hnamed.symm.trans hcarries.id)
      exact absurd ((storedId_uid e.2).symm.trans hid) (hnew e he)
  | @inserted key stored t' _ _ hw =>
      have hattributes : ((generalPlan name).created row u).attributes =
          row.inserted u :=
        Record.withoutId_eq_self fun h =>
          (hcarries.prepared u).unmanaged _ h (by decide)
      rw [hattributes] at hw
      obtain ⟨hcomplete, ⟨hkey, -⟩ | ⟨-, rfl, rfl⟩⟩ := Memory.writeRow_ok hw
      · cases hkey
      obtain ⟨start, assigned, hstart, hassign, hrow, -⟩ :=
        Memory.completeRow_ok hcomplete
      obtain rfl := Except.ok.inj hstart
      obtain rfl : stored = assigned := hrow.trans (if_neg Bool.false_ne_true)
      have hprepared := hcarries.prepared u
      obtain ⟨v, hv, htext⟩ := hcarries.written
      have hv :=
        (hcarries.inserted u hv).resolve_right fun h => absurd h.1 (by decide)
      have huid : textAt stored "uid" = some id :=
        uid_of_assign hassign hprepared.nodup hv htext
      have hstamp :
          IsStamp ((generalPlan name).supplyBehind row u).now.1.toText :=
        (hclock.congr (TableSpec.instants_prepareInsert _ _ _)).isStamp
      have hid : idColumn ∉ (row.inserted u).keys :=
        fun h => hprepared.unmanaged _ h (by decide)
      refine ⟨congrArg _ (reported_eq huid hcarries.not_blank _ _),
        ⟨t.nextId, stored, rfl, ⟨?_, Int.lt_succ _, ⟨?_, ?_, huid⟩, ?_⟩, rfl⟩,
        hcarries.accepts (Memory.accepts_of_assign hassign)⟩
      · exact (Memory.mem_setRow hasc).2 (.inl rfl)
      · exact (Memory.blankRow_hasLayout .default _).assign hid hassign
      · exact Memory.settled_of_assign hassign hprepared
          (Object.mem_keys_iff.2 ⟨v, hv⟩) hstamp
      · intro e he hother
        rcases (Memory.mem_setRow hasc).1 he with rfl | ⟨he, -⟩
        · rfl
        · exact absurd hother (hnew e he)

end First

/-! ## A row for the second time -/

section Second

variable {name : TableName} {row : Row} {id : String} {t : Table} {key : Int}
  {stored : Object}

/-- What a row makes of a kept one is taken by its columns. -/
theorem accepts_revised (hkept : Kept id stored)
    (haccepts : Accepts .default row.written) :
    Accepts .default (stored.insertAll row.written) := by
  intro f hf
  obtain ⟨k, v⟩ := f
  have hnodup := Object.nodup_keys_insertAll hkept.layout.nodup row.written
  have hv := Object.get?_of_mem hnodup hf
  rw [Object.get?_insertAll row.nodup_keys_written] at hv
  cases hk : row.written.get? k with
  | some u =>
      rw [hk, Option.some_or] at hv
      obtain rfl := Option.some.inj hv
      exact haccepts (k, u) (Object.mem_of_get? hk)
  | none =>
      rw [hk, Option.none_or] at hv
      have hcol :=
        ((hkept.layout.mem_keys k).1 (Object.mem_keys_iff.2 ⟨v, hv⟩)).2
      obtain ⟨c, hc⟩ := Option.isSome_iff_exists.1 hcol
      exact ⟨c, v, hc, hkept.settled k v c hv hc⟩

/-- A row that is held on to is written again, where it stands. -/
theorem applies_held (hcarries : row.Carries id)
    (haccepts : Accepts .default row.written) (hasc : Ascending t.rows)
    (hheld : Held t id key stored) (u : Supply) :
    ∃ stored', textAt stored' "uid" = some id ∧
      Applies general (generalPlan name) row t u (.updated id)
        { t with rows := Table.setRow key stored' t.rows } u.now.2 := by
  have hkept := hheld.kept
  have hnamed :
      (generalPlan name).named row t = some (.ofStored key stored) := by
    show (row.id? "uid").bind (findIn t "uid") = _
    rw [hcarries.id, Option.bind_some, hheld.found hasc]
  have hstored : Record.withoutId stored = stored :=
    Record.withoutId_eq_self hkept.layout.id_not_mem
  have hattributes :
      ((generalPlan name).revised row (.ofStored key stored)).attributes =
        stored.insertAll row.written := by
    show (Record.fill _ row.written).attributes = _
    rw [Record.attributes_fill _ row.id_not_mem_written]
    exact congrArg (Object.insertAll · row.written) hstored
  have hnodup := Object.nodup_keys_insertAll hkept.layout.nodup row.written
  obtain ⟨assigned, hassign⟩ :=
    Memory.assign_of_accepts (accepts_revised hkept haccepts)
      name.physical stored
  obtain ⟨v, hv, htext⟩ := hcarries.written
  have huid :
      textAt (assigned.insert "updated_at" (.str u.now.1.toText)) "uid" =
        some id := by
    have hfilled :
        Object.get? (stored.insertAll row.written) "uid" = some v := by
      rw [Object.get?_insertAll row.nodup_keys_written, hv, Option.some_or]
    rw [textAt, Object.get?_insert_of_ne _ (by decide)]
    exact uid_of_assign hassign hnodup hfilled htext
  have hmeets : Memory.constrain .default [] name.physical t (some key)
      (assigned.insert "updated_at" (.str u.now.1.toText)) = .ok () :=
    Memory.constrain_default_iff.2
      ⟨id, huid, fun e he hother hrepeats =>
        hother (congrArg some (hheld.sole e he hrepeats))⟩
  have hwrite :=
    Memory.writeRow_stored (Memory.row?_of_mem hasc hheld.mem) hassign
      (by decide) hmeets
  rw [← hattributes] at hwrite
  have hentry : Entry.updated ((generalPlan name).reported row
      (((generalPlan name).revised row (.ofStored key stored)).markSaved key
        (assigned.insert "updated_at" (.str u.now.1.toText)))) = .updated id :=
    congrArg _ (reported_eq huid hcarries.not_blank _ _)
  refine ⟨_, huid, hentry ▸ .updated rfl ?_ hnamed rfl hwrite⟩
  exact Plan.isSome_named_iff.1 (by rw [hnamed]; rfl)

end Second

/-! ## All rows of a file -/

section Files

variable {name : TableName} {rows : List Row} {ids : List String} {t t' : Table}
  {u u' : Supply} {entries : List Entry}

/-- Rows whose identifiers no record has become records, each held on to while
the rows behind it are applied. -/
theorem appliesAll_new (hcarries : List.Forall₂ Row.Carries rows ids)
    (hdistinct : ids.Nodup)
    (hnew : ∀ id ∈ ids, ∀ e ∈ t.rows, textAt e.2 "uid" ≠ some id)
    (hasc : Ascending t.rows) (hclock : u.Dated)
    (h : AppliesAll general (generalPlan name) rows t u entries t' u') :
    entries = ids.map .inserted ∧ Ascending t'.rows ∧
      (∀ id ∈ ids, ∃ key stored, Held t' id key stored) ∧
      (∀ row ∈ rows, ∀ importId,
        Accepts .default (row.under importId).written) ∧
      ∀ id key stored, id ∉ ids → Held t id key stored →
        Held t' id key stored := by
  -- What one row leaves is held on to, and has none of the
  -- identifiers behind it.
  induction hcarries generalizing t u entries with
  | nil =>
      cases h
      exact ⟨rfl, hasc, fun _ h => absurd h List.not_mem_nil, fun _ h =>
        absurd h List.not_mem_nil,
        fun _ _ _ _ hheld => hheld⟩
  | @cons row id rows ids hrow _ ih =>
      obtain ⟨hid, hdistinct⟩ := List.nodup_cons.1 hdistinct
      obtain ⟨hnewId, hnew⟩ := List.forall_mem_cons.1 hnew
      cases h with
      | @cons _ _ _ t₁ _ _ u₁ _ entry entries happlies hs =>
          obtain ⟨rfl, ⟨key, stored, hkey, hheld, ht₁⟩, haccepts⟩ :=
            applies_new hrow hnewId hasc hclock happlies
          have hasc₁ : Ascending t₁.rows := by
            rw [ht₁]
            exact Memory.ascending_setRow hasc key stored
          have hnew₁ : ∀ id' ∈ ids, ∀ e ∈ t₁.rows,
              textAt e.2 "uid" ≠ some id' := by
            intro id' hid' e he
            rw [ht₁] at he
            rcases (Memory.mem_setRow hasc).1 he with rfl | ⟨he, -⟩
            · rw [hheld.kept.id]
              exact fun heq => hid (Option.some.inj heq ▸ hid')
            · exact hnew id' hid' e he
          obtain ⟨rfl, hasc', hheld', haccepts', hkeeps⟩ :=
            ih hdistinct hnew₁ hasc₁ (hclock.congr happlies.instants) hs
          refine ⟨rfl, hasc',
            List.forall_mem_cons.2 ⟨⟨key, stored, hkeeps _ _ _ hid hheld⟩,
              hheld'⟩,
            List.forall_mem_cons.2 ⟨haccepts, haccepts'⟩,
            fun id' key' stored' hother hheld₀ => ?_⟩
          obtain ⟨hne, hother⟩ := not_or.1 (mt List.mem_cons.2 hother)
          refine hkeeps _ _ _ hother ?_
          rw [ht₁]
          refine hheld₀.setRow hasc ?_ (Int.le_of_lt (Int.lt_succ _)) ?_
          · rw [hkey]
            exact Int.ne_of_lt hheld₀.below
          · rw [hheld.kept.id]
            exact fun heq => hne (Option.some.inj heq).symm

/-- Rows that are all held on to are written again, and no row is new. -/
theorem appliesAll_held (hcarries : List.Forall₂ Row.Carries rows ids)
    (hdistinct : ids.Nodup)
    (haccepts : ∀ row ∈ rows, Accepts .default row.written)
    (hasc : Ascending t.rows)
    (hheld : ∀ id ∈ ids, ∃ key stored, Held t id key stored) (u : Supply) :
    ∃ t' u',
      AppliesAll general (generalPlan name) rows t u (ids.map .updated) t' u' ∧
      t'.rows.length = t.rows.length := by
  induction hcarries generalizing t u with
  | nil => exact ⟨t, u, .nil, rfl⟩
  | @cons row id rows ids hrow _ ih =>
      obtain ⟨hid, hdistinct⟩ := List.nodup_cons.1 hdistinct
      obtain ⟨hacceptsRow, haccepts⟩ := List.forall_mem_cons.1 haccepts
      obtain ⟨⟨key, stored, hheldId⟩, hheld⟩ := List.forall_mem_cons.1 hheld
      obtain ⟨stored', hstored', happlies⟩ :=
        applies_held hrow hacceptsRow hasc hheldId u
      have hheld₁ : ∀ id' ∈ ids, ∃ key' stored'',
          Held { t with rows := Table.setRow key stored' t.rows } id' key'
            stored'' := by
        intro id' hid'
        obtain ⟨key', stored'', hother⟩ := hheld id' hid'
        have hne : id' ≠ id := fun heq => hid (heq ▸ hid')
        refine ⟨key', stored'',
          hother.setRow hasc (hother.key_ne hasc hheldId hne)
            (Int.le_refl _) ?_⟩
        rw [hstored']
        exact fun heq => hne (Option.some.inj heq).symm
      obtain ⟨t', u', hall, hlength⟩ :=
        ih hdistinct haccepts (Memory.ascending_setRow hasc key stored')
          hheld₁ u.now.2
      exact ⟨t', u', .cons happlies hall,
        hlength.trans (Memory.length_setRow_of_mem hasc hheldId.mem stored')⟩

end Files

theorem ofEntries_inserted (ids : List String) :
    Summary.ofEntries (ids.map .inserted) = ⟨ids, [], [], ids.length⟩ := by
  simp [Summary.ofEntries, List.filterMap_map, Function.comp_def,
    Entry.inserted?, Entry.updated?, Entry.skipped?]

theorem ofEntries_updated (ids : List String) :
    Summary.ofEntries (ids.map .updated) = ⟨[], ids, [], ids.length⟩ := by
  simp [Summary.ofEntries, List.filterMap_map, Function.comp_def,
    Entry.inserted?, Entry.updated?, Entry.skipped?]

/-! ## Two requests to import -/

theorem carries_of_ids {rows : List Row} {ids : List String}
    (hids : rows.map (·.id? "uid") = ids.map some)
    (hnodup : ∀ row ∈ rows, row.values.keys.Nodup)
    (hsole : ∀ row ∈ rows, ∀ header ∈ row.values.keys,
      ¬ "uid.".toList <+: header.toList) :
    List.Forall₂ Row.Carries rows ids := by
  induction rows generalizing ids with
  | nil =>
      rw [List.map_nil, eq_comm, List.map_eq_nil_iff] at hids
      rw [hids]
      exact .nil
  | cons row rows ih =>
      rw [List.map_cons, eq_comm, List.map_eq_cons_iff] at hids
      obtain ⟨id, rest, rfl, hid, hrest⟩ := hids
      obtain ⟨hnodupRow, hnodup⟩ := List.forall_mem_cons.1 hnodup
      obtain ⟨hsoleRow, hsole⟩ := List.forall_mem_cons.1 hsole
      exact .cons ⟨hid.symm, hnodupRow, hsoleRow⟩ (ih hrest.symm hnodup hsole)

theorem forall₂_under {rows : List Row} {ids : List String}
    (h : List.Forall₂ Row.Carries rows ids) (importId : String) :
    List.Forall₂ Row.Carries (rows.map (Row.under importId)) ids :=
  List.forall₂_map_left_iff.2 (h.imp fun _ _ hrow => hrow.under importId)

end Import

namespace Service

open Import (Row Veto Summary general validateCsv)
open Memory (Store Table Tables Work Ascending textAt)

variable {κ : Type} {svc : Service Tables Work κ} {ctx : RequestContext}
  {table : String} {name : TableName} {w w' : World (ServiceState Tables κ)}
  {bytes : List UInt8} {rules : FieldRules} {outcome : ImportOutcome}

/-- A file whose rows carry identifiers that the table does not have, each
another, is imported by inserting all of them in order, if it can be imported at
all. Imported again it updates them in the same order, and no rows are added. -/
theorem reimport_updates_what_import_inserted
    (hs : svc.repository = general.repository) (hveto : svc.veto = Veto.never)
    (hname : svc.tableName ctx table = .ok name) (hclock : w.supply.Dated)
    (hasc : Ascending (opened w name).rows) {rows : List Row}
    {importId : String} {ids : List String}
    (hread : validateCsv ⟨rules, svc.config.importLimit⟩ importId bytes =
      .ok rows)
    (hids : rows.map (·.id? "uid") = ids.map some) (hdistinct : ids.Nodup)
    (hnew : ∀ id ∈ ids, ∀ e ∈ (opened w name).rows, textAt e.2 "uid" ≠ some id)
    (hsole : ∀ row ∈ rows, ∀ header ∈ row.values.keys,
      ¬ "uid.".toList <+: header.toList)
    (h : (svc.importCsv ctx table bytes rules).runIn w = (.ok outcome, w')) :
    outcome.summary = ⟨ids, [], [], ids.length⟩ ∧
      ∃ again w'',
        (svc.importCsv ctx table bytes rules).runIn w' = (.ok again, w'') ∧
        again.summary = ⟨[], ids, [], ids.length⟩ ∧
        (opened w'' name).rows.length = (opened w' name).rows.length := by
  have hplan : svc.importPlan name = Import.generalPlan name := by
    rw [importPlan, hs, hveto]
    rfl
  obtain ⟨hnodup, hunder⟩ := Import.validateCsv_under hread
  have hcarries := Import.carries_of_ids hids hnodup hsole
  have hclock' : w.supply.fresh.2.Dated := hclock
  -- The first import.
  obtain ⟨read, entries, t₁, u₁, hfirst, hall, hsummary, hopened⟩ :=
    of_importCsv_runIn hs hname h
  obtain rfl := Except.ok.inj ((hunder _).symm.trans hfirst)
  rw [hplan] at hall
  obtain ⟨rfl, hasc₁, hheld, haccepts, -⟩ :=
    Import.appliesAll_new (Import.forall₂_under hcarries _) hdistinct hnew hasc
      hclock' hall
  -- The second reads the same rows for another import.
  have haccepts' : ∀ row ∈ rows.map (Row.under w'.supply.fresh.1),
      Memory.Accepts .default row.written :=
    List.forall_mem_map.2 fun row hrow =>
      haccepts _ (List.mem_map_of_mem hrow) _
  obtain ⟨t₂, u₂, hagain, hlength⟩ :=
    Import.appliesAll_held (Import.forall₂_under hcarries _)
      hdistinct haccepts' hasc₁ hheld w'.supply.fresh.2
  rw [← hplan, ← hopened] at hagain
  obtain ⟨w'', hrun, hafter⟩ := importCsv_runIn hs hname (hunder _) hagain
  refine ⟨hsummary.trans (Import.ofEntries_inserted ids), _, w'', hrun,
    Import.ofEntries_updated ids, ?_⟩
  rw [opened_of_lookup hafter, hlength, hopened]

/-- Two orders under numbers, with a path into a document. -/
def twoOrders : List UInt8 :=
  Text.encodeUtf8 (Csv.write [["uid", "data.size"], ["7", "3"], ["12", "5"]])

def twoRows (importId : String) : List Row :=
  [⟨1, [("uid", .int 7), ("data.size", .int 3)], importId⟩,
    ⟨2, [("uid", .int 12), ("data.size", .int 5)], importId⟩]

theorem read_twoOrders (importId : String) :
    validateCsv ⟨.empty, 9999⟩ importId twoOrders = .ok (twoRows importId) := by
  have hread : ∀ n : Int, Number.isInt64 n = true →
      Import.readCell (toString n) = .int n :=
    fun n => Import.readCell_toString
  have h7 : Import.readCell "7" = .int 7 := hread 7 (by decide)
  have h3 : Import.readCell "3" = .int 3 := hread 3 (by decide)
  have h12 : Import.readCell "12" = .int 12 := hread 12 (by decide)
  have h5 : Import.readCell "5" = .int 5 := hread 5 (by decide)
  have htrim : ["uid", "data.size"].map Text.trim = ["uid", "data.size"] := by
    decide
  have hmark : ∀ c ∈ "uid".toList.head?, c ≠ '\uFEFF' := fun c hc => by
    rw [← Option.some.inj hc]
    decide
  rw [twoOrders,
    Import.validateCsv_write importId "uid" ["data.size"] hmark (by simp)
      (by decide), htrim]
  simp only [List.zipIdx_cons, List.zipIdx_nil, List.map_cons, List.map_nil,
    List.zip_cons_cons, List.zip_nil_left, Import.valuesOf, h7, h3, h12, h5]
  rfl

def ofRecords : Service Tables Work (List Audit.Event) :=
  { ofShortIds with repository := general.repository }

theorem ofRecords_tableName :
    ofRecords.tableName (.of "POST" "/") "orders" = .ok Store.ordersOfAcme :=
  ofShortIds_tableName

/-- Two orders are inserted, and the same file updates both. -/
theorem two_orders_are_updated :
    let request :=
      ofRecords.importCsv (.of "POST" "/") "orders" twoOrders .empty
    ∃ outcome w' again w'',
      request.runIn ⟨⟨[], []⟩, Store.stillSupply⟩ = (.ok outcome, w') ∧
      outcome.summary = ⟨["7", "12"], [], [], 2⟩ ∧
      request.runIn w' = (.ok again, w'') ∧
      again.summary = ⟨[], ["7", "12"], [], 2⟩ ∧
      (opened w'' Store.ordersOfAcme).rows.length =
        (opened w' Store.ordersOfAcme).rows.length := by
  intro request
  let w : World (ServiceState Tables (List Audit.Event)) :=
    ⟨⟨[], []⟩, Store.stillSupply⟩
  have hread := read_twoOrders w.supply.fresh.1
  rcases hrun : ((ofRecords.importPlan Store.ordersOfAcme).reconcile
      (twoRows w.supply.fresh.1)).runIn
    ⟨⟨[("acme$orders", .empty)], []⟩, w.supply.fresh.2⟩ with ⟨answer, inner⟩
  have hanswer : answer.toOption.isSome = true := by
    have h : (((ofRecords.importPlan Store.ordersOfAcme).reconcile
        (twoRows w.supply.fresh.1)).runIn
      ⟨⟨[("acme$orders", .empty)], []⟩, w.supply.fresh.2⟩).1.toOption.isSome =
        true := by
      decide +kernel
    rwa [hrun] at h
  cases answer with
  | error e => cases hanswer
  | ok summary =>
      have hphysical : "acme$orders" = Store.ordersOfAcme.physical := by decide
      have htable :
          List.lookup (ofRecords.importPlan Store.ordersOfAcme).table.physical
          [("acme$orders", Table.empty)] = some .empty := by
        show List.lookup Store.ordersOfAcme.physical _ = _
        rw [← hphysical, List.lookup_cons_self]
      obtain ⟨entries, t', u', hall⟩ :=
        Import.appliesAll_of_reconcile rfl htable hrun
      obtain ⟨w', hfirst, -⟩ :=
        importCsv_runIn rfl ofRecords_tableName (w := w) hread hall
      have hproper : (⟨0, 0⟩ : Time.Instant).Proper := ⟨by decide, by decide⟩
      have hyear : 0 ≤ (⟨0, 0⟩ : Time.Instant).date.year ∧
          (⟨0, 0⟩ : Time.Instant).date.year ≤ 9999 := by decide
      have hclock : w.supply.Dated := fun _ => ⟨hproper, hyear⟩
      have hopened : opened w Store.ordersOfAcme = .empty := rfl
      have hasc : Ascending (opened w Store.ordersOfAcme).rows := by
        rw [hopened]
        exact List.Pairwise.nil
      have hnew : ∀ id ∈ ["7", "12"], ∀ e ∈ (opened w Store.ordersOfAcme).rows,
          textAt e.2 "uid" ≠ some id := by
        rw [hopened]
        exact fun _ _ _ he => absurd he List.not_mem_nil
      have hids : (twoRows w.supply.fresh.1).map (·.id? "uid") =
          ["7", "12"].map some := by
        decide +kernel
      have hdots : ∀ row ∈ twoRows w.supply.fresh.1, ∀ header ∈ row.values.keys,
          ¬ "uid.".toList <+: header.toList := by decide +kernel
      obtain ⟨hsummary, again, w'', hagain, hsummary', hrows⟩ :=
        reimport_updates_what_import_inserted rfl rfl ofRecords_tableName hclock
          hasc hread hids (by decide) hnew hdots hfirst
      exact ⟨_, w', again, w'', hfirst, hsummary, hagain, hsummary', hrows⟩

end Service

end TenantTables
