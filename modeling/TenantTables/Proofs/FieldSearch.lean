import TenantTables.Proofs.BulkDeletion
import TenantTables.Proofs.OppositeClauses
import TenantTables.Proofs.WrittenAttributes

/-!
# Finding and filtering

A record is found by the text of a field, and records are selected by a filter
that asks for the same text. One walks the rows as they are stored, the other
makes objects of them, with the surrogate key in front. Below the key there is
nothing, so a field that leads through it has no value in either, and every
other field has the same one: what is found is the first of what is selected.

The key itself is a field that only the objects have. A filter asks for it and
gets the record; finding by it finds nothing.
-/

namespace TenantTables

open Json (Value Object)

namespace Query

/-- The text of a row's value in a column whose name may have dots, unless it is
null or missing. -/
def fieldText? (row : Object) (column : String) : Option String :=
  (lookup row column).bind Value.toText?

/-- The filter that asks for one text in one column. -/
def Filter.asking (column text : String) (combinator : Combinator) : Filter :=
  ⟨[[⟨column, .oneOf, .list [text], false, combinator⟩]]⟩

variable {column text : String} {combinator : Combinator}

theorem holds_asking (row : Object) :
    (Filter.asking column text combinator).holds row =
      (fieldText? row column == some text) := by
  simp only [Filter.holds, Filter.asking, List.all_cons, List.all_nil,
    List.any_cons, List.any_nil, Bool.or_false, Bool.and_true]
  rw [Clause.holds_eq, Clause.truth?_of_ne_isNull (by simp), present?,
    fieldText?]
  cases lookup row column with
  | none => rfl
  | some v =>
      cases v with
      | null => rfl
      | bool _ | int _ | float _ | str _ | arr _ | obj _ =>
          simp [Value.isNull, Clause.evaluate, Value.toText?, Operand.values,
            Option.filter, beq_eq_decide]

/-- A filter on a column that is known asks for all it says. -/
theorem knownFilter_asking {spec : TableSpec}
    (h : (spec.columnRef? column).isSome = true) :
    Memory.knownFilter spec (.asking column text combinator) =
      .asking column text combinator := by
  simp [Memory.knownFilter, Filter.keep, Filter.asking, h]

end Query

namespace Memory

open Query (Filter Combinator SortTerm fieldText?)

variable {attributes : Object} {field text : String}

/-! ## The key in front of a row -/

theorem storedRow_eq_cons (hid : idColumn ∉ attributes.keys)
    (hnodup : attributes.keys.Nodup) (id : Int) :
    storedRow id attributes = (idColumn, .int id) :: attributes := by
  rw [storedRow_eq, Record.withoutId_eq_self hid, Object.ofFields,
    Object.insertAll_of_nodup (o := []) hnodup]
  rfl

theorem split_idColumn : Text.split '.' idColumn = [idColumn] := by
  decide

/-- The key is in none of the rows as they are stored. -/
theorem fieldText?_idColumn (hid : idColumn ∉ attributes.keys) :
    fieldText? attributes idColumn = none := by
  simp [fieldText?, Query.lookup, Query.descend, split_idColumn,
    Object.get?_eq_none_iff.2 hid]

theorem fieldText?_cons_idColumn (id : Int) (attributes : Object) :
    fieldText? ((idColumn, .int id) :: attributes) idColumn =
      some (toString id) := by
  rw [fieldText?, Query.lookup, Object.get?, List.lookup_cons_self]
  rfl

/-- With the key in front of a row no other field has another value. -/
theorem fieldText?_cons_of_ne (hid : idColumn ∉ attributes.keys)
    (hfield : field ≠ idColumn) (id : Int) :
    fieldText? ((idColumn, .int id) :: attributes) field =
      fieldText? attributes field := by
  have hget : ∀ key, key ≠ idColumn →
      Object.get? ((idColumn, .int id) :: attributes) key =
        attributes.get? key := by
    intro key hkey
    rw [Object.get?, List.lookup_cons, beq_false_of_ne hkey]
    rfl
  rw [fieldText?, fieldText?, Query.lookup, Query.lookup, hget field hfield]
  cases attributes.get? field with
  | some v => rfl
  | none =>
      obtain ⟨head, path, hsplit⟩ :=
        List.exists_cons_of_ne_nil (Text.split_ne_nil '.' field)
      dsimp only
      rw [hsplit]
      by_cases hhead : head = idColumn
      · -- There is nothing below the key: what goes through it ends there.
        subst hhead
        cases path with
        | nil =>
            exact absurd
              (Text.split_injective '.'
                (hsplit.trans split_idColumn.symm)) hfield
        | cons next path =>
            simp only [Query.descend, Object.get?_eq_none_iff.2 hid]
            rw [Object.get?, List.lookup_cons_self]
            rfl
      · simp only [Query.descend, hget head hhead]

/-- A selected row becomes the record of the row that it was made of. -/
theorem recordOfRow?_eq_ofStored (hid : idColumn ∉ attributes.keys)
    (hnodup : attributes.keys.Nodup) {id : Int}
    (hkey : Number.isInt64 id = true) :
    recordOfRow? (storedRow id attributes) =
      some (.ofStored id attributes) := by
  have hrest : Record.withoutId ((idColumn, .int id) :: attributes) =
      Record.withoutId attributes :=
    List.filter_cons_of_neg (by simp)
  rw [storedRow_eq_cons hid hnodup, recordOfRow?, Object.get?,
    List.lookup_cons_self, Option.bind_some, ColumnType.int64?_of_isInt64 hkey,
    Option.map_some, Record.ofStored, hrest]
  rfl

/-! ## What is found and what is selected -/

/-- What is found is the record with the lowest surrogate key, and nothing is
found only if there are no records. -/
structure FirstOf (found : Option Record) (records : List Record) : Prop where
  none_iff : found = none ↔ records = []
  lowest : ∀ r ∈ found, r ∈ records ∧
    ∀ other ∈ records, ∃ id otherId, r.id = some id ∧ other.id = some otherId ∧
    id ≤ otherId

theorem firstOf_none_iff {records : List Record} :
    FirstOf none records ↔ records = [] :=
  ⟨fun h => h.none_iff.1 rfl, fun h => ⟨iff_of_true rfl h, by simp⟩⟩

/-- The first of rows in the order of their keys has the lowest. -/
theorem firstOf_head? {rows : List (Int × Object)} (h : Ascending rows) :
    FirstOf (rows.head?.map fun e => .ofStored e.1 e.2)
      (rows.map fun e => .ofStored e.1 e.2) := by
  cases rows with
  | nil => exact ⟨by simp, by simp⟩
  | cons e rows =>
      refine ⟨by simp, fun r hr => ?_⟩
      obtain rfl := Option.some.inj hr
      refine ⟨List.mem_cons_self, List.forall_mem_map.2 fun other hother => ?_⟩
      refine ⟨e.1, other.1, rfl, rfl, ?_⟩
      rcases List.mem_cons.1 hother with rfl | hrest
      · exact le_rfl
      · exact le_of_lt ((List.pairwise_cons.1 h).1 other hrest)

theorem findIn_eq_head? (t : Table) (field text : String) :
    findIn t field text =
      (t.rows.filter fun e => fieldText? e.2 field == some text).head?.map
        fun e => .ofStored e.1 e.2 := by
  rw [List.head?_filter]
  rfl

section Rows

variable {s : Store} {t : Table} {combinator : Combinator}

/-- Without a sort the selected rows come out as they are stored, in the
order of their keys. -/
theorem selectAll_runIn_unsorted {name : TableName} {w : World Tables}
    (ht : w.state.lookup name.physical = some t)
    (hrows : ∀ e ∈ t.rows, HasLayout s.spec e.2)
    (hkeys : ∀ e ∈ t.rows, Number.isInt64 e.1 = true) (f : Filter) :
    (s.repository.selectAll name f []).runIn w =
      (.ok ((s.selectedRows f t).map fun e => .ofStored e.1 e.2), w) := by
  rw [Store.selectAll_runIn_of_some ht (matchingRows_nil ..),
    s.selectedObjects_eq, List.filterMap_map, ← List.filterMap_eq_map]
  congr 2
  refine List.filterMap_congr fun e he => ?_
  have hmem := (List.mem_filter.1 he).1
  exact recordOfRow?_eq_ofStored (hrows e hmem).id_not_mem (hrows e hmem).nodup
    (hkeys e hmem)

theorem selectedRows_asking (hrows : ∀ e ∈ t.rows, HasLayout s.spec e.2)
    (hfield : (s.spec.columnRef? field).isSome = true) :
    s.selectedRows (.asking field text combinator) t = t.rows.filter fun e =>
      fieldText? ((idColumn, .int e.1) :: e.2) field == some text := by
  rw [Store.selectedRows, Query.knownFilter_asking hfield]
  refine List.filter_congr fun e he => ?_
  rw [Query.holds_asking,
    storedRow_eq_cons (hrows e he).id_not_mem (hrows e he).nodup]

/-- Finding by the key finds nothing. -/
theorem findIn_idColumn (hrows : ∀ e ∈ t.rows, HasLayout s.spec e.2)
    (text : String) :
    findIn t idColumn text = none := by
  rw [findIn, Option.map_eq_none_iff, List.find?_eq_none]
  intro e he
  have hnone := fieldText?_idColumn (hrows e he).id_not_mem
  rw [fieldText?] at hnone
  simp [hnone]

/-- Rows are selected by the text of their key. -/
theorem selectedRows_idColumn_eq_nil_iff
    (hrows : ∀ e ∈ t.rows, HasLayout s.spec e.2)
    (hfield : (s.spec.columnRef? idColumn).isSome = true) :
    s.selectedRows (.asking idColumn text combinator) t = [] ↔
      ∀ e ∈ t.rows, toString e.1 ≠ text := by
  rw [selectedRows_asking hrows hfield, List.filter_eq_nil_iff]
  simp only [fieldText?_cons_idColumn, beq_iff_eq, Option.some.injEq, ne_eq]

/-- By a field other than the key the first of the selected rows is found. -/
theorem findIn_of_ne (hrows : ∀ e ∈ t.rows, HasLayout s.spec e.2)
    (hfield : (s.spec.columnRef? field).isSome = true)
    (hne : field ≠ idColumn) :
    findIn t field text =
      (s.selectedRows (.asking field text combinator) t).head?.map fun e =>
        .ofStored e.1 e.2 := by
  rw [findIn_eq_head?, selectedRows_asking hrows hfield]
  congr 2
  refine List.filter_congr fun e he => ?_
  rw [fieldText?_cons_of_ne (hrows e he).id_not_mem hne]

end Rows

namespace Store

variable {s : Store} {name : TableName} {w : World Tables} {t : Table}

theorem find_runIn_repository (h : w.state.lookup name.physical = some t)
    (field text : String) :
    (s.repository.find name field text).runIn w =
      (.ok (findIn t field text), w) :=
  Action.runIn_bind_ok (tableIn_runIn h)

/-- Finding by a column or a path into a document, and selecting what has the
same text there, both succeed in every store that can come about. What is found
is the first of what is selected by every field but the surrogate key: by that
nothing is found, and the two agree only where no row is selected. -/
theorem finding_is_first_of_filtering_iff (hreach : s.Reachable w.state)
    (ht : w.state.lookup name.physical = some t)
    (hkeys : ∀ e ∈ t.rows, Number.isInt64 e.1 = true)
    (hfield : (s.spec.columnRef? field).isSome = true) (text : String)
    (combinator : Combinator) :
    ∃ (found : Option Record) (records : List Record),
      (s.repository.find name field text).runIn w = (.ok found, w) ∧
      (s.repository.selectAll name (.asking field text combinator) []).runIn w =
        (.ok records, w) ∧
      (field = idColumn → found = none) ∧
      (FirstOf found records ↔
        (field = idColumn → ∀ e ∈ t.rows, toString e.1 ≠ text)) := by
  have hwf := hreach.sound _ t ht
  have hrows : ∀ e ∈ t.rows, HasLayout s.spec e.2 := fun e he =>
    (hwf.rows_meet e he).layout
  refine ⟨_, _, find_runIn_repository ht field text,
    selectAll_runIn_unsorted ht hrows hkeys _, ?_, ?_⟩
  · rintro rfl
    exact findIn_idColumn hrows text
  · by_cases hid : field = idColumn
    · subst hid
      rw [findIn_idColumn hrows, firstOf_none_iff, List.map_eq_nil_iff,
        selectedRows_idColumn_eq_nil_iff hrows hfield]
      exact (imp_iff_right rfl).symm
    · have hascending :
          Ascending (s.selectedRows (.asking field text combinator) t) :=
        hwf.ascending.sublist List.filter_sublist
      refine iff_of_true ?_ fun heq => absurd heq hid
      rw [findIn_of_ne hrows hfield hid]
      exact firstOf_head? hascending

/-- A store whose rows have a document. -/
def withData : Store :=
  ⟨(TableSpec.bare "uid").withColumn { name := "data", type := .json }, []⟩

/-- Of two orders of one size the one with the lower key is found. -/
theorem lower_key_of_one_size_is_found :
    ∃ (w : World Tables) (t : Table) (found : Option Record)
        (records : List Record),
      withData.Reachable w.state ∧
      w.state.lookup ordersOfAcme.physical = some t ∧
      (∀ e ∈ t.rows, Number.isInt64 e.1 = true) ∧
      (withData.spec.columnRef? "data.size").isSome = true ∧
      (withData.repository.find ordersOfAcme "data.size" "7").runIn w =
        (.ok found, w) ∧
      (withData.repository.selectAll ordersOfAcme
        (.asking "data.size" "7" .and) []).runIn w = (.ok records, w) ∧
      found.map (·.id) = some (some 2) ∧
      records.map (·.id) = [some 2, some 3] ∧ FirstOf found records := by
  obtain ⟨w, hreach, hkeys, hfound, hrecords⟩ : ∃ w : World Tables,
      withData.Reachable w.state ∧
      (w.state.lookup ordersOfAcme.physical).map
        (fun t => t.rows.map (·.1)) = some [1, 2, 3] ∧
      ((withData.repository.find ordersOfAcme "data.size" "7").runIn
        w).1.toOption.map (·.map (·.id)) = some (some (some 2)) ∧
      ((withData.repository.selectAll ordersOfAcme
        (.asking "data.size" "7" .and) []).runIn w).1.toOption.map
          (·.map (·.id)) = some [some 2, some 3] :=
    ⟨⟨withData.storing
        [[("uid", .str "a"), ("data", .obj [("size", .int 4)])],
          [("uid", .str "b"), ("data", .obj [("size", .int 7)])],
          [("uid", .str "c"), ("data", .obj [("size", .str "7")])]],
        stillSupply⟩,
      withData.reachable_storing _, by decide +kernel, by decide +kernel,
      by decide +kernel⟩
  obtain ⟨t, ht, hids⟩ := Option.map_eq_some_iff.1 hkeys
  have hint : ∀ e ∈ t.rows, Number.isInt64 e.1 = true := by
    intro e he
    have hkey : e.1 ∈ [1, 2, 3] := hids ▸ List.mem_map_of_mem he
    have hall : ∀ key ∈ [1, 2, 3], Number.isInt64 key = true := by decide
    exact hall e.1 hkey
  have hfield : (withData.spec.columnRef? "data.size").isSome = true := by
    decide
  obtain ⟨found, records, hfind, hselect, -, hfirst⟩ :=
    finding_is_first_of_filtering_iff hreach ht hint hfield "7" .and
  rw [hfind] at hfound
  rw [hselect] at hrecords
  exact ⟨w, t, found, records, hreach, ht, hint, hfield, hfind, hselect,
    Option.some.inj hfound, Option.some.inj hrecords,
    hfirst.2 fun heq => absurd heq (by decide)⟩

/-- The only order has the key 1. A filter on the key selects it, and finding by
the key finds nothing. -/
theorem order_is_not_found_by_its_key :
    ∃ (w : World Tables) (r : Record), shortIds.Reachable w.state ∧
      (shortIds.spec.columnRef? "id").isSome = true ∧
      (shortIds.repository.find ordersOfAcme "id" "1").runIn w = (.ok none, w) ∧
      (shortIds.repository.selectAll ordersOfAcme (.asking "id" "1" .and)
        []).runIn w =
        (.ok [r], w) ∧
      r.id = some 1 ∧ r.uid? "uid" = some "a" ∧ ¬ FirstOf none [r] := by
  obtain ⟨w, t, hreach, ht, hfound, hrecords⟩ :
      ∃ (w : World Tables) (t : Table), shortIds.Reachable w.state ∧
        w.state.lookup ordersOfAcme.physical = some t ∧
        (findIn t "id" "1").isNone = true ∧
        ((selectedObjects shortIds.spec t (.asking "id" "1" .and)).filterMap
          recordOfRow?).map (fun r => (r.id, r.uid? "uid")) =
            [(some 1, some "a")] :=
    ⟨⟨shortIds.storing [[("uid", .str "a")]], stillSupply⟩, _,
      shortIds.reachable_storing _, rfl, by decide +kernel, by decide +kernel⟩
  obtain ⟨r, hr, hvalues⟩ := List.map_eq_singleton_iff.1 hrecords
  rw [Prod.mk.injEq] at hvalues
  refine ⟨w, r, hreach, rfl, ?_, ?_, hvalues.1, hvalues.2, ?_⟩
  · rw [find_runIn_repository ht, Option.isNone_iff_eq_none.1 hfound]
  · rw [selectAll_runIn_of_some ht (matchingRows_nil ..), hr]
  · rw [firstOf_none_iff]
    exact List.cons_ne_nil r []

end Store

end Memory

end TenantTables
