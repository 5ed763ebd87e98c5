import TenantTables.Proofs.CellReading
import TenantTables.Proofs.CheckedRows
import TenantTables.Proofs.CsvReading
import TenantTables.Proofs.DocumentReading

/-!
# An export is undone by an import

Where all records have the same flat keys, the headings of their export are the
keys of the first, and every record has a cell under each heading. The file is
read back record by record, headings are their own trims, and each cell is read
as the value that it was written from. So a row has the fields of the flat
record, in the order of the headings, and nests to the document of the record.
-/

namespace TenantTables

open Json (Value Object)

/-! ## Headings -/

theorem foldl_distinct_of_nodup {seen names : List String}
    (h : (seen ++ names).Nodup) :
    names.foldl
        (fun seen name => if seen.contains name then seen else seen ++ [name])
        seen =
      seen ++ names := by
  induction names generalizing seen with
  | nil => exact (List.append_nil seen).symm
  | cons name names ih =>
      have hnew : name ∉ seen := fun hmem =>
        (List.nodup_append.1 h).2.2 name hmem name List.mem_cons_self rfl
      rw [List.foldl_cons, if_neg (mt List.contains_iff_mem.1 hnew),
        ih (by simpa using h), List.append_assoc, List.singleton_append]

theorem foldl_distinct_of_subset {seen names : List String}
    (h : ∀ name ∈ names, name ∈ seen) :
    names.foldl
        (fun seen name => if seen.contains name then seen else seen ++ [name])
        seen =
      seen := by
  induction names with
  | nil => rfl
  | cons name names ih =>
      have hname := List.contains_iff_mem.2 (h name List.mem_cons_self)
      rw [List.foldl_cons, if_pos hname]
      exact ih fun n hn => h n (List.mem_cons_of_mem _ hn)

/-- Names that come first, and others that repeat them. -/
theorem distinct_append {names more : List String} (h : names.Nodup)
    (hmore : ∀ name ∈ more, name ∈ names) :
    distinct (names ++ more) = names := by
  have hnames : distinct names = names := foldl_distinct_of_nodup h
  rw [distinct, List.foldl_append, ← distinct, hnames]
  exact foldl_distinct_of_subset hmore

namespace Record

def flatKeys (r : Record) : List String :=
  Object.keys (Path.flatten r.toObject)

/-- A record that an import reads as it was exported. -/
structure Exportable (r : Record) : Prop where
  /-- No key has a dot. -/
  dotFree : r.toJson.DotFree
  trimmed : ∀ path ∈ r.flatKeys, Text.trim path = path
  cells : ∀ f ∈ Path.flatten r.toObject, Import.IsCell f.2

theorem nodup_flatKeys (r : Record) : r.flatKeys.Nodup :=
  Object.nodup_keys_ofFields _

/-- The surrogate key comes first in the object of a record. -/
theorem toObject_eq (r : Record) :
    ∃ v rest, r.toObject = (idColumn, v) :: rest := by
  have hkeep : ∀ (fields : Object) v rest, ∃ v' rest',
      Object.insertAll ((idColumn, v) :: rest) fields =
        (idColumn, v') :: rest' := by
    intro fields
    induction fields with
    | nil => exact fun v rest => ⟨v, rest, rfl⟩
    | cons f fields ih =>
        intro v rest
        rw [Object.insertAll_cons, Object.insert]
        split
        · exact ih _ _
        · exact ih _ _
  exact hkeep r.attributes _ []

theorem first_flatKey {r : Record} (h : r.Exportable) :
    ∃ path rest, r.flatKeys = path :: rest ∧ path.toList.head? = some 'i' := by
  obtain ⟨v, rest, hobject⟩ := r.toObject_eq
  obtain ⟨f, more, hleaves⟩ :=
    List.exists_cons_of_ne_nil (Path.leaves_ne_nil idColumn v)
  obtain ⟨behind, hbehind⟩ : idColumn.toList <+: f.1.toList :=
    Path.isPrefix_of_mem_leaves (hleaves ▸ List.mem_cons_self)
  rw [flatKeys, Path.flatten_of_dotFree h.dotFree, hobject,
    Path.leavesOf_empty_cons, hleaves]
  exact ⟨f.1, _, rfl, by rw [← hbehind]; rfl⟩

/-- The flat record, in the order of headings. -/
def flatRow (r : Record) (headings : List String) : Object :=
  headings.map fun heading =>
    (heading, ((Path.flatten r.toObject).get? heading).getD .null)

theorem keys_flatRow (r : Record) (headings : List String) :
    (r.flatRow headings).keys = headings := by
  rw [flatRow, Object.keys, List.map_map]
  exact List.map_id headings

theorem perm_flatRow {r : Record} {headings : List String}
    (hnodup : headings.Nodup) (h : ∀ key, key ∈ headings ↔ key ∈ r.flatKeys) :
    (r.flatRow headings).Perm (Path.flatten r.toObject) := by
  have hperm : headings.Perm (Object.keys (Path.flatten r.toObject)) :=
    (List.perm_ext_iff_of_nodup hnodup r.nodup_flatKeys).2 h
  refine (hperm.map _).trans (.of_eq ?_)
  rw [Object.keys, List.map_map]
  refine (List.map_congr_left fun f hf => ?_).trans (List.map_id _)
  rw [Function.comp_apply, Object.get?_of_mem r.nodup_flatKeys hf]
  rfl

end Record

/-- The headings of records that have no other keys than the first. -/
theorem exportHeadings_cons {r : Record} {records : List Record}
    (h : ∀ other ∈ records, ∀ key ∈ other.flatKeys, key ∈ r.flatKeys) :
    exportHeadings (r :: records) = r.flatKeys := by
  rw [exportHeadings, List.flatMap_cons]
  refine distinct_append r.nodup_flatKeys fun name hname => ?_
  obtain ⟨other, hother, hkey⟩ := List.mem_flatMap.1 hname
  exact h other hother name hkey

/-! ## Rows -/

theorem exportRow_eq {r : Record} {headings : List String}
    (h : ∀ heading ∈ headings, heading ∈ r.flatKeys) :
    exportRow headings r = (r.flatRow headings).map fun f =>
      exportCell f.2 := by
  rw [exportRow, Record.flatRow, List.map_map]
  refine List.map_congr_left fun heading hmem => ?_
  obtain ⟨v, hv⟩ := Object.mem_keys_iff.1 (h heading hmem)
  rw [Function.comp_apply, hv, Option.some_or, Option.getD_some]

namespace Import

theorem pairCells_some (headers cells : List String) :
    pairCells headers (some cells) = .ok ((headers.map Text.trim).zip cells) :=
  rfl

/-- A written file without rules, its lines behind the headings
numbered from one. -/
theorem validateCsv_write {limit : Nat} (importId heading : String)
    (headings : List String) {lines : List (List String)}
    (hmark : ∀ c ∈ heading.toList.head?, c ≠ '\uFEFF')
    (hne : ∀ line ∈ lines, line ≠ []) (hlimit : lines.length ≤ limit) :
    validateCsv ⟨.empty, limit⟩ importId
        (Text.encodeUtf8 (Csv.write ((heading :: headings) :: lines))) =
      .ok ((lines.zipIdx 1).map fun (line, i) =>
        ⟨i, valuesOf (((heading :: headings).map Text.trim).zip line),
          importId⟩) := by
  rw [validateCsv, Csv.read_write hmark hne]
  dsimp only
  generalize heading :: headings = headers
  have hpairs : (lines.map some).map (pairCells headers) =
      (lines.map ((headers.map Text.trim).zip ·)).map .ok := by
    rw [List.map_map, List.map_map]
    exact List.map_congr_left fun line _ => pairCells_some headers line
  have hgood :
      AllGood ⟨.empty, limit⟩ 1 (lines.map ((headers.map Text.trim).zip ·)) :=
    allGood_one_iff.2 ⟨by rwa [List.length_map], fun _ _ _ hfield =>
      nomatch hfield⟩
  rw [validate, hpairs, validateFrom_eq_ok_iff.2 ⟨_, rfl, rfl, hgood⟩, rowsOf,
    List.zipIdx_map, List.map_map]
  rfl

/-- Under headings that are trimmed and distinct, cells are read as the fields
that they were written from. -/
theorem valuesOf_zip (fields : Object) (hnodup : fields.keys.Nodup)
    (htrim : ∀ heading ∈ fields.keys, Text.trim heading = heading)
    (hcells : ∀ f ∈ fields, IsCell f.2) :
    valuesOf
      ((fields.keys.map Text.trim).zip (fields.map fun f => exportCell f.2)) =
        fields := by
  have hheadings : fields.keys.map Text.trim = fields.map (·.1) := by
    exact (List.map_congr_left htrim).trans (List.map_id _)
  have hread : valuesOf (fields.map fun f => (f.1, exportCell f.2)) =
      Object.ofFields fields := by
    rw [valuesOf, List.map_map]
    refine congrArg Object.ofFields
      ((List.map_congr_left fun f hf => ?_).trans (List.map_id _))
    obtain ⟨key, v⟩ := f
    have hcell := readCell_exportCell (hcells _ hf)
    simp only [Function.comp_apply, hcell, id_eq]
  rw [hheadings, List.zip_map', hread]
  exact Object.insertAll_of_nodup (o := []) hnodup

theorem IsCell.leaf {v : Value} (h : IsCell v) :
    v.IsLeaf ∧ v.same v = true := by
  obtain ⟨n, rfl, -⟩ | ⟨s, rfl, -⟩ := h <;>
    exact ⟨fun _ _ h => Value.noConfusion h, by simp [Value.same]⟩

end Import

/-! ## The file -/

theorem exportCsv_cons {r : Record} {records : List Record} (hr : r.Exportable)
    (h : ∀ other ∈ records, ∀ key ∈ other.flatKeys, key ∈ r.flatKeys) :
    exportCsv (r :: records) none =
      Csv.write (r.flatKeys :: (r :: records).map (exportRow r.flatKeys)) := by
  obtain ⟨path, rest, hpath, -⟩ := Record.first_flatKey hr
  rw [exportCsv, Option.getD_none, exportHeadings_cons h, hpath,
    List.isEmpty_cons, if_neg Bool.false_ne_true]

/-- The line of a record under the headings of another is read
as its flat row. -/
theorem Record.Exportable.valuesOf_exportRow {first r : Record}
    (hfirst : first.Exportable) (hr : r.Exportable)
    (hkeys : ∀ key, key ∈ first.flatKeys ↔ key ∈ r.flatKeys) :
    Import.valuesOf
      ((first.flatKeys.map Text.trim).zip (exportRow first.flatKeys r)) =
      r.flatRow first.flatKeys := by
  have hperm := Record.perm_flatRow first.nodup_flatKeys hkeys
  have hrow := Import.valuesOf_zip (r.flatRow first.flatKeys)
    (by rw [Record.keys_flatRow]; exact first.nodup_flatKeys)
    (by rw [Record.keys_flatRow]; exact hfirst.trimmed)
    (fun f hf => hr.cells f (hperm.mem_iff.1 hf))
  rwa [Record.keys_flatRow, ← exportRow_eq fun heading hmem =>
    (hkeys heading).1 hmem] at hrow

/-- Records of which all have the same flat keys, and cells that are read as
written, come back from their export: one row for each in order, with the fields
of the flat record and nesting to its document. -/
theorem import_undoes_export {records : List Record} (hne : records ≠ [])
    (hexportable : ∀ r ∈ records, r.Exportable)
    (hkeys : ∀ r ∈ records, ∀ other ∈ records, ∀ key, key ∈ r.flatKeys ↔
      key ∈ other.flatKeys)
    {limit : Nat} (hlimit : records.length ≤ limit) (importId : String) :
    ∃ rows, Import.validateCsv ⟨.empty, limit⟩ importId
        (Text.encodeUtf8 (exportCsv records none)) = .ok rows ∧
      rows.length = records.length ∧
      ∀ i r, records[i]? = some r → ∃ row,
        rows[i]? = some row ∧ row.number = i + 1 ∧
        row.values.Perm (Path.flatten r.toObject) ∧
        (Value.obj (Path.undot row.values)).same r.toJson = true := by
  obtain ⟨first, others, rfl⟩ := List.exists_cons_of_ne_nil hne
  have hfirst := hexportable first List.mem_cons_self
  obtain ⟨path, rest, hpath, hhead⟩ := Record.first_flatKey hfirst
  have hmember : ∀ r ∈ first :: others, ∀ key, key ∈ first.flatKeys ↔
      key ∈ r.flatKeys :=
    fun r hr => hkeys first List.mem_cons_self r hr
  have hcsv := exportCsv_cons hfirst fun other hother key =>
    (hmember other (List.mem_cons_of_mem _ hother) key).2
  have hlines : ∀ line ∈ (first :: others).map (exportRow first.flatKeys),
      line ≠ [] := by
    refine List.forall_mem_map.2 fun r _ => ?_
    rw [exportRow, hpath]
    exact List.cons_ne_nil _ _
  have hmark : ∀ c ∈ path.toList.head?, c ≠ '\uFEFF' := by
    rw [hhead]
    intro c hc
    rw [← Option.some.inj hc]
    decide
  have hlength :
      ((first :: others).map (exportRow first.flatKeys)).length ≤ limit := by
    rwa [List.length_map]
  have hread := Import.validateCsv_write importId path rest hmark hlines hlength
  rw [← hpath, ← hcsv] at hread
  refine ⟨_, hread, by simp, fun i r hr => ?_⟩
  have hmem := List.mem_of_getElem? hr
  have hr' := hexportable r hmem
  have hperm := Record.perm_flatRow first.nodup_flatKeys (hmember r hmem)
  have hvalues := hfirst.valuesOf_exportRow hr' (hmember r hmem)
  refine ⟨⟨i + 1, r.flatRow first.flatKeys, importId⟩, ?_, rfl, hperm, ?_⟩
  · rw [List.getElem?_map, List.getElem?_zipIdx, List.getElem?_map, hr]
    simp [hvalues, Nat.add_comm]
  · exact Path.same_undot_of_perm hr'.dotFree hperm fun f hf =>
      (hr'.cells f hf).leaf

/-- A part with a comma and quotes in a key, and one whose keys are
in another order. -/
def part (id size : Int) (swapped : Bool) : Record :=
  let name := ("name, \"full\"", Value.str "")
  let data := ("data", Value.obj [("size", .int size)])
  ⟨some id, if swapped then [data, name] else [name, data], [], true⟩

theorem flatten_part (id size : Int) (swapped : Bool) :
    Path.flatten (part id size swapped).toObject = ("id", .int id) ::
      if swapped then [("data.size", .int size), ("name, \"full\"", .str "")]
      else [("name, \"full\"", .str ""), ("data.size", .int size)] := by
  cases swapped <;> rfl

theorem flatKeys_part (id size : Int) (swapped : Bool) :
    (part id size swapped).flatKeys =
      "id" :: if swapped then ["data.size", "name, \"full\""]
        else ["name, \"full\"", "data.size"] := by
  cases swapped <;> rfl

theorem exportable_part {id size : Int} (hid : Number.isInt64 id = true)
    (hsize : Number.isInt64 size = true) (swapped : Bool) :
    (part id size swapped).Exportable where
  dotFree := by
    have hobj : ∀ (keys : List String) {fields : Object}, fields.keys = keys →
        keys.Nodup →
        (∀ key ∈ keys, '.' ∉ key.toList) → (∀ f ∈ fields, f.2.DotFree) →
        (Value.obj fields).DotFree := by
      rintro _ fields rfl hnodup hdot hfields
      exact .obj hnodup (fun f hf => hdot f.1 (List.mem_map_of_mem hf)) hfields
    have hdata : (Value.obj [("size", .int size)]).DotFree :=
      hobj ["size"] rfl (by decide) (by decide) (by simpa using .leaf nofun)
    cases swapped with
    | false =>
      refine hobj ["id", "name, \"full\"", "data"] rfl (by decide)
        (by decide) ?_
      exact List.forall_mem_cons.2 ⟨.leaf nofun,
        List.forall_mem_cons.2 ⟨.leaf nofun, List.forall_mem_singleton.2 hdata⟩⟩
    | true =>
      refine hobj ["id", "data", "name, \"full\""] rfl (by decide)
        (by decide) ?_
      exact List.forall_mem_cons.2 ⟨.leaf nofun, List.forall_mem_cons.2 ⟨hdata,
        List.forall_mem_singleton.2 (.leaf nofun)⟩⟩
  trimmed := by
    rw [flatKeys_part]
    cases swapped <;> decide
  cells := by
    have hname : Import.IsCell (.str "") := .inr ⟨"", rfl, rfl⟩
    rw [flatten_part]
    cases swapped with
    | false => simpa using ⟨.inl ⟨id, rfl, hid⟩, hname, .inl ⟨size, rfl, hsize⟩⟩
    | true => simpa using ⟨.inl ⟨id, rfl, hid⟩, .inl ⟨size, rfl, hsize⟩, hname⟩

/-- The headings are those of the first part, the cells of the
second in that order. -/
theorem two_parts_come_back :
    ∃ rows, Import.validateCsv ⟨.empty, 2⟩ "i-1"
        (Text.encodeUtf8 (exportCsv [part 1 (-3) false, part 2 7 true] none)) =
          .ok rows ∧
      rows.length = 2 ∧
      ∃ row, rows[1]? = some row ∧ row.number = 2 ∧
        row.values.Perm [("id", .int 2), ("data.size", .int 7),
          ("name, \"full\"", .str "")] ∧
        (Value.obj (Path.undot row.values)).same
          (part 2 7 true).toJson = true := by
  obtain ⟨rows, hread, hlength, hrows⟩ := import_undoes_export
    (List.cons_ne_nil (part 1 (-3) false) [part 2 7 true])
    (by simpa using ⟨exportable_part rfl rfl false,
      exportable_part rfl rfl true⟩)
    (by simp [flatKeys_part, or_comm]) (Nat.le_refl 2) "i-1"
  obtain ⟨row, hrow, hnumber, hperm, hsame⟩ := hrows 1 (part 2 7 true) rfl
  rw [flatten_part, if_pos rfl] at hperm
  exact ⟨rows, hread, hlength, row, hrow, hnumber, hperm, hsame⟩

end TenantTables
