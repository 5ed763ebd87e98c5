import TenantTables.Proofs.CheckedRows
import TenantTables.Proofs.Flattening
import TenantTables.Proofs.WrittenAttributes

/-!
# Rows of a file

What a row is read from is its cells, and the import that it comes with has no
part in it: read again under another import, a file has the same rows. A row
holds each header once. What nesting leaves of the identifier is up to the last
header that leads through it. If that is its own, the row asks for a record of
just the identifier that it is looked up by, and otherwise for one whose
identifier is an object. A row with no header but its own is of the first kind.
-/

namespace TenantTables

open Json (Value Object)

namespace Path

/-- A key that meets one without dots is that key, or extends it by a dot. -/
theorem eq_or_extends_of_meets {key name : String} (hname : '.' ∉ name.toList)
    (h : Meets key name) :
    key = name ∨ (name ++ ".").toList <+: key.toList := by
  have hsplit := split_of_dotFree hname
  obtain ⟨step, steps, hkey⟩ :=
    List.exists_cons_of_ne_nil (Text.split_ne_nil '.' key)
  have hstep : step = name := by
    rw [Meets, hsplit, hkey] at h
    rcases h with h | h
    · exact (List.cons_prefix_cons.1 h).1
    · exact (List.cons_prefix_cons.1 h).1.symm
  obtain ⟨piece, pieces, hpieces⟩ :=
    List.exists_cons_of_ne_nil (Text.pieces_ne_nil '.' key.toList)
  have hjoined := Text.intercalate_pieces '.' key.toList
  rw [Text.split, hpieces, List.map_cons, List.cons.injEq] at hkey
  have hpiece : piece = name.toList := by
    rw [← hstep, ← hkey.1, String.toList_ofList]
  rw [hpieces, hpiece] at hjoined
  cases pieces with
  | nil =>
      rw [List.intercalate_singleton] at hjoined
      exact .inl (String.toList_inj.1 hjoined.symm)
  | cons next pieces =>
      rw [List.intercalate_cons_cons] at hjoined
      refine .inr ⟨['.'].intercalate (next :: pieces), ?_⟩
      rw [String.toList_append]
      exact hjoined

/-- The last key to decide about one of them is that key, or
extends it by a dot. -/
theorem lastMeeting?_of_mem {keys : List String} {name : String}
    (hname : '.' ∉ name.toList) (hmem : name ∈ keys) :
    lastMeeting? keys name = some name ∨
      ∃ key ∈ keys, lastMeeting? keys name = some key ∧
      (name ++ ".").toList <+: key.toList := by
  have hmeets : name ∈ keys.filter (Meets · name) :=
    List.mem_filter.2 ⟨hmem, decide_eq_true (.inl (List.prefix_refl _))⟩
  obtain ⟨key, hkey⟩ :=
    Option.isSome_iff_exists.1
      (List.getLast?_isSome.2 (List.ne_nil_of_mem hmeets))
  obtain ⟨hin, hmeet⟩ := List.mem_filter.1 (List.mem_of_getLast? hkey)
  rcases eq_or_extends_of_meets hname (of_decide_eq_true hmeet)
    with rfl | hextends
  · exact .inl hkey
  · exact .inr ⟨key, hin, hkey, hextends⟩

/-- A key without dots is no path to cut. -/
theorem get?_of_dotFree {name : String} (hname : '.' ∉ name.toList)
    (o : Object) :
    get? o name = o.get? name := by
  rw [get?]
  cases h : o.get? name with
  | some v => rfl
  | none =>
      rw [split_of_dotFree hname, getAt_obj_cons, h]
      rfl

/-- A key that is the last to decide about itself is left alone by nesting. -/
theorem get?_undot_of_last {o : Object} {name : String}
    (hname : '.' ∉ name.toList) (hnodup : o.keys.Nodup) (hmem : name ∈ o.keys)
    (hlast : lastMeeting? o.keys name = some name) :
    (undot o).get? name = o.get? name := by
  have halike : ReadsAlike o.keys name := by
    rw [ReadsAlike, hlast, readKey?, if_pos hmem]
  rw [← get?_of_dotFree hname, ← get?_of_dotFree hname,
    get?_undot hnodup halike]

/-- A key behind it that extends it by a dot makes it an object. -/
theorem get?_undot_of_extends {o : Object} {name key : String}
    (hname : '.' ∉ name.toList) (hlast : lastMeeting? o.keys name = some key)
    (hextends : (name ++ ".").toList <+: key.toList) :
    ∃ fields, (undot o).get? name = some (.obj fields) := by
  obtain ⟨-, earlier, v, -, hread⟩ := get?_undot_of_some hlast
  obtain ⟨path, hpath⟩ := hextends
  obtain rfl : key = name ++ "." ++ String.ofList path := by
    rw [← String.toList_inj, ← hpath]
    simp
  have hset := set_behind_dot hname earlier (String.ofList path) v
  exact ⟨_, by rw [← get?_of_dotFree hname, hread, hset, split_of_dotFree hname,
    getAt_obj_cons, Object.get?_insert_self, Option.bind_some, getAt]⟩

theorem nodup_keys_undot (o : Object) : (undot o).keys.Nodup := by
  induction o using List.reverseRecOn with
  | nil => exact List.nodup_nil
  | append_singleton o f ih =>
      obtain ⟨key, v⟩ := f
      obtain ⟨step, steps, hsplit⟩ :=
        List.exists_cons_of_ne_nil (Text.split_ne_nil '.' key)
      obtain ⟨u, hu⟩ := setAt_eq_insert (undot o) step steps v
      rw [undot_concat, set, hsplit, hu]
      exact Object.nodup_keys_insert ih _ _

end Path

namespace Import

/-! ## Reading a file again -/

namespace Row

/-- The row, read for another import. -/
def under (importId : String) (row : Row) : Row :=
  { row with importId := importId }

end Row

/-- The import has no part in how rows are read, and a row holds
each header once. -/
theorem validateFrom_under {limits : Limits} {importId : String} {n : Nat}
    {records : List (Except Error (List (String × String)))} {rows : List Row}
    (h : validateFrom limits importId n records = .ok rows) :
    (∀ row ∈ rows, row.values.keys.Nodup) ∧
      ∀ other, validateFrom limits other n records =
        .ok (rows.map (Row.under other)) := by
  obtain ⟨table, rfl, rfl, hgood⟩ := validateFrom_eq_ok_iff.1 h
  refine ⟨fun row hrow => ?_, fun other =>
    validateFrom_eq_ok_iff.2 ⟨table, rfl, ?_, hgood⟩⟩
  · obtain ⟨_, -, rfl⟩ := List.mem_map.1 hrow
    exact Object.nodup_keys_ofFields _
  · rw [rowsOf, List.map_map]
    rfl

theorem validateCsv_under {limits : Limits} {importId : String}
    {bytes : List UInt8} {rows : List Row}
    (h : validateCsv limits importId bytes = .ok rows) :
    (∀ row ∈ rows, row.values.keys.Nodup) ∧
      ∀ other,
        validateCsv limits other bytes = .ok (rows.map (Row.under other)) := by
  unfold validateCsv at h ⊢
  split at h
  · obtain rfl := Except.ok.inj h
    exact ⟨fun _ hrow => absurd hrow List.not_mem_nil, fun _ => rfl⟩
  · cases h
  · exact validateFrom_under h

/-! ## Rows with an identifier -/

/-- A row that carries an identifier, under a header that no other extends. -/
structure Row.Carries (row : Row) (id : String) : Prop where
  id : row.id? "uid" = some id
  nodup : row.values.keys.Nodup
  sole : ∀ header ∈ row.values.keys, ¬ "uid.".toList <+: header.toList

namespace Row

variable {row : Row} {id : String}

theorem Carries.under (h : row.Carries id) (importId : String) :
    (row.under importId).Carries id :=
  ⟨h.id, h.nodup, h.sole⟩

theorem get?_uid_attributes (row : Row) :
    Object.get? row.attributes "uid" = (Path.undot row.values).get? "uid" := by
  rw [attributes, Object.get?_insert_of_ne _ (by decide)]

/-- A row with an identifier has a value under its header. -/
theorem value_of_id (h : row.id? "uid" = some id) :
    ∃ v, row.values.get? "uid" = some v ∧ v.toText? = some id :=
  Option.bind_eq_some_iff.1 (Option.filter_eq_some_iff.1 h).1

theorem not_blank_of_id (h : row.id? "uid" = some id) :
    Text.isBlankText id = false := by
  simpa using (Option.filter_eq_some_iff.1 h).2

/-- The attributes of a row name the record that it is looked up by, if no
header behind that of the identifier extends it. -/
theorem attribute_of_last (hnodup : row.values.keys.Nodup)
    (h : row.id? "uid" = some id)
    (hlast : Path.lastMeeting? row.values.keys "uid" = some "uid") :
    ∃ v, Object.get? row.attributes "uid" = some v ∧ v.toText? = some id := by
  obtain ⟨v, hv, htext⟩ := value_of_id h
  refine ⟨v, ?_, htext⟩
  rw [get?_uid_attributes, ← hv]
  exact Path.get?_undot_of_last (by decide) hnodup
    (Object.mem_keys_iff.2 ⟨v, hv⟩) hlast

theorem Carries.not_blank (h : row.Carries id) : Text.isBlankText id = false :=
  not_blank_of_id h.id

theorem Carries.attribute (h : row.Carries id) :
    ∃ v, Object.get? row.attributes "uid" = some v ∧ v.toText? = some id := by
  obtain ⟨v, hv, -⟩ := value_of_id h.id
  have huid : "uid" ∈ row.values.keys := Object.mem_keys_iff.2 ⟨v, hv⟩
  rcases Path.lastMeeting?_of_mem (by decide) huid
    with hlast | ⟨key, hkey, -, hextends⟩
  · exact attribute_of_last h.nodup h.id hlast
  · exact absurd hextends (h.sole key hkey)

theorem nodup_keys_attributes (row : Row) : row.attributes.keys.Nodup :=
  Object.nodup_keys_insert (Path.nodup_keys_undot _) _ _

end Row

end Import

end TenantTables
