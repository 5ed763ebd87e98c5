import TenantTables.Proofs.IdentifierMap

/-!
# Rows that attributes are stored in

Over the general layout there are two ways to store attributes: a row that
stands in its table is written again, or a new one is written. Whoever stores
them, a row that is written again is filled with what callers may write of them,
and a new one with the same, completed.

What either does to the table and to the row is said here once. The table keeps
all its other rows and stays well formed; under each key the row has what was
given, in the shape of its column, and where nothing was given a stored row has
what it had and a new one nothing. Imports and upserts differ in how they find
the row and in nothing else, and what they leave is derived from this.
-/

namespace TenantTables.Memory

open Json (Value Object)
open Time (Instant)
open TableSpec (windowEnds)

/-- What is written to a stored row when attributes are given for it. -/
def revision (start given : Object) : Object :=
  start.insertAll
    (TableSpec.default.prepareUpdate (TableSpec.default.fillable given))

/-- What is written to a new row. -/
def creation (given : Object) (u : Supply) : Object :=
  Record.withoutId
    (TableSpec.default.prepareInsert (TableSpec.default.fillable given) u).1

/-- Attributes are stored in the row that stands under a key. -/
structure Revises (checks : List Check) (name : String) (given : Object)
    (now : Instant) (t : Table) (key : Int) (start row : Object)
    (t' : Table) : Prop where
  nodup : given.keys.Nodup
  stands : (key, start) ∈ t.rows
  write :
    writeRow .default checks name t (some key) (revision start given) now =
      .ok (key, row, t')

/-- Attributes are stored in a new row. -/
structure Creates (checks : List Check) (name : String) (given : Object)
    (u : Supply) (now : Instant) (t : Table) (row : Object)
    (t' : Table) : Prop where
  nodup : given.keys.Nodup
  write : writeRow .default checks name t none (creation given u) now =
    .ok (t.nextId, row, t')

variable {checks : List Check} {name : String} {given start row : Object}
  {u : Supply} {now : Instant} {t t' : Table} {key : Int} {k id : String}
  {v : Value}

/-! ## What is written -/

theorem nodup_keys_given (h : given.keys.Nodup) :
    (Object.keys
      (TableSpec.default.prepareUpdate
        (TableSpec.default.fillable given))).Nodup := by
  rw [TableSpec.keys_prepareUpdate]
  exact TableSpec.nodup_keys_fillable h _

theorem get?_revision (h : given.keys.Nodup) (start : Object) (k : String) :
    (revision start given).get? k =
      (Object.get?
        (TableSpec.default.prepareUpdate
          (TableSpec.default.fillable given)) k).or
        (start.get? k) :=
  Object.get?_insertAll (nodup_keys_given h) start k

theorem id_not_mem_revision (h : idColumn ∉ start.keys) (given : Object) :
    idColumn ∉ (revision start given).keys := by
  intro hmem
  rcases (Object.mem_keys_insertAll _).1 hmem with hmem | hmem
  · exact h hmem
  · change idColumn ∈ Object.keys _ at hmem
    rw [TableSpec.keys_prepareUpdate] at hmem
    exact (TableSpec.of_mem_keys_fillable hmem).2 (by decide)

theorem nodup_keys_creation (h : given.keys.Nodup) (u : Supply) :
    (creation given u).keys.Nodup :=
  Object.nodup_keys_filter
    (TableSpec.nodup_keys_prepareInsert _ u
      (TableSpec.nodup_keys_fillable h _)) _

theorem get?_uid_given (given : Object) :
    Object.get?
      (TableSpec.default.prepareUpdate
        (TableSpec.default.fillable given)) "uid" =
      given.get? "uid" := by
  rw [TableSpec.get?_prepareUpdate, if_neg (by decide), TableSpec.get?_fillable,
    if_pos (by decide)]

theorem get?_creation (h : k ≠ idColumn) (given : Object) (u : Supply) :
    (creation given u).get? k =
      Object.get?
        (TableSpec.default.prepareInsert
          (TableSpec.default.fillable given) u).1 k :=
  Record.get?_withoutId _ h

/-- An identifier that its column takes is stored as its text. -/
theorem coerce_uid {c : Column} {w : Value}
    (hc : TableSpec.default.column? "uid" = some c) (hw : c.coerce v = .ok w) :
    ∃ s, v.toText? = some s ∧ w = .str s := by
  obtain rfl := Option.some.inj (TableSpec.uid_column.symm.trans hc)
  obtain ⟨hcoerce, hnull⟩ := Column.coerce_eq_ok_iff.1 hw
  have hpresent : v.isNull = false := by
    cases v with
    | null =>
        obtain rfl := Except.ok.inj hcoerce
        cases hnull rfl
    | bool _ | int _ | float _ | str _ | arr _ | obj _ => rfl
  obtain ⟨s, hs⟩ := Json.Value.exists_toText? hpresent
  exact ⟨s, hs, ColumnType.eq_str_of_isText rfl hs hcoerce⟩

theorem WellFormed.exists_uid (h : WellFormed .default checks t)
    {e : Int × Object} (he : e ∈ t.rows) :
    ∃ id, textAt e.2 "uid" = some id := by
  obtain ⟨huid, -⟩ := TableSpec.mem_of_column? TableSpec.uid_column
  obtain ⟨v, hv, hpresent⟩ := (h.rows_meet e he).filled _ huid (by decide) rfl
  obtain ⟨id, hid⟩ := Json.Value.exists_toText? hpresent
  exact ⟨id, textAt_eq_some_iff.2 ⟨v, hv, hid⟩⟩

/-! ## Rows that are written again -/

namespace Revises

theorem start_layout (h : Revises checks name given now t key start row t')
    (hwf : WellFormed .default checks t) : HasLayout .default start :=
  (hwf.rows_meet _ h.stands).layout

theorem wellFormed (h : Revises checks name given now t key start row t')
    (hwf : WellFormed .default checks t) : WellFormed .default checks t' :=
  hwf.writeRow
    (id_not_mem_revision (h.start_layout hwf).id_not_mem given) h.write

theorem mem_rows_iff (h : Revises checks name given now t key start row t')
    (hwf : WellFormed .default checks t) {e : Int × Object} :
    e ∈ t'.rows ↔ e = (key, row) ∨ e ∈ t.rows ∧ e.1 ≠ key := by
  obtain ⟨-, ⟨-, rfl⟩ | ⟨hnone, -⟩⟩ := writeRow_ok h.write
  · exact mem_setRow hwf.ascending
  · cases hnone

/-- The row under its key afterwards: everything that is written has the
shape of its column. -/
theorem get? (h : Revises checks name given now t key start row t')
    (hwf : WellFormed .default checks t) (hk : k ≠ "updated_at")
    (hv : (revision start given).get? k = some v) :
    ∃ c w, TableSpec.default.column? k = some c ∧ c.coerce v = .ok w ∧
      row.get? k = some w := by
  have hnodup : (revision start given).keys.Nodup :=
    Object.nodup_keys_insertAll (h.start_layout hwf).nodup _
  have hleaves :=
    (row?_of_writeRow h.write hnodup
      (row?_of_mem hwf.ascending h.stands)).2 k hk
  rw [LeavesUnder, hv] at hleaves
  exact hleaves

/-- The identifier that is given goes before the one that was stored. -/
theorem uid (h : Revises checks name given now t key start row t')
    (hwf : WellFormed .default checks t) (hid : textAt start "uid" = some id) :
    row.get? "uid" = some (.str ((textAt given "uid").getD id)) := by
  have hwritten : ∀ v, (revision start given).get? "uid" = some v →
      ∃ s, v.toText? = some s ∧ row.get? "uid" = some (.str s) := by
    intro v hv
    obtain ⟨c, w, hc, hw, hget⟩ := h.get? hwf (by decide) hv
    obtain ⟨s, hs, rfl⟩ := coerce_uid hc hw
    exact ⟨s, hs, hget⟩
  simp only [get?_revision h.nodup, get?_uid_given] at hwritten
  rw [textAt]
  cases hv : given.get? "uid" with
  | some v =>
      obtain ⟨s, hs, hget⟩ := hwritten v (by rw [hv, Option.some_or])
      rw [Option.bind_some, hs, Option.getD_some]
      exact hget
  | none =>
      obtain ⟨v, hstart, htext⟩ := textAt_eq_some_iff.1 hid
      obtain ⟨s, hs, hget⟩ := hwritten v (by rw [hv, Option.none_or, hstart])
      obtain rfl := Option.some.inj (htext.symm.trans hs)
      exact hget

end Revises

/-! ## New rows -/

namespace Creates

theorem wellFormed (h : Creates checks name given u now t row t')
    (hwf : WellFormed .default checks t) : WellFormed .default checks t' :=
  hwf.writeRow (Record.id_not_mem_withoutId _) h.write

theorem mem_rows_iff (h : Creates checks name given u now t row t')
    (hwf : WellFormed .default checks t) {e : Int × Object} :
    e ∈ t'.rows ↔ e = (t.nextId, row) ∨ e ∈ t.rows := by
  obtain ⟨-, ⟨hsome, -⟩ | ⟨-, -, rfl⟩⟩ := writeRow_ok h.write
  · cases hsome
  · rw [mem_setRow hwf.ascending]
    refine or_congr_right (and_iff_left_of_imp fun he => ?_)
    have hlt := (hwf.keys_between e he).2
    omega

theorem assigned (h : Creates checks name given u now t row t') :
    assign .default name (creation given u)
      (blankRow .default now) = .ok row := by
  obtain ⟨start, assigned, hstart, hassign, hrow, -⟩ :=
    completeRow_ok (writeRow_ok h.write).1
  obtain rfl := Except.ok.inj hstart
  rw [hassign, hrow, if_neg (by simp)]

theorem get? (h : Creates checks name given u now t row t')
    (hv : (creation given u).get? k = some v) :
    ∃ c w, TableSpec.default.column? k = some c ∧ c.coerce v = .ok w ∧
      row.get? k = some w :=
  get?_assigned h.assigned (nodup_keys_creation h.nodup u) hv

theorem get?_of_none (h : Creates checks name given u now t row t')
    (hk : (creation given u).get? k = none) :
    row.get? k = (blankRow .default now).get? k :=
  get?_unassigned h.assigned (nodup_keys_creation h.nodup u) hk

/-- A new row has the identifier that is given, if one is, and
one in any case. -/
theorem uid (h : Creates checks name given u now t row t')
    (hwf : WellFormed .default checks t) :
    ∃ s, row.get? "uid" = some (.str s) ∧
      (TableSpec.default.missesId (TableSpec.default.fillable given) = false →
        textAt given "uid" = some s) := by
  cases hv : (creation given u).get? "uid" with
  | some v =>
      obtain ⟨c, w, hc, hw, hget⟩ := h.get? hv
      obtain ⟨s, hs, rfl⟩ := coerce_uid hc hw
      refine ⟨s, hget, fun hmisses => textAt_eq_some_iff.2 ⟨v, ?_, hs⟩⟩
      rw [← hv, get?_creation (by decide),
        TableSpec.get?_prepareInsert hmisses u fun h => absurd h (by decide),
        get?_uid_given]
  | none =>
      -- A row that no identifier was written to has none, and is not stored.
      obtain ⟨id, hid⟩ :=
        (h.wellFormed hwf).exists_uid ((h.mem_rows_iff hwf).2 (.inl rfl))
      obtain ⟨w, hw, htext⟩ := textAt_eq_some_iff.1 hid
      rw [h.get?_of_none hv] at hw
      rcases get?_blankRow hw with rfl | ⟨hmanaged, -⟩
      · cases htext
      · exact absurd hmanaged (by decide)

end Creates

end TenantTables.Memory
