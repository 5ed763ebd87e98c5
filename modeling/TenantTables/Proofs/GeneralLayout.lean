import TenantTables.Proofs.RowWriting
import TenantTables.Proofs.WrittenAttributes

/-!
# Rows of the general layout

In the general layout one column has to have a value and must not repeat one,
the identifier; timestamps are the window of time and what the store writes
itself; and everything else takes any value. So all that a row needs to be
written, if its attributes are taken, is an identifier that no other row has. A
new row has its attributes in the shape of their columns, and nulls and the time
of writing otherwise: values that their columns take again.
-/

namespace TenantTables

open Json (Value Object)
open Time (Instant IsStamp)

namespace TableSpec

/-! ## Columns of the general layout -/

theorem uid_column :
    default.column? "uid" = some ⟨"uid", .varchar 50, false, true, none⟩ := by
  decide

theorem import_id_column :
    default.column? "import_id" =
      some ⟨"import_id", .text, true, false, none⟩ := by
  decide

theorem mem_of_column? {spec : TableSpec} {name : String} {c : Column}
    (h : spec.column? name = some c) : c ∈ spec.columns ∧ c.name = name :=
  ⟨List.mem_of_find?_eq_some h, by simpa using List.find?_some h⟩

/-- Timestamps are the window of time and what the store writes itself. -/
theorem name_of_timestamp {c : Column} (h : c ∈ default.columns)
    (htype : c.type = .timestamp) :
    c.name ∈ windowEnds ∨ c.name ∈ managedColumns := by
  have hall : ∀ c ∈ default.columns, c.type = .timestamp →
      c.name ∈ windowEnds ∨ c.name ∈ managedColumns := by decide
  exact hall c h htype

theorem type_of_windowEnd {k : String} {c : Column} (hk : k ∈ windowEnds)
    (hc : default.column? k = some c) : c.type = .timestamp := by
  have hall : ∀ k ∈ windowEnds,
      (default.column? k).all (·.type = .timestamp) = true := by decide
  have hcol := hall k hk
  rw [hc, Option.all_some] at hcol
  exact of_decide_eq_true hcol

theorem timestamp_of_managed {c : Column} (h : c ∈ default.columns)
    (hname : c.name ∈ managedColumns) :
    c.name = idColumn ∨ c.type = .timestamp := by
  have hall : ∀ c ∈ default.columns, c.name ∈ managedColumns →
      c.name = idColumn ∨ c.type = .timestamp := by decide
  exact hall c h hname

theorem name_of_not_nullable {c : Column} (h : c ∈ default.columns)
    (hnull : c.nullable = false) :
    c.name = idColumn ∨ c.name = "uid" := by
  have hall : ∀ c ∈ default.columns, c.nullable = false →
      c.name = idColumn ∨ c.name = "uid" := by
    decide
  exact hall c h hnull

theorem name_of_unique {c : Column} (h : c ∈ default.columns)
    (hunique : c.unique = true) :
    c.name = "uid" := by
  have hall : ∀ c ∈ default.columns, c.unique = true → c.name = "uid" := by
    decide
  exact hall c h hunique

theorem serial_of_id {c : Column} (h : c ∈ default.columns)
    (hname : c.name = idColumn) :
    c.type = .serial := by
  have hall : ∀ c ∈ default.columns, c.name = idColumn → c.type = .serial := by
    decide
  exact hall c h hname

theorem default_of_column {c : Column} (h : c ∈ default.columns) :
    c.default? = none ∨ c.default? = some "NOW()" ∧
      c.name ∈ managedColumns := by
  have hall : ∀ c ∈ default.columns,
      c.default? = none ∨ c.default? = some "NOW()" ∧
        c.name ∈ managedColumns := by decide
  exact hall c h

end TableSpec

theorem Json.Value.exists_toText? {v : Value} (h : v.isNull = false) :
    ∃ text, v.toText? = some text := by
  cases v with
  | null => cases h
  | bool _ | int _ | float _ | str _ | arr _ | obj _ => exact ⟨_, rfl⟩

namespace Memory

open TableSpec
open Json.Value (exists_toText?)

/-! ## Constraints of the general layout -/

theorem textAt_eq_some_iff {row : Object} {name text : String} :
    textAt row name = some text ↔
      ∃ v, row.get? name = some v ∧ v.toText? = some text :=
  Option.bind_eq_some_iff

/-- A row of the general layout needs an identifier that no other row has. -/
theorem constrain_default_iff {name : String} {t : Table} {id : Option Int}
    {row : Object} :
    constrain .default [] name t id row = .ok () ↔
      ∃ uid, textAt row "uid" = some uid ∧
        ∀ e ∈ t.rows, some e.1 ≠ id → textAt e.2 "uid" ≠ some uid := by
  obtain ⟨huid, -⟩ := mem_of_column? uid_column
  rw [constrain_eq_ok_iff]
  constructor
  · rintro ⟨hnull, hrepeat, -⟩
    obtain ⟨v, hv, hpresent⟩ :=
      value_of_leavesNull (hnull _ huid) (by decide) rfl
    obtain ⟨uid, htext⟩ := exists_toText? hpresent
    have hrow := textAt_eq_some_iff.2 ⟨v, hv, htext⟩
    refine ⟨uid, hrow, fun e he hid hother => ?_⟩
    have hunrepeated := hrepeat _ huid
    rw [repeatsValue, hrow, Bool.true_and] at hunrepeated
    dsimp only at hunrepeated
    rw [List.any_eq_false] at hunrepeated
    exact hunrepeated e he (by simp [hid, hother])
  · rintro ⟨uid, hrow, hothers⟩
    refine ⟨fun c hc => ?_, fun c hc => ?_, List.forall_mem_nil _⟩
    · rw [leavesNull]
      cases hnull : c.nullable with
      | true => simp
      | false =>
          rcases name_of_not_nullable hc hnull with hname | hname
          · simp [serial_of_id hc hname]
          · obtain ⟨v, hv, htext⟩ := textAt_eq_some_iff.1 hrow
            rw [hname, hv]
            cases v with
            | null => cases htext
            | bool _ | int _ | float _ | str _ | arr _ | obj _ =>
                simp [Value.isNull]
    · rw [repeatsValue]
      cases hunique : c.unique with
      | false => rfl
      | true =>
          rw [name_of_unique hc hunique, hrow, Bool.true_and, List.any_eq_false]
          intro e he hrepeats
          rw [Bool.and_eq_true, bne_iff_ne, beq_iff_eq] at hrepeats
          exact hothers e he hrepeats.1 hrepeats.2

/-! ## New rows -/

theorem defaultValue_now (now : Instant) :
    defaultValue "NOW()" now = .str now.toText := by
  have hnow :
      ["now()", "current_timestamp"].contains
        (Text.lowerAscii (Text.trim "NOW()")) = true := by decide +kernel
  unfold defaultValue
  dsimp only
  rw [if_pos hnow]

/-- A new row has nothing but nulls and the time of its writing. -/
theorem get?_blankRow {now : Instant} {k : String} {v : Value}
    (h : (blankRow .default now).get? k = some v) :
    v = .null ∨ k ∈ managedColumns ∧ v = .str now.toText := by
  obtain hnil | hmem := Object.mem_of_mem_insertAll (Object.mem_of_get? h)
  · exact absurd hnil List.not_mem_nil
  obtain ⟨c, hc, heq⟩ := List.mem_map.1 hmem
  obtain ⟨rfl, rfl⟩ := Prod.mk.inj heq
  rcases default_of_column (List.mem_filter.1 hc).1
    with hnone | ⟨hnow, hmanaged⟩
  · rw [hnone]
    exact .inl rfl
  · rw [hnow]
    exact .inr ⟨hmanaged, defaultValue_now now⟩

/-- A row all of whose values are taken by their columns as they are. -/
def Settled (spec : TableSpec) (row : Object) : Prop :=
  ∀ k v c, row.get? k = some v → spec.column? k = some c → c.coerce v = .ok v

/-- Attributes as an insert writes them: an identifier, no column that the store
writes itself, and a window of time whose ends are at midnight. -/
structure Prepared (attributes : Object) : Prop where
  nodup : attributes.keys.Nodup
  unmanaged : ∀ k ∈ attributes.keys, k ∉ managedColumns
  midnight : ∀ k v, attributes.get? k = some v → k ∈ windowEnds →
    ∃ u, v = atMidnight u

theorem prepared_prepareInsert {o : Object} (hnodup : o.keys.Nodup)
    (hid : missesId .default (fillable .default o) = false) (u : Supply) :
    Prepared (prepareInsert .default (fillable .default o) u).1 where
  nodup := nodup_keys_prepareInsert _ u (nodup_keys_fillable hnodup _)
  unmanaged k hk := by
    rcases mem_keys_prepareInsert hid u hk with hk | rfl
    · exact (of_mem_keys_fillable hk).2
    · decide
  midnight k v hv hk := by
    have hcol : ∀ k ∈ windowEnds, TableSpec.default.hasColumn k = true := by
      decide
    exact midnight_of_prepareInsert u (hcol k hk) hk hv

/-- What is written in a new row is taken again by its column. -/
theorem coerce_assigned {name k : String} {attributes row : Object}
    {now : Instant} {u v : Value} {c : Column}
    (h : assign .default name attributes (blankRow .default now) = .ok row)
    (hprepared : Prepared attributes) (hk : attributes.get? k = some u)
    (hv : row.get? k = some v) (hc : TableSpec.default.column? k = some c) :
    c.coerce v = .ok v := by
  obtain ⟨hmem, hname⟩ := mem_of_column? hc
  obtain ⟨c', w, hc', hw, hget⟩ := get?_assigned h hprepared.nodup hk
  obtain rfl := Option.some.inj (hc'.symm.trans hc)
  obtain rfl := Option.some.inj (hget.symm.trans hv)
  -- An instant may be written that is not read again; what an insert writes
  -- has midnights only.
  refine Column.coerce_coerced hw fun htype s hs => ?_
  rcases name_of_timestamp hmem htype with hwindow | hmanaged
  · obtain ⟨u, rfl⟩ := hprepared.midnight k u hk (hname ▸ hwindow)
    have hcoerce := (Column.coerce_eq_ok_iff.1 hw).1
    rw [htype] at hcoerce
    rcases midnight_of_coerce hcoerce with hnull | ⟨i, hread, -, htext⟩
    · rw [hnull] at hs
      cases hs
    · rw [htext] at hs
      obtain rfl := Value.str.inj hs
      exact ⟨i, hread, rfl⟩
  · exact absurd (hname ▸ hmanaged)
      (hprepared.unmanaged k (Object.mem_keys_iff.2 ⟨u, hk⟩))

/-- So is what a new row has where nothing is written. -/
theorem coerce_blank {k : String} {now : Instant} {v : Value} {c : Column}
    (hv : (blankRow .default now).get? k = some v)
    (hc : TableSpec.default.column? k = some c) (hid : k ≠ "uid")
    (hclock : IsStamp now.toText) : c.coerce v = .ok v := by
  obtain ⟨hmem, hname⟩ := mem_of_column? hc
  have hkey : c.name ≠ idColumn := by
    rw [hname]
    exact (((blankRow_hasLayout .default now).mem_keys k).1
      (Object.mem_keys_iff.2 ⟨v, hv⟩)).1
  rcases get?_blankRow hv with rfl | ⟨hmanaged, rfl⟩
  · refine Column.coerce_null (eq_true_of_ne_false fun hnull => ?_)
    rcases name_of_not_nullable hmem hnull with heq | heq
    · exact hkey heq
    · exact hid (hname.symm.trans heq)
  · rcases timestamp_of_managed hmem (hname ▸ hmanaged) with heq | htype
    · exact absurd heq hkey
    · refine Column.coerce_eq_ok_iff.2 ⟨?_, nofun⟩
      rw [htype]
      exact ColumnType.coerce_stamp hclock

theorem settled_of_assign {name : String} {attributes row : Object}
    {now : Instant}
    (h : assign .default name attributes (blankRow .default now) = .ok row)
    (hprepared : Prepared attributes) (huid : "uid" ∈ attributes.keys)
    (hclock : IsStamp now.toText) : Settled .default row := by
  intro k v c hv hc
  cases hk : attributes.get? k with
  | some u => exact coerce_assigned h hprepared hk hv hc
  | none =>
      rw [get?_unassigned h hprepared.nodup hk] at hv
      refine coerce_blank hv hc ?_ hclock
      rintro rfl
      exact absurd huid (Object.get?_eq_none_iff.1 hk)

end Memory

end TenantTables
