import TenantTables.Memory.Table
import TenantTables.Proofs.ObjectKeys

/-!
# Rows of a table, and what a write leaves

A table is well formed if its rows stand under ascending keys between one and
the next key, and every row meets its layout: the columns of the layout are its
keys, no column that has to have a value is empty, every check holds, and no two
rows have one text in a unique column.

A write that succeeds keeps a table well formed. The argument is the same for a
new row and a stored one: the row comes from one that has the layout's columns,
assigning changes no list of keys, and the constraints are held against the row
as it is stored. Uniqueness is the only part that is about two rows, and there
the row that is written is compared with all rows but the one it replaces.
-/

namespace TenantTables

theorem TableSpec.hasColumn_iff {spec : TableSpec} {name : String} :
    spec.hasColumn name = true ↔ ∃ c ∈ spec.columns, c.name = name := by
  simp [hasColumn, column?]

theorem Record.id_not_mem_withoutId (attributes : Json.Object) :
    idColumn ∉ Json.Object.keys (withoutId attributes) := by
  simp [Json.Object.keys, withoutId]

namespace Memory

open Json (Value Object)
open Time (Instant)

/-! ## Rows in the order of their keys -/

theorem mem_of_lookup {rows : List (Int × Object)} {id : Int} {row : Object}
    (h : rows.lookup id = some row) : (id, row) ∈ rows := by
  obtain ⟨before, after, rfl, -⟩ := List.lookup_eq_some_iff.1 h
  simp

/-- The keys of rows ascend, so none occurs twice. -/
def Ascending (rows : List (Int × Object)) : Prop :=
  rows.Pairwise fun a b => a.1 < b.1

theorem mem_setRow {rows : List (Int × Object)} (h : Ascending rows) {id : Int}
    {row : Object} {e : Int × Object} :
    e ∈ Table.setRow id row rows ↔ e = (id, row) ∨ e ∈ rows ∧ e.1 ≠ id := by
  induction rows with
  | nil => simp [Table.setRow]
  | cons f rows ih =>
      obtain ⟨i, r⟩ := f
      obtain ⟨hlt, hrest⟩ := List.pairwise_cons.1 h
      rw [Table.setRow]
      split
      · next heq =>
          subst heq
          have hne : ∀ e ∈ rows, e.1 ≠ id := fun e he => by
            have := hlt e he; omega
          rw [List.mem_cons, List.mem_cons]
          constructor
          · rintro (he | he)
            · exact .inl he
            · exact .inr ⟨.inr he, hne e he⟩
          · rintro (he | ⟨rfl | he, hid⟩)
            · exact .inl he
            · exact absurd rfl hid
            · exact .inr he
      · next hne =>
          split
          · next hid =>
              have hall : ∀ e ∈ (i, r) :: rows, e.1 ≠ id := by
                intro e he
                rcases List.mem_cons.1 he with rfl | he
                · exact Ne.symm hne
                · have := hlt e he; omega
              rw [List.mem_cons]
              exact ⟨fun he => he.imp_right fun he => ⟨he, hall e he⟩,
                fun he => he.imp_right And.left⟩
          · rw [List.mem_cons, ih hrest, List.mem_cons]
            constructor
            · rintro (rfl | he | he)
              · exact .inr ⟨.inl rfl, Ne.symm hne⟩
              · exact .inl he
              · exact .inr ⟨.inr he.1, he.2⟩
            · rintro (he | ⟨he | he, hid⟩)
              · exact .inr (.inl he)
              · exact .inl he
              · exact .inr (.inr ⟨he, hid⟩)

theorem ascending_setRow {rows : List (Int × Object)} (h : Ascending rows)
    (id : Int) (row : Object) : Ascending (Table.setRow id row rows) := by
  induction rows with
  | nil => simp [Table.setRow, Ascending]
  | cons f rows ih =>
      obtain ⟨i, r⟩ := f
      obtain ⟨hlt, hrest⟩ := List.pairwise_cons.1 h
      rw [Table.setRow]
      split
      · next heq =>
          subst heq
          exact List.pairwise_cons.2 ⟨hlt, hrest⟩
      · next hne =>
          split
          · next hid =>
              refine List.pairwise_cons.2 ⟨fun e he => ?_, h⟩
              rcases List.mem_cons.1 he with rfl | he
              · exact hid
              · have := hlt e he
                show id < e.1
                omega
          · next hid =>
              refine List.pairwise_cons.2 ⟨fun e he => ?_, ih hrest⟩
              rcases (mem_setRow hrest).1 he with rfl | ⟨he, -⟩
              · show i < id
                omega
              · exact hlt e he

/-! ## The layout of rows -/

/-- The keys of a row are the columns of the layout, but for
the surrogate key. -/
structure HasLayout (spec : TableSpec) (row : Object) : Prop where
  mem_keys : ∀ key, key ∈ row.keys ↔ key ≠ idColumn ∧ spec.hasColumn key = true
  nodup : row.keys.Nodup

theorem HasLayout.id_not_mem {spec : TableSpec} {row : Object}
    (h : HasLayout spec row) :
    idColumn ∉ row.keys :=
  fun hmem => ((h.mem_keys _).1 hmem).1 rfl

theorem blankRow_hasLayout (spec : TableSpec) (now : Instant) :
    HasLayout spec (blankRow spec now) where
  mem_keys key := by
    unfold blankRow
    rw [Object.mem_keys_ofFields, TableSpec.hasColumn_iff]
    simp only [List.map_map, List.mem_map, List.mem_filter, Function.comp_def]
    constructor
    · rintro ⟨c, ⟨hc, hid⟩, rfl⟩
      exact ⟨by simpa using hid, c, hc, rfl⟩
    · rintro ⟨hid, c, hc, rfl⟩
      exact ⟨c, ⟨hc, by simpa using hid⟩, rfl⟩
  nodup := Object.nodup_keys_ofFields _

theorem HasLayout.insert {spec : TableSpec} {row : Object}
    (h : HasLayout spec row) {key : String} (hid : key ≠ idColumn)
    (hcol : spec.hasColumn key = true) (v : Value) :
    HasLayout spec (row.insert key v) := by
  have hkeys := Object.keys_insert_of_mem ((h.mem_keys key).2 ⟨hid, hcol⟩) v
  exact ⟨hkeys ▸ h.mem_keys, hkeys ▸ h.nodup⟩

theorem HasLayout.assign {spec : TableSpec} {name : String}
    {attributes row row' : Object} (h : HasLayout spec row)
    (hid : idColumn ∉ attributes.keys)
    (ha : assign spec name attributes row = .ok row') :
    HasLayout spec row' := by
  induction attributes generalizing row with
  | nil =>
      rw [Memory.assign] at ha
      injection ha with ha
      exact ha ▸ h
  | cons f attributes ih =>
      obtain ⟨key, v⟩ := f
      rw [Object.keys, List.map_cons, List.mem_cons, not_or] at hid
      rw [Memory.assign] at ha
      split at ha
      · cases ha
      · next c hc =>
          have hcol : spec.hasColumn key = true := by
            simp [TableSpec.hasColumn, hc]
          split at ha
          · cases ha
          · next w hw => exact ih (h.insert (Ne.symm hid.1) hcol w) hid.2 ha

/-! ## Rows as objects -/

/-- A stored row has its surrogate key in front, and no other field under it. -/
theorem storedRow_eq (id : Int) (attributes : Object) :
    storedRow id attributes =
      (idColumn, .int id) :: Object.ofFields (Record.withoutId attributes) :=
  Object.insertAll_cons_of_not_mem (Record.id_not_mem_withoutId attributes) _

/-- The record of a stored row, shown again, is the row. -/
theorem recordOfRow?_storedRow {id : Int} (h : Number.isInt64 id = true)
    (attributes : Object) :
    ∃ r, recordOfRow? (storedRow id attributes) = some r ∧
      r.toObject = storedRow id attributes := by
  have hid : Value.int64? (.int id) = some id := by
    rw [Number.isInt64, Bool.and_eq_true, decide_eq_true_iff,
      decide_eq_true_iff, Number.maxInt64] at h
    exact if_pos (by omega)
  refine ⟨Record.ofStored id (storedRow id attributes), ?_, ?_⟩
  · rw [recordOfRow?, storedRow_eq, Object.get?, List.lookup_cons_self,
      Option.bind_some, hid]
    rfl
  · have hkeys : idColumn ∉
        (Object.ofFields (Record.withoutId attributes)).keys := fun hmem =>
      Record.id_not_mem_withoutId attributes
        ((Object.mem_keys_ofFields _).1 hmem)
    have hrest : Record.withoutId (storedRow id attributes) =
        Object.ofFields (Record.withoutId attributes) := by
      rw [storedRow_eq, Record.withoutId, List.filter_cons_of_neg (by simp),
        List.filter_eq_self]
      exact fun f hf => bne_iff_ne.2 fun heq =>
        hkeys (heq ▸ List.mem_map_of_mem hf)
    show Object.insertAll [(idColumn, .int id)]
        (Record.withoutId (storedRow id attributes)) = _
    rw [hrest, Object.insertAll_of_nodup, storedRow_eq]
    · rfl
    · exact List.nodup_cons.2 ⟨hkeys, Object.nodup_keys_ofFields _⟩

/-! ## What a successful write has checked -/

theorem constrain_eq_ok_iff {spec : TableSpec} {checks : List Check}
    {name : String} {t : Table} {id : Option Int} {row : Object} :
    constrain spec checks name t id row = .ok () ↔
      (∀ c ∈ spec.columns, leavesNull row c = false) ∧
        (∀ c ∈ spec.columns, repeatsValue t id row c = false) ∧
          ∀ check ∈ checks, check.holds row = true := by
  unfold constrain
  split
  · next c hc =>
      have := List.find?_some hc
      have hmem := List.mem_of_find?_eq_some hc
      simp only [reduceCtorEq, false_iff]
      exact fun h => by simp [h.1 c hmem] at this
  · next hnull =>
      rw [List.find?_eq_none] at hnull
      split
      · next c hc =>
          have := List.find?_some hc
          have hmem := List.mem_of_find?_eq_some hc
          simp only [reduceCtorEq, false_iff]
          exact fun h => by simp [h.2.1 c hmem] at this
      · next hrep =>
          rw [List.find?_eq_none] at hrep
          split
          · next check hcheck =>
              have := List.find?_some hcheck
              have hmem := List.mem_of_find?_eq_some hcheck
              simp only [reduceCtorEq, false_iff]
              exact fun h => by simp [h.2.2 check hmem] at this
          · next hchecks =>
              rw [List.find?_eq_none] at hchecks
              simp only [true_iff]
              exact ⟨fun c hc => by simpa using hnull c hc,
                fun c hc => by simpa using hrep c hc,
                fun check hcheck => by simpa using hchecks check hcheck⟩

/-- A column that has to have a value and is not left empty has one. -/
theorem value_of_leavesNull {row : Object} {c : Column}
    (h : leavesNull row c = false) (htype : c.type ≠ .serial)
    (hnull : c.nullable = false) :
    ∃ v, row.get? c.name = some v ∧ v.isNull = false := by
  cases hv : row.get? c.name with
  | none => simp [leavesNull, htype, hnull, hv] at h
  | some v => exact ⟨v, rfl, by simpa [leavesNull, htype, hnull, hv] using h⟩

section Write

variable {spec : TableSpec} {checks : List Check} {name : String} {t t' : Table}
  {id : Option Int} {attributes row : Object} {now : Instant} {key : Int}

/-- The row that a write would store: assigned to a start, stamped with the time
if it was stored before, and held to the constraints. -/
theorem completeRow_ok
    (h : completeRow spec checks name t id attributes now = .ok row) :
    ∃ start assigned, startRow spec name t id now = .ok start ∧
      assign spec name attributes start = .ok assigned ∧
      row = (if id.isSome && spec.hasColumn "updated_at" then
        assigned.insert "updated_at" (.str now.toText) else assigned) ∧
      constrain spec checks name t id row = .ok () := by
  unfold completeRow at h
  cases hs : startRow spec name t id now with
  | error e => rw [hs] at h; cases h
  | ok start =>
      rw [hs] at h
      cases ha : assign spec name attributes start with
      | error e =>
          simp only [bind, Except.bind, ha] at h
          cases h
      | ok assigned =>
          simp only [bind, Except.bind, ha] at h
          split at h
          · cases h
          · next hc =>
              injection h with h
              subst h
              exact ⟨start, assigned, rfl, ha, rfl, hc⟩

/-- A write that succeeds stores its row under the key of the record, or under
the next key, which then moves on. -/
theorem writeRow_ok
    (h : writeRow spec checks name t id attributes now = .ok (key, row, t')) :
    completeRow spec checks name t id attributes now = .ok row ∧
      ((id = some key ∧ t' = { t with rows := Table.setRow key row t.rows }) ∨
        (id = none ∧ key = t.nextId ∧
          t' = ⟨t.nextId + 1, Table.setRow t.nextId row t.rows⟩)) := by
  unfold writeRow at h
  cases hc : completeRow spec checks name t id attributes now with
  | error e => rw [hc] at h; cases h
  | ok r =>
      rw [hc] at h
      cases id with
      | some i =>
          simp only [Except.map, Except.ok.injEq, Prod.mk.injEq] at h
          obtain ⟨rfl, rfl, rfl⟩ := h
          exact ⟨rfl, .inl ⟨rfl, rfl⟩⟩
      | none =>
          simp only [Except.map, Except.ok.injEq, Prod.mk.injEq] at h
          obtain ⟨rfl, rfl, rfl⟩ := h
          exact ⟨rfl, .inr ⟨rfl, rfl, rfl⟩⟩

/-- A row that a write completes has the columns of the layout, if the row it
starts from has and nothing is written to the surrogate key. -/
theorem completeRow_hasLayout
    (h : completeRow spec checks name t id attributes now = .ok row)
    (hid : idColumn ∉ attributes.keys)
    (hrows : ∀ e ∈ t.rows, HasLayout spec e.2) :
    HasLayout spec row := by
  obtain ⟨start, assigned, hs, ha, hrow, -⟩ := completeRow_ok h
  have hstart : HasLayout spec start := by
    unfold startRow at hs
    cases id with
    | none =>
        injection hs with hs
        exact hs ▸ blankRow_hasLayout spec now
    | some i =>
        simp only [Table.row?] at hs
        split at hs
        · next r hr =>
            injection hs with hs
            exact hs ▸ hrows (i, r) (mem_of_lookup hr)
        · cases hs
  have hassigned := hstart.assign hid ha
  subst hrow
  split
  · next hstamp =>
      rw [Bool.and_eq_true] at hstamp
      exact hassigned.insert (by decide) hstamp.2 _
  · exact hassigned

end Write

/-! ## Well-formed tables -/

/-- A row that its table may hold. -/
structure RowMeets (spec : TableSpec) (checks : List Check)
    (row : Object) : Prop where
  layout : HasLayout spec row
  filled : ∀ c ∈ spec.columns, c.type ≠ .serial → c.nullable = false →
    ∃ v, row.get? c.name = some v ∧ v.isNull = false
  checked : ∀ check ∈ checks, check.holds row = true

/-- Two rows that may stand in one table: no unique column has
one text in both. -/
def Distinct (spec : TableSpec) (a b : Object) : Prop :=
  ∀ c ∈ spec.columns, c.unique = true → ∀ text,
    textAt a c.name = some text → textAt b c.name ≠ some text

theorem Distinct.symm {spec : TableSpec} {a b : Object}
    (h : Distinct spec a b) :
    Distinct spec b a :=
  fun c hc hu text hb ha => h c hc hu text ha hb

/-- The rows and the next key of a table fit its layout, its checks
and each other. -/
structure WellFormed (spec : TableSpec) (checks : List Check)
    (t : Table) : Prop where
  ascending : Ascending t.rows
  next_pos : 1 ≤ t.nextId
  keys_between : ∀ e ∈ t.rows, 1 ≤ e.1 ∧ e.1 < t.nextId
  rows_meet : ∀ e ∈ t.rows, RowMeets spec checks e.2
  distinct : ∀ a ∈ t.rows, ∀ b ∈ t.rows, a.1 ≠ b.1 → Distinct spec a.2 b.2

namespace WellFormed

variable {spec : TableSpec} {checks : List Check} {t : Table}

theorem empty : WellFormed spec checks .empty where
  ascending := List.Pairwise.nil
  next_pos := by decide
  keys_between e he := by simp [Table.empty] at he
  rows_meet e he := by simp [Table.empty] at he
  distinct a ha := by simp [Table.empty] at ha

/-- Taking rows away keeps a table well formed. -/
theorem sublist (h : WellFormed spec checks t) {rows : List (Int × Object)}
    (hs : rows.Sublist t.rows) :
    WellFormed spec checks { t with rows := rows } where
  ascending := h.ascending.sublist hs
  next_pos := h.next_pos
  keys_between e he := h.keys_between e (hs.subset he)
  rows_meet e he := h.rows_meet e (hs.subset he)
  distinct a ha b hb := h.distinct a (hs.subset ha) b (hs.subset hb)

/-- Writing a row that meets its layout and differs from all others. -/
theorem setRow (h : WellFormed spec checks t) {key next : Int} {row : Object}
    (hkey : 1 ≤ key ∧ key < next) (hnext : t.nextId ≤ next)
    (hrow : RowMeets spec checks row)
    (hothers : ∀ e ∈ t.rows, e.1 ≠ key → Distinct spec row e.2) :
    WellFormed spec checks ⟨next, Table.setRow key row t.rows⟩ where
  ascending := ascending_setRow h.ascending key row
  next_pos := by show 1 ≤ next; omega
  keys_between e he := by
    rcases (mem_setRow h.ascending).1 he with rfl | ⟨he, -⟩
    · exact hkey
    · have := h.keys_between e he
      show 1 ≤ e.1 ∧ e.1 < next
      omega
  rows_meet e he := by
    rcases (mem_setRow h.ascending).1 he with rfl | ⟨he, -⟩
    · exact hrow
    · exact h.rows_meet e he
  distinct a ha b hb hne := by
    rcases (mem_setRow h.ascending).1 ha with rfl | ⟨ha, hka⟩
    · rcases (mem_setRow h.ascending).1 hb with rfl | ⟨hb, hkb⟩
      · exact absurd rfl hne
      · exact hothers b hb hkb
    · rcases (mem_setRow h.ascending).1 hb with rfl | ⟨hb, -⟩
      · exact (hothers a ha hka).symm
      · exact h.distinct a ha b hb hne

/-- A write that succeeds keeps its table well formed, unless it writes to the
surrogate key. -/
theorem writeRow (h : WellFormed spec checks t) {name : String}
    {id : Option Int} {attributes row : Object} {now : Instant} {key : Int}
    {t' : Table} (hid : idColumn ∉ attributes.keys)
    (hw : Memory.writeRow spec checks name t id attributes now =
      .ok (key, row, t')) :
    WellFormed spec checks t' := by
  obtain ⟨hc, hshape⟩ := writeRow_ok hw
  obtain ⟨start, -, hs, -, -, hcon⟩ := completeRow_ok hc
  obtain ⟨hnull, hrep, hchecks⟩ := constrain_eq_ok_iff.1 hcon
  have hrow : RowMeets spec checks row :=
    ⟨completeRow_hasLayout hc hid fun e he => (h.rows_meet e he).layout,
      fun c hcol => value_of_leavesNull (hnull c hcol), hchecks⟩
  have hothers : ∀ e ∈ t.rows, id ≠ some e.1 → Distinct spec row e.2 := by
    intro e he hne c hcol hu text hrow hother
    have := hrep c hcol
    simp only [repeatsValue, hu, hrow, Bool.true_and, List.any_eq_false] at this
    exact this e he (by simp [hother, Ne.symm hne])
  rcases hshape with ⟨rfl, rfl⟩ | ⟨rfl, rfl, rfl⟩
  · obtain ⟨r, hr⟩ : ∃ r, t.row? key = some r := by
      cases hr : t.row? key with
      | none => simp [startRow, hr] at hs
      | some r => exact ⟨r, rfl⟩
    exact h.setRow (h.keys_between _ (mem_of_lookup hr)) (Int.le_refl _) hrow
      fun e he hne => hothers e he (by simpa using Ne.symm hne)
  · have := h.next_pos
    exact h.setRow ⟨this, by omega⟩ (by omega) hrow fun e he _ =>
      hothers e he (by simp)

end WellFormed

end Memory

end TenantTables
