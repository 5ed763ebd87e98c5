import Mathlib.Data.List.Forall2
import TenantTables.Proofs.TableRows

/-!
# Rows that a write makes

A write brings its attributes into the shape of their columns, one after
another, and puts them into the row that it starts from. So it succeeds
exactly if every attribute is that of a column which takes its value, and
the row is then held to the constraints of its table. Under a key that is
written the row has the value that was brought into shape, and under any
other what it had before.
-/

namespace TenantTables.Memory

open Json (Value Object)
open Time (Instant)

variable {spec : TableSpec} {name : String}
  {attributes written row row' : Object} {k : String} {v : Value}

/-! ## Attributes in the shape of their columns -/

/-- A field, and the same field in the shape of its column. -/
def Coerces (spec : TableSpec) (f g : String × Value) : Prop :=
  f.1 = g.1 ∧ ∃ c, spec.column? f.1 = some c ∧ c.coerce f.2 = .ok g.2

theorem assign_eq_ok_iff :
    assign spec name attributes row = .ok row' ↔
      ∃ written, List.Forall₂ (Coerces spec) attributes written ∧
        row' = row.insertAll written := by
  induction attributes generalizing row with
  | nil =>
      rw [assign, Except.ok.injEq]
      constructor
      · rintro rfl
        exact ⟨[], .nil, rfl⟩
      · rintro ⟨written, hwritten, rfl⟩
        rw [List.forall₂_nil_left_iff.1 hwritten]
        rfl
  | cons f attributes ih =>
      obtain ⟨key, v⟩ := f
      rw [assign]
      constructor
      · intro h
        split at h
        · cases h
        · next c hc =>
            split at h
            · cases h
            · next w hw =>
                obtain ⟨written, hwritten, rfl⟩ := ih.1 h
                exact ⟨(key, w) :: written,
                  .cons ⟨rfl, c, hc, hw⟩ hwritten, rfl⟩
      · rintro ⟨written, hwritten, rfl⟩
        obtain ⟨g, rest, ⟨hkey, c, hc, hw⟩, hrest, rfl⟩ :=
          List.forall₂_cons_left_iff.1 hwritten
        obtain ⟨l, w⟩ := g
        obtain rfl : key = l := hkey
        rw [hc]
        dsimp only
        rw [hw]
        exact ih.2 ⟨rest, hrest, rfl⟩

/-- Attributes that their columns take. -/
def Accepts (spec : TableSpec) (attributes : Object) : Prop :=
  ∀ f ∈ attributes, ∃ c w, spec.column? f.1 = some c ∧ c.coerce f.2 = .ok w

theorem exists_coerced (h : Accepts spec attributes) :
    ∃ written, List.Forall₂ (Coerces spec) attributes written := by
  induction attributes with
  | nil => exact ⟨[], .nil⟩
  | cons f attributes ih =>
      obtain ⟨c, w, hc, hw⟩ := h f List.mem_cons_self
      obtain ⟨written, hwritten⟩ :=
        ih fun g hg => h g (List.mem_cons_of_mem _ hg)
      exact ⟨(f.1, w) :: written, .cons ⟨rfl, c, hc, hw⟩ hwritten⟩

theorem accepts_of_coerced
    (h : List.Forall₂ (Coerces spec) attributes written) :
    Accepts spec attributes := by
  induction h with
  | nil => exact fun f hf => absurd hf List.not_mem_nil
  | cons hfield _ ih =>
      obtain ⟨-, c, hc, hw⟩ := hfield
      exact List.forall_mem_cons.2 ⟨⟨c, _, hc, hw⟩, ih⟩

theorem keys_of_coerced (h : List.Forall₂ (Coerces spec) attributes written) :
    written.keys = attributes.keys := by
  induction h with
  | nil => rfl
  | cons hfield _ ih =>
      rw [Object.keys, Object.keys, List.map_cons, List.map_cons, hfield.1]
      exact congrArg _ ih

theorem get?_of_coerced (h : List.Forall₂ (Coerces spec) attributes written)
    (hv : attributes.get? k = some v) :
    ∃ c w, spec.column? k = some c ∧ c.coerce v = .ok w ∧
      written.get? k = some w := by
  induction h with
  | nil => cases hv
  | @cons f g attributes written hfield _ ih =>
      obtain ⟨key, u⟩ := f
      obtain ⟨l, w⟩ := g
      obtain ⟨hkey, c, hc, hw⟩ := hfield
      obtain rfl : key = l := hkey
      by_cases hk : k = key
      · subst hk
        rw [Object.get?, List.lookup_cons_self] at hv
        obtain rfl := Option.some.inj hv
        exact ⟨c, w, hc, hw, List.lookup_cons_self⟩
      · rw [Object.get?, List.lookup_cons, beq_false_of_ne hk] at hv
        obtain ⟨c', w', hc', hw', hget⟩ := ih hv
        refine ⟨c', w', hc', hw', ?_⟩
        rw [Object.get?, List.lookup_cons, beq_false_of_ne hk]
        exact hget

/-! ## The row behind a write -/

theorem accepts_of_assign (h : assign spec name attributes row = .ok row') :
    Accepts spec attributes := by
  obtain ⟨written, hwritten, -⟩ := assign_eq_ok_iff.1 h
  exact accepts_of_coerced hwritten

theorem assign_of_accepts (h : Accepts spec attributes) (name : String)
    (row : Object) :
    ∃ row', assign spec name attributes row = .ok row' := by
  obtain ⟨written, hwritten⟩ := exists_coerced h
  exact ⟨_, assign_eq_ok_iff.2 ⟨written, hwritten, rfl⟩⟩

/-- Under a key that is written the row has the value in the
shape of its column. -/
theorem get?_assigned (h : assign spec name attributes row = .ok row')
    (hnodup : attributes.keys.Nodup) (hv : attributes.get? k = some v) :
    ∃ c w, spec.column? k = some c ∧ c.coerce v = .ok w ∧
      row'.get? k = some w := by
  obtain ⟨written, hwritten, rfl⟩ := assign_eq_ok_iff.1 h
  obtain ⟨c, w, hc, hw, hget⟩ := get?_of_coerced hwritten hv
  refine ⟨c, w, hc, hw, ?_⟩
  rw [Object.get?_insertAll (keys_of_coerced hwritten ▸ hnodup), hget,
    Option.some_or]

theorem get?_unassigned (h : assign spec name attributes row = .ok row')
    (hnodup : attributes.keys.Nodup) (hk : attributes.get? k = none) :
    row'.get? k = row.get? k := by
  obtain ⟨written, hwritten, rfl⟩ := assign_eq_ok_iff.1 h
  have hnone : Object.get? written k = none := by
    rw [Object.get?_eq_none_iff, keys_of_coerced hwritten]
    exact Object.get?_eq_none_iff.1 hk
  rw [Object.get?_insertAll (keys_of_coerced hwritten ▸ hnodup), hnone,
    Option.none_or]

section Write

variable {checks : List Check} {t : Table} {key : Int} {assigned : Object}
  {now : Instant}

/-- Writing a stored row again: it is assigned to and stamped, and meets the
constraints of its table. -/
theorem writeRow_stored (hrow : t.row? key = some row)
    (hassign : assign spec name attributes row = .ok assigned)
    (hstamp : spec.hasColumn "updated_at" = true)
    (hmeets : constrain spec checks name t (some key)
      (assigned.insert "updated_at" (.str now.toText)) = .ok ()) :
    writeRow spec checks name t (some key) attributes now =
      .ok (key, assigned.insert "updated_at" (.str now.toText),
        { t with
          rows := Table.setRow key
            (assigned.insert "updated_at" (.str now.toText)) t.rows }) := by
  have hcomplete : completeRow spec checks name t (some key) attributes now =
      .ok (assigned.insert "updated_at" (.str now.toText)) := by
    simp only [completeRow, startRow, hrow, hassign, hstamp, hmeets,
      Option.isSome_some, Bool.and_self, if_true, bind, Except.bind]
  rw [writeRow, hcomplete]
  rfl

end Write

/-! ## Rows under their keys -/

theorem row?_of_mem {t : Table} (h : Ascending t.rows) {key : Int}
    (hmem : (key, row) ∈ t.rows) :
    t.row? key = some row := by
  obtain ⟨before, after, hrows⟩ := List.append_of_mem hmem
  rw [Table.row?, hrows]
  rw [hrows] at h
  refine List.lookup_eq_some_iff.2 ⟨before, after, rfl, fun e he =>
    bne_iff_ne.2 ?_⟩
  have hlt : e.1 < key :=
    (List.pairwise_append.1 h).2.2 e he (key, row) List.mem_cons_self
  omega

theorem Ascending.eq_of_key {t : Table} (h : Ascending t.rows)
    {e e' : Int × Object} (he : e ∈ t.rows) (he' : e' ∈ t.rows)
    (hkey : e.1 = e'.1) : e = e' := by
  obtain ⟨key, row⟩ := e
  obtain ⟨key', row'⟩ := e'
  obtain rfl : key = key' := hkey
  rw [Option.some.inj ((row?_of_mem h he).symm.trans (row?_of_mem h he'))]

theorem length_setRow_of_mem {rows : List (Int × Object)} (h : Ascending rows)
    {key : Int} (hmem : (key, row) ∈ rows) (row' : Object) :
    (Table.setRow key row' rows).length = rows.length := by
  induction rows with
  | nil => cases hmem
  | cons e rows ih =>
      obtain ⟨i, r⟩ := e
      obtain ⟨hlt, hrest⟩ := List.pairwise_cons.1 h
      rw [Table.setRow]
      split
      · rfl
      · next hne =>
          have hmem' : (key, row) ∈ rows := by
            obtain heq | hmem := List.mem_cons.1 hmem
            · exact absurd (congrArg Prod.fst heq) hne
            · exact hmem
          have hbelow : i < key := hlt _ hmem'
          rw [if_neg (by omega), List.length_cons, List.length_cons,
            ih hrest hmem']

end TenantTables.Memory
