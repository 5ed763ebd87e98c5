import TenantTables.Proofs.PhysicalName
import TenantTables.Sql.Definition

/-!
# Names of tables and indexes

Tables and indexes have their names in one space. An index is named after its
table: the physical name, an underscore, and a name of its own. The dollar sign
of the physical name stays the first in such a name, so no two tenants ever meet
in one. Within a tenant they do meet, because nothing tells where the name of
the table ends: an underscore may stand in it, and in the name of the index too.

So two names of one tenant are equal in two ways only. Either a table is named
like an index of another, or the longer of two table names goes on where the
shorter one has its index, and the index of the shorter goes on with that of
the longer. What a layout guarantees of the names of its indexes, that they are
snake case, is needed in one place: there is no dollar sign in them.
-/

namespace TenantTables.Sql

open TableName (delimiter_not_mem_of_isSlug toList_physical)

/-! ## Index names of a layout -/

theorem isSlug_of_isSnakeCase {name : String}
    (h : isSnakeCase name = true) : IsSlug name := by
  unfold isSnakeCase at h
  split at h
  · cases h
  · next c cs hname =>
      rw [Bool.and_eq_true] at h
      have hfirst : isSlugChar c = true := by simp [isSlugChar, h.1]
      refine ⟨fun heq => by simp [heq] at hname, ?_⟩
      rw [hname, List.all_cons, hfirst, Bool.true_and]
      exact h.2

theorem isSnakeCase_of_validateIdentifier {name : String}
    {reserved : List String} (h : validateIdentifier name reserved = .ok ()) :
    isSnakeCase name = true := by
  unfold validateIdentifier at h
  split at h
  · cases h
  · split at h
    · cases h
    · next hsnake => simpa using hsnake

theorem validateIdentifier_of_validateNames {names : List String}
    (h : validateNames names = .ok ()) {name : String} (hname : name ∈ names) :
    validateIdentifier name [] = .ok () := by
  induction names with
  | nil => cases hname
  | cons first names ih =>
      rw [validateNames] at h
      split at h
      · cases h
      · next hfirst =>
          obtain rfl | hrest := List.mem_cons.1 hname
          · exact hfirst
          · exact ih h hrest

variable {spec : TableSpec} {t u : TableName} {i j : Index}

theorem isSlug_index (h : validateSpec spec = .ok ()) (hi : i ∈ spec.indexes) :
    IsSlug i.name := by
  unfold validateSpec at h
  split at h
  · cases h
  · next hnames =>
      have hmem :
          i.name ∈ spec.columns.map (·.name) ++ spec.indexes.map (·.name) :=
        List.mem_append_right _ (List.mem_map_of_mem hi)
      have hvalid := validateIdentifier_of_validateNames hnames hmem
      exact isSlug_of_isSnakeCase (isSnakeCase_of_validateIdentifier hvalid)

/-! ## Names of one tenant -/

theorem toList_indexName (t : TableName) (i : Index) :
    (indexName t.physical i).toList =
      t.tenant.toList ++
        tableDelimiter :: (t.table ++ "_" ++ i.name).toList := by
  simp [indexName, toList_physical]

theorem delimiter_not_mem_index (t : TableName) (hi : IsSlug i.name) :
    tableDelimiter ∉ (t.table ++ "_" ++ i.name).toList := by
  have htable := delimiter_not_mem_of_isSlug t.table_isSlug
  have hindex := delimiter_not_mem_of_isSlug hi
  have hglue : tableDelimiter ≠ '_' := by decide
  simp [htable, hindex, hglue]

theorem indexName_eq_indexName_iff (hi : IsSlug i.name) :
    indexName t.physical i = indexName u.physical j ↔
      t.tenant = u.tenant ∧
        t.table ++ "_" ++ i.name = u.table ++ "_" ++ j.name := by
  rw [← String.toList_inj, toList_indexName, toList_indexName,
    List.append_cons_inj_of_notMem (delimiter_not_mem_of_isSlug t.tenant_isSlug)
      (delimiter_not_mem_index t hi), String.toList_inj, String.toList_inj]
  simp only [true_and]

theorem indexName_eq_physical_iff (hi : IsSlug i.name) :
    indexName t.physical i = u.physical ↔
      t.tenant = u.tenant ∧ t.table ++ "_" ++ i.name = u.table := by
  rw [← String.toList_inj, toList_indexName, toList_physical,
    List.append_cons_inj_of_notMem (delimiter_not_mem_of_isSlug t.tenant_isSlug)
      (delimiter_not_mem_index t hi), String.toList_inj, String.toList_inj]
  simp only [true_and]

/-- Two texts glued at an underscore, one in front of the other: what lies
between the two places ends one front and begins the other's back. -/
theorem longer_front {front front' back back' : String} {between : List Char}
    (hne : front ≠ front') (hfront : front'.toList = front.toList ++ between)
    (hback : '_' :: back.toList = between ++ '_' :: back'.toList) :
    ∃ part, front' = front ++ "_" ++ part ∧ back = part ++ "_" ++ back' := by
  cases between with
  | nil =>
      rw [List.append_nil, String.toList_inj] at hfront
      exact absurd hfront.symm hne
  | cons c part =>
      rw [List.cons_append, List.cons.injEq] at hback
      obtain ⟨rfl, hback⟩ := hback
      refine ⟨String.ofList part, ?_, ?_⟩
      · simp [← String.toList_inj, hfront]
      · simp [← String.toList_inj, hback]

theorem glued_eq_glued_iff {front front' back back' : String}
    (hne : front ≠ front') :
    front ++ "_" ++ back = front' ++ "_" ++ back' ↔
      ∃ part, (front' = front ++ "_" ++ part ∧ back = part ++ "_" ++ back') ∨
        (front = front' ++ "_" ++ part ∧ back' = part ++ "_" ++ back) := by
  constructor
  · intro h
    have hlist : front.toList ++ '_' :: back.toList =
        front'.toList ++ '_' :: back'.toList := by
      simpa [← String.toList_inj] using h
    rcases List.append_eq_append_iff.1 hlist
      with ⟨_, hfront, hback⟩ | ⟨_, hfront, hback⟩
    · obtain ⟨part, hpart⟩ := longer_front hne hfront hback
      exact ⟨part, .inl hpart⟩
    · obtain ⟨part, hpart⟩ := longer_front hne.symm hfront hback
      exact ⟨part, .inr hpart⟩
  · rintro ⟨part, ⟨rfl, rfl⟩ | ⟨rfl, rfl⟩⟩
    · simp [String.append_assoc]
    · simp [String.append_assoc]

theorem table_ne_of_tenant_eq (hne : t ≠ u) (htenant : t.tenant = u.tenant) :
    t.table ≠ u.table := by
  intro htable
  apply hne
  apply TableName.physical_injective
  rw [TableName.physical, TableName.physical, htenant, htable]

theorem indexNames_meet_iff (hi : IsSlug i.name) (hne : t ≠ u) :
    indexName t.physical i = indexName u.physical j ↔
      t.tenant = u.tenant ∧ ∃ part : String,
        (u.table = t.table ++ "_" ++ part ∧ i.name = part ++ "_" ++ j.name) ∨
        (t.table = u.table ++ "_" ++ part ∧
          j.name = part ++ "_" ++ i.name) := by
  rw [indexName_eq_indexName_iff hi, and_congr_right_iff]
  intro htenant
  exact glued_eq_glued_iff (table_ne_of_tenant_eq hne htenant)

/-- In the general layout no index is named by a part, an underscore and the
name of an index, so index names never meet there. -/
theorem general_indexes_stay_apart (hne : t ≠ u)
    (hi : i ∈ TableSpec.default.indexes) (hj : j ∈ TableSpec.default.indexes) :
    indexName t.physical i ≠ indexName u.physical j := by
  have hslug : ∀ i ∈ TableSpec.default.indexes, IsSlug i.name := by decide
  have hsuffix : ∀ i ∈ TableSpec.default.indexes,
      ∀ j ∈ TableSpec.default.indexes,
      ¬ '_' :: j.name.toList <:+ i.name.toList := by decide
  have hpart : ∀ part : String, ∀ i ∈ TableSpec.default.indexes,
      ∀ j ∈ TableSpec.default.indexes, i.name ≠ part ++ "_" ++ j.name := by
    intro part i hi j hj hname
    apply hsuffix i hi j hj
    exact ⟨part.toList, by simp [hname]⟩
  rw [ne_eq, indexNames_meet_iff (hslug i hi) hne]
  rintro ⟨-, part, ⟨-, hname⟩ | ⟨-, hname⟩⟩
  · exact hpart part i hi j hj hname
  · exact hpart part j hj i hi hname

/-! ## All names of a layout -/

/-- The names that two different tables of one layout bring along meet within a
tenant only: two index names if the longer table name is the shorter one, an
underscore and a part, and the index of the shorter one is named by that part,
an underscore and the name of the other index; an index name and a table name if
the table is named like the other table with its index. -/
theorem relation_names_meet_iff (h : validateSpec spec = .ok ())
    (hi : i ∈ spec.indexes) (hne : t ≠ u) :
    (indexName t.physical i = indexName u.physical j ↔
      t.tenant = u.tenant ∧ ∃ part : String,
        (u.table = t.table ++ "_" ++ part ∧ i.name = part ++ "_" ++ j.name) ∨
        (t.table = u.table ++ "_" ++ part ∧ j.name = part ++ "_" ++ i.name)) ∧
    (indexName t.physical i = u.physical ↔
      t.tenant = u.tenant ∧ u.table = t.table ++ "_" ++ i.name) := by
  have hslug := isSlug_index h hi
  constructor
  · exact indexNames_meet_iff hslug hne
  · rw [indexName_eq_physical_iff hslug]
    exact and_congr Iff.rfl eq_comm

theorem eq_ok_of_isSome {r : Except Error Unit}
    (h : r.toOption.isSome = true) : r = .ok () := by
  cases r with
  | error e => cases h
  | ok _ => rfl

/-- A layout of the two keys with two indexes on the identifier, one
of them unique. -/
def twoIndexes : TableSpec :=
  ((TableSpec.bare "uid").withIndex ⟨"late_uid", ["uid"], true⟩).withIndex
    ⟨"uid", ["uid"], false⟩

theorem twoIndexes_valid : validateSpec twoIndexes = .ok () :=
  eq_ok_of_isSome (by decide +kernel)

/-- The unique index of `orders` is named like the plain one
of `orders_late`. -/
theorem orders_and_late_orders_meet :
    ∃ (t u : TableName) (i j : Index), t ≠ u ∧ i ∈ twoIndexes.indexes ∧
      j ∈ twoIndexes.indexes ∧ validateSpec twoIndexes = .ok () ∧
      indexName t.physical i = indexName u.physical j ∧
      indexName t.physical i ≠ u.physical := by
  let orders : TableName := ⟨"acme", "orders", by decide, by decide⟩
  let late : TableName := ⟨"acme", "orders_late", by decide, by decide⟩
  have hmeet := relation_names_meet_iff (t := orders) (u := late)
    (i := ⟨"late_uid", ["uid"], true⟩) (j := ⟨"uid", ["uid"], false⟩)
    twoIndexes_valid (by decide) (by decide)
  refine ⟨orders, late, _, _, by decide, by decide, by decide, twoIndexes_valid,
    hmeet.1.2 ⟨rfl, "late", .inl ⟨rfl, rfl⟩⟩, fun heq => ?_⟩
  exact absurd (hmeet.2.1 heq).2 (by decide)

/-- The table `orders_started_at` is named like the index of `orders` on its
starts, in the layout of stores that ask for no other. -/
theorem orders_started_at_is_taken :
    ∃ (t u : TableName) (i : Index), t ≠ u ∧ i ∈ TableSpec.default.indexes ∧
      validateSpec TableSpec.default = .ok () ∧
      validateTableName t.table [] = .ok () ∧
      validateTableName u.table [] = .ok () ∧
      indexName t.physical i = u.physical :=
  ⟨⟨"acme", "orders", by decide, by decide⟩,
    ⟨"acme", "orders_started_at", by decide, by decide⟩,
    ⟨"started_at", ["started_at"], false⟩, by decide, by decide,
    eq_ok_of_isSome (by decide +kernel), by rfl, by rfl, by decide⟩

end TenantTables.Sql
