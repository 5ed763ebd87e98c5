import Mathlib.Data.List.Nodup
import TenantTables.Proofs.GeneralLayout
import TenantTables.Proofs.SqlToken
import TenantTables.Proofs.StoreInvariant
import TenantTables.Sql.Definition

/-!
# Layouts that keep their two keys

A layout starts with two columns, the surrogate key and the identifier, and is
extended by columns and indexes. What is added under a new name leaves the
columns alone that are there, so an extended layout has its two keys exactly if
the one it starts from has.

The name of the identifier is free, and a name that the layout itself uses
breaks it. As the name of the surrogate key it stands twice in the definition of
a table, and the general layout puts its own column in the place of an
identifier that is named like one: that column may be null and repeated.
-/

namespace TenantTables

namespace TableSpec

/-- A column or an index that is added to a layout. -/
inductive Extension where
  | column (c : Column)
  | index (i : Index)
  deriving DecidableEq

namespace Extension

def column? : Extension → Option Column
  | column c => some c
  | index _ => none

def apply (spec : TableSpec) : Extension → TableSpec
  | column c => spec.withColumn c
  | index i => spec.withIndex i

end Extension

def extend (spec : TableSpec) (extensions : List Extension) : TableSpec :=
  extensions.foldl Extension.apply spec

/-- The names of the columns in order. -/
def names (spec : TableSpec) : List String :=
  spec.columns.map (·.name)

/-- The columns that are added have names of their own: none is twice among
them, and none is in the layout. -/
structure AddsNew (spec : TableSpec) (extensions : List Extension) : Prop where
  nodup : ((extensions.filterMap Extension.column?).map (·.name)).Nodup
  absent : ∀ c ∈ extensions.filterMap Extension.column?, c.name ∉ spec.names

/-- A column of each name, a surrogate key that the store numbers, and an
identifier that every row has to have and no two rows share. -/
structure Keyed (spec : TableSpec) : Prop where
  distinct : spec.names.Nodup
  surrogate : ∃ c, spec.column? idColumn = some c ∧ c.type = .serial
  identifier : ∃ c, spec.column? spec.idField = some c ∧ c.nullable = false ∧
    c.unique = true

variable {spec : TableSpec} {extensions : List Extension} {name f : String}
  {c : Column}

/-! ## What extensions leave alone -/

theorem withColumn_of_not_mem (h : c.name ∉ spec.names) :
    spec.withColumn c = { spec with columns := spec.columns ++ [c] } := by
  refine if_neg fun hany => ?_
  obtain ⟨other, hmem, hname⟩ := List.any_eq_true.1 hany
  exact h (List.mem_map.2 ⟨other, hmem, eq_of_beq hname⟩)

theorem AddsNew.withColumn (h : spec.AddsNew (.column c :: extensions)) :
    (spec.withColumn c).AddsNew extensions := by
  obtain ⟨hnodup, habsent⟩ := h
  obtain ⟨hnew, hrest⟩ := List.nodup_cons.1 hnodup
  obtain ⟨hc, hothers⟩ := List.forall_mem_cons.1 habsent
  refine ⟨hrest, fun d hd => ?_⟩
  rw [withColumn_of_not_mem hc, names, List.map_append, List.mem_append, not_or]
  refine ⟨hothers d hd, fun hmem => hnew ?_⟩
  rw [← List.mem_singleton.1 hmem]
  exact List.mem_map_of_mem hd

theorem AddsNew.columns_extend (h : spec.AddsNew extensions) :
    (spec.extend extensions).columns =
      spec.columns ++ extensions.filterMap Extension.column? := by
  induction extensions generalizing spec with
  | nil => exact (List.append_nil _).symm
  | cons extension extensions ih =>
      cases extension with
      | index i => exact ih ⟨h.nodup, h.absent⟩
      | column c =>
          have hc : c.name ∉ spec.names := h.absent c List.mem_cons_self
          have hrest := ih h.withColumn
          rw [withColumn_of_not_mem hc, List.append_assoc] at hrest
          rw [extend, List.foldl_cons, Extension.apply,
            withColumn_of_not_mem hc]
          exact hrest

theorem idField_extend (spec : TableSpec) (extensions : List Extension) :
    (spec.extend extensions).idField = spec.idField := by
  induction extensions generalizing spec with
  | nil => rfl
  | cons extension extensions ih =>
      refine (ih _).trans ?_
      cases extension with
      | index i => rfl
      | column c =>
          rw [Extension.apply, withColumn]
          split <;> rfl

theorem AddsNew.names_extend (h : spec.AddsNew extensions) :
    (spec.extend extensions).names =
      spec.names ++ (extensions.filterMap Extension.column?).map (·.name) := by
  rw [names, h.columns_extend, List.map_append, names]

theorem AddsNew.nodup_names_extend_iff (h : spec.AddsNew extensions) :
    (spec.extend extensions).names.Nodup ↔ spec.names.Nodup := by
  rw [h.names_extend, List.nodup_append]
  refine ⟨And.left, fun hnodup => ⟨hnodup, h.nodup, ?_⟩⟩
  rintro name hname _ hadded rfl
  obtain ⟨c, hc, rfl⟩ := List.mem_map.1 hadded
  exact h.absent c hc hname

theorem names_replaceColumn (c : Column) (columns : List Column) :
    (replaceColumn c columns).map (·.name) = columns.map (·.name) := by
  induction columns with
  | nil => rfl
  | cons d columns ih =>
      rw [replaceColumn]
      split
      · next heq => rw [List.map_cons, List.map_cons, eq_of_beq heq]
      · rw [List.map_cons, List.map_cons, ih]

/-- No name is lost, not even that of a column that is replaced. -/
theorem mem_names_extend (h : name ∈ spec.names) :
    name ∈ (spec.extend extensions).names := by
  induction extensions generalizing spec with
  | nil => exact h
  | cons extension extensions ih =>
      refine ih ?_
      cases extension with
      | index i => exact h
      | column c =>
          rw [Extension.apply, withColumn]
          split
          · rwa [names, names_replaceColumn]
          · rw [names, List.map_append]
            exact List.mem_append_left _ h

theorem find?_replaceColumn (h : c.name ≠ name) (columns : List Column) :
    (replaceColumn c columns).find? (·.name == name) =
      columns.find? (·.name == name) := by
  induction columns with
  | nil => rfl
  | cons d columns ih =>
      rw [replaceColumn]
      split
      · next heq =>
          have hd : d.name ≠ name := eq_of_beq heq ▸ h
          rw [List.find?_cons_of_neg (by simpa using h),
            List.find?_cons_of_neg (by simpa using hd)]
      · rw [List.find?_cons, List.find?_cons, ih]

/-- A column stays what it is unless one of its name is added. -/
theorem column?_withColumn (h : c.name ≠ name) (spec : TableSpec) :
    (spec.withColumn c).column? name = spec.column? name := by
  unfold withColumn
  split
  · exact find?_replaceColumn h spec.columns
  · rw [column?, List.find?_append, List.find?_cons_of_neg (by simpa using h),
      List.find?_nil, Option.or_none, column?]

theorem column?_extend
    (h : ∀ c ∈ extensions.filterMap Extension.column?, c.name ≠ name)
    (spec : TableSpec) :
    (spec.extend extensions).column? name = spec.column? name := by
  induction extensions generalizing spec with
  | nil => rfl
  | cons extension extensions ih =>
      cases extension with
      | index i => exact ih h (spec.withIndex i)
      | column c =>
          obtain ⟨hc, hrest⟩ := List.forall_mem_cons.1 h
          exact (ih hrest (spec.withColumn c)).trans
            (column?_withColumn hc spec)

theorem AddsNew.column?_extend (h : spec.AddsNew extensions)
    (hname : name ∈ spec.names) :
    (spec.extend extensions).column? name = spec.column? name :=
  TableSpec.column?_extend (fun c hc heq => h.absent c hc (heq ▸ hname)) spec

/-- An extended layout has its two keys if and only if the one that
was extended has. -/
theorem AddsNew.keyed_extend_iff (h : spec.AddsNew extensions)
    (hid : idColumn ∈ spec.names) (hfield : spec.idField ∈ spec.names) :
    (spec.extend extensions).Keyed ↔ spec.Keyed := by
  have hsurrogate := h.column?_extend hid
  have hidentifier := h.column?_extend hfield
  rw [← idField_extend spec extensions] at hidentifier
  constructor
  · rintro ⟨hnodup, hs, hi⟩
    rw [hsurrogate] at hs
    rw [hidentifier, idField_extend] at hi
    exact ⟨h.nodup_names_extend_iff.1 hnodup, hs, hi⟩
  · rintro ⟨hnodup, hs, hi⟩
    rw [← hsurrogate] at hs
    rw [← idField_extend spec extensions, ← hidentifier] at hi
    exact ⟨h.nodup_names_extend_iff.2 hnodup, hs, hi⟩

/-! ## The two keys alone -/

/-- The column of an identifier. -/
def identifierColumn (f : String) : Column :=
  ⟨f, .varchar 50, false, true, none⟩

theorem names_bare (f : String) : (bare f).names = [idColumn, f] :=
  rfl

theorem nodup_names_bare_iff : (bare f).names.Nodup ↔ f ≠ idColumn := by
  simp [names_bare, eq_comm]

theorem column?_bare (h : f ≠ idColumn) :
    (bare f).column? f = some (identifierColumn f) := by
  have hne : (idColumn == f) = false := beq_false_of_ne h.symm
  simp [column?, bare, identifierColumn, hne]

/-- With a name for each column the identifier is the one that was asked for. -/
theorem keyed_bare_iff : (bare f).Keyed ↔ f ≠ idColumn :=
  ⟨fun h => nodup_names_bare_iff.1 h.distinct, fun h =>
    ⟨nodup_names_bare_iff.2 h, ⟨_, rfl, rfl⟩, _, column?_bare h, rfl, rfl⟩⟩

/-! ## The two layouts to start from -/

theorem extend_columns_indexes (spec : TableSpec) (columns : List Column)
    (indexes : List Index) :
    spec.extend (columns.map .column ++ indexes.map .index) =
      indexes.foldl withIndex (columns.foldl withColumn spec) := by
  rw [extend, List.foldl_append, List.foldl_map, List.foldl_map]
  rfl

/-- The layout with nothing but the two keys, or the general one. -/
inductive Base where
  | bare
  | general

namespace Base

def layout : Base → String → TableSpec
  | bare => TableSpec.bare
  | general => records

/-- What a layout adds to the two keys. -/
def additions : Base → List Extension
  | bare => []
  | general =>
      (default.columns.drop 2).map .column ++ default.indexes.map .index

/-- The names of the columns that a layout adds to the two keys. -/
def added (base : Base) : List String :=
  (base.additions.filterMap Extension.column?).map (·.name)

/-- The names that a layout uses for columns other than the identifier. -/
def reserved (base : Base) : List String :=
  idColumn :: base.added

variable {base : Base}

theorem layout_eq_extend (base : Base) (f : String) :
    base.layout f = (TableSpec.bare f).extend base.additions := by
  cases base with
  | bare => rfl
  | general =>
      refine (extend_columns_indexes (TableSpec.bare f) _ _).symm.trans
        (congrArg _ ?_)
      decide

theorem nodup_reserved (base : Base) : base.reserved.Nodup := by
  cases base <;> decide

theorem idColumn_not_mem_added (base : Base) : idColumn ∉ base.added :=
  (List.nodup_cons.1 base.nodup_reserved).1

theorem addsNew (h : f ∉ base.added) :
    (TableSpec.bare f).AddsNew base.additions where
  nodup := (List.nodup_cons.1 base.nodup_reserved).2
  absent c hc := by
    have hmem : c.name ∈ base.added := List.mem_map_of_mem hc
    rw [names_bare, List.mem_pair, not_or]
    exact ⟨fun heq => base.idColumn_not_mem_added (heq ▸ hmem), fun heq =>
      h (heq ▸ hmem)⟩

theorem idField_layout (base : Base) (f : String) :
    (base.layout f).idField = f := by
  rw [layout_eq_extend, idField_extend]
  rfl

theorem idColumn_mem_names (base : Base) (f : String) :
    idColumn ∈ (base.layout f).names := by
  rw [layout_eq_extend]
  exact mem_names_extend List.mem_cons_self

theorem idField_mem_names (base : Base) (f : String) :
    f ∈ (base.layout f).names := by
  rw [layout_eq_extend]
  exact mem_names_extend (List.mem_cons_of_mem _ List.mem_cons_self)

/-- The first column is the surrogate key, whatever the identifier is called. -/
theorem column?_idColumn (base : Base) (f : String) :
    (base.layout f).column? idColumn =
      some { name := idColumn, type := .serial, nullable := false } := by
  rw [layout_eq_extend, column?_extend]
  · rfl
  · exact fun c hc heq =>
      base.idColumn_not_mem_added (heq ▸ List.mem_map_of_mem hc)

/-- Under a name of its own the identifier has the column that
was made for it. -/
theorem column?_idField (h : f ∉ base.reserved) :
    (base.layout f).column? f = some (identifierColumn f) := by
  rw [layout_eq_extend, column?_extend,
    column?_bare (List.ne_of_not_mem_cons h)]
  exact fun c hc heq =>
    List.not_mem_of_not_mem_cons h (heq ▸ List.mem_map_of_mem hc)

/-- An identifier that is named like a column that the layout adds is replaced
by it. No name is there twice then, but the column may repeat values. -/
theorem layout_of_mem_added (h : f ∈ base.added) :
    (base.layout f).names.Nodup ∧
      ((base.layout f).column? f).all (fun c => !c.unique) = true := by
  cases base with
  | bare => cases h
  | general =>
      have hall : ∀ f ∈ added general, (records f).names.Nodup ∧
          ((records f).column? f).all (fun c => !c.unique) = true := by
        decide
      exact hall f h

theorem nodup_names_iff (base : Base) (f : String) :
    (base.layout f).names.Nodup ↔ f ≠ idColumn := by
  by_cases h : f ∈ base.added
  · exact iff_of_true (layout_of_mem_added h).1 fun heq =>
      base.idColumn_not_mem_added (heq ▸ h)
  · rw [layout_eq_extend, (addsNew h).nodup_names_extend_iff,
      nodup_names_bare_iff]

theorem not_keyed_of_mem_added (h : f ∈ base.added) :
    ¬ (base.layout f).Keyed := by
  rintro ⟨-, -, c, hc, -, hunique⟩
  have hrepeats := (layout_of_mem_added h).2
  rw [idField_layout] at hc
  rw [hc, Option.all_some, hunique] at hrepeats
  cases hrepeats

theorem keyed_iff (base : Base) (f : String) :
    (base.layout f).Keyed ↔ f ∉ base.reserved := by
  by_cases h : f ∈ base.added
  · exact iff_of_false (not_keyed_of_mem_added h) fun hnot =>
      hnot (List.mem_cons_of_mem _ h)
  · rw [layout_eq_extend, (addsNew h).keyed_extend_iff List.mem_cons_self
      (List.mem_cons_of_mem _ List.mem_cons_self), keyed_bare_iff, reserved,
      List.mem_cons, not_or]
    exact (and_iff_left h).symm

end Base

end TableSpec

/-! ## What the keys are for -/

theorem Sql.quote_injective : Function.Injective quote := by
  intro s t h
  have hs := (reads_quote s).tokens_eq
  rw [h, (reads_quote t).tokens_eq] at hs
  simpa [eq_comm] using hs

namespace Memory

open TableSpec (identifierColumn)

/-- Every row has a text in the column, and no two have the same. -/
structure Table.IdentifiedBy (t : Table) (f : String) : Prop where
  present : ∀ e ∈ t.rows, ∃ text, textAt e.2 f = some text
  distinct : ∀ a ∈ t.rows, ∀ b ∈ t.rows, textAt a.2 f = textAt b.2 f → a.1 = b.1

/-- Where the identifier has its own column, the tables of a store are
identified by it. -/
theorem Store.Reachable.identifiedBy {s : Store} {tables : Tables}
    (h : s.Reachable tables) {f : String}
    (hcolumn : s.spec.column? f = some (identifierColumn f)) {n : String}
    {t : Table} (ht : tables.lookup n = some t) : t.IdentifiedBy f := by
  have hwf := h.sound n t ht
  obtain ⟨hmem, -⟩ := TableSpec.mem_of_column? hcolumn
  have hpresent : ∀ e ∈ t.rows, ∃ text, textAt e.2 f = some text := by
    intro e he
    obtain ⟨v, hv, hnull⟩ :=
      (hwf.rows_meet e he).filled _ hmem (by simp [identifierColumn]) rfl
    obtain ⟨text, htext⟩ := Json.Value.exists_toText? hnull
    exact ⟨text, textAt_eq_some_iff.2 ⟨v, hv, htext⟩⟩
  refine ⟨hpresent, fun a ha b hb heq => ?_⟩
  by_contra hne
  obtain ⟨text, htext⟩ := hpresent a ha
  exact hwf.distinct a ha b hb hne _ hmem rfl text htext (heq ▸ htext)

end Memory

namespace TableSpec

open Memory (Store Tables)

/-- A layout that is extended under new names has its two keys if and only if
the name of the identifier is none that the layout uses itself. It always has
a surrogate key. The definition of a table names a column twice if the
identifier is called like that one, and only then. With a name of its own the
identifier is in every row that a store can come to hold, and in no two rows
of a table the same. -/
theorem extended_layout_is_keyed_iff (base : Base) (f : String)
    {extensions : List Extension} (h : (base.layout f).AddsNew extensions) :
    (((base.layout f).extend extensions).Keyed ↔ f ∉ base.reserved) ∧
      (∃ c, ((base.layout f).extend extensions).column? idColumn = some c ∧
        c.type = .serial) ∧
      ((((base.layout f).extend extensions).columns.map fun c =>
        Sql.quote c.name).Nodup ↔
        f ≠ idColumn) ∧
      (f ∉ base.reserved → ∀ (s : Store) (tables : Tables),
        s.spec = (base.layout f).extend extensions → s.Reachable tables →
          ∀ n t, tables.lookup n = some t → t.IdentifiedBy f) := by
  have hid := base.idColumn_mem_names f
  have hf := base.idField_mem_names f
  refine ⟨?_,
    ⟨_, (h.column?_extend hid).trans (base.column?_idColumn f), rfl⟩, ?_, ?_⟩
  · rw [h.keyed_extend_iff hid ((base.idField_layout f).symm ▸ hf),
      base.keyed_iff]
  · have hquoted :
        (((base.layout f).extend extensions).columns.map fun c =>
          Sql.quote c.name) =
        ((base.layout f).extend extensions).names.map Sql.quote := by
      rw [names, List.map_map]
      rfl
    rw [hquoted, List.nodup_map_iff Sql.quote_injective,
      h.nodup_names_extend_iff, base.nodup_names_iff]
  · intro hreserved s tables hspec hreach n t ht
    refine hreach.identifiedBy ?_ ht
    rw [hspec, h.column?_extend hf, Base.column?_idField hreserved]

/-- A city for every order, and an index to look it up. -/
def cityOfOrder : List Extension :=
  [.column { name := "city", type := .text },
    .index { name := "city", columns := ["city"] }]

/-- Two orders are known by their codes. -/
theorem orders_are_identified_by_code :
    let s : Store := ⟨(records "code").extend cityOfOrder, []⟩
    (records "code").AddsNew cityOfOrder ∧ s.spec.Keyed ∧
      (s.spec.columns.map fun c => Sql.quote c.name).Nodup ∧
      ∃ (tables : Tables) (t : Memory.Table), s.Reachable tables ∧
        tables.lookup "acme$orders" = some t ∧ t.rows.map (·.1) = [1, 2] ∧
        t.IdentifiedBy "code" := by
  intro s
  have hadds : (records "code").AddsNew cityOfOrder := ⟨by decide, by decide⟩
  have hname : "code" ∉ Base.general.reserved := by decide
  obtain ⟨hkeyed, -, hquoted, hidentified⟩ :=
    extended_layout_is_keyed_iff Base.general "code" hadds
  obtain ⟨tables, hreach, hkeys⟩ : ∃ tables, s.Reachable tables ∧
      (tables.lookup "acme$orders").map (fun t => t.rows.map (·.1)) =
        some [1, 2] :=
    ⟨_, s.reachable_storing
      [[("code", .str "a")], [("code", .str "a")],
        [("code", .str "b"), ("city", .str "Bonn")]],
      by decide +kernel⟩
  obtain ⟨t, ht, hrows⟩ := Option.map_eq_some_iff.1 hkeys
  exact ⟨hadds, hkeyed.2 hname, hquoted.2 (by decide), tables, t, hreach,
    ht, hrows, hidentified hname s tables rfl hreach _ t ht⟩

/-- An identifier named `id` stands twice in the definition of its table,
and one named `started_at` is the start of the window of time, which may be
null and repeated. -/
theorem names_of_the_layout_break_the_identifier :
    Sql.createTable (bare "id") "acme$orders" =
        "CREATE TABLE IF NOT EXISTS \"acme$orders\" (" ++
          "\"id\" BIGSERIAL PRIMARY KEY NOT NULL, " ++
          "\"id\" VARCHAR(50) UNIQUE NOT NULL)" ∧
      ¬ (bare "id").names.Nodup ∧ ¬ (bare "id").Keyed ∧
      (records "started_at").column? "started_at" =
        some {
          name := "started_at", type := .timestamp, nullable := true
          unique := false } ∧
      ¬ (records "started_at").Keyed := by
  have hstart : ¬ (Base.general.layout "started_at").Keyed :=
    Base.not_keyed_of_mem_added (by decide)
  rw [Base.layout] at hstart
  exact ⟨by decide +kernel, by decide,
    fun h => absurd h.distinct (by decide), by decide, hstart⟩

end TableSpec

end TenantTables
