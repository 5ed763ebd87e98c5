import Mathlib.Data.List.Basic
import TenantTables.Proofs.ConditionBinding
import TenantTables.Proofs.PathReading
import TenantTables.Proofs.TableRows
import TenantTables.Proofs.ValueOrder

/-!
# A path, walked in memory and in the database

A name with dots leads into a document. In memory it is walked key by key, and
only through objects. The database is handed the path as a literal, reads a text
array from it, and walks on by keys through objects and by positions through
lists.

So there are two places where the walks can part. The elements of the literal
have no quotes around them, and without quotes a null is read where a segment
spells `NULL`. And a segment that reads as an integer selects an item of a list,
where in memory a list has nothing below it.
-/

namespace TenantTables.Sql

open Json (Value Object)
open Query (descend lookup present present?)

/-! ## The literal

No segment has a quote, a comma or a brace in it, so an element is read as the
segment that was written, except where it spells `NULL`. -/

/-- What stands between an opening and a closing character. -/
def inside? (opening closing : Char) : List Char → Option (List Char)
  | [] => none
  | c :: cs =>
      if c = opening ∧ cs.getLast? = some closing then some cs.dropLast
      else none

/-- An element of an array literal that is read as a null unless
it is in quotes. -/
def IsNullWord (element : String) : Prop :=
  Text.lowerAscii element = "null"

instance (element : String) : Decidable (IsNullWord element) :=
  inferInstanceAs (Decidable (_ = _))

/-- An element of an array literal without quotes. -/
def element? (element : String) : Option String :=
  if IsNullWord element then none else some element

/-- The elements of a text array that a literal holds, none of
them in quotes. -/
def elements? (literal : String) : Option (List (Option String)) :=
  (inside? '\'' '\'' literal.toList).bind fun text =>
    (inside? '{' '}' (Memory.unquoted text)).map fun cs =>
      (Text.split ',' (String.ofList cs)).map element?

theorem inside?_enclosed (opening closing : Char) (cs : List Char) :
    inside? opening closing (opening :: (cs ++ [closing])) = some cs := by
  simp [inside?]

theorem unquoted_of_not_mem {cs : List Char} (h : '\'' ∉ cs) :
    Memory.unquoted cs = cs := by
  fun_induction Memory.unquoted cs with
  | case1 rest ih => exact absurd (List.mem_cons_self ..) h
  | case2 c rest hquotes ih =>
      rw [List.mem_cons, not_or] at h
      rw [ih h.2]
  | case3 => rfl

theorem substitute_of_not_mem {c : Char} {s : String} (h : c ∉ s.toList)
    (image : List Char) :
    Text.substitute c image s = s := by
  have hsame : s.toList.flatMap (fun d => if d = c then image else [d]) =
      s.toList.flatMap fun d => [d] := by
    refine List.flatMap_congr fun d hd => if_neg ?_
    rintro rfl
    exact h hd
  rw [Text.substitute, hsame, List.flatMap_singleton', String.ofList_toList]

variable {path : List String}

theorem not_mem_of_isPathSegment {s : String}
    (h : TableSpec.isPathSegment s = true) {c : Char}
    (hc : TableSpec.isPathChar c = false) : c ∉ s.toList := by
  intro hmem
  rw [TableSpec.isPathSegment, Bool.and_eq_true, List.all_eq_true] at h
  exact Bool.false_ne_true (hc.symm.trans (h.2 c hmem))

theorem elements?_pathLiteral (h : path.all TableSpec.isPathSegment = true)
    (hne : path ≠ []) :
    elements? (pathLiteral path) = some (path.map element?) := by
  have hsegments : ∀ c, TableSpec.isPathChar c = false → ∀ s ∈ path,
      c ∉ s.toList :=
    fun c hc s hs => not_mem_of_isPathSegment (List.all_eq_true.1 h s hs) hc
  have hquote : '\'' ∉ (",".intercalate path).toList := by
    intro hmem
    rw [String.toList_intercalate] at hmem
    rcases Text.mem_intercalate hmem with hcomma | ⟨_, hpart, hc⟩
    · exact absurd hcomma (by decide)
    · obtain ⟨s, hs, rfl⟩ := List.mem_map.1 hpart
      exact hsegments '\'' (by decide) s hs hc
  have hliteral : (pathLiteral path).toList =
      '\'' ::
        (('{' :: ((",".intercalate path).toList ++ ['}'])) ++ ['\'']) := by
    have hopening : "'\x7b".toList = ['\'', '{'] := by decide
    have hclosing : "\x7d'".toList = ['}', '\''] := by decide
    rw [pathLiteral, substitute_of_not_mem hquote, String.toList_append,
      String.toList_append, hopening, hclosing]
    simp
  have hbraces : '\'' ∉ '{' :: ((",".intercalate path).toList ++ ['}']) := by
    simpa using hquote
  rw [elements?, hliteral, inside?_enclosed, Option.bind_some,
    unquoted_of_not_mem hbraces, inside?_enclosed, Option.map_some,
    String.ofList_toList,
    Text.split_intercalate rfl hne (hsegments ',' (by decide))]

/-! ## The two walks -/

/-- The item of a list at a position; below zero it is counted from the end. -/
def item? (items : List Value) (position : Int) : Option Value :=
  if 0 ≤ position then items[position.toNat]?
  else items.reverse[position.natAbs - 1]?

/-- What the database finds one step below a value. -/
def below? (v : Value) (step : String) : Option Value :=
  match v with
  | .obj fields => Object.get? fields step
  | .arr items => (Number.integerOf? step.toList).bind (item? items)
  | _ => none

/-- What the database finds along a path. A null selects nothing. -/
def select (v : Value) : List (Option String) → Option Value
  | [] => some v
  | none :: _ => none
  | some step :: steps => (below? v step).bind fun v => select v steps

/-- What `#>>` finds below a document: a JSON null comes out as
no text at all. -/
def extract (doc : Value) (literal : String) : Option Value :=
  present ((elements? literal).bind (select doc))

/-- A list is on the way, and the rest of the path selects something
by its positions. -/
def SelectsItem (v : Value) (path : List String) : Prop :=
  ∃ before behind items, path = before ++ behind ∧ behind ≠ [] ∧
    descend v before = some (.arr items) ∧
      (present (select (.arr items) (behind.map some))).isSome = true

variable {v : Value} {step : String}

theorem descend_eq_getAt (v : Value) (path : List String) :
    descend v path = Path.getAt v path := by
  induction path generalizing v with
  | nil => rfl
  | cons step path ih =>
      cases v with
      | obj fields =>
          rw [descend, Path.getAt_obj_cons]
          exact congrArg _ (funext ih)
      | _ => rfl

theorem select_of_mem_none {steps : List (Option String)} (h : none ∈ steps)
    (v : Value) :
    select v steps = none := by
  induction steps generalizing v with
  | nil => exact absurd h List.not_mem_nil
  | cons step steps ih =>
      cases step with
      | none => rfl
      | some step =>
          have hmem : none ∈ steps := by simpa using h
          rw [select, Option.bind_eq_none_iff]
          exact fun w _ => ih hmem w

theorem not_selectsItem_nil (v : Value) : ¬ SelectsItem v [] := by
  rintro ⟨before, behind, items, hpath, hne, -⟩
  exact hne (List.append_eq_nil_iff.1 hpath.symm).2

theorem selectsItem_arr {items : List Value} :
    SelectsItem (.arr items) (step :: path) ↔
      (present (select (.arr items) ((step :: path).map some))).isSome =
        true := by
  constructor
  · rintro ⟨before, behind, others, hpath, -, hlist, hsome⟩
    cases before with
    | nil =>
        obtain rfl := Value.arr.inj (Option.some.inj hlist)
        rw [hpath]
        exact hsome
    | cons key before => cases hlist
  · intro h
    exact ⟨[], step :: path, items, rfl, List.cons_ne_nil _ _, rfl, h⟩

theorem selectsItem_of_not_arr (h : ∀ items, v ≠ .arr items) :
    SelectsItem v (step :: path) ↔
      ∃ w, descend v [step] = some w ∧ SelectsItem w path := by
  have hsplit : ∀ before, descend v (step :: before) =
      (descend v [step]).bind fun w => descend w before := by
    intro before
    cases v with
    | obj fields => simp [descend]
    | _ => rfl
  constructor
  · rintro ⟨before, behind, items, hpath, hne, hlist, hsome⟩
    cases before with
    | nil => exact absurd (Option.some.inj hlist) (h items)
    | cons key before =>
        obtain ⟨rfl, rfl⟩ := List.cons.inj hpath
        rw [hsplit, Option.bind_eq_some_iff] at hlist
        obtain ⟨w, hw, hlist⟩ := hlist
        exact ⟨w, hw, before, behind, items, rfl, hne, hlist, hsome⟩
  · rintro ⟨w, hw, before, behind, items, rfl, hne, hlist, hsome⟩
    refine ⟨step :: before, behind, items, rfl, hne, ?_, hsome⟩
    rw [hsplit, hw]
    exact hlist

/-- Where no null is on the way, the walks part at the lists that
have an item there. -/
theorem descend_eq_select_iff (v : Value) (path : List String) :
    present (descend v path) = present (select v (path.map some)) ↔
      ¬ SelectsItem v path := by
  -- Through an object the walks go on to the same field, and nothing else
  -- is below in memory.
  induction path generalizing v with
  | nil => exact iff_of_true rfl (not_selectsItem_nil v)
  | cons step path ih =>
      cases v with
      | arr items =>
          rw [selectsItem_arr, Option.not_isSome_iff_eq_none]
          exact eq_comm
      | obj fields =>
          rw [selectsItem_of_not_arr (by rintro items ⟨⟩)]
          cases hfield : Object.get? fields step with
          | none => simp [descend, select, below?, hfield]
          | some w => simp [descend, select, below?, hfield, ih]
      | _ =>
          rw [selectsItem_of_not_arr (by rintro items ⟨⟩)]
          simp [descend, select, below?]

/-! ## Below a column -/

variable {spec : TableSpec} {name : String} {r : ColumnRef} {row : Object}
  {doc : Value}

/-- A row of a table with this layout has no fields but the columns. -/
def HasOnlyColumns (spec : TableSpec) (row : Object) : Prop :=
  ∀ key ∈ row.keys, key = idColumn ∨ spec.hasColumn key = true

/-- The rows that queries are answered from are such rows. -/
theorem storedRow_hasOnlyColumns {attributes : Object}
    (h : Memory.HasLayout spec attributes) (id : Int) :
    HasOnlyColumns spec (Memory.storedRow id attributes) := by
  intro key hkey
  rcases (Object.mem_keys_insertAll _).1 hkey with hid | hkey
  · exact .inl (List.mem_singleton.1 hid)
  · obtain ⟨v, hv⟩ := Object.mem_keys_iff.1 hkey
    rw [Record.ofStored, Record.withoutId, Object.get?_filter (· != idColumn)]
      at hv
    split at hv
    · exact .inr ((h.mem_keys key).1 (Object.mem_keys_iff.2 ⟨v, hv⟩)).2
    · cases hv

theorem split_of_columnRef? (h : spec.columnRef? name = some r)
    (hnested : r.isNested = true) :
    spec.column? name = none ∧ spec.column? r.column.name = some r.column ∧
      Text.split '.' name = r.column.name :: r.path := by
  unfold TableSpec.columnRef? at h
  split at h
  · obtain rfl := Option.some.inj h
    cases hnested
  · next hname =>
      split at h
      · next head path hsplit =>
          split at h
          · next column hcolumn =>
              split at h
              · obtain rfl := Option.some.inj h
                have hhead : column.name = head := by
                  simpa using List.find?_some hcolumn
                exact ⟨hname, hhead ▸ hcolumn, hhead ▸ hsplit⟩
              · cases h
          · cases h
      · cases h

/-- A name that leads below a column is no key of a row. -/
theorem lookup_of_columnRef? (h : spec.columnRef? name = some r)
    (hnested : r.isNested = true) (hrow : HasOnlyColumns spec row)
    (hdoc : row.get? r.column.name = some doc) :
    lookup row name = descend doc r.path := by
  obtain ⟨hname, -, hsplit⟩ := split_of_columnRef? h hnested
  have hkey : name ∉ row.keys := by
    intro hmem
    rcases hrow name hmem with rfl | hcolumn
    · have hpath : r.path = [] := (List.cons.inj hsplit).2.symm
      rw [ColumnRef.isNested, hpath] at hnested
      cases hnested
    · rw [TableSpec.hasColumn, hname] at hcolumn
      cases hcolumn
  rw [lookup, Object.get?_eq_none_iff.2 hkey, hsplit]
  show (row.get? r.column.name).bind _ = _
  rw [hdoc, Option.bind_some]

theorem extract_pathLiteral (h : spec.columnRef? name = some r)
    (hnested : r.isNested = true) (doc : Value) :
    extract doc (pathLiteral r.path) =
      present (select doc (r.path.map element?)) := by
  have hne : r.path ≠ [] := by
    intro hpath
    rw [ColumnRef.isNested, hpath] at hnested
    cases hnested
  rw [extract, elements?_pathLiteral (path_of_columnRef? h) hne,
    Option.bind_some]

theorem map_element?_of_plain (h : ∀ segment ∈ path, ¬ IsNullWord segment) :
    path.map element? = path.map some :=
  List.map_congr_left fun segment hmem => if_neg (h segment hmem)

theorem select_of_nullWord (h : ∃ segment ∈ path, IsNullWord segment)
    (doc : Value) :
    select doc (path.map element?) = none := by
  obtain ⟨segment, hmem, hnull⟩ := h
  exact select_of_mem_none (List.mem_map.2 ⟨segment, hmem, if_pos hnull⟩) doc

/-- Below a document the database finds what is found in memory exactly if no
null is on the way to something, and no list with an item for the path. -/
theorem present?_eq_extract_iff (h : spec.columnRef? name = some r)
    (hnested : r.isNested = true) (hrow : HasOnlyColumns spec row)
    (hdoc : row.get? r.column.name = some doc) :
    present? row name = extract doc (pathLiteral r.path) ↔
      if ∃ segment ∈ r.path, IsNullWord segment then present? row name = none
      else ¬ SelectsItem doc r.path := by
  rw [extract_pathLiteral h hnested]
  split
  · next hnull =>
      rw [select_of_nullWord hnull]
      rfl
  · next hplain =>
      rw [not_exists] at hplain
      have hno : ∀ segment ∈ r.path, ¬ IsNullWord segment :=
        fun segment hmem hnull => hplain segment ⟨hmem, hnull⟩
      rw [map_element?_of_plain hno, ← descend_eq_select_iff,
        ← lookup_of_columnRef? h hnested hrow hdoc]
      rfl

/-! ## Documents that tell the walks apart

Below the nested objects that a path describes both walks find what was
put there. Where a segment is an integer, a list that is long enough has
an item for it. -/

theorem descend_nest (before : List String) (v : Value) :
    descend (Path.nest before v) before = some v := by
  rw [descend_eq_getAt, Path.getAt_nest]

theorem select_nest (path : List String) (v : Value) :
    select (Path.nest path v) (path.map some) = some v := by
  induction path with
  | nil => rfl
  | cons step path ih => simpa [Path.nest, select, below?, Object.get?] using ih

theorem item?_replicate (position : Int) (v : Value) :
    item? (List.replicate (position.natAbs + 1) v) position = some v := by
  unfold item?
  split
  · rw [List.getElem?_replicate_of_lt (by omega)]
  · rw [List.reverse_replicate, List.getElem?_replicate_of_lt (by omega)]

theorem exists_selectsItem {segment : String} (hmem : segment ∈ path)
    (hinteger : (Number.integerOf? segment.toList).isSome = true) :
    ∃ doc, SelectsItem doc path := by
  obtain ⟨position, hposition⟩ := Option.isSome_iff_exists.1 hinteger
  obtain ⟨before, behind, rfl⟩ := List.append_of_mem hmem
  let items := List.replicate (position.natAbs + 1) (Path.nest behind (.str ""))
  refine ⟨Path.nest before (.arr items), before, segment :: behind, items, rfl,
    List.cons_ne_nil _ _, descend_nest before _, ?_⟩
  have hitem :
      below? (.arr items) segment = some (Path.nest behind (.str "")) := by
    rw [below?, hposition, Option.bind_some, item?_replicate]
  rw [List.map_cons, select, hitem, Option.bind_some, select_nest]
  rfl

theorem not_selectsItem_of_no_integer
    (h : ∀ segment ∈ path, Number.integerOf? segment.toList = none) :
    ¬ SelectsItem doc path := by
  rintro ⟨before, behind, items, rfl, hne, -, hsome⟩
  obtain ⟨segment, behind, rfl⟩ := List.exists_cons_of_ne_nil hne
  rw [List.map_cons, select, below?, h segment (by simp)] at hsome
  cases hsome

theorem hasOnlyColumns_single (h : spec.columnRef? name = some r)
    (hnested : r.isNested = true) (doc : Value) :
    HasOnlyColumns spec [(r.column.name, doc)] := by
  intro key hkey
  obtain rfl := List.mem_singleton.1 hkey
  refine .inr ?_
  rw [TableSpec.hasColumn, (split_of_columnRef? h hnested).2.1]
  rfl

/-- Where the walks never part, no segment spells `NULL` or is an integer. -/
theorem plain_of_alike (h : spec.columnRef? name = some r)
    (hnested : r.isNested = true)
    (halike : ∀ row doc, HasOnlyColumns spec row →
      row.get? r.column.name = some doc →
      present? row name = extract doc (pathLiteral r.path)) :
    ∀ segment ∈ r.path,
      ¬ IsNullWord segment ∧ Number.integerOf? segment.toList = none := by
  -- Rows that have nothing but a document are enough.
  have hcolumns := hasOnlyColumns_single h hnested
  have hget : ∀ doc,
      Object.get? [(r.column.name, doc)] r.column.name = some doc := by
    intro doc
    simp [Object.get?]
  have hiff :=
    fun doc => (present?_eq_extract_iff h hnested (hcolumns doc) (hget doc)).1
      (halike _ doc (hcolumns doc) (hget doc))
  have hno : ∀ segment ∈ r.path, ¬ IsNullWord segment := by
    intro segment hmem hnull
    have hnone := hiff (Path.nest r.path (.str ""))
    rw [if_pos ⟨segment, hmem, hnull⟩] at hnone
    change present (lookup _ name) = none at hnone
    rw [lookup_of_columnRef? h hnested (hcolumns _) (hget _), descend_nest]
      at hnone
    cases hnone
  intro segment hmem
  refine ⟨hno segment hmem, Option.not_isSome_iff_eq_none.1 fun hinteger => ?_⟩
  obtain ⟨doc, hselects⟩ := exists_selectsItem hmem hinteger
  have hnone : ¬ ∃ segment ∈ r.path, IsNullWord segment := by simpa using hno
  have hnot := hiff doc
  rw [if_neg hnone] at hnot
  exact hnot hselects

/-- A name that leads into a document finds the same in memory and in the
database, exactly if no segment that spells `NULL` leads to something in memory,
and no list has an item at a position that a segment gives. So it does for every
document exactly if no segment spells `NULL` or is an integer. -/
theorem nested_column_resolves_alike_iff (h : spec.columnRef? name = some r)
    (hnested : r.isNested = true) :
    (∀ row doc, HasOnlyColumns spec row → row.get? r.column.name = some doc →
      (present? row name = extract doc (pathLiteral r.path) ↔
        if ∃ segment ∈ r.path, IsNullWord segment then present? row name = none
        else ¬ SelectsItem doc r.path)) ∧
    ((∀ row doc, HasOnlyColumns spec row → row.get? r.column.name = some doc →
        present? row name = extract doc (pathLiteral r.path)) ↔
      ∀ segment ∈ r.path,
        ¬ IsNullWord segment ∧ Number.integerOf? segment.toList = none) := by
  refine ⟨fun row doc => present?_eq_extract_iff h hnested,
    plain_of_alike h hnested, ?_⟩
  intro hplain row doc hrow hdoc
  have hnone : ¬ ∃ segment ∈ r.path, IsNullWord segment := by
    rintro ⟨segment, hmem, hnull⟩
    exact (hplain segment hmem).1 hnull
  refine (present?_eq_extract_iff h hnested hrow hdoc).2 ?_
  rw [if_neg hnone]
  exact not_selectsItem_of_no_integer fun segment hmem =>
    (hplain segment hmem).2

/-- The documents of the general layout. -/
def dataColumn : Column := { name := "data", type := .json }

/-- The row of an order that has a colour, as queries find it. -/
theorem color_of_order_resolves_alike :
    let color : Value := .obj [("color", .obj [("name", .str "red")])]
    let blank := Memory.blankRow .default ⟨0, 0⟩
    let order := Memory.storedRow 7 (blank.insert "data" color)
    TableSpec.default.columnRef? "data.color.name" =
        some ⟨dataColumn, ["color", "name"]⟩ ∧
      HasOnlyColumns .default order ∧
      order.get? "data" = some color ∧
      present? order "data.color.name" =
        extract color (pathLiteral ["color", "name"]) := by
  intro color blank order
  have href : TableSpec.default.columnRef? "data.color.name" =
      some ⟨dataColumn, ["color", "name"]⟩ := by decide +kernel
  have hplain : ∀ segment ∈ ["color", "name"], ¬IsNullWord segment ∧
      Number.integerOf? segment.toList = none := by decide +kernel
  have hlayout : Memory.HasLayout .default (blank.insert "data" color) :=
    (Memory.blankRow_hasLayout .default _).insert (by decide)
      (by decide +kernel) _
  have hrow := storedRow_hasOnlyColumns hlayout 7
  have hdoc : order.get? "data" = some color := by rfl
  exact ⟨href, hrow, hdoc,
    (nested_column_resolves_alike_iff href rfl).2.2 hplain _ _ hrow hdoc⟩

/-- In memory there is something under the key `null` and nothing under the key
`0` of a list; in the database it is the other way round. -/
theorem null_and_first_item_resolve_apart :
    let doc : Value :=
      .obj [("null", .str "x"), ("items", .arr [.int 1, .int 2])]
    (TableSpec.default.columnRef? "data.null" = some ⟨dataColumn, ["null"]⟩ ∧
      present? [("data", doc)] "data.null" = some (.str "x") ∧
      extract doc (pathLiteral ["null"]) = none) ∧
    (TableSpec.default.columnRef? "data.items.0" =
      some ⟨dataColumn, ["items", "0"]⟩ ∧
      present? [("data", doc)] "data.items.0" = none ∧
      extract doc (pathLiteral ["items", "0"]) = some (.int 1)) :=
  ⟨⟨by decide +kernel, rfl, rfl⟩, by decide +kernel, rfl, rfl⟩

end TenantTables.Sql
