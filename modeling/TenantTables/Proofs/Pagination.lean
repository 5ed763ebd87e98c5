import Mathlib.Algebra.Order.Floor.Div
import TenantTables.Proofs.SortedRows
import TenantTables.Proofs.TableRows
import TenantTables.Proofs.WorkView

/-!
# Pages of a listing

A page is a window on the selected rows in their order, and three things about
it are computed apart from each other: which rows it has, where it says they
stand, and how many pages there are. They fit together: windows of one size laid
side by side are the whole, the last page is the last window that is not empty,
and a window tells its place by its offset.

The same rows are listed page by page and all at once, as records. A row has its
surrogate key in front, so nothing is lost on the way through a record as long
as the key is a signed 64-bit integer.

Either way the rows are sorted first. Where they cannot be, there are neither
pages nor records: more than twenty rows whose values go round in a circle
may end the operation.
-/

namespace TenantTables

open Json (Value Object)
open Query (Descriptor maxPage)

/-! ## Windows -/

/-- The part of a list that is its `n`-th page, counted from one. -/
def window {α : Type} (xs : List α) (size n : Nat) : List α :=
  (xs.drop ((n - 1) * size)).take size

section Window

variable {α : Type} {xs : List α} {size n : Nat}

theorem flatMap_window (xs : List α) (size k : Nat) :
    (List.range' 1 k).flatMap (window xs size) = xs.take (k * size) := by
  induction k with
  | zero => simp
  | succ k ih =>
      rw [List.range'_1_concat, List.flatMap_append, ih, Nat.succ_mul,
        List.take_add]
      simp [window]

theorem length_window (xs : List α) (size n : Nat) :
    (window xs size n).length = min size (xs.length - (n - 1) * size) := by
  rw [window, List.length_take, List.length_drop]

/-- A window that is not empty begins inside of the list. -/
theorem offset_lt_of_window_ne_nil (h : window xs size n ≠ []) :
    (n - 1) * size < xs.length := by
  have hpos := List.length_pos_iff.2 h
  rw [length_window] at hpos
  omega

theorem window_eq_extract :
    window xs size n =
      xs.extract ((n - 1) * size)
        ((n - 1) * size + (window xs size n).length) := by
  rw [List.extract, Nat.add_sub_cancel_left, length_window, ← List.length_drop,
    ← List.take_eq_take_min]
  rfl

end Window

/-! ## What a page says -/

/-- The number of the last page, when so many rows are listed in
pages of a size. -/
def lastPage (total size : Nat) : Nat := max 1 (total ⌈/⌉ size)

theorem length_le_lastPage_mul {size : Nat} (h : 1 ≤ size) (total : Nat) :
    total ≤ lastPage total size * size := by
  have hceil : total ≤ size * (total ⌈/⌉ size) :=
    (ceilDiv_le_iff_le_mul (Nat.lt_of_lt_of_le Nat.zero_lt_one h)).1 le_rfl
  calc
    total ≤ size * (total ⌈/⌉ size) := hceil
    _ ≤ size * lastPage total size := Nat.mul_le_mul_left _ (le_max_right _ _)
    _ = lastPage total size * size := Nat.mul_comm _ _

namespace Page

/-- Where the rows of a page stand among all rows, counted from one. -/
def Stands (p : Page) (objects : List Object) : Prop :=
  ∃ first final, p.first? = some first ∧ p.last? = some final ∧
    1 ≤ first ∧ first ≤ final ∧ final ≤ objects.length ∧
    p.rows = objects.extract (first - 1) final

/-- Pages that show each of these rows once, and say of
themselves what is so. -/
structure Cover (objects : List Object) (size : Nat)
    (pages : Nat → Page) : Prop where
  total : ∀ n, (pages n).total = objects.length
  last : ∀ n, (pages n).last = lastPage objects.length size
  last_le : lastPage objects.length size ≤ maxPage
  rows : (List.range' 1 (lastPage objects.length size)).flatMap
    (fun n => (pages n).rows) = objects
  stands : ∀ n, 1 ≤ n → (pages n).rows ≠ [] → (pages n).Stands objects
  beyond : ∀ n, lastPage objects.length size < n →
    (pages n).rows = [] ∧ (pages n).first? = none ∧ (pages n).last? = none

/-- The numbers that are formed on the way to a page fit an unsigned 64-bit
word, if the number of rows does. -/
structure FitsWord (d : Descriptor) (p : Page) : Prop where
  offset : (d.page - 1) * d.pageSize < 2 ^ 64
  first : d.offset + 1 < 2 ^ 64
  final : d.offset + p.rows.length < 2 ^ 64
  last : p.last ≤ max 1 p.total

/-- The number of pages, a size of zero counting as one. -/
theorem last_eq (d : Descriptor) (total : Nat) (rows : List Object) :
    (Page.of d total rows).last = lastPage total (max 1 d.pageSize) := by
  have hone : ∀ n : Nat, (if n = 0 then 1 else n) = max 1 n := fun n => by
    split <;> omega
  show (if ceilDiv total _ = 0 then 1 else ceilDiv total _) = _
  rw [hone, hone, lastPage, Nat.ceilDiv_eq_add_pred_div, ceilDiv]

theorem cover_of {d : Descriptor} {objects : List Object} {pages : Nat → Page}
    (hpages : ∀ n, pages n =
      Page.of { d with page := n } objects.length (window objects d.pageSize n))
    (hsize : 1 ≤ d.pageSize) (hfits : objects.length ≤ d.pageSize * maxPage) :
    Cover objects d.pageSize pages := by
  have hrows : ∀ n, (pages n).rows = window objects d.pageSize n := fun n => by
    rw [hpages]
    rfl
  have hwhole := length_le_lastPage_mul hsize objects.length
  refine ⟨fun n => ?_, fun n => ?_, ?_, ?_, fun n hn hne =>
    ?_, fun n hlast => ?_⟩
  · rw [hpages]
    rfl
  · rw [hpages, last_eq]
    exact congrArg (lastPage objects.length) (max_eq_right hsize)
  · exact max_le (by decide) ((ceilDiv_le_iff_le_mul (by omega)).2 hfits)
  · simp only [hrows]
    rw [flatMap_window, List.take_of_length_le hwhole]
  · rw [hrows] at hne
    have hlength := List.length_pos_iff.2 hne
    have hoffset := offset_lt_of_window_ne_nil hne
    have hend := length_window objects d.pageSize n
    have hwindow : (window objects d.pageSize n).isEmpty = false := by
      rwa [List.isEmpty_eq_false_iff]
    refine ⟨(n - 1) * d.pageSize + 1,
      (n - 1) * d.pageSize + (window objects d.pageSize n).length, ?_, ?_, ?_,
      ?_, ?_, ?_⟩
    · rw [hpages, Page.of, hwindow]
      rfl
    · rw [hpages, Page.of, hwindow]
      rfl
    · omega
    · omega
    · omega
    · rw [hrows, Nat.add_sub_cancel]
      exact window_eq_extract
  · have hempty : window objects d.pageSize n = [] := by
      by_contra hne
      have hoffset := offset_lt_of_window_ne_nil hne
      have hbehind : lastPage objects.length d.pageSize * d.pageSize ≤
          (n - 1) * d.pageSize :=
        Nat.mul_le_mul_right _ (by omega)
      omega
    rw [hpages, hempty]
    exact ⟨rfl, rfl, rfl⟩

theorem fitsWord_of (d : Descriptor) (hpage : d.page ≤ maxPage)
    (hsize : d.pageSize ≤ maxPage) (total : Nat) {rows : List Object}
    (hrows : rows.length ≤ d.pageSize) : FitsWord d (Page.of d total rows) := by
  have hoffset : d.offset ≤ (maxPage - 1) * maxPage :=
    Nat.mul_le_mul (by omega) hsize
  have hbound : (maxPage - 1) * maxPage + maxPage < 2 ^ 64 := by
    decide
  have hone : 1 ≤ maxPage := by decide
  refine ⟨?_, by omega, ?_, ?_⟩
  · exact Nat.lt_of_le_of_lt hoffset (by omega)
  · have hlength : (Page.of d total rows).rows.length ≤ maxPage :=
      Nat.le_trans hrows hsize
    omega
  · rw [last_eq]
    have hpos : 0 < max 1 d.pageSize := by omega
    have hle : total ⌈/⌉ max 1 d.pageSize ≤ total :=
      (ceilDiv_le_iff_le_mul hpos).2 (Nat.le_mul_of_pos_left total hpos)
    exact max_le_max_left 1 hle

end Page

/-! ## Rows and records in their order -/

namespace Memory

variable {spec : TableSpec} {t : Table} {f : Query.Filter}
  {sorts : List Query.SortTerm}

/-- The rows that a filter selects, in the order of their keys. -/
def selectedObjects (spec : TableSpec) (t : Table) (f : Query.Filter) :
    List Object :=
  t.objects.filter (knownFilter spec f).holds

/-- The selected rows are few, or have values that are in order under each
column of the sort. -/
def Sortable (spec : TableSpec) (t : Table) (f : Query.Filter)
    (sorts : List Query.SortTerm) : Prop :=
  (selectedObjects spec t f).length ≤ 20 ∨
    Query.Sortable (knownSorts spec sorts) (selectedObjects spec t f)

theorem Sortable.ne_none (h : Sortable spec t f sorts) :
    matchingRows spec t f sorts ≠ none := by
  obtain ⟨sorted, hsort⟩ := Query.exists_sortRows h
  exact fun hnone => Option.some_ne_none sorted (hsort.symm.trans hnone)

/-- Without a sort the rows stay in the order of their keys. -/
theorem matchingRows_nil (spec : TableSpec) (t : Table) (f : Query.Filter) :
    matchingRows spec t f [] = some (selectedObjects spec t f) := rfl

theorem perm_matchingRows {rows : List Object}
    (h : matchingRows spec t f sorts = some rows) :
    rows.Perm (selectedObjects spec t f) :=
  Query.perm_sortRows h

theorem storedRow_of_mem_matchingRows {rows : List Object} {row : Object}
    (h : matchingRows spec t f sorts = some rows) (hrow : row ∈ rows) :
    ∃ e ∈ t.rows, row = storedRow e.1 e.2 := by
  rw [(perm_matchingRows h).mem_iff, selectedObjects, List.mem_filter,
    Table.objects, List.mem_map] at hrow
  obtain ⟨⟨e, he, rfl⟩, -⟩ := hrow
  exact ⟨e, he, rfl⟩

/-- Every selected row has a record, which shows the row again. -/
theorem toObject_recordOfRow? {rows : List Object}
    (h : ∀ row ∈ rows, ∃ r, recordOfRow? row = some r ∧ r.toObject = row) :
    (rows.filterMap recordOfRow?).map Record.toObject = rows := by
  induction rows with
  | nil => rfl
  | cons row rows ih =>
      rw [List.forall_mem_cons] at h
      obtain ⟨⟨r, hr, hshow⟩, hrows⟩ := h
      rw [List.filterMap_cons_some hr, List.map_cons, hshow, ih hrows]

namespace Store

variable {s : Store} {name : TableName} {w : World Tables}

/-- The page of a listing that shows these rows. -/
def pageOf (s : Store) (d : Descriptor) (rows : List Object) : Page :=
  Page.of d rows.length (((rows.drop d.offset).take d.pageSize).map
    (Query.project (s.selectable d.selected)))

theorem paginate_runIn (h : w.state.lookup name.physical = some t)
    (d : Descriptor) :
    (s.repository.paginate name d).runIn w =
      ((orAborted (matchingRows s.spec t d.filter d.sorts)).map (s.pageOf d),
        w) :=
  (Action.runIn_bind_ok (tableIn_runIn h)).trans
    (Action.runIn_bind_pure (Action.runIn_lift _ w) (s.pageOf d))

theorem selectAll_runIn (h : w.state.lookup name.physical = some t) :
    (s.repository.selectAll name f sorts).runIn w =
      ((orAborted (matchingRows s.spec t f sorts)).map
        (·.filterMap recordOfRow?), w) :=
  (Action.runIn_bind_ok (tableIn_runIn h)).trans
    (Action.runIn_bind_pure (Action.runIn_lift _ w) _)

theorem paginate_runIn_of_some (h : w.state.lookup name.physical = some t)
    {d : Descriptor} {rows : List Object}
    (hrows : matchingRows s.spec t d.filter d.sorts = some rows) :
    (s.repository.paginate name d).runIn w = (.ok (s.pageOf d rows), w) := by
  rw [paginate_runIn h, hrows]
  rfl

theorem paginate_runIn_of_none (h : w.state.lookup name.physical = some t)
    {d : Descriptor} (hnone : matchingRows s.spec t d.filter d.sorts = none) :
    (s.repository.paginate name d).runIn w = (.error .aborted, w) := by
  rw [paginate_runIn h, hnone]
  rfl

theorem selectAll_runIn_of_some (h : w.state.lookup name.physical = some t)
    {rows : List Object} (hrows : matchingRows s.spec t f sorts = some rows) :
    (s.repository.selectAll name f sorts).runIn w =
      (.ok (rows.filterMap recordOfRow?), w) := by
  rw [selectAll_runIn h, hrows]
  rfl

theorem selectAll_runIn_of_none (h : w.state.lookup name.physical = some t)
    (hnone : matchingRows s.spec t f sorts = none) :
    (s.repository.selectAll name f sorts).runIn w = (.error .aborted, w) := by
  rw [selectAll_runIn h, hnone]
  rfl

/-- Where all columns are selected, rows are shown as they are. -/
theorem project_selectable {selected : List String}
    (h : selected.contains "*" = true) (row : Object) :
    Query.project (s.selectable selected) row = row := by
  have hmem : "*" ∈ selected.filter fun c => c == "*" || s.spec.hasColumn c :=
    List.mem_filter.2 ⟨List.contains_iff_mem.1 h, rfl⟩
  have hne :
      (selected.filter fun c => c == "*" || s.spec.hasColumn c).isEmpty =
        false :=
    List.isEmpty_eq_false_iff.2 (List.ne_nil_of_mem hmem)
  rw [Query.project, selectable, hne, if_neg Bool.false_ne_true, hne,
    List.contains_iff_mem.2 hmem]
  rfl

end Store

/-- The pages of a listing show the records that are selected without pages,
each once and in the same order, and tell where they stand. No page and no size
within range leads to a number beyond 64 bits. But selected rows that are more
than twenty, and whose values are not in order, may have no listing of either
kind. -/
theorem pages_cover_selected_records {s : Store} {name : TableName}
    {w : World Tables} {t : Table}
    (ht : w.state.lookup name.physical = some t)
    (hkeys : ∀ e ∈ t.rows, Number.isInt64 e.1 = true) (d : Descriptor) :
    (¬Sortable s.spec t d.filter d.sorts ∧
      (s.repository.selectAll name d.filter d.sorts).runIn w =
        (.error .aborted, w) ∧
      ∀ n, (s.repository.paginate name { d with page := n }).runIn w =
        (.error .aborted, w)) ∨
    ∃ (records : List Record) (pages : Nat → Page),
      (s.repository.selectAll name d.filter d.sorts).runIn w =
        (.ok records, w) ∧
      (∀ n, (s.repository.paginate name { d with page := n }).runIn w =
        (.ok (pages n), w)) ∧
      (d.selectsAll = true → 1 ≤ d.pageSize →
        records.length ≤ d.pageSize * maxPage →
        Page.Cover (records.map Record.toObject) d.pageSize pages) ∧
      (d.pageSize ≤ maxPage → ∀ n ≤ maxPage,
        Page.FitsWord { d with page := n } (pages n)) := by
  cases hrows : matchingRows s.spec t d.filter d.sorts with
  | none =>
      exact .inl ⟨fun hsortable => hsortable.ne_none hrows,
        Store.selectAll_runIn_of_none ht hrows,
        fun n => Store.paginate_runIn_of_none ht hrows⟩
  | some rows =>
      right
      have hshown :
          (rows.filterMap recordOfRow?).map Record.toObject = rows := by
        refine toObject_recordOfRow? fun row hrow => ?_
        obtain ⟨e, he, rfl⟩ := storedRow_of_mem_matchingRows hrows hrow
        exact recordOfRow?_storedRow (hkeys e he) e.2
      refine ⟨rows.filterMap recordOfRow?,
        fun n => s.pageOf { d with page := n } rows,
        Store.selectAll_runIn_of_some ht hrows,
        fun n => Store.paginate_runIn_of_some ht hrows, ?_, ?_⟩
      · intro hall hsize hfits
        have hlength := congrArg List.length hshown
        rw [List.length_map] at hlength
        rw [hshown]
        refine Page.cover_of (fun n => ?_) hsize (hlength ▸ hfits)
        have hproject : Query.project (s.selectable d.selected) = id :=
          funext (Store.project_selectable hall)
        rw [Store.pageOf, hproject, List.map_id]
        rfl
      · intro hsize n hn
        refine Page.fitsWord_of { d with page := n } hn hsize _ ?_
        rw [List.length_map, List.length_take]
        exact Nat.min_le_left _ _

/-- Three orders, the last one first, two to a page. -/
theorem three_orders_on_two_pages :
    let s : Store := ⟨.default, []⟩
    let name : TableName := ⟨"acme", "orders", by decide, by decide⟩
    let t : Table := ⟨4, [(1, [("uid", .str "a")]), (2, [("uid", .str "b")]),
      (3, [("uid", .str "c")])]⟩
    let w : World Tables :=
      ⟨[(name.physical, t)], ⟨fun _ => ⟨0, 0⟩, fun _ => "", 0, 0⟩⟩
    let d : Descriptor :=
      { Descriptor.default with pageSize := 2, sorts := [⟨"uid", .desc⟩] }
    w.state.lookup name.physical = some t ∧
      (∀ e ∈ t.rows, Number.isInt64 e.1 = true) ∧
      ∃ (records : List Record) (pages : Nat → Page),
        (s.repository.selectAll name d.filter d.sorts).runIn w =
          (.ok records, w) ∧
        (∀ n, (s.repository.paginate name { d with page := n }).runIn w =
          (.ok (pages n), w)) ∧
        records.length = 3 ∧
        Page.Cover (records.map Record.toObject) 2 pages ∧
        ∀ n ≤ maxPage, Page.FitsWord { d with page := n } (pages n) := by
  intro s name t w d
  have ht : w.state.lookup name.physical = some t := rfl
  have hkeys : ∀ e ∈ t.rows, Number.isInt64 e.1 = true := by decide
  have hfew : (selectedObjects s.spec t d.filter).length ≤ 20 := by
    decide +kernel
  obtain ⟨hsortable, -⟩ | ⟨records, pages, hselect, hpages, hcover, hfits⟩ :=
    pages_cover_selected_records (s := s) ht hkeys d
  · exact absurd (.inl hfew) hsortable
  have hlength : (((s.repository.selectAll name d.filter d.sorts).runIn w).1.map
      List.length).toOption = some 3 := by decide +kernel
  rw [hselect] at hlength
  have hthree : records.length = 3 := Option.some.inj hlength
  exact ⟨ht, hkeys, records, pages, hselect, hpages, hthree,
    hcover rfl (by decide) (by rw [hthree]; decide), hfits (by decide)⟩

/-- Orders of these sizes, numbered from one. -/
def sizedOrders (sizes : List Value) : Table :=
  ⟨sizes.length + 1, sizes.mapIdx fun i size =>
    (i + 1, [("uid", .str (toString (i + 1))),
      ("data", .obj [("size", size)])])⟩

/-- Twenty-one sizes: nine, ten and the text `5`, which go round in a circle. -/
def roundSizes : List Value :=
  let five : Value := .str "5"
  [.int 9, five, .int 9, .int 10, .int 9, .int 10, .int 10, .int 10, five,
    .int 10, .int 9, .int 9, .int 10, .int 9, .int 10, .int 10, five, .int 9,
    five, .int 10, .int 10]

/-- These sizes cannot be sorted: the two ends of the merge do not share them
out between each other. -/
theorem matchingRows_roundSizes :
    matchingRows .default (sizedOrders roundSizes) .empty
      [⟨"data.size", .asc⟩] = none := by
  have hknown : knownSorts .default [⟨"data.size", .asc⟩] =
      [⟨"data.size", .asc⟩] := by decide +kernel
  have hlength : (selectedObjects .default (sizedOrders roundSizes)
      .empty).length = 21 := by decide +kernel
  rw [matchingRows, hknown, ← selectedObjects, Query.sortRows,
    if_neg (by simp),
    Sorting.stableSort_eq_smallSort (by omega) (by omega) (by decide +kernel),
    ← Option.isNone_iff_eq_none]
  decide +kernel

/-- Sorted by these sizes, twenty-one orders have neither records nor pages. -/
theorem round_sizes_have_no_pages :
    let s : Store := ⟨.default, []⟩
    let name : TableName := ⟨"acme", "orders", by decide, by decide⟩
    let t : Table := sizedOrders roundSizes
    let w : World Tables :=
      ⟨[(name.physical, t)], ⟨fun _ => ⟨0, 0⟩, fun _ => "", 0, 0⟩⟩
    let d : Descriptor :=
      { Descriptor.default with sorts := [⟨"data.size", .asc⟩] }
    w.state.lookup name.physical = some t ∧
      (∀ e ∈ t.rows, Number.isInt64 e.1 = true) ∧
      d.selectsAll = true ∧ 1 ≤ d.pageSize ∧
      t.rows.length ≤ d.pageSize * maxPage ∧
      (s.repository.selectAll name d.filter d.sorts).runIn w =
        (.error .aborted, w) ∧
      ∀ n, (s.repository.paginate name { d with page := n }).runIn w =
        (.error .aborted, w) := by
  intro s name t w d
  have ht : w.state.lookup name.physical = some t := rfl
  exact ⟨ht, by decide, rfl, by decide, by decide,
    Store.selectAll_runIn_of_none ht matchingRows_roundSizes,
    fun n => Store.paginate_runIn_of_none ht matchingRows_roundSizes⟩

end Memory

end TenantTables
