import TenantTables.Proofs.FailedRequest
import TenantTables.Proofs.Pagination

/-!
# Deleting what a listing counts

One kind of request lists rows or deletes them, as its method says. Listing
makes objects of all rows, filters and sorts them, counts them and cuts a page
out; deleting goes through the table and keeps the rows that the filter does not
select. Both ask the same question about the same object, and nothing else that
the request says has a part in the answer: not the columns, the order, the page
or its size. So the rows that go are those that the listing counts, and nothing
is left to be counted behind the deletion.

The listing has to sort them first, which the deletion has not. Where that fails
rows are deleted that cannot be listed.
-/

namespace TenantTables

open Json (Object)
open Memory (Store Table Tables Work knownFilter storedRow matchingRows
  selectedObjects Sortable)
open Query (Descriptor)

/-- A page that counts these rows, and shows some of them in some order. -/
structure Page.Counts (p : Page) (rows : List Object) : Prop where
  total : p.total = rows.length
  shows : ∃ listed : List Object, listed.Perm rows ∧
    ∃ columns offset size,
      p.rows = ((listed.drop offset).take size).map (Query.project columns)

theorem Page.Counts.rows_eq_nil {p : Page} (h : p.Counts []) : p.rows = [] := by
  obtain ⟨listed, hperm, columns, offset, size, hrows⟩ := h.shows
  rw [hrows, hperm.eq_nil]
  simp

/-! ## The rows that a filter selects -/

namespace Memory.Store

variable {s : Store} {f : Query.Filter} {t : Table}

/-- The rows that a filter selects, clauses on unknown columns left out. -/
def selectedRows (s : Store) (f : Query.Filter)
    (t : Table) : List (Int × Object) :=
  t.rows.filter fun e => (knownFilter s.spec f).holds (storedRow e.1 e.2)

/-- Every row is selected or kept, and none is both. -/
theorem length_selectedRows (s : Store) (f : Query.Filter) (t : Table) :
    (s.selectedRows f t).length = t.rows.length - (s.keptRows f t).length := by
  have hsplit := List.length_eq_length_filter_add
    (l := t.rows) fun e => (knownFilter s.spec f).holds (storedRow e.1 e.2)
  unfold selectedRows keptRows
  omega

/-- Of the rows that a deletion keeps, none is selected again. -/
theorem selectedRows_keptRows (s : Store) (f : Query.Filter) (t : Table) :
    s.selectedRows f { t with rows := s.keptRows f t } = [] := by
  refine List.filter_eq_nil_iff.2 fun e he => ?_
  obtain ⟨-, hkept⟩ := List.mem_filter.1 he
  simpa using hkept

theorem selectedObjects_eq (s : Store) (f : Query.Filter) (t : Table) :
    selectedObjects s.spec t f =
      (s.selectedRows f t).map fun e => storedRow e.1 e.2 := by
  rw [selectedObjects, Table.objects, List.filter_map]
  rfl

/-- A listing sorts the selected rows and does nothing else to them. -/
theorem counts_page {s : Store} {t : Table} {d : Descriptor}
    {rows : List Object}
    (h : matchingRows s.spec t d.filter d.sorts = some rows) :
    (s.pageOf d rows).Counts
      ((s.selectedRows d.filter t).map fun e => storedRow e.1 e.2) := by
  have hperm := perm_matchingRows h
  rw [s.selectedObjects_eq] at hperm
  exact ⟨hperm.length_eq, _, hperm, _, _, _, rfl⟩

end Memory.Store

/-! ## The two requests -/

namespace Service

section Requests

variable {κ : Type} {svc : Service Tables Work κ} {s : Store}
  {ctx : RequestContext} {table : String} {name : TableName}

def filterOf (svc : Service Tables Work κ)
    (params : Query.Params) : Query.Filter :=
  .ofRaw (params.all "filter") svc.aliases

def sortsOf (svc : Service Tables Work κ) (params : Query.Params) :
    List Query.SortTerm :=
  (params.all "sort").filterMap fun raw =>
    Query.SortTerm.parse? raw svc.aliases

/-- The table that a request opens: what is there, or a new one. -/
def opened (w : World (ServiceState Tables κ)) (name : TableName) : Table :=
  (List.lookup name.physical w.state.store).getD .empty

theorem opened_of_lookup {w : World (ServiceState Tables κ)} {t : Table}
    (h : List.lookup name.physical w.state.store = some t) :
    opened w name = t := by
  rw [opened, h, Option.getD_some]

/-- Where a request works, once the table that it asks for is there. -/
def opening (w : World (ServiceState Tables κ)) (name : TableName) :
    World (ServiceState Tables κ) :=
  { w with state.store := Tables.ensured w.state.store name.physical }

theorem lookup_opening (w : World (ServiceState Tables κ)) (name : TableName) :
    (opening w name).state.store.lookup name.physical = some (opened w name) :=
  Tables.lookup_ensured_self w.state.store name.physical

/-- An action of the store leaves the sink alone. -/
theorem onStore_runIn {α : Type} {a : Action Tables α}
    {w : World (ServiceState Tables κ)} {r : Except Error α}
    {inner : World Tables}
    (h : a.runIn ⟨w.state.store, w.supply⟩ = (r, inner)) :
    (onStore a).runIn w =
      (r, ⟨{ w.state with store := inner.state }, inner.supply⟩) := by
  rw [onStore, Action.runIn_zoom, h]

/-- The method of a request has no part in the name of its table. -/
theorem tableName_method (svc : Service Tables Work κ) (ctx : RequestContext)
    (method table : String) :
    svc.tableName { ctx with method := method } table =
      svc.tableName ctx table := rfl

/-- Nor has the store. -/
theorem tableName_repository (svc : Service Tables Work κ)
    (repository : Repository Tables Work) (ctx : RequestContext)
    (table : String) :
    { svc with repository := repository }.tableName ctx table =
      svc.tableName ctx table := rfl

theorem list_runIn_error {e : Error}
    (hname : svc.tableName ctx table = .error e) (params : Query.Params)
    (w : World (ServiceState Tables κ)) :
    (svc.list ctx table params).runIn w = (.error e, w) :=
  Action.runIn_bind_error (openTable_runIn_error hname w)

variable (hs : svc.repository = s.repository) (ctx : RequestContext)
  (hname : svc.tableName ctx table = .ok name)
include hs hname

/-- A request to read asks for a page of the table, once that is there. -/
theorem list_runIn_read (hmethod : Descriptor.isDeleteMethod ctx.method = false)
    (params : Query.Params) (w : World (ServiceState Tables κ)) :
    (svc.list ctx table params).runIn w =
      (onStore (s.repository.paginate name (svc.descriptor params ctx.method))
        >>= fun p => pure (.page p)).runIn (opening w name) := by
  have hread : ¬(svc.descriptor params ctx.method).isDelete = true := by
    simp [descriptor, Descriptor.ofParams, hmethod]
  rw [list, Action.runIn_bind_ok (openTable_runIn hs hname w)]
  dsimp only
  rw [if_neg hread, hs]
  rfl

/-- It answers a page that counts the selected rows, if these can be sorted. -/
theorem list_runIn_page (hmethod : Descriptor.isDeleteMethod ctx.method = false)
    (params : Query.Params) (w : World (ServiceState Tables κ))
    (hsome : matchingRows s.spec (opened w name) (svc.filterOf params)
      (svc.sortsOf params) ≠ none) :
    ∃ p : Page, (svc.list ctx table params).runIn w =
        (.ok (.page p), opening w name) ∧
      p.Counts ((s.selectedRows (svc.filterOf params) (opened w name)).map
        fun e => storedRow e.1 e.2) := by
  obtain ⟨rows, hrows⟩ := Option.ne_none_iff_exists'.1 hsome
  let d := svc.descriptor params ctx.method
  have hpage := Memory.Store.paginate_runIn_of_some (d := d)
    (w := ⟨(opening w name).state.store, w.supply⟩)
    (lookup_opening w name) hrows
  refine ⟨s.pageOf d rows, (list_runIn_read hs ctx hname hmethod params w).trans
    ?_, Memory.Store.counts_page (d := d) hrows⟩
  exact Action.runIn_bind_ok (onStore_runIn (w := opening w name) hpage :)

theorem list_runIn_aborted
    (hmethod : Descriptor.isDeleteMethod ctx.method = false)
    (params : Query.Params) (w : World (ServiceState Tables κ))
    (hnone : matchingRows s.spec (opened w name) (svc.filterOf params)
      (svc.sortsOf params) = none) :
    (svc.list ctx table params).runIn w =
      (.error .aborted, opening w name) := by
  have hpage := Memory.Store.paginate_runIn_of_none
    (d := svc.descriptor params ctx.method)
    (w := ⟨(opening w name).state.store, w.supply⟩)
      (lookup_opening w name) hnone
  refine (list_runIn_read hs ctx hname hmethod params w).trans ?_
  exact Action.runIn_bind_error (onStore_runIn (w := opening w name) hpage :)

/-- A request to delete answers how many rows are selected, and
keeps the others. -/
theorem list_runIn_delete
    (hmethod : Descriptor.isDeleteMethod ctx.method = true)
    (params : Query.Params) (w : World (ServiceState Tables κ)) :
    ∃ w', (svc.list ctx table params).runIn w =
        (.ok (.deleted
          (s.selectedRows (svc.filterOf params) (opened w name)).length), w') ∧
      List.lookup name.physical w'.state.store =
        some { opened w name
          with rows := s.keptRows (svc.filterOf params) (opened w name) } ∧
      (∀ n, n ≠ name.physical →
        List.lookup n w'.state.store = List.lookup n w.state.store) ∧
      w'.state.sink = w.state.sink := by
  have ht := Tables.lookup_ensured_self w.state.store name.physical
  let after : Table :=
    { opened w name
      with rows := s.keptRows (svc.filterOf params) (opened w name) }
  refine ⟨⟨⟨(Tables.ensured w.state.store name.physical).set name.physical
    after, w.state.sink⟩,
    w.supply⟩, ?_, Tables.lookup_set_self .., fun n hn => ?_, rfl⟩
  · rw [list, Action.runIn_bind_ok (openTable_runIn hs hname w)]
    dsimp only
    rw [if_pos (by simp [descriptor, Descriptor.ofParams, hmethod]), hs,
      Action.runIn_bind_ok
        (onStore_runIn (Memory.Store.deleteWhere_runIn ht _)),
      Action.runIn_pure, s.length_selectedRows]
    rfl
  · exact (Tables.lookup_set_of_ne hn _ _).trans
      (Tables.lookup_ensured_of_ne hn _)

end Requests

/-- A request to delete removes exactly the rows that a request to read with the
same filter counts, whatever else either of them says. The other rows stay under
their keys and in their order, the next key and all other tables stay, and
behind it there is nothing that such a request counts. A name that is refused is
refused to both. But a request to read that cannot sort what it selects answers
nothing, and the rows go all the same. -/
theorem deletion_removes_what_listing_counts {κ : Type}
    {svc : Service Tables Work κ} {s : Store}
    (hs : svc.repository = s.repository) {delete read : String}
    (hdelete : Descriptor.isDeleteMethod delete = true)
    (hread : Descriptor.isDeleteMethod read = false) (ctx : RequestContext)
    (table : String) (params : Query.Params)
    (w : World (ServiceState Tables κ)) :
    (∀ e, svc.tableName ctx table = .error e →
      (svc.list { ctx with method := delete } table params).runIn w =
        (.error e, w) ∧
      (svc.list { ctx with method := read } table params).runIn w =
        (.error e, w)) ∧
    ∀ name, svc.tableName ctx table = .ok name →
      ∃ (count : Nat) (after : Table) (w' : World (ServiceState Tables κ)),
        (svc.list { ctx with method := delete } table params).runIn w =
          (.ok (.deleted count), w') ∧
        List.lookup name.physical w'.state.store = some after ∧
        after.nextId = (opened w name).nextId ∧
        after.rows.Sublist (opened w name).rows ∧
        (∀ e, e ∈ after.rows ↔ e ∈ (opened w name).rows ∧
          (knownFilter s.spec (svc.filterOf params)).holds
            (storedRow e.1 e.2) = false) ∧
        (∀ n, n ≠ name.physical →
          List.lookup n w'.state.store = List.lookup n w.state.store) ∧
        w'.state.sink = w.state.sink ∧
        ∀ params', svc.filterOf params' = svc.filterOf params →
          ((¬Sortable s.spec (opened w name) (svc.filterOf params)
              (svc.sortsOf params') ∧
            ∃ w₁, (svc.list { ctx with method := read } table params').runIn w =
              (.error .aborted, w₁)) ∨
          ∃ p w₁, (svc.list { ctx with method := read } table params').runIn w =
              (.ok (.page p), w₁) ∧ p.total = count ∧
            p.Counts ((s.selectedRows (svc.filterOf params)
              (opened w name)).map fun e => storedRow e.1 e.2)) ∧
          ∃ p w₂,
            (svc.list { ctx with method := read } table params').runIn w' =
              (.ok (.page p), w₂) ∧ p.total = 0 ∧ p.rows = [] := by
  have hmethod := svc.tableName_method ctx
  refine ⟨fun e he => ?_, fun name hname => ?_⟩
  · exact ⟨list_runIn_error ((hmethod delete table).trans he) params w,
      list_runIn_error ((hmethod read table).trans he) params w⟩
  · have hpage := list_runIn_page hs { ctx with method := read }
      ((hmethod read table).trans hname) hread
    obtain ⟨w', hrun, hafter, helsewhere, hsink⟩ :=
      list_runIn_delete hs { ctx with method := delete }
        ((hmethod delete table).trans hname) hdelete params w
    refine ⟨_, _, w', hrun, hafter, rfl, List.filter_sublist, fun e => ?_,
      helsewhere, hsink, fun params' hfilter => ⟨?_, ?_⟩⟩
    · rw [Memory.Store.keptRows, List.mem_filter, Bool.not_eq_true']
    · cases hrows : matchingRows s.spec (opened w name) (svc.filterOf params')
          (svc.sortsOf params') with
      | none =>
          have haborted := list_runIn_aborted hs { ctx with method := read }
            ((hmethod read table).trans hname) hread params' w hrows
          rw [hfilter] at hrows
          exact .inl ⟨fun hsortable => hsortable.ne_none hrows, _, haborted⟩
      | some rows =>
          obtain ⟨p, hlist, hcounts⟩ := hpage params' w (by simp [hrows])
          rw [hfilter] at hcounts
          exact .inr ⟨p, _, hlist,
            hcounts.total.trans (List.length_map _), hcounts⟩
    · have hnone :=
        s.selectedRows_keptRows (svc.filterOf params) (opened w name)
      have hfew : Sortable s.spec (opened w' name) (svc.filterOf params')
          (svc.sortsOf params') := by
        rw [hfilter, opened_of_lookup hafter, Sortable,
          s.selectedObjects_eq, hnone]
        exact .inl (Nat.zero_le 20)
      obtain ⟨p, hlist, hcounts⟩ := hpage params' w' hfew.ne_none
      rw [hfilter, opened_of_lookup hafter, hnone] at hcounts
      exact ⟨p, _, hlist, hcounts.total, hcounts.rows_eq_nil⟩

/-- Three orders of one tenant. -/
def abcOrders : Table :=
  ⟨4, [(1, [("uid", .str "a")]), (2, [("uid", .str "b")]),
    (3, [("uid", .str "c")])]⟩

/-- Parameters that select two of them. One clause and the sort name no column,
and the page is far behind the last. -/
def lastOrders : Query.Params :=
  ⟨[("filter[]", "uid:in:b|c,colour:eq:red"), ("sort", "colour:asc"),
    ("page", "7")]⟩

/-- Two of three orders are counted, on a page that shows none, and deleted. -/
theorem two_of_three_orders_are_deleted :
    let w : World (ServiceState Tables (List Audit.Event)) :=
      ⟨⟨[("acme$orders", abcOrders)], []⟩, Store.stillSupply⟩
    let ctx : RequestContext := .of "GET" "/"
    Descriptor.isDeleteMethod "DELETE" = true ∧
      Descriptor.isDeleteMethod "GET" = false ∧
    ∃ after w' page w₁,
      (ofShortIds.list { ctx with method := "DELETE" } "orders"
        lastOrders).runIn w =
        (.ok (.deleted 2), w') ∧
      List.lookup "acme$orders" w'.state.store = some after ∧
      after.nextId = 4 ∧ (1, [("uid", .str "a")]) ∈ after.rows ∧
      (3, [("uid", .str "c")]) ∉ after.rows ∧
      (ofShortIds.list { ctx with method := "GET" } "orders"
        lastOrders).runIn w =
        (.ok (.page page), w₁) ∧ page.total = 2 := by
  intro w ctx
  have hdelete : Descriptor.isDeleteMethod "DELETE" = true := by decide +kernel
  have hread : Descriptor.isDeleteMethod "GET" = false := by decide +kernel
  have hname :
      (ofShortIds.tableName ctx "orders").toOption.map TableName.physical =
        some "acme$orders" := by decide +kernel
  cases hopen : ofShortIds.tableName ctx "orders" with
  | error e =>
      rw [hopen] at hname
      cases hname
  | ok name =>
      rw [hopen] at hname
      have hphysical : name.physical = "acme$orders" := Option.some.inj hname
      obtain ⟨count, after, w', hrun, hafter, hnext, -, hrows, -, -,
          hcounted⟩ :=
        (deletion_removes_what_listing_counts (s := Store.shortIds) rfl hdelete
          hread ctx "orders" lastOrders w).2 name hopen
      have hopened : opened w name = abcOrders :=
        opened_of_lookup (by rw [hphysical]; rfl)
      have hfew : (selectedObjects Store.shortIds.spec abcOrders
          (ofShortIds.filterOf lastOrders)).length ≤ 20 := by decide +kernel
      rw [hopened] at hnext hrows hcounted
      obtain ⟨⟨hsortable, -⟩ | ⟨page, w₁, hpage, htotal, hcounts⟩, -⟩ :=
        hcounted lastOrders rfl
      · exact absurd (.inl hfew) hsortable
      have hsize : (Store.shortIds.selectedRows (ofShortIds.filterOf lastOrders)
          abcOrders).length = 2 := by decide +kernel
      have hcount : count = 2 := by
        rw [← htotal, hcounts.total, List.length_map, hsize]
      subst hcount
      refine ⟨hdelete, hread, after, w', page, w₁, hrun, hphysical ▸ hafter, ?_,
        ?_, ?_, hpage, htotal⟩
      · rw [hnext]
        rfl
      · rw [hrows]
        exact ⟨List.mem_cons_self, by decide +kernel⟩
      · rw [hrows]
        exact fun h => absurd h.2 (by decide +kernel)

/-- Sorted by sizes that go round, twenty-one orders are not listed, and the
same request deletes them. -/
theorem round_sizes_are_deleted_unlisted :
    let s : Store := ⟨.default, []⟩
    let svc : Service Tables Work (List Audit.Event) :=
      { ofShortIds with repository := s.repository }
    let w : World (ServiceState Tables (List Audit.Event)) :=
      ⟨⟨[("acme$orders", Memory.sizedOrders Memory.roundSizes)], []⟩,
        Store.stillSupply⟩
    let ctx : RequestContext := .of "POST" "/"
    let params : Query.Params := ⟨[("sort", "data.size:asc")]⟩
    (∃ w₁, (svc.list { ctx with method := "GET" } "orders" params).runIn w =
      (.error .aborted, w₁)) ∧
    ∃ w', (svc.list { ctx with method := "DELETE" } "orders" params).runIn w =
      (.ok (.deleted 21), w') := by
  intro s svc w ctx params
  have hdelete : Descriptor.isDeleteMethod "DELETE" = true := by decide +kernel
  have hread : Descriptor.isDeleteMethod "GET" = false := by decide +kernel
  have hname (method : String) : svc.tableName { ctx with method := method }
      "orders" = .ok Store.ordersOfAcme :=
    (tableName_repository ofShortIds s.repository _ "orders").trans
      ((tableName_method ofShortIds ctx method "orders").trans
        ofShortIds_tableName)
  have hopened : opened w Store.ordersOfAcme =
      Memory.sizedOrders Memory.roundSizes := opened_of_lookup rfl
  have hfilter : svc.filterOf params = .empty := by decide +kernel
  have hsorts : svc.sortsOf params = [⟨"data.size", .asc⟩] := by decide +kernel
  refine ⟨⟨_, list_runIn_aborted (s := s) rfl _ (hname "GET") hread params w
    ?_⟩, ?_⟩
  · rw [hopened, hfilter, hsorts]
    exact Memory.matchingRows_roundSizes
  · obtain ⟨w', hrun, -⟩ := list_runIn_delete (s := s) rfl _ (hname "DELETE")
      hdelete params w
    have hcount : (s.selectedRows (svc.filterOf params)
        (Memory.sizedOrders Memory.roundSizes)).length = 21 := by decide +kernel
    rw [hopened, hcount] at hrun
    exact ⟨w', hrun⟩

end Service

end TenantTables
