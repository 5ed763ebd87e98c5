import TenantTables.Proofs.PhysicalName
import TenantTables.Proofs.RecordRequests
import TenantTables.Proofs.Reimport
import TenantTables.Proofs.ServiceInvariant

/-!
# Tables as maps from identifiers to rows

Rows are kept under surrogate keys and callers name them by identifiers, which
are texts of a value that has been brought into the shape of its column. Over
the general layout, in any state that requests lead to, a table is a map from
the text of an identifier to a row all the same: no two rows have one text,
searches and the constraint compare the same texts, and what callers do to a row
by its identifier they do to that row alone.

What a deletion takes away stays away. That no row has an identifier is a
hereditary property, so only a request that writes rows, and to this table,
can end it; if it fails it does not, since a failed request leaves no trace.
-/

namespace TenantTables

open Json (Value Object)
open Memory (Store Table Tables Work Check WellFormed Hereditary findIn textAt)

namespace Memory

variable {checks : List Check} {t : Table} {id : String}

/-- Two rows with one identifier are the same row. -/
theorem WellFormed.eq_of_uid (h : WellFormed .default checks t)
    {e e' : Int × Object} (he : e ∈ t.rows) (he' : e' ∈ t.rows)
    (hid : textAt e.2 "uid" = some id)
    (hid' : textAt e'.2 "uid" = some id) : e = e' := by
  by_cases hkey : e.1 = e'.1
  · exact h.ascending.eq_of_key he he' hkey
  · obtain ⟨huid, -⟩ := TableSpec.mem_of_column? TableSpec.uid_column
    exact absurd hid' (h.distinct _ he _ he' hkey _ huid rfl id hid)

theorem findIn_uid_eq_none (h : ∀ e ∈ t.rows, textAt e.2 "uid" ≠ some id) :
    findIn t "uid" id = none := by
  rw [← Option.not_isSome_iff_eq_none, Import.Plan.isSome_findIn_iff]
  rintro ⟨e, he, hid⟩
  exact h e he ((Import.storedId_uid e.2).symm.trans hid)

/-- A search for an identifier answers the record of a row that has it. -/
theorem of_findIn_uid {r : Record} (h : findIn t "uid" id = some r) :
    ∃ e ∈ t.rows, textAt e.2 "uid" = some id ∧ r = .ofStored e.1 e.2 := by
  obtain ⟨e, he, rfl⟩ := Option.map_eq_some_iff.1 h
  have htext := List.find?_some he
  rw [beq_iff_eq] at htext
  exact ⟨e, List.mem_of_find?_eq_some he,
    (Import.storedId_uid e.2).symm.trans htext, rfl⟩

theorem WellFormed.findIn_uid (h : WellFormed .default checks t)
    {e : Int × Object} (he : e ∈ t.rows) (hid : textAt e.2 "uid" = some id) :
    findIn t "uid" id = some (.ofStored e.1 e.2) := by
  have hsome : (findIn t "uid" id).isSome = true :=
    Import.Plan.isSome_findIn_iff.2 ⟨e, he, (Import.storedId_uid e.2).trans hid⟩
  obtain ⟨r, hr⟩ := Option.isSome_iff_exists.1 hsome
  obtain ⟨found, hfound, htext, rfl⟩ := of_findIn_uid hr
  rw [hr, h.eq_of_uid he hfound hid htext]

/-- Of rows in ascending order, erasing the key of one takes that one out. -/
theorem WellFormed.rows_erase (h : WellFormed .default checks t)
    {e : Int × Object} (he : e ∈ t.rows) :
    ∃ before after,
      t.rows = before ++ e :: after ∧ (t.erase e.1).rows = before ++ after := by
  obtain ⟨before, after, hrows⟩ := List.append_of_mem he
  refine ⟨before, after, hrows, ?_⟩
  have hasc := h.ascending
  rw [Ascending, hrows, List.pairwise_append, List.pairwise_cons] at hasc
  obtain ⟨-, ⟨hafter, -⟩, hbefore⟩ := hasc
  show (t.rows.filter fun e' => e'.1 ≠ e.1) = _
  rw [hrows, List.filter_append, List.filter_cons_of_neg (by simp),
    List.filter_eq_self.2, List.filter_eq_self.2]
  · intro e' he'
    have hlt := hafter e' he'
    exact decide_eq_true (by omega)
  · intro e' he'
    have hlt := hbefore e' he' e List.mem_cons_self
    exact decide_eq_true (by omega)

/-- No new row is written with the identifier of another. -/
theorem WellFormed.uid_is_new (h : WellFormed .default checks t) {name : String}
    {attributes row : Object} {now : Time.Instant} {key : Int} {t' : Table}
    (hid : idColumn ∉ attributes.keys)
    (hw : Memory.writeRow .default checks name t none attributes now =
      .ok (key, row, t'))
    {e : Int × Object} (he : e ∈ t.rows) (htext : textAt row "uid" = some id) :
    textAt e.2 "uid" ≠ some id := by
  obtain ⟨-, ⟨hnone, -⟩ | ⟨-, rfl, ht'⟩⟩ := writeRow_ok hw
  · cases hnone
  have hwf := h.writeRow hid hw
  have hkey := (h.keys_between e he).2
  have hrow : (t.nextId, row) ∈ t'.rows := by
    rw [ht']
    exact (mem_setRow h.ascending).2 (.inl rfl)
  have hother : e ∈ t'.rows := by
    rw [ht']
    exact (mem_setRow h.ascending).2 (.inr ⟨he, by omega⟩)
  intro hsame
  have heq := hwf.eq_of_uid hrow hother htext hsame
  rw [← heq] at hkey
  omega

end Memory

/-- Given an identifier, a new record is stored under it. -/
theorem TableSpec.uid_of_insert {name id : String} {inputs row : Object}
    {supply : Supply} {v : Value} (hnodup : inputs.keys.Nodup)
    (hv : inputs.get? "uid" = some v) (htext : v.toText? = some id)
    (hblank : Text.isBlankText id = false) {checks : List Check} {t t' : Table}
    {now : Time.Instant} {key : Int}
    (hw : Memory.writeRow .default checks name t none
      (Record.new (default.prepareInsert (default.fillable inputs)
        supply).1).attributes now =
        .ok (key, row, t')) : textAt row "uid" = some id := by
  have hfill : Object.get? (default.fillable inputs) "uid" = some v := by
    rw [get?_fillable, if_pos (by decide), hv]
  have hmisses : default.missesId (default.fillable inputs) = false :=
    missesId_eq_false hfill htext hblank
  have hget :
      Object.get? (Record.new
        (default.prepareInsert (default.fillable inputs) supply).1).attributes
        "uid" = some v := by
    show Object.get? (Record.withoutId _) "uid" = some v
    rw [Record.get?_withoutId _ (by decide),
      get?_prepareInsert hmisses supply fun h => absurd h (by decide),
      get?_prepareUpdate, if_neg fun h => absurd h.1 (by decide), hfill]
  have hkeys : Object.keys (Record.new
      (default.prepareInsert (default.fillable inputs) supply).1).attributes
      |>.Nodup :=
    Object.nodup_keys_filter
      (nodup_keys_prepareInsert _ supply (nodup_keys_fillable hnodup _)) _
  obtain ⟨start, assigned, -, hassign, hrow, -⟩ :=
    Memory.completeRow_ok (Memory.writeRow_ok hw).1
  rw [hrow, if_neg (by simp)]
  exact Import.uid_of_assign hassign hkeys hget htext

namespace Service

variable {κ : Type} {svc : Service Tables Work κ} {checks : List Check}
  {ctx : RequestContext} {table id : String} {t : TableName}
  {state : ServiceState Tables κ}

/-- The rows of a table; one that is not there has none. -/
def rows (state : ServiceState Tables κ)
    (t : TableName) : List (Int × Object) :=
  ((List.lookup t.physical state.store).getD .empty).rows

/-- A row of the table has the identifier. -/
def HasUid (state : ServiceState Tables κ) (t : TableName) (id : String)
    (e : Int × Object) :
    Prop :=
  e ∈ rows state t ∧ textAt e.2 "uid" = some id

/-- Neither retrieving nor deleting finds the identifier, whoever
asks for the table. -/
def Misses (svc : Service Tables Work κ) (t : TableName) (id : String)
    (state : ServiceState Tables κ) : Prop :=
  ∀ ctx table u, svc.tableName ctx table = .ok t →
    ((svc.retrieve ctx table id).runIn ⟨state, u⟩).1 = .error (noRecord t id) ∧
      ((svc.delete ctx table id).runIn ⟨state, u⟩).1 = .error (noRecord t id)

/-- A request stores the identifier in the table: it is one that writes rows, to
this table, and it succeeds and leaves a row with the identifier. -/
def Stores (svc : Service Tables Work κ) (t : TableName) (id : String)
    (ctx : RequestContext) (table : String) (request : Request)
    (w : World (ServiceState Tables κ)) : Prop :=
  request.writes = true ∧ svc.tableName ctx table = .ok t ∧
    ∃ answer w', (svc.serve ctx table request).runIn w = (.ok answer, w') ∧
      ∃ e, HasUid w'.state t id e

/-- States behind requests of which none stores the identifier in the table. -/
inductive WithoutStoring (svc : Service Tables Work κ) (t : TableName)
    (id : String) (state : ServiceState Tables κ) :
    ServiceState Tables κ → Prop where
  | done : WithoutStoring svc t id state state
  | served {later : ServiceState Tables κ}
      (h : WithoutStoring svc t id state later)
      (ctx : RequestContext) (table : String) (request : Request) (u : Supply)
      (hno : ¬ svc.Stores t id ctx table request ⟨later, u⟩) :
      WithoutStoring svc t id state
        ((svc.serve ctx table request).runIn ⟨later, u⟩).2.state

/-! ## Identifiers that no row has -/

theorem misses_of_absent
    (hs : svc.repository = (⟨.default, checks⟩ : Store).repository)
    (h : ∀ e, ¬ HasUid state t id e) : svc.Misses t id state := by
  intro ctx table u ht
  have hfind : findIn (opened ⟨state, u⟩ t) "uid" id = none :=
    Memory.findIn_uid_eq_none fun e he hid => h e ⟨he, hid⟩
  rw [retrieve_runIn hs ht,
    show (⟨.default, checks⟩ : Store).spec.idField = "uid" from rfl, hfind,
    delete_runIn_of_none hs ht hfind]
  exact ⟨rfl, rfl⟩

theorem hereditary_absent (n id : String) :
    Hereditary fun m (u : Table) => m = n → ∀ e ∈ u.rows,
      textAt e.2 "uid" ≠ some id where
  empty m hm e he := by cases he
  sublist h hs hm e he := h hm e (hs.subset he)

/-- A request that does not store the identifier leaves it absent. -/
theorem absent_of_not_stores
    (hs : svc.repository = (⟨.default, checks⟩ : Store).repository)
    (h : ∀ e, ¬ HasUid state t id e) {request : Request} {u : Supply}
    (hno : ¬ svc.Stores t id ctx table request ⟨state, u⟩) (e : Int × Object) :
    ¬ HasUid
      ((svc.serve ctx table request).runIn ⟨state, u⟩).2.state t id e := by
  have hbefore : Within (fun m (u : Table) => m = t.physical →
      ∀ e ∈ u.rows, textAt e.2 "uid" ≠ some id) state := by
    rintro n v hv rfl e he hid
    exact h e ⟨by rw [rows, hv]; exact he, hid⟩
  -- Whatever the table is behind the request, none of its rows
  -- has the identifier.
  have habsent : ∀ v, List.lookup t.physical
      ((svc.serve ctx table request).runIn ⟨state, u⟩).2.state.store = some v →
        ∀ e ∈ v.rows, textAt e.2 "uid" ≠ some id := by
    by_cases htarget : request.writes = true ∧ svc.tableName ctx table = .ok t
    · intro v hv e he hid
      rcases hrun : (svc.serve ctx table request).runIn ⟨state, u⟩
        with ⟨answer, w'⟩
      rw [hrun] at hv
      cases answer with
      | ok answer =>
          exact hno ⟨htarget.1, htarget.2, answer, w', hrun,
            e, by rw [rows, hv]; exact he, hid⟩
      | error failure =>
          have hopened := failsOpened_serve hs request _ failure w' hrun
          generalize w'.state = after at hopened hv
          cases hopened with
          | refused => exact hbefore _ v hv rfl e he hid
          | ensured _ =>
              exact Tables.Everywhere.ensured hbefore (hereditary_absent _ _) _
                _ v hv rfl e he hid
    · have hserve :
          Action.Maintains (Within fun m (u : Table) => m = t.physical →
          ∀ e ∈ u.rows,
          textAt e.2 "uid" ≠ some id) (svc.serve ctx table request) :=
        maintains_serve hs
          (hereditary_absent t.physical id) fun hwrites t' ht' =>
          fun _ _ _ hname =>
            absurd ⟨hwrites, TableName.physical_injective hname ▸ ht'⟩ htarget
      exact fun v hv => hserve ⟨state, u⟩ hbefore _ v hv rfl
  rintro ⟨he, hid⟩
  rw [rows] at he
  cases hv : List.lookup t.physical
      ((svc.serve ctx table request).runIn ⟨state, u⟩).2.state.store with
  | none =>
      rw [hv] at he
      cases he
  | some v =>
      rw [hv] at he
      exact habsent v hv e he hid

theorem WithoutStoring.misses
    (hs : svc.repository = (⟨.default, checks⟩ : Store).repository)
    (h : ∀ e, ¬ HasUid state t id e) {later : ServiceState Tables κ}
    (hlater : svc.WithoutStoring t id state later) : svc.Misses t id later := by
  refine misses_of_absent hs ?_
  induction hlater with
  | done => exact h
  | served _ ctx table request u hno ih => exact absent_of_not_stores hs ih hno

/-! ## Identifiers that a row has -/

/-- A table with a row is there, so that opening it changes nothing. -/
theorem ensured_of_hasUid {e : Int × Object} (h : HasUid state t id e) :
    Tables.ensured state.store t.physical = state.store := by
  obtain ⟨he, -⟩ := h
  unfold rows at he
  unfold Tables.ensured
  cases ht : List.lookup t.physical state.store with
  | none =>
      rw [ht] at he
      cases he
  | some v => rfl

theorem create_fails
    (hs : svc.repository = (⟨.default, checks⟩ : Store).repository)
    (ht : svc.tableName ctx table = .ok t) (h : svc.Reached state)
    {e : Int × Object} (he : HasUid state t id e) {inputs : Object} {v : Value}
    (hv : Object.get? (Path.undot inputs) "uid" = some v)
    (htext : v.toText? = some id) (hblank : Text.isBlankText id = false)
    (rules : FieldRules) (u : Supply) :
    ∃ failure w', (svc.create ctx table inputs rules).runIn ⟨state, u⟩ =
      (.error failure, w') ∧
      w'.state = state := by
  rcases hrun : (svc.create ctx table inputs rules).runIn ⟨state, u⟩
    with ⟨answer, w'⟩
  cases answer with
  | ok r =>
      obtain ⟨supply, now, key, row, t', hw⟩ := of_create_runIn_ok hs ht hrun
      have huid :=
        TableSpec.uid_of_insert (Path.nodup_keys_undot inputs) hv htext
          hblank hw
      exact absurd he.2
        ((h.wellFormed hs t.physical).uid_is_new
          (Record.id_not_mem_withoutId _) hw
        he.1 huid)
  | error failure =>
      refine ⟨failure, w', rfl, ?_⟩
      have hopened : Opened svc ctx table state w'.state :=
        failsOpened_upsert hs none inputs rules _ failure w' hrun
      generalize w'.state = after at hopened
      cases hopened with
      | refused => rfl
      | @ensured t' ht' =>
          obtain rfl : t = t' := Except.ok.inj (ht.symm.trans ht')
          show ({ state with store := Tables.ensured state.store t.physical } :
            ServiceState Tables κ) = state
          rw [ensured_of_hasUid he]

/-- Over the general layout with any checks, in every state that requests lead
to, a table is a map by the text of the identifier. At most one row has an
identifier, and retrieving succeeds exactly if one does and answers that one. No
record can be created under an identifier that a row has, and trying changes
nothing. Deleting takes the row with the identifier out of its table, leaves all
others where they are, and answers it. From then on the identifier is not found,
until a request stores it again. -/
theorem table_is_map_by_uid
    (hs : svc.repository = (⟨.default, checks⟩ : Store).repository)
    (ht : svc.tableName ctx table = .ok t) (h : svc.Reached state) (id : String)
    (u : Supply) :
    (∀ e e', HasUid state t id e → HasUid state t id e' → e = e') ∧
      ((∃ r, ((svc.retrieve ctx table id).runIn ⟨state, u⟩).1 = .ok r) ↔
        ∃ e, HasUid state t id e) ∧
    ((∀ e, ¬ HasUid state t id e) → svc.Misses t id state) ∧
    ∀ e, HasUid state t id e →
      (svc.retrieve ctx table id).runIn ⟨state, u⟩ =
        (.ok (.ofStored e.1 e.2), ⟨state, u⟩) ∧
      (∀ inputs rules v, Object.get? (Path.undot inputs) "uid" = some v →
        v.toText? = some id → Text.isBlankText id = false →
          ∃ failure w', (svc.create ctx table inputs rules).runIn ⟨state, u⟩ =
            (.error failure, w') ∧ w'.state = state) ∧
      ∃ w', (svc.delete ctx table id).runIn ⟨state, u⟩ =
        (.ok (.ofStored e.1 e.2), w') ∧
        (∃ before after, rows state t = before ++ e :: after ∧
          rows w'.state t = before ++ after) ∧
        (∀ n, n ≠ t.physical →
          List.lookup n w'.state.store = List.lookup n state.store) ∧
        ∀ later, svc.WithoutStoring t id w'.state later →
          svc.Misses t id later := by
  have hwf : WellFormed .default checks (opened ⟨state, u⟩ t) :=
    h.wellFormed hs t.physical
  have huniq : ∀ e e', HasUid state t id e → HasUid state t id e' → e = e' :=
    fun e e' he he' => hwf.eq_of_uid he.1 he'.1 he.2 he'.2
  have hretrieve : ∀ e, HasUid state t id e →
      (svc.retrieve ctx table id).runIn ⟨state, u⟩ =
        (.ok (.ofStored e.1 e.2), ⟨state, u⟩) := by
    intro e he
    have hfind :
        findIn (opened ⟨state, u⟩ t) "uid" id = some (.ofStored e.1 e.2) :=
      hwf.findIn_uid he.1 he.2
    rw [retrieve_runIn hs ht,
      show (⟨.default, checks⟩ : Store).spec.idField = "uid" from rfl, hfind,
      ensured_of_hasUid he]
    rfl
  refine ⟨huniq, ⟨?_, ?_⟩, misses_of_absent hs, fun e he => ⟨hretrieve e he,
    fun inputs rules v hv htext hblank =>
      create_fails hs ht h he hv htext hblank rules u, ?_⟩⟩
  · rintro ⟨r, hr⟩
    by_contra hnone
    have hmiss :=
      (misses_of_absent hs (fun e he => hnone ⟨e, he⟩) ctx table u ht).1
    rw [hr] at hmiss
    cases hmiss
  · rintro ⟨e, he⟩
    exact ⟨_, congrArg Prod.fst (hretrieve e he)⟩
  · obtain ⟨w', hrun, htable, hothers⟩ := delete_runIn hs ht
      (show (Record.ofStored e.1 e.2).id = some e.1 from rfl)
      (hwf.findIn_uid he.1 he.2)
    obtain ⟨before, after, hbefore, hafter⟩ := hwf.rows_erase he.1
    have hrows : rows w'.state t = before ++ after := by
      rw [rows, htable]
      exact hafter
    refine ⟨w', hrun, ⟨before, after, hbefore, hrows⟩, hothers,
      fun later hlater => ?_⟩
    refine hlater.misses hs fun e' he' => ?_
    -- A row that is left with the identifier would be the one that has gone.
    have hkept : e' ∈ ((opened ⟨state, u⟩ t).erase e.1).rows := by
      have hmem := he'.1
      rwa [rows, htable] at hmem
    obtain ⟨hmem, hkey⟩ := List.mem_filter.1 hkept
    obtain rfl := huniq e e' he ⟨hmem, he'.2⟩
    simp at hkey

/-- The state behind the creation of an order. -/
def oneOrder : ServiceState Tables (List Audit.Event) :=
  ((ofRecords.serve (.of "POST" "/") "orders"
    (.create [("uid", .str "a")] .empty)).runIn
    ⟨⟨[], []⟩, Store.stillSupply⟩).2.state

theorem reached_oneOrder : ofRecords.Reached oneOrder :=
  .served (.start []) (.of "POST" "/") "orders"
    (.create [("uid", .str "a")] .empty) Store.stillSupply

/-- The order is found, cannot be created again, and is gone
once it is deleted. -/
theorem one_order_is_found_until_deleted :
    ∃ r w', ((ofRecords.retrieve (.of "POST" "/") "orders" "a").runIn
          ⟨oneOrder, Store.stillSupply⟩).1 = .ok r ∧
      (∃ failure again,
        (ofRecords.create (.of "POST" "/") "orders"
          [("uid", .str "a")] .empty).runIn ⟨oneOrder, Store.stillSupply⟩ =
            (.error failure, again) ∧
          again.state = oneOrder) ∧
      (ofRecords.delete (.of "POST" "/") "orders" "a").runIn
        ⟨oneOrder, Store.stillSupply⟩ =
        (.ok r, w') ∧
      rows w'.state Store.ordersOfAcme = [] ∧
      ofRecords.Misses Store.ordersOfAcme "a" w'.state := by
  obtain ⟨-, -, -, hmap⟩ := table_is_map_by_uid (show ofRecords.repository =
    (⟨.default, []⟩ : Store).repository
      from rfl) ofRecords_tableName reached_oneOrder "a"
    Store.stillSupply
  have huids :
      (rows oneOrder Store.ordersOfAcme).map (fun e => textAt e.2 "uid") =
        [some "a"] := by decide +kernel
  obtain ⟨e, hrows, huid⟩ := List.map_eq_singleton_iff.1 huids
  have he : HasUid oneOrder Store.ordersOfAcme "a" e :=
    ⟨hrows ▸ List.mem_singleton_self e, huid⟩
  obtain ⟨hretrieve, hcreate, w', hdelete, ⟨before, after, hbefore, hafter⟩, -,
      hgone⟩ := hmap e he
  refine ⟨.ofStored e.1 e.2, w', congrArg Prod.fst hretrieve, ?_, hdelete, ?_,
    hgone _ .done⟩
  · exact hcreate _ _ (.str "a") (by rfl) rfl (by decide)
  · have hlength : 1 = (before ++ e :: after).length := by
      rw [← hbefore, hrows]; rfl
    rw [List.length_append, List.length_cons] at hlength
    rw [hafter, List.eq_nil_of_length_eq_zero (l := before) (by omega),
      List.eq_nil_of_length_eq_zero (l := after) (by omega), List.append_nil]

end Service

end TenantTables
