import TenantTables.Proofs.GeneralRequests

/-!
# Reading one's own upsert

The record that an upsert answers is found afterwards, under the identifier that
it has then. That need not be the one that was asked for. A record that is found
takes over the attributes that are given, and its identifier is one of them: an
upsert can rename. A new record is stored under the identifier that was asked
for, whatever the attributes say, unless it is blank.

An upsert that finds nothing to change answers the record as the caller gave it,
and stores nothing. What is read then is equal to it and need not be identical:
documents are equal whatever the order of their keys.
-/

namespace TenantTables

open Json (Value Object)
open Memory (Store Table Tables Work Check WellFormed Revises Creates
  findIn textAt)

/-- Records that are equal: their documents are, whatever the order of keys. -/
structure Record.Same (a b : Record) : Prop where
  id : a.id = b.id
  keys : a.attributes.keys = b.attributes.keys
  values : ∀ k v w, a.attributes.get? k = some v →
    b.attributes.get? k = some w →
    v = w ∨ v.same w = true
  snapshot : a.snapshot = b.snapshot
  audited : a.audited = b.audited

theorem Record.Same.refl (r : Record) : r.Same r where
  id := rfl
  keys := rfl
  values _ _ _ hv hw := .inl (Option.some.inj (hv.symm.trans hw))
  snapshot := rfl
  audited := rfl

/-- Equal records have the same texts. -/
theorem Record.Same.text {a b : Record} (h : a.Same b) {k s : String}
    (hs : a.attributes.get? k = some (.str s)) :
    b.attributes.get? k = some (.str s) := by
  have hk : k ∈ b.attributes.keys := h.keys ▸ Object.mem_keys_iff.2 ⟨_, hs⟩
  obtain ⟨v, hv⟩ := Object.mem_keys_iff.1 hk
  rw [hv]
  rcases h.values k _ v hs hv with heq | hsame
  · rw [heq]
  · have hkind := Value.kind_of_same hsame
    cases v with
    | str s' =>
        have heq : s = s' := by simpa [Value.same] using hsame
        rw [heq]
    | null | bool _ | int _ | float _ | arr _ | obj _ => cases hkind

namespace Service

variable {κ : Type} {svc : Service Tables Work κ} {checks : List Check}
  {ctx : RequestContext} {table id : String} {name : TableName}
  {w w' : World (ServiceState Tables κ)} {inputs row : Object} {r : Record}
  {t t' : Table} {u : Supply} {state : ServiceState Tables κ}

/-! ## Identifiers are stored as texts -/

theorem lasting_uid (checks : List Check) :
    Lasting checks fun t => ∀ e ∈ t.rows, ∃ s,
      e.2.get? "uid" = some (.str s) where
  empty e he := by cases he
  sublist h hs e he := h e (hs.subset he)
  revises hwf h hQ e he := by
    rcases (h.mem_rows_iff hwf).1 he with rfl | ⟨he, -⟩
    · obtain ⟨id, hid⟩ := hwf.exists_uid h.stands
      exact ⟨_, h.uid hwf hid⟩
    · exact hQ e he
  creates hwf h _ hQ e he := by
    rcases (h.mem_rows_iff hwf).1 he with rfl | he
    · obtain ⟨s, hs, -⟩ := h.uid hwf
      exact ⟨s, hs⟩
    · exact hQ e he

theorem Reached.uid_text (h : svc.Reached state)
    (hs : svc.repository = (⟨.default, checks⟩ : Store).repository)
    {t : TableName} {e : Int × Object} (he : HasUid state t id e) :
    e.2.get? "uid" = some (.str id) := by
  obtain ⟨hmem, hid⟩ := he
  unfold rows at hmem
  cases ht : List.lookup t.physical state.store with
  | none =>
      rw [ht] at hmem
      cases hmem
  | some v =>
      rw [ht] at hmem
      obtain ⟨s, hs⟩ := (lasting_uid checks).reached hs h _ _ ht e hmem
      rw [textAt, hs, Option.bind_some] at hid
      rw [hs, ← Option.some.inj hid]

/-! ## Nothing to change -/

/-- A record that is not changed by what is given equals the one
that is stored. -/
theorem same_of_no_changes (key : Int) (hlayout : Memory.HasLayout .default row)
    (h : (revised .default inputs (.ofStored key row)).changes = []) :
    (Record.ofStored key row).Same
      (revised .default inputs (.ofStored key row)) where
  id := (id_revised _ _ _).symm
  snapshot := (snapshot_revised _ _ _).symm
  audited := (audited_revised _ _ _).symm
  keys := by
    have hstored : (Record.ofStored key row).attributes = row :=
      Record.withoutId_eq_self hlayout.id_not_mem
    rw [attributes_revised, hstored]
    refine (Object.keys_insertAll_of_subset fun f hf =>
      (hlayout.mem_keys f.1).2 ?_).symm
    have hkey : f.1 ∈ Object.keys (TableSpec.default.prepareUpdate
        (TableSpec.default.fillable
          (Path.undot inputs))) := List.mem_map_of_mem hf
    rw [TableSpec.keys_prepareUpdate] at hkey
    obtain ⟨hcol, hunmanaged⟩ := TableSpec.of_mem_keys_fillable hkey
    exact ⟨fun heq => hunmanaged (heq ▸ by decide), hcol⟩
  values k v v' hv hv' := by
    obtain ⟨old, hold, hsame⟩ :=
      Record.same_of_not_listed (k := k) (by simp [h]) hv'
    rw [snapshot_revised] at hold
    obtain rfl := Option.some.inj (hold.symm.trans hv)
    exact .inr hsame

/-! ## Where the record stands -/

/-- A row that stands in the table behind an upsert: it is that of the record
that was answered, and this is its identifier. -/
structure Settles (id : String) (inputs : Object) (t t' : Table) (r : Record)
    (uid : String) (e : Int × Object) : Prop where
  mem : e ∈ t'.rows
  text : textAt e.2 "uid" = some uid
  same : (Record.ofStored e.1 e.2).Same r
  answered : textAt r.attributes "uid" = some uid
  /-- A new record has the identifier that was asked for. -/
  of_new (hnew : ∀ e ∈ t.rows, textAt e.2 "uid" ≠ some id)
    (hblank : Text.isBlankText id = false) : uid = id
  /-- One that was found has the identifier that is given, if one is. -/
  of_found {e : Int × Object} (he : e ∈ t.rows)
    (hid : textAt e.2 "uid" = some id) :
      uid = (textAt (Path.undot inputs) "uid").getD id
  /-- If this is another one, no row is left with that which was asked for. -/
  left (hne : uid ≠ id) {e : Int × Object} (he : e ∈ t'.rows) :
    textAt e.2 "uid" ≠ some id

theorem settles_unchanged (hwf : WellFormed .default checks t)
    {e : Int × Object} (he : e ∈ t.rows)
    (huid : e.2.get? "uid" = some (.str id))
    (hchanges : (revised .default inputs (.ofStored e.1 e.2)).changes = []) :
    Settles id inputs t t
      (revised .default inputs (.ofStored e.1 e.2)) id e := by
  have hlayout := (hwf.rows_meet e he).layout
  have hsame := same_of_no_changes e.1 hlayout hchanges
  have hstored : (Record.ofStored e.1 e.2).attributes = e.2 :=
    Record.withoutId_eq_self hlayout.id_not_mem
  have hrevised := hsame.text (hstored ▸ huid)
  refine ⟨he, Memory.textAt_eq_some_iff.2 ⟨_, huid, rfl⟩, hsame,
    Memory.textAt_eq_some_iff.2 ⟨_, hrevised, rfl⟩, fun _ _ => rfl,
    fun _ _ => ?_, fun hne => absurd rfl hne⟩
  rw [get?_attributes_revised, Memory.get?_uid_given] at hrevised
  rw [textAt]
  cases hv : (Path.undot inputs).get? "uid" with
  | none => rfl
  | some v =>
      rw [hv, Option.some_or] at hrevised
      rw [Option.some.inj hrevised]
      rfl

theorem settles_updated (hwf : WellFormed .default checks t)
    {now : Time.Instant} {key : Int} {start : Object}
    (huid : textAt start "uid" = some id)
    (h : Revises checks name.physical (Path.undot inputs) now t key
      start row t') :
    Settles id inputs t t' (.ofStored key row)
      ((textAt (Path.undot inputs) "uid").getD id)
      (key, row) := by
  have hmem : (key, row) ∈ t'.rows := (h.mem_rows_iff hwf).2 (.inl rfl)
  have hrow := Memory.textAt_eq_some_iff.2 ⟨_, h.uid hwf huid, rfl⟩
  have hstored : (Record.ofStored key row).attributes = row :=
    Record.withoutId_eq_self
      (((h.wellFormed hwf).rows_meet _ hmem).layout.id_not_mem)
  refine ⟨hmem, hrow, .refl _, by rwa [hstored], fun hnew _ =>
    ?_, fun _ _ => rfl,
    fun hne e he hid => ?_⟩
  · exact absurd huid (hnew _ h.stands)
  · rcases (h.mem_rows_iff hwf).1 he with rfl | ⟨he, hkey⟩
    · exact hne (Option.some.inj (hrow.symm.trans hid))
    · exact hkey (congrArg Prod.fst (hwf.eq_of_uid he h.stands hid huid))

theorem settles_inserted (hwf : WellFormed .default checks t)
    {now : Time.Instant} (hnew : ∀ e ∈ t.rows, textAt e.2 "uid" ≠ some id)
    (h : Creates checks name.physical
      (under .default (some id) (Path.undot inputs)) u now t row t') :
    ∃ uid, Settles id inputs t t' (.ofStored t.nextId row) uid
      (t.nextId, row) := by
  have hmem : (t.nextId, row) ∈ t'.rows := (h.mem_rows_iff hwf).2 (.inl rfl)
  have hstored : (Record.ofStored t.nextId row).attributes = row :=
    Record.withoutId_eq_self
      (((h.wellFormed hwf).rows_meet _ hmem).layout.id_not_mem)
  obtain ⟨uid, huid, hgiven⟩ := h.uid hwf
  have hrow := Memory.textAt_eq_some_iff.2 ⟨_, huid, rfl⟩
  refine ⟨uid, hmem, hrow, .refl _, by rwa [hstored], fun _ hblank => ?_,
    fun he hid => absurd hid (hnew _ he), fun hne e he hid => ?_⟩
  · -- What is asked for goes over what the inputs say.
    have hasked : (under .default (some id) (Path.undot inputs)).get? "uid" =
        some (.str id) :=
      Object.get?_insert_self _ _ _
    have hfilled : Object.get? (TableSpec.default.fillable
        (under .default (some id) (Path.undot inputs))) "uid" =
          some (.str id) := by
      rw [TableSpec.get?_fillable, if_pos (by decide), hasked]
    have htext := hgiven (TableSpec.missesId_eq_false hfilled rfl hblank)
    rw [textAt, hasked] at htext
    exact (Option.some.inj htext).symm
  · rcases (h.mem_rows_iff hwf).1 he with rfl | he
    · exact hne (Option.some.inj (hrow.symm.trans hid))
    · exact hnew e he hid

/-- Whatever an upsert does, the record that it answers stands in the table. -/
theorem Upserts.settles (hwf : WellFormed .default checks t)
    (htexts : ∀ e ∈ t.rows, textAt e.2 "uid" = some id →
      e.2.get? "uid" = some (.str id))
    (h : Upserts checks name.physical (some id) inputs t u r t') :
    ∃ uid e, Settles id inputs t t' r uid e := by
  cases h with
  | @unchanged i e hid he huid hchanges =>
      obtain rfl := Option.some.inj hid
      exact ⟨id, e, settles_unchanged hwf he (htexts e he huid) hchanges⟩
  | updated hid huid h =>
      obtain rfl := Option.some.inj hid
      exact ⟨_, _, settles_updated hwf huid h⟩
  | inserted hnew h =>
      obtain ⟨uid, hsettles⟩ := settles_inserted hwf (hnew id rfl) h
      exact ⟨uid, _, hsettles⟩

/-- Over the general layout with any checks, in every state that requests lead
to: if an upsert under an identifier succeeds, the record that it answers has an
identifier under which retrieving succeeds afterwards and answers a record equal
to it. If no row had the identifier that was asked for, and it is not blank, it
is this one, whatever the inputs say. If one had, it is the one that the inputs
give, dotted keys included, and this one if they give none. If it is another
one, then nothing is found any more under the one that was asked for. -/
theorem upserted_record_is_retrieved
    (hs : svc.repository = (⟨.default, checks⟩ : Store).repository)
    (hname : svc.tableName ctx table = .ok name) (h : svc.Reached w.state)
    {rules : FieldRules}
    (hrun : (svc.upsert ctx table (some id) inputs rules).runIn w =
      (.ok r, w')) :
    ∃ uid, textAt r.attributes "uid" = some uid ∧
      (∀ ctx' table' u, svc.tableName ctx' table' = .ok name →
        ∃ stored,
        ((svc.retrieve ctx' table' uid).runIn ⟨w'.state, u⟩).1 = .ok stored ∧
          stored.Same r) ∧
      ((∀ e, ¬ HasUid w.state name id e) → Text.isBlankText id = false →
        uid = id) ∧
      (∀ e, HasUid w.state name id e →
        uid = (textAt (Path.undot inputs) "uid").getD id) ∧
      (uid ≠ id → svc.Misses name id w'.state) := by
  have hwf : WellFormed .default checks (opened w name) :=
    h.wellFormed hs name.physical
  have hupserts := upserts_of_runIn_ok hs hname hwf hrun
  obtain ⟨uid, e, hsettles⟩ :=
    hupserts.settles hwf fun e he hid => h.uid_text hs ⟨he, hid⟩
  have hwf' : WellFormed .default checks (opened w' name) :=
    hupserts.wellFormed hwf
  refine ⟨uid, hsettles.answered, fun ctx' table' u hname' => ?_,
    fun hnew hblank =>
      hsettles.of_new (fun e he hid => hnew e ⟨he, hid⟩) hblank,
    fun e he => hsettles.of_found he.1 he.2,
    fun hne => misses_of_absent hs fun e he => hsettles.left hne he.1 he.2⟩
  have hfind : findIn (opened ⟨w'.state, u⟩ name) "uid" uid =
      some (.ofStored e.1 e.2) :=
    hwf'.findIn_uid hsettles.mem hsettles.text
  refine ⟨.ofStored e.1 e.2, ?_, hsettles.same⟩
  rw [retrieve_runIn hs hname',
    show (⟨.default, checks⟩ : Store).spec.idField = "uid" from rfl, hfind]
  rfl

/-- An order that is asked for as `c` is stored and found as `c`, though its
inputs call it something else. -/
theorem order_is_retrieved_as_asked_for :
    ∃ r w' stored,
      (ofRecords.upsert (.of "POST" "/") "orders" (some "c")
        [("uid", .str "z"), ("data.size", .int 3)] .empty).runIn
        ⟨oneOrder, Store.stillSupply⟩ = (.ok r, w') ∧
      ((ofRecords.retrieve (.of "POST" "/") "orders" "c").runIn w').1 =
        .ok stored ∧
      stored.Same r ∧ textAt r.attributes "uid" = some "c" := by
  have huids :
      (rows oneOrder Store.ordersOfAcme).map (fun e => textAt e.2 "uid") =
        [some "a"] := by decide +kernel
  have hnew : ∀ e, ¬ HasUid oneOrder Store.ordersOfAcme "c" e := by
    rintro e ⟨he, hid⟩
    have hmem : textAt e.2 "uid" ∈ [some "a"] := huids ▸ List.mem_map_of_mem he
    rw [hid] at hmem
    exact absurd hmem (by decide)
  rcases hrun : (ofRecords.upsert (.of "POST" "/") "orders" (some "c")
    [("uid", .str "z"), ("data.size", .int 3)] .empty).runIn
    ⟨oneOrder, Store.stillSupply⟩ with ⟨answer, w'⟩
  have hanswer : answer.toOption.isSome = true := by
    have h : ((ofRecords.upsert (.of "POST" "/") "orders" (some "c")
        [("uid", .str "z"), ("data.size", .int 3)] .empty).runIn
          ⟨oneOrder, Store.stillSupply⟩).1.toOption.isSome =
            true := by decide +kernel
    rwa [hrun] at h
  cases answer with
  | error e => cases hanswer
  | ok r =>
      obtain ⟨uid, huid, hretrieve, hasked, -, -⟩ :=
        upserted_record_is_retrieved
          (w := ⟨oneOrder, Store.stillSupply⟩) (show ofRecords.repository =
            (⟨.default, []⟩ : Store).repository
              from rfl) ofRecords_tableName reached_oneOrder hrun
      obtain rfl : uid = "c" := hasked hnew (by decide)
      obtain ⟨stored, hstored, hsame⟩ :=
        hretrieve _ _ w'.supply ofRecords_tableName
      exact ⟨r, w', stored, rfl, hstored, hsame, huid⟩

/-- An upsert of the order `a` that gives another identifier renames the order,
and then `a` is not found. -/
theorem renamed_order_is_not_retrieved :
    ∃ r w',
      (ofRecords.upsert (.of "PUT" "/") "orders" (some "a") [("uid", .str "b")]
        .empty).runIn ⟨oneOrder, Store.stillSupply⟩ = (.ok r, w') ∧
      ((ofRecords.retrieve (.of "POST" "/") "orders" "a").runIn w').1 =
        .error (noRecord Store.ordersOfAcme "a") := by
  let renamed :=
    (ofRecords.upsert (.of "PUT" "/") "orders" (some "a") [("uid", .str "b")]
      .empty).runIn ⟨oneOrder, Store.stillSupply⟩
  have hanswer : renamed.1.toOption.isSome = true := by decide +kernel
  obtain ⟨r, hr⟩ := Option.isSome_iff_exists.1 hanswer
  have hnone :
      (findIn (opened renamed.2 Store.ordersOfAcme) "uid" "a").isNone =
        true := by
    decide +kernel
  refine ⟨r, renamed.2, Action.runIn_of_toOption hr, ?_⟩
  rw [retrieve_runIn
    (show ofRecords.repository = (⟨.default, []⟩ : Store).repository from rfl)
    ofRecords_tableName]
  dsimp only
  rw [show (⟨.default, []⟩ : Store).spec.idField = "uid" from rfl,
    Option.isNone_iff_eq_none.1 hnone]
  rfl

end Service

end TenantTables
