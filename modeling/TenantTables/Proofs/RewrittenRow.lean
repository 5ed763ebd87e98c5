import TenantTables.Proofs.ChangeLog

/-!
# Rows that are written again

A record that is found has all values of its row, and an update of it brings
each into the shape of its column a second time. For a value that was brought
into shape before that is no change, unless it is the text of an instant beyond
the four-digit years: the printer writes those years with a sign, and no reader
of timestamps takes them so.

Not every value of a row was brought into shape. A new row starts with what its
default expressions give, as it is, and the time of writing goes in as text. The
first part of this file follows every value of every reachable row back to one
of these, and the second says when a row can be written again.
-/

namespace TenantTables

open Json (Value Object)
open Time (Instant)

/-- A value that was brought into the shape of a column is taken again as it is,
unless it is the text of an instant that is not read from its text. -/
theorem Column.coerce_coerced_iff {c : Column} {v w : Value}
    (h : c.coerce v = .ok w) :
    c.coerce w = .ok w ↔
      (c.type = .timestamp → ∀ text, w = .str text →
        (Instant.read? text).isSome = true) := by
  constructor
  · rintro hagain htype text rfl
    have hcoerce := (coerce_eq_ok_iff.1 hagain).1
    rw [htype] at hcoerce
    obtain ⟨_, i, htext, hread, -⟩ := ColumnType.read_of_coerce hcoerce
    rw [Value.str.inj htext, hread]
    rfl
  · intro hread
    refine coerce_coerced h fun htype text htext => ?_
    have hcoerce := (coerce_eq_ok_iff.1 h).1
    rw [htype, htext] at hcoerce
    obtain ⟨i, hi, rfl⟩ := ColumnType.instant_of_coerce hcoerce
    have hsome := hread htype _ htext
    rw [Instant.read?_toText hi] at hsome
    refine ⟨i, ?_, rfl⟩
    rw [Instant.read?_toText hi]
    split at hsome
    · next hyear => rw [if_pos hyear]
    · cases hsome

namespace Memory

variable {spec : TableSpec} {checks : List Check} {name : String} {t t' : Table}
  {id : Option Int} {attributes row row' : Object} {now : Instant} {key : Int}

/-! ## Where the values of rows come from -/

/-- How a value comes to stand under a column of a row. -/
inductive Entered (spec : TableSpec) (c : Column) : Value → Prop where
  /-- It was written, in the shape of the column. -/
  | written {v w : Value} (h : c.coerce v = .ok w) : Entered spec c w
  /-- A new row began with it, for want of a value that was written. -/
  | blank {now : Instant} {w : Value} (h : (c.name, w) ∈ blankRow spec now) :
    Entered spec c w
  /-- It is the time of writing. -/
  | stamped (h : c.name = "updated_at") (now : Instant) :
    Entered spec c (.str now.toText)

/-- All values of a row came in by one of these ways. -/
def Rooted (spec : TableSpec) (row : Object) : Prop :=
  ∀ k v c, row.get? k = some v → spec.column? k = some c → Entered spec c v

theorem rooted_blankRow (spec : TableSpec) (now : Instant) :
    Rooted spec (blankRow spec now) := by
  intro k v c hv hc
  obtain ⟨-, rfl⟩ := TableSpec.mem_of_column? hc
  exact .blank (Object.mem_of_get? hv)

theorem Rooted.insert (h : Rooted spec row) {k : String} {v : Value}
    (hv : ∀ c, spec.column? k = some c → Entered spec c v) :
    Rooted spec (row.insert k v) := by
  intro l w c hw hc
  by_cases hl : l = k
  · subst hl
    rw [Object.get?_insert_self] at hw
    obtain rfl := Option.some.inj hw
    exact hv c hc
  · rw [Object.get?_insert_of_ne _ hl] at hw
    exact h l w c hw hc

theorem Rooted.assign (h : Rooted spec row)
    (ha : assign spec name attributes row = .ok row') :
    Rooted spec row' := by
  induction attributes generalizing row with
  | nil =>
      obtain rfl := Except.ok.inj ha
      exact h
  | cons f attributes ih =>
      obtain ⟨k, v⟩ := f
      rw [Memory.assign] at ha
      split at ha
      · cases ha
      · next c hc =>
          split at ha
          · cases ha
          · next w hw =>
              refine ih (h.insert fun d hd => ?_) ha
              obtain rfl := Option.some.inj (hc.symm.trans hd)
              exact .written hw

theorem Rooted.completeRow (hrows : ∀ e ∈ t.rows, Rooted spec e.2)
    (h : completeRow spec checks name t id attributes now = .ok row) :
    Rooted spec row := by
  obtain ⟨start, assigned, hs, ha, rfl, -⟩ := completeRow_ok h
  have hstart : Rooted spec start := by
    unfold startRow at hs
    split at hs
    · obtain rfl := Except.ok.inj hs
      exact rooted_blankRow spec now
    · split at hs
      · next hrow =>
          obtain rfl := Except.ok.inj hs
          exact hrows _ (mem_of_lookup hrow)
      · cases hs
  split
  · refine (hstart.assign ha).insert fun c hc => ?_
    exact .stamped (TableSpec.mem_of_column? hc).2 now
  · exact hstart.assign ha

/-- A well-formed table, all of whose values came in by one of these ways. -/
structure Grown (spec : TableSpec) (checks : List Check)
    (t : Table) : Prop where
  wellFormed : WellFormed spec checks t
  rooted : ∀ e ∈ t.rows, Rooted spec e.2

theorem hereditary_grown (spec : TableSpec) (checks : List Check) :
    Hereditary fun _ t => Grown spec checks t where
  empty _ := ⟨.empty, List.forall_mem_nil _⟩
  sublist h hs :=
    ⟨h.wellFormed.sublist hs, fun e he => h.rooted e (hs.subset he)⟩

theorem Grown.writeRow (h : Grown spec checks t)
    (hid : idColumn ∉ attributes.keys)
    (hw : writeRow spec checks name t id attributes now = .ok (key, row, t')) :
    Grown spec checks t' := by
  refine ⟨h.wellFormed.writeRow hid hw, ?_⟩
  obtain ⟨hcomplete, hshape⟩ := writeRow_ok hw
  have hrow : Rooted spec row := .completeRow h.rooted hcomplete
  have hrows : ∀ e ∈ Table.setRow key row t.rows, Rooted spec e.2 := by
    intro e he
    rcases (mem_setRow h.wellFormed.ascending).1 he with rfl | ⟨he, -⟩
    · exact hrow
    · exact h.rooted e he
  obtain ⟨-, rfl⟩ | ⟨-, rfl, rfl⟩ := hshape
  · exact hrows
  · exact hrows

theorem writesKeep_grown (s : Store) (n : String) :
    s.WritesKeep (fun _ t => Grown s.spec s.checks t) n :=
  fun ht hid hw => ht.writeRow hid hw

/-! ## Writing a row as it is -/

/-- A row with nothing but the time of writing changed, if there is
a column for it. -/
def restamped (spec : TableSpec) (now : Instant) (row : Object) : Object :=
  if spec.hasColumn "updated_at" then row.insert "updated_at" (.str now.toText)
  else row

theorem get?_restamped {k : String} (hk : k ≠ "updated_at") :
    (restamped spec now row).get? k = row.get? k := by
  unfold restamped
  split
  · exact Object.get?_insert_of_ne _ hk _
  · rfl

theorem HasLayout.restamped (h : HasLayout spec row) (now : Instant) :
    HasLayout spec (restamped spec now row) := by
  unfold Memory.restamped
  split
  · next hcol => exact h.insert (by decide) hcol _
  · exact h

/-- Every column takes its value of a row again, and all but the time of writing
as it is. -/
def TakenAgain (spec : TableSpec) (row : Object) : Prop :=
  ∀ k v c, row.get? k = some v → spec.column? k = some c →
    ∃ w, c.coerce v = .ok w ∧ (k ≠ "updated_at" → w = v)

/-- Of values that were written only the instants matter that are not read from
their texts. -/
theorem takenAgain_iff_of_written
    (h : ∀ k v c, row.get? k = some v → spec.column? k = some c →
      ∃ u, c.coerce u = .ok v) :
    TakenAgain spec row ↔ ∀ k text c, row.get? k = some (.str text) →
      spec.column? k = some c →
      c.type = .timestamp → (Instant.read? text).isSome = true := by
  constructor
  · intro htaken k text c hv hc htype
    obtain ⟨u, hu⟩ := h k _ c hv hc
    obtain ⟨w, hw, -⟩ := htaken k _ c hv hc
    obtain rfl := Column.eq_of_coerce_coerced hu hw
    exact (Column.coerce_coerced_iff hu).1 hw htype text rfl
  · intro hread k v c hv hc
    obtain ⟨u, hu⟩ := h k v c hv hc
    refine ⟨v, (Column.coerce_coerced_iff hu).2 fun htype text htext =>
      ?_, fun _ => rfl⟩
    exact hread k text c (htext ▸ hv) hc htype

theorem restamped_of_assign (hlayout : HasLayout spec row)
    (ha : assign spec name row row = .ok row')
    (hsame : ∀ k, k ≠ "updated_at" → row'.get? k = row.get? k) :
    restamped spec now row' = restamped spec now row := by
  obtain ⟨written, hwritten, hrow'⟩ := assign_eq_ok_iff.1 ha
  have hkeys : row'.keys = row.keys := by
    rw [hrow']
    refine Object.keys_insertAll_of_subset fun f hf => ?_
    rw [← keys_of_coerced hwritten]
    exact List.mem_map_of_mem hf
  unfold restamped
  split
  · next hcol =>
      have hmem : "updated_at" ∈ row.keys :=
        (hlayout.mem_keys _).2 ⟨by decide, hcol⟩
      have hmem' : "updated_at" ∈ row'.keys := hkeys ▸ hmem
      refine Object.eq_of_keys_of_get? ?_ ?_ fun k => ?_
      · rw [Object.keys_insert_of_mem hmem', hkeys]
        exact hlayout.nodup
      · rw [Object.keys_insert_of_mem hmem',
          Object.keys_insert_of_mem hmem, hkeys]
      · by_cases hk : k = "updated_at"
        · rw [hk, Object.get?_insert_self, Object.get?_insert_self]
        · rw [Object.get?_insert_of_ne _ hk, Object.get?_insert_of_ne _ hk,
            hsame k hk]
  · next hcol =>
      refine Object.eq_of_keys_of_get? (hkeys ▸ hlayout.nodup) hkeys fun k => ?_
      by_cases hk : k = "updated_at"
      · have hnot : k ∉ row.keys :=
          fun hmem => hcol (hk ▸ ((hlayout.mem_keys k).1 hmem).2)
        rw [Object.get?_eq_none_iff.2 hnot,
          Object.get?_eq_none_iff.2 (hkeys ▸ hnot)]
      · exact hsame k hk

/-- A stored row is written again as it is exactly if its columns take its
values again and it meets the constraints under its new time of writing. -/
theorem writeRow_same_iff (hlayout : HasLayout spec row)
    (hrow : t.row? key = some row) :
    (∃ t', writeRow spec checks name t (some key) row now =
        .ok (key, restamped spec now row, t')) ↔
      TakenAgain spec row ∧
        constrain spec checks name t (some key)
          (restamped spec now row) = .ok () := by
  constructor
  · rintro ⟨t', hw⟩
    obtain ⟨hcomplete, -⟩ := writeRow_ok hw
    obtain ⟨start, assigned, hs, ha, hstamped, hmeets⟩ :=
      completeRow_ok hcomplete
    obtain rfl : row = start := by simpa [startRow, hrow] using hs
    refine ⟨fun k v c hv hc => ?_, hmeets⟩
    obtain ⟨d, w, hd, hw, hget⟩ := get?_assigned ha hlayout.nodup hv
    obtain rfl := Option.some.inj (hc.symm.trans hd)
    refine ⟨w, hw, fun hk => ?_⟩
    have hread : (restamped spec now row).get? k =
        (restamped spec now assigned).get? k := by
      rw [hstamped, Option.isSome_some, Bool.true_and, restamped]
    rw [get?_restamped hk, get?_restamped hk, hv, hget] at hread
    exact (Option.some.inj hread).symm
  · rintro ⟨htaken, hmeets⟩
    have haccepts : Accepts spec row := by
      rintro ⟨k, v⟩ hf
      have hmem := (hlayout.mem_keys k).1 (List.mem_map_of_mem hf)
      obtain ⟨c, hc⟩ := Option.isSome_iff_exists.1 hmem.2
      obtain ⟨w, hw, -⟩ := htaken k v c (Object.get?_of_mem hlayout.nodup hf) hc
      exact ⟨c, w, hc, hw⟩
    obtain ⟨assigned, ha⟩ := assign_of_accepts haccepts name row
    have hsame : restamped spec now assigned = restamped spec now row := by
      refine restamped_of_assign hlayout ha fun k hk => ?_
      cases hv : row.get? k with
      | none => rw [get?_unassigned ha hlayout.nodup hv, hv]
      | some v =>
          obtain ⟨c, w, hc, hw, hget⟩ := get?_assigned ha hlayout.nodup hv
          obtain ⟨w', hw', hkept⟩ := htaken k v c hv hc
          obtain rfl := Except.ok.inj (hw.symm.trans hw')
          rw [hget, hkept hk]
    have hcomplete : completeRow spec checks name t (some key) row now =
        .ok (restamped spec now row) := by
      rw [← hsame] at hmeets ⊢
      rw [restamped] at hmeets ⊢
      simp only [completeRow, startRow, hrow, ha, Option.isSome_some,
        Bool.true_and, hmeets, bind, Except.bind]
    exact ⟨_, by rw [writeRow, hcomplete]; rfl⟩

/-! ## Updates of records as they were found -/

namespace Store

variable {s : Store} {tables : Tables} {work : Work}

theorem Works.grown (hreach : s.Reachable tables) (h : s.Works tables work) :
    work.Everywhere fun _ t => Grown s.spec s.checks t :=
  have hgrown := hereditary_grown s.spec s.checks
  h.everywhere hgrown (writesKeep_grown s)
    (hreach.everywhere hgrown (writesKeep_grown s))

/-- The update of a record that stands in its table answers the row as it is,
the time of writing apart, exactly if the row can be written again. -/
theorem update_same_iff {r : Record} {w : World Work} {tableName : TableName}
    (hwf : WellFormed s.spec s.checks t) (hr : Stands s.spec t key r)
    (ht : w.state.view tableName.physical = some t) :
    ((s.transaction.update tableName r).runIn w).1 =
        .ok (.ofStored key (restamped s.spec w.supply.now.1 r.attributes)) ↔
      TakenAgain s.spec r.attributes ∧
        constrain s.spec s.checks tableName.physical t (some key)
          (restamped s.spec w.supply.now.1 r.attributes) = .ok () := by
  rw [← writeRow_same_iff hr.layout hr.row, update_eq_write hr.id]
  constructor
  · intro hanswer
    obtain ⟨key', row', t', hw, hstored, -⟩ :=
      of_write_runIn_ok ht (Prod.ext hanswer rfl)
    have hlayout : HasLayout s.spec row' :=
      completeRow_hasLayout (writeRow_ok hw).1
        hr.layout.id_not_mem fun e he => (hwf.rows_meet e he).layout
    have hkey : key = key' := Option.some.inj (congrArg Record.id hstored)
    have hrow : restamped s.spec w.supply.now.1 r.attributes = row' := by
      have hattributes := congrArg Record.attributes hstored
      rwa [Record.markSaved, Record.ofStored, Record.ofStored,
        Record.withoutId_eq_self (hr.layout.restamped _).id_not_mem,
        Record.withoutId_eq_self hlayout.id_not_mem] at hattributes
    subst hkey hrow
    exact ⟨t', hw⟩
  · rintro ⟨t', hw⟩
    rw [write_runIn_ok ht hw, Record.markSaved, hr.audited]
    rfl

/-- What came out of coercion is taken again as it is, unless it is the text of
an instant beyond the four-digit years. A record that is found in a reachable
store is updated to the row that it was found in, the time of writing apart,
exactly if its columns take every value again and the row meets the constraints
under the new time. Every value was written in the shape of its column, stood in
the new row, or is a time of writing; if all were written, the columns take them
again exactly if every timestamp is read from its text. -/
theorem found_row_is_written_again_iff (s : Store) {tables : Tables}
    (hreach : s.Reachable tables) :
    (∀ (t : ColumnType) (v w : Value), t.coerce v = .ok w →
      (t.coerce w = .ok w ↔ t.InFourDigits v)) ∧
    ∀ (w w' : World Work) (name : TableName) (field value : String)
      (r : Record),
      s.Works tables w.state →
      (s.transaction.find name field value).runIn w = (.ok (some r), w') →
      ∃ t key, w'.state.view name.physical = some t ∧ r.id = some key ∧
        (((s.transaction.update name r).runIn w').1 =
            .ok (.ofStored key
              (restamped s.spec w'.supply.now.1 r.attributes)) ↔
          TakenAgain s.spec r.attributes ∧
            constrain s.spec s.checks name.physical t (some key)
              (restamped s.spec w'.supply.now.1 r.attributes) = .ok ()) ∧
        (∀ k v c, r.attributes.get? k = some v → s.spec.column? k = some c →
          Entered s.spec c v) ∧
        ((∀ k v c, r.attributes.get? k = some v → s.spec.column? k = some c →
            ∃ u, c.coerce u = .ok v) →
          (TakenAgain s.spec r.attributes ↔
            ∀ k text c, r.attributes.get? k = some (.str text) →
              s.spec.column? k = some c →
              c.type = .timestamp → (Instant.read? text).isSome = true)) := by
  refine ⟨fun t v w h => ColumnType.coerce_coerced_iff h, ?_⟩
  intro w w' name field value r hworks hfind
  have hgrown := hworks.grown hreach
  cases ht : w.state.view name.physical with
  | none =>
      have hmissing : (s.transaction.find name field value).runIn w =
          (.error (missingTable name), w) :=
        Action.runIn_bind_error (copyOf_runIn_of_none ht)
      rw [hmissing] at hfind
      cases hfind
  | some t =>
      rw [find_runIn ht, Prod.mk.injEq, Except.ok.injEq] at hfind
      obtain ⟨hfound, rfl⟩ := hfind
      have htable : Grown s.spec s.checks t := hgrown.view _ _ ht
      obtain ⟨key, hr⟩ := htable.wellFormed.stands_of_findIn hfound
      refine ⟨t, key, Work.view_hold_self, hr.id,
        update_same_iff htable.wellFormed hr Work.view_hold_self,
        htable.rooted _ (mem_of_lookup hr.row), takenAgain_iff_of_written⟩

/-! ## The last day of the four-digit years, and the first behind them -/

/-- Orders with the time they were seen. -/
def seenOrders : Store :=
  ⟨(TableSpec.bare "uid").withColumn { name := "seen", type := .timestamp }, []⟩

/-- An order seen at a time. -/
def seenAt (text : String) : Object :=
  [("uid", .str "a"), ("seen", .str text)]

theorem of_get?_seenAt {text k : String} {v : Value}
    (h : (seenAt text).get? k = some v) :
    k = "uid" ∧ v = .str "a" ∨ k = "seen" ∧ v = .str text := by
  simpa [seenAt] using Object.mem_of_get? h

/-- A unit of work that has stored an order seen on the last day. -/
def lastDay : Work :=
  ⟨[("acme$orders", .empty)],
    [("acme$orders", ⟨2, [(1, seenAt "9999-12-31T00:00:00+00:00")]⟩)]⟩

theorem last_day_is_written_again :
    seenOrders.Reachable lastDay.tables ∧
      seenOrders.Works lastDay.tables lastDay ∧
    ∃ r w', (seenOrders.transaction.find ordersOfAcme "uid" "a").runIn
      ⟨lastDay, stillSupply⟩ =
        (.ok (some r), w') ∧
      r.attributes = seenAt "9999-12-31T00:00:00+00:00" ∧
      ((seenOrders.transaction.update ordersOfAcme r).runIn w').1 =
        .ok (.ofStored 1 r.attributes) := by
  have hreach : seenOrders.Reachable lastDay.tables :=
    .ensureTable .new ordersOfAcme stillSupply
  have hstart : seenOrders.Works lastDay.tables ⟨lastDay.tables, []⟩ :=
    .start stillSupply rfl
  have hworks : seenOrders.Works lastDay.tables lastDay :=
    .insert hstart ordersOfAcme (.new (seenAt "9999-12-31")) stillSupply
  have hfind : (seenOrders.transaction.find ordersOfAcme "uid" "a").runIn
      ⟨lastDay, stillSupply⟩ =
        (.ok (some (.ofStored 1 (seenAt "9999-12-31T00:00:00+00:00"))),
          ⟨lastDay, stillSupply⟩) :=
    rfl
  obtain ⟨t, key, ht, hkey, hiff, -, hwritten⟩ :=
    (found_row_is_written_again_iff _ hreach).2 _ _ _ _ _ _ hworks hfind
  obtain rfl := Option.some.inj ht
  obtain rfl := Option.some.inj hkey
  refine ⟨hreach, hworks, _, _, hfind, rfl, hiff.2 ⟨(hwritten ?_).2 ?_, rfl⟩⟩
  · intro k v c hv hc
    rcases of_get?_seenAt hv with ⟨rfl, rfl⟩ | ⟨rfl, rfl⟩
    · obtain rfl := Option.some.inj hc
      exact ⟨.str "a", rfl⟩
    · obtain rfl := Option.some.inj hc
      exact ⟨.str "9999-12-31", rfl⟩
  · intro k text c hv hc htype
    rcases of_get?_seenAt hv with ⟨rfl, -⟩ | ⟨-, heq⟩
    · obtain rfl := Option.some.inj hc
      cases htype
    · rw [Value.str.inj heq]
      rfl

/-- Stores an order, finds it and updates it as it was found. -/
def writtenTwice (text : String) : Action Work Unit := do
  let _ ← seenOrders.transaction.insert ordersOfAcme (.new (seenAt text))
  let found ← seenOrders.transaction.find ordersOfAcme "uid" "a"
  let _ ← found.mapM (seenOrders.transaction.update ordersOfAcme)

theorem year_behind_is_not_taken_again :
    (¬ ∀ (t : ColumnType) (v w : Value), t.coerce v = .ok w →
      t.coerce w = .ok w) ∧
    ((writtenTwice "+10000-01-01").runIn ⟨⟨[("acme$orders", .empty)], []⟩,
      stillSupply⟩).1 =
        .error (.database ("column \"seen\": " ++
          "Invalid timestamp format: '+10000-01-01T00:00:00+00:00'")) := by
  refine ⟨fun hagain => ?_, by rfl⟩
  have hfirst : ColumnType.timestamp.coerce (.str "+10000-01-01") =
      .ok (.str "+10000-01-01T00:00:00+00:00") := by rfl
  have hsecond :
      ColumnType.timestamp.coerce (.str "+10000-01-01T00:00:00+00:00") =
        .error "Invalid timestamp format: '+10000-01-01T00:00:00+00:00'" := by
    rfl
  have hsame := hagain _ _ _ hfirst
  rw [hsecond] at hsame
  cases hsame

end Store

end Memory

end TenantTables
