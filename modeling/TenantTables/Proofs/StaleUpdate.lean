import TenantTables.Proofs.GeneralLayout
import TenantTables.Proofs.StoreInvariant

/-!
# Updates of records that are out of date

A record lists as changed what differs from its snapshot, and that is what a
caller expects an update to write. An update writes more: every attribute that
the record carries, listed or not, goes into the row again, in the shape of its
column.

For a record of the row as it stands that makes no difference. For one that was
found before somebody else wrote to the row it does: what the other wrote is
replaced by what the record still carries. So an attribute that is not listed
is kept exactly if the update fails, the record has no such attribute, or the
row has what the record carries already. Nothing here depends on how the record
became out of date, within one unit of work or across several.
-/

namespace TenantTables

open Json (Value Object)
open Time (Instant)

/-- An attribute that is not listed as changed has the value of the snapshot. -/
theorem Record.same_of_not_listed {r : Record} {k : String} {v : Value}
    (hk : ∀ c ∈ r.changes, c.key ≠ k) (hv : r.attributes.get? k = some v) :
    ∃ old, r.snapshot.get? k = some old ∧ old.same v = true := by
  have hunchanged : r.isUnchanged k v = true := by
    by_contra hchanged
    refine hk ⟨k, (r.snapshot.get? k).getD .null, v⟩ ?_ rfl
    refine List.mem_map.2 ⟨(k, v),
      List.mem_filter.2 ⟨Object.mem_of_get? hv, ?_⟩, rfl⟩
    simpa using hchanged
  unfold Record.isUnchanged at hunchanged
  split at hunchanged
  · next old hold => exact ⟨old, hold, hunchanged⟩
  · cases hunchanged

namespace Memory

variable {spec : TableSpec} {checks : List Check} {name : String} {t t' : Table}
  {id key : Int} {attributes row row' : Object} {k : String} {now : Instant}

/-! ## What a write puts into a stored row -/

/-- What a write of attributes to a row leaves under a key: the attribute in the
shape of its column, or what was there. -/
def LeavesUnder (spec : TableSpec) (attributes row : Object) (k : String)
    (row' : Object) :
    Prop :=
  match attributes.get? k with
  | none => row'.get? k = row.get? k
  | some v => ∃ c stored, spec.column? k = some c ∧ c.coerce v = .ok stored ∧
      row'.get? k = some stored

theorem leavesUnder_of_assign (h : assign spec name attributes row = .ok row')
    (hnodup : attributes.keys.Nodup) (k : String) :
    LeavesUnder spec attributes row k row' := by
  unfold LeavesUnder
  split
  · next hk => exact get?_unassigned h hnodup hk
  · next v hk => exact get?_assigned h hnodup hk

/-- Keys that are left alone can be written to without harm. -/
theorem LeavesUnder.insert_of_ne (h : LeavesUnder spec attributes row k row')
    {l : String} (hne : k ≠ l) (v : Value) :
    LeavesUnder spec attributes row k (row'.insert l v) := by
  unfold LeavesUnder at h ⊢
  rwa [Object.get?_insert_of_ne _ hne]

theorem row?_setRow (id : Int) (row : Object) (rows : List (Int × Object)) :
    List.lookup id (Table.setRow id row rows) = some row := by
  induction rows with
  | nil => exact List.lookup_cons_self
  | cons e rows ih =>
      obtain ⟨i, r⟩ := e
      rw [Table.setRow]
      split
      · exact List.lookup_cons_self
      · next hne =>
          split
          · exact List.lookup_cons_self
          · rw [List.lookup_cons, beq_false_of_ne hne]
            exact ih

theorem row?_of_writeRow
    (h : writeRow spec checks name t (some id) attributes now =
      .ok (key, row', t'))
    (hnodup : attributes.keys.Nodup) (hrow : t.row? id = some row) :
    t'.row? id = some row' ∧
      ∀ k, k ≠ "updated_at" → LeavesUnder spec attributes row k row' := by
  obtain ⟨hcomplete, hshape⟩ := writeRow_ok h
  obtain ⟨start, assigned, hstart, hassign, hrow', -⟩ :=
    completeRow_ok hcomplete
  have hstart : row = start := by simpa [startRow, hrow] using hstart
  subst hstart
  obtain ⟨heq, ht'⟩ | ⟨hnone, -⟩ := hshape
  · obtain rfl := Option.some.inj heq
    refine ⟨?_, fun k hk => ?_⟩
    · rw [ht']
      exact row?_setRow id row' t.rows
    · have hleaves := leavesUnder_of_assign hassign hnodup k
      rw [hrow']
      split
      · exact hleaves.insert_of_ne hk _
      · exact hleaves
  · cases hnone

/-! ## Updates -/

namespace Store

variable {s : Store} {name : TableName} {r : Record} {w w' : World Work}
  {answer : Except Error Record}

theorem update_eq_write (hid : r.id = some id) :
    s.transaction.update name r = s.write name (some id) r := by
  simp only [transaction, hid]

theorem row?_of_update (hid : r.id = some id) (hnodup : r.attributes.keys.Nodup)
    (ht : w.state.view name.physical = some t) (hrow : t.row? id = some row)
    (hrun : (s.transaction.update name r).runIn w = (answer, w')) :
    ∃ t' row', w'.state.view name.physical = some t' ∧ t'.row? id = some row' ∧
      ((∃ e, answer = .error e) ∧ row' = row ∨
        (∃ stored, answer = .ok stored) ∧
          ∀ k, k ≠ "updated_at" →
            LeavesUnder s.spec r.attributes row k row') := by
  rw [update_eq_write hid] at hrun
  cases hw : writeRow s.spec s.checks name.physical t (some id) r.attributes
    w.supply.now.1 with
  | error e =>
      rw [write_runIn_error ht hw, Prod.mk.injEq] at hrun
      obtain ⟨rfl, rfl⟩ := hrun
      exact ⟨t, row, Work.view_hold_self, hrow, .inl ⟨⟨e, rfl⟩, rfl⟩⟩
  | ok written =>
      obtain ⟨key, row', t'⟩ := written
      rw [write_runIn_ok ht hw, Prod.mk.injEq] at hrun
      obtain ⟨rfl, rfl⟩ := hrun
      obtain ⟨hrow', hleaves⟩ := row?_of_writeRow hw hnodup hrow
      exact ⟨t', row', Work.view_hold_self, hrow', .inr ⟨⟨_, rfl⟩, hleaves⟩⟩

/-- An update of a record whose snapshot is the row as it stands changes what
the record lists and the time of writing, and nothing else, if every value of
the row is one that its column takes as it is. -/
theorem update_of_current_record (hid : r.id = some id)
    (hnodup : r.attributes.keys.Nodup)
    (ht : w.state.view name.physical = some t) (hrow : t.row? id = some row)
    (hsettled : Settled s.spec row)
    (hcurrent : ∀ k v, (∀ c ∈ r.changes, c.key ≠ k) →
      r.attributes.get? k = some v → row.get? k = some v)
    (hrun : (s.transaction.update name r).runIn w = (answer, w')) :
    ∃ t' row', w'.state.view name.physical = some t' ∧ t'.row? id = some row' ∧
      ∀ k, k ≠ "updated_at" → (∀ c ∈ r.changes, c.key ≠ k) →
        row'.get? k = row.get? k := by
  obtain ⟨t', row', ht', hrow', h⟩ := row?_of_update hid hnodup ht hrow hrun
  refine ⟨t', row', ht', hrow', fun k hstamp hk => ?_⟩
  obtain ⟨-, rfl⟩ | ⟨-, hleaves⟩ := h
  · rfl
  · specialize hleaves k hstamp
    unfold LeavesUnder at hleaves
    split at hleaves
    · exact hleaves
    · next v hv =>
        obtain ⟨c, stored, hc, hstored, hget⟩ := hleaves
        have hthere : row.get? k = some v := hcurrent k v hk hv
        have hsame : stored = v :=
          Except.ok.inj (hstored.symm.trans (hsettled k v c hthere hc))
        rw [hget, hthere, hsame]

/-- An update keeps an attribute that the record does not list as changed
exactly if it fails, or the record lacks the attribute, or the row has the
value of the record's snapshot, in the shape of its column, already. -/
theorem unlisted_attribute_is_kept_iff (hid : r.id = some id)
    (hnodup : r.attributes.keys.Nodup)
    (ht : w.state.view name.physical = some t) (hrow : t.row? id = some row)
    (hrun : (s.transaction.update name r).runIn w = (answer, w')) :
    ∃ t' row', w'.state.view name.physical = some t' ∧ t'.row? id = some row' ∧
      ∀ k, k ≠ "updated_at" → (∀ c ∈ r.changes, c.key ≠ k) →
        (row'.get? k = row.get? k ↔
          (∃ e, answer = .error e) ∨ r.attributes.get? k = none ∨
            ∃ old v c stored,
            r.snapshot.get? k = some old ∧ r.attributes.get? k = some v ∧
              old.same v = true ∧ s.spec.column? k = some c ∧
              c.coerce v = .ok stored ∧ row.get? k = some stored) := by
  obtain ⟨t', row', ht', hrow', h⟩ := row?_of_update hid hnodup ht hrow hrun
  refine ⟨t', row', ht', hrow', fun k hstamp hk => ?_⟩
  obtain ⟨herror, rfl⟩ | ⟨⟨stored, rfl⟩, hleaves⟩ := h
  · exact iff_of_true rfl (.inl herror)
  · specialize hleaves k hstamp
    unfold LeavesUnder at hleaves
    split at hleaves
    · next hnone => exact iff_of_true hleaves (.inr (.inl hnone))
    · next v hv =>
        obtain ⟨old, hold, hsame⟩ := Record.same_of_not_listed hk hv
        obtain ⟨c, stored, hc, hstored, hget⟩ := hleaves
        rw [hget]
        constructor
        · intro hkept
          exact .inr
            (.inr ⟨old, v, c, stored, hold, hv, hsame, hc, hstored, hkept.symm⟩)
        · rintro (⟨e, he⟩ | hnone | ⟨-, v', c', stored', -, hv', -, hc',
            hstored', hkept⟩)
          · cases he
          · rw [hv] at hnone
            cases hnone
          · obtain rfl := Option.some.inj (hv.symm.trans hv')
            obtain rfl := Option.some.inj (hc.symm.trans hc')
            obtain rfl := Except.ok.inj (hstored.symm.trans hstored')
            exact hkept.symm

/-! ## Two callers with one row -/

/-- Orders with a city and a note, both of which may be missing. -/
def addressed : Store :=
  ⟨⟨"uid", [
      { name := idColumn, type := .serial, nullable := false },
      { name := "uid", type := .varchar 50, nullable := false, unique := true },
      { name := "city", type := .text },
      { name := "note", type := .text }], []⟩, []⟩

/-- The order that both callers find, and the order once the
first has moved it. -/
def placed (city : String) : Object :=
  [("uid", .str "a"), ("city", .str city), ("note", .null)]

/-- The record that the second caller found before, with the note set. -/
def noted : Record :=
  (Record.ofStored 1 (placed "Bonn")).set "note" (.str "fragile")

/-- The second caller lists the note only, and the update takes the order back
to the city it was moved from. -/
theorem note_moves_order_back :
    ∃ answer w' t' row', (addressed.transaction.update ordersOfAcme noted).runIn
        ⟨⟨[("acme$orders", ⟨2, [(1, placed "Berlin")]⟩)], []⟩, stillSupply⟩ =
          (answer, w') ∧
      w'.state.view ordersOfAcme.physical = some t' ∧ t'.row? 1 = some row' ∧
      row'.get? "uid" = (placed "Berlin").get? "uid" ∧
      row'.get? "city" ≠ (placed "Berlin").get? "city" := by
  rcases hrun : (addressed.transaction.update ordersOfAcme noted).runIn
    ⟨⟨[("acme$orders", ⟨2, [(1, placed "Berlin")]⟩)], []⟩, stillSupply⟩
      with ⟨answer, w'⟩
  have hok : ∀ e, answer ≠ .error e := by
    have h : ((addressed.transaction.update ordersOfAcme noted).runIn
        ⟨⟨[("acme$orders", ⟨2, [(1, placed "Berlin")]⟩)], []⟩,
          stillSupply⟩).1.toOption.isSome = true := by decide +kernel
    rintro e rfl
    rw [hrun] at h
    cases h
  have hmoved : List.lookup 1 [((1 : Int), placed "Berlin")] =
      some (placed "Berlin") := rfl
  obtain ⟨t', row', ht', hrow', hiff⟩ := unlisted_attribute_is_kept_iff
    (t := ⟨2, [(1, placed "Berlin")]⟩) rfl (by decide) rfl hmoved hrun
  have hchanges : noted.changes.map (·.key) = ["note"] := by decide +kernel
  have hlisted : ∀ k, k ≠ "note" → ∀ c ∈ noted.changes, c.key ≠ k := by
    intro k hk c hc heq
    have hmem : c.key ∈ noted.changes.map (·.key) := List.mem_map_of_mem hc
    rw [hchanges, List.mem_singleton] at hmem
    exact hk (heq.symm.trans hmem)
  refine ⟨answer, w', t', row', rfl, ht', hrow', ?_, ?_⟩
  · refine (hiff "uid" (by decide) (hlisted "uid" (by decide))).2
      (.inr (.inr ?_))
    exact ⟨.str "a", .str "a", _, .str "a", rfl, rfl, by decide +kernel, rfl,
      rfl, rfl⟩
  · rw [Ne, hiff "city" (by decide) (hlisted "city" (by decide))]
    rintro (⟨e, he⟩ | hnone | ⟨old, v, c, stored, -, hv, -, hc, hstored,
      hthere⟩)
    · exact hok e he
    · cases hnone
    · obtain rfl : Value.str "Bonn" = v := Option.some.inj hv
      obtain rfl : ({ name := "city", type := .text } : Column) = c :=
        Option.some.inj hc
      obtain rfl : Value.str "Bonn" = stored := Except.ok.inj hstored
      have hcity : (placed "Berlin").get? "city" = some (.str "Berlin") := rfl
      simp [hcity] at hthere

/-- Both callers find the order and then update it, the first with another city
and the second with a note. Answers which attributes the second lists as
changed, and the city before and after the second update. -/
def movedThenNoted :
    Action Work (List String × Option String × Option String) := do
  let order := Record.new [("uid", .str "a"), ("city", .str "Bonn")]
  let _ ← addressed.transaction.insert ordersOfAcme order
  let first ← addressed.transaction.find ordersOfAcme "uid" "a"
  let second ← addressed.transaction.find ordersOfAcme "uid" "a"
  let _ ← first.mapM fun r =>
    addressed.transaction.update ordersOfAcme (r.set "city" (.str "Berlin"))
  let before ← addressed.transaction.find ordersOfAcme "uid" "a"
  let noted := second.map (·.set "note" (.str "fragile"))
  let _ ← noted.mapM (addressed.transaction.update ordersOfAcme)
  let after ← addressed.transaction.find ordersOfAcme "uid" "a"
  let cityOf (r : Option Record) := r.bind fun r => textAt r.attributes "city"
  pure ((noted.toList.flatMap Record.changes).map (·.key), cityOf before,
    cityOf after)

theorem unlisted_city_is_not_kept :
    (movedThenNoted.runIn ⟨⟨[("acme$orders", .empty)], []⟩,
      stillSupply⟩).1.toOption =
        some (["note"], some "Berlin", some "Bonn") := by
  decide +kernel

end Store

end Memory

end TenantTables
