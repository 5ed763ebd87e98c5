import TenantTables.Proofs.ImportedIdentifiers

/-!
# What importing a file again changes

The second time, each row of a file finds the record that it made or changed the
first time, and writes the same to it: what it gives had the shape of its
columns before, and what stands in the record is kept in its shape, if it is
taken again at all. So the two imports leave the same record but for the two
columns that tell them apart, with one exception. A new record whose start is
null is given the day of its import, and the second import, which has no such
default, puts the null there.
-/

namespace TenantTables

open Json (Value Object)
open Memory (Store Table Tables Work Check WellFormed HasLayout Revises Creates
  textAt revision creation blankRow)
open Time (Instant)

namespace Memory

variable {checks : List Check} {name : String} {given start row : Object}
  {u : Supply} {now : Instant} {t t' : Table} {key : Int} {k : String}
  {v : Value}

/-! ## Rows that are written again -/

/-- The row has a value in the shape of its column. -/
def Takes (row : Object) (k : String) (v : Value) : Prop :=
  ∃ c w, TableSpec.default.column? k = some c ∧ c.coerce v = .ok w ∧
    row.get? k = some w

/-- What stands in a row for a value keeps its shape. -/
theorem Takes.eq_of_again {u w : Value} {c : Column} (h : Takes row k u)
    (hv : row.get? k = some v) (hc : TableSpec.default.column? k = some c)
    (hw : c.coerce v = .ok w) : w = v := by
  obtain ⟨c', v', hc', hv', hget⟩ := h
  obtain rfl := Option.some.inj (hc.symm.trans hc')
  obtain rfl := Option.some.inj (hv.symm.trans hget)
  exact Column.eq_of_coerce_coerced hv' hw

/-- A row whose values are kept in their shape, if they are
taken again at all. -/
def Steady (row : Object) : Prop :=
  ∀ k v, k ≠ "updated_at" → row.get? k = some v →
    ∀ c w, TableSpec.default.column? k = some c → c.coerce v = .ok w → w = v

namespace Revises

theorem layout (h : Revises checks name given now t key start row t')
    (hwf : WellFormed .default checks t) : HasLayout .default row :=
  ((h.wellFormed hwf).rows_meet _ ((h.mem_rows_iff hwf).2 (.inl rfl))).layout

theorem mem_keys_iff (h : Revises checks name given now t key start row t')
    (hwf : WellFormed .default checks t) : k ∈ row.keys ↔ k ∈ start.keys :=
  ((h.layout hwf).mem_keys k).trans ((h.start_layout hwf).mem_keys k).symm

theorem takes (h : Revises checks name given now t key start row t')
    (hwf : WellFormed .default checks t) (hk : k ≠ "updated_at")
    (hv : Object.get?
      (TableSpec.default.prepareUpdate (TableSpec.default.fillable given)) k =
      some v) : Takes row k v :=
  h.get? hwf hk (by rw [get?_revision h.nodup, hv, Option.some_or])

theorem steady (h : Revises checks name given now t key start row t')
    (hwf : WellFormed .default checks t) : Steady row := by
  intro k v hk hv c w hc hw
  have hstart : k ∈ start.keys :=
    (h.mem_keys_iff hwf).1 (Object.mem_keys_iff.2 ⟨v, hv⟩)
  obtain ⟨old, hold⟩ := Object.mem_keys_iff.1 hstart
  obtain ⟨written, hwritten⟩ : ∃ written,
      (revision start given).get? k = some written := by
    rw [get?_revision h.nodup, hold]
    exact Option.isSome_iff_exists.1
      (by rw [Option.isSome_or, Option.isSome_some, Bool.or_true])
  have htakes : Takes row k written := h.get? hwf hk hwritten
  exact htakes.eq_of_again hv hc hw

/-- A row has what it had if it had all that is given, in the shape
of its columns. -/
theorem get?_of_takes (h : Revises checks name given now t key start row t')
    (hwf : WellFormed .default checks t) (hsteady : Steady start)
    (hk : k ≠ "updated_at")
    (htakes : ∀ v, Object.get? (TableSpec.default.prepareUpdate
      (TableSpec.default.fillable given)) k = some v → Takes start k v) :
    row.get? k = start.get? k := by
  cases hv : Object.get?
      (TableSpec.default.prepareUpdate (TableSpec.default.fillable given)) k
        with
  | some v =>
      obtain ⟨c, w, hc, hw, hget⟩ := htakes v hv
      obtain ⟨c', w', hc', hw', hget'⟩ := h.takes hwf hk hv
      obtain rfl := Option.some.inj (hc.symm.trans hc')
      rw [hget, hget', Except.ok.inj (hw'.symm.trans hw)]
  | none =>
      cases hold : start.get? k with
      | none =>
          have hstart : k ∉ start.keys := Object.get?_eq_none_iff.1 hold
          exact Object.get?_eq_none_iff.2 (mt (h.mem_keys_iff hwf).1 hstart)
      | some v =>
          obtain ⟨c, w, hc, hw, hget⟩ :=
            h.get? hwf hk
              (by rw [get?_revision h.nodup, hv, Option.none_or, hold])
          rw [hget, hsteady k v hk hold c w hc hw]

end Revises

/-! ## New rows -/

theorem Creates.steady (h : Creates checks name given u now t row t')
    (hnow : now.Proper) :
    Steady row := by
  intro k v _ hv c w hc hw
  cases hwritten : (creation given u).get? k with
  | some written =>
      have htakes : Takes row k written := h.get? hwritten
      exact htakes.eq_of_again hv hc hw
  | none =>
      have hblank := (h.get?_of_none hwritten).symm.trans hv
      have hcoerce := (Column.coerce_eq_ok_iff.1 hw).1
      rcases get?_blankRow hblank with rfl | ⟨hmanaged, rfl⟩
      · exact (Except.ok.inj hcoerce).symm
      · obtain ⟨hmem, hname⟩ := TableSpec.mem_of_column? hc
        rcases TableSpec.timestamp_of_managed hmem (hname ▸ hmanaged)
          with heq | htype
        · have hkeys := ((blankRow_hasLayout .default now).mem_keys k).1
            (Object.mem_keys_iff.2 ⟨_, hblank⟩)
          exact absurd (hname ▸ heq) hkeys.1
        · rw [htype] at hcoerce
          exact ColumnType.eq_of_coerce_toText hnow hcoerce

end Memory

namespace Import

open Memory (Steady Takes)

variable {checks : List Check} {p : Plan Work} {row : Row}
  {before behind rows : List Row} {t t' : Table} {u u' : Supply} {entry : Entry}
  {entries : List Entry} {id : String} {stored stored' : Object} {key : Int}
  {k : String} {new : Prop}

/-! ## Rows for the first time -/

/-- What a row has made of a record, a new one or one that was found. -/
structure Brought (row : Row) (new : Prop) (stored : Object) : Prop where
  steady : Steady stored
  takes {k : String} {v : Value} (hk : k ≠ "updated_at")
    (hv : row.written.get? k = some v)
    (hkept : k = "started_at" → new →
      Object.get? row.attributes "started_at" ≠ some .null) :
    Takes stored k v
  /-- A null for the start of a new record has been replaced. -/
  started (hnew : new)
    (hnull : Object.get? row.attributes "started_at" = some .null) :
    ∃ i : Instant, stored.get? "started_at" = some (.str i.toText)

theorem Row.null_of_written_iff :
    row.written.get? "started_at" = some .null ↔
      Object.get? row.attributes "started_at" = some .null := by
  rw [Row.written, TableSpec.get?_prepareUpdate, if_pos (by decide),
    TableSpec.get?_fillable, if_pos (by decide)]
  constructor
  · intro h
    obtain ⟨v, hv, hnull⟩ := Option.map_eq_some_iff.1 h
    rw [hv, TableSpec.eq_null_of_atMidnight hnull]
  · intro h
    rw [h]
    rfl

theorem Row.missesStart_of_null
    (h : Object.get? row.attributes "started_at" = some .null) :
    TableSpec.default.missesStart
      (TableSpec.default.fillable row.attributes) = true := by
  rw [TableSpec.missesStart, TableSpec.get?_fillable, if_pos (by decide), h]
  decide

theorem Enters.brought (h : Enters checks p row t u entry t')
    (hwf : WellFormed .default checks t) (hveto : p.veto = Veto.never)
    (hclock : ∀ n, (u.instants n).Proper) (hcarries : row.Carries id) :
    ∃ key stored, (key, stored) ∈ t'.rows ∧ textAt stored "uid" = some id ∧
      Brought row (entry = .inserted id) stored := by
  have hkeeps : row.Keeps id := Memory.textAt_eq_some_iff.2 hcarries.attribute
  cases h with
  | skipped hskip =>
      rw [hveto] at hskip
      cases hskip
  | @updated id' now key start stored t' hid hstart h =>
      refine ⟨key, stored, (h.mem_rows_iff hwf).2 (.inl rfl), ?_, h.steady hwf,
        fun hk hv _ => h.takes hwf hk hv, nofun⟩
      rw [textAt, h.uid hwf hstart, hkeeps]
      rfl
  | @inserted n stored t' hnew h =>
      have hmisses := hcarries.has_id
      obtain ⟨id', hid', hgiven⟩ := h.uid hwf
      obtain rfl : id = id' :=
        Option.some.inj (hkeeps.symm.trans (hgiven hmisses))
      have hstored := Memory.textAt_eq_some_iff.2 ⟨_, hid', rfl⟩
      have hentry : row.reported stored = id :=
        Row.reported_eq hstored hcarries.not_blank
      refine ⟨t.nextId, stored, (h.mem_rows_iff hwf).2 (.inl rfl), hstored,
        h.steady (hclock n), fun {k v} hk hv hkept => ?_, fun _ hnull => ?_⟩
      · have hid : k ≠ idColumn :=
          fun heq =>
            row.id_not_mem_written (heq ▸ Object.mem_keys_iff.2 ⟨v, hv⟩)
        refine h.get? ((Memory.get?_creation hid _ u).trans ?_)
        rcases hcarries.inserted u hv with hinserted | ⟨rfl, rfl⟩
        · exact hinserted
        · exact absurd (Row.null_of_written_iff.1 hv)
            (hkept rfl (congrArg _ hentry))
      · obtain ⟨i, hi, hstart⟩ := TableSpec.start_of_prepareInsert hmisses
          (Row.missesStart_of_null hnull) (hclock _)
        obtain ⟨c, w, hc, hw, hget⟩ :=
          h.get? ((Memory.get?_creation (by decide) _ u).trans hstart)
        have hcoerce := (Column.coerce_eq_ok_iff.1 hw).1
        rw [TableSpec.type_of_windowEnd (by decide) hc] at hcoerce
        exact ⟨i,
          hget.trans
            (congrArg some (ColumnType.eq_of_coerce_toText hi hcoerce))⟩

/-- An identifier is reported as new for a row that carries it. -/
theorem AppliesAll.of_inserted (hspec : p.spec = .default)
    (hcarries : ∀ row ∈ rows, ∃ id, row.Carries id)
    (h : AppliesAll ⟨.default, checks⟩ p rows t u entries t' u')
    (hwf : WellFormed .default checks t) (hmem : .inserted id ∈ entries) :
    ∃ row ∈ rows, row.id? "uid" = some id := by
  induction h with
  | nil => cases hmem
  | @cons row rows _ _ _ _ _ _ entry entries h hs ih =>
      have henters := h.enters hspec hwf
      obtain ⟨⟨id', hrow⟩, hrest⟩ := List.forall_mem_cons.1 hcarries
      rcases List.mem_cons.1 hmem with rfl | hmem
      · obtain ⟨hreported, -⟩ := henters.stores hwf rfl
          (Memory.textAt_eq_some_iff.2 hrow.attribute) hrow.not_blank
        refine ⟨row, List.mem_cons_self, ?_⟩
        rcases hreported with heq | heq
        · rw [hrow.id, Entry.inserted.inj heq]
        · cases heq
      · obtain ⟨found, hfound, hid⟩ := ih hrest (henters.wellFormed hwf) hmem
        exact ⟨found, List.mem_cons_of_mem _ hfound, hid⟩

theorem Summary.mem_inserted_iff :
    id ∈ (ofEntries entries).inserted ↔ .inserted id ∈ entries := by
  rw [ofEntries, List.mem_filterMap]
  constructor
  · rintro ⟨entry, hentry, hid⟩
    cases entry with
    | inserted id' =>
        obtain rfl := Option.some.inj hid
        exact hentry
    | skipped _ | updated _ => cases hid
  · exact fun h => ⟨_, h, rfl⟩

/-- Behind an import a record stands for each of its rows. -/
theorem AppliesAll.brought (hspec : p.spec = .default)
    (hveto : p.veto = Veto.never) (hclock : ∀ n, (u.instants n).Proper)
    (hcarries : ∀ other ∈ before ++ row :: behind, ∃ id, other.Carries id)
    (h : AppliesAll ⟨.default, checks⟩ p (before ++ row :: behind) t u
      entries t' u')
    (hwf : WellFormed .default checks t) (hrow : row.Carries id)
    (hothers : ∀ other ∈ before ++ behind, other.id? "uid" ≠ some id) :
    ∃ key stored, (key, stored) ∈ t'.rows ∧ textAt stored "uid" = some id ∧
      Brought row (id ∈ (Summary.ofEntries entries).inserted) stored := by
  obtain ⟨hbefore, hbehind⟩ := List.forall_mem_append.1 hothers
  obtain ⟨left, entry, right, t₁, u₁, t₂, u₂, hleft, happlies, hright, rfl⟩ :=
    h.split
  have hwf₁ := hleft.wellFormed hspec hwf
  have henters := happlies.enters hspec hwf₁
  have hwf₂ := henters.wellFormed hwf₁
  obtain ⟨key, stored, hmem, hid, hbrought⟩ := henters.brought hwf₁ hveto
    (by rw [hleft.instants]; exact hclock) hrow
  have hnew : id ∈ (Summary.ofEntries (left ++ entry :: right)).inserted ↔
      entry = .inserted id := by
    rw [Summary.mem_inserted_iff, List.mem_append, List.mem_cons]
    constructor
    · rintro (hinserted | heq | hinserted)
      · obtain ⟨other, hother, heq⟩ := hleft.of_inserted hspec
          (fun other hother => hcarries other (List.mem_append_left _ hother))
          hwf hinserted
        exact absurd heq (hbefore other hother)
      · exact heq.symm
      · obtain ⟨other, hother, heq⟩ := hright.of_inserted hspec
          (fun other hother => hcarries other (by simp [hother])) hwf₂ hinserted
        exact absurd heq (hbehind other hother)
    · exact fun heq => .inr (.inl heq.symm)
  rw [hnew]
  exact ⟨key, stored, hright.mem_rows hspec hwf₂ hbehind hmem hid, hid,
    hbrought⟩

/-! ## Rows for the second time -/

/-- A row whose record stands in the table is stored in it. -/
theorem AppliesAll.revises (hspec : p.spec = .default)
    (hveto : p.veto = Veto.never)
    (h : AppliesAll ⟨.default, checks⟩ p (before ++ row :: behind) t u entries
      t' u')
    (hwf : WellFormed .default checks t) (hrow : row.Carries id)
    (hothers : ∀ other ∈ before ++ behind, other.id? "uid" ≠ some id)
    (hmem : (key, stored) ∈ t.rows) (hid : textAt stored "uid" = some id) :
    ∃ now t₁ t₂ stored', WellFormed .default checks t₁ ∧
      Revises checks p.table.physical row.attributes now t₁ key stored
        stored' t₂ ∧
      (key, stored') ∈ t'.rows ∧ textAt stored' "uid" = some id := by
  obtain ⟨hbefore, hbehind⟩ := List.forall_mem_append.1 hothers
  obtain ⟨left, entry, right, t₁, u₁, t₂, u₂, hleft, happlies, hright, rfl⟩ :=
    h.split
  have hwf₁ := hleft.wellFormed hspec hwf
  have henters := happlies.enters hspec hwf₁
  have hwf₂ := henters.wellFormed hwf₁
  have hstands := hleft.mem_rows hspec hwf hbefore hmem hid
  cases henters with
  | skipped hskip =>
      rw [hveto] at hskip
      cases hskip
  | inserted hnew _ => exact absurd hid (hnew id hrow.id _ hstands)
  | @updated id' now key' start stored' t₂ hid' hstart hrevises =>
      obtain rfl : id' = id := Option.some.inj (hid'.symm.trans hrow.id)
      obtain ⟨rfl, rfl⟩ :=
        Prod.mk.inj (hwf₁.eq_of_uid hrevises.stands hstands hstart hid)
      have hkeeps : row.Keeps id' := Memory.textAt_eq_some_iff.2 hrow.attribute
      have hstored : textAt stored' "uid" = some id' := by
        rw [textAt, hrevises.uid hwf₁ hstart, hkeeps]
        rfl
      have hmem' := (hrevises.mem_rows_iff hwf₁).2 (.inl rfl)
      exact ⟨now, t₁, t₂, stored', hwf₁, hrevises,
        hright.mem_rows hspec hwf₂ hbehind hmem' hstored, hstored⟩

/-- Stored again for another import, a row leaves its record as it is. -/
theorem Brought.again {name importId : String} {now : Instant}
    (hb : Brought row new stored) (hwf : WellFormed .default checks t)
    (h : Revises checks name (row.under importId).attributes now t key stored
      stored' t') :
    (∀ k, k ≠ importIdColumn → k ≠ "updated_at" →
      (k = "started_at" → new →
        Object.get? row.attributes "started_at" ≠ some .null) →
      stored'.get? k = stored.get? k) ∧
    (Object.get? row.attributes "started_at" = some .null →
      stored'.get? "started_at" = some .null) := by
  refine ⟨fun k himport hk hkept => ?_, fun hnull => ?_⟩
  · refine h.get?_of_takes hwf hb.steady hk fun v hv => hb.takes hk ?_ hkept
    have hwritten := row.get?_written_under importId k
    rw [if_neg himport] at hwritten
    exact hwritten.symm.trans hv
  · have hwritten := row.get?_written_under importId "started_at"
    rw [if_neg (by decide), Row.null_of_written_iff.2 hnull] at hwritten
    obtain ⟨c, w, -, hw, hget⟩ := h.takes hwf (by decide) hwritten
    rw [hget, ← Except.ok.inj (Column.coerce_eq_ok_iff.1 hw).1]

end Import

namespace Service

open Import (Row Summary Veto validateCsv)

variable {κ : Type} {svc : Service Tables Work κ} {checks : List Check}
  {ctx : RequestContext} {table : String} {name : TableName}
  {w w' w'' : World (ServiceState Tables κ)} {bytes : List UInt8}
  {rules : FieldRules} {outcome again : ImportOutcome}

/-- A file whose rows carry identifiers, each another, is imported twice in a
row into a table of the general layout, whatever it had. Behind both imports
one record stands for each row. The second changes nothing in it but
the import and the time of its update, unless the first inserted it for a row
whose start is null: then the start was set by the first import, and is null
behind the second. -/
theorem reimport_keeps_content
    (hs : svc.repository = (⟨.default, checks⟩ : Store).repository)
    (hveto : svc.veto = Veto.never) (hname : svc.tableName ctx table = .ok name)
    (hclock : ∀ n, (w.supply.instants n).Proper)
    (hwf : WellFormed .default checks (opened w name)) {rows : List Row}
    (hread : validateCsv ⟨rules, svc.config.importLimit⟩ w.supply.fresh.1
      bytes = .ok rows)
    (hids : ∀ row ∈ rows, row.id? "uid" ≠ none)
    (hdistinct : (rows.map (·.id? "uid")).Nodup)
    (hsole : ∀ row ∈ rows, ∀ header ∈ row.values.keys,
      ¬ "uid.".toList <+: header.toList)
    (h : (svc.importCsv ctx table bytes rules).runIn w = (.ok outcome, w'))
    (hagain : (svc.importCsv ctx table bytes rules).runIn w' =
      (.ok again, w'')) :
    ∀ row ∈ rows, ∀ id, row.id? "uid" = some id → ∃ key stored stored',
      (key, stored) ∈ (opened w' name).rows ∧ textAt stored "uid" = some id ∧
      (key, stored') ∈ (opened w'' name).rows ∧ textAt stored' "uid" = some id ∧
      (∀ k, k ≠ "import_id" → k ≠ "updated_at" →
        (k = "started_at" → id ∈ outcome.summary.inserted →
          Object.get? row.attributes "started_at" ≠ some .null) →
        stored'.get? k = stored.get? k) ∧
      (id ∈ outcome.summary.inserted →
        Object.get? row.attributes "started_at" = some .null →
        (∃ i : Instant, stored.get? "started_at" = some (.str i.toText)) ∧
        stored'.get? "started_at" = some .null) := by
  have hspec : (svc.importPlan name).spec = .default := by
    rw [importPlan, hs]
    rfl
  have hclock' : ∀ n, (w.supply.fresh.2.instants n).Proper := hclock
  obtain ⟨hnodups, hunder⟩ := Import.validateCsv_under hread
  have hcarries : ∀ row ∈ rows, ∃ id, row.Carries id := by
    intro row hrow
    obtain ⟨id, hid⟩ := Option.ne_none_iff_exists'.1 (hids row hrow)
    exact ⟨id, hid, hnodups row hrow, hsole row hrow⟩
  -- Both imports read the same rows, each for itself.
  obtain ⟨read, entries, t', u', hfirst, hall, hsummary, rfl⟩ :=
    of_importCsv_runIn hs hname h
  obtain rfl := Except.ok.inj (hread.symm.trans hfirst)
  obtain ⟨read, entries', t'', u'', hsecond, hall', -, rfl⟩ :=
    of_importCsv_runIn hs hname hagain
  obtain rfl := Except.ok.inj ((hunder _).symm.trans hsecond)
  intro row hrow id hid
  obtain ⟨before, behind, rfl⟩ := List.append_of_mem hrow
  have hrow : row.Carries id := ⟨hid, hnodups row hrow, hsole row hrow⟩
  have hothers : ∀ other ∈ before ++ behind, other.id? "uid" ≠ some id := by
    intro other hother heq
    rw [List.map_append, List.map_cons, List.nodup_middle, ← List.map_append,
      hid] at hdistinct
    exact (List.nodup_cons.1 hdistinct).1 (heq ▸ List.mem_map_of_mem hother)
  obtain ⟨key, stored, hmem, huid, hbrought⟩ :=
    hall.brought hspec hveto hclock' hcarries hwf hrow hothers
  rw [← hsummary] at hbrought
  have hwf' := hall.wellFormed hspec hwf
  rw [List.map_append, List.map_cons] at hall'
  obtain ⟨now, t₁, t₂, stored', hwf₁, hrevises, hmem', huid'⟩ :=
    hall'.revises hspec hveto hwf' (hrow.under _)
      (by rw [← List.map_append]; exact List.forall_mem_map.2 hothers) hmem huid
  obtain ⟨hkeeps, hnull⟩ := hbrought.again hwf₁ hrevises
  exact ⟨key, stored, stored', hmem, huid, hmem', huid', hkeeps,
    fun hnew hstart => ⟨hbrought.started hnew hstart, hnull hstart⟩⟩

/-- The order `7` of two is stored with the same content twice. -/
theorem two_orders_keep_content :
    ∃ outcome w' again w'' key stored stored',
      (ofRecords.importCsv (.of "POST" "/") "orders" twoOrders .empty).runIn
        noOrders =
        (.ok outcome, w') ∧
      (ofRecords.importCsv (.of "POST" "/") "orders"
        twoOrders .empty).runIn w' =
        (.ok again, w'') ∧
      (key, stored) ∈ (opened w' Store.ordersOfAcme).rows ∧
      textAt stored "uid" = some "7" ∧
      (key, stored') ∈ (opened w'' Store.ordersOfAcme).rows ∧
      ∀ k, k ≠ "import_id" → k ≠ "updated_at" →
        stored'.get? k = stored.get? k := by
  let rows := twoRows noOrders.supply.fresh.1
  let summary : Summary := ⟨["7", "12"], [], [], 2⟩
  have hread : validateCsv ⟨.empty, 9999⟩ noOrders.supply.fresh.1 twoOrders =
      .ok rows :=
    read_twoOrders _
  have hfirst : (ordersFrom noOrders rows).1.toOption = some summary := by
    decide +kernel
  have hsecond : (ordersFrom (behindOrders noOrders rows summary)
      (twoRows
        (behindOrders noOrders rows summary).supply.fresh.1)).1.toOption =
        some ⟨[], ["7", "12"], [], 2⟩ := by decide +kernel
  have himport := importCsv_of_ordersFrom hread hfirst
  have hagain := importCsv_of_ordersFrom (read_twoOrders _) hsecond
  have hproper : (⟨0, 0⟩ : Instant).Proper := ⟨by decide, by decide⟩
  have hdots : ∀ row ∈ rows, ∀ header ∈ row.values.keys,
      ¬ "uid.".toList <+: header.toList := by decide +kernel
  obtain ⟨key, stored, stored', hmem, huid, hmem', -, hkeeps, -⟩ :=
    reimport_keeps_content
      (show ofRecords.repository = (⟨.default, []⟩ : Store).repository
        from rfl) rfl
      ofRecords_tableName (fun _ => hproper) WellFormed.empty hread
        (by decide +kernel)
      (by decide +kernel) hdots himport hagain _ List.mem_cons_self "7"
        (by decide +kernel)
  exact ⟨_, _, _, _, key, stored, stored', himport, hagain, hmem, huid, hmem',
    fun k himport hk => hkeeps k himport hk fun _ _ => nofun⟩

/-- An order whose start is null. -/
def undatedOrder : List UInt8 :=
  Text.encodeUtf8 (Csv.write [["uid", "started_at"], ["7", "null"]])

def undatedRow (importId : String) : Row :=
  ⟨1, [("uid", .int 7), ("started_at", .null)], importId⟩

theorem read_undatedOrder (importId : String) :
    validateCsv ⟨.empty, 9999⟩ importId undatedOrder =
      .ok [undatedRow importId] := by
  have hmark : "uid".toList.head? ≠ some '\uFEFF' := by decide
  have htrim : ["uid", "started_at"].map Text.trim = ["uid", "started_at"] := by
    decide
  have hnull : Import.readCell "null" = .null := by rfl
  rw [undatedOrder, validateCsv_pair _ _ _ _ _ hmark htrim,
    readCell_seven, hnull]
  rfl

/-- It is inserted with the day of its import, and has no start when it is
imported again. -/
theorem undated_order_loses_start :
    ∃ rows outcome w' again w'',
      validateCsv ⟨.empty, ofRecords.config.importLimit⟩ noOrders.supply.fresh.1
        undatedOrder =
        .ok rows ∧
      rows.map (·.id? "uid") = [some "7"] ∧
      (∀ row ∈ rows, ∀ header ∈ row.values.keys,
        ¬ "uid.".toList <+: header.toList) ∧
      ofRecords.veto = Veto.never ∧
      (ofRecords.importCsv (.of "POST" "/") "orders" undatedOrder .empty).runIn
        noOrders =
        (.ok outcome, w') ∧
      (ofRecords.importCsv (.of "POST" "/") "orders"
        undatedOrder .empty).runIn w' =
        (.ok again, w'') ∧
      (opened w' Store.ordersOfAcme).rows.map (fun e =>
        (textAt e.2 "uid", textAt e.2 "started_at"))
        = [(some "7", some "1970-01-01T00:00:00+00:00")] ∧
      (opened w'' Store.ordersOfAcme).rows.map
        (fun e => (textAt e.2 "uid", textAt e.2 "started_at")) =
          [(some "7", none)] := by
  let rows := [undatedRow noOrders.supply.fresh.1]
  let w' := behindOrders noOrders rows ⟨["7"], [], [], 1⟩
  have hfirst :
      (ordersFrom noOrders rows).1.toOption = some ⟨["7"], [], [], 1⟩ := by
    decide +kernel
  have hsecond : (ordersFrom w' [undatedRow w'.supply.fresh.1]).1.toOption =
      some ⟨[], ["7"], [], 1⟩ := by decide +kernel
  exact ⟨rows, _, w', _, _,
    read_undatedOrder _, by decide +kernel, by
      decide +kernel, rfl, importCsv_of_ordersFrom (read_undatedOrder _) hfirst,
    importCsv_of_ordersFrom (read_undatedOrder _) hsecond, by decide +kernel, by
      decide +kernel⟩

end Service

end TenantTables
