import TenantTables.Proofs.GeneralRequests

/-!
# Identifiers that an import stores

A row of a file is looked up by the cell under the header of the identifier, and
stored with the attributes that all its cells nest to. These have the identifier
that the row was looked up by unless a header behind extends it by a dot: then
an object stands in its place, and its text is what is stored and reported.

What is stored under the identifier of a row is still there at the end of the
file if no row behind carries the same: each writes to another row, or adds one.
-/

namespace TenantTables

open Json (Value Object)
open Memory (Store Table Tables Work Check WellFormed Revises Creates textAt)

namespace Import

variable {s : Store} {checks : List Check} {p : Plan Work} {row : Row}
  {t t' : Table} {u u' : Supply} {entry : Entry} {id x : String}

/-! ## The identifier among the attributes -/

/-- The attributes of a row have the identifier that it is looked up by. -/
def Row.Keeps (row : Row) (id : String) : Prop :=
  textAt row.attributes "uid" = some id

theorem Value.toText?_obj (fields : Object) :
    ∃ cs, (Value.obj fields).toText? = some (String.ofList ('\x7b' :: cs)) := by
  refine ⟨(",".intercalate (Value.fieldTexts fields) ++ "\x7d").toList,
    congrArg some ?_⟩
  rw [Value.text, ← String.toList_inj]
  simp

namespace Row

theorem keeps_of_last (hnodup : row.values.keys.Nodup)
    (h : row.id? "uid" = some id)
    (hlast : Path.lastMeeting? row.values.keys "uid" = some "uid") :
    row.Keeps id :=
  Memory.textAt_eq_some_iff.2 (attribute_of_last hnodup h hlast)

/-- A row that carries an identifier has one among its attributes: its own, or
the text of an object. -/
theorem exists_text (hnodup : row.values.keys.Nodup)
    (h : row.id? "uid" = some id) :
    ∃ x, textAt row.attributes "uid" = some x ∧ Text.isBlankText x = false ∧
      (Path.lastMeeting? row.values.keys "uid" = some "uid" ∨
        '\x7b' ∈ x.toList.head?) := by
  obtain ⟨v, hv, -⟩ := value_of_id h
  have huid : "uid" ∈ row.values.keys := Object.mem_keys_iff.2 ⟨v, hv⟩
  rcases Path.lastMeeting?_of_mem (by decide) huid
    with hlast | ⟨key, -, hkey, hextends⟩
  · exact ⟨id, keeps_of_last hnodup h hlast, not_blank_of_id h, .inl hlast⟩
  · obtain ⟨fields, hfields⟩ :=
      Path.get?_undot_of_extends (by decide) hkey hextends
    obtain ⟨cs, hcs⟩ := Value.toText?_obj fields
    refine ⟨_, Memory.textAt_eq_some_iff.2 ⟨_, ?_, hcs⟩, ?_, .inr ?_⟩
    · rw [get?_uid_attributes, hfields]
    · have hbrace : Text.isBlank '\x7b' = false := by decide
      simp [Text.isBlankText, hbrace]
    · simp

end Row

/-! ## Rows with an identifier among their attributes -/

theorem Row.reported_eq {stored : Object} (hid : textAt stored "uid" = some x)
    (hblank : Text.isBlankText x = false) : row.reported stored = x := by
  have hne : x ≠ "" := by
    rintro rfl
    cases hblank
  rw [reported, hid, Option.filter_some, if_pos (decide_eq_true hne)]
  rfl

/-- Unless it is vetoed, a row is stored and reported under the identifier among
its attributes. -/
theorem Enters.stores (h : Enters checks p row t u entry t')
    (hwf : WellFormed .default checks t) (hpassed : entry.skipped? = none)
    (hx : textAt row.attributes "uid" = some x)
    (hblank : Text.isBlankText x = false) :
    (entry = .inserted x ∨ entry = .updated x) ∧ ∃ e ∈ t'.rows,
      textAt e.2 "uid" = some x := by
  cases h with
  | skipped _ => cases hpassed
  | @updated id now key start stored t' hid hstart h =>
      have hstored : textAt stored "uid" = some x := by
        rw [textAt, h.uid hwf hstart, hx]
        rfl
      exact ⟨.inr (congrArg _ (Row.reported_eq hstored hblank)), _,
        (h.mem_rows_iff hwf).2 (.inl rfl), hstored⟩
  | @inserted n stored t' _ h =>
      obtain ⟨v, hv, htext⟩ := Memory.textAt_eq_some_iff.1 hx
      have hfilled :
          Object.get? (TableSpec.default.fillable row.attributes) "uid" =
            some v := by
        rw [TableSpec.get?_fillable, if_pos (by decide), hv]
      obtain ⟨x', hx', hgiven⟩ := h.uid hwf
      obtain rfl : x = x' := by
        have hgiven := hgiven (TableSpec.missesId_eq_false hfilled htext hblank)
        exact Option.some.inj (hx.symm.trans hgiven)
      have hstored := Memory.textAt_eq_some_iff.2 ⟨_, hx', rfl⟩
      exact ⟨.inl (congrArg _ (Row.reported_eq hstored hblank)), _,
        (h.mem_rows_iff hwf).2 (.inl rfl), hstored⟩

/-! ## Rows that do not carry an identifier -/

/-- A row writes to no other than the one with its identifier. -/
theorem Enters.mem_rows (h : Enters checks p row t u entry t')
    (hwf : WellFormed .default checks t) (hother : row.id? "uid" ≠ some id)
    {e : Int × Object} (he : e ∈ t.rows)
    (hid : textAt e.2 "uid" = some id) : e ∈ t'.rows := by
  cases h with
  | skipped _ => exact he
  | @updated id' now key start stored t' hid' hstart h =>
      refine (h.mem_rows_iff hwf).2 (.inr ⟨he, fun hkey => hother ?_⟩)
      obtain rfl : e = (key, start) := hwf.ascending.eq_of_key he h.stands hkey
      rw [hid', ← hstart, hid]
  | inserted _ h => exact (h.mem_rows_iff hwf).2 (.inr he)

theorem AppliesAll.wellFormed (hspec : p.spec = .default) {rows : List Row}
    {entries : List Entry}
    (h : AppliesAll ⟨.default, checks⟩ p rows t u entries t' u')
    (hwf : WellFormed .default checks t) : WellFormed .default checks t' := by
  induction h with
  | nil => exact hwf
  | cons h _ ih => exact ih ((h.enters hspec hwf).wellFormed hwf)

theorem AppliesAll.mem_rows (hspec : p.spec = .default) {rows : List Row}
    {entries : List Entry}
    (h : AppliesAll ⟨.default, checks⟩ p rows t u entries t' u')
    (hwf : WellFormed .default checks t)
    (hothers : ∀ row ∈ rows, row.id? "uid" ≠ some id) {e : Int × Object}
    (he : e ∈ t.rows) (hid : textAt e.2 "uid" = some id) : e ∈ t'.rows := by
  induction h with
  | nil => exact he
  | cons h _ ih =>
      obtain ⟨hother, hothers⟩ := List.forall_mem_cons.1 hothers
      have henters := h.enters hspec hwf
      exact ih (henters.wellFormed hwf) hothers
        (henters.mem_rows hwf hother he hid)

/-- The rows before one, the row, and the rows behind it apply
one after another. -/
theorem AppliesAll.split {before behind : List Row} {entries : List Entry}
    (h : AppliesAll s p (before ++ row :: behind) t u entries t' u') :
    ∃ left entry right t₁ u₁ t₂ u₂, AppliesAll s p before t u left t₁ u₁ ∧
      Applies s p row t₁ u₁ entry t₂ u₂ ∧
      AppliesAll s p behind t₂ u₂ right t' u' ∧
      entries = left ++ entry :: right := by
  induction before generalizing t u entries with
  | nil =>
      cases h with
      | cons h hs => exact ⟨[], _, _, _, _, _, _, .nil, h, hs, rfl⟩
  | cons first before ih =>
      cases h with
      | cons h hs =>
          obtain ⟨left, entry, right, t₁, u₁, t₂, u₂, hleft, hrow, hright,
              rfl⟩ := ih hs
          exact ⟨_, entry, right, t₁, u₁, t₂, u₂, .cons h hleft, hrow,
            hright, rfl⟩

end Import

/-! ## Requests to import -/

namespace Service

open Import (Row AppliesAll Summary validateCsv)

variable {κ : Type} {svc : Service Tables Work κ} {checks : List Check}
  {ctx : RequestContext} {table : String} {name : TableName}
  {w w' : World (ServiceState Tables κ)} {bytes : List UInt8}
  {rules : FieldRules} {outcome : ImportOutcome}

/-- An import over the general layout that succeeds, with any checks and any
hook: a row that carries an identifier and is not vetoed is reported under it,
as new or as updated, exactly if the attributes of the row have it. Then a
record with it is in the table, if no row behind carries the same. The
attributes have it if no header behind that of the identifier extends it by a
dot; if one does, they have the text of an object, which can be it only if it
starts with a brace. -/
theorem identifier_is_stored_iff_kept
    (hs : svc.repository = (⟨.default, checks⟩ : Store).repository)
    (hname : svc.tableName ctx table = .ok name)
    (hwf : WellFormed .default checks (opened w name))
    (h : (svc.importCsv ctx table bytes rules).runIn w = (.ok outcome, w')) :
    ∃ rows entries u',
      validateCsv ⟨rules, svc.config.importLimit⟩ w.supply.fresh.1 bytes =
        .ok rows ∧
      AppliesAll ⟨.default, checks⟩ (svc.importPlan name) rows (opened w name)
        w.supply.fresh.2 entries (opened w' name) u' ∧
      outcome.summary = .ofEntries entries ∧
      ∀ before row behind id entry, rows = before ++ row :: behind →
        entries[before.length]? = some entry → row.id? "uid" = some id →
        entry.skipped? = none →
        ((entry = .inserted id ∨ entry = .updated id) ↔ row.Keeps id) ∧
        (row.Keeps id → (∀ later ∈ behind, later.id? "uid" ≠ some id) →
          ∃ e ∈ (opened w' name).rows, textAt e.2 "uid" = some id) ∧
        (Path.lastMeeting? row.values.keys "uid" = some "uid" → row.Keeps id) ∧
        (row.Keeps id → Path.lastMeeting? row.values.keys "uid" = some "uid" ∨
          id.toList.head? = some '\x7b') := by
  obtain ⟨rows, entries, t', u', hread, hall, hsummary, rfl⟩ :=
    of_importCsv_runIn hs hname h
  have hspec : (svc.importPlan name).spec = .default := by
    rw [importPlan, hs]
    rfl
  obtain ⟨hnodups, -⟩ := Import.validateCsv_under hread
  refine ⟨rows, entries, u', hread, hall, hsummary, ?_⟩
  rintro before row behind id entry rfl hentry hid hpassed
  have hnodup := hnodups row (List.mem_append_right _ List.mem_cons_self)
  obtain ⟨x, hx, hblank, hcases⟩ := Row.exists_text hnodup hid
  -- The row meets the table as the rows before it left it.
  obtain ⟨left, entry', right, t₁, u₁, t₂, u₂, hleft, hrow, hright, rfl⟩ :=
    hall.split
  obtain rfl : entry = entry' := by
    rw [← hleft.length_eq, List.getElem?_append_right (Nat.le_refl _),
      Nat.sub_self] at hentry
    exact (Option.some.inj hentry).symm
  have hwf₁ := hleft.wellFormed hspec hwf
  have henters := hrow.enters hspec hwf₁
  obtain ⟨hreported, e, he, hstored⟩ := henters.stores hwf₁ hpassed hx hblank
  have hkeeps : row.Keeps id ↔ x = id := by
    rw [Row.Keeps, hx, Option.some.injEq]
  refine ⟨?_, fun hkept hothers => ?_, Row.keeps_of_last hnodup hid,
    fun hkept => ?_⟩
  · rw [hkeeps]
    rcases hreported with rfl | rfl <;> simp
  · obtain rfl := hkeeps.1 hkept
    exact ⟨e,
      hright.mem_rows hspec (henters.wellFormed hwf₁) hothers he hstored,
      hstored⟩
  · obtain rfl := hkeeps.1 hkept
    exact hcases

/-! ## Files of one row -/

/-- A file with one row of two cells. -/
theorem validateCsv_pair (importId first second a b : String)
    (hmark : first.toList.head? ≠ some '\uFEFF')
    (htrim : [first, second].map Text.trim = [first, second]) :
    validateCsv ⟨.empty, 9999⟩ importId
        (Text.encodeUtf8 (Csv.write [[first, second], [a, b]])) =
      .ok
        [⟨1, .ofFields [(first, Import.readCell a),
          (second, Import.readCell b)], importId⟩] := by
  have hfirst : ∀ c ∈ first.toList.head?, c ≠ '\uFEFF' :=
    fun c hc heq => hmark (heq ▸ hc)
  rw [Import.validateCsv_write importId first [second] hfirst (by simp)
    (by simp), htrim]
  rfl

/-- What an import of orders does in a unit of work of its own, once
its rows are read. -/
def ordersFrom (w : World (ServiceState Tables (List Audit.Event)))
    (rows : List Row) :
    Except Error Summary × World Work :=
  ((ofRecords.importPlan Store.ordersOfAcme).reconcile rows).runIn
    ⟨⟨Tables.ensured w.state.store Store.ordersOfAcme.physical, []⟩,
      w.supply.fresh.2⟩

/-- What it leaves behind its report. -/
def behindOrders (w : World (ServiceState Tables (List Audit.Event)))
    (rows : List Row) (summary : Summary) :
    World (ServiceState Tables (List Audit.Event)) :=
  ((ofRecords.reportImport (.of "POST" "/") Store.ordersOfAcme w.supply.fresh.1
    summary).runIn
    ⟨⟨(ordersFrom w rows).2.state.tables, w.state.sink⟩,
      (ordersFrom w rows).2.supply⟩).2

theorem importCsv_of_ordersFrom
    {w : World (ServiceState Tables (List Audit.Event))} {rows : List Row}
    {summary : Summary}
    (hread : validateCsv ⟨.empty, 9999⟩ w.supply.fresh.1 bytes = .ok rows)
    (h : (ordersFrom w rows).1.toOption = some summary) :
    (ofRecords.importCsv (.of "POST" "/") "orders" bytes .empty).runIn w =
      (.ok ⟨summary, w.supply.fresh.1⟩, behindOrders w rows summary) :=
  importCsv_of_reconcile rfl ofRecords_tableName hread
    (Action.runIn_of_toOption h)

/-- A store that nothing was stored in yet. -/
def noOrders : World (ServiceState Tables (List Audit.Event)) :=
  ⟨⟨[], []⟩, Store.stillSupply⟩

/-- An order under a number, and its size under a heading that leads through
that of the identifier, in front of it or behind it. -/
def sizeInFront : List UInt8 :=
  Text.encodeUtf8 (Csv.write [["uid.size", "uid"], ["3", "7"]])

def sizeBehind : List UInt8 :=
  Text.encodeUtf8 (Csv.write [["uid", "uid.size"], ["7", "3"]])

theorem readCell_seven : Import.readCell "7" = .int 7 :=
  Import.readCell_toString (n := 7) (by decide)

theorem readCell_three : Import.readCell "3" = .int 3 :=
  Import.readCell_toString (n := 3) (by decide)

theorem read_sizeInFront (importId : String) :
    validateCsv ⟨.empty, 9999⟩ importId sizeInFront =
      .ok [⟨1, [("uid.size", .int 3), ("uid", .int 7)], importId⟩] := by
  have hmark : "uid.size".toList.head? ≠ some '\uFEFF' := by decide
  have htrim : ["uid.size", "uid"].map Text.trim = ["uid.size", "uid"] := by
    decide
  rw [sizeInFront, validateCsv_pair _ _ _ _ _ hmark htrim, readCell_seven,
    readCell_three]
  rfl

theorem read_sizeBehind (importId : String) :
    validateCsv ⟨.empty, 9999⟩ importId sizeBehind =
      .ok [⟨1, [("uid", .int 7), ("uid.size", .int 3)], importId⟩] := by
  have hmark : "uid".toList.head? ≠ some '\uFEFF' := by decide
  have htrim : ["uid", "uid.size"].map Text.trim = ["uid", "uid.size"] := by
    decide
  rw [sizeBehind, validateCsv_pair _ _ _ _ _ hmark htrim, readCell_seven,
    readCell_three]
  rfl

/-- With the size in front, the order is stored as `7`. -/
theorem order_behind_size_is_stored :
    ∃ outcome w' entry,
      (ofRecords.importCsv (.of "POST" "/") "orders" sizeInFront .empty).runIn
        noOrders =
        (.ok outcome, w') ∧
      outcome.summary = .ofEntries [entry] ∧
      (entry = .inserted "7" ∨ entry = .updated "7") ∧
      ∃ e ∈ (opened w' Store.ordersOfAcme).rows,
        textAt e.2 "uid" = some "7" := by
  have hread := read_sizeInFront noOrders.supply.fresh.1
  have hsome :
      (ordersFrom noOrders [⟨1, [("uid.size", .int 3), ("uid", .int 7)],
      noOrders.supply.fresh.1⟩]).1.toOption.isSome = true := by decide +kernel
  obtain ⟨summary, hsummary⟩ := Option.isSome_iff_exists.1 hsome
  have himport := importCsv_of_ordersFrom hread hsummary
  have hwf : WellFormed .default [] (opened noOrders Store.ordersOfAcme) :=
    WellFormed.empty
  obtain ⟨rows, entries, u', hrows, hall, hentries, heach⟩ :=
    identifier_is_stored_iff_kept
      (show ofRecords.repository = (⟨.default, []⟩ : Store).repository from rfl)
      ofRecords_tableName hwf himport
  obtain rfl := Except.ok.inj (hread.symm.trans hrows)
  cases hall with
  | @cons _ _ _ t _ _ u _ entry entries h hs =>
      cases hs
      have hpassed : entry.skipped? = none := by
        rw [← Option.not_isSome_iff_eq_none, h.class_iff.1]
        exact Bool.false_ne_true
      obtain ⟨hreported, hstands, hkeeps, -⟩ :=
        heach [] _ [] "7" entry rfl rfl (by decide +kernel) hpassed
      have hkept := hkeeps (by decide)
      exact ⟨_, _, entry, himport, hentries, hreported.2 hkept,
        hstands hkept nofun⟩

/-- With the size behind, it is stored and reported as the document of its size,
and not as `7`. -/
theorem order_in_front_of_size_is_not_stored :
    ∃ outcome w' rows,
      validateCsv ⟨.empty, ofRecords.config.importLimit⟩ noOrders.supply.fresh.1
        sizeBehind =
        .ok rows ∧
      rows.map (·.id? "uid") = [some "7"] ∧ ofRecords.veto = Import.Veto.never ∧
      (ofRecords.importCsv (.of "POST" "/") "orders" sizeBehind .empty).runIn
        noOrders =
        (.ok outcome, w') ∧
      outcome.summary = ⟨["\x7b\"size\":3\x7d"], [], [], 1⟩ ∧
      ∀ e ∈ (opened w' Store.ordersOfAcme).rows,
        textAt e.2 "uid" ≠ some "7" := by
  let rows : List Row :=
    [⟨1, [("uid", .int 7), ("uid.size", .int 3)], noOrders.supply.fresh.1⟩]
  let summary : Summary := ⟨["\x7b\"size\":3\x7d"], [], [], 1⟩
  have hsummary : (ordersFrom noOrders rows).1.toOption = some summary := by
    decide +kernel
  have huids :
      (opened (behindOrders noOrders rows summary) Store.ordersOfAcme).rows.map
      (textAt ·.2 "uid") = [some "\x7b\"size\":3\x7d"] := by decide +kernel
  refine ⟨_, _, rows, read_sizeBehind _, by decide +kernel, rfl,
    importCsv_of_ordersFrom (read_sizeBehind _) hsummary, rfl,
    fun e he hid => ?_⟩
  have hmem := List.mem_map_of_mem (f := (textAt ·.2 "uid")) he
  rw [huids, hid] at hmem
  exact absurd hmem (by decide)

end Service

end TenantTables
