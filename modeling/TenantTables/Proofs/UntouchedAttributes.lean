import TenantTables.Proofs.ReimportContent

/-!
# What a write leaves alone

An upsert and a row of an import write what their keys name, and a key with dots
names what is in front of its first dot. Of the rest of the row nothing changes.
This is less plain than it looks, since an update writes every attribute of its
row again, in the shape of its column, the attributes it was not given among
them. They stay what they were because all that the store has ever written has
that shape already: `Steady` holds of every row of every state.

The one value in a row that no caller gave and no column has shaped is the time
that it was created at. It is the text of an instant of the clock, and has the
shape of its column if the instant is a proper one.
-/

namespace TenantTables

open Json (Value Object)
open Memory (Store Table Tables Work Check WellFormed Revises Creates
  Steady textAt)
open Time (Instant)

/-! ## What keys name -/

/-- Some key is the name, or leads through it to something below. -/
def Path.Names (keys : List String) (name : String) : Prop :=
  ∃ key ∈ keys, (Text.split '.' key).head? = some name

instance (keys : List String) (name : String) :
    Decidable (Path.Names keys name) :=
  inferInstanceAs (Decidable (∃ key ∈ keys, _ = _))

theorem Path.names_of_mem_undot {o : Object} {k : String}
    (h : k ∈ (undot o).keys) :
    Names o.keys k := by
  induction o using List.reverseRecOn with
  | nil => cases h
  | append_singleton o f ih =>
      obtain ⟨key, v⟩ := f
      obtain ⟨step, steps, hsplit⟩ :=
        List.exists_cons_of_ne_nil (Text.split_ne_nil '.' key)
      obtain ⟨u, hu⟩ := setAt_eq_insert (undot o) step steps v
      rw [undot_concat, set, hsplit, hu, Object.mem_keys_insert] at h
      rw [Names, Object.keys, List.map_append]
      rcases h with h | rfl
      · obtain ⟨named, hmem, hhead⟩ := ih h
        exact ⟨named, List.mem_append_left _ hmem, hhead⟩
      · exact ⟨key, by simp, by rw [hsplit, List.head?_cons]⟩

/-! ## Rows and tables -/

namespace Memory

/-- A row has what it had, but for what is named and the time of its update. -/
structure Untouched (named : String → Prop) (start row : Object) : Prop where
  created : row.get? "created_at" = start.get? "created_at"
  unnamed : ∀ k, ¬ named k → k ≠ "updated_at" → row.get? k = start.get? k

/-- A table in which a row is written again under its key. -/
structure Rewrites (named : String → Prop) (t : Table) (key : Int)
    (start row : Object) (t' : Table) : Prop where
  stands : (key, start) ∈ t.rows
  rows : ∀ e, e ∈ t'.rows ↔ e = (key, row) ∨ e ∈ t.rows ∧ e.1 ≠ key
  nextId : t'.nextId = t.nextId
  untouched : Untouched named start row

/-- A table that a row is added to, under the next key. -/
structure Adds (t : Table) (row : Object) (t' : Table) : Prop where
  rows : ∀ e, e ∈ t'.rows ↔ e = (t.nextId, row) ∨ e ∈ t.rows
  unused : ∀ e ∈ t.rows, e.1 < t.nextId
  nextId : t'.nextId = t.nextId + 1

/-- A table in which something is stored under an identifier: the row that has
it is written again, or a row is added where none has it. -/
inductive Puts (id : Option String) (named : String → Prop)
    (t t' : Table) : Prop where
  | updated {i : String} {key : Int} {start row : Object} (hid : id = some i)
      (huid : textAt start "uid" = some i)
      (h : Rewrites named t key start row t')
  | inserted {row : Object}
      (hnew : ∀ i, id = some i → ∀ e ∈ t.rows, textAt e.2 "uid" ≠ some i)
      (h : Adds t row t')

/-- A table that has all rows of another, none of them touched but for what is
named, and other rows under later keys. -/
structure Extends (named : String → Prop) (t t' : Table) : Prop where
  nextId_le : t.nextId ≤ t'.nextId
  kept : ∀ e ∈ t.rows, ∃ row, (e.1, row) ∈ t'.rows ∧ Untouched named e.2 row
  later : ∀ e ∈ t'.rows, (∃ start, (e.1, start) ∈ t.rows) ∨ t.nextId ≤ e.1

variable {checks : List Check} {name : String} {given start row : Object}
  {u : Supply} {now : Instant} {named : String → Prop} {t t' t'' : Table}
  {key : Int} {id : Option String} {k : String}

theorem Untouched.refl (named : String → Prop) (row : Object) :
    Untouched named row row :=
  ⟨rfl, fun _ _ _ => rfl⟩

theorem Untouched.trans {row' : Object} (h : Untouched named start row)
    (h' : Untouched named row row') : Untouched named start row' where
  created := h'.created.trans h.created
  unnamed k hk hne := (h'.unnamed k hk hne).trans (h.unnamed k hk hne)

theorem Untouched.mono {other : String → Prop} (h : Untouched named start row)
    (hle : ∀ k, named k → other k) : Untouched other start row where
  created := h.created
  unnamed k hk := h.unnamed k (mt (hle k) hk)

namespace Extends

theorem refl (named : String → Prop) (t : Table) : Extends named t t where
  nextId_le := Int.le_refl _
  kept e he := ⟨e.2, he, .refl named e.2⟩
  later e he := .inl ⟨e.2, he⟩

theorem trans (h : Extends named t t') (h' : Extends named t' t'') :
    Extends named t t'' where
  nextId_le := Int.le_trans h.nextId_le h'.nextId_le
  kept e he := by
    obtain ⟨row, hmem, huntouched⟩ := h.kept e he
    obtain ⟨row', hmem', huntouched'⟩ := h'.kept _ hmem
    exact ⟨row', hmem', huntouched.trans huntouched'⟩
  later e he := by
    obtain ⟨start, hmem⟩ | hle := h'.later e he
    · have hearlier := h.later _ hmem
      exact hearlier
    · exact .inr (Int.le_trans h.nextId_le hle)

theorem mono {other : String → Prop} (h : Extends named t t')
    (hle : ∀ k, named k → other k) :
    Extends other t t' where
  nextId_le := h.nextId_le
  kept e he := by
    obtain ⟨row, hmem, huntouched⟩ := h.kept e he
    exact ⟨row, hmem, huntouched.mono hle⟩
  later := h.later

end Extends

/-- Whatever is stored, the rows of the table are all still there. -/
theorem Puts.extends (hwf : WellFormed .default checks t)
    (h : Puts id named t t') :
    Extends named t t' := by
  cases h with
  | @updated i key start row hid huid h =>
      refine ⟨Int.le_of_eq h.nextId.symm, fun e he => ?_, fun e he => ?_⟩
      · by_cases hkey : e.1 = key
        · obtain rfl : e = (key, start) :=
            hwf.ascending.eq_of_key he h.stands hkey
          exact ⟨row, (h.rows _).2 (.inl rfl), h.untouched⟩
        · exact ⟨e.2, (h.rows _).2 (.inr ⟨he, hkey⟩), .refl named e.2⟩
      · rcases (h.rows e).1 he with rfl | ⟨he, -⟩
        · exact .inl ⟨start, h.stands⟩
        · exact .inl ⟨e.2, he⟩
  | inserted hnew h =>
      refine ⟨?_, fun e he => ⟨e.2, (h.rows _).2 (.inr he), .refl named e.2⟩,
        fun e he => ?_⟩
      · rw [h.nextId]
        exact Int.le_add_one (Int.le_refl _)
      · rcases (h.rows e).1 he with rfl | he
        · exact .inr (Int.le_refl _)
        · exact .inl ⟨e.2, he⟩

/-! ## Attributes that are not given

An update is laid over the row it revises, and all of the row is coerced again.
An attribute that is not given has no new value to lay over it, and what a
steady row has there is a value that coercion leaves as it is. -/

theorem get?_prepared_of_not_mem (h : k ∉ given.keys) :
    Object.get?
      (TableSpec.default.prepareUpdate (TableSpec.default.fillable given)) k =
      none := by
  have hnone : Object.get? (TableSpec.default.fillable given) k = none := by
    rw [TableSpec.get?_fillable, Object.get?_eq_none_iff.2 h, ite_self]
  rw [TableSpec.get?_prepareUpdate, hnone]
  exact ite_self _

theorem get?_prepared_of_managed (h : k ∈ managedColumns) :
    Object.get?
      (TableSpec.default.prepareUpdate (TableSpec.default.fillable given)) k =
      none := by
  rw [Object.get?_eq_none_iff, TableSpec.keys_prepareUpdate]
  exact fun hmem => (TableSpec.of_mem_keys_fillable hmem).2 h

theorem Revises.rewrites (h : Revises checks name given now t key start row t')
    (hwf : WellFormed .default checks t) (hsteady : Steady start) :
    Rewrites (· ∈ given.keys) t key start row t' := by
  have hkept : ∀ k, k ≠ "updated_at" →
      Object.get?
          (TableSpec.default.prepareUpdate (TableSpec.default.fillable given))
          k = none →
        row.get? k = start.get? k := by
    intro k hk hnone
    refine h.get?_of_takes hwf hsteady hk fun v hv => ?_
    rw [hnone] at hv
    cases hv
  obtain ⟨-, ⟨-, hwritten⟩ | ⟨hnone, -⟩⟩ := writeRow_ok h.write
  · refine ⟨h.stands, fun e => h.mem_rows_iff hwf, by rw [hwritten], ?_,
      fun k hgiven hk => ?_⟩
    · exact hkept _ (by decide) (get?_prepared_of_managed (by decide))
    · exact hkept k hk (get?_prepared_of_not_mem hgiven)
  · cases hnone

theorem Creates.adds (h : Creates checks name given u now t row t')
    (hwf : WellFormed .default checks t) : Adds t row t' := by
  obtain ⟨-, ⟨hsome, -⟩ | ⟨-, -, hwritten⟩⟩ := writeRow_ok h.write
  · cases hsome
  · exact ⟨fun e => h.mem_rows_iff hwf, fun e he =>
      (hwf.keys_between e he).2, by rw [hwritten]⟩

theorem Rewrites.mono {other : String → Prop}
    (h : Rewrites named t key start row t') (hle : ∀ k, named k → other k) :
    Rewrites other t key start row t' :=
  ⟨h.stands, h.rows, h.nextId, h.untouched.mono hle⟩

theorem rewrites_self (hwf : WellFormed .default checks t)
    (h : (key, start) ∈ t.rows) :
    Rewrites named t key start start t := by
  refine ⟨h, fun e => ⟨fun he => ?_, ?_⟩, rfl, .refl named start⟩
  · by_cases hkey : e.1 = key
    · exact .inl (hwf.ascending.eq_of_key he h hkey)
    · exact .inr ⟨he, hkey⟩
  · rintro (rfl | ⟨he, -⟩)
    · exact h
    · exact he

end Memory

open Memory (Untouched Rewrites Adds Puts Extends)

/-! ## Rows of an import -/

namespace Import

variable {checks : List Check} {p : Plan Work} {row : Row} {rows : List Row}
  {t t' : Table} {u u' : Supply} {entry : Entry} {entries : List Entry}

/-- The attributes that a row names: those of its headers, and
that of its import. -/
def Row.Named (row : Row) (k : String) : Prop :=
  Path.Names row.values.keys k ∨ k = importIdColumn

theorem Row.named_of_mem_attributes {k : String}
    (h : k ∈ row.attributes.keys) : row.Named k := by
  rcases Object.mem_keys_insert.1 h with h | h
  · exact .inl (Path.names_of_mem_undot h)
  · exact .inr h

/-- A row is left out, or its attributes are stored under its identifier. -/
theorem Enters.puts_or_skips (h : Enters checks p row t u entry t')
    (hwf : WellFormed .default checks t) (hsteady : ∀ e ∈ t.rows, Steady e.2) :
    entry.skipped?.isSome = true ∧ t' = t ∨
      entry.skipped? = none ∧ Puts (row.id? "uid") row.Named t t' := by
  cases h with
  | skipped _ => exact .inl ⟨rfl, rfl⟩
  | updated hid hstart h =>
      have hrewrites := h.rewrites hwf (hsteady _ h.stands)
      exact .inr ⟨rfl, .updated hid hstart (hrewrites.mono fun k =>
        Row.named_of_mem_attributes)⟩
  | inserted hnew h => exact .inr ⟨rfl, .inserted hnew (h.adds hwf)⟩

end Import

namespace Service

open Import (Row Applies AppliesAll Enters validateCsv importIdColumn)

variable {κ : Type} {svc : Service Tables Work κ} {checks : List Check}
  {ctx : RequestContext} {table : String} {name : TableName}
  {w w' : World (ServiceState Tables κ)} {inputs : Object} {id : Option String}
  {r : Record} {state : ServiceState Tables κ} {t t' : Table} {u u' : Supply}

/-! ## Steady states -/

theorem lasting_steady (checks : List Check) :
    Lasting checks (fun t => ∀ e ∈ t.rows, Steady e.2) Instant.Proper where
  empty e he := by cases he
  sublist h hs e he := h e (hs.subset he)
  revises hwf h hQ e he := by
    rcases (h.mem_rows_iff hwf).1 he with rfl | ⟨he, -⟩
    · exact h.steady hwf
    · exact hQ e he
  creates hwf h hnow hQ e he := by
    rcases (h.mem_rows_iff hwf).1 he with rfl | he
    · exact h.steady hnow
    · exact hQ e he

theorem ReachedUnder.steady (h : svc.ReachedUnder Instant.Proper state)
    (hs : svc.repository = (⟨.default, checks⟩ : Store).repository)
    (n : String) :
    ∀ e ∈ ((List.lookup n state.store).getD .empty).rows, Steady e.2 := by
  cases ht : List.lookup n state.store with
  | none => exact (lasting_steady checks).empty
  | some t => exact (lasting_steady checks).reachedUnder hs h n t ht

/-! ## Requests -/

theorem Upserts.puts {n : String} (h : Upserts checks n id inputs t u r t')
    (hwf : WellFormed .default checks t) (hsteady : ∀ e ∈ t.rows, Steady e.2) :
    Puts id (Path.Names inputs.keys) t t' := by
  cases h with
  | unchanged hid he huid _ =>
      exact .updated hid huid (Memory.rewrites_self hwf he)
  | updated hid huid h =>
      have hrewrites := h.rewrites hwf (hsteady _ h.stands)
      exact .updated hid huid (hrewrites.mono fun k => Path.names_of_mem_undot)
  | inserted hnew h => exact .inserted hnew (h.adds hwf)

/-- Each row of an import meets the table as the rows before it left it. -/
theorem puts_of_appliesAll {p : Import.Plan Work} {before behind : List Row}
    {row : Row} {entries : List Import.Entry} (hspec : p.spec = .default)
    (h : AppliesAll ⟨.default, checks⟩ p (before ++ row :: behind) t u
      entries t' u')
    (hwf : WellFormed .default checks t) (hclock : ∀ n, (u.instants n).Proper)
    (hsteady : ∀ e ∈ t.rows, Steady e.2) :
    ∃ left entry right t₁ u₁ t₂ u₂,
      AppliesAll ⟨.default, checks⟩ p before t u left t₁ u₁ ∧
      Applies ⟨.default, checks⟩ p row t₁ u₁ entry t₂ u₂ ∧
      AppliesAll ⟨.default, checks⟩ p behind t₂ u₂ right t' u' ∧
      entries = left ++ entry :: right ∧
      (entry.skipped?.isSome = true ∧ t₂ = t₁ ∨
        entry.skipped? = none ∧ Puts (row.id? "uid") row.Named t₁ t₂) := by
  obtain ⟨left, entry, right, t₁, u₁, t₂, u₂, hleft, hrow, hright, hentries⟩ :=
    h.split
  have hwf₁ := hleft.wellFormed hspec hwf
  have hsteady₁ :=
    (lasting_steady checks).appliesAll hspec hwf hclock hleft hsteady
  exact ⟨left, entry, right, t₁, u₁, t₂, u₂, hleft, hrow, hright, hentries,
    (hrow.enters hspec hwf₁).puts_or_skips hwf₁ hsteady₁⟩

/-- All rows of an import together touch nothing that none of them names. -/
theorem extends_of_appliesAll {p : Import.Plan Work} {rows : List Row}
    {entries : List Import.Entry} (hspec : p.spec = .default)
    (h : AppliesAll ⟨.default, checks⟩ p rows t u entries t' u')
    (hwf : WellFormed .default checks t) (hclock : ∀ n, (u.instants n).Proper)
    (hsteady : ∀ e ∈ t.rows, Steady e.2) :
    Extends (fun k => ∃ row ∈ rows, row.Named k) t t' := by
  -- Each row meets a table whose rows are steady, since the rows
  -- before it kept them so.
  induction h with
  | nil => exact .refl _ _
  | @cons row rows t t' _ _ _ _ _ _ h _ ih =>
      have henters := h.enters hspec hwf
      have hfirst : Extends row.Named t t' := by
        rcases henters.puts_or_skips hwf hsteady with ⟨-, rfl⟩ | ⟨-, hputs⟩
        · exact .refl _ _
        · exact hputs.extends hwf
      have hrest := ih (henters.wellFormed hwf) (h.instants ▸ hclock)
        ((lasting_steady checks).enters hwf hclock henters hsteady)
      refine (hfirst.mono fun k hk => ?_).trans (hrest.mono fun k hk => ?_)
      · exact ⟨row, List.mem_cons_self, hk⟩
      · obtain ⟨later, hmem, hnamed⟩ := hk
        exact ⟨later, List.mem_cons_of_mem _ hmem, hnamed⟩

theorem reachedUnder_oneOrder :
    ofRecords.ReachedUnder Instant.Proper oneOrder := by
  have hstill : (⟨0, 0⟩ : Instant).Proper := ⟨by decide, by decide⟩
  exact .served (.start []) (.of "POST" "/") "orders"
    (.create [("uid", .str "a")] .empty) fun _ => hstill

theorem rows_oneOrder : ∃ start : Object, textAt start "uid" = some "a" ∧
    (opened ⟨oneOrder, Store.stillSupply⟩ Store.ordersOfAcme).rows =
      [(1, start)] := by
  have hids : (opened ⟨oneOrder, Store.stillSupply⟩ Store.ordersOfAcme).rows.map
      (fun e => (e.1, textAt e.2 "uid")) = [(1, some "a")] := by decide +kernel
  obtain ⟨⟨key, start⟩, hrows, hid⟩ := List.map_eq_singleton_iff.1 hids
  obtain ⟨rfl, huid⟩ := Prod.mk.inj hid
  exact ⟨start, huid, hrows⟩

/-- Over the general layout with any checks and any hook, in every state that
requests lead to while the clock shows proper instants: an upsert that succeeds,
and a row of an import that succeeds, writes the row that has its identifier
again, under its key, with its time of creation and with all attributes that no
key of the inputs names (the time of its update apart, and for an import
the import), or adds a row under the next key. All other rows stay as they are. -/
theorem only_named_attributes_change
    (hs : svc.repository = (⟨.default, checks⟩ : Store).repository)
    (hname : svc.tableName ctx table = .ok name)
    (h : svc.ReachedUnder Instant.Proper w.state)
    (hclock : ∀ n, (w.supply.instants n).Proper) :
    (∀ id inputs rules r w', (svc.upsert ctx table id inputs rules).runIn w =
      (.ok r, w') →
      Puts id (Path.Names inputs.keys) (opened w name) (opened w' name)) ∧
    (∀ bytes rules outcome w', (svc.importCsv ctx table bytes rules).runIn w =
      (.ok outcome, w') → ∃ rows entries u',
        validateCsv ⟨rules, svc.config.importLimit⟩ w.supply.fresh.1 bytes =
          .ok rows ∧
        AppliesAll ⟨.default, checks⟩ (svc.importPlan name) rows (opened w name)
          w.supply.fresh.2 entries (opened w' name) u' ∧
        (∀ before row behind, rows = before ++ row :: behind →
          ∃ left entry right t₁ u₁ t₂ u₂,
            AppliesAll ⟨.default, checks⟩ (svc.importPlan name) before
              (opened w name) w.supply.fresh.2 left t₁ u₁ ∧
            Applies ⟨.default, checks⟩ (svc.importPlan name) row t₁ u₁
              entry t₂ u₂ ∧
            AppliesAll ⟨.default, checks⟩ (svc.importPlan name) behind t₂
              u₂ right (opened w' name) u' ∧
            entries = left ++ entry :: right ∧
            (entry.skipped?.isSome = true ∧ t₂ = t₁ ∨ entry.skipped? = none ∧
              Puts (row.id? "uid")
                (fun k => Path.Names row.values.keys k ∨
                  k = "import_id") t₁ t₂)) ∧
        Extends (fun k => ∃ row ∈ rows, Path.Names row.values.keys k ∨
          k = "import_id") (opened w name) (opened w' name)) := by
  have hwf : WellFormed .default checks (opened w name) :=
    h.reached.wellFormed hs name.physical
  have hsteady : ∀ e ∈ (opened w name).rows, Steady e.2 :=
    h.steady hs name.physical
  refine ⟨fun id inputs rules r w' hrun =>
    ?_, fun bytes rules outcome w' hrun => ?_⟩
  · exact (upserts_of_runIn_ok hs hname hwf hrun).puts hwf hsteady
  · obtain ⟨rows, entries, t', u', hread, hall, -, rfl⟩ :=
      of_importCsv_runIn hs hname hrun
    have hspec : (svc.importPlan name).spec = .default := by
      rw [importPlan, hs]
      rfl
    have hclock' : ∀ n, (w.supply.fresh.2.instants n).Proper := hclock
    refine ⟨rows, entries, u', hread, hall, ?_,
      extends_of_appliesAll hspec hall hwf hclock' hsteady⟩
    rintro before row behind rfl
    exact puts_of_appliesAll hspec hall hwf hclock' hsteady

/-- An order keeps its key, the time that it was created at, and its private
values, through an upsert that gives others for the first two, and through
an import of other orders. -/
theorem order_keeps_key_and_creation :
    ∃ r w' start row outcome w'' again,
      (ofRecords.upsert (.of "POST" "/") "orders" (some "a")
        [("id", .int 99), ("created_at", .str "never"), ("data.size", .int 3)]
        .empty).runIn
          ⟨oneOrder, Store.stillSupply⟩ = (.ok r, w') ∧
      (1, start) ∈
        (opened ⟨oneOrder, Store.stillSupply⟩ Store.ordersOfAcme).rows ∧
      (1, row) ∈ (opened w' Store.ordersOfAcme).rows ∧
      row.get? "created_at" = start.get? "created_at" ∧
      row.get? "private" = start.get? "private" ∧
      (ofRecords.importCsv (.of "POST" "/") "orders" twoOrders .empty).runIn
        ⟨oneOrder, Store.stillSupply⟩ = (.ok outcome, w'') ∧
      (1, again) ∈ (opened w'' Store.ordersOfAcme).rows ∧
      again.get? "created_at" = start.get? "created_at" := by
  let before : World (ServiceState Tables (List Audit.Event)) :=
    ⟨oneOrder, Store.stillSupply⟩
  let inputs : Object :=
    [("id", .int 99), ("created_at", .str "never"), ("data.size", .int 3)]
  obtain ⟨start, huid, hrows⟩ := rows_oneOrder
  have hstart : (1, start) ∈ (opened before Store.ordersOfAcme).rows :=
    hrows ▸ List.mem_singleton_self _
  obtain ⟨hupserts, himports⟩ := only_named_attributes_change
    (show ofRecords.repository = (⟨.default, []⟩ : Store).repository from rfl)
    ofRecords_tableName (w := before) reachedUnder_oneOrder
    fun _ => (⟨by decide, by decide⟩ : (⟨0, 0⟩ : Instant).Proper)
  have hanswer :
      ((ofRecords.upsert (.of "POST" "/") "orders" (some "a")
        inputs .empty).runIn
      before).1.toOption.isSome = true := by decide +kernel
  obtain ⟨r, hr⟩ := Option.isSome_iff_exists.1 hanswer
  have hupsert := Action.runIn_of_toOption hr
  have himported :
      (ordersFrom before (twoRows before.supply.fresh.1)).1.toOption =
        some ⟨["7", "12"], [], [], 2⟩ := by decide +kernel
  have himport := importCsv_of_ordersFrom (read_twoOrders _) himported
  obtain ⟨_, _, _, _, _, _, hextends⟩ := himports _ _ _ _ himport
  obtain ⟨again, hagain, huntouched⟩ := hextends.kept _ hstart
  cases hupserts _ _ _ _ _ hupsert with
  | inserted hnew _ => exact absurd huid (hnew "a" rfl _ hstart)
  | @updated i key start' row hi _ h =>
      have hsame : (key, start') = (1, start) := by
        have hmem := h.stands
        rw [hrows] at hmem
        exact List.mem_singleton.1 hmem
      obtain ⟨rfl, rfl⟩ := Prod.mk.inj hsame
      exact ⟨r, _, start', row, _, _, again, hupsert, hstart,
        (h.rows _).2 (.inl rfl), h.untouched.created,
        h.untouched.unnamed "private" (by decide +kernel) (by decide), himport,
        hagain, huntouched.created⟩

end Service

end TenantTables
