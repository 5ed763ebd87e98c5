import TenantTables.Import.Row
import TenantTables.Proofs.ObjectKeys
import TenantTables.Proofs.RuleMessages

/-!
# How far the records of an import are good

An import reads record after record, and it answers with the rows of all of them
or with the first failure. Three things can be wrong with a record: it cannot be
read, its number is past the limit, its row breaks the rules. They are looked
for in this order, and `Offends` says what a record answers with under its
number, whatever the others are.

The step lemmas are about one record in front of others. It offends, and the
run ends with its failure, or it is good, and the run is that of the others
behind one more row. So `validateFrom_eq_ok_iff` and
`validateFrom_eq_error_iff` need no more than an induction on the records, the
number of the first going up by one.
-/

namespace TenantTables

open Json (Value Object)

namespace Import

/-! ## Rows -/

/-- The values of cells under their headers. -/
def valuesOf (cells : List (String × String)) : Object :=
  Object.ofFields (cells.map fun (header, cell) => (header, readCell cell))

/-- Of the cells under one header the last is read. -/
theorem get?_valuesOf (cells : List (String × String)) (header : String) :
    (valuesOf cells).get? header =
      (cells.filter (·.1 == header)).getLast?.map fun cell =>
        readCell cell.2 := by
  have hnone : Object.get? [] header = none := rfl
  rw [valuesOf, Object.ofFields, Object.get?_insertAll_last, hnone,
    Option.or_none, List.filter_map, List.getLast?_map, Option.map_map]
  simp only [Function.comp_def]

/-- The rows of records that are counted from a number. -/
def rowsOf (importId : String) (n : Nat)
    (table : List (List (String × String))) : List Row :=
  (table.zipIdx n).map fun (cells, i) => ⟨i, valuesOf cells, importId⟩

/-! ## One record -/

section

variable {limits : Limits} {importId : String} {n : Nat}
  {record : Except Error (List (String × String))}
  {cells : List (String × String)}
  {records : List (Except Error (List (String × String)))} {e : Error}

/-- The failure of a record under its number. -/
inductive Offends (limits : Limits) (n : Nat) :
    Except Error (List (String × String)) → Error → Prop
  | unreadable (e : Error) : Offends limits n (.error e) e
  | overLimit (cells : List (String × String)) (hlimit : limits.rows < n) :
      Offends limits n (.ok cells) (.importLimit limits.rows n)
  | breaksRules (cells : List (String × String)) (hlimit : n ≤ limits.rows)
      (hrules : ¬ limits.rules.Passes (valuesOf cells)) :
      Offends limits n (.ok cells) (.rowValidation n (.obj (valuesOf cells))
        (limits.rules.validate (valuesOf cells)))

/-- What is left: a record that can be read, within the limit and the rules. -/
structure Good (limits : Limits) (n : Nat)
    (cells : List (String × String)) : Prop where
  limit : n ≤ limits.rows
  rules : limits.rules.Passes (valuesOf cells)

theorem offends_or_good (limits : Limits) (n : Nat)
    (record : Except Error (List (String × String))) :
    (∃ e, Offends limits n record e) ∨ ∃ cells,
      record = .ok cells ∧ Good limits n cells := by
  cases record with
  | error e => exact .inl ⟨e, .unreadable e⟩
  | ok cells =>
      by_cases hlimit : n ≤ limits.rows
      · by_cases hrules : limits.rules.Passes (valuesOf cells)
        · exact .inr ⟨cells, rfl, hlimit, hrules⟩
        · exact .inl ⟨_, .breaksRules cells hlimit hrules⟩
      · exact .inl ⟨_, .overLimit cells (by omega)⟩

theorem Good.not_offends (h : Good limits n cells) :
    ¬ Offends limits n (.ok cells) e := by
  intro hoffends
  cases hoffends with
  | overLimit _ hlimit => exact Nat.not_lt.2 h.limit hlimit
  | breaksRules _ _ hrules => exact hrules h.rules

theorem Offends.unique {other : Error} (h : Offends limits n record e)
    (hother : Offends limits n record other) : e = other := by
  cases h with
  | unreadable e =>
      cases hother
      rfl
  | overLimit cells hlimit =>
      cases hother with
      | overLimit => rfl
      | breaksRules _ hwithin => omega
  | breaksRules cells hwithin =>
      cases hother with
      | overLimit _ hlimit => omega
      | breaksRules => rfl

theorem validateFrom_of_offends (h : Offends limits n record e) :
    validateFrom limits importId n (record :: records) = .error e := by
  cases h with
  | unreadable e => rfl
  | overLimit cells hlimit => rw [validateFrom, if_pos hlimit]
  | breaksRules cells hlimit hrules =>
      have hmessages :
          (!(limits.rules.validate (valuesOf cells)).isEmpty) = true := by
        simpa [FieldRules.validate_eq_nil_iff] using hrules
      rw [validateFrom, if_neg (by omega)]
      exact if_pos hmessages

theorem validateFrom_of_good (h : Good limits n cells) :
    validateFrom limits importId n (.ok cells :: records) =
      (validateFrom limits importId (n + 1) records).map
        (⟨n, valuesOf cells, importId⟩ :: ·) := by
  have hmessages :
      ¬ (!(limits.rules.validate (valuesOf cells)).isEmpty) = true := by
    simpa [FieldRules.validate_eq_nil_iff] using h.rules
  rw [validateFrom, if_neg (by have := h.limit; omega)]
  exact if_neg hmessages

/-! ## All records -/

/-- Records that are counted from a number answer with the first
failure among theirs. -/
def FirstOffence (limits : Limits) (n : Nat)
    (records : List (Except Error (List (String × String))))
    (e : Error) : Prop :=
  ∃ i record, records[i]? = some record ∧ Offends limits (n + i) record e ∧
    ∀ j < i, ∀ other, records[j]? = some other →
      ∀ e', ¬ Offends limits (n + j) other e'

theorem firstOffence_cons_of_offends (h : Offends limits n record e)
    {other : Error} :
    FirstOffence limits n (record :: records) other ↔ e = other := by
  constructor
  · rintro ⟨i, found, hfound, hoffends, hfirst⟩
    cases i with
    | zero =>
        obtain rfl := Option.some.inj hfound
        exact h.unique hoffends
    | succ i => exact absurd h (hfirst 0 i.succ_pos record rfl e)
  · rintro rfl
    exact ⟨0, record, rfl, h, fun j hj => absurd hj j.not_lt_zero⟩

theorem firstOffence_cons_of_good (h : Good limits n cells) :
    FirstOffence limits n (.ok cells :: records) e ↔
      FirstOffence limits (n + 1) records e := by
  -- places behind the good record go down by one, and the number they
  -- count from goes up
  constructor
  · rintro ⟨i, found, hfound, hoffends, hfirst⟩
    cases i with
    | zero =>
        obtain rfl := Option.some.inj hfound
        exact absurd hoffends h.not_offends
    | succ i =>
        refine ⟨i, found, hfound, by rwa [Nat.add_right_comm],
          fun j hj other hother e' => ?_⟩
        rw [Nat.add_right_comm]
        exact hfirst (j + 1) (Nat.succ_lt_succ hj) other hother e'
  · rintro ⟨i, found, hfound, hoffends, hfirst⟩
    refine ⟨i + 1, found, hfound, by rwa [Nat.add_right_comm] at hoffends,
      fun j hj other => ?_⟩
    cases j with
    | zero =>
        intro hother e'
        obtain rfl := Option.some.inj hother
        exact h.not_offends
    | succ j =>
        have hnext := hfirst j (Nat.lt_of_succ_lt_succ hj) other
        rwa [Nat.add_right_comm] at hnext

theorem validateFrom_eq_error_iff :
    validateFrom limits importId n records = .error e ↔
      FirstOffence limits n records e := by
  induction records generalizing n with
  | nil => exact iff_of_false nofun fun ⟨_, _, h, _⟩ => by cases h
  | cons record records ih =>
      obtain ⟨e', h⟩ | ⟨cells, rfl, h⟩ := offends_or_good limits n record
      · rw [validateFrom_of_offends h, firstOffence_cons_of_offends h,
          Except.error.injEq]
      · rw [validateFrom_of_good h, firstOffence_cons_of_good h, ← ih]
        cases validateFrom limits importId (n + 1) records <;> simp [Except.map]

/-- Records that are good under their numbers, from a number on. -/
def AllGood (limits : Limits) (n : Nat)
    (table : List (List (String × String))) : Prop :=
  ∀ i cells, table[i]? = some cells → Good limits (n + i) cells

theorem allGood_cons {table : List (List (String × String))} :
    AllGood limits n (cells :: table) ↔
      Good limits n cells ∧ AllGood limits (n + 1) table := by
  constructor
  · intro h
    refine ⟨h 0 cells rfl, fun i others hothers => ?_⟩
    rw [Nat.add_right_comm]
    exact h (i + 1) others hothers
  · rintro ⟨hfirst, hrest⟩ i others hothers
    cases i with
    | zero =>
        obtain rfl := Option.some.inj hothers
        exact hfirst
    | succ i =>
        have hnext := hrest i others hothers
        rwa [Nat.add_right_comm] at hnext

/-- Of records that are counted from one the limit is a limit to how
many there are. -/
theorem allGood_one_iff {table : List (List (String × String))} :
    AllGood limits 1 table ↔
      table.length ≤ limits.rows ∧ ∀ cells ∈ table,
        limits.rules.Passes (valuesOf cells) := by
  constructor
  · intro h
    constructor
    · rcases Nat.eq_zero_or_pos table.length with hzero | hpos
      · omega
      · -- the number of the last record is how many there are
        have hlast :=
          (h (table.length - 1) _ (List.getElem?_eq_getElem (by omega))).limit
        omega
    · intro cells hcells
      obtain ⟨i, hi⟩ := List.mem_iff_getElem?.1 hcells
      exact (h i cells hi).rules
  · rintro ⟨hlimit, hrules⟩ i cells hcells
    obtain ⟨hi, -⟩ := List.getElem?_eq_some_iff.1 hcells
    exact ⟨by omega, hrules cells (List.mem_of_getElem? hcells)⟩

theorem exists_table (h : ∀ e, .error e ∉ records) :
    ∃ table, records = List.map .ok table := by
  induction records with
  | nil => exact ⟨[], rfl⟩
  | cons record records ih =>
      obtain ⟨table, rfl⟩ := ih fun e he => h e (List.mem_cons_of_mem _ he)
      cases record with
      | error e => exact absurd List.mem_cons_self (h e)
      | ok cells => exact ⟨cells :: table, rfl⟩

theorem validateFrom_eq_ok_iff {rows : List Row} :
    validateFrom limits importId n records = .ok rows ↔
      ∃ table, records = table.map .ok ∧ rows = rowsOf importId n table ∧
        AllGood limits n table := by
  induction records generalizing n rows with
  | nil =>
      constructor
      · intro h
        obtain rfl := Except.ok.inj h
        exact ⟨[], rfl, rfl, nofun⟩
      · rintro ⟨table, hrecords, rfl, -⟩
        obtain rfl := List.map_eq_nil_iff.1 hrecords.symm
        rfl
  | cons record records ih =>
      obtain ⟨e, h⟩ | ⟨cells, rfl, h⟩ := offends_or_good limits n record
      · rw [validateFrom_of_offends h]
        refine iff_of_false nofun ?_
        rintro ⟨_ | ⟨cells, table⟩, hrecords, -, hgood⟩
        · cases hrecords
        · obtain ⟨rfl, -⟩ := List.cons.inj hrecords
          exact (allGood_cons.1 hgood).1.not_offends h
      · rw [validateFrom_of_good h]
        constructor
        · intro hrows
          rcases hrest : validateFrom limits importId (n + 1) records
            with e | rest
          · rw [hrest] at hrows
            cases hrows
          rw [hrest] at hrows
          obtain rfl := Except.ok.inj hrows
          obtain ⟨table, rfl, rfl, hgood⟩ := ih.1 hrest
          exact ⟨cells :: table, rfl, rfl, allGood_cons.2 ⟨h, hgood⟩⟩
        · rintro ⟨_ | ⟨first, table⟩, hrecords, rfl, hgood⟩
          · cases hrecords
          · obtain ⟨hcells, rfl⟩ := List.cons.inj hrecords
            obtain rfl := Except.ok.inj hcells
            rw [ih.2 ⟨table, rfl, rfl, (allGood_cons.1 hgood).2⟩]
            rfl

theorem getElem?_rowsOf {table : List (List (String × String))} {i : Nat}
    (h : table[i]? = some cells) :
    (rowsOf importId n table)[i]? = some ⟨n + i, valuesOf cells, importId⟩ := by
  rw [rowsOf, List.getElem?_map, List.getElem?_zipIdx, h]
  rfl

end

/-- Records become rows if all can be read, are within the limit and pass the
rules, and these are all rows there are. Otherwise the answer is the failure of
the first that fails. -/
theorem rows_or_first_offence (limits : Limits) (importId : String)
    (records : List (Except Error (List (String × String)))) :
    ((∃ rows, validate limits importId records = .ok rows) ↔
      (∀ e, .error e ∉ records) ∧ records.length ≤ limits.rows ∧
        ∀ cells, Except.ok cells ∈ records →
          limits.rules.Passes (valuesOf cells)) ∧
    (∀ rows, validate limits importId records = .ok rows →
      rows.length = records.length ∧
        ∀ (i : Nat) (cells : List (String × String)),
        records[i]? = some (.ok cells) →
          rows[i]? = some ⟨i + 1, valuesOf cells, importId⟩) ∧
    (∀ e, validate limits importId records = .error e ↔
      FirstOffence limits 1 records e) ∧
    ∀ cells header, (valuesOf cells).keys.Nodup ∧ (valuesOf cells).get? header =
      (cells.filter (·.1 == header)).getLast?.map fun cell =>
        readCell cell.2 := by
  refine ⟨⟨?_, ?_⟩, ?_, fun e => validateFrom_eq_error_iff,
    fun cells header =>
      ⟨Object.nodup_keys_ofFields _, get?_valuesOf cells header⟩⟩
  · rintro ⟨rows, hrows⟩
    obtain ⟨table, rfl, -, hgood⟩ := validateFrom_eq_ok_iff.1 hrows
    obtain ⟨hlimit, hrules⟩ := allGood_one_iff.1 hgood
    refine ⟨by simp, by rwa [List.length_map], fun cells hcells =>
      hrules cells ?_⟩
    simpa using hcells
  · rintro ⟨hread, hlimit, hrules⟩
    obtain ⟨table, rfl⟩ := exists_table hread
    rw [List.length_map] at hlimit
    have hgood := allGood_one_iff.2
      ⟨hlimit, fun cells hcells => hrules cells (List.mem_map_of_mem hcells)⟩
    exact ⟨_, validateFrom_eq_ok_iff.2 ⟨table, rfl, rfl, hgood⟩⟩
  · intro rows hrows
    obtain ⟨table, rfl, rfl, -⟩ := validateFrom_eq_ok_iff.1 hrows
    refine ⟨by simp [rowsOf], fun i cells hcells => ?_⟩
    rw [List.getElem?_map] at hcells
    obtain ⟨other, hother, heq⟩ := Option.map_eq_some_iff.1 hcells
    obtain rfl := Except.ok.inj heq
    rw [getElem?_rowsOf hother, Nat.add_comm]

/-- At most two shirts, small or medium unless the size is left out. -/
def twoShirts : Limits := ⟨⟨[("size", [.oneOf ["s", "m"]])]⟩, 2⟩

/-- The blank size is written over. -/
def shirt : List (String × String) := [("size", ""), ("size", " NULL ")]

/-- Behind a blank size there is a shirt too many and what cannot be read. -/
theorem blank_size_is_reported_first :
    validate twoShirts "i-1" [.ok shirt, .ok [("size", "")], .ok shirt,
      .error .csv] =
        .error (.rowValidation 2 (.obj [("size", .str "")])
          [("size", ["The selected size is invalid."])]) ∧
    ∃ rows, validate twoShirts "i-1" [.ok shirt, .ok shirt] = .ok rows ∧
      rows[1]? = some ⟨2, valuesOf shirt, "i-1"⟩ ∧
      (valuesOf shirt).get? "size" = some .null := by
  have hpasses : twoShirts.rules.Passes (valuesOf shirt) := by decide +kernel
  have hbreaks : ¬ twoShirts.rules.Passes (valuesOf [("size", "")]) := by
    decide +kernel
  constructor
  · refine ((rows_or_first_offence twoShirts "i-1" _).2.2.1 _).2 ⟨1, _, rfl,
      .breaksRules _ (Nat.le_refl 2) hbreaks, fun j hj other hother e => ?_⟩
    obtain rfl : j = 0 := by omega
    obtain rfl := Option.some.inj hother
    exact Good.not_offends ⟨Nat.le_succ 1, hpasses⟩
  · obtain ⟨rows, hrows⟩ :=
      (rows_or_first_offence twoShirts "i-1" [.ok shirt, .ok shirt]).1.2
        ⟨by simp, Nat.le_refl 2, by simpa using hpasses⟩
    have hvalues :=
      (rows_or_first_offence twoShirts "i-1" [.ok shirt, .ok shirt]).2
    refine ⟨rows, hrows, (hvalues.1 rows hrows).2 1 shirt rfl, ?_⟩
    rw [(hvalues.2.2 shirt "size").2]
    rfl

end Import

end TenantTables
