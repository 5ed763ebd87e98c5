import TenantTables.Proofs.Coercion
import TenantTables.Proofs.NestedRules
import TenantTables.Proofs.Rounding
import TenantTables.Proofs.RowWriting
import TenantTables.Proofs.StatementBinding

/-!
# Rules for types

Four rules are about types: what passes one of them is meant for a column of
the type, and the column coerces it when it is stored. Rule and column read
values by themselves. They agree on booleans and timestamps, but not on
numbers. An integer may be beyond the signed 64-bit range and still pass as
one, and a text may pass as a number because it looks like one, though no
finite number is read from it. These `Fits` leaves out, and then what passes is
coerced, and not to null.
-/

namespace TenantTables

open Json (Value Object)

/-- The rule for the values of a type. -/
inductive FieldRule.IsFor : FieldRule → ColumnType → Prop where
  | integer : IsFor .integer .integer
  | numeric (precision scale : Nat) : IsFor .numeric (.decimal precision scale)
  | boolean : IsFor .boolean .boolean
  | date : IsFor .date .timestamp

/-- What a column has to find in a value besides what the rule for its type
has found: an integer is in the signed 64-bit range, and a text is a numeral
of a finite number. -/
def ColumnType.Fits : ColumnType → Value → Prop
  | .integer, .int n => n ≤ Number.maxInt64
  | .decimal .., .str s =>
      ∃ n d, Number.literalNumeral? s = some n ∧ n.toExtended = .finite d
  | _, _ => True

namespace FieldRule

variable {rule : FieldRule} {t : ColumnType} {v : Value} {s : String}

/-- The spellings of booleans that the rule knows. -/
theorem mem_of_accepts_boolean (h : FieldRule.boolean.accepts (.str s) = true) :
    s ∈ ["0", "1", "true", "false"] :=
  List.contains_iff_mem.1 h

/-- A blank text is of no type. -/
theorem IsFor.not_blank (h : rule.IsFor t)
    (haccepts : rule.accepts (.str s) = true) :
    Text.isBlankText s = false := by
  by_contra hblank
  rw [Bool.not_eq_false] at hblank
  have htrim := Text.trimChars_of_blank hblank
  cases h with
  | integer =>
      rw [accepts, Text.trim, htrim] at haccepts
      exact absurd haccepts (by decide)
  | numeric =>
      rw [accepts, Number.isNumeric, htrim] at haccepts
      exact absurd haccepts (by decide)
  | boolean =>
      have hall : ∀ s ∈ ["0", "1", "true", "false"],
          Text.isBlankText s = false := by decide
      rw [hall s (mem_of_accepts_boolean haccepts)] at hblank
      cases hblank
  | date =>
      obtain ⟨i, hread⟩ := Option.isSome_iff_exists.1 haccepts
      rw [Time.not_blank_of_read? hread] at hblank
      cases hblank

/-- A rule for a type says something of all values but null. -/
theorem IsFor.accepts_of_holds (h : rule.IsFor t) (hnull : v.isNull = false)
    (hholds : rule.holds (some v) = true) : rule.accepts v = true := by
  have hfilter : (some v).filter (!·.isNull) = some v := by simp [hnull]
  unfold holds at hholds
  rw [hfilter] at hholds
  cases h <;> exact hholds

/-- What a column makes of a value that its rule accepts. -/
theorem IsFor.coerce (h : rule.IsFor t) (haccepts : rule.accepts v = true) :
    (t.Fits v → ∃ w, t.coerce v = .ok w ∧ w.isNull = false) ∧
      (¬ t.Fits v → ∃ e, t.coerce v = .error e) := by
  cases h with
  | integer =>
      cases v with
      | int n =>
          rw [ColumnType.coerce_of_number rfl rfl, ColumnType.coerceNumber,
            Value.int64?]
          unfold ColumnType.Fits Number.maxInt64
          dsimp only
          constructor
          · intro hfits
            rw [if_pos (by omega)]
            exact ⟨_, rfl, rfl⟩
          · intro hlarge
            rw [if_neg (by omega)]
            exact ⟨_, rfl⟩
      | str s =>
          have hsome : (Number.readInt64? (Text.trim s)).isSome = true :=
            haccepts
          obtain ⟨n, hread⟩ := Option.isSome_iff_exists.1 hsome
          rw [ColumnType.coerce_str (IsFor.integer.not_blank haccepts)]
          unfold ColumnType.coerceText
          dsimp only
          rw [hread]
          exact ⟨fun _ => ⟨_, rfl, rfl⟩, fun hnot => absurd trivial hnot⟩
      | null | bool _ | float _ | arr _ | obj _ => cases haccepts
  | numeric precision scale =>
      cases v with
      | int n =>
          exact ⟨fun _ => ⟨.int n, rfl, rfl⟩, fun hnot => absurd trivial hnot⟩
      | float d =>
          exact ⟨fun _ => ⟨.float d, rfl, rfl⟩, fun hnot => absurd trivial hnot⟩
      | str s =>
          rw [ColumnType.coerce_str
            ((IsFor.numeric precision scale).not_blank haccepts),
            ColumnType.Fits,
            ← Number.readDouble?_trim_iff]
          unfold ColumnType.coerceText
          dsimp only
          cases Number.readDouble? (Text.trim s) with
          | none =>
              refine ⟨?_, fun _ => ⟨_, rfl⟩⟩
              rintro ⟨d, hread⟩
              cases hread
          | some d =>
              exact ⟨fun _ => ⟨_, rfl, rfl⟩, fun hnot => absurd ⟨d, rfl⟩ hnot⟩
      | null | bool _ | arr _ | obj _ => cases haccepts
  | boolean =>
      refine ⟨fun _ => ?_, fun hnot => absurd trivial hnot⟩
      cases v with
      | bool b => exact ⟨.bool b, rfl, rfl⟩
      | int n =>
          obtain rfl | rfl : n = 0 ∨ n = 1 := by simpa [accepts] using haccepts
          · exact ⟨.bool false, rfl, rfl⟩
          · exact ⟨.bool true, rfl, rfl⟩
      | str s =>
          have hall : ∀ s ∈ ["0", "1", "true", "false"],
              (readBool? s).isSome := by
            decide +kernel
          obtain ⟨b, hread⟩ :=
            Option.isSome_iff_exists.1
              (hall s (mem_of_accepts_boolean haccepts))
          rw [ColumnType.coerce_str (IsFor.boolean.not_blank haccepts)]
          unfold ColumnType.coerceText
          dsimp only
          rw [hread]
          exact ⟨_, rfl, rfl⟩
      | null | float _ | arr _ | obj _ => cases haccepts
  | date =>
      refine ⟨fun _ => ?_, fun hnot => absurd trivial hnot⟩
      cases v with
      | str s =>
          obtain ⟨i, hread⟩ := Option.isSome_iff_exists.1 haccepts
          rw [ColumnType.coerce_timestamp_of_not_blank
            (Time.not_blank_of_read? hread), hread]
          exact ⟨_, rfl, rfl⟩
      | null | bool _ | int _ | float _ | arr _ | obj _ => cases haccepts

theorem IsFor.coerce_iff (h : rule.IsFor t) (haccepts : rule.accepts v = true) :
    (∃ w, t.coerce v = .ok w) ↔ t.Fits v := by
  obtain ⟨hfits, hrefused⟩ := h.coerce haccepts
  refine ⟨fun ⟨w, hw⟩ => ?_, fun hv => (hfits hv).imp fun _ => And.left⟩
  by_contra hnot
  obtain ⟨e, he⟩ := hrefused hnot
  cases hw.symm.trans he

/-- NOT NULL makes a difference to null alone. -/
theorem IsFor.column_coerce_iff {c : Column} (h : rule.IsFor c.type)
    (hholds : rule.holds (some v) = true)
    (hnullable : v.isNull = true → c.nullable = true) :
    (∃ w, c.coerce v = .ok w) ↔ c.type.Fits v := by
  cases hnull : v.isNull with
  | true =>
      obtain rfl : v = .null := by
        cases v with
        | null => rfl
        | bool _ | int _ | float _ | str _ | arr _ | obj _ => cases hnull
      refine iff_of_true ⟨.null, Column.coerce_eq_ok_iff.2 ⟨rfl, hnullable⟩⟩ ?_
      cases c.type <;> trivial
  | false =>
      have haccepts := h.accepts_of_holds hnull hholds
      rw [← h.coerce_iff haccepts]
      constructor
      · rintro ⟨w, hw⟩
        exact ⟨w, (Column.coerce_eq_ok_iff.1 hw).1⟩
      · intro hok
        obtain ⟨w, hw, hsome⟩ :=
          (h.coerce haccepts).1 ((h.coerce_iff haccepts).1 hok)
        refine ⟨w, Column.coerce_eq_ok_iff.2 ⟨hw, fun hnone => ?_⟩⟩
        rw [hsome] at hnone
        cases hnone

end FieldRule

/-! ## Rows -/

/-- Attributes of a row, each under the name of a column and with a rule for its
type. A null has to be one that the column takes. -/
def FieldRules.Types (rules : FieldRules) (spec : TableSpec)
    (row attributes : Object) : Prop :=
  ∀ f ∈ attributes, Path.get? row f.1 = some f.2 ∧
    ∃ c rule fieldRules, spec.column? f.1 = some c ∧ rule.IsFor c.type ∧
      (f.1, fieldRules) ∈ rules.fields ∧ rule ∈ fieldRules ∧
      (f.2.isNull = true → c.nullable = true)

/-- Attributes that fit their columns. -/
def TableSpec.Fits (spec : TableSpec) (attributes : Object) : Prop :=
  ∀ f ∈ attributes, ∀ c, spec.column? f.1 = some c → c.type.Fits f.2

variable {spec : TableSpec} {rules : FieldRules} {row attributes : Object}

/-- Both stores take the same attributes, as long as the surrogate key is
not among them. -/
theorem exists_coerceAll_iff (hid : idColumn ∉ attributes.keys)
    (t : TableName) :
    (∃ values, Sql.Statement.coerceAll spec t attributes = .ok values) ↔
      Memory.Accepts spec attributes := by
  induction attributes with
  | nil => exact iff_of_true ⟨[], rfl⟩ nofun
  | cons f attributes ih =>
      obtain ⟨key, v⟩ := f
      rw [Object.keys, List.map_cons, List.mem_cons, not_or] at hid
      have hkey : ¬ (key == idColumn) = true :=
        fun heq => hid.1 (eq_of_beq heq).symm
      have ih := ih hid.2
      constructor
      · rintro ⟨values, h⟩
        obtain ⟨c, w, rest, hc, hw, hrest, -⟩ :=
          Sql.Statement.of_coerceAll_cons hkey h
        exact List.forall_mem_cons.2 ⟨⟨c, w, hc, hw⟩, ih.1 ⟨rest, hrest⟩⟩
      · intro h
        obtain ⟨⟨c, w, hc, hw⟩, hrest⟩ := List.forall_mem_cons.1 h
        obtain ⟨values, hvalues⟩ := ih.2 hrest
        refine ⟨(c, w) :: values, ?_⟩
        rw [Sql.Statement.coerceAll, if_neg hkey, hc]
        dsimp only
        rw [hw]
        dsimp only
        rw [hvalues]
        rfl

theorem accepts_iff_fits (hcheck : rules.check row = .ok ())
    (htyped : rules.Types spec row attributes) :
    Memory.Accepts spec attributes ↔ spec.Fits attributes := by
  have hpasses :=
    FieldRules.validate_eq_nil_iff.1 (FieldRules.check_eq_ok_iff.1 hcheck)
  refine forall₂_congr fun f hf => ?_
  obtain ⟨hget, c, rule, fieldRules, hc, hfor, hfield, hrule, hnullable⟩ :=
    htyped f hf
  have hholds := hpasses _ hfield rule hrule
  rw [hget] at hholds
  rw [hc]
  simpa using hfor.column_coerce_iff hholds hnullable

/-- A column takes what the rule for its type accepts exactly if it fits. So a
row that passes its rules is not refused for a type while it is stored, unless
something of it does not fit. -/
theorem accepted_values_are_taken_iff_they_fit {rule : FieldRule}
    {t : ColumnType} (h : rule.IsFor t) :
    (∀ v, rule.accepts v = true → ((∃ w, t.coerce v = .ok w) ↔ t.Fits v)) ∧
    ∀ (rules : FieldRules) (spec : TableSpec) (row attributes : Object),
      rules.check row = .ok () → rules.Types spec row attributes →
      (∀ name before,
        (∃ after, Memory.assign spec name attributes before = .ok after) ↔
          spec.Fits attributes) ∧
      (idColumn ∉ attributes.keys → ∀ table,
        ((∃ values, Sql.Statement.coerceAll spec table attributes =
          .ok values) ↔ spec.Fits attributes)) := by
  refine ⟨fun v haccepts => h.coerce_iff haccepts,
    fun rules spec row attributes hcheck htyped => ?_⟩
  have hiff := accepts_iff_fits hcheck htyped
  refine ⟨fun name before => ?_, fun hid table =>
    (exists_coerceAll_iff hid table).trans hiff⟩
  rw [← hiff]
  exact ⟨fun ⟨_, hassign⟩ => Memory.accepts_of_assign hassign,
    fun haccepts => Memory.assign_of_accepts haccepts name before⟩

/-- A quantity with blanks around it, and no price. -/
theorem quantity_in_blanks_is_taken :
    let rules : FieldRules :=
      ⟨[("qty", [.required, .integer]), ("price", [.numeric])]⟩
    let qty : Column := { name := "qty", type := .integer, nullable := false }
    let price : Column := { name := "price", type := .decimal 12 2 }
    let spec : TableSpec := ⟨"uid", [qty, price], []⟩
    let row : Object := [("qty", .str " 42 "), ("price", .null)]
    rules.check row = .ok () ∧ rules.Types spec row row ∧
      (∃ w, ColumnType.integer.coerce (.str " 42 ") = .ok w) ∧
      (∃ after, Memory.assign spec "acme$orders" row [] = .ok after) ∧
      ∀ table, ∃ values,
        Sql.Statement.coerceAll spec table row = .ok values := by
  intro rules qty price spec row
  have hcheck : rules.check row = .ok () :=
    FieldRules.check_eq_ok_iff.2
      (FieldRules.validate_eq_nil_iff.2 (by decide +kernel))
  have hqty : Path.get? row "qty" = some (.str " 42 ") := rfl
  have hprice : Path.get? row "price" = some .null := rfl
  have htyped : rules.Types spec row row := List.forall_mem_cons.2
    ⟨⟨hqty, qty, .integer, _, rfl, .integer,
      List.mem_cons_self, by simp, nofun⟩, List.forall_mem_singleton.2 ⟨hprice,
      price, .numeric, _, rfl, .numeric 12 2,
        List.mem_cons_of_mem _ List.mem_cons_self, List.mem_cons_self,
        fun _ => rfl⟩⟩
  have hfits : spec.Fits row := by
    refine List.forall_mem_cons.2 ⟨fun c hc =>
      ?_, List.forall_mem_singleton.2 fun c hc => ?_⟩
    · obtain rfl : qty = c := Option.some.inj hc
      trivial
    · obtain rfl : price = c := Option.some.inj hc
      trivial
  have haccepts : FieldRule.integer.accepts (.str " 42 ") = true := by
    decide +kernel
  obtain ⟨hvalues, hrows⟩ := accepted_values_are_taken_iff_they_fit .integer
  obtain ⟨hmemory, hpostgres⟩ := hrows rules spec row row hcheck htyped
  exact ⟨hcheck, htyped, (hvalues _ haccepts).2 trivial, (hmemory _ _).2 hfits,
    fun table => (hpostgres (by decide) table).2 hfits⟩

/-- The least integer beyond the signed range. -/
theorem accepted_integer_is_refused :
    FieldRule.integer.accepts (.int 9223372036854775808) = true ∧
      ∀ w, ColumnType.integer.coerce (.int 9223372036854775808) ≠ .ok w := by
  have haccepts : FieldRule.integer.accepts (.int 9223372036854775808) = true :=
    rfl
  have hgreat : ¬ ColumnType.integer.Fits (.int 9223372036854775808) :=
    show ¬ 9223372036854775808 ≤ Number.maxInt64 by decide
  refine ⟨haccepts, fun w hw => ?_⟩
  obtain ⟨e, he⟩ := (FieldRule.IsFor.integer.coerce haccepts).2 hgreat
  cases hw.symm.trans he

end TenantTables
