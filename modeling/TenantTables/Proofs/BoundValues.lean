import TenantTables.Postgres.Store
import TenantTables.Proofs.ActionRun
import TenantTables.Proofs.Coercion
import TenantTables.Proofs.DecimalRange
import TenantTables.Proofs.LiteralComparison
import TenantTables.Proofs.StatementBinding
import TenantTables.Proofs.StoreInvariant

/-!
# Values that are bound

A value on its way into the database is looked at twice: it is brought into the
shape of its column, and it is bound to a placeholder under the type of the
column. The two look at type and value by themselves, so what the one lets pass
the other could refuse.

It does so for decimal columns only, and only for numbers that are out of the
range of decimals. The shape of such a column is any number, and how great it
is does not matter there. (Instants beyond the four-digit years are left
aside: they come out of their column as texts that are not read again.) A
statement with such a number is refused before anything is sent, with the
message for the first of them.
-/

namespace TenantTables

open Json (Value)
open Sql (Parameter Statement)
open Time (Instant)
open Number (Decimal decimalBound)

/-- The numbers in the range of decimals, and everything that is no number. -/
def Json.Value.Sendable : Value → Prop
  | .int n => n.natAbs < decimalBound
  | .float d => d.Sendable
  | .null | .bool _ | .str _ | .arr _ | .obj _ => True

instance (v : Value) : Decidable v.Sendable :=
  match v with
  | .int n => inferInstanceAs (Decidable (n.natAbs < decimalBound))
  | .float d => inferInstanceAs (Decidable d.Sendable)
  | .null | .bool _ | .str _ | .arr _ | .obj _ => isTrue trivial

/-- Whether a column sends a value of its shape: a decimal column has the range
of decimals, the others send all. -/
def Column.Sends (c : Column) (w : Value) : Prop :=
  match c.type with
  | .decimal .. => w.Sendable
  | .serial | .text | .varchar _ | .integer | .boolean | .timestamp | .json =>
      True

instance (c : Column) (w : Value) : Decidable (c.Sends w) := by
  unfold Column.Sends
  split <;> infer_instance

namespace ColumnType

variable {t : ColumnType} {v w : Value}

theorem int64?_of_coerce (ht : t = .serial ∨ t = .integer)
    (h : t.coerce v = .ok w) (hw : w.isNull = false) :
    ∃ n, w.int64? = some n := by
  have hstores := stores_of_coerce h hw
  have hagain : t.coerce w = .ok w :=
    coerce_coerced h (by rcases ht with rfl | rfl <;> nofun)
  rcases ht with rfl | rfl
  all_goals
    rw [coerce_of_number rfl hstores, coerceNumber] at hagain
    split at hagain
    · next n hn => exact ⟨n, hn⟩
    · cases hagain

/-- A timestamp of the four-digit years is stored as a text that
is read strictly. -/
theorem readStrict?_of_coerce (h : ColumnType.timestamp.coerce v = .ok w)
    (hw : w.isNull = false) (hyear : ColumnType.timestamp.InFourDigits v) :
    ∃ s i, w = .str s ∧ Instant.readStrict? s = some i := by
  obtain ⟨i, -, rfl⟩ := stores_of_coerce h hw
  obtain ⟨text, i, rfl, hread, htext⟩ := read_of_coerce h
  refine ⟨_, i, rfl, ?_⟩
  rw [htext]
  exact Instant.readStrict?_toText (Instant.proper_of_read? hread)
    (hyear rfl text i rfl hread)

end ColumnType

namespace Sql

variable {c : Column} {v w : Value}

namespace Parameter

theorem exists_of_expect {α : Type} {name expected : String} {value : Option α}
    {make : α → Parameter} (h : value.isSome = true) :
    ∃ p, (expect name expected value).map make = .ok p := by
  obtain ⟨a, rfl⟩ := Option.isSome_iff_exists.1 h
  exact ⟨make a, rfl⟩

/-- A number is bound to a decimal column exactly if it is in the
range of decimals. -/
theorem isSome_ofText?_of_number (hw : w.double?.isSome = true) :
    (w.toText?.bind Decimal.ofText?).isSome = true ↔ w.Sendable := by
  cases w with
  | int n => exact Decimal.isSome_ofText?_int n
  | float d => exact d.isSome_ofText?_iff
  | null | bool _ | str _ | arr _ | obj _ => cases hw

theorem ofValue_of_present (hw : w.isNull = false) :
    ofValue c w = ofPresent c w := by
  rw [ofValue, hw, if_neg Bool.false_ne_true]

/-- A value that came out of its column's coercion is bound if its
column sends it. -/
theorem ofValue_of_sends (h : c.coerce v = .ok w)
    (hyear : c.type.InFourDigits v) (hsends : c.Sends w) :
    ∃ p, ofValue c w = .ok p := by
  obtain ⟨hcoerce, -⟩ := Column.coerce_eq_ok_iff.1 h
  cases hnull : w.isNull with
  | true => exact ⟨null c, by rw [ofValue, hnull, if_pos rfl]⟩
  | false =>
      have hstores := ColumnType.stores_of_coerce hcoerce hnull
      rw [ofValue_of_present hnull]
      obtain ⟨name, type, nullable, unique, default?⟩ := c
      dsimp only at hcoerce hyear hstores
      cases type with
      | text | varchar length | json => exact ⟨_, rfl⟩
      | serial | integer =>
          obtain ⟨n, hn⟩ := ColumnType.int64?_of_coerce (by simp) hcoerce hnull
          exact exists_of_expect (by rw [hn]; rfl)
      | decimal precision scale =>
          exact exists_of_expect ((isSome_ofText?_of_number hstores).2 hsends)
      | boolean =>
          obtain ⟨b, rfl⟩ := hstores
          exact ⟨_, rfl⟩
      | timestamp =>
          obtain ⟨s, i, rfl, hread⟩ :=
            ColumnType.readStrict?_of_coerce hcoerce hnull hyear
          exact exists_of_expect (by rw [hread]; rfl)

/-- Only a decimal column does not send a value, and it names itself. -/
theorem ofValue_of_not_sends (h : c.coerce v = .ok w) (hsends : ¬ c.Sends w) :
    ofValue c w = .error (mismatch c.name "decimal") := by
  obtain ⟨hcoerce, -⟩ := Column.coerce_eq_ok_iff.1 h
  obtain ⟨name, type, nullable, unique, default?⟩ := c
  dsimp only at hcoerce
  cases type with
  | serial | text | varchar length | integer | boolean | timestamp | json =>
      exact absurd trivial hsends
  | decimal precision scale =>
      have hnull : w.isNull = false := by
        cases w with
        | null => exact absurd trivial hsends
        | bool _ | int _ | float _ | str _ | arr _ | obj _ => rfl
      have hstores := ColumnType.stores_of_coerce hcoerce hnull
      have hnone : w.toText?.bind Decimal.ofText? = none := by
        rw [← Option.not_isSome_iff_eq_none, isSome_ofText?_of_number hstores]
        exact hsends
      rw [ofValue_of_present hnull]
      change (expect name "decimal" (w.toText?.bind Decimal.ofText?)).map _ = _
      rw [hnone]
      rfl

end Parameter

/-! ## Statements -/

namespace Statement

variable {spec : TableSpec} {t : TableName} {attributes : List (String × Value)}
  {values : List (Column × Value)}

/-- The first column with a value that it does not send. -/
def refused? (values : List (Column × Value)) : Option Column :=
  (values.find? fun e => !decide (e.1.Sends e.2)).map (·.1)

/-- All timestamps that are read from the attributes are in the
four-digit years. -/
def InFourDigits (spec : TableSpec)
    (attributes : List (String × Value)) : Prop :=
  ∀ a ∈ attributes, ∀ c, spec.column? a.1 = some c → c.type.InFourDigits a.2

/-- A value under its column, as it comes out of its coercion. -/
def Coerced (e : Column × Value) : Prop :=
  ∃ v, e.1.coerce v = .ok e.2 ∧ e.1.type.InFourDigits v

theorem coerced_of_coerceAll (h : coerceAll spec t attributes = .ok values)
    (hyears : InFourDigits spec attributes) : ∀ e ∈ values, Coerced e := by
  induction attributes generalizing values with
  | nil =>
      obtain rfl := Except.ok.inj h
      exact List.forall_mem_nil _
  | cons a attributes ih =>
      obtain ⟨key, v⟩ := a
      obtain ⟨hyear, hyears⟩ := List.forall_mem_cons.1 hyears
      by_cases hkey : (key == idColumn) = true
      · rw [coerceAll, if_pos hkey] at h
        exact ih h hyears
      · obtain ⟨column, w, rest, hcolumn, hw, hrest, rfl⟩ :=
          of_coerceAll_cons hkey h
        exact List.forall_mem_cons.2 ⟨⟨v, hw, hyear column hcolumn⟩,
          ih hrest hyears⟩

theorem bindAll_cons (c : Column) (w : Value) (values : List (Column × Value)) :
    bindAll ((c, w) :: values) =
      (Parameter.ofValue c w).bind fun p => (bindAll values).map (p :: ·) := by
  rw [bindAll, List.mapM_cons]
  rfl

/-- What is built from values: a result, or the refusal of the first
that is not sent. -/
structure Builds {α : Type} (values : List (Column × Value))
    (built : Except Error α) : Prop where
  ok : refused? values = none → ∃ a, built = .ok a
  error : ∀ c, refused? values = some c →
    built = .error (Parameter.mismatch c.name "decimal")

theorem Builds.map {α β : Type} {built : Except Error α}
    (h : Builds values built) (f : α → β) :
    Builds values (built >>= fun a => .ok (f a)) where
  ok hnone := by
    obtain ⟨a, ha⟩ := h.ok hnone
    exact ⟨f a, by rw [ha]; rfl⟩
  error c hc := by
    rw [h.error c hc]
    rfl

theorem builds_bindAll (h : ∀ e ∈ values, Coerced e) :
    Builds values (bindAll values) := by
  induction values with
  | nil => exact ⟨fun _ => ⟨[], rfl⟩, nofun⟩
  | cons e values ih =>
      obtain ⟨c, w⟩ := e
      obtain ⟨⟨v, hv, hyear⟩, hrest⟩ := List.forall_mem_cons.1 h
      rw [bindAll_cons]
      by_cases hsends : c.Sends w
      · obtain ⟨p, hp⟩ := Parameter.ofValue_of_sends hv hyear hsends
        have hsame : refused? ((c, w) :: values) = refused? values := by
          rw [refused?, List.find?_cons_of_neg (by simp [hsends])]
          rfl
        obtain ⟨hok, herror⟩ := ih hrest
        rw [← hsame] at hok herror
        constructor
        · intro hnone
          obtain ⟨params, hparams⟩ := hok hnone
          exact ⟨p :: params, by rw [hp, hparams]; rfl⟩
        · intro d hd
          rw [hp, herror d hd]
          rfl
      · have hfirst : refused? ((c, w) :: values) = some c := by
          rw [refused?, List.find?_cons_of_pos (by simp [hsends])]
          rfl
        constructor
        · intro hnone
          rw [hfirst] at hnone
          cases hnone
        · intro d hd
          obtain rfl := Option.some.inj (hfirst.symm.trans hd)
          rw [Parameter.ofValue_of_not_sends hv hsends]
          rfl

theorem builds_insert (h : coerceAll spec t attributes = .ok values)
    (hyears : InFourDigits spec attributes) :
    Builds values (insert spec t attributes) := by
  rw [insert, h]
  exact (builds_bindAll (coerced_of_coerceAll h hyears)).map _

/-- The attributes that an update writes. -/
def written (changes : List Change) : List (String × Value) :=
  changes.map fun c => (c.key, c.new)

theorem builds_update {id : Int} {changes : List Change}
    (h : coerceAll spec t (written changes) = .ok values)
    (hyears : InFourDigits spec (written changes)) :
    Builds values (update spec t id changes) := by
  have hcoerced := coerced_of_coerceAll h hyears
  rw [written] at h
  rw [update, h]
  exact (builds_bindAll hcoerced).map _

end Statement

end Sql

/-! ## The store -/

namespace Postgres.Store

open Memory.Store (ordersOfAcme)
open Sql.Statement (Builds InFourDigits builds_insert builds_update coerceAll
  refused? written)

/-- A value that came out of its column's coercion is bound, but for a
number out of the range of decimals in a decimal column, which is refused by
name. So when all attributes of a record come out of their coercions, a
store has the statement that writes them, or refuses the first such number,
and then sends nothing. -/
theorem coerced_values_are_bound :
    (∀ (c : Column) (v w : Value), c.coerce v = .ok w → c.type.InFourDigits v →
      (c.Sends w → ∃ p, Parameter.ofValue c w = .ok p) ∧
        (¬ c.Sends w → Parameter.ofValue c w =
          .error (Parameter.mismatch c.name "decimal"))) ∧
    ∀ (δ : Type) (s : Store δ) (t : TableName) (r : Record)
      (values : List (Column × Value)),
      (coerceAll s.spec t r.attributes = .ok values →
        InFourDigits s.spec r.attributes →
        Builds values (Statement.insert s.spec t r.attributes) ∧
          ∀ c, refused? values = some c → ∀ w, (s.insert t r).runIn w =
            (.error (Parameter.mismatch c.name "decimal"), w)) ∧
      ∀ id, r.id = some id → r.isDirty = true →
        coerceAll s.spec t (written r.changes) = .ok values →
        InFourDigits s.spec (written r.changes) →
        Builds values (Statement.update s.spec t id r.changes) ∧
          ∀ c, refused? values = some c → ∀ w, (s.update t r).runIn w =
            (.error (Parameter.mismatch c.name "decimal"), w) := by
  refine ⟨fun c v w h hyear => ⟨Parameter.ofValue_of_sends h hyear,
    Parameter.ofValue_of_not_sends h⟩, fun δ s t r values =>
      ⟨fun h hyears => ?_,
    fun id hid hdirty h hyears => ?_⟩⟩
  · have hinsert := builds_insert h hyears
    refine ⟨hinsert, fun c hc w => ?_⟩
    rw [Store.insert, hinsert.error c hc]
    exact Action.runIn_bind_error (Action.runIn_lift _ w)
  · have hupdate : Builds values (Statement.update s.spec t id r.changes) :=
      builds_update h hyears
    have hchanged : r.changes.isEmpty ≠ true := by
      simpa [Record.isDirty] using hdirty
    refine ⟨hupdate, fun c hc w => ?_⟩
    rw [Store.update, hid]
    dsimp only
    rw [if_neg hchanged, hupdate.error c hc]
    exact Action.runIn_bind_error (Action.runIn_lift _ w)

/-! ## A number below the bound, and one behind it -/

/-- What an order comes to. -/
def amount : Column := { name := "amount", type := .decimal 12 2 }

/-- Orders with what they come to and when they were seen. -/
def pricedOrders : TableSpec :=
  ((TableSpec.bare "uid").withColumn amount).withColumn
    { name := "seen", type := .timestamp }

/-- An order that comes to so much. -/
def priced (d : Number.Double) : Json.Object :=
  [("uid", .str "a"), ("amount", .float d), ("seen", .str "9999-12-31")]

/-- The number nearest to ten to the twenty-eighth. -/
def great : Number.Double := ⟨false, 5026061058026967681, by decide⟩

/-- The number nearest to ten to the twenty-ninth. -/
def tooGreat : Number.Double := ⟨false, 5040708725286295329, by decide⟩

/-- A database that answers nothing. -/
def silent : Peer Unit :=
  ⟨fun _ d => (.ok (), d), fun _ d => (.error .noRow, d)⟩

/-- Priced orders in such a database. -/
def silentOrders : Store Unit := ⟨silent, pricedOrders⟩

/-- The values of a priced order. -/
def pricedValues (d : Number.Double) : List (Column × Value) :=
  [({ name := "uid", type := .varchar 50, nullable := false, unique := true },
    .str "a"), (amount, .float d),
    ({ name := "seen", type := .timestamp }, .str "9999-12-31T00:00:00+00:00")]

theorem coerceAll_priced (d : Number.Double) :
    coerceAll pricedOrders ordersOfAcme (priced d) = .ok (pricedValues d) := by
  rfl

theorem inFourDigits_priced (d : Number.Double) :
    InFourDigits pricedOrders (priced d) := by
  intro a ha c hc htype text i htext hread
  rw [priced] at ha
  rcases List.mem_cons.1 ha with rfl | ha
  · obtain rfl := Option.some.inj hc
    cases htype
  · rcases List.mem_cons.1 ha with rfl | ha
    · cases htext
    · obtain rfl := List.mem_singleton.1 ha
      obtain rfl := Value.str.inj htext
      have hday : Instant.read? "9999-12-31" = some ⟨253402214400, 0⟩ := by rfl
      obtain rfl := Option.some.inj (hread.symm.trans hday)
      decide

theorem great_amount_is_bound :
    (∃ p, Parameter.ofValue amount (.float great) = .ok p) ∧
    (∃ st, Statement.insert pricedOrders ordersOfAcme (priced great) = .ok st) ∧
    ∃ st, Statement.update pricedOrders ordersOfAcme 1
      (Record.changes ⟨some 1, priced great, [], true⟩) = .ok st := by
  have hbinds :=
    coerced_values_are_bound.1 amount (.float great) (.float great) rfl nofun
  have hnone : refused? (pricedValues great) = none := by decide +kernel
  have hinserts := (coerced_values_are_bound.2 Unit silentOrders ordersOfAcme
    (.new (priced great)) (pricedValues great)).1 (coerceAll_priced great)
    (inFourDigits_priced great)
  have hupdates := (coerced_values_are_bound.2 Unit silentOrders ordersOfAcme
    ⟨some 1, priced great, [], true⟩ (pricedValues great)).2 1 rfl rfl
    (coerceAll_priced great) (inFourDigits_priced great)
  exact ⟨hbinds.1 (by decide +kernel), hinserts.1.ok hnone, hupdates.1.ok hnone⟩

theorem too_great_amount_is_refused :
    (¬ ∀ (c : Column) (v w : Value), c.coerce v = .ok w →
      ∃ p, Parameter.ofValue c w = .ok p) ∧
    Statement.insert pricedOrders ordersOfAcme (priced tooGreat) =
      .error (.validation "Column 'amount' expected decimal") := by
  constructor
  · intro hbinds
    have hcoerce : amount.coerce (.float tooGreat) = .ok (.float tooGreat) :=
      rfl
    obtain ⟨p, hp⟩ := hbinds _ _ _ hcoerce
    rw [Parameter.ofValue_of_not_sends hcoerce (by decide +kernel)] at hp
    cases hp
  · have hamount : refused? (pricedValues tooGreat) = some amount := by
      decide +kernel
    exact (builds_insert (coerceAll_priced tooGreat)
      (inFourDigits_priced tooGreat)).error _ hamount

end Postgres.Store

end TenantTables
