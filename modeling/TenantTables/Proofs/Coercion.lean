import TenantTables.Proofs.TimestampText
import TenantTables.TableSpec

/-!
# Values that are coerced again

A row is read back and written again, and every write brings all values into the
shape of their columns. What came out of coercion once comes out of it again as
it is, with one exception: the text of an instant beyond the four-digit years is
no timestamp. No such text gets into the window of time, whose ends are moved to
midnight, and so written as texts and read again, before they are coerced.
-/

namespace TenantTables

open Json (Value)
open Time (Instant)

namespace Time

theorem not_blank_of_read? {s : String} {i : Instant}
    (h : Instant.read? s = some i) :
    Text.isBlankText s = false := by
  obtain ⟨d, -, hwithin⟩ := hyphenBehindDigit_of_read? h
  have hhyphen : '-' ∈ s.toList :=
    hwithin.subset (List.mem_cons_of_mem _ List.mem_cons_self)
  exact List.all_eq_false.2 ⟨'-', hhyphen, by decide⟩

theorem not_blank_toText (i : Instant) : Text.isBlankText i.toText = false := by
  obtain ⟨front, hfront⟩ : ∃ front : String, i.toText = front ++ "+00:00" :=
    ⟨_, rfl⟩
  have hdigit : '0' ∈ i.toText.toList := by
    rw [hfront, String.toList_append]
    exact List.mem_append_right _ (by decide)
  exact List.all_eq_false.2 ⟨'0', hdigit, by decide⟩

/-- A text that is the text of the instant that it is read as. -/
def IsStamp (s : String) : Prop :=
  ∃ i, Instant.read? s = some i ∧ i.toText = s

theorem isStamp_toText {i : Instant} (h : i.Proper)
    (hyear : 0 ≤ i.date.year ∧ i.date.year ≤ 9999) : IsStamp i.toText :=
  ⟨i, by rw [Instant.read?_toText h, if_pos hyear], rfl⟩

end Time

open Time (IsStamp not_blank_of_read? not_blank_toText)

/-- A clock that shows times of day in the years from 0 to 9999. -/
def Supply.Dated (u : Supply) : Prop :=
  ∀ n, (u.instants n).Proper ∧ 0 ≤ (u.instants n).date.year ∧
    (u.instants n).date.year ≤ 9999

theorem Supply.Dated.isStamp {u : Supply} (h : u.Dated) :
    IsStamp u.now.1.toText :=
  Time.isStamp_toText (h _).1 (h _).2

theorem Supply.Dated.congr {u u' : Supply} (h : u.Dated)
    (heq : u'.instants = u.instants) :
    u'.Dated := by
  rw [Dated, heq]
  exact h

namespace ColumnType

variable {t : ColumnType} {v w : Value}

/-- A text column takes every value but null as its text. -/
theorem coerce_of_isText {s : String} (ht : t.isText = true)
    (hv : v.toText? = some s) :
    t.coerce v = t.coerceText s := by
  cases v with
  | null => cases hv
  | str _ =>
      obtain rfl := Option.some.inj hv
      rw [coerce, ht]
      rfl
  | bool _ | int _ | float _ | arr _ | obj _ =>
      obtain rfl := Option.some.inj hv
      cases t with
      | text | varchar _ => rfl
      | serial | integer | decimal _ _ | boolean | timestamp | json => cases ht

theorem eq_str_of_isText {s : String} (ht : t.isText = true)
    (hv : v.toText? = some s) (h : t.coerce v = .ok w) : w = .str s := by
  rw [coerce_of_isText ht hv] at h
  cases t with
  | text => exact (Except.ok.inj h).symm
  | varchar length =>
      unfold coerceText at h
      dsimp only at h
      split at h
      · exact (Except.ok.inj h).symm
      · cases h
  | serial | integer | decimal _ _ | boolean | timestamp | json => cases ht

/-- Text that is not blank is read. -/
theorem coerce_str {s : String} (h : Text.isBlankText s = false) :
    t.coerce (.str s) = t.coerceText s := by
  rw [coerce, h, Bool.and_false, if_neg Bool.false_ne_true]

/-- Text of a timestamp column that is not blank is read, and written again. -/
theorem coerce_timestamp_of_not_blank {s : String}
    (h : Text.isBlankText s = false) :
    ColumnType.timestamp.coerce (.str s) =
      match Instant.read? s with
      | some i => .ok (.str i.toText)
      | none => .error ("Invalid timestamp format: '" ++ s ++ "'") :=
  coerce_str h

theorem coerce_stamp {s : String} (h : IsStamp s) :
    ColumnType.timestamp.coerce (.str s) = .ok (.str s) := by
  obtain ⟨i, hread, htext⟩ := h
  rw [coerce_timestamp_of_not_blank (not_blank_of_read? hread), hread, ← htext]

/-- A timestamp is stored as the text of the instant that it is read as. -/
theorem read_of_coerce {s : String}
    (h : ColumnType.timestamp.coerce v = .ok (.str s)) :
    ∃ text i, v = .str text ∧ Instant.read? text = some i ∧ s = i.toText := by
  cases v with
  | str text =>
      cases hblank : Text.isBlankText text with
      | true =>
          rw [coerce, hblank] at h
          cases h
      | false =>
          rw [coerce_timestamp_of_not_blank hblank] at h
          split at h
          · next i hread =>
              exact ⟨text, i, rfl, hread,
                (Value.str.inj (Except.ok.inj h)).symm⟩
          · cases h
  | null | bool _ | int _ | float _ | arr _ | obj _ => cases h

theorem instant_of_coerce {s : String}
    (h : ColumnType.timestamp.coerce v = .ok (.str s)) :
    ∃ i : Instant, i.Proper ∧ s = i.toText := by
  obtain ⟨_, i, -, hread, hs⟩ := read_of_coerce h
  exact ⟨i, Instant.proper_of_read? hread, hs⟩

/-- The text of an instant is taken as it is, or not at all. -/
theorem eq_of_coerce_toText {i : Instant} (hi : i.Proper)
    (h : ColumnType.timestamp.coerce (.str i.toText) = .ok w) :
    w = .str i.toText := by
  rw [coerce_timestamp_of_not_blank (not_blank_toText i),
    Instant.read?_toText hi] at h
  split at h
  · next j hread =>
      obtain ⟨-, hsame⟩ := Option.ite_none_right_eq_some.1 hread
      obtain rfl := Option.some.inj hsame
      exact (Except.ok.inj h).symm
  · cases h

theorem coerce_of_number (ht : t.isText = false)
    (hv : v.double?.isSome = true) :
    t.coerce v = t.coerceNumber v := by
  cases v with
  | int _ | float _ =>
      cases t with
      | text | varchar _ => cases ht
      | serial | integer | decimal _ _ | boolean | timestamp | json => rfl
  | null | bool _ | str _ | arr _ | obj _ => cases hv

theorem coerce_int {n : Int} (ht : t = .serial ∨ t = .integer)
    (hn : Value.int64? (.int n) = some n) :
    t.coerce (.int n) = .ok (.int n) := by
  rcases ht with rfl | rfl <;>
    rw [coerce_of_number rfl rfl, coerceNumber, hn]

theorem int64?_of_isInt64 {n : Int} (h : Number.isInt64 n = true) :
    Value.int64? (.int n) = some n := by
  rw [Number.isInt64, Bool.and_eq_true, decide_eq_true_iff, decide_eq_true_iff,
    Number.maxInt64] at h
  exact if_pos (by omega)

theorem int64?_of_eq_some {n : Int} (h : v.int64? = some n) :
    Value.int64? (.int n) = some n := by
  cases v with
  | int m =>
      have hm := h
      rw [Value.int64?] at hm
      split at hm
      · obtain rfl := Option.some.inj hm
        exact h
      · cases hm
  | null | bool _ | float _ | str _ | arr _ | obj _ => cases h

/-- Text that is coerced, and not blank where that means null,
is coerced again. -/
theorem coerce_coerceText {s : String}
    (hblank : t.isText = false → Text.isBlankText s = false)
    (h : t.coerceText s = .ok w)
    (hstamp : t = .timestamp → ∀ s, w = .str s → IsStamp s) :
    t.coerce w = .ok w := by
  cases t with
  | serial | integer =>
      unfold coerceText at h
      dsimp only at h
      split at h
      · next n hread =>
          obtain rfl := Except.ok.inj h
          exact coerce_int (by simp)
            (int64?_of_isInt64 (Option.filter_eq_some_iff.1 hread).2)
      · cases h
  | decimal _ _ | boolean =>
      unfold coerceText at h
      dsimp only at h
      split at h
      · obtain rfl := Except.ok.inj h
        rfl
      · cases h
  | timestamp =>
      unfold coerceText at h
      dsimp only at h
      split at h
      · obtain rfl := Except.ok.inj h
        exact coerce_stamp (hstamp rfl _ rfl)
      · cases h
  | varchar length =>
      have hs := h
      unfold coerceText at hs
      dsimp only at hs
      split at hs
      · obtain rfl := Except.ok.inj hs
        exact h
      · cases hs
  | text =>
      obtain rfl := Except.ok.inj h
      rfl
  | json =>
      obtain rfl := Except.ok.inj h
      rw [coerce, if_neg (by simp [hblank rfl])]
      rfl

theorem coerce_coerceNumber (ht : t.isText = false)
    (hv : v.double?.isSome = true) (h : t.coerceNumber v = .ok w) :
    t.coerce w = .ok w := by
  cases t with
  | serial | integer =>
      rw [coerceNumber] at h
      split at h
      · next n hn =>
          obtain rfl := Except.ok.inj h
          exact coerce_int (by simp) (int64?_of_eq_some hn)
      · cases h
  | boolean =>
      rw [coerceNumber] at h
      split at h
      · obtain rfl := Except.ok.inj h
        rfl
      · obtain rfl := Except.ok.inj h
        rfl
      · cases h
  | decimal _ _ | json =>
      obtain rfl := Except.ok.inj h
      exact coerce_of_number rfl hv
  | timestamp => cases h
  | text | varchar _ => cases ht

/-- What comes out of coercion comes out of it again as it is, unless it is the
text of an instant that is not read from its text. -/
theorem coerce_coerced (h : t.coerce v = .ok w)
    (hstamp : t = .timestamp → ∀ s, w = .str s → IsStamp s) :
    t.coerce w = .ok w := by
  -- A text column looks at the text of a value only, the others at the value.
  cases ht : t.isText with
  | true =>
      cases hv : v.toText? with
      | none =>
          obtain rfl : v = .null := by
            cases v with
            | null => rfl
            | bool _ | int _ | float _ | str _ | arr _ | obj _ => cases hv
          obtain rfl := Except.ok.inj h
          rfl
      | some s =>
          rw [coerce_of_isText ht hv] at h
          exact coerce_coerceText
            (fun hfalse => absurd (ht.symm.trans hfalse) (by decide)) h hstamp
  | false =>
      cases v with
      | null =>
          obtain rfl := Except.ok.inj h
          rfl
      | str s =>
          rw [coerce, ht, Bool.not_false, Bool.true_and] at h
          split at h
          · obtain rfl := Except.ok.inj h
            rfl
          · next hblank =>
              exact coerce_coerceText (fun _ => Bool.eq_false_iff.2 hblank)
                h hstamp
      | int n =>
          exact coerce_coerceNumber ht rfl
            ((coerce_of_number ht rfl).symm.trans h)
      | float d =>
          have hd : (Value.float d).double?.isSome = true := rfl
          exact coerce_coerceNumber ht hd
            ((coerce_of_number ht hd).symm.trans h)
      | bool b =>
          cases t with
          | json | boolean =>
              obtain rfl := Except.ok.inj h
              rfl
          | text | varchar _ => cases ht
          | serial | integer | decimal _ _ | timestamp => cases h
      | arr items | obj fields =>
          cases t with
          | json =>
              obtain rfl := Except.ok.inj h
              rfl
          | text | varchar _ => cases ht
          | serial | integer | decimal _ _ | boolean | timestamp => cases h

/-- The timestamps that are read from a value are in the four-digit years. -/
def InFourDigits (t : ColumnType) (v : Value) : Prop :=
  t = .timestamp → ∀ text i, v = .str text → Instant.read? text = some i →
    0 ≤ i.date.year ∧ i.date.year ≤ 9999

theorem coerce_coerced_iff (h : t.coerce v = .ok w) :
    t.coerce w = .ok w ↔ t.InFourDigits v := by
  constructor
  · rintro hagain rfl text i rfl hread
    have hproper := Instant.proper_of_read? hread
    rw [coerce_timestamp_of_not_blank (not_blank_of_read? hread), hread] at h
    obtain rfl := Except.ok.inj h
    rw [coerce_timestamp_of_not_blank (not_blank_toText i),
      Instant.read?_toText hproper]
      at hagain
    by_contra hyear
    rw [if_neg hyear] at hagain
    cases hagain
  · intro hyear
    refine coerce_coerced h fun htype s hs => ?_
    subst htype hs
    obtain ⟨text, i, htext, hread, rfl⟩ := read_of_coerce h
    exact Time.isStamp_toText (Instant.proper_of_read? hread)
      (hyear rfl text i htext hread)

end ColumnType

/-! ## Columns -/

namespace Column

variable {c : Column} {v w : Value}

theorem coerce_eq_ok_iff :
    c.coerce v = .ok w ↔
      c.type.coerce v = .ok w ∧ (w.isNull = true → c.nullable = true) := by
  unfold coerce
  cases c.type.coerce v with
  | error e => simp
  | ok u =>
      dsimp only
      split
      · next hrefused =>
          rw [Bool.and_eq_true, Bool.not_eq_true'] at hrefused
          refine ⟨nofun, fun ⟨heq, hnull⟩ => ?_⟩
          obtain rfl := Except.ok.inj heq
          rw [hnull hrefused.1] at hrefused
          exact absurd hrefused.2 (by decide)
      · next hkept =>
          refine ⟨fun heq => ⟨heq, fun hnull => ?_⟩, And.left⟩
          obtain rfl := Except.ok.inj heq
          simpa [hnull] using hkept

theorem coerce_null (h : c.nullable = true) : c.coerce .null = .ok .null :=
  coerce_eq_ok_iff.2 ⟨rfl, fun _ => h⟩

theorem coerce_coerced (h : c.coerce v = .ok w)
    (hstamp : c.type = .timestamp → ∀ s, w = .str s → IsStamp s) :
    c.coerce w = .ok w := by
  obtain ⟨htype, hnull⟩ := coerce_eq_ok_iff.1 h
  exact coerce_eq_ok_iff.2 ⟨ColumnType.coerce_coerced htype hstamp, hnull⟩

/-- So what comes out twice is the same both times. -/
theorem eq_of_coerce_coerced {u : Value} (h : c.coerce v = .ok w)
    (hagain : c.coerce w = .ok u) :
    u = w := by
  by_cases htext : c.type = .timestamp ∧ ∃ s, w = .str s
  · obtain ⟨htype, s, rfl⟩ := htext
    have hcoerce := (coerce_eq_ok_iff.1 h).1
    have hcoerce' := (coerce_eq_ok_iff.1 hagain).1
    rw [htype] at hcoerce hcoerce'
    obtain ⟨i, hi, rfl⟩ := ColumnType.instant_of_coerce hcoerce
    exact ColumnType.eq_of_coerce_toText hi hcoerce'
  · have hsame := coerce_coerced h fun htype s hs => absurd ⟨htype, s, hs⟩ htext
    exact Except.ok.inj (hagain.symm.trans hsame)

end Column

/-! ## The window of time -/

namespace TableSpec

variable {v w : Value}

/-- An end of the window of time as it is stored: a timestamp
at its midnight. -/
def atMidnight (v : Value) : Value :=
  match v.str?.bind Instant.read? with
  | some i => .str i.startOfDay.toText
  | none => v

/-- What is null at midnight was null before. -/
theorem eq_null_of_atMidnight (h : atMidnight v = .null) : v = .null := by
  unfold atMidnight at h
  split at h
  · cases h
  · exact h

theorem startOfDay_startOfDay (i : Instant) :
    i.startOfDay.startOfDay = i.startOfDay := by
  simp only [Instant.startOfDay, Instant.mk.injEq, and_true]
  omega

/-- An end of the window that is stored is null or a midnight that is
read from its text. -/
theorem midnight_of_coerce
    (h : ColumnType.timestamp.coerce (atMidnight v) = .ok w) :
    w = .null ∨ ∃ i, Instant.read? i.toText = some i ∧ i.startOfDay = i ∧
      w = .str i.toText := by
  unfold atMidnight at h
  split at h
  · next i _ =>
      have hproper : i.startOfDay.Proper := ⟨Nat.zero_lt_succ _, nofun⟩
      rw [ColumnType.coerce_timestamp_of_not_blank (not_blank_toText _),
        Instant.read?_toText hproper] at h
      split at h
      · next j hj =>
          split at hj
          · next hyear =>
              obtain rfl := Option.some.inj hj
              refine .inr ⟨i.startOfDay, ?_, startOfDay_startOfDay i,
                (Except.ok.inj h).symm⟩
              rw [Instant.read?_toText hproper, if_pos hyear]
          · cases hj
      · cases h
  · next hread =>
      cases v with
      | null => exact .inl (Except.ok.inj h).symm
      | str s =>
          rw [Value.str?, Option.bind_some] at hread
          cases hblank : Text.isBlankText s with
          | true =>
              rw [ColumnType.coerce, hblank] at h
              exact .inl (Except.ok.inj h).symm
          | false =>
              rw [ColumnType.coerce_timestamp_of_not_blank hblank, hread] at h
              cases h
      | bool _ | int _ | float _ | arr _ | obj _ => cases h

end TableSpec

end TenantTables
