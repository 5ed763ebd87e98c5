import Mathlib.Algebra.Group.Nat.Defs
import Mathlib.Data.List.Basic
import Mathlib.Data.List.TakeWhile
import TenantTables.Proofs.Calendar
import TenantTables.Proofs.DigitText
import TenantTables.Proofs.TextCutting
import TenantTables.Time.Reading

/-!
# Which timestamps come back from their texts

A timestamp is stored as its text and read again whenever it is compared. The
strict notation gives a year four digits and no sign, and the lenient ones know
no `T` between the date and the time of day. So the text of an instant in one of
the years from 0 to 9999 is read as that instant, and the text of any other
instant is no timestamp at all.

Whatever is read as a timestamp has a digit with a hyphen behind it, by which
other texts are told apart from timestamps.
-/

namespace TenantTables

namespace Time

open Text (WritesNumber decimalValue_eq decimalValue_lt isAsciiDigit_eq)
open TenantTables.Number (tenTo)

variable {cs rest : List Char} {n width : Nat}

/-! ## Numbers with zeros in front -/

theorem writesNumber_padded (width n : Nat) :
    WritesNumber (Instant.padded width n).toList n := by
  have hlist : (Instant.padded width n).toList =
      List.replicate (width - (toString n).toList.length) '0' ++
        Nat.toDigits 10 n := by
    rw [Instant.padded, String.toList_ofList, Nat.toString_eq_repr,
      Nat.toList_repr]
  refine ⟨fun c hc => ?_, ?_⟩
  · rw [hlist, List.mem_append] at hc
    rcases hc with hzero | hdigit
    · rw [List.eq_of_mem_replicate hzero]
      rfl
    · rw [isAsciiDigit_eq]
      exact Nat.isDigit_of_mem_toDigits (by decide) (by decide) hdigit
  · rw [decimalValue_eq, hlist, Nat.ofDigitChars_append,
      Nat.ofDigitChars_replicate_zero, Nat.mul_zero,
      Nat.ofDigitChars_ten_toDigits]

theorem length_padded (hwidth : 0 < width) (h : n < 10 ^ width) :
    (Instant.padded width n).toList.length = width := by
  have hdigits : (toString n).toList.length ≤ width := by
    rw [Nat.toString_eq_repr, Nat.toList_repr]
    exact (Nat.length_toDigits_le_iff (by decide) hwidth).2 h
  rw [Instant.padded, String.toList_ofList, List.length_append,
    List.length_replicate]
  omega

theorem padded_ne_nil (width n : Nat) :
    (Instant.padded width n).toList ≠ [] := by
  rw [Instant.padded, String.toList_ofList, Nat.toString_eq_repr,
    Nat.toList_repr]
  exact List.append_ne_nil_of_right_ne_nil _ Nat.toDigits_ne_nil

theorem readFixed_append (h : WritesNumber cs n) (hlength : cs.length = width) :
    readFixed width (cs ++ rest) = some (n, rest) := by
  have htake : (cs ++ rest).take width = cs := by
    rw [← hlength, List.take_left]
  have hdrop : (cs ++ rest).drop width = rest := by
    rw [← hlength, List.drop_left]
  simp only [readFixed, htake, hdrop]
  rw [if_pos ⟨hlength, List.all_eq_true.2 h.digits⟩, h.value]

theorem readFixed_padded (hwidth : 0 < width) (h : n < 10 ^ width)
    (rest : List Char) :
    readFixed width ((Instant.padded width n).toList ++ rest) =
      some (n, rest) :=
  readFixed_append (writesNumber_padded width n) (length_padded hwidth h)

/-- The digits in front of something that is no digit. -/
theorem takeWhile_digits {c : Char} (h : WritesNumber cs n)
    (hc : Text.isAsciiDigit c = false) :
    (cs ++ c :: rest).takeWhile Text.isAsciiDigit = cs := by
  rw [List.takeWhile_append_of_pos h.digits, List.takeWhile_cons, hc]
  exact List.append_nil cs

theorem isBlank_of_digit {c : Char} (h : Text.isAsciiDigit c = true) :
    Text.isBlank c = false := by
  rw [Text.isAsciiDigit, Bool.and_eq_true, decide_eq_true_eq, decide_eq_true_eq]
    at h
  obtain ⟨hlow, hhigh⟩ := h
  have hlow : 48 ≤ c.toNat := hlow
  have hhigh : c.toNat ≤ 57 := hhigh
  simp only [Text.isBlank, Bool.or_eq_false_iff, Bool.and_eq_false_iff,
    decide_eq_false_iff_not, beq_eq_false_iff_ne]
  omega

theorem dropLeadingBlanks_digits (h : WritesNumber cs n) (hne : cs ≠ []) :
    Text.dropLeadingBlanks (cs ++ rest) = cs ++ rest := by
  obtain ⟨c, cs, rfl⟩ := List.exists_cons_of_ne_nil hne
  have hblank := isBlank_of_digit (h.digits c List.mem_cons_self)
  rw [Text.dropLeadingBlanks, List.cons_append, List.dropWhile_cons, hblank,
    if_neg Bool.false_ne_true]

theorem readShort_padded (hwidth : 0 < width) (h : n < 10 ^ width)
    (rest : List Char) :
    readShort width ((Instant.padded width n).toList ++ rest) =
      some (n, rest) := by
  have hwrites := writesNumber_padded width n
  have hne := padded_ne_nil width n
  have htake : ((Instant.padded width n).toList ++ rest).take width =
      (Instant.padded width n).toList :=
    List.take_left' (length_padded hwidth h)
  have hall : (Instant.padded width n).toList.takeWhile Text.isAsciiDigit =
      (Instant.padded width n).toList :=
    List.takeWhile_eq_self_iff.2 hwrites.digits
  simp only [readShort, dropLeadingBlanks_digits hwrites hne, htake, hall,
    List.isEmpty_eq_false_iff.2 hne, hwrites.value, List.drop_left,
    Bool.false_eq_true, if_false]

theorem readYear_signed {negative : Bool} {c : Char} (h : WritesNumber cs n)
    (hne : cs ≠ []) (hc : Text.isAsciiDigit c = false) :
    readYear ((if negative then '-' else '+') :: (cs ++ c :: rest)) =
      some (if negative then -(n : Int) else n, c :: rest) := by
  have hsigned : readYear.signedYear negative (cs ++ c :: rest) =
      some (if negative then -(n : Int) else n, c :: rest) := by
    simp only [readYear.signedYear, takeWhile_digits h hc, h.value,
      List.isEmpty_eq_false_iff.2 hne, List.drop_left, Bool.false_eq_true,
      if_false]
  cases negative <;> exact hsigned

theorem readFraction_append {c : Char} (h : WritesNumber cs n) (hne : cs ≠ [])
    (hlength : cs.length ≤ 9) (hc : Text.isAsciiDigit c = false) :
    readFraction (cs ++ c :: rest) =
      some (n * tenTo (9 - cs.length), c :: rest) := by
  simp only [readFraction, takeWhile_digits h hc,
    List.take_of_length_le hlength, h.value, List.isEmpty_eq_false_iff.2 hne,
    List.drop_left, Bool.false_eq_true, if_false]

/-! ## Instants that are read -/

namespace Instant

/-- What an instant has of a time of day: a fraction below two seconds, and a
fraction of a second or more only in the last second of a minute. -/
structure Proper (t : Instant) : Prop where
  nano_lt : t.nano < 2000000000
  leap : 1000000000 ≤ t.nano → t.second % 60 = 59

theorem proper_ofDate (d : Date) : (ofDate d).Proper :=
  ⟨Nat.zero_lt_succ _, fun h => absurd h (Nat.not_succ_le_zero _)⟩

theorem Proper.shift {t : Instant} {seconds : Int} (h : t.Proper)
    (hseconds : seconds % 60 = 0) :
    Proper ⟨t.second - seconds, t.nano⟩ := by
  refine ⟨h.nano_lt, fun hleap => ?_⟩
  have hsecond := h.leap hleap
  dsimp only
  omega

end Instant

theorem Clock.proper_on {hour minute second nano : Nat} {clock : Clock}
    (d : Date) (h : Clock.of? hour minute second nano = some clock)
    (hnano : nano < 1000000000) : (clock.on d).Proper := by
  unfold Clock.of? at h
  split at h
  · next hrange =>
      obtain rfl := Option.some.inj h
      unfold Clock.on Instant.ofFields
      constructor
      · dsimp only
        split <;> omega
      · dsimp only
        intro hleap
        split at hleap
        · next hsixty =>
            rw [if_pos hsixty]
            omega
        · omega
  · cases h

theorem nano_of_readFraction {nano : Nat}
    (h : readFraction cs = some (nano, rest)) :
    nano < 1000000000 := by
  unfold readFraction at h
  dsimp only at h
  split at h
  · cases h
  · obtain ⟨rfl, -⟩ := Prod.mk.inj (Option.some.inj h)
    have hlength : ((cs.takeWhile Text.isAsciiDigit).take 9).length ≤ 9 :=
      List.length_take_le _ _
    have hdigits : ∀ c ∈ (cs.takeWhile Text.isAsciiDigit).take 9,
        Text.isAsciiDigit c = true :=
      fun c hc => List.mem_takeWhile_imp (List.mem_of_mem_take hc)
    calc
      _ < 10 ^ ((cs.takeWhile Text.isAsciiDigit).take 9).length *
          10 ^ (9 - ((cs.takeWhile Text.isAsciiDigit).take 9).length) :=
        Nat.mul_lt_mul_of_pos_right (decimalValue_lt hdigits)
          (Nat.pow_pos (by decide))
      _ = 10 ^ 9 := by rw [← Nat.pow_add, Nat.add_sub_cancel' hlength]

theorem offset_of_readOffset {offset : Int}
    (h : readOffset cs = some (offset, rest)) :
    offset % 60 = 0 := by
  cases cs with
  | nil => cases h
  | cons c cs =>
      simp only [readOffset] at h
      split at h
      · obtain ⟨rfl, -⟩ := Prod.mk.inj (Option.some.inj h)
        rfl
      · split at h
        · obtain ⟨⟨hours, r⟩, -, h⟩ := Option.bind_eq_some_iff.1 h
          obtain ⟨r, -, h⟩ := Option.bind_eq_some_iff.1 h
          obtain ⟨⟨minutes, r⟩, -, h⟩ := Option.bind_eq_some_iff.1 h
          dsimp only at h
          split at h
          · cases h
          · obtain ⟨rfl, -⟩ := Prod.mk.inj (Option.some.inj h)
            split <;> omega
        · cases h

/-- What the strict notation does behind the fraction. -/
def readEnd (date? : Option Date) (hour minute second nano : Nat)
    (cs : List Char) :
    Option Instant := do
  let (offset, rest) ← readOffset cs
  if !rest.isEmpty then none
  else
    let date ← date?
    let clock ← Clock.of? hour minute second nano
    let t := clock.on date
    some ⟨t.second - offset, t.nano⟩

theorem proper_of_readEnd {date? : Option Date} {hour minute second nano : Nat}
    {t : Instant} (hnano : nano < 1000000000)
    (h : readEnd date? hour minute second nano cs = some t) :
    t.Proper := by
  obtain ⟨⟨offset, r⟩, hoffset, h⟩ := Option.bind_eq_some_iff.1 h
  dsimp only at h
  split at h
  · cases h
  · obtain ⟨date, -, h⟩ := Option.bind_eq_some_iff.1 h
    obtain ⟨clock, hclock, h⟩ := Option.bind_eq_some_iff.1 h
    obtain rfl := Option.some.inj h
    exact (Clock.proper_on date hclock hnano).shift
      (offset_of_readOffset hoffset)

theorem proper_of_readStrict? {t : Instant}
    (h : readStrict? cs = some t) : t.Proper := by
  simp only [readStrict?] at h
  obtain ⟨⟨year, r⟩, -, h⟩ := Option.bind_eq_some_iff.1 h
  obtain ⟨r, -, h⟩ := Option.bind_eq_some_iff.1 h
  obtain ⟨⟨month, r⟩, -, h⟩ := Option.bind_eq_some_iff.1 h
  obtain ⟨r, -, h⟩ := Option.bind_eq_some_iff.1 h
  obtain ⟨⟨day, r⟩, -, h⟩ := Option.bind_eq_some_iff.1 h
  obtain ⟨r, -, h⟩ := Option.bind_eq_some_iff.1 h
  obtain ⟨⟨hour, r⟩, -, h⟩ := Option.bind_eq_some_iff.1 h
  obtain ⟨r, -, h⟩ := Option.bind_eq_some_iff.1 h
  obtain ⟨⟨minute, r⟩, -, h⟩ := Option.bind_eq_some_iff.1 h
  obtain ⟨r, -, h⟩ := Option.bind_eq_some_iff.1 h
  obtain ⟨⟨second, r⟩, -, h⟩ := Option.bind_eq_some_iff.1 h
  dsimp only at h
  split at h
  · obtain ⟨⟨nano, r⟩, hnano, h⟩ := Option.bind_eq_some_iff.1 h
    exact proper_of_readEnd (nano_of_readFraction hnano) h
  · exact proper_of_readEnd (Nat.zero_lt_succ _) h

theorem proper_of_readDateTime? {t : Instant}
    (h : readDateTime? cs = some t) : t.Proper := by
  simp only [readDateTime?] at h
  obtain ⟨⟨date, r⟩, -, h⟩ := Option.bind_eq_some_iff.1 h
  obtain ⟨⟨hour, r⟩, -, h⟩ := Option.bind_eq_some_iff.1 h
  obtain ⟨r, -, h⟩ := Option.bind_eq_some_iff.1 h
  obtain ⟨⟨minute, r⟩, -, h⟩ := Option.bind_eq_some_iff.1 h
  obtain ⟨r, -, h⟩ := Option.bind_eq_some_iff.1 h
  obtain ⟨⟨second, r⟩, -, h⟩ := Option.bind_eq_some_iff.1 h
  obtain ⟨clock, hclock, h⟩ := Option.bind_eq_some_iff.1 h
  dsimp only at h
  split at h
  · obtain rfl := Option.some.inj h
    exact Clock.proper_on date hclock (by decide)
  · cases h

theorem proper_of_readDay? {t : Instant}
    (h : readDay? cs = some t) : t.Proper := by
  simp only [readDay?] at h
  obtain ⟨⟨date, r⟩, -, h⟩ := Option.bind_eq_some_iff.1 h
  dsimp only at h
  split at h
  · obtain rfl := Option.some.inj h
    exact Instant.proper_ofDate date
  · cases h

/-- The notations in which a timestamp can be read. -/
theorem Instant.read?_eq_some {s : String} {t : Instant}
    (h : read? s = some t) :
    Time.readStrict? (Text.trimChars s.toList) = some t ∨
      readDateTime? (Text.trimChars s.toList) = some t ∨
        readDay? (Text.trimChars s.toList) = some t := by
  rw [read?, Option.or_eq_some_iff, Option.or_eq_some_iff] at h
  obtain hstrict | ⟨-, htime | ⟨-, hday⟩⟩ := h
  · exact .inl hstrict
  · exact .inr (.inl htime)
  · exact .inr (.inr hday)

theorem Instant.proper_of_read? {s : String} {t : Instant}
    (h : read? s = some t) : t.Proper := by
  obtain hstrict | htime | hday := read?_eq_some h
  · exact proper_of_readStrict? hstrict
  · exact proper_of_readDateTime? htime
  · exact proper_of_readDay? hday

/-! ## The text of an instant -/

namespace Instant

variable {t : Instant}

/-- The number of the second in its minute, sixty in a leap second. -/
def clockSecond (t : Instant) : Nat :=
  if 1000000000 ≤ t.nano then t.secondOfDay % 60 + 1 else t.secondOfDay % 60

/-- The fraction of the second. -/
def clockNano (t : Instant) : Nat :=
  if 1000000000 ≤ t.nano then t.nano - 1000000000 else t.nano

/-- The offset of UTC. -/
def utcOffset : List Char := ['+', '0', '0', ':', '0', '0']

theorem toList_toText (t : Instant) :
    t.toText.toList =
      (yearText t.date.year).toList ++ '-' :: ((padded 2 t.date.month).toList ++
      '-' :: ((padded 2 t.date.day).toList ++
        'T' :: ((padded 2 (t.secondOfDay / 3600)).toList ++
        ':' :: ((padded 2 (t.secondOfDay / 60 % 60)).toList ++ ':' ::
          ((padded 2 t.clockSecond).toList ++
            ((fractionText t.clockNano).toList ++ utcOffset)))))) := by
  have hyphen : "-".toList = ['-'] := rfl
  have colon : ":".toList = [':'] := rfl
  have letter : "T".toList = ['T'] := rfl
  have offset : "+00:00".toList = utcOffset := rfl
  simp only [toText, clockSecond, clockNano, String.toList_append,
    List.append_assoc, hyphen, colon, letter, offset, List.cons_append,
    List.nil_append]

end Instant

/-- A reading goes on with what its first step has found. -/
theorem bind_of_eq_some {α β : Type} {o : Option α} {a : α} {f : α → Option β}
    {r : Option β} (ho : o = some a) (hf : f a = r) : (o >>= f) = r := by
  rw [ho]
  exact hf

theorem expect_cons (c : Char) (cs : List Char) :
    expect c (c :: cs) = some cs := if_pos rfl

theorem readOffset_utcOffset :
    readOffset Instant.utcOffset = some (0, []) := by decide

/-- What stands between the seconds and the offset is the fraction. -/
theorem readFraction_fractionText {nano : Nat} (h : nano ≠ 0)
    (hnano : nano < 1000000000) :
    ∃ digits, (Instant.fractionText nano).toList = '.' :: digits ∧
      readFraction (digits ++ Instant.utcOffset) =
        some (nano, Instant.utcOffset) := by
  have hread : ∀ width m, 0 < width → width ≤ 9 → m < 10 ^ width →
      m * 10 ^ (9 - width) = nano →
      ∃ digits, ("." ++ Instant.padded width m).toList = '.' :: digits ∧
        readFraction (digits ++ Instant.utcOffset) =
          some (nano, Instant.utcOffset) := by
    intro width m hwidth hnine hm hvalue
    have hlength := length_padded hwidth hm
    have point : ".".toList = ['.'] := rfl
    refine ⟨(Instant.padded width m).toList, ?_, ?_⟩
    · rw [String.toList_append, point, List.singleton_append]
    · rw [Instant.utcOffset, readFraction_append (writesNumber_padded width m)
        (padded_ne_nil width m) (hlength.trans_le hnine) (by decide), hlength,
        tenTo, Nat.pow_eq, hvalue]
  unfold Instant.fractionText
  rw [if_neg h]
  split
  · exact hread 3 (nano / 1000000) (by decide) (by decide) (by omega) (by omega)
  · split
    · exact hread 6 (nano / 1000) (by decide) (by decide) (by omega) (by omega)
    · exact hread 9 nano (by decide) (by decide) (by omega) (by omega)

namespace Instant

variable {t : Instant}

theorem secondOfDay_lt (t : Instant) : t.secondOfDay < 86400 := by
  unfold secondOfDay
  omega

theorem date_lt (t : Instant) :
    t.date.month < 10 ^ 2 ∧ t.date.day < 10 ^ 2 := by
  obtain ⟨-, hmonth, -, hday⟩ := Date.ofDays_exists (t.second / 86400)
  have hlast : ∀ year month, Date.daysInMonth year month ≤ 31 :=
    fun year month => by
    unfold Date.daysInMonth
    split
    · split <;> decide
    · split
      · decide
      · split <;> decide
  exact ⟨Nat.lt_of_le_of_lt hmonth (by decide),
    Nat.lt_of_le_of_lt (Nat.le_trans hday (hlast _ _)) (by decide)⟩

theorem of?_date (hyear : 0 ≤ t.date.year ∧ t.date.year ≤ 9999) :
    Date.of? t.date.year.toNat t.date.month t.date.day = some t.date := by
  obtain ⟨-, -, hday, hlast⟩ := Date.ofDays_exists (t.second / 86400)
  have hrange : Date.minYear ≤ t.date.year ∧ t.date.year ≤ Date.maxYear := by
    unfold Date.minYear Date.maxYear
    omega
  rw [Int.toNat_of_nonneg hyear.1, Date.of?,
    if_pos ⟨hrange.1, hrange.2, hday, hlast⟩]

theorem clockSecond_le (t : Instant) : t.clockSecond ≤ 60 := by
  unfold clockSecond
  split <;> omega

theorem clockNano_lt (h : t.Proper) : t.clockNano < 1000000000 := by
  have hnano := h.nano_lt
  unfold clockNano
  split <;> omega

theorem clock_of? (t : Instant) :
    Clock.of? (t.secondOfDay / 3600) (t.secondOfDay / 60 % 60) t.clockSecond
      t.clockNano =
      some ⟨t.secondOfDay / 3600, t.secondOfDay / 60 % 60, t.clockSecond,
        t.clockNano⟩ := by
  have hday := t.secondOfDay_lt
  exact if_pos ⟨by omega, by omega, t.clockSecond_le⟩

/-- The clock of an instant on its date shows the instant. -/
theorem on_date (h : t.Proper) :
    (⟨t.secondOfDay / 3600, t.secondOfDay / 60 % 60, t.clockSecond,
      t.clockNano⟩ : Clock).on t.date = t := by
  obtain ⟨second, nano⟩ := t
  obtain ⟨-, hleap⟩ := h
  unfold Clock.on ofFields date
  rw [Date.toDays_ofDays]
  dsimp only [clockSecond, clockNano, secondOfDay] at hleap ⊢
  by_cases hnano : 1000000000 ≤ nano
  · have hlast := hleap hnano
    have hsixty : (second % 86400).toNat % 60 + 1 = 60 := by omega
    simp only [hnano, if_true, hsixty]
    rw [Instant.mk.injEq]
    constructor <;> omega
  · have hbefore : (second % 86400).toNat % 60 ≠ 60 := by omega
    simp only [hnano, if_false, hbefore]
    rw [Instant.mk.injEq]
    constructor <;> omega

theorem readEnd_utcOffset (h : t.Proper)
    (hyear : 0 ≤ t.date.year ∧ t.date.year ≤ 9999) :
    readEnd (Date.of? t.date.year.toNat t.date.month t.date.day)
      (t.secondOfDay / 3600)
      (t.secondOfDay / 60 % 60) t.clockSecond t.clockNano
        utcOffset = some t := by
  refine bind_of_eq_some readOffset_utcOffset ?_
  refine bind_of_eq_some (of?_date hyear) (bind_of_eq_some (clock_of? t) ?_)
  rw [on_date h]
  dsimp only
  rw [Int.sub_zero]

theorem readStrict?_toText (h : t.Proper)
    (hyear : 0 ≤ t.date.year ∧ t.date.year ≤ 9999) :
    Time.readStrict? t.toText.toList = some t := by
  obtain ⟨hmonth, hday⟩ := date_lt t
  have htime := t.secondOfDay_lt
  have hsecond := t.clockSecond_le
  have hnano := clockNano_lt h
  have hyears : t.date.year.toNat < 10 ^ 4 := by omega
  have hhours : t.secondOfDay / 3600 < 10 ^ 2 := by omega
  have hminutes : t.secondOfDay / 60 % 60 < 10 ^ 2 := by omega
  have hseconds : t.clockSecond < 10 ^ 2 := by omega
  have hfour : 0 < 4 := by decide
  have htwo : 0 < 2 := by decide
  rw [toList_toText, yearText, if_pos hyear, Time.readStrict?]
  refine bind_of_eq_some (readFixed_padded hfour hyears _)
    (bind_of_eq_some (expect_cons _ _) ?_)
  refine bind_of_eq_some (readFixed_padded htwo hmonth _)
    (bind_of_eq_some (expect_cons _ _) ?_)
  refine bind_of_eq_some (readFixed_padded htwo hday _) ?_
  refine bind_of_eq_some (by rw [expect_cons, Option.some_or]) ?_
  refine bind_of_eq_some (readFixed_padded htwo hhours _)
    (bind_of_eq_some (expect_cons _ _) ?_)
  refine bind_of_eq_some (readFixed_padded htwo hminutes _)
    (bind_of_eq_some (expect_cons _ _) ?_)
  refine bind_of_eq_some (readFixed_padded htwo hseconds _) ?_
  by_cases hzero : t.clockNano = 0
  · have hempty : (fractionText t.clockNano).toList = [] := by
      rw [hzero]
      rfl
    have hend := readEnd_utcOffset h hyear
    rw [hzero] at hend
    rw [hempty, List.nil_append]
    exact hend
  · obtain ⟨digits, htext, hread⟩ := readFraction_fractionText hzero hnano
    rw [htext, List.cons_append]
    exact bind_of_eq_some hread (readEnd_utcOffset h hyear)

/-- A lenient notation reads the date of a text with a signed year, and meets
the `T` behind it. -/
theorem readDate_signed {negative : Bool} {year month day : Nat}
    (hmonth : month < 10 ^ 2) (hday : day < 10 ^ 2) (clock : List Char) :
    readDate
      ((if negative then '-' else '+') :: ((padded 4 year).toList ++ '-' ::
        ((padded 2 month).toList ++
          '-' :: ((padded 2 day).toList ++ 'T' :: clock)))) =
      (Date.of? (if negative then -(year : Int) else year) month day).map
        (·, 'T' :: clock) := by
  have htwo : 0 < 2 := by decide
  have hhyphen : Text.isAsciiDigit '-' = false := rfl
  simp only [readDate,
    readYear_signed (writesNumber_padded 4 year) (padded_ne_nil 4 year) hhyphen,
    readShort_padded htwo hmonth, readShort_padded htwo hday, expect_cons,
    Option.bind_eq_bind, Option.bind_some]
  rw [Option.map_eq_bind]
  rfl

/-- The text of another year begins with a sign, which is not strict. -/
theorem not_read_toText (hyear : ¬ (0 ≤ t.date.year ∧ t.date.year ≤ 9999)) :
    Time.readStrict? t.toText.toList = none ∧
      readDateTime? t.toText.toList = none ∧
      readDay? t.toText.toList = none := by
  obtain ⟨hmonth, hday⟩ := date_lt t
  obtain ⟨negative, hsign⟩ : ∃ negative : Bool,
      (if t.date.year < 0 then "-" else "+").toList =
        [if negative then '-' else '+'] := by
    by_cases hnegative : t.date.year < 0
    · exact ⟨true, by rw [if_pos hnegative]; rfl⟩
    · exact ⟨false, by rw [if_neg hnegative]; rfl⟩
  rw [toList_toText, yearText, if_neg hyear, String.toList_append, hsign,
    List.singleton_append, List.cons_append]
  generalize (padded 2 (t.secondOfDay / 3600)).toList ++ _ = clock
  refine ⟨?_, ?_, ?_⟩
  · have hfixed : ∀ rest,
        readFixed 4 ((if negative then '-' else '+') :: rest) = none := by
      intro rest
      cases negative <;>
        exact if_neg fun h => absurd h.2 (by simp [Text.isAsciiDigit])
    rw [Time.readStrict?, hfixed]
    rfl
  · simp only [readDateTime?, readDate_signed hmonth hday, Option.bind_eq_bind]
    cases Date.of? (if negative then -(t.date.year.natAbs : Int)
      else t.date.year.natAbs)
        t.date.month t.date.day with
    | none => rfl
    | some date => rfl
  · simp only [readDay?, readDate_signed hmonth hday, Option.bind_eq_bind]
    cases Date.of? (if negative then -(t.date.year.natAbs : Int)
      else t.date.year.natAbs)
        t.date.month t.date.day with
    | none => rfl
    | some date => rfl

/-- There is no white space at the ends of the text. -/
theorem trimChars_toText (t : Instant) :
    Text.trimChars t.toText.toList = t.toText.toList := by
  refine Text.trimChars_eq_self (fun c hc => ?_) (fun c hc => ?_)
  · have hpadded : ∀ n rest, c ∈ ((padded 4 n).toList ++ rest).head? →
        Text.isBlank c = false := by
      intro n rest hc
      rw [List.head?_append_of_ne_nil _ (padded_ne_nil 4 n)] at hc
      exact isBlank_of_digit
        ((writesNumber_padded 4 n).digits c (List.mem_of_mem_head? hc))
    rw [toList_toText, yearText] at hc
    split at hc
    · exact hpadded _ _ hc
    · rw [String.toList_append] at hc
      split at hc <;> (obtain rfl := Option.some.inj hc; rfl)
  · obtain ⟨front, hfront⟩ : ∃ front : String, t.toText = front ++ "+00:00" :=
      ⟨_, rfl⟩
    rw [hfront, String.toList_append,
      List.getLast?_append_of_ne_nil _ (by decide)] at hc
    obtain rfl := Option.some.inj hc
    rfl

/-- The text of an instant in one of the years from 0 to 9999 is read as the
instant, and that of any other instant is no timestamp. -/
theorem read?_toText (h : t.Proper) :
    read? t.toText = if 0 ≤ t.date.year ∧ t.date.year ≤ 9999 then some t
      else none := by
  rw [read?, trimChars_toText]
  split
  · next hyear => rw [readStrict?_toText h hyear, Option.some_or]
  · next hyear =>
      obtain ⟨hstrict, htime, hday⟩ := not_read_toText hyear
      rw [hstrict, htime, hday]
      rfl

end Instant

/-! ## What every timestamp has -/

/-- The text that remains behind a digit. -/
def BehindDigit (cs rest : List Char) : Prop :=
  ∃ front d, Text.isAsciiDigit d = true ∧ cs = front ++ d :: rest

theorem BehindDigit.of_suffix {ds : List Char} (h : BehindDigit cs rest)
    (hsuffix : cs <:+ ds) :
    BehindDigit ds rest := by
  obtain ⟨front, d, hd, rfl⟩ := h
  obtain ⟨before, rfl⟩ := hsuffix
  exact ⟨before ++ front, d, hd, (List.append_assoc _ _ _).symm⟩

theorem behindDigit_drop {digits : List Char} (hstart : digits <+: cs)
    (hne : digits ≠ []) (hdigits : ∀ c ∈ digits, Text.isAsciiDigit c = true) :
    BehindDigit cs (cs.drop digits.length) := by
  obtain ⟨rest, rfl⟩ := hstart
  obtain hnil | ⟨front, d, rfl⟩ := List.eq_nil_or_concat' digits
  · exact absurd hnil hne
  · refine ⟨front, d,
      hdigits d (List.mem_append_right _ List.mem_cons_self), ?_⟩
    rw [List.drop_left, List.append_assoc, List.singleton_append]

theorem behindDigit_of_readFixed {m : Nat}
    (h : readFixed width cs = some (m, rest)) (hwidth : width ≠ 0) :
    BehindDigit cs rest := by
  unfold readFixed at h
  dsimp only at h
  split at h
  · next hdigits =>
      obtain ⟨-, rfl⟩ := Prod.mk.inj (Option.some.inj h)
      obtain ⟨hlength, hall⟩ := hdigits
      have hdrop := behindDigit_drop (List.take_prefix width cs)
        (fun hnil => hwidth (by rw [← hlength, hnil]; rfl))
        (List.all_eq_true.1 hall)
      rwa [hlength] at hdrop
  · cases h

theorem behindDigit_of_readShort {m : Nat}
    (h : readShort width cs = some (m, rest)) :
    BehindDigit cs rest := by
  unfold readShort at h
  dsimp only at h
  split at h
  · cases h
  · next hne =>
      obtain ⟨-, rfl⟩ := Prod.mk.inj (Option.some.inj h)
      have hstart := (List.takeWhile_prefix Text.isAsciiDigit).trans
        (List.take_prefix width (Text.dropLeadingBlanks cs))
      exact (behindDigit_drop hstart (fun hnil => hne (List.isEmpty_iff.2 hnil))
        fun c hc =>
          List.mem_takeWhile_imp hc).of_suffix (List.dropWhile_suffix _)

theorem behindDigit_of_signedYear {negative : Bool} {year : Int}
    (h : readYear.signedYear negative cs = some (year, rest)) :
    BehindDigit cs rest := by
  unfold readYear.signedYear at h
  dsimp only at h
  split at h
  · cases h
  · next hne =>
      obtain ⟨-, rfl⟩ := Prod.mk.inj (Option.some.inj h)
      exact behindDigit_drop (List.takeWhile_prefix _) (fun hnil =>
        hne (List.isEmpty_iff.2 hnil))
        fun c hc => List.mem_takeWhile_imp hc

theorem behindDigit_of_readYear {year : Int}
    (h : readYear cs = some (year, rest)) :
    BehindDigit cs rest := by
  have hblanks : Text.dropLeadingBlanks cs <:+ cs := List.dropWhile_suffix _
  unfold readYear at h
  split at h
  · next signed heq =>
      rw [heq] at hblanks
      exact (behindDigit_of_signedYear h).of_suffix
        ((List.suffix_cons _ _).trans hblanks)
  · next signed heq =>
      rw [heq] at hblanks
      exact (behindDigit_of_signedYear h).of_suffix
        ((List.suffix_cons _ _).trans hblanks)
  · obtain ⟨⟨m, r⟩, hshort, heq⟩ := Option.map_eq_some_iff.1 h
    obtain ⟨-, rfl⟩ := Prod.mk.inj heq
    exact (behindDigit_of_readShort hshort).of_suffix hblanks

/-- A hyphen stands somewhere behind a digit. -/
def HyphenBehindDigit (cs : List Char) : Prop :=
  ∃ d, Text.isAsciiDigit d = true ∧ [d, '-'] <:+: cs

theorem BehindDigit.hyphen {behind : List Char} (h : BehindDigit cs rest)
    (hexpect : expect '-' rest = some behind) : HyphenBehindDigit cs := by
  obtain ⟨front, d, hd, rfl⟩ := h
  cases rest with
  | nil => cases hexpect
  | cons c rest =>
      by_cases hc : c = '-'
      · rw [hc]
        exact ⟨d, hd, front, rest, by simp⟩
      · rw [expect, if_neg hc] at hexpect
        cases hexpect

theorem hyphenBehindDigit_of_readDate {found : Date × List Char}
    (h : readDate cs = some found) :
    HyphenBehindDigit cs := by
  simp only [readDate] at h
  obtain ⟨⟨year, r⟩, hyear, h⟩ := Option.bind_eq_some_iff.1 h
  obtain ⟨r', hexpect, -⟩ := Option.bind_eq_some_iff.1 h
  exact (behindDigit_of_readYear hyear).hyphen hexpect

/-- Every text that is read as a timestamp has a hyphen behind a digit. -/
theorem hyphenBehindDigit_of_read? {s : String} {t : Instant}
    (h : Instant.read? s = some t) :
    HyphenBehindDigit s.toList := by
  have htrimmed : HyphenBehindDigit (Text.trimChars s.toList) := by
    obtain hstrict | htime | hday := Instant.read?_eq_some h
    · simp only [readStrict?] at hstrict
      obtain ⟨⟨year, r⟩, hyear, hstrict⟩ := Option.bind_eq_some_iff.1 hstrict
      obtain ⟨r', hexpect, -⟩ := Option.bind_eq_some_iff.1 hstrict
      exact (behindDigit_of_readFixed hyear (by decide)).hyphen hexpect
    · simp only [readDateTime?] at htime
      obtain ⟨found, hdate, -⟩ := Option.bind_eq_some_iff.1 htime
      exact hyphenBehindDigit_of_readDate hdate
    · simp only [readDay?] at hday
      obtain ⟨found, hdate, -⟩ := Option.bind_eq_some_iff.1 hday
      exact hyphenBehindDigit_of_readDate hdate
  obtain ⟨d, hd, hwithin⟩ := htrimmed
  exact ⟨d, hd, hwithin.trans (Text.isInfix_trimChars s.toList)⟩

theorem Instant.read?_eq_none {s : String} (h : ¬ HyphenBehindDigit s.toList) :
    read? s = none :=
  Option.eq_none_iff_forall_ne_some.2 fun _ hread =>
    h (hyphenBehindDigit_of_read? hread)

end Time

end TenantTables
