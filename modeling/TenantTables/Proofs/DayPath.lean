import TenantTables.Audit.Event
import TenantTables.Proofs.DateOrder
import TenantTables.Proofs.NumberText
import TenantTables.Proofs.StoreInvariant

/-!
# Day paths list the newest day first

The path of a day ends in three numbers that count down the years, the months
and the days. They are written one behind the other, without leading zeros and
with nothing between them. A text that is compared with another one cannot tell
where a number of it ends, so the order of paths is the order of the numbers as
long as each of them has the same number of digits on every day: two for months
and days in any case, and four for the years from 0 to 8999.
-/

namespace TenantTables

/-! ## Paths of days -/

namespace Time.Instant

/-- The day of UTC that the instant lies in, counted from 1970-01-01. -/
def day (t : Instant) : Int := t.second / 86400

theorem exists_date (t : Instant) : t.date.Exists := Date.exists_ofDays t.day

theorem order_date (a b : Instant) :
    a.date.order b.date = Ord.compare a.day b.day :=
  Date.order_ofDays a.day b.day

theorem day_le_of_compare {a b : Instant}
    (h : a.compare b = .lt) : a.day ≤ b.day := by
  rw [Instant.compare, Ordering.then_eq_lt, Int.compare_eq_lt,
    Std.compare_eq_iff_eq] at h
  unfold day
  omega

end Time.Instant

namespace Audit

open Memory.Store (ordersOfAcme)
open Time (Instant Date)

/-- The digits that count down to a date. -/
def digitsDown (d : Date) : List Char :=
  Nat.toDigits 10 (9999 - d.year.toNat) ++
    (Nat.toDigits 10 (99 - d.month) ++ Nat.toDigits 10 (99 - d.day))

/-- The years that leave four digits when they are counted down. -/
def CountsDown (year : Int) : Prop := 0 ≤ year ∧ year ≤ 8999

instance (year : Int) : Decidable (CountsDown year) :=
  inferInstanceAs (Decidable (_ ∧ _))

variable {a b : Instant} {d e : Date}

theorem toList_dayPath (t : TableName) (h : CountsDown a.date.year) :
    (dayPath t a).toList =
      (t.physical ++ "/").toList ++
        (digitsDown a.date ++ "_revts.json".toList) := by
  obtain ⟨hlow, hhigh⟩ := h
  have hyear : (toString (9999 - a.date.year)).toList =
      Nat.toDigits 10 (9999 - a.date.year.toNat) := by
    rw [Number.toList_toString, if_neg (by omega)]
    congr 1
    omega
  simp only [dayPath, String.toList_append, Nat.toString_eq_repr,
    Nat.toList_repr, hyear, digitsDown, List.append_assoc]

/-- The numbers of a date that exists have four digits, two and two. -/
theorem digits_bounds (hd : d.Exists) (hyear : CountsDown d.year) :
    (10 ^ 3 ≤ 9999 - d.year.toNat ∧ 9999 - d.year.toNat < 10 ^ 4) ∧
      (10 ^ 1 ≤ 99 - d.month ∧ 99 - d.month < 10 ^ 2) ∧
        10 ^ 1 ≤ 99 - d.day ∧ 99 - d.day < 10 ^ 2 := by
  obtain ⟨hlow, hhigh⟩ := hyear
  obtain ⟨hfirst, hlast⟩ := hd.month
  have hday := hd.first
  have hday' := hd.day_le
  omega

theorem length_digitsDown (hd : d.Exists) (hyear : CountsDown d.year) :
    (digitsDown d).length = 8 := by
  obtain ⟨hyears, hmonths, hdays⟩ := digits_bounds hd hyear
  rw [digitsDown, List.length_append, List.length_append,
    Text.length_toDigits (by decide) hyears,
    Text.length_toDigits (by decide) hmonths,
    Text.length_toDigits (by decide) hdays]

/-- Dates stand the other way round than the digits that count down to them. -/
theorem orderChars_digitsDown (hd : d.Exists) (he : e.Exists)
    (hyd : CountsDown d.year) (hye : CountsDown e.year) :
    Text.orderChars (digitsDown d) (digitsDown e) = e.order d := by
  obtain ⟨hyears, hmonths, hdays⟩ := digits_bounds hd hyd
  obtain ⟨hyears', hmonths', hdays'⟩ := digits_bounds he hye
  obtain ⟨hlow, hhigh⟩ := hyd
  obtain ⟨hlow', hhigh'⟩ := hye
  have hyear : compare e.year.toNat d.year.toNat = compare e.year d.year :=
    Text.compare_congr (by omega) (by omega)
  rw [digitsDown, digitsDown,
    Text.orderChars_append (by
      rw [Text.length_toDigits (by decide) hyears,
        Text.length_toDigits (by decide) hyears']),
    Text.orderChars_append (by
      rw [Text.length_toDigits (by decide) hmonths,
        Text.length_toDigits (by decide) hmonths']),
    Text.orderChars_toDigits (by decide) hyears hyears',
    Text.orderChars_toDigits (by decide) hmonths hmonths',
    Text.orderChars_toDigits (by decide) hdays hdays',
    Text.compare_sub (by omega) (by omega),
    Text.compare_sub (by omega) (by omega),
    Text.compare_sub (by omega) (by omega), hyear, Date.order]

/-- Paths are in the opposite order of their days. -/
theorem order_dayPath (t : TableName) (ha : CountsDown a.date.year)
    (hb : CountsDown b.date.year) :
    Text.order (dayPath t a) (dayPath t b) = compare b.day a.day := by
  have hlength : (digitsDown a.date).length = (digitsDown b.date).length :=
    (length_digitsDown a.exists_date ha).trans
      (length_digitsDown b.exists_date hb).symm
  calc
    Text.order (dayPath t a) (dayPath t b)
      = (Text.orderChars (digitsDown a.date) (digitsDown b.date)).then .eq := by
        rw [Text.order, toList_dayPath t ha, toList_dayPath t hb,
          Text.orderChars_append_left, Text.orderChars_append hlength]
        rfl
    _ = b.date.order a.date := by
        rw [Ordering.then_eq,
          orderChars_digitsDown a.exists_date b.exists_date ha hb]
    _ = compare b.day a.day := b.order_date a

/-- Of two instants in these years, the path of the earlier one comes behind
that of the later one exactly if they lie in different days, and in one day the
path is the same. -/
theorem day_paths_sort_newest_first (t : TableName)
    (ha : CountsDown a.date.year) (hb : CountsDown b.date.year)
    (hab : a.compare b = .lt) :
    (Text.order (dayPath t a) (dayPath t b) = .gt ↔ a.day ≠ b.day) ∧
      (dayPath t a = dayPath t b ↔ a.day = b.day) := by
  have hday := Instant.day_le_of_compare hab
  have horder := order_dayPath t ha hb
  refine ⟨?_, fun hpath => ?_, fun hsame => ?_⟩
  · rw [horder, Int.compare_eq_gt]
    omega
  · have hself : Text.order (dayPath t b) (dayPath t b) = .eq :=
      Std.ReflCmp.compare_self
    rw [hpath, hself] at horder
    exact (Std.compare_eq_iff_eq.1 horder.symm).symm
  · have hdate : a.date = b.date := congrArg Date.ofDays hsame
    rw [dayPath, hdate, dayPath]

/-- The last second of 2023, and the second behind it. -/
theorem new_year_sorts_in_front :
    let lastSecond : Instant := ⟨1704067199, 0⟩
    let midnight : Instant := ⟨1704067200, 0⟩
    dayPath ordersOfAcme lastSecond = "acme$orders/79768768_revts.json" ∧
      dayPath ordersOfAcme midnight = "acme$orders/79759898_revts.json" ∧
        Text.order (dayPath ordersOfAcme lastSecond)
          (dayPath ordersOfAcme midnight) = .gt := by
  have hsorted :=
    day_paths_sort_newest_first ordersOfAcme (a := ⟨1704067199, 0⟩)
      (b := ⟨1704067200, 0⟩) (by decide) (by decide) (by decide)
  exact ⟨by cbv, by cbv, hsorted.1.2 (by decide)⟩

-- from the year 9000 on the first number has three digits, and the order breaks
example :
    dayPath ordersOfAcme ⟨221845391999, 0⟩ = "acme$orders/10008768_revts.json" ∧
    dayPath ordersOfAcme ⟨221845392000, 0⟩ =
      "acme$orders/9999898_revts.json" := by
  cbv

end Audit

end TenantTables
