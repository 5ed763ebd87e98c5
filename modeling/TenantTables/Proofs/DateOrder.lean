import Mathlib.Order.Monotone.Basic
import TenantTables.Proofs.Calendar

/-!
# The calendar goes on as the days do

Dates are ordered by year, then by month, then by day, and counted days are in
the order of their dates.

Months are numbered through, from March of the year zero on, so that twelve of
them in a row end with a February. A month begins on the day behind the last day
of the month before it. Hence a day of a month is counted before any day of a
later one, and the numbers of the months are in the order of their names.
-/

namespace TenantTables.Time.Date

/-- Dates are ordered by year, then by month, then by day. -/
def order (d e : Date) : Ordering :=
  (compare d.year e.year).then
    ((compare d.month e.month).then (compare d.day e.day))

/-- The calendar has the date. -/
structure Exists (d : Date) : Prop where
  first : 1 ≤ d.day
  last : d.day ≤ daysInMonth d.year d.month

/-- Months since March of the year zero. -/
def monthIndex (year : Int) (month : Nat) : Int := 12 * year + month - 3

/-- The day that a month begins with. -/
def monthStart (i : Int) : Int :=
  let year := i / 12
  146097 * (year / 400) + 365 * (year % 400) + year % 400 / 4 -
    year % 400 / 100 +
    (153 * (i % 12) + 2) / 5 - 719468

variable {d e : Date}

theorem exists_ofDays (days : Int) : (ofDays days).Exists := by
  obtain ⟨-, -, hfirst, hlast⟩ := ofDays_exists days
  exact ⟨hfirst, hlast⟩

theorem Exists.month (h : d.Exists) : 1 ≤ d.month ∧ d.month ≤ 12 := by
  obtain ⟨hfirst, hlast⟩ := h
  unfold daysInMonth at hlast
  split at hlast
  · omega
  · split at hlast
    · omega
    · split at hlast <;> omega

theorem Exists.day_le (h : d.Exists) : d.day ≤ 31 := by
  have hlast := h.last
  unfold daysInMonth at hlast
  split at hlast
  · split at hlast <;> omega
  · split at hlast
    · omega
    · split at hlast <;> omega

/-! ## Months -/

/-- The year from March on in which a month lies, and its place there. -/
theorem monthIndex_cases (year : Int) {month : Nat}
    (h : 1 ≤ month ∧ month ≤ 12) :
    month ≤ 2 ∧ monthIndex year month / 12 = year - 1 ∧
      monthIndex year month % 12 = month + 9 ∨
      2 < month ∧ monthIndex year month / 12 = year ∧
        monthIndex year month % 12 = month - 3 := by
  unfold monthIndex
  omega

theorem toDays_eq (h : d.Exists) :
    d.toDays = monthStart (monthIndex d.year d.month) + d.day - 1 := by
  unfold toDays monthStart
  obtain ⟨hfront, hyear, hplace⟩ | ⟨hback, hyear, hplace⟩ :=
    monthIndex_cases d.year h.month
  · simp only [hyear, hplace, if_pos hfront]
    omega
  · simp only [hyear, hplace, if_neg (Nat.not_le.2 hback)]
    omega

/-- Counted from March, the second, the fourth, the seventh and the ninth month
have thirty days, and all others in front of February one more. -/
theorem daysBefore_nextMonth {m : Int} (h : 0 ≤ m ∧ m ≤ 10) :
    (153 * (m + 1) + 2) / 5 =
      (153 * m + 2) / 5 + if m = 1 ∨ m = 3 ∨ m = 6 ∨ m = 8 then 30 else 31 := by
  obtain rfl | rfl | rfl | rfl | rfl | rfl | rfl | rfl | rfl | rfl | rfl :
      m = 0 ∨ m = 1 ∨ m = 2 ∨ m = 3 ∨ m = 4 ∨ m = 5 ∨ m = 6 ∨ m = 7 ∨ m = 8 ∨
        m = 9 ∨ m = 10 := by
    omega
  all_goals decide

/-- The leap days of an era in front of a year. -/
theorem leapDays_eq (r : Int) :
    r / 4 - r / 100 = (r - 1) / 4 - (r - 1) / 100 +
      if r % 4 = 0 ∧ r % 100 ≠ 0 then 1 else 0 := by
  split <;> omega

/-- February is the last month of a year from March on, and has its leap day. -/
theorem monthStart_march (year : Int) :
    monthStart (12 * year) = monthStart (12 * (year - 1) + 11) +
      if isLeapYear year then 29 else 28 := by
  have hleap : isLeapYear year = true ↔
      year % 4 = 0 ∧ (year % 100 ≠ 0 ∨ year % 400 = 0) := by
    simp [isLeapYear]
  have hmarch : (12 * year) / 12 = year ∧ (12 * year) % 12 = 0 := by omega
  have hfebruary : (12 * (year - 1) + 11) / 12 = year - 1 ∧
      (12 * (year - 1) + 11) % 12 = 11 := by omega
  unfold monthStart
  simp only [hmarch, hfebruary, hleap]
  -- the last February of an era always has one, whatever its century says
  by_cases hera : year % 400 = 0
  · have hbefore : (year - 1) / 400 = year / 400 - 1 ∧
        (year - 1) % 400 = 399 := by omega
    rw [hbefore.1, hbefore.2, if_pos (by omega), hera]
    omega
  · have hbefore : (year - 1) / 400 = year / 400 ∧
        (year - 1) % 400 = year % 400 - 1 := by omega
    have hdays := leapDays_eq (year % 400)
    rw [hbefore.1, hbefore.2]
    split at hdays <;> split <;> omega

/-- The months follow each other without gaps. -/
theorem monthStart_succ (year : Int) {month : Nat}
    (h : 1 ≤ month ∧ month ≤ 12) :
    monthStart (monthIndex year month + 1) =
      monthStart (monthIndex year month) + daysInMonth year month := by
  by_cases hfebruary : month = 2
  · have hmarch : monthIndex year month + 1 = 12 * year := by
      unfold monthIndex
      omega
    have hindex : monthIndex year month = 12 * (year - 1) + 11 := by
      unfold monthIndex
      omega
    rw [hmarch, hindex, monthStart_march, daysInMonth, if_pos hfebruary]
    split <;> rfl
  · have hcases := monthIndex_cases year h
    generalize monthIndex year month = i at *
    have hyear : (i + 1) / 12 = i / 12 := by omega
    have hplace : (i + 1) % 12 = i % 12 + 1 := by omega
    unfold monthStart daysInMonth
    simp only [hyear, hplace, if_neg hfebruary, if_pos h]
    rw [daysBefore_nextMonth (by omega)]
    split <;> split <;> omega

theorem monthStart_lt_succ (i : Int) : monthStart i < monthStart (i + 1) := by
  have hmonth : 1 ≤ ((i + 2) % 12).toNat + 1 ∧
      ((i + 2) % 12).toNat + 1 ≤ 12 := by omega
  have hindex : monthIndex ((i + 2) / 12) (((i + 2) % 12).toNat + 1) = i := by
    unfold monthIndex
    omega
  have hsucc := monthStart_succ ((i + 2) / 12) hmonth
  rw [hindex] at hsucc
  have hdays : 0 < daysInMonth ((i + 2) / 12) (((i + 2) % 12).toNat + 1) := by
    unfold daysInMonth
    rw [if_pos hmonth]
    split
    · split <;> omega
    · split <;> omega
  omega

theorem monthStart_mono {i j : Int} (h : i ≤ j) : monthStart i ≤ monthStart j :=
  monotone_int_of_le_succ (fun i => Int.le_of_lt (monthStart_lt_succ i)) h

/-! ## Dates -/

/-- The years and months of two dates stand as the numbers of
their months do. -/
theorem order_eq_lt_iff (hd : d.Exists) (he : e.Exists) :
    d.order e = .lt ↔
      monthIndex d.year d.month < monthIndex e.year e.month ∨
        monthIndex d.year d.month = monthIndex e.year e.month ∧
        d.day < e.day := by
  have hdmonth := hd.month
  have hemonth := he.month
  rw [order, Ordering.then_eq_lt, Ordering.then_eq_lt, Int.compare_eq_lt,
    Nat.compare_eq_lt, Nat.compare_eq_lt, Std.compare_eq_iff_eq,
    Std.compare_eq_iff_eq]
  unfold monthIndex
  omega

theorem order_eq_eq_iff : d.order e = .eq ↔ d = e := by
  obtain ⟨year, month, day⟩ := d
  obtain ⟨year', month', day'⟩ := e
  simp [order, Ordering.then_eq_eq]

theorem order_swap (d e : Date) : e.order d = (d.order e).swap := by
  simp only [order, Ordering.swap_then]
  rw [Int.compare_swap, Nat.compare_swap, Nat.compare_swap]

/-- An earlier date has fewer days in front of it. -/
theorem toDays_lt_of_order (hd : d.Exists) (he : e.Exists)
    (h : d.order e = .lt) :
    d.toDays < e.toDays := by
  have hlast := hd.last
  have hfirst := he.first
  have hnext := monthStart_succ d.year hd.month
  rw [toDays_eq hd, toDays_eq he]
  obtain hless | ⟨heq, hday⟩ := (order_eq_lt_iff hd he).1 h
  · have hmonth : monthStart (monthIndex d.year d.month + 1) ≤
        monthStart (monthIndex e.year e.month) := monthStart_mono hless
    omega
  · rw [heq]
    omega

/-- The dates of the calendar are in the order of their days. -/
theorem order_eq_compare_toDays (hd : d.Exists) (he : e.Exists) :
    d.order e = compare d.toDays e.toDays := by
  cases h : d.order e with
  | lt => exact (Int.compare_eq_lt.2 (toDays_lt_of_order hd he h)).symm
  | eq =>
      rw [order_eq_eq_iff.1 h]
      exact Std.compare_self.symm
  | gt =>
      have hswap : e.order d = .lt := by
        rw [order_swap, h]
        rfl
      exact (Int.compare_eq_gt.2 (toDays_lt_of_order he hd hswap)).symm

/-- Counted days are in the order of their dates. -/
theorem order_ofDays (m n : Int) :
    (ofDays m).order (ofDays n) = compare m n := by
  rw [order_eq_compare_toDays (exists_ofDays m) (exists_ofDays n),
    toDays_ofDays, toDays_ofDays]

end TenantTables.Time.Date
