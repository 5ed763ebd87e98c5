import TenantTables.Time.Date

/-!
# The calendar counts days without gaps

A day that is counted has a date, the calendar has that date, and its count is
the day again.

Four centuries are one era, and every era has the same days. Inside of an era a
day has four coordinates: its century, the group of four years within, the year
of the group and the day of the year, which begins in March. The last day of an
era breaks the pattern of centuries and the last day of a group that of years,
each being the leap day at the end of something, so the coordinates are not
found by division alone.
-/

namespace TenantTables.Time.Date

/-- The coordinates of a day within its era. -/
structure Place where
  century : Int
  group : Int
  year : Int
  day : Int

namespace Place

/-- The year of the era. -/
def yearOfEra (p : Place) : Int := 100 * p.century + 4 * p.group + p.year

/-- The day of the era. -/
def dayOfEra (p : Place) : Int :=
  36524 * p.century + 1461 * p.group + 365 * p.year + p.day

/-- The coordinates are in range. A year has a day more at the end of a group,
unless its century ends there and the era does not. -/
structure Exists (p : Place) : Prop where
  century : 0 ≤ p.century ∧ p.century ≤ 3
  group : 0 ≤ p.group ∧ p.group ≤ 24
  year : 0 ≤ p.year ∧ p.year ≤ 3
  day : 0 ≤ p.day ∧ p.day ≤ 365
  leap : p.day = 365 → p.year = 3 ∧ (p.group = 24 → p.century = 3)

/-- Every day of an era has its place. -/
theorem exists_of_dayOfEra {n : Int} (h : 0 ≤ n ∧ n < 146097) :
    ∃ p : Place, p.Exists ∧ p.dayOfEra = n := by
  let century := if n = 146096 then 3 else n / 36524
  let inCentury := n - 36524 * century
  let group := inCentury / 1461
  let inGroup := inCentury - 1461 * group
  let year := if inGroup = 1460 then 3 else inGroup / 365
  have hcentury : 0 ≤ century ∧ century ≤ 3 ∧ 0 ≤ inCentury ∧
      inCentury ≤ 36524 ∧
      (inCentury = 36524 → century = 3) := by
    simp only [inCentury, century]
    split <;> omega
  have hgroup : 0 ≤ group ∧ group ≤ 24 ∧ 0 ≤ inGroup ∧ inGroup ≤ 1460 := by
    simp only [inGroup, group]
    omega
  have hyear : 0 ≤ year ∧ year ≤ 3 ∧ 0 ≤ inGroup - 365 * year ∧
      inGroup - 365 * year ≤ 365 ∧
      (inGroup - 365 * year = 365 → year = 3 ∧ inGroup = 1460) := by
    simp only [year]
    split <;> omega
  refine ⟨⟨century, group, year, inGroup - 365 * year⟩,
    ⟨⟨hcentury.1, hcentury.2.1⟩, ⟨hgroup.1, hgroup.2.1⟩, ⟨hyear.1, hyear.2.1⟩,
      ⟨hyear.2.2.1, hyear.2.2.2.1⟩, fun hday => ?_⟩, ?_⟩
  · obtain ⟨hthird, hend⟩ := hyear.2.2.2.2 hday
    refine ⟨hthird, fun (hlast : group = 24) => hcentury.2.2.2.2 ?_⟩
    omega
  · simp only [dayOfEra]
    omega

variable {p : Place}

/-- The day of its century: the last one is there in the last century only. -/
theorem dayOfCentury_bounds (h : p.Exists) :
    0 ≤ 1461 * p.group + 365 * p.year + p.day ∧
      1461 * p.group + 365 * p.year + p.day ≤ 36524 ∧
        (1461 * p.group + 365 * p.year + p.day = 36524 → p.century = 3) := by
  obtain ⟨hc, hg, hy, hd, hleap⟩ := h
  omega

theorem centuries_eq (h : p.Exists) :
    p.dayOfEra / 36524 - p.dayOfEra / 146096 = p.century := by
  have hday := dayOfCentury_bounds h
  have hcentury := h.century
  have heq : p.dayOfEra =
      36524 * p.century + (1461 * p.group + 365 * p.year + p.day) := by
    unfold dayOfEra
    omega
  rw [heq]
  generalize 1461 * p.group + 365 * p.year + p.day = r at hday
  omega

/-- Dividing by 1460 counts the groups, and the day at the end
of a group twice. -/
theorem groups_eq (h : p.Exists) :
    ∃ leap, p.dayOfEra / 1460 = 25 * p.century + p.group + leap ∧
      0 ≤ p.day - leap ∧ p.day - leap ≤ 364 := by
  obtain ⟨hc, hg, hy, hd, hleap⟩ := h
  unfold dayOfEra
  refine ⟨(24 * p.century + p.group + 365 * p.year + p.day) / 1460, ?_, ?_, ?_⟩
  · omega
  · omega
  · omega

/-- The year of the era as it is found from the day. -/
theorem yearOfEra_eq (h : p.Exists) :
    (p.dayOfEra - p.dayOfEra / 1460 + p.dayOfEra / 36524 -
      p.dayOfEra / 146096) / 365 = p.yearOfEra := by
  obtain ⟨leap, hgroups, hlow, hhigh⟩ := groups_eq h
  have hcenturies := centuries_eq h
  have hdays : p.dayOfEra - p.dayOfEra / 1460 + p.dayOfEra / 36524 -
      p.dayOfEra / 146096 =
      365 * p.yearOfEra + (p.day - leap) := by
    unfold yearOfEra
    unfold dayOfEra at *
    omega
  rw [hdays]
  omega

/-- The days of the era before its year. -/
theorem daysBefore_eq (h : p.Exists) :
    365 * p.yearOfEra + p.yearOfEra / 4 - p.yearOfEra / 100 =
      p.dayOfEra - p.day := by
  obtain ⟨hc, hg, hy, hd, hleap⟩ := h
  unfold dayOfEra yearOfEra
  omega

end Place

/-! ## The date of a day -/

/-- The month of a day of the year, both counted from March and from zero. -/
def monthOfDay (day : Int) : Int := (5 * day + 2) / 153

/-- Every counted day has a place in an era, and its date is read
off from there. -/
theorem ofDays_eq (days : Int) :
    ∃ (era : Int) (p : Place),
      p.Exists ∧ days + 719468 = era * 146097 + p.dayOfEra ∧
      ofDays days =
        ⟨if monthOfDay p.day < 10 then p.yearOfEra + era * 400
          else p.yearOfEra + era * 400 + 1,
          (if monthOfDay p.day < 10 then monthOfDay p.day + 3
            else monthOfDay p.day - 9).toNat,
          (p.day - (153 * monthOfDay p.day + 2) / 5 + 1).toNat⟩ := by
  obtain ⟨p, hp, hday⟩ :=
    Place.exists_of_dayOfEra (n := (days + 719468) % 146097) (by omega)
  refine ⟨(days + 719468) / 146097, p, hp, by omega, ?_⟩
  have hdoy :
      p.dayOfEra -
        (365 * p.yearOfEra + p.yearOfEra / 4 - p.yearOfEra / 100) = p.day := by
    have := Place.daysBefore_eq hp
    omega
  have hmonth : 0 ≤ monthOfDay p.day ∧ monthOfDay p.day ≤ 11 := by
    have := hp.day
    unfold monthOfDay
    omega
  have hyear : ∀ y : Int,
      (if (if monthOfDay p.day < 10 then monthOfDay p.day + 3
            else monthOfDay p.day - 9) ≤ 2
        then y + 1 else y) =
        if monthOfDay p.day < 10 then y else y + 1 := fun y => by
    split <;> split <;> omega
  unfold ofDays
  simp only [← hday, Place.yearOfEra_eq hp, hdoy]
  rw [Date.mk.injEq]
  exact ⟨hyear _, rfl, rfl⟩

theorem monthOfDay_bounds {day : Int} (h : 0 ≤ day ∧ day ≤ 365) :
    0 ≤ monthOfDay day ∧ monthOfDay day ≤ 11 ∧
      (153 * monthOfDay day + 2) / 5 ≤ day := by
  unfold monthOfDay
  omega

/-- The year that ends with the leap day of a place is a leap year. -/
theorem isLeapYear_of_last {p : Place} (hp : p.Exists) (hday : p.day = 365)
    (era : Int) :
    isLeapYear (p.yearOfEra + era * 400 + 1) = true := by
  obtain ⟨hthird, hgroup⟩ := hp.leap hday
  have hc := hp.century
  have hg := hp.group
  have hmod : (p.yearOfEra + era * 400 + 1) % 4 = 0 ∧
      ((p.yearOfEra + era * 400 + 1) % 100 ≠ 0 ∨
        (p.yearOfEra + era * 400 + 1) % 400 = 0) := by
    unfold Place.yearOfEra
    omega
  rw [isLeapYear, Bool.and_eq_true, Bool.or_eq_true, beq_iff_eq, bne_iff_ne,
    beq_iff_eq]
  exact hmod

/-- The months from March on have 31 days but for the second, the fourth, the
seventh and the ninth; the last is February. -/
theorem dayOfMonth_bounds {day : Int} (h : 0 ≤ day ∧ day ≤ 365) :
    let dayOfMonth := day - (153 * monthOfDay day + 2) / 5 + 1
    1 ≤ dayOfMonth ∧ dayOfMonth ≤ 31 ∧
      (monthOfDay day = 1 ∨ monthOfDay day = 3 ∨ monthOfDay day = 6 ∨
        monthOfDay day = 8 → dayOfMonth ≤ 30) ∧
      (monthOfDay day = 11 →
        dayOfMonth ≤ 29 ∧ (day ≠ 365 → dayOfMonth ≤ 28)) := by
  intro dayOfMonth
  simp only [dayOfMonth]
  unfold monthOfDay
  omega

/-- The calendar has the date of every counted day. -/
theorem ofDays_exists (days : Int) :
    1 ≤ (ofDays days).month ∧ (ofDays days).month ≤ 12 ∧ 1 ≤ (ofDays days).day ∧
      (ofDays days).day ≤
        daysInMonth (ofDays days).year (ofDays days).month := by
  obtain ⟨era, p, hp, -, heq⟩ := ofDays_eq days
  obtain ⟨hlow, hhigh, -⟩ := monthOfDay_bounds hp.day
  obtain ⟨hfirst, hlast, hthirty, hfebruary⟩ := dayOfMonth_bounds hp.day
  rw [heq]
  dsimp only
  refine ⟨by split <;> omega, by split <;> omega, by omega, ?_⟩
  unfold daysInMonth
  by_cases hmonth : monthOfDay p.day < 10
  · rw [if_pos hmonth, if_pos hmonth]
    split
    · omega
    · split
      · omega
      · split <;> omega
  · rw [if_neg hmonth, if_neg hmonth]
    split
    · next heleven =>
        obtain ⟨hleap, hcommon⟩ := hfebruary (by omega)
        by_cases hday : p.day = 365
        · rw [if_pos (isLeapYear_of_last hp hday era)]
          omega
        · specialize hcommon hday
          split <;> omega
    · split
      · omega
      · split <;> omega

/-- The date of a counted day counts that day. -/
theorem toDays_ofDays (days : Int) : (ofDays days).toDays = days := by
  obtain ⟨era, p, hp, hdays, heq⟩ := ofDays_eq days
  have hbefore := Place.daysBefore_eq hp
  obtain ⟨hlow, hhigh, hstart⟩ := monthOfDay_bounds hp.day
  have hyear : 0 ≤ p.yearOfEra ∧ p.yearOfEra ≤ 399 := by
    obtain ⟨hc, hg, hy, -, -⟩ := hp
    unfold Place.yearOfEra
    omega
  rw [heq]
  unfold toDays
  dsimp only
  by_cases hmonth : monthOfDay p.day < 10
  · rw [if_pos hmonth, if_pos hmonth]
    have hm : ¬ (monthOfDay p.day + 3).toNat ≤ 2 := by omega
    rw [if_neg hm, if_neg hm]
    omega
  · rw [if_neg hmonth, if_neg hmonth]
    have hm : (monthOfDay p.day - 9).toNat ≤ 2 := by omega
    rw [if_pos hm, if_pos hm]
    omega

end TenantTables.Time.Date
