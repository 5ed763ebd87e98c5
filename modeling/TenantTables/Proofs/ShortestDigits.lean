import TenantTables.Number.Shortest
import TenantTables.Proofs.Rounding

/-!
# The shortest digits read back as their number

The numbers that are rounded to a given one fill an interval around it, half a
unit to either side, and below a power of two half as far, since the units there
are half as large. Its ends are ties and belong to the number with the even
significand.

So every point of the interval is rounded to its number. The search for a point
on a decimal grid always ends: the last grid that is tried is finer than the
smallest of these intervals, and what is below the number on it is a point. The
logarithms there are those of integers, so that both bounds on the grids are
checked for the two thousand binades one by one.
-/

namespace TenantTables.Number

theorem tenTo_add (m n : Nat) : tenTo (m + n) = tenTo m * tenTo n :=
  Nat.pow_add 10 m n

theorem tenTo_le {m n : Nat} (h : m ≤ n) : tenTo m ≤ tenTo n :=
  Nat.pow_le_pow_right (by decide) h

/-- A greater power of ten is the greater one, also among fractions. -/
theorem tenTo_cross {a b : Int} (h : a ≤ b) :
    tenTo a.toNat * tenTo (-b).toNat ≤ tenTo b.toNat * tenTo (-a).toNat := by
  rw [← tenTo_add, ← tenTo_add]
  exact tenTo_le (by omega)

theorem tenTo_shift (a : Int) (n : Nat) :
    tenTo n * tenTo a.toNat * tenTo (-(a + n)).toNat =
      tenTo (a + n).toNat * tenTo (-a).toNat := by
  rw [← tenTo_add, ← tenTo_add, ← tenTo_add]
  congr 1
  omega

/-- Within half a unit of a whole number the nearest is that number, and a tie
is given to an even one. -/
theorem nearest_eq {p unit s : Nat} (hlow : 2 * (s * unit) ≤ 2 * p + unit)
    (hhigh : 2 * p ≤ 2 * (s * unit) + unit)
    (htie : s % 2 = 1 →
      2 * (s * unit) < 2 * p + unit ∧ 2 * p < 2 * (s * unit) + unit)
    (hunit : 0 < unit) : nearest p unit = s := by
  have hsplit := Nat.div_add_mod p unit
  rcases Nat.lt_or_ge p (s * unit) with hbelow | habove
  · obtain ⟨q, rfl⟩ : ∃ q, s = q + 1 := by
      cases s with
      | zero => omega
      | succ q => exact ⟨q, rfl⟩
    have hsucc : (q + 1) * unit = q * unit + unit := Nat.succ_mul q unit
    have hfloor : p / unit = q := Nat.div_eq_of_lt_le (by omega) hbelow
    rw [hfloor, Nat.mul_comm] at hsplit
    unfold nearest
    dsimp only
    rw [hfloor, if_neg (by omega)]
    split
    · rfl
    · omega
  · have hsucc : (s + 1) * unit = s * unit + unit := Nat.succ_mul s unit
    have hfloor : p / unit = s := Nat.div_eq_of_lt_le habove (by omega)
    rw [hfloor, Nat.mul_comm] at hsplit
    unfold nearest
    dsimp only
    rw [hfloor]
    split
    · rfl
    · rw [if_neg (by omega)]
      omega

namespace Double

/-! ## The parts of an encoding -/

theorem magnitude_eq (d : Double) :
    d.magnitude = d.shift * twoTo 52 + d.significand := by
  have hunit : twoTo 52 = 4503599627370496 := by decide
  rw [shift, significand, hunit]
  split <;> omega

theorem significand_lt (d : Double) : d.significand < twoTo 53 := by
  have hunit : twoTo 52 = 4503599627370496 := by decide
  have hnext : twoTo 53 = 9007199254740992 := by decide
  rw [significand, hunit, hnext]
  split <;> omega

theorem le_significand {d : Double} (h : 0 < d.shift) :
    twoTo 52 ≤ d.significand := by
  have hunit : twoTo 52 = 4503599627370496 := by decide
  rw [shift, hunit] at h
  rw [significand, hunit]
  split <;> omega

theorem significand_pos {d : Double} (h : d.magnitude ≠ 0) :
    0 < d.significand := by
  have hunit : twoTo 52 = 4503599627370496 := by decide
  rw [significand, hunit]
  split <;> omega

/-- The powers of two beyond the first binade. -/
theorem narrow_iff {d : Double} :
    (d.magnitude % twoTo 52 = 0 ∧ twoTo 53 ≤ d.magnitude) ↔
      d.significand = twoTo 52 ∧ 0 < d.shift := by
  have hunit : twoTo 52 = 4503599627370496 := by decide
  have hnext : twoTo 53 = 9007199254740992 := by decide
  rw [significand, shift, hunit, hnext]
  split <;> omega

theorem even_iff {d : Double} :
    d.magnitude % 2 = 0 ↔ d.significand % 2 = 0 := by
  have hunit : twoTo 52 = 4503599627370496 := by decide
  rw [significand, hunit]
  split <;> omega

theorem shift_le (d : Double) : d.shift ≤ 2045 := by
  have hunit : twoTo 52 = 4503599627370496 := by decide
  have hfinite := d.finite
  rw [firstInfinite] at hfinite
  rw [shift, hunit]
  omega

/-! ## Rounding near a number -/

variable {p b k s : Nat}

theorem binade_le (hb : 0 < b)
    (h : p < twoTo (53 + k) * b) : binade p b ≤ k := by
  have hfloor : p / b < 2 ^ (53 + k) := (Nat.div_lt_iff_lt_mul hb).2 h
  unfold binade
  by_cases hzero : p / b = 0
  · rw [hzero, Nat.log2_zero]
    omega
  · have := (Nat.log2_lt hzero).2 hfloor
    omega

theorem le_binade (hb : 0 < b)
    (h : twoTo (52 + k) * b ≤ p) : k ≤ binade p b := by
  have hfloor : 2 ^ (52 + k) ≤ p / b := (Nat.le_div_iff_mul_le hb).2 h
  have hne : p / b ≠ 0 := by
    have := Nat.two_pow_pos (52 + k)
    omega
  have := (Nat.le_log2 hne).2 hfloor
  unfold binade
  omega

/-- Just below a power of two a ratio is rounded up to it, in the units of
its own binade. -/
theorem encoding_below_power (hb : 0 < b)
    (hbelow : p < 2 * (twoTo 52 * (b * twoTo k)))
    (hnear : 4 * (2 * (twoTo 52 * (b * twoTo k))) ≤ 4 * p + 2 * (b * twoTo k)) :
    binade p b * twoTo 52 + nearest p (b * twoTo (binade p b)) =
      (k + 1) * twoTo 52 + twoTo 52 := by
  have hunit : 0 < b * twoTo k := Nat.mul_pos hb (twoTo_pos k)
  have hnext : twoTo 53 = 2 * twoTo 52 := by decide
  have heven : twoTo 53 % 2 = 0 := by decide
  have hfull : twoTo 53 * (b * twoTo k) = 2 * (twoTo 52 * (b * twoTo k)) := by
    rw [hnext]
    ring
  have hpos : 1 * (b * twoTo k) ≤ twoTo 52 * (b * twoTo k) :=
    Nat.mul_le_mul_right _ (twoTo_pos 52)
  have hscale : ∀ n, twoTo (n + k) * b = twoTo n * (b * twoTo k) := fun n => by
    rw [twoTo_add]
    ring
  have hle : k ≤ binade p b := by
    apply le_binade hb
    rw [hscale]
    omega
  have hge : binade p b ≤ k := by
    apply binade_le hb
    rw [hscale, hfull]
    exact hbelow
  rw [Nat.le_antisymm hge hle,
    nearest_eq (s := twoTo 53) (by omega) (by omega) (by omega) hunit, hnext]
  ring

/-- Within half a unit of a number, or half of that below a power of two, a
ratio is encoded as the number. -/
theorem encoding_of_near (hb : 0 < b) (hs : s < twoTo 53)
    (hnormal : 0 < k → twoTo 52 ≤ s)
    (hlow : 4 * (s * (b * twoTo k)) ≤
      4 * p + if s = twoTo 52 ∧ 0 < k then b * twoTo k else 2 * (b * twoTo k))
    (hhigh : 4 * p ≤ 4 * (s * (b * twoTo k)) + 2 * (b * twoTo k))
    (htie : s % 2 = 1 → 4 * (s * (b * twoTo k)) < 4 * p + 2 * (b * twoTo k) ∧
      4 * p < 4 * (s * (b * twoTo k)) + 2 * (b * twoTo k)) :
    binade p b * twoTo 52 + nearest p (b * twoTo (binade p b)) =
      k * twoTo 52 + s := by
  have hunit : 0 < b * twoTo k := Nat.mul_pos hb (twoTo_pos k)
  have hscale : ∀ n, twoTo (n + k) * b = twoTo n * (b * twoTo k) := fun n => by
    rw [twoTo_add]
    ring
  have hupper : p < twoTo (53 + k) * b := by
    have hle : (s + 1) * (b * twoTo k) ≤ twoTo 53 * (b * twoTo k) :=
      Nat.mul_le_mul_right _ hs
    rw [Nat.succ_mul] at hle
    rw [hscale]
    omega
  by_cases hsame : twoTo (52 + k) * b ≤ p ∨ k = 0
  · have heq : binade p b = k := by
      have hbinade := binade_le hb hupper
      rcases hsame with hle | hzero
      · have := le_binade hb hle
        omega
      · omega
    rw [heq,
      nearest_eq (s := s) ?_ (by omega)
        (fun hodd => by have := htie hodd; omega) hunit]
    split at hlow <;> omega
  · rw [not_or] at hsame
    obtain ⟨hbelow, hk⟩ := hsame
    rw [hscale] at hbelow
    obtain ⟨j, rfl⟩ : ∃ j, k = j + 1 := ⟨k - 1, by omega⟩
    -- Only a power of two has numbers of another binade within half a unit.
    obtain rfl : s = twoTo 52 := by
      by_contra hne
      have hgreater : twoTo 52 + 1 ≤ s := by
        have := hnormal (by omega)
        omega
      have hle := Nat.mul_le_mul_right (b * twoTo (j + 1)) hgreater
      rw [Nat.succ_mul] at hle
      rw [if_neg (fun h => hne h.1)] at hlow
      omega
    rw [if_pos ⟨rfl, by omega⟩] at hlow
    have hhalf : b * twoTo (j + 1) = 2 * (b * twoTo j) := by
      rw [twoTo_add]
      show b * (twoTo j * 2) = _
      ring
    have hdouble : twoTo 52 * (2 * (b * twoTo j)) =
        2 * (twoTo 52 * (b * twoTo j)) := by ring
    rw [hhalf, hdouble] at hlow hbelow
    exact encoding_below_power hb (by omega) hlow

/-! ## Points of an interval -/

/-- How far the interval of a number reaches down, in quarters of units
and parts of `b`. -/
def reach (d : Double) (b : Nat) : Nat :=
  if d.significand = twoTo 52 ∧ 0 < d.shift then b * twoTo d.shift
  else 2 * (b * twoTo d.shift)

variable {d : Double} {c : Nat} {e : Int}

theorem reach_bounds (d : Double) (b : Nat) :
    b * twoTo d.shift ≤ d.reach b ∧ d.reach b ≤ 2 * (b * twoTo d.shift) := by
  unfold reach
  split <;> omega

/-- The points of an interval, with all its ends as multiples of one unit. -/
theorem holds_iff {point unit value : Nat}
    (hpoint : point = c * tenTo e.toNat * twoTo 1076)
    (hunit : unit = tenTo (-e).toNat * twoTo d.shift)
    (hvalue : value = 4 * (d.significand * unit)) :
    d.interval.holds c e = true ↔
      if d.significand % 2 = 0 then
        value ≤ point + d.reach (tenTo (-e).toNat) ∧ point ≤ value + 2 * unit
      else value < point + d.reach (tenTo (-e).toNat) ∧
        point < value + 2 * unit := by
  have hscaled : 4 * d.units * tenTo (-e).toNat = value := by
    rw [hvalue, hunit, units]
    ring
  have hhigh : (4 * d.units + 2 * twoTo d.shift) * tenTo (-e).toNat =
      value + 2 * unit := by
    rw [Nat.add_mul, hscaled, hunit]
    ring
  have hlow :
      (4 * d.units - if d.significand = twoTo 52 ∧ 0 < d.shift then
        twoTo d.shift
      else 2 * twoTo d.shift) * tenTo (-e).toNat =
        value - d.reach (tenTo (-e).toNat) := by
    rw [Nat.sub_mul, hscaled, reach]
    congr 1
    split <;> ring
  simp only [Interval.holds, interval, narrow_iff, even_iff, hlow, hhigh,
    ← hpoint, decide_eq_true_eq]
  split
  · simp
  · next hodd =>
      have hpositive : 1 * unit ≤ d.significand * unit :=
        Nat.mul_le_mul_right _ (by omega)
      have hreach := (d.reach_bounds (tenTo (-e).toNat)).2
      rw [← hunit] at hreach
      simp only [Bool.and_eq_true, decide_eq_true_eq]
      omega

/-- A point of the interval of a number is rounded to it. -/
theorem magnitudeOf_of_holds (h : d.interval.holds c e = true) :
    magnitudeOf (c * tenTo e.toNat) (tenTo (-e).toNat) = d.magnitude := by
  have hfour : c * tenTo e.toNat * twoTo 1076 =
      4 * (c * tenTo e.toNat * twoTo 1074) := by
    have hquarter : twoTo 1076 = twoTo 2 * twoTo 1074 := twoTo_add 2 1074
    have htwo : twoTo 2 = 4 := rfl
    rw [hquarter, htwo]
    ring
  have hreach := (d.reach_bounds (tenTo (-e).toNat)).2
  rw [holds_iff hfour.symm rfl rfl] at h
  rw [magnitude_eq]
  refine encoding_of_near (tenTo_pos _) d.significand_lt le_significand ?_
    ?_ fun hodd => ?_
  · rw [← reach]
    split at h <;> omega
  · split at h <;> omega
  · rw [if_neg (by omega)] at h
    omega

/-! ## The search for a point -/

theorem nearest_eq_or (num den : Nat) :
    nearest num den = num / den ∨ nearest num den = num / den + 1 := by
  unfold nearest
  dsimp only
  split
  · exact .inl rfl
  · split
    · exact .inr rfl
    · omega

theorem holds_of_onGrid? (h : d.interval.onGrid? e = some c) :
    0 < c ∧ d.interval.holds c e = true := by
  unfold Interval.onGrid? at h
  dsimp only at h
  generalize hnum : d.interval.value * tenTo (-e).toNat = num at h
  generalize hden : tenTo e.toNat * twoTo 1076 = den at h
  split at h
  · next hboth =>
      simp only [Bool.and_eq_true, decide_eq_true_eq] at hboth
      obtain ⟨⟨hpos, hbelow⟩, habove⟩ := hboth
      obtain rfl := Option.some.inj h
      rcases nearest_eq_or num den with heq | heq
      · rw [heq]
        exact ⟨hpos, hbelow⟩
      · rw [heq]
        exact ⟨Nat.succ_pos _, habove⟩
  · split at h
    · next hbelow =>
        simp only [Bool.and_eq_true, decide_eq_true_eq] at hbelow
        obtain rfl := Option.some.inj h
        exact hbelow
    · split at h
      · next habove =>
          obtain rfl := Option.some.inj h
          exact ⟨Nat.succ_pos _, habove⟩
      · cases h

/-- A grid that is finer than the units of a number has a point
in its interval. -/
theorem onGrid?_isSome (hd : d.magnitude ≠ 0)
    (h : tenTo e.toNat * twoTo 1076 ≤ tenTo (-e).toNat * twoTo d.shift) :
    (d.interval.onGrid? e).isSome = true := by
  generalize hunit : tenTo (-e).toNat * twoTo d.shift = unit at h
  generalize hden : tenTo e.toNat * twoTo 1076 = den at h
  have hdenPos : 0 < den := hden ▸ Nat.mul_pos (tenTo_pos _) (twoTo_pos _)
  have hnum :
      d.interval.value * tenTo (-e).toNat = 4 * (d.significand * unit) := by
    show 4 * d.units * _ = _
    rw [units, ← hunit]
    ring
  have hpositive : 1 * unit ≤ d.significand * unit :=
    Nat.mul_le_mul_right _ (significand_pos hd)
  have hsplit := Nat.div_add_mod (4 * (d.significand * unit)) den
  have hrest := Nat.mod_lt (4 * (d.significand * unit)) hdenPos
  rw [Nat.mul_comm] at hsplit
  have hfloor : 0 < 4 * (d.significand * unit) / den :=
    Nat.div_pos (by omega) hdenPos
  have hbelow :
      d.interval.holds (4 * (d.significand * unit) / den) e = true := by
    have hpoint : 4 * (d.significand * unit) / den * den =
        4 * (d.significand * unit) / den * tenTo e.toNat * twoTo 1076 := by
      rw [← hden, Nat.mul_assoc]
    have hreach := (d.reach_bounds (tenTo (-e).toNat)).1
    rw [hunit] at hreach
    rw [holds_iff hpoint hunit.symm rfl]
    split <;> omega
  unfold Interval.onGrid?
  dsimp only
  rw [hnum, hden, hbelow, decide_eq_true hfloor, Bool.true_and, Bool.true_and]
  split
  · rfl
  · rfl

/-- The coarsest grid that is tried for numbers with so many bits. -/
def coarsest (bits : Nat) : Int := ((bits : Int) - 1073) * 30103 / 100000 + 1

/-- For every number of bits the last grid of the twenty is finer than the
units, and the first is not finer than a thousandth of the number. -/
theorem grids_reach : ((List.range 2098).all fun bits =>
    decide (tenTo (coarsest bits - 19).toNat * twoTo 1128 ≤
      twoTo bits * tenTo (-(coarsest bits - 19)).toNat) &&
    decide (twoTo bits * tenTo (-(coarsest bits + 3)).toNat <
      twoTo 1071 * tenTo (coarsest bits + 3).toNat)) = true := by
  decide +kernel

theorem reaches {bits : Nat} (h : bits < 2098) :
    tenTo (coarsest bits - 19).toNat * twoTo 1128 ≤
        twoTo bits * tenTo (-(coarsest bits - 19)).toNat ∧
      twoTo bits * tenTo (-(coarsest bits + 3)).toNat <
        twoTo 1071 * tenTo (coarsest bits + 3).toNat := by
  have hbits := List.all_eq_true.1 grids_reach bits (List.mem_range.2 h)
  rwa [Bool.and_eq_true, decide_eq_true_eq, decide_eq_true_eq] at hbits

theorem bits_bounds (hd : d.magnitude ≠ 0) :
    d.units.log2 < 2098 ∧ d.units.log2 ≤ 52 + d.shift := by
  have hunits : d.units < 2 ^ (53 + d.shift) := by
    rw [Nat.pow_add]
    exact Nat.mul_lt_mul_of_pos_right d.significand_lt (twoTo_pos _)
  have hne : d.units ≠ 0 :=
    Nat.ne_of_gt (Nat.mul_pos (significand_pos hd) (twoTo_pos _))
  have hlog := (Nat.log2_lt hne).2 hunits
  have hshift := d.shift_le
  omega

/-- The shortest digits are a point of the interval, on one of
the twenty grids. -/
theorem shortest_spec (hd : d.magnitude ≠ 0) :
    ∃ c e, d.shortest = (c, e) ∧ 0 < c ∧ d.interval.holds c e = true ∧
      coarsest d.units.log2 - 19 ≤ e := by
  obtain ⟨hbits, hshift⟩ := bits_bounds hd
  obtain ⟨hfinest, -⟩ := reaches hbits
  have hlast :
      (d.interval.onGrid? (coarsest d.units.log2 - 19)).isSome = true := by
    apply onGrid?_isSome hd
    generalize coarsest d.units.log2 - 19 = e at hfinest ⊢
    refine Nat.le_of_mul_le_mul_right ?_ (twoTo_pos 52)
    calc
      tenTo e.toNat * twoTo 1076 * twoTo 52 = tenTo e.toNat * twoTo 1128 := by
        rw [Nat.mul_assoc, ← twoTo_add]
      _ ≤ twoTo d.units.log2 * tenTo (-e).toNat := hfinest
      _ ≤ twoTo (52 + d.shift) * tenTo (-e).toNat :=
        Nat.mul_le_mul_right _ (Nat.pow_le_pow_right (by decide) hshift)
      _ = tenTo (-e).toNat * twoTo d.shift * twoTo 52 := by
        rw [twoTo_add]
        ring
  let point (i : Nat) : Option (Nat × Int) :=
    (d.interval.onGrid? (coarsest d.units.log2 - i)).map fun c =>
      (c, coarsest d.units.log2 - (i : Int))
  have hsome : ((List.range 20).findSome? point).isSome = true := by
    rw [List.findSome?_isSome_iff]
    exact ⟨19, by decide, by simpa [point] using hlast⟩
  obtain ⟨⟨c, e⟩, hfound⟩ := Option.isSome_iff_exists.1 hsome
  obtain ⟨i, hi, hpoint⟩ := List.exists_of_findSome?_eq_some hfound
  obtain ⟨c, hgrid, heq⟩ := Option.map_eq_some_iff.1 hpoint
  obtain ⟨rfl, rfl⟩ := Prod.mk.inj heq
  obtain ⟨hpos, hholds⟩ := holds_of_onGrid? hgrid
  refine ⟨c, _, ?_, hpos, hholds, ?_⟩
  · show ((List.range 20).findSome? point).getD (0, 0) = _
    rw [hfound, Option.getD_some]
  · have := List.mem_range.1 hi
    omega

/-! ## The number of digits -/

theorem units_le (d : Double) : d.units ≤ 2 * twoTo d.units.log2 := by
  have hlt : d.units < twoTo (d.units.log2 + 1) := Nat.lt_log2_self
  have hdouble : twoTo (d.units.log2 + 1) = twoTo d.units.log2 * 2 :=
    twoTo_add _ 1
  omega

/-- A point of the interval is at most half as far up again as the number. -/
theorem point_le (hd : d.magnitude ≠ 0) (h : d.interval.holds c e = true) :
    c * tenTo e.toNat * twoTo 1076 ≤ 6 * (d.units * tenTo (-e).toNat) := by
  rw [holds_iff rfl rfl rfl] at h
  have hunits : d.significand * (tenTo (-e).toNat * twoTo d.shift) =
      d.units * tenTo (-e).toNat := by
    rw [units]
    ring
  have hpositive : 1 * (tenTo (-e).toNat * twoTo d.shift) ≤
      d.significand * (tenTo (-e).toNat * twoTo d.shift) :=
    Nat.mul_le_mul_right _ (significand_pos hd)
  rw [hunits] at h hpositive
  split at h <;> omega

/-- So is the power of ten that the digits of the point reach. -/
theorem power_le {n : Nat} (hd : d.magnitude ≠ 0)
    (h : d.interval.holds c e = true) (hc : tenTo n ≤ c) :
    tenTo (e + n).toNat * twoTo 1076 ≤
      6 * (d.units * tenTo (-(e + n)).toNat) := by
  have hpoint := point_le hd h
  have hshift := tenTo_shift e n
  generalize e + (n : Int) = f at hshift ⊢
  refine Nat.le_of_mul_le_mul_right ?_ (tenTo_pos (-e).toNat)
  calc
    tenTo f.toNat * twoTo 1076 * tenTo (-e).toNat
      = tenTo n * tenTo e.toNat * tenTo (-f).toNat * twoTo 1076 := by
        rw [hshift]
        ring
    _ = tenTo n * tenTo e.toNat * twoTo 1076 * tenTo (-f).toNat := by ring
    _ ≤ c * tenTo e.toNat * twoTo 1076 * tenTo (-f).toNat :=
      Nat.mul_le_mul_right _
        (Nat.mul_le_mul_right _ (Nat.mul_le_mul_right _ hc))
    _ ≤ 6 * (d.units * tenTo (-e).toNat) * tenTo (-f).toNat :=
      Nat.mul_le_mul_right _ hpoint
    _ = 6 * (d.units * tenTo (-f).toNat) * tenTo (-e).toNat := by ring

/-- From a grid on that is coarse for the number, a power of
ten is too far up. -/
theorem lt_power {q f : Int} (hqf : q ≤ f)
    (hcoarse :
      twoTo d.units.log2 * tenTo (-q).toNat < twoTo 1071 * tenTo q.toNat) :
    6 * (d.units * tenTo (-f).toNat) < tenTo f.toNat * twoTo 1076 := by
  have hpower : twoTo 1076 = twoTo 5 * twoTo 1071 := twoTo_add 5 1071
  have hsmall : twoTo 5 = 32 := rfl
  have hunit : 0 < twoTo 1071 * (tenTo f.toNat * tenTo (-q).toNat) :=
    Nat.mul_pos (twoTo_pos _) (Nat.mul_pos (tenTo_pos _) (tenTo_pos _))
  refine Nat.lt_of_mul_lt_mul_right (a := tenTo (-q).toNat) ?_
  calc
    6 * (d.units * tenTo (-f).toNat) * tenTo (-q).toNat
      = d.units * (6 * tenTo (-f).toNat * tenTo (-q).toNat) := by ring
    _ ≤ 2 * twoTo d.units.log2 * (6 * tenTo (-f).toNat * tenTo (-q).toNat) :=
      Nat.mul_le_mul_right _ d.units_le
    _ = 12 * tenTo (-f).toNat * (twoTo d.units.log2 * tenTo (-q).toNat) := by
      ring
    _ ≤ 12 * tenTo (-f).toNat * (twoTo 1071 * tenTo q.toNat) :=
      Nat.mul_le_mul_left _ (Nat.le_of_lt hcoarse)
    _ = 12 * twoTo 1071 * (tenTo q.toNat * tenTo (-f).toNat) := by ring
    _ ≤ 12 * twoTo 1071 * (tenTo f.toNat * tenTo (-q).toNat) :=
      Nat.mul_le_mul_left _ (tenTo_cross hqf)
    _ = 12 * (twoTo 1071 * (tenTo f.toNat * tenTo (-q).toNat)) :=
      Nat.mul_assoc _ _ _
    _ < 32 * (twoTo 1071 * (tenTo f.toNat * tenTo (-q).toNat)) := by omega
    _ = tenTo f.toNat * twoTo 1076 * tenTo (-q).toNat := by
      rw [hpower, hsmall]
      ring

/-- There are at most twenty-two digits. -/
theorem shortest_lt (hd : d.magnitude ≠ 0) : d.shortest.1 < tenTo 22 := by
  obtain ⟨c, e, hshortest, -, hholds, he⟩ := shortest_spec hd
  obtain ⟨hbits, -⟩ := bits_bounds hd
  obtain ⟨-, hcoarse⟩ := reaches hbits
  rw [hshortest]
  by_contra hmany
  have hreach := power_le hd hholds (Nat.not_lt.1 hmany)
  have hless :=
    lt_power (show coarsest d.units.log2 + 3 ≤ e + (22 : Nat) by omega) hcoarse
  exact Nat.not_le.2 hless hreach

end Double

end TenantTables.Number
