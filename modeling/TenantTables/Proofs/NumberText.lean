import TenantTables.Proofs.ShortestDigits
import TenantTables.Proofs.TimestampText

/-!
# The text of a number

The text of a number is a numeral, and it is read as the numeral that it was
made from. An integer is a sign and digits. Any other number is digits, a point
and more digits, or a single digit in front of the point and an exponent behind.
All of the digits are those of the shortest writing, which has no zeros at
its end; the zeros that positional notation adds on either side are undone by
its scale. So the text of a number is read as the number.
-/

namespace TenantTables.Number

open Text (WritesNumber isAsciiDigit isAsciiDigit_eq decimalValue
  decimalValue_eq writesNumber_toDigits)

/-! ## Whole numbers -/

theorem toList_toString (n : Int) :
    (toString n).toList =
      if n < 0 then '-' :: Nat.toDigits 10 n.natAbs
        else Nat.toDigits 10 n.natAbs := by
  match n with
  | .ofNat m =>
      have hsign : ¬ Int.ofNat m < 0 := Int.not_lt.2 (Int.natCast_nonneg m)
      rw [if_neg hsign]
      exact Nat.toList_repr
  | .negSucc m =>
      rw [if_pos (Int.negSucc_lt_zero m)]
      change ("-" ++ Nat.repr (m + 1)).toList = _
      rw [String.toList_append, Nat.toList_repr]
      rfl

theorem takeSign_of_digit {cs : List Char}
    (h : ∀ c ∈ cs.head?, isAsciiDigit c = true) :
    takeSign cs = (false, cs) := by
  unfold takeSign
  split
  · exact absurd (h '-' rfl) (by decide)
  · exact absurd (h '+' rfl) (by decide)
  · rfl

theorem takeSign_toString (n : Int) :
    takeSign (toString n).toList =
      (decide (n < 0), Nat.toDigits 10 n.natAbs) := by
  rw [toList_toString]
  split
  · next h => rw [decide_eq_true h]; rfl
  · next h =>
      rw [decide_eq_false h, takeSign_of_digit fun c hc =>
        (writesNumber_toDigits n.natAbs).digits c (List.mem_of_mem_head? hc)]

theorem integerOf?_toString (n : Int) :
    integerOf? (toString n).toList = some n := by
  have hdigits := writesNumber_toDigits n.natAbs
  have hempty : (Nat.toDigits 10 n.natAbs).isEmpty = false :=
    List.isEmpty_eq_false_iff.2 Nat.toDigits_ne_nil
  rw [integerOf?, takeSign_toString]
  dsimp only
  rw [hempty, List.all_eq_true.2 hdigits.digits, hdigits.value]
  have habs : (if n < 0 then -(n.natAbs : Int) else n.natAbs) = n := by omega
  simp only [decide_eq_true_eq, habs]
  rfl

theorem readInt64?_toString {n : Int} (h : isInt64 n = true) :
    readInt64? (toString n) = some n := by
  rw [readInt64?, integerOf?_toString, Option.filter_some, if_pos h]

/-! ## Numerals that are written -/

namespace Numeral

/-- An exponent with its sign. -/
def exponentChars (n : Numeral) : List Char :=
  match n.exponent with
  | none => []
  | some (negative, digits) => 'e' :: (if negative then '-' else '+') :: digits

/-- What stands behind the whole part. -/
def tail (n : Numeral) : List Char :=
  (if n.fraction.isEmpty then [] else '.' :: n.fraction) ++ n.exponentChars

/-- The characters of a numeral. -/
def chars (n : Numeral) : List Char :=
  (if n.negative then ['-'] else []) ++ n.whole ++ n.tail

/-- Digits where digits belong. -/
structure Plain (n : Numeral) : Prop where
  whole_ne_nil : n.whole ≠ []
  whole : ∀ c ∈ n.whole, isAsciiDigit c = true
  fraction : ∀ c ∈ n.fraction, isAsciiDigit c = true
  exponent : ∀ e ∈ n.exponent, e.2 ≠ [] ∧ ∀ c ∈ e.2, isAsciiDigit c = true

theorem exponentOf?_signed {negative : Bool} {digits : List Char}
    (hne : digits ≠ []) (h : ∀ c ∈ digits, isAsciiDigit c = true) :
    exponentOf? isAsciiDigit ((if negative then '-' else '+') :: digits) =
      some (negative, digits) := by
  have hall : digits.all isAsciiDigit = true := List.all_eq_true.2 h
  cases negative <;> simp [exponentOf?, takeSign, hne, hall]

/-- Digits end where something else begins. -/
theorem span_digits {digits rest : List Char}
    (h : ∀ c ∈ digits, isAsciiDigit c = true)
    (hrest : ∀ c ∈ rest.head?, isAsciiDigit c = false) :
    (digits ++ rest).takeWhile isAsciiDigit = digits ∧
      (digits ++ rest).dropWhile isAsciiDigit = rest := by
  rw [List.takeWhile_append_of_pos h, List.dropWhile_append_of_pos h]
  cases rest with
  | nil => exact ⟨List.append_nil _, rfl⟩
  | cons c rest =>
      have hc := hrest c rfl
      rw [List.takeWhile_cons_of_neg (by simp [hc]),
        List.dropWhile_cons_of_neg (by simp [hc])]
      exact ⟨List.append_nil _, rfl⟩

theorem not_digit_exponentChars (n : Numeral) :
    ∀ c ∈ n.exponentChars.head?, isAsciiDigit c = false := by
  intro c hc
  unfold exponentChars at hc
  split at hc
  · cases hc
  · obtain rfl := Option.some.inj hc
    rfl

theorem not_digit_tail (n : Numeral) :
    ∀ c ∈ n.tail.head?, isAsciiDigit c = false := by
  intro c hc
  unfold tail at hc
  split at hc
  · exact n.not_digit_exponentChars c hc
  · obtain rfl := Option.some.inj hc
    rfl

/-- A written numeral is read as it is. -/
theorem read?_chars {n : Numeral} (h : n.Plain) :
    read? isAsciiDigit n.chars = some n := by
  have hfirst : ∀ c ∈ (n.whole ++ n.tail).head?, isAsciiDigit c = true := by
    intro c hc
    rw [List.head?_append_of_ne_nil _ h.whole_ne_nil] at hc
    exact h.whole c (List.mem_of_mem_head? hc)
  have hsign : takeSign n.chars = (n.negative, n.whole ++ n.tail) := by
    unfold chars
    cases n.negative with
    | true => rfl
    | false => exact takeSign_of_digit hfirst
  obtain ⟨htake, hdrop⟩ := span_digits h.whole n.not_digit_tail
  obtain ⟨htake', hdrop'⟩ := span_digits h.fraction n.not_digit_exponentChars
  have hwhole := List.isEmpty_eq_false_iff.2 h.whole_ne_nil
  have hexponent := h.exponent
  rw [read?, hsign]
  dsimp only
  rw [htake, hdrop]
  obtain ⟨negative, whole, fraction, exponent⟩ := n
  dsimp only at hwhole htake' hdrop' hexponent
  have hexponent' : ∀ sign digits, exponent = some (sign, digits) →
      exponentOf? isAsciiDigit ((if sign then '-' else '+') :: digits) =
        some (sign, digits) := by
    rintro sign digits rfl
    obtain ⟨hne, hdigits⟩ := hexponent _ rfl
    exact exponentOf?_signed hne hdigits
  cases fraction with
  | nil =>
      cases exponent with
      | none => simp [tail, exponentChars, hwhole]
      | some e => simp [tail, exponentChars, hwhole, hexponent' _ _ rfl]
  | cons c fraction =>
      rw [tail, List.isEmpty_cons, if_neg Bool.false_ne_true, List.cons_append]
      simp only [htake', hdrop', hwhole]
      cases exponent with
      | none => simp [exponentChars]
      | some e => simp [exponentChars, hexponent' _ _ rfl]

/-- The text of an integer, taken apart. -/
def ofInt (n : Int) : Numeral :=
  ⟨n < 0, Nat.toDigits 10 n.natAbs, [], none⟩

theorem plain_ofInt (n : Int) : (ofInt n).Plain :=
  ⟨Nat.toDigits_ne_nil, (writesNumber_toDigits n.natAbs).digits,
    List.forall_mem_nil _, nofun⟩

theorem coefficient_ofInt (n : Int) : (ofInt n).coefficient = n.natAbs := by
  rw [coefficient, ofInt, List.append_nil]
  exact (writesNumber_toDigits n.natAbs).value

theorem chars_ofInt (n : Int) : (ofInt n).chars = (toString n).toList := by
  rw [toList_toString]
  split
  · next h => simp [ofInt, chars, tail, exponentChars, h]
  · next h => simp [ofInt, chars, tail, exponentChars, h]

theorem read?_toString (n : Int) :
    read? isAsciiDigit (toString n).toList = some (ofInt n) := by
  rw [← chars_ofInt]
  exact read?_chars (plain_ofInt n)

end Numeral

namespace Double

variable {d : Double}

/-! ## The digits of a number -/

/-- Digits without zeros at their end, and how many zeros there are. -/
theorem trimmed_zeros (cs : List Char) :
    ∃ n, cs = (cs.reverse.dropWhile (· == '0')).reverse ++
      List.replicate n '0' := by
  have hzeros : cs.reverse.takeWhile (· == '0') =
      List.replicate (cs.reverse.takeWhile (· == '0')).length '0' :=
    List.eq_replicate_of_mem fun c hc => by
      simpa using List.mem_takeWhile_imp hc
  refine ⟨(cs.reverse.takeWhile (· == '0')).length, ?_⟩
  rw [← List.reverse_replicate, ← hzeros, ← List.reverse_append,
    List.takeWhile_append_dropWhile, List.reverse_reverse]

theorem decimalValue_append_zeros (cs : List Char) (n : Nat) :
    decimalValue (cs ++ List.replicate n '0') = decimalValue cs * tenTo n := by
  rw [decimalValue_eq, decimalValue_eq, Nat.ofDigitChars_append,
    Nat.ofDigitChars_replicate_zero, Nat.mul_comm]
  rfl

/-- Equal ratios have one encoding. -/
theorem magnitudeOf_congr {num den num' den' : Nat} (hden : 0 < den)
    (hden' : 0 < den') (h : num * den' = num' * den) :
    magnitudeOf num den = magnitudeOf num' den' :=
  Nat.le_antisymm (magnitudeOf_mono hden hden' (Nat.le_of_eq h))
    (magnitudeOf_mono hden' hden (Nat.le_of_eq h.symm))

/-- The digits of a number that is not zero: the first has the weight of the
exponent and is not zero, and together they are rounded to the number. -/
structure WrittenBy (d : Double) (digits : List Char) (e : Int) : Prop where
  digit : ∀ c ∈ digits, isAsciiDigit c = true
  length_pos : 0 < digits.length
  length_le : digits.length ≤ 22
  leading : tenTo (digits.length - 1) ≤ decimalValue digits
  encoding :
    magnitudeOf (decimalValue digits * tenTo (e + 1 - digits.length).toNat)
    (tenTo (-(e + 1 - digits.length)).toNat) = d.magnitude

/-- The digits of a whole number without the zeros at their end. -/
theorem trimmed_digits {c n : Nat} {digits : List Char} (hc : 0 < c)
    (h : Nat.toDigits 10 c = digits ++ List.replicate n '0') :
    (∀ a ∈ digits, isAsciiDigit a = true) ∧ decimalValue digits * tenTo n = c ∧
      0 < digits.length ∧ tenTo (digits.length - 1) ≤ decimalValue digits := by
  have hwrites := writesNumber_toDigits c
  have hcount : (Nat.toDigits 10 c).length = digits.length + n := by
    rw [h, List.length_append, List.length_replicate]
  have hvalue : decimalValue digits * tenTo n = c := by
    rw [← hwrites.value, h, decimalValue_append_zeros]
  have hpos : 0 < decimalValue digits := Nat.pos_of_mul_pos_right (hvalue ▸ hc)
  have hlength : 0 < digits.length := by
    rw [List.length_pos_iff]
    rintro rfl
    exact absurd hpos (by decide)
  refine ⟨fun a ha => ?_, hvalue, hlength, ?_⟩
  · refine hwrites.digits a ?_
    rw [h]
    exact List.mem_append_left _ ha
  · rcases Nat.eq_zero_or_pos (digits.length - 1 + n) with hone | hmore
    · have hlast : digits.length - 1 = 0 := by omega
      rw [hlast]
      exact hpos
    · refine Nat.le_of_mul_le_mul_right ?_ (tenTo_pos n)
      rw [hvalue, ← tenTo_add]
      by_contra hless
      have :=
        (Nat.length_toDigits_le_iff (by decide) hmore).2 (Nat.not_le.1 hless)
      omega

theorem writtenBy_digits (hd : d.magnitude ≠ 0) :
    d.WrittenBy d.digits.1 d.digits.2 := by
  obtain ⟨c, p, hshortest, hpos, hholds, -⟩ := shortest_spec hd
  have hfew := shortest_lt hd
  rw [hshortest] at hfew
  have hlength := (Nat.length_toDigits_le_iff (by decide) (by decide)).2 hfew
  have hcs : (toString c).toList = Nat.toDigits 10 c := Nat.toList_repr
  rw [digits, if_neg hd, hshortest]
  dsimp only
  rw [hcs]
  obtain ⟨n, hn⟩ := trimmed_zeros (Nat.toDigits 10 c)
  obtain ⟨hdigit, hvalue, hpositive, hleading⟩ := trimmed_digits hpos hn
  have hcount := congrArg List.length hn
  rw [List.length_append, List.length_replicate] at hcount
  generalize Nat.toDigits 10 c = cs at *
  generalize (cs.reverse.dropWhile (· == '0')).reverse = digits at *
  refine ⟨hdigit, hpositive, by omega, hleading, ?_⟩
  have hplace : p + (cs.length : Int) - 1 + 1 - (digits.length : Int) =
      p + (n : Nat) := by omega
  have hshift := tenTo_shift p n
  rw [hplace, ← magnitudeOf_of_holds hholds]
  refine magnitudeOf_congr (tenTo_pos _) (tenTo_pos _) ?_
  calc
    decimalValue digits * tenTo (p + (n : Nat)).toNat * tenTo (-p).toNat
      = decimalValue digits *
        (tenTo (p + (n : Nat)).toNat * tenTo (-p).toNat) :=
        Nat.mul_assoc _ _ _
    _ = decimalValue digits * tenTo n * tenTo p.toNat *
        tenTo (-(p + (n : Nat))).toNat := by
      rw [← hshift]
      ring
    _ = c * tenTo p.toNat * tenTo (-(p + (n : Nat))).toNat := by rw [hvalue]

/-! ## The text of a number -/

/-- The text of a number, taken apart. -/
def numeral (d : Double) : Numeral :=
  let (digits, e) := d.digits
  if -5 ≤ e ∧ e < 16 then
    if e < 0 then ⟨d.negative, ['0'], zeros (-e - 1).toNat ++ digits, none⟩
    else
      let whole := e.toNat + 1
      if digits.length ≤ whole then
        ⟨d.negative, digits ++ zeros (whole - digits.length), ['0'], none⟩
      else ⟨d.negative, digits.take whole, digits.drop whole, none⟩
  else ⟨d.negative, digits.take 1, digits.drop 1,
    some (e < 0, Nat.toDigits 10 e.natAbs)⟩

theorem digit_of_mem_digits (d : Double) :
    ∀ c ∈ d.digits.1, isAsciiDigit c = true := by
  by_cases hd : d.magnitude = 0
  · rw [digits, if_pos hd]
    exact List.forall_mem_singleton.2 rfl
  · exact (writtenBy_digits hd).digit

theorem digits_length_pos (d : Double) : 0 < d.digits.1.length := by
  by_cases hd : d.magnitude = 0
  · rw [digits, if_pos hd]
    decide
  · exact (writtenBy_digits hd).length_pos

theorem digit_of_mem_zeros {n : Nat} :
    ∀ c ∈ zeros n, isAsciiDigit c = true := by
  intro c hc
  rw [List.eq_of_mem_replicate hc]
  rfl

theorem plain_numeral (d : Double) : d.numeral.Plain := by
  have hdigits := d.digit_of_mem_digits
  have hpos := d.digits_length_pos
  unfold numeral
  generalize d.digits = found at hdigits hpos ⊢
  obtain ⟨digits, e⟩ := found
  dsimp only at hdigits hpos ⊢
  have hne : digits ≠ [] := List.ne_nil_of_length_pos hpos
  have htake : ∀ n, ∀ c ∈ digits.take n, isAsciiDigit c = true := fun n c hc =>
    hdigits c (List.mem_of_mem_take hc)
  have hdrop : ∀ n, ∀ c ∈ digits.drop n, isAsciiDigit c = true := fun n c hc =>
    hdigits c (List.mem_of_mem_drop hc)
  have hzero : ∀ c ∈ ['0'], isAsciiDigit c = true :=
    List.forall_mem_singleton.2 rfl
  have htakeNe : ∀ n, digits.take (n + 1) ≠ [] := fun n => by
    rw [Ne, List.take_eq_nil_iff]
    exact fun h => h.elim (Nat.succ_ne_zero n) hne
  split
  · split
    · exact ⟨List.cons_ne_nil _ _, hzero,
        List.forall_mem_append.2 ⟨digit_of_mem_zeros, hdigits⟩, nofun⟩
    · split
      · exact ⟨List.append_ne_nil_of_left_ne_nil hne _,
          List.forall_mem_append.2 ⟨hdigits, digit_of_mem_zeros⟩, hzero, nofun⟩
      · exact ⟨htakeNe _, htake _, hdrop _, nofun⟩
  · refine ⟨htakeNe 0, htake 1, hdrop 1, fun exponent h => ?_⟩
    obtain rfl := Option.some.inj h
    exact ⟨Nat.toDigits_ne_nil, (writesNumber_toDigits _).digits⟩

theorem toList_toText (d : Double) : d.toText.toList = d.numeral.chars := by
  have hdigits := d.digit_of_mem_digits
  have hpos := d.digits_length_pos
  unfold toText numeral Numeral.chars Numeral.tail Numeral.exponentChars
  generalize d.digits = found at hdigits hpos ⊢
  obtain ⟨digits, e⟩ := found
  dsimp only at hdigits hpos ⊢
  have hsigned : ∀ cs, (signed d.negative cs).toList =
      (if d.negative = true then ['-'] else []) ++ cs := fun cs => by
    rw [signed, String.toList_ofList]
    split <;> rfl
  have hpoint : '.' ∉ digits := fun hmem => absurd (hdigits _ hmem) (by decide)
  have hzeros : ∀ n, '.' ∉ zeros n := fun n hmem =>
    absurd (List.eq_of_mem_replicate hmem) (by decide)
  rw [hsigned]
  by_cases hrange : -5 ≤ e ∧ e < 16
  · simp only [if_pos hrange]
    by_cases hsmall : e < 0
    · simp [positional, hsmall, List.ne_nil_of_length_pos hpos]
    · by_cases hwhole : digits.length ≤ e.toNat + 1
      · simp [positional, hsmall, hwhole, hpoint, hzeros]
      · have hfraction : (digits.drop (e.toNat + 1)).isEmpty = false := by
          rw [List.isEmpty_eq_false_iff, Ne, List.drop_eq_nil_iff]
          exact hwhole
        simp [positional, hsmall, hwhole, hfraction]
  · simp only [if_neg hrange]
    obtain _ | ⟨c, _ | ⟨c', digits⟩⟩ := digits
    · exact absurd hpos (Nat.lt_irrefl 0)
    · simp
    · simp

theorem read?_toText (d : Double) :
    Numeral.read? isAsciiDigit d.toText.toList = some d.numeral := by
  rw [toList_toText]
  exact Numeral.read?_chars d.plain_numeral

/-! ## Reading the text of a number -/

theorem decimalValue_zeros_append (n : Nat) (cs : List Char) :
    decimalValue (zeros n ++ cs) = decimalValue cs := by
  rw [decimalValue_eq, zeros, Nat.ofDigitChars_append,
    Nat.ofDigitChars_replicate_zero, Nat.mul_zero, ← decimalValue_eq]

/-- The power of ten that the digits of a number, as a whole
number, are scaled by. -/
def scale (d : Double) : Int := d.digits.2 + 1 - d.digits.1.length

/-- The digits are rounded to the number. -/
theorem magnitudeOf_digits (hd : d.magnitude ≠ 0) :
    magnitudeOf (decimalValue d.digits.1 * tenTo d.scale.toNat)
      (tenTo (-d.scale).toNat) =
      d.magnitude :=
  (writtenBy_digits hd).encoding

/-- What is read of the text of a number: its digits, as they are or with the
zeros in front of the point and the one behind it. -/
theorem numeral_parts (hd : d.magnitude ≠ 0) :
    d.numeral.fraction.length ≤ 28 ∧
      d.numeral.exponent = (if -5 ≤ d.digits.2 ∧ d.digits.2 < 16 then none
        else some
          (decide (d.digits.2 < 0), Nat.toDigits 10 d.digits.2.natAbs)) ∧
      (d.numeral.coefficient = decimalValue d.digits.1 ∧
        d.numeral.scale = d.scale ∨
        0 ≤ d.scale ∧ -5 ≤ d.digits.2 ∧ d.digits.2 < 16 ∧
          d.numeral.coefficient =
            decimalValue d.digits.1 * tenTo (d.scale.toNat + 1) ∧
            d.numeral.scale = -1) := by
  obtain ⟨hdigit, hpos, hlength, -, -⟩ := writtenBy_digits hd
  have hexponent := (writesNumber_toDigits d.digits.2.natAbs).value
  unfold numeral scale
  generalize d.digits = found at hdigit hpos hlength hexponent ⊢
  obtain ⟨digits, e⟩ := found
  dsimp only at hdigit hpos hlength hexponent ⊢
  have hsplit : ∀ k,
      decimalValue (digits.take k ++ digits.drop k) = decimalValue digits :=
    fun k => by rw [List.take_append_drop]
  by_cases hrange : -5 ≤ e ∧ e < 16
  · rw [if_pos hrange, if_pos hrange]
    split
    · refine ⟨?_, rfl, .inl ⟨?_, ?_⟩⟩
      · simp [zeros]
        omega
      · exact decimalValue_zeros_append ((-e - 1).toNat + 1) digits
      · simp [Numeral.scale, zeros]
        omega
    · split
      · refine ⟨by simp, rfl, .inr ⟨by omega, hrange.1, hrange.2, ?_, rfl⟩⟩
        have hzeros : digits ++ zeros (e.toNat + 1 - digits.length) ++ ['0'] =
            digits ++
              List.replicate ((e + 1 - digits.length).toNat + 1) '0' := by
          rw [List.append_assoc, List.replicate_succ', zeros]
          congr 3
          omega
        rw [Numeral.coefficient, hzeros, decimalValue_append_zeros]
      · refine ⟨?_, rfl, .inl ⟨hsplit _, ?_⟩⟩
        · simp only [List.length_drop]
          omega
        · simp only [Numeral.scale, List.length_drop]
          omega
  · rw [if_neg hrange, if_neg hrange]
    refine ⟨?_, rfl, .inl ⟨hsplit 1, ?_⟩⟩
    · simp only [List.length_drop]
      omega
    · by_cases hsign : e < 0
      · simp only [Numeral.scale, List.length_drop, decide_eq_true hsign,
          hexponent]
        omega
      · simp only [Numeral.scale, List.length_drop, decide_eq_false hsign,
          hexponent]
        omega

/-- The numeral that a number is written as is rounded to the number. -/
theorem magnitudeOf_numeral (hd : d.magnitude ≠ 0) :
    magnitudeOf (d.numeral.coefficient * tenTo d.numeral.scale.toNat)
      (tenTo (-d.numeral.scale).toNat) = d.magnitude := by
  rw [← magnitudeOf_digits hd]
  obtain ⟨-, -,
      ⟨hcoefficient, hscale⟩ | ⟨hscaled, -, -, hcoefficient,
        hscale⟩⟩ := numeral_parts hd
  · rw [hcoefficient, hscale]
  · have hnone : (-d.scale).toNat = 0 := by omega
    have hone : tenTo 0 = 1 := rfl
    have hten : tenTo 1 = 10 := rfl
    rw [hcoefficient, hscale, hnone, tenTo_add]
    refine magnitudeOf_congr (tenTo_pos _) (tenTo_pos _) ?_
    simp [hone, hten, Nat.mul_assoc]

theorem negative_numeral (d : Double) : d.numeral.negative = d.negative := by
  unfold numeral
  dsimp only
  split
  · split
    · rfl
    · split <;> rfl
  · rfl

theorem numeral_of_zero (hd : d.magnitude = 0) :
    d.numeral = ⟨d.negative, ['0'], ['0'], none⟩ := by
  have hdigits : d.digits = (['0'], 0) := by rw [digits, if_pos hd]
  rw [numeral, hdigits]
  rfl

theorem firstInfinite_le : firstInfinite ≤ magnitudeOf (tenTo 310) 1 := by
  decide +kernel

/-- The numeral that a number is written as is the number. -/
theorem ofDecimal?_numeral (hd : d.magnitude ≠ 0) :
    ofDecimal? d.numeral.negative d.numeral.coefficient
      d.numeral.scale = some d := by
  have hencoding := magnitudeOf_numeral hd
  have hone : tenTo 0 = 1 := rfl
  rw [negative_numeral]
  generalize d.numeral.coefficient = c at hencoding ⊢
  generalize d.numeral.scale = e at hencoding ⊢
  have hc : c ≠ 0 := by
    rintro rfl
    rw [Nat.zero_mul,
      magnitudeOf_eq_zero (by rw [Nat.zero_mul]; exact tenTo_pos _)]
        at hencoding
    exact hd hencoding.symm
  have hgreat : ¬ 309 < e := by
    intro hgreat
    have hbeyond := firstInfinite_le
    have hpower : 1 * tenTo 310 ≤ c * tenTo e.toNat :=
      Nat.mul_le_mul (Nat.pos_of_ne_zero hc) (tenTo_le (by omega))
    rw [Nat.one_mul] at hpower
    generalize tenTo 310 = power at hbeyond hpower
    have hwhole : (-e).toNat = 0 := by omega
    have hle :=
      magnitudeOf_mono Nat.one_pos Nat.one_pos (Nat.mul_le_mul_right 1 hpower)
    rw [hwhole, hone] at hencoding
    rw [hencoding] at hle
    exact Nat.not_le.2 d.finite (Nat.le_trans hbeyond hle)
  have hsmall : ¬ (c.log2 : Int) + 1076 < -3 * e := by
    intro htiny
    have hwhole : e.toNat = 0 := by omega
    rw [hwhole, hone, Nat.mul_one, magnitudeOf_eq_zero (tiny_of_log2 htiny)]
      at hencoding
    exact hd hencoding.symm
  rw [ofDecimal?, if_neg hc, if_neg hgreat, if_neg hsmall, ofRatio?, hencoding,
    ofMagnitude?, dif_pos d.finite]

theorem toExtended_numeral (d : Double) : d.numeral.toExtended = .finite d := by
  by_cases hd : d.magnitude = 0
  · obtain ⟨negative, magnitude, finite⟩ := d
    obtain rfl : magnitude = 0 := hd
    rw [numeral_of_zero rfl]
    rfl
  · rw [Numeral.toExtended, ofDecimal?_numeral hd]

/-- The text of a number is read as the number. -/
theorem readDouble?_toText (d : Double) : readDouble? d.toText = some d := by
  rw [readDouble?, readExtended?, read?_toText]
  dsimp only
  rw [toExtended_numeral]

/-! ## What is rounded to a number -/

theorem roundsTo_numeral (d : Double) : d.numeral.RoundsTo d :=
  Numeral.roundsTo_of_toExtended d.toExtended_numeral

theorem roundsTo_ofInt {n : Int} (h : n.natAbs ≤ twoTo 64) :
    (Numeral.ofInt n).RoundsTo (Double.ofInt n) := by
  have hscale : (Numeral.ofInt n).scale = 0 := rfl
  have hone : tenTo 0 = 1 := rfl
  have hvalue : (Numeral.ofInt n).numerator = n := by
    rw [Numeral.numerator, hscale, Int.toNat_zero, hone, Nat.mul_one,
      Numeral.coefficient_ofInt]
    simp only [Numeral.ofInt, signedInt, decide_eq_true_eq]
    omega
  rw [Numeral.RoundsTo, hvalue, key_ofInt h]
  rfl

end Double

end TenantTables.Number
