import TenantTables.Proofs.CellReading
import TenantTables.Proofs.Rounding

/-!
# Decimal literals

A text may look like a number in the digits of any script, but what is read as
one is written in the ten ASCII digits: a sign if there is one, digits with at
most one point among or around them, and an exponent if there is one. There is
no white space in such a literal, so nothing of it is lost when the text
around it is trimmed.
-/

namespace TenantTables.Number

open Text (isAsciiDigit)
open Time (isBlank_of_digit)

/-! ## Their form -/

def IsSign (cs : List Char) : Prop :=
  cs = [] ∨ cs = ['+'] ∨ cs = ['-']

def AreDigits (cs : List Char) : Prop :=
  ∀ c ∈ cs, isAsciiDigit c = true

/-- Digits with at most one point among or around them. -/
inductive IsMantissa : List Char → Prop where
  | whole {digits : List Char} : AreDigits digits → digits ≠ [] →
    IsMantissa digits
  | pointed {whole fraction : List Char} : AreDigits whole →
    AreDigits fraction →
      whole ≠ [] ∨ fraction ≠ [] → IsMantissa (whole ++ '.' :: fraction)

inductive IsExponent : List Char → Prop where
  | none : IsExponent []
  | some {e : Char} {sign digits : List Char} : e = 'e' ∨ e = 'E' →
    IsSign sign →
      AreDigits digits → digits ≠ [] → IsExponent (e :: (sign ++ digits))

/-- A sign, a mantissa and an exponent, of which only the mantissa
has to be there. -/
def IsDecimal (s : String) : Prop :=
  ∃ sign mantissa exponent, IsSign sign ∧ IsMantissa mantissa ∧
    IsExponent exponent ∧
    s.toList = sign ++ mantissa ++ exponent

/-! ## What is read as one -/

theorem exists_sign (cs : List Char) :
    ∃ sign, IsSign sign ∧ cs = sign ++ (takeSign cs).2 := by
  unfold takeSign
  split
  · exact ⟨['-'], .inr (.inr rfl), rfl⟩
  · exact ⟨['+'], .inr (.inl rfl), rfl⟩
  · exact ⟨[], .inl rfl, rfl⟩

theorem isExponent_of_exponentOf? {e : Char} {cs : List Char}
    (he : e = 'e' ∨ e = 'E') (h : (exponentOf? isAsciiDigit cs).isSome) :
    IsExponent (e :: cs) := by
  obtain ⟨sign, hsign, hcs⟩ := exists_sign cs
  unfold exponentOf? at h
  dsimp only at h
  split at h
  · next hdigits =>
      rw [Bool.and_eq_true, Bool.not_eq_true', List.isEmpty_eq_false_iff,
        List.all_eq_true]
        at hdigits
      rw [hcs]
      exact .some he hsign hdigits.2 hdigits.1
  · cases h

/-- Behind the mantissa of a numeral nothing or an exponent is read. -/
theorem isExponent_of_rest {negative : Bool} {whole fraction cs : List Char}
    (h : (match cs with
      | [] => some (⟨negative, whole, fraction, none⟩ : Numeral)
      | e :: rest =>
          if e = 'e' ∨ e = 'E' then
            (exponentOf? isAsciiDigit rest).map fun exponent =>
              ⟨negative, whole, fraction, some exponent⟩
          else none).isSome) : IsExponent cs := by
  cases cs with
  | nil => exact .none
  | cons e rest =>
      dsimp only at h
      split at h
      · next he => exact isExponent_of_exponentOf? he (by simpa using h)
      · cases h

/-- What is read as a numeral is a decimal literal. -/
theorem isDecimal_of_read? {s : String}
    (h : (Numeral.read? isAsciiDigit s.toList).isSome) :
    IsDecimal s := by
  obtain ⟨sign, hsign, hs⟩ := exists_sign s.toList
  rcases htakeSign : takeSign s.toList with ⟨negative, body⟩
  rw [htakeSign] at hs
  unfold Numeral.read? at h
  rw [htakeSign] at h
  dsimp only at hs h
  have hdigits (cs : List Char) : AreDigits (cs.takeWhile isAsciiDigit) :=
    fun _ hc => List.mem_takeWhile_imp hc
  have hbody := body.takeWhile_append_dropWhile (p := isAsciiDigit)
  -- Behind the whole part there is a point, which the
  -- fraction follows, or none.
  split at h
  · next rest hpoint =>
      have hrest := rest.takeWhile_append_dropWhile (p := isAsciiDigit)
      rw [hpoint] at hbody
      split at h
      · cases h
      · next hsome =>
          have hsome : body.takeWhile isAsciiDigit ≠ [] ∨
              rest.takeWhile isAsciiDigit ≠ [] := by
            simpa [-List.takeWhile_eq_nil_iff, Classical.or_iff_not_imp_left]
              using hsome
          refine ⟨sign, _, _, hsign,
            .pointed (hdigits body) (hdigits rest) hsome,
            isExponent_of_rest h, ?_⟩
          rw [hs, List.append_assoc, List.append_assoc, List.cons_append,
            hrest, hbody]
  · split at h
    · cases h
    · next hsome =>
        have hsome : body.takeWhile isAsciiDigit ≠ [] := by
          simpa [-List.takeWhile_eq_nil_iff] using hsome
        refine ⟨sign, _, _, hsign, .whole (hdigits body) hsome,
          isExponent_of_rest h, ?_⟩
        rw [hs, List.append_assoc, hbody]

/-- A decimal literal is not empty and has no white space in it. -/
theorem IsDecimal.not_blank {s : String} (h : IsDecimal s) :
    s ≠ "" ∧ ∀ c ∈ s.toList, Text.isBlank c = false := by
  obtain ⟨sign, mantissa, exponent, hsign, hmantissa, hexponent, hs⟩ := h
  have hsigned : ∀ {cs}, IsSign cs → ∀ c ∈ cs, Text.isBlank c = false := by
    rintro _ (rfl | rfl | rfl)
    · exact List.forall_mem_nil _
    · exact List.forall_mem_singleton.2 rfl
    · exact List.forall_mem_singleton.2 rfl
  have hdigits : ∀ {cs}, AreDigits cs → ∀ c ∈ cs, Text.isBlank c = false :=
    fun hcs c hc => isBlank_of_digit (hcs c hc)
  have hmantissa : mantissa ≠ [] ∧ ∀ c ∈ mantissa, Text.isBlank c = false := by
    cases hmantissa with
    | whole hwhole hne => exact ⟨hne, hdigits hwhole⟩
    | pointed hwhole hfraction _ =>
        refine ⟨by simp, fun c hc => ?_⟩
        rw [List.mem_append, List.mem_cons] at hc
        obtain hc | rfl | hc := hc
        · exact hdigits hwhole c hc
        · decide
        · exact hdigits hfraction c hc
  have hexponent : ∀ c ∈ exponent, Text.isBlank c = false := by
    cases hexponent with
    | none => exact List.forall_mem_nil _
    | some he hsign hwritten _ =>
        rw [List.forall_mem_cons, List.forall_mem_append]
        refine ⟨?_, hsigned hsign, hdigits hwritten⟩
        obtain rfl | rfl := he <;> decide
  constructor
  · rintro rfl
    simp [hmantissa.1] at hs
  · rw [hs, List.forall_mem_append, List.forall_mem_append]
    exact ⟨⟨hsigned hsign, hmantissa.2⟩, hexponent⟩

theorem isDecimal_trim {s : String} (h : isNumericLiteral s = true) :
    IsDecimal (Text.trim s) := by
  obtain ⟨d, hd⟩ := Option.isSome_iff_exists.1 h
  obtain ⟨m, hm, -⟩ := literalNumeral?_of_literalValue? hd
  refine isDecimal_of_read? ?_
  rw [Text.trim, String.toList_ofList]
  exact Option.isSome_of_eq_some hm

theorem isNumericLiteral_of_trim {s : String} {n : Int}
    (h : Text.trim s = toString n) (hread : (readDouble? (toString n)).isSome) :
    isNumericLiteral s = true := by
  have hchars : Text.trimChars s.toList = (toString n).toList := by
    rw [← h, Text.trim, String.toList_ofList]
  have hnumeric : isNumeric s = true := by
    rw [isNumeric, hchars, ← trimChars_toString]
    exact isNumeric_toString n
  rw [isNumericLiteral, literalValue?, if_pos hnumeric, h]
  exact hread

end TenantTables.Number
