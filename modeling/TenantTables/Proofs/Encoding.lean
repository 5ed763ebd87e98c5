import Mathlib.Data.List.Basic
import TenantTables.Text.Percent

/-!
# Bytes that come back as text

The bytes of a character are read back one after the other: the lead byte says
how many follow and between which bounds the next one lies, and every byte adds
its six bits. The bounds exclude what no character has, so they hold here. What
follows the character is read from the idle state, and so the bytes of a text
are read as the text in front of any other bytes.

Percent encoding is undone byte by byte. Which characters stand for themselves
is up to the writer, as long as the percent sign does not.
-/

namespace TenantTables.Text

/-! ## One byte -/

theorem toNat_byte {n : Nat} (h : n < 256) : n.toUInt8.toNat = n := by
  exact UInt8.toNat_ofNat_of_lt h

/-- The bytes in order, and the text they write. -/
def Reads (state : Pending) (bytes : List UInt8) (cs : List Char) : Prop :=
  ∀ rest, decodeFrom state (bytes ++ rest) =
    ((decodeFrom .idle rest).1, cs ++ (decodeFrom .idle rest).2)

theorem reads_nil : Reads .idle [] [] := fun _ => rfl

theorem Reads.append {state : Pending} {bytes more : List UInt8}
    {cs ds : List Char} (h : Reads state bytes cs)
    (hmore : Reads .idle more ds) :
    Reads state (bytes ++ more) (cs ++ ds) := by
  intro rest
  rw [List.append_assoc, h, hmore, List.append_assoc]

theorem reads_last {value low high b n : Nat} (hn : value * 64 + b % 64 = n)
    (hlow : low ≤ b) (hhigh : b ≤ high) (hb : b < 256) :
    Reads (.waiting value low high 0) [b.toUInt8] [Char.ofNat n] := by
  intro rest
  rw [List.singleton_append, decodeFrom, toNat_byte hb, decodeStep,
    if_pos ⟨hlow, hhigh⟩, ← hn]
  simp

/-- A byte of a character with others behind it. -/
theorem Reads.more {value low high more b : Nat} {bytes : List UInt8}
    {cs : List Char}
    (h : Reads (.waiting (value * 64 + b % 64) 0x80 0xBF more) bytes cs)
    (hlow : low ≤ b) (hhigh : b ≤ high) (hb : b < 256) :
    Reads (.waiting value low high (more + 1)) (b.toUInt8 :: bytes) cs := by
  intro rest
  rw [List.cons_append, decodeFrom, toNat_byte hb, decodeStep,
    if_pos ⟨hlow, hhigh⟩]
  simp [h rest]

/-- The first byte of a character that has several. -/
theorem Reads.lead {lead : Lead} {b : Nat} {bytes : List UInt8} {cs : List Char}
    (h : Reads (.waiting lead.bits lead.low lead.high lead.more) bytes cs)
    (hlead : Lead.of? b = some lead) (hlow : 0x80 ≤ b) (hb : b < 256) :
    Reads .idle (b.toUInt8 :: bytes) cs := by
  intro rest
  rw [List.cons_append, decodeFrom, toNat_byte hb, decodeStep, decodeFresh,
    if_neg (by omega), hlead]
  simp [h rest]

/-! ## One character -/

/-- The lead byte of three admits the second byte of every character. -/
theorem lead_of_three {n : Nat} (hlow : 0x800 ≤ n) (hhigh : n < 0x10000)
    (hscalar : n < 0xD800 ∨ 0xDFFF < n) :
    ∃ low high, Lead.of? (0xE0 + n / 4096) = some ⟨n / 4096, low, high, 1⟩ ∧
      low ≤ 0x80 + n / 64 % 64 ∧ 0x80 + n / 64 % 64 ≤ high := by
  by_cases hfirst : n / 4096 = 0
  · exact ⟨0xA0, 0xBF, by rw [hfirst]; rfl, by omega, by omega⟩
  · by_cases hsurrogate : n / 4096 = 0xD
    · exact ⟨0x80, 0x9F, by rw [hsurrogate]; rfl, by omega, by omega⟩
    · refine ⟨0x80, 0xBF, ?_, by omega, by omega⟩
      rw [Lead.of?, if_neg (by omega), if_neg (by omega), if_neg (by omega),
        if_pos (by omega), Nat.add_sub_cancel_left]

theorem lead_of_four {n : Nat} (hlow : 0x10000 ≤ n) (hhigh : n < 0x110000) :
    ∃ low high, Lead.of? (0xF0 + n / 262144) = some ⟨n / 262144, low, high, 2⟩ ∧
      low ≤ 0x80 + n / 4096 % 64 ∧ 0x80 + n / 4096 % 64 ≤ high := by
  by_cases hfirst : n / 262144 = 0
  · exact ⟨0x90, 0xBF, by rw [hfirst]; rfl, by omega, by omega⟩
  · by_cases hlast : n / 262144 = 4
    · exact ⟨0x80, 0x8F, by rw [hlast]; rfl, by omega, by omega⟩
    · refine ⟨0x80, 0xBF, ?_, by omega, by omega⟩
      rw [Lead.of?, if_neg (by omega), if_neg (by omega), if_neg (by omega),
        if_neg (by omega), if_neg (by omega), if_pos (by omega),
        Nat.add_sub_cancel_left]

theorem reads_two {n : Nat} (hlow : 0x80 ≤ n) (hhigh : n < 0x800) :
    Reads .idle [(0xC0 + n / 64).toUInt8, (0x80 + n % 64).toUInt8]
      [Char.ofNat n] := by
  have hlead : Lead.of? (0xC0 + n / 64) = some ⟨n / 64, 0x80, 0xBF, 0⟩ := by
    rw [Lead.of?, if_pos (by omega), Nat.add_sub_cancel_left]
  have hlast :
      Reads (.waiting (n / 64) 0x80 0xBF 0) [(0x80 + n % 64).toUInt8]
        [Char.ofNat n] :=
    reads_last (by omega) (by omega) (by omega) (by omega)
  exact hlast.lead hlead (by omega) (by omega)

theorem reads_three {n : Nat} (hlow : 0x800 ≤ n) (hhigh : n < 0x10000)
    (hscalar : n < 0xD800 ∨ 0xDFFF < n) :
    Reads .idle [(0xE0 + n / 4096).toUInt8, (0x80 + n / 64 % 64).toUInt8,
      (0x80 + n % 64).toUInt8] [Char.ofNat n] := by
  obtain ⟨low, high, hlead, hsecond⟩ := lead_of_three hlow hhigh hscalar
  have hlast :
      Reads (.waiting (n / 4096 * 64 + (0x80 + n / 64 % 64) % 64) 0x80 0xBF 0)
        [(0x80 + n % 64).toUInt8] [Char.ofNat n] :=
    reads_last (by omega) (by omega) (by omega) (by omega)
  exact (hlast.more hsecond.1 hsecond.2 (by omega)).lead hlead (by omega)
    (by omega)

theorem reads_four {n : Nat} (hlow : 0x10000 ≤ n) (hhigh : n < 0x110000) :
    Reads .idle [(0xF0 + n / 262144).toUInt8, (0x80 + n / 4096 % 64).toUInt8,
      (0x80 + n / 64 % 64).toUInt8, (0x80 + n % 64).toUInt8]
      [Char.ofNat n] := by
  obtain ⟨low, high, hlead, hsecond⟩ := lead_of_four hlow hhigh
  have hlast :
      Reads
        (.waiting ((n / 262144 * 64 + (0x80 + n / 4096 % 64) % 64) * 64 +
          (0x80 + n / 64 % 64) % 64) 0x80 0xBF 0)
        [(0x80 + n % 64).toUInt8] [Char.ofNat n] :=
    reads_last (by omega) (by omega) (by omega) (by omega)
  have hthird :
      Reads (.waiting (n / 262144 * 64 + (0x80 + n / 4096 % 64) % 64)
        0x80 0xBF 1)
        [(0x80 + n / 64 % 64).toUInt8, (0x80 + n % 64).toUInt8]
        [Char.ofNat n] :=
    hlast.more (by omega) (by omega) (by omega)
  exact (hthird.more hsecond.1 hsecond.2 (by omega)).lead hlead (by omega)
    (by omega)

theorem reads_encodeChar (c : Char) : Reads .idle (encodeChar c) [c] := by
  have hscalar : c.toNat < 0xD800 ∨ (0xDFFF < c.toNat ∧ c.toNat < 0x110000) :=
    c.valid
  have hc : [c] = [Char.ofNat c.toNat] := by rw [Char.ofNat_toNat]
  rw [encodeChar, hc]
  generalize c.toNat = n at hscalar
  by_cases hone : n < 0x80
  · rw [if_pos hone]
    intro rest
    rw [List.singleton_append, decodeFrom, toNat_byte (by omega), decodeStep,
      decodeFresh, if_pos hone]
    simp
  rw [if_neg hone]
  by_cases htwo : n < 0x800
  · rw [if_pos htwo]
    exact reads_two (by omega) htwo
  rw [if_neg htwo]
  by_cases hthree : n < 0x10000
  · rw [if_pos hthree]
    exact reads_three (by omega) hthree (by omega)
  · rw [if_neg hthree]
    exact reads_four (by omega) (by omega)

theorem encodeChar_ne_nil (c : Char) : encodeChar c ≠ [] := by
  rw [encodeChar]
  split
  · exact List.cons_ne_nil _ _
  · split
    · exact List.cons_ne_nil _ _
    · split <;> exact List.cons_ne_nil _ _

/-- ASCII bytes stand for themselves only. -/
theorem toNat_of_mem_encodeChar {c : Char} {b : UInt8} (h : b ∈ encodeChar c)
    (hb : b.toNat < 0x80) : c.toNat = b.toNat := by
  have hscalar : c.toNat < 0xD800 ∨ (0xDFFF < c.toNat ∧ c.toNat < 0x110000) :=
    c.valid
  have hbyte : ∀ m < 256, b = m.toUInt8 → b.toNat = m := by
    rintro m hm rfl
    exact toNat_byte hm
  rw [encodeChar] at h
  generalize c.toNat = n at h hscalar
  split at h
  · rw [List.mem_singleton] at h
    exact (hbyte n (by omega) h).symm
  · have hhigh : ∀ m < 256, 0x80 ≤ m → b ≠ m.toUInt8 := by
      intro m hm hlow heq
      have htoNat := hbyte m hm heq
      omega
    split at h
    · simp only [List.mem_cons, List.not_mem_nil, or_false] at h
      obtain h | h := h <;> exact absurd h (hhigh _ (by omega) (by omega))
    · split at h <;> simp only [List.mem_cons, List.not_mem_nil, or_false] at h
      · obtain h | h | h := h <;> exact absurd h (hhigh _ (by omega) (by omega))
      · obtain h | h | h | h := h <;>
          exact absurd h (hhigh _ (by omega) (by omega))

/-! ## A text -/

theorem reads_encodeChars (cs : List Char) :
    Reads .idle (cs.flatMap encodeChar) cs := by
  induction cs with
  | nil => exact reads_nil
  | cons c cs ih =>
      rw [List.flatMap_cons]
      exact (reads_encodeChar c).append ih

theorem decodeFrom_encodeUtf8 (s : String) :
    decodeFrom .idle (encodeUtf8 s) = (true, s.toList) := by
  have h := reads_encodeChars s.toList []
  rwa [List.append_nil, decodeFrom, List.append_nil] at h

@[simp]
theorem decodeUtf8?_encodeUtf8 (s : String) :
    decodeUtf8? (encodeUtf8 s) = some s := by
  rw [decodeUtf8?, decodeFrom_encodeUtf8]
  simp

@[simp]
theorem decodeLossy_encodeUtf8 (s : String) :
    decodeLossy (encodeUtf8 s) = s := by
  rw [decodeLossy, decodeFrom_encodeUtf8, String.ofList_toList]

/-! ## Percent encoding -/

/-- A hexadecimal digit, in capitals. -/
def hexDigit (n : Nat) : Char :=
  Char.ofNat (if n < 10 then 48 + n else 55 + n)

def escape (b : UInt8) : List Char :=
  ['%', hexDigit (b.toNat / 16), hexDigit (b.toNat % 16)]

/-- A text with the bytes of all characters escaped but the plain ones. -/
def percentEncode (plain : Char → Bool) (s : String) : String :=
  String.ofList (s.toList.flatMap fun c =>
    if plain c then [c] else (encodeChar c).flatMap escape)

theorem hexValue?_hexDigit : ∀ n < 16, hexValue? (hexDigit n) = some n := by
  decide

theorem percentBytes_escape (b : UInt8) (rest : List Char) :
    percentBytes (escape b ++ rest) = b :: percentBytes rest := by
  have hb : b.toNat < 256 := b.toNat_lt
  have hbyte : (16 * (b.toNat / 16) + b.toNat % 16).toUInt8 = b := by
    rw [Nat.div_add_mod]
    exact UInt8.ofNat_toNat
  simp only [escape, List.cons_append, List.nil_append, percentBytes,
    hexValue?_hexDigit (b.toNat / 16) (by omega),
    hexValue?_hexDigit (b.toNat % 16) (by omega), hbyte]

theorem percentBytes_escapes (bytes : List UInt8) (rest : List Char) :
    percentBytes (bytes.flatMap escape ++ rest) =
      bytes ++ percentBytes rest := by
  induction bytes with
  | nil => rfl
  | cons b bytes ih =>
      rw [List.flatMap_cons, List.append_assoc, percentBytes_escape, ih,
        List.cons_append]

theorem percentBytes_cons {c : Char} (h : c ≠ '%') (rest : List Char) :
    percentBytes (c :: rest) = encodeChar c ++ percentBytes rest := by
  rw [percentBytes]
  rintro high low after rfl
  exact absurd rfl h

theorem percentDecode_of_not_mem {s : String} (h : '%' ∉ s.toList) :
    percentDecode s = s := by
  have hbytes : ∀ cs : List Char, '%' ∉ cs →
      percentBytes cs = cs.flatMap encodeChar := by
    intro cs hcs
    induction cs with
    | nil => rfl
    | cons c cs ih =>
        rw [List.mem_cons, not_or] at hcs
        rw [percentBytes_cons (Ne.symm hcs.1), ih hcs.2, List.flatMap_cons]
  rw [percentDecode, hbytes _ h]
  exact decodeLossy_encodeUtf8 s

/-- Decoding undoes encoding, whatever else stands for itself. -/
theorem percentDecode_percentEncode {plain : Char → Bool}
    (h : plain '%' = false) (s : String) :
    percentDecode (percentEncode plain s) = s := by
  have hbytes : ∀ cs : List Char, percentBytes
      (cs.flatMap fun c => if plain c then [c]
        else (encodeChar c).flatMap escape) =
        cs.flatMap encodeChar := by
    intro cs
    induction cs with
    | nil => rfl
    | cons c cs ih =>
        rw [List.flatMap_cons, List.flatMap_cons]
        split
        · next hc =>
            have hne : c ≠ '%' := by
              rintro rfl
              rw [h] at hc
              exact absurd hc Bool.false_ne_true
            rw [List.singleton_append, percentBytes_cons hne, ih]
        · rw [percentBytes_escapes, ih]
  rw [percentDecode, percentEncode, String.toList_ofList, hbytes]
  exact decodeLossy_encodeUtf8 s

/-- The characters of escapes. -/
def escapeChars : List Char :=
  ['%', '0', '1', '2', '3', '4', '5', '6', '7', '8', '9', 'A', 'B', 'C', 'D',
    'E', 'F']

theorem hexDigit_mem_escapeChars : ∀ n < 16, hexDigit n ∈ escapeChars := by
  decide

theorem mem_escapeChars_of_mem_escape {b : UInt8} {c : Char}
    (h : c ∈ escape b) :
    c ∈ escapeChars := by
  have hb : b.toNat < 256 := b.toNat_lt
  simp only [escape, List.mem_cons, List.not_mem_nil, or_false] at h
  obtain rfl | rfl | rfl := h
  · exact List.mem_cons_self ..
  · exact hexDigit_mem_escapeChars _ (by omega)
  · exact hexDigit_mem_escapeChars _ (by omega)

theorem mem_percentEncode {plain : Char → Bool} {s : String} {c : Char}
    (h : c ∈ (percentEncode plain s).toList) :
    plain c = true ∨ c ∈ escapeChars := by
  rw [percentEncode, String.toList_ofList] at h
  obtain ⟨d, -, hd⟩ := List.mem_flatMap.1 h
  split at hd
  · next hplain =>
      rw [List.mem_singleton.1 hd]
      exact .inl hplain
  · obtain ⟨b, -, hb⟩ := List.mem_flatMap.1 hd
    exact .inr (mem_escapeChars_of_mem_escape hb)

end TenantTables.Text
