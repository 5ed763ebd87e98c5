/-!
# UTF-8

Bytes arrive from percent-encoded queries and from files. A query never fails:
each maximal part that is not UTF-8 reads as one replacement character. A file
does fail, so the strict reader says whether every byte was used.

The table of lead bytes is the one of the Unicode standard: it excludes
overlong forms, surrogates and everything above U+10FFFF by narrowing the
second byte.
-/

namespace TenantTables.Text

/-- The bytes of one character. -/
def encodeChar (c : Char) : List UInt8 :=
  let n := c.toNat
  if n < 0x80 then [n.toUInt8]
  else if n < 0x800 then [(0xC0 + n / 64).toUInt8, (0x80 + n % 64).toUInt8]
  else if n < 0x10000 then
    [(0xE0 + n / 4096).toUInt8, (0x80 + n / 64 % 64).toUInt8,
      (0x80 + n % 64).toUInt8]
  else
    [(0xF0 + n / 262144).toUInt8, (0x80 + n / 4096 % 64).toUInt8,
      (0x80 + n / 64 % 64).toUInt8, (0x80 + n % 64).toUInt8]

/-- The bytes of a text. -/
def encodeUtf8 (s : String) : List UInt8 :=
  s.toList.flatMap encodeChar

/-- What a lead byte asks for: its own bits, the range of the byte that follows
it, and how many plain continuation bytes come after that one. -/
structure Lead where
  bits : Nat
  low : Nat
  high : Nat
  more : Nat
  deriving Repr, DecidableEq

/-- The sequence a lead byte announces; `none` for a byte that opens none. -/
def Lead.of? (b : Nat) : Option Lead :=
  if 0xC2 ≤ b ∧ b ≤ 0xDF then some ⟨b - 0xC0, 0x80, 0xBF, 0⟩
  else if b = 0xE0 then some ⟨0, 0xA0, 0xBF, 1⟩
  else if b = 0xED then some ⟨0xD, 0x80, 0x9F, 1⟩
  else if 0xE1 ≤ b ∧ b ≤ 0xEF then some ⟨b - 0xE0, 0x80, 0xBF, 1⟩
  else if b = 0xF0 then some ⟨0, 0x90, 0xBF, 2⟩
  else if 0xF1 ≤ b ∧ b ≤ 0xF3 then some ⟨b - 0xF0, 0x80, 0xBF, 2⟩
  else if b = 0xF4 then some ⟨4, 0x80, 0x8F, 2⟩
  else none

/-- A decoding in progress: nothing open, or a sequence that still
waits for bytes. -/
inductive Pending where
  | idle
  | waiting (value : Nat) (low high : Nat) (more : Nat)
  deriving Repr, DecidableEq

/-- One byte read with no sequence open: what it writes, and what it opens.
The flag tells whether the byte was in order. -/
def decodeFresh (b : Nat) : Bool × List Char × Pending :=
  if b < 0x80 then (true, [Char.ofNat b], .idle)
  else
    match Lead.of? b with
    | some lead => (true, [], .waiting lead.bits lead.low lead.high lead.more)
    | none => (false, ['\uFFFD'], .idle)

/-- One byte read in a given state. A byte that breaks an open sequence closes
it with a replacement character and is read afresh. -/
def decodeStep (state : Pending) (b : Nat) : Bool × List Char × Pending :=
  match state with
  | .idle => decodeFresh b
  | .waiting value low high more =>
      if low ≤ b ∧ b ≤ high then
        let value := value * 64 + b % 64
        match more with
        | 0 => (true, [Char.ofNat value], .idle)
        | more + 1 => (true, [], .waiting value 0x80 0xBF more)
      else
        let (_, written, next) := decodeFresh b
        (false, '\uFFFD' :: written, next)

/-- Reads all bytes from a state. The flag tells whether all of
them were in order. -/
def decodeFrom (state : Pending) : List UInt8 → Bool × List Char
  | [] =>
      match state with
      | .idle => (true, [])
      | .waiting .. => (false, ['\uFFFD'])
  | b :: bytes =>
      let (fine, written, next) := decodeStep state b.toNat
      let (restFine, rest) := decodeFrom next bytes
      (fine && restFine, written ++ rest)

/-- The text of the bytes, with a replacement character for each maximal part
that is not UTF-8. -/
def decodeLossy (bytes : List UInt8) : String :=
  String.ofList (decodeFrom .idle bytes).2

/-- The text of the bytes, if they are UTF-8. -/
def decodeUtf8? (bytes : List UInt8) : Option String :=
  let (fine, chars) := decodeFrom .idle bytes
  if fine then some (String.ofList chars) else none

end TenantTables.Text
