import TenantTables.Text.Utf8
import TenantTables.Unicode.CharSet

/-!
# Sets of characters as bytes

A set of characters, written in UTF-8, is a set of short rows of bytes. A range
of characters is cut into pieces of which each is a row of byte ranges: any
choice of one byte from each range writes a character of the piece. The pieces
of a set are in order, and so are their rows.
-/

namespace TenantTables.Pattern

open Unicode (CharSet)

/-- A range of bytes. -/
abbrev Bytes := Nat × Nat

/-- The bytes that write a code point. -/
def utf8Bytes (n : Nat) : List Nat :=
  (Text.encodeChar (Char.ofNat n)).map UInt8.toNat

/-- Cuts a range so that each piece but the last has the same bytes up to some
place and all bytes behind it. The blocks of one size are those that as many
continuation bytes tell apart. -/
def cutBlocks : List Nat → Nat → Nat → List (Nat × Nat)
  | [], a, b => [(a, b)]
  | size :: sizes, a, b =>
      if a / size = b / size then [(a, b)]
      else
        let front :=
          if a % size = 0 then [] else [(a, a / size * size + size - 1)]
        let a := if a % size = 0 then a else a / size * size + size
        if a / size = b / size then front ++ [(a, b)]
        else
          let start := b / size * size
          if b % size = size - 1 then front ++ cutBlocks sizes a b
          else front ++ cutBlocks sizes a (start - 1) ++ [(start, b)]

/-- Code points with as many bytes, without the surrogates, and the sizes of the
blocks of their continuation bytes. -/
def widths : List ((Nat × Nat) × List Nat) := [
  ((0, 0x7F), []),
  ((0x80, 0x7FF), [0x40]),
  ((0x800, 0xD7FF), [0x40, 0x1000]),
  ((0xE000, 0xFFFF), [0x40, 0x1000]),
  ((0x10000, 0x10FFFF), [0x40, 0x1000, 0x40000])]

/-- The rows of byte ranges of a range of characters. -/
def rowsOfRange (range : Nat × Nat) : List (List Bytes) :=
  widths.flatMap fun ((first, last), sizes) =>
    let a := max first range.1
    let b := min last range.2
    if b < a then []
    else (cutBlocks sizes a b).map fun (a, b) => (utf8Bytes a).zip (utf8Bytes b)

/-- The rows of byte ranges of a set. -/
def rowsOfSet (s : CharSet) : List (List Bytes) :=
  s.ranges.flatMap rowsOfRange

end TenantTables.Pattern
