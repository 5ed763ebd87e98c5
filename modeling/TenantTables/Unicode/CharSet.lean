import TenantTables.Text.Split

/-!
# Sets of characters

A set is a list of ranges of scalar values, in order and with a gap between any
two. Every operation keeps that form, so a set has one list of ranges. The
surrogates are no characters: the neighbours of U+D7FF and U+E000 on the inner
side are each other.

Tables write a set as hexadecimal ranges between blanks. A range that ends in
`/2` holds every second code point from its first to its last.
-/

namespace TenantTables.Unicode

/-- A set of characters. -/
structure CharSet where
  ranges : List (Nat × Nat)
  deriving Repr, DecidableEq

namespace CharSet

/-- The largest scalar value. -/
def lastScalar : Nat := 0x10FFFF

/-- The scalar value that follows. -/
def next (n : Nat) : Nat :=
  if n = 0xD7FF then 0xE000 else n + 1

/-- The scalar value in front. -/
def prev (n : Nat) : Nat :=
  if n = 0xE000 then 0xD7FF else n - 1

/-- Joins ranges in order that overlap or touch. -/
def coalesce : List (Nat × Nat) → List (Nat × Nat)
  | (a, b) :: (c, d) :: rest =>
      if c ≤ b + 1 then coalesce ((a, max b d) :: rest)
      else (a, b) :: coalesce ((c, d) :: rest)
  | short => short
termination_by ranges => ranges.length

/-- The union of any ranges. -/
def ofRanges (ranges : List (Nat × Nat)) : CharSet :=
  ⟨coalesce (ranges.mergeSort fun r s =>
    r.1 < s.1 || (r.1 == s.1 && r.2 ≤ s.2))⟩

def empty : CharSet := ⟨[]⟩

/-- All characters. -/
def all : CharSet := ⟨[(0, lastScalar)]⟩

/-- The set of one character. -/
def just (c : Char) : CharSet := ⟨[(c.toNat, c.toNat)]⟩

/-- The characters between two. -/
def span (a b : Char) : CharSet := ⟨[(a.toNat, b.toNat)]⟩

/-- Whether the set holds a code point. -/
def hasCode (s : CharSet) (n : Nat) : Bool :=
  s.ranges.any fun (a, b) => a ≤ n && n ≤ b

/-- Whether the set holds a character. -/
def holds (s : CharSet) (c : Char) : Bool :=
  s.hasCode c.toNat

def isEmpty (s : CharSet) : Bool :=
  s.ranges.isEmpty

/-- Whether all members are ASCII characters. -/
def isAscii (s : CharSet) : Bool :=
  s.ranges.all fun (_, b) => b < 128

/-- The only member of a set that has one. -/
def single? (s : CharSet) : Option Char :=
  match s.ranges with
  | [(a, b)] => if a = b then some (Char.ofNat a) else none
  | _ => none

/-- The members of any of the sets. -/
def unionAll (sets : List CharSet) : CharSet :=
  ofRanges (sets.flatMap ranges)

def union (s t : CharSet) : CharSet :=
  unionAll [s, t]

/-- The ranges common to two lists of ranges. -/
def meet : List (Nat × Nat) → List (Nat × Nat) → List (Nat × Nat)
  | (a, b) :: rs, (c, d) :: ss =>
      let rest :=
        if b < d then meet rs ((c, d) :: ss) else meet ((a, b) :: rs) ss
      if max a c ≤ min b d then (max a c, min b d) :: rest else rest
  | _, _ => []
termination_by rs ss => rs.length + ss.length

def inter (s t : CharSet) : CharSet :=
  ⟨meet s.ranges t.ranges⟩

/-- What the second list of ranges leaves of the first. -/
def remove : List (Nat × Nat) → List (Nat × Nat) → List (Nat × Nat)
  | [], _ => []
  | rs, [] => rs
  | (a, b) :: rs, (c, d) :: ss =>
      if b < c then (a, b) :: remove rs ((c, d) :: ss)
      else if d < a then remove ((a, b) :: rs) ss
      else
        let rest :=
          if d < b then remove ((next d, b) :: rs) ss
          else remove rs ((c, d) :: ss)
        if a < c then (a, prev c) :: rest else rest
termination_by rs ss => rs.length + ss.length

def diff (s t : CharSet) : CharSet :=
  ⟨remove s.ranges t.ranges⟩

/-- The members of one set or the other, but not of both. -/
def symmDiff (s t : CharSet) : CharSet :=
  (s.union t).diff (s.inter t)

/-- The range between two ends, whichever is the first. -/
def between (a b : Nat) : Nat × Nat := (min a b, max a b)

/-- The gaps behind each range. -/
def gaps : List (Nat × Nat) → List (Nat × Nat)
  | [] => []
  | [(_, b)] => if b < lastScalar then [(next b, lastScalar)] else []
  | (_, b) :: (c, d) :: rest =>
      between (next b) (prev c) :: gaps ((c, d) :: rest)

/-- The characters outside the set. Where one range ends at U+D7FF and the next
starts at U+E000 nothing lies between them, and each is the other's neighbour:
the gap there consists of these two. -/
def compl (s : CharSet) : CharSet :=
  match s.ranges with
  | [] => all
  | (a, b) :: rest =>
      let front := if 0 < a then [(0, prev a)] else []
      ⟨front ++ gaps ((a, b) :: rest)⟩

/-- The number that upper case hexadecimal digits write. -/
def hexValue (digits : List Char) : Nat :=
  digits.foldl
    (fun n c => 16 * n + if c.toNat < 58 then c.toNat - 48 else c.toNat - 55) 0

/-- The ranges that an entry of a table stands for. -/
def entryRanges (entry : List Char) : List (Nat × Nat) :=
  let first := hexValue (entry.takeWhile Char.isAlphanum)
  match entry.dropWhile Char.isAlphanum with
  | [] => [(first, first)]
  | _ :: rest =>
      let last := hexValue (rest.takeWhile Char.isAlphanum)
      if rest.all Char.isAlphanum then [(first, last)]
      else (List.range ((last - first) / 2 + 1)).map fun i =>
        (first + 2 * i, first + 2 * i)

/-- The set that the lines of a table write. -/
def ofTable (lines : List String) : CharSet :=
  ⟨lines.flatMap fun line => (Text.split ' ' line).flatMap fun entry =>
    entryRanges entry.toList⟩

end CharSet

end TenantTables.Unicode
