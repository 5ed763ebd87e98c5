import TenantTables.Pattern.Basic
import TenantTables.Unicode.Property

/-!
# Matching patterns

A set of positions of a text is a natural number: position `i` belongs to it if
its bit `i` is set. On a given text an expression is a function between such
sets, from the positions where matches start to those where they end. A class
keeps the positions in front of its characters and moves them by one, an anchor
keeps those that meet its condition, sequences compose, and alternatives unite.

The function of a repetition is reached by rounds of one copy. A round that adds
no position is the last, and a text of `n` characters has `n + 1` positions, so
there are at most `n + 2` rounds beyond the least number of copies.
-/

namespace TenantTables.Pattern

open Unicode (CharSet)

/-- The set of positions from some point on that pass a test,
moved to the front. -/
def positionsFrom (passes : Nat → Bool) (start count : Nat) : Nat :=
  if count ≤ 1 then if count = 1 ∧ passes start then 1 else 0
  else
    let half := count / 2
    positionsFrom passes start half |||
      positionsFrom passes (start + half) (count - half) <<< half
termination_by count

/-- The set of the positions of a text that pass a test, its end included. -/
def positionsWhere (size : Nat) (passes : Nat → Bool) : Nat :=
  positionsFrom passes 0 (size + 1)

/-- What an expression does to sets of positions of one text. -/
inductive Walk where
  | stay
  /-- Moves the positions of a set by one. -/
  | step (among : Nat)
  /-- Keeps the positions of a set. -/
  | keep (among : Nat)
  | both (a b : Walk)
  | either (a b : Walk)
  | times (w : Walk) (least : Nat) (most : Option Nat)

/-- Applies a function several times, until that changes nothing. -/
def iterate (f : Nat → Nat) : Nat → Nat → Nat
  | 0, set => set
  | n + 1, set =>
      let next := f set
      if next = set then set else iterate f n next

/-- The positions reached in at most so many rounds from those in front, which
are among the known ones. -/
def closure (f : Nat → Nat) : Nat → Nat → Nat → Nat
  | 0, known, _ => known
  | n + 1, known, front =>
      let all := known ||| f front
      if all = known then known else closure f n all (all ^^^ known)

/-- The positions where walks from a set end. `rounds` is more than the number
of positions of the text. -/
def Walk.run (rounds : Nat) : Walk → Nat → Nat
  | stay, set => set
  | step among, set => (set &&& among) <<< 1
  | keep among, set => set &&& among
  | both a b, set =>
      let middle := a.run rounds set
      if middle = 0 then 0 else b.run rounds middle
  | either a b, set => a.run rounds set ||| b.run rounds set
  | times w least most, set =>
      let start := iterate (w.run rounds) least set
      let further := most.elim rounds fun most => min rounds (most - least)
      closure (w.run rounds) further start start

/-- The word characters of ASCII. -/
def asciiWords : CharSet :=
  ⟨[(0x30, 0x39), (0x41, 0x5A), (0x5F, 0x5F), (0x61, 0x7A)]⟩

/-- Whether the characters around a position meet a condition, by whether there
is a word character on each side. -/
def Edge.holds (edge : Edge) (before after : Bool) : Bool :=
  match edge with
  | .any => before != after
  | .none => before == after
  | .start => !before && after
  | .finish => before && !after
  | .halfStart => !before
  | .halfFinish => !after

/-- Whether a position meets a condition. -/
def Anchor.holds (a : Anchor) (text : Array Char) (i : Nat) : Bool :=
  let before := if i = 0 then none else text[i - 1]?
  let after := text[i]?
  match a with
  | .textStart => before.isNone
  | .textEnd => after.isNone
  | .lineStart => before.all (· == '\n')
  | .lineEnd => after.all (· == '\n')
  | .returnStart =>
      before.all (fun c => c == '\n' || (c == '\r' && after != some '\n'))
  | .returnEnd =>
      after.all (fun c => c == '\r' || (c == '\n' && before != some '\r'))
  | .word edge allScripts =>
      let words := if allScripts then Unicode.words else asciiWords
      edge.holds (before.any words.holds) (after.any words.holds)

/-- What the expression does on a text. -/
def Expr.walk (text : Array Char) : Expr → Walk
  | empty => .stay
  | literal cs =>
      cs.foldr (fun c w =>
        .both (.step (positionsWhere text.size fun i => text[i]? == some c)) w)
        .stay
  | set s => .step (positionsWhere text.size fun i => text[i]?.any s.holds)
  | anchor a => .keep (positionsWhere text.size (a.holds text))
  | times e least most _ => .times (e.walk text) least most
  | group _ e => e.walk text
  | seq a b => .both (a.walk text) (b.walk text)
  | alt a b => .either (a.walk text) (b.walk text)

/-- Whether some part of a text matches. -/
def Expr.isMatch (e : Expr) (s : String) : Bool :=
  let text := s.toList.toArray
  (e.walk text).run (text.size + 2)
    (positionsWhere text.size fun _ => true) != 0

end TenantTables.Pattern
