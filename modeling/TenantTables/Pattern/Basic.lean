import TenantTables.Unicode.CharSet

/-!
# Patterns

Regular expressions as rules and audit settings use them: all that is asked is
whether some part of a text matches. Sequences and alternatives nest to the
right, and the functions that build expressions keep a normal form: literals are
as long as they can be, a set has several members or none, nothing is repeated
exactly once, and what all alternatives start with stands in front of them.
Captures and the preference for long or short repetitions have no part in the
answer; they are kept because they count for the size of a pattern.
-/

namespace TenantTables.Pattern

open Unicode (CharSet)

/-- A condition on the characters around a position, by whether they are word
characters. -/
inductive Edge where
  | any
  | none
  | start
  | finish
  | halfStart
  | halfFinish
  deriving Repr, DecidableEq

/-- A condition on a position in a text. -/
inductive Anchor where
  | textStart
  | textEnd
  | lineStart
  | lineEnd
  /-- Like `lineStart`, where a carriage return ends a line as well, and a line
  feed behind it belongs to it. -/
  | returnStart
  | returnEnd
  /-- An edge of a word, by the word characters of all scripts or of ASCII. -/
  | word (edge : Edge) (allScripts : Bool)
  deriving Repr, DecidableEq

/-- A regular expression. -/
inductive Expr where
  | empty
  | literal (cs : List Char)
  | set (s : CharSet)
  | anchor (a : Anchor)
  /-- At least `least` copies, and at most `most` if there is a bound. -/
  | times (e : Expr) (least : Nat) (most : Option Nat) (greedy : Bool)
  | group (index : Nat) (e : Expr)
  | seq (a b : Expr)
  | alt (a b : Expr)
  deriving Repr, DecidableEq

namespace Expr

/-- Whether the expression matches the empty text and no other. -/
def onlyEmpty : Expr → Bool
  | empty => true
  | literal _ => false
  | set _ => false
  | anchor _ => true
  | times e _ most _ => most.isSome && e.onlyEmpty
  | group _ e => e.onlyEmpty
  | seq a b => a.onlyEmpty && b.onlyEmpty
  | alt a b => a.onlyEmpty && b.onlyEmpty

/-- A lower bound on the length of matches; none if some part
matches nothing. -/
def minLength : Expr → Option Nat
  | empty => some 0
  | literal cs => some cs.length
  | set s => if s.isEmpty then none else some 1
  | anchor _ => some 0
  | times e least _ _ => e.minLength.map (· * least)
  | group _ e => e.minLength
  | seq a b => a.minLength.bind fun m => b.minLength.map (m + ·)
  | alt a b => a.minLength.bind fun m => b.minLength.map (min m ·)

/-- Whether every match is longer than nothing. -/
def consumes (e : Expr) : Bool :=
  e.minLength.any (0 < ·)

/-- Whether all matches have to start where the text starts. -/
def startsAnchored : Expr → Bool
  | anchor a => a = .textStart
  | times e least _ _ => 0 < least && e.startsAnchored
  | group _ e => e.startsAnchored
  | seq a b => a.startsAnchored || (a.onlyEmpty && b.startsAnchored)
  | alt a b => a.startsAnchored && b.startsAnchored
  | _ => false

/-- Whether all matches have to end where the text ends. -/
def endsAnchored : Expr → Bool
  | anchor a => a = .textEnd
  | times e least _ _ => 0 < least && e.endsAnchored
  | group _ e => e.endsAnchored
  | seq a b => b.endsAnchored || (b.onlyEmpty && a.endsAnchored)
  | alt a b => a.endsAnchored && b.endsAnchored
  | _ => false

/-- The parts of a sequence. -/
def parts : Expr → List Expr
  | seq a b => a :: b.parts
  | e => [e]

/-- The branches of an alternative. -/
def branches : Expr → List Expr
  | alt a b => a :: b.branches
  | e => [e]

/-- One character of a set. A set of one character is a literal. -/
def ofSet (s : CharSet) : Expr :=
  match s.single? with
  | some c => literal [c]
  | none => set s

/-- The expression without a match. -/
def never : Expr := set .empty

/-- Repeats an expression. Copies of the empty text beyond the
first say nothing. -/
def repeated (e : Expr) (least : Nat) (most : Option Nat)
    (greedy : Bool) : Expr :=
  let (least, most) :=
    if e.onlyEmpty then (min least 1, some (min (most.getD 1) 1))
    else (least, most)
  if least = 0 ∧ most = some 0 then empty
  else if least = 1 ∧ most = some 1 then e
  else times e least most greedy

/-- Joins literals that stand side by side, and drops what is empty. -/
def joinParts : List Expr → List Expr
  | [] => []
  | e :: rest =>
      match e, joinParts rest with
      | empty, rest => rest
      | literal a, literal b :: rest => literal (a ++ b) :: rest
      | e, rest => e :: rest

/-- Parts in a row, nested to the right. -/
def ofParts : List Expr → Expr
  | [] => empty
  | [e] => e
  | e :: rest => seq e (ofParts rest)

/-- One expression behind the other. -/
def concat (es : List Expr) : Expr :=
  ofParts (joinParts (es.flatMap parts))

/-- Branches side by side, nested to the right. -/
def ofBranches : List Expr → Expr
  | [] => never
  | [e] => e
  | e :: rest => alt e (ofBranches rest)

/-- The only character of a literal that has one. -/
def char? : Expr → Option Char
  | literal [c] => some c
  | _ => none

def set? : Expr → Option CharSet
  | set s => some s
  | _ => none

/-- Branches, where characters side by side are a set, and so are sets. -/
def union (es : List Expr) : Expr :=
  match es.flatMap branches with
  | [] => never
  | [e] => e
  | es =>
      match es.mapM char? with
      | some cs => ofSet (.ofRanges (cs.map fun c => (c.toNat, c.toNat)))
      | none =>
          match es.mapM set? with
          | some sets => ofSet (.unionAll sets)
          | none => ofBranches es

/-- The parts with which two rows of parts start alike. -/
def commonParts : List Expr → List Expr → List Expr
  | a :: as, b :: bs => if a = b then a :: commonParts as bs else []
  | _, _ => []

/-- The parts with which all expressions start, if all are sequences. -/
def sharedStart : List Expr → List Expr
  | [] => []
  | e :: rest =>
      if (e :: rest).all fun e => 1 < e.parts.length then
        rest.foldl (fun shared e => commonParts shared e.parts) e.parts
      else []

/-- Either of some expressions. Parts with which all branches start are put in
front of them. -/
def choice (es : List Expr) : Expr :=
  let e := union es
  let all := e.branches
  match sharedStart all, all with
  | start@(_ :: _), _ :: _ :: _ =>
      concat (start ++
        [union (all.map fun e => concat (e.parts.drop start.length))])
  | _, _ => e

end Expr

end TenantTables.Pattern
