import Std.Data.HashMap
import TenantTables.Pattern.Basic
import TenantTables.Pattern.Utf8

/-!
# How large a pattern may be

A pattern is carried out by an automaton that reads bytes, once from left to
right with its groups recorded, and once from right to left without. A pattern
of which one of the two takes more than ten mebibytes is refused. The states are
counted here, not built: 32 bytes each, 8 for every range of bytes that leaves a
state with several, and 4 for every branch of a state that only branches.

Characters outside ASCII take several states, and those that end alike share
them. States are told apart by their numbers, in the order in which they are
made, and what is shared is looked up in a table with one place per hash value,
so the count depends on the states in front.
-/

namespace TenantTables.Pattern

open Unicode (CharSet)

/-- The states so far, and the bytes that their ranges and branches take. -/
structure Tally where
  states : Nat := 0
  links : Nat := 0
  deriving Repr, DecidableEq

/-- The bytes of a state itself, of a range, and of a branch. -/
def stateBytes : Nat := 32

def rangeBytes : Nat := 8

def branchBytes : Nat := 4

def maxBytes : Nat := 10 * 1024 * 1024

namespace Tally

def bytes (t : Tally) : Nat :=
  stateBytes * t.states + t.links

/-- Counts states, and the bytes of what leaves them, unless
that is too much. -/
def add (t : Tally) (states links : Nat) : Option Tally :=
  let t : Tally := ⟨t.states + states, t.links + links⟩
  if t.bytes ≤ maxBytes then some t else none

/-- A state without ranges and branches. -/
def addPlain (t : Tally) : Option Tally := t.add 1 0

/-- A state of two branches. -/
def addFork (t : Tally) : Option Tally := t.add 1 (2 * branchBytes)

end Tally

/-- The way in which an automaton reads. -/
inductive Direction where
  | forward
  | backward
  deriving Repr, DecidableEq

/-- The hash value of some numbers, one after the other. -/
def hashOf (numbers : List Nat) : UInt64 :=
  numbers.foldl (fun h n => (h ^^^ n.toUInt64) * 1099511628211)
    14695981039346656037

/-- States that may be shared: at each place the last one made there. -/
structure Shared where
  places : Nat
  made : Std.HashMap Nat (List Nat × Nat) := {}

/-- Counts a state and leaves it at its place. -/
def Shared.make (shared : Shared) (place : Nat) (description : List Nat)
    (links : Nat) (t : Tally) : Option (Nat × Shared × Tally) :=
  match t.add 1 links with
  | some t' =>
      some (t.states,
        { shared with
          made := shared.made.insert place (description, t.states) }, t')
  | none => none

/-- The state with a description, counted anew unless it is there. -/
def Shared.state (shared : Shared) (description : List Nat) (links : Nat)
    (t : Tally) :
    Option (Nat × Shared × Tally) :=
  let place := (hashOf description).toNat % shared.places
  match shared.made[place]? with
  | some (there, state) =>
      if there = description then some (state, shared, t)
      else shared.make place description links t
  | none => shared.make place description links t

/-- Rows that start with the same range of bytes, together: the range, and what
follows it in each row. -/
def groupRows : List (List Bytes) → List (Bytes × List (List Bytes))
  | [] => []
  | [] :: rest => groupRows rest
  | (range :: tail) :: rest =>
      match groupRows rest with
      | (range', tails) :: groups =>
          if range = range' then (range, tail :: tails) :: groups
          else (range, [tail]) :: (range', tails) :: groups
      | [] => [(range, [tail])]

/-- The state from which some rows are read to their end, `target`.
States are made behind those that they lead to. `depth` is the length of
the longest row. -/
def readRows : Nat → Nat → List (List Bytes) → Shared → Tally →
    Option (Nat × Shared × Tally)
  | 0, target, _, shared, t => some (target, shared, t)
  | depth + 1, target, rows, shared, t =>
      if rows = [[]] then some (target, shared, t)
      else
        let follow (found : Option (List Nat × Shared × Tally))
            (group : Bytes × List (List Bytes)) :
              Option (List Nat × Shared × Tally) :=
          found.bind fun (description, shared, t) =>
            (readRows depth target group.2 shared t).map
              fun (state, shared, t) =>
              (description ++ [group.1.1, group.1.2, state], shared, t)
        ((groupRows rows).foldl follow (some ([], shared, t))).bind
          fun (description, shared, t) =>
            shared.state description (rangeBytes * (description.length / 3)) t

/-- The longest row of bytes that writes a character. -/
def maxRow : Nat := 4

/-- Reads the bytes of a row from the last to the first, so that the first is
the one that a reader from the right meets last. -/
def readRowBackward (row : List Bytes) (target : Nat) (shared : Shared)
    (t : Tally) :
    Option (Shared × Tally) :=
  let step (found : Option (Nat × Shared × Tally)) (range : Bytes) :
      Option (Nat × Shared × Tally) :=
    found.bind fun (state, shared, t) =>
      shared.state [state, range.1, range.2] 0 t
  (row.foldl step (some (target, shared, t))).map fun (_, shared, t) =>
    (shared, t)

/-- The states of a set. -/
def tallySet (way : Direction) (s : CharSet) (t : Tally) : Option Tally :=
  if s.isAscii then
    t.addPlain.bind fun t => t.add 1 (rangeBytes * s.ranges.length)
  else
    match way with
    | .forward =>
        t.addPlain.bind fun t' =>
          (readRows (maxRow + 1) t.states (rowsOfSet s)
            { places := 10000 } t').map
            fun (_, _, t) => t
    | .backward =>
        t.addPlain.bind fun t =>
          t.addPlain.bind fun t' =>
            let step (found : Option (Shared × Tally)) (row : List Bytes) :
                Option (Shared × Tally) :=
              found.bind fun (shared, tally) =>
                (readRowBackward row t.states shared tally).bind
                  fun (shared, tally) =>
                  (tally.add 0 branchBytes).map (shared, ·)
            ((rowsOfSet s).foldl step (some ({ places := 1000 }, t'))).map (·.2)

/-- Cuts a list at its empty members. -/
def cutAtEmpty : List (List Nat) → List (List (List Nat))
  | [] => [[]]
  | [] :: rest => [] :: cutAtEmpty rest
  | row :: rest =>
      match cutAtEmpty rest with
      | first :: others => (row :: first) :: others
      | [] => [[row]]

/-- The states and the bytes of their links for literals that start at one
point, in the order of the pattern. What starts alike is shared, but not across
a literal that ends there. `depth` is the length of the longest. -/
def tallyTrie : Nat → List (List Nat) → Nat × Nat
  | 0, _ => (0, 0)
  | depth + 1, rows =>
      if rows.all List.isEmpty then (0, 0)
      else
        let rows :=
          match rows with
          | [] :: rest => [] :: rest.dropWhile List.isEmpty
          | rows => rows
        let chunks := cutAtEmpty rows
        let inner := chunks.flatMap fun chunk =>
          (chunk.filterMap List.head?).eraseDups.map fun first =>
            tallyTrie depth (chunk.filterMap fun row =>
              if row.head? = some first then some row.tail else none)
        let wide :=
          chunks.map fun chunk => (chunk.filterMap List.head?).eraseDups.length
        let filled := (wide.filter (0 < ·)).length
        let ranges := ((wide.filter (1 < ·)).map (rangeBytes * ·)).sum
        let branches := filled + (chunks.length - 1)
        ((inner.map (·.1)).sum + filled + 1,
          (inner.map (·.2)).sum + ranges + branchBytes * branches)

/-- The bytes of a literal, in the order in which they are read. -/
def literalBytes (way : Direction) (cs : List Char) : List Nat :=
  let bytes := cs.flatMap fun c => utf8Bytes c.toNat
  match way with
  | .forward => bytes
  | .backward => bytes.reverse

/-- The literals of an alternative that has no other branches. -/
def Expr.literals? : Expr → Option (List (List Char))
  | .literal cs => some [cs]
  | .alt (.literal cs) b => b.literals?.map (cs :: ·)
  | _ => none

/-- The states of an alternative between literals. -/
def tallyLiterals (way : Direction) (literals : List (List Char))
    (t : Tally) : Option Tally :=
  let rows := literals.map (literalBytes way)
  let (states, links) := tallyTrie ((rows.map List.length).foldl max 0 + 1) rows
  t.addPlain.bind fun t => t.add states links

/-- Does something several times, as long as it can be done. -/
def repeatTally (act : Tally → Option Tally) : Nat → Tally → Option Tally
  | 0, t => some t
  | n + 1, t =>
      match act t with
      | some t => repeatTally act n t
      | none => none

/-- Exactly so many copies. -/
def tallyCopies (act : Tally → Option Tally) (n : Nat)
    (t : Tally) : Option Tally :=
  if n = 0 then t.addPlain else repeatTally act n t

/-- The states of a repetition of what `act` counts. -/
def tallyTimes (act : Tally → Option Tally) (consumes : Bool) (least : Nat) :
    Option Nat → Tally → Option Tally
  | none, t =>
      if 0 < least then (tallyCopies act least t).bind Tally.addFork
      else if consumes then t.addFork.bind act
      else (((act t).bind Tally.addFork).bind Tally.addFork).bind Tally.addPlain
  | some most, t =>
      if least = 0 ∧ most = 1 then (t.addFork.bind act).bind Tally.addPlain
      else if least = most then tallyCopies act least t
      else
        ((tallyCopies act least t).bind Tally.addPlain).bind
          (repeatTally (fun t => t.addFork.bind act) (most - least))

/-- Which branch of an alternative an expression is. -/
inductive Place where
  | alone
  | second
  | later

/-- What a branch adds behind itself. The second one brings the state that
branches and the state where branches meet. -/
def Place.close : Place → Tally → Option Tally
  | .alone, t => some t
  | .second, t => t.addFork.bind Tally.addPlain
  | .later, t => t.add 0 branchBytes

/-- The states of an expression. -/
def tallyExpr (way : Direction) : Expr → Place → Tally → Option Tally
  | .empty, place, t => t.addPlain.bind place.close
  | .literal cs, place, t =>
      (t.add (literalBytes way cs).length 0).bind place.close
  | .set s, place, t => (tallySet way s t).bind place.close
  | .anchor _, place, t => t.addPlain.bind place.close
  | .times e least most _, place, t =>
      (tallyTimes (tallyExpr way e .alone) e.consumes least most t).bind
        place.close
  | .group _ e, place, t =>
      match way with
      | .forward =>
          ((t.addPlain.bind (tallyExpr way e .alone)).bind Tally.addPlain).bind
            place.close
      | .backward => (tallyExpr way e .alone t).bind place.close
  | .seq a b, place, t =>
      match way with
      | .forward =>
          ((tallyExpr way a .alone t).bind (tallyExpr way b .alone)).bind
            place.close
      | .backward =>
          ((tallyExpr way b .alone t).bind (tallyExpr way a .alone)).bind
            place.close
  | .alt a b, place, t =>
      match place, (Expr.alt a b).literals? with
      | .alone, some literals => tallyLiterals way literals t
      | .alone, none =>
          (tallyExpr way a .alone t).bind (tallyExpr way b .second)
      | place, _ =>
          ((tallyExpr way a .alone t).bind place.close).bind
            (tallyExpr way b .later)

/-- The states of an automaton. A match may start anywhere, unless all of them
start at the end from which the automaton reads. -/
def tallyPattern (way : Direction) (e : Expr) : Option Tally :=
  let anchored :=
    match way with
    | .forward => e.startsAnchored
    | .backward => e.endsAnchored
  let front : Option Tally :=
    if anchored then Tally.addPlain {}
    else (Tally.addFork {}).bind fun t => t.addPlain.bind fun t =>
      t.add 1 rangeBytes
  (front.bind (tallyExpr way (.group 0 e) .alone)).bind Tally.addPlain

/-- Whether the automata of a pattern are small enough. -/
def Expr.fits (e : Expr) : Bool :=
  (tallyPattern .forward e).isSome && (tallyPattern .backward e).isSome

end TenantTables.Pattern
