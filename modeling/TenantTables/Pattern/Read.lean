import TenantTables.Pattern.Match
import TenantTables.Pattern.Size
import TenantTables.Pattern.Token.Lexer
import TenantTables.Unicode.Fold

/-!
# Reading patterns

The expression that a row of tokens writes. Flags change what the tokens behind
them mean, up to the parenthesis that closes the group they stand in. Classes
are those of all scripts, or of ASCII while the flag for them is cleared; then
no class may hold other characters, because it is one of bytes, and a byte
beyond ASCII is no character.

Parentheses, classes, operations in classes, repetitions, and rows of more than
one part nest, and a pattern that nests too deep is refused. So is one that is
too large.
-/

namespace TenantTables.Pattern

open Unicode (CharSet)

/-- Settings that change the meaning of tokens. -/
structure Flags where
  caseless : Bool := false
  multiLine : Bool := false
  dotAll : Bool := false
  swapGreed : Bool := false
  unicode : Bool := true
  crlf : Bool := false
  deriving Repr, DecidableEq

namespace Flags

/-- The flags behind a change. -/
def change (flags : Flags) (change : Flag × Bool) : Flags :=
  let (flag, on) := change
  match flag with
  | .caseless => { flags with caseless := on }
  | .multiLine => { flags with multiLine := on }
  | .dotAll => { flags with dotAll := on }
  | .swapGreed => { flags with swapGreed := on }
  | .unicode => { flags with unicode := on }
  | .crlf => { flags with crlf := on }
  | .verbose => flags

/-- A set, closed under case if case is of no account. -/
def fold (flags : Flags) (s : CharSet) : CharSet :=
  if !flags.caseless then s
  else if flags.unicode then s.foldCase
  else s.foldAscii

/-- A class, closed under case, or what it leaves out. -/
def close (flags : Flags) (s : CharSet) (negated : Bool) : Option CharSet :=
  let s := flags.fold s
  let s := if negated then s.compl else s
  if flags.unicode || s.isAscii then some s else none

/-- The class of an escape, which is closed under case as it is. -/
def family (flags : Flags) (f : Family) (negated : Bool) : Option CharSet :=
  let s :=
    match f with
    | .digit =>
        if flags.unicode then Unicode.decimalDigits else ⟨[(0x30, 0x39)]⟩
    | .space =>
        if flags.unicode then Unicode.blanks else ⟨[(9, 0xD), (0x20, 0x20)]⟩
    | .word => if flags.unicode then Unicode.words else asciiWords
  { flags with caseless := false }.close s negated

/-- The class of a property, which no class of bytes can be. -/
def property (flags : Flags) (q : Unicode.Query)
    (negated : Bool) : Option CharSet :=
  if flags.unicode then q.set?.bind fun s => flags.close s negated else none

/-- One character. -/
def char (flags : Flags) (c : Char) (isByte : Bool) : Option Expr :=
  if flags.unicode then some (.ofSet (flags.fold (.just c)))
  else if isByte && 128 ≤ c.toNat then none
  else if c.toNat < 128 then some (.ofSet (flags.fold (.just c)))
  else some (.literal [c])

/-- Any character, but for the ends of lines. -/
def dot (flags : Flags) : Option Expr :=
  let ends : CharSet :=
    if flags.dotAll then .empty
    else if flags.crlf then ⟨[(0xA, 0xA), (0xD, 0xD)]⟩
    else .just '\n'
  if flags.unicode then some (.set ends.compl) else none

/-- The condition of a mark. -/
def anchor (flags : Flags) (m : Mark) : Anchor :=
  let word (edge : Edge) : Anchor := .word edge flags.unicode
  match m with
  | .lineStart =>
      if !flags.multiLine then .textStart
      else if flags.crlf then .returnStart
      else .lineStart
  | .lineEnd =>
      if !flags.multiLine then .textEnd
      else if flags.crlf then .returnEnd
      else .lineEnd
  | .textStart => .textStart
  | .textEnd => .textEnd
  | .wordEdge => word .any
  | .noWordEdge => word .none
  | .wordStart => word .start
  | .wordEnd => word .finish
  | .halfWordStart => word .halfStart
  | .halfWordEnd => word .halfFinish

end Flags

/-- How deep patterns may nest. -/
def maxDepth : Nat := 250

/-- A part of a pattern, and how deep its written form nests. -/
structure Nested (α : Type) where
  value : α
  depth : Nat := 0

/-- Several parts as one, and one level deeper. A part alone
stands for itself. -/
def Nested.join {α : Type} (combine : List α → α) : List (Nested α) → Nested α
  | [part] => part
  | parts =>
      let depth := (parts.map Nested.depth).foldl max 0
      ⟨combine (parts.map Nested.value), if parts.isEmpty then 0 else depth + 1⟩

/-! Classes in brackets -/

/-- A class whose closing bracket is still to come. -/
structure OpenSet where
  negated : Bool
  /-- The operation whose right side is being read, and its left side. -/
  pending : Option (SetOp × Nested CharSet) := none
  /-- Members since the bracket or the operation, last first. -/
  members : List (Nested CharSet) := []

namespace OpenSet

/-- What was read so far. The sides of an operation are closed under case before
it is carried out. -/
def combined (s : OpenSet) (flags : Flags) : Nested CharSet :=
  let right := Nested.join CharSet.unionAll s.members.reverse
  match s.pending with
  | none => right
  | some (op, left) =>
      let apply :=
        match op with
        | .inter => CharSet.inter
        | .diff => CharSet.diff
        | .symmDiff => CharSet.symmDiff
      ⟨apply (flags.fold left.value) (flags.fold right.value),
        max left.depth right.depth + 1⟩

def addMember (s : OpenSet) (member : Nested CharSet) : OpenSet :=
  { s with members := member :: s.members }

end OpenSet

/-- The class that the parts write behind its opening. `outer` holds the classes
around, nearest first. -/
def readSet (flags : Flags) :
    OpenSet → List OpenSet → List SetToken → Option (Nested CharSet)
  | _, _, [] => none
  | inner, outer, part :: parts =>
      let go (s : Option CharSet) : Option (Nested CharSet) :=
        s.bind fun s => readSet flags (inner.addMember ⟨s, 0⟩) outer parts
      match part with
      | .char c =>
          go (if flags.unicode || c.toNat < 128 then some (.just c) else none)
      | .range a b =>
          go (if flags.unicode || b.toNat < 128 then some (.span a b) else none)
      | .family f negated => go (flags.family f negated)
      | .property q negated => go (flags.property q negated)
      | .named s negated => go (flags.close s negated)
      | .op o =>
          let left := inner.combined flags
          readSet flags { inner with pending := some (o, left), members := [] }
            outer parts
      | .enter negated => readSet flags { negated } (inner :: outer) parts
      | .leave =>
          let whole := inner.combined flags
          (flags.close whole.value inner.negated).bind fun s =>
            let closed : Nested CharSet := ⟨s, whole.depth + 1⟩
            match outer with
            | [] => some closed
            | around :: outer =>
                readSet flags (around.addMember closed) outer parts

/-- The class that a bracket writes. -/
def readBracketed (flags : Flags) : List SetToken → Option (Nested CharSet)
  | .enter negated :: parts => readSet flags { negated } [] parts
  | _ => none

/-! Groups and sequences -/

/-- What stands in a sequence: an expression, or a change of flags, which cannot
be repeated. -/
structure Part where
  expr : Nested Expr
  isFlags : Bool := false

/-- A group that is still open, or the whole pattern. -/
structure OpenGroup where
  /-- The number of the group, if it is recorded. -/
  index : Option Nat := none
  /-- The flags in front of it. -/
  flags : Flags := {}
  /-- Branches that a bar has ended, last first. -/
  branches : List (Nested Expr) := []
  /-- Parts of the branch that is being read, last first. -/
  parts : List Part := []

namespace OpenGroup

def addPart (g : OpenGroup) (expr : Nested Expr) : OpenGroup :=
  { g with parts := ⟨expr, false⟩ :: g.parts }

/-- The branch that is being read. -/
def branch (g : OpenGroup) : Nested Expr :=
  Nested.join Expr.concat (g.parts.reverse.map Part.expr)

/-- All branches. -/
def whole (g : OpenGroup) : Nested Expr :=
  Nested.join Expr.choice (g.branch :: g.branches).reverse

end OpenGroup

/-- What has been read of a pattern. -/
structure Reading where
  flags : Flags := {}
  /-- How many groups are recorded. -/
  groups : Nat := 0
  inner : OpenGroup := {}
  /-- The groups around, nearest first. -/
  outer : List OpenGroup := []

/-- Reads one more token. -/
def Reading.read (r : Reading) (token : Token) : Option Reading :=
  let add (e : Option Expr) : Option Reading :=
    e.map fun e => { r with inner := r.inner.addPart ⟨e, 0⟩ }
  match token with
  | .char c isByte => add (r.flags.char c isByte)
  | .dot => add r.flags.dot
  | .mark m => add (some (.anchor (r.flags.anchor m)))
  | .family f negated => add ((r.flags.family f negated).map .ofSet)
  | .property q negated => add ((r.flags.property q negated).map .ofSet)
  | .bracket parts =>
      (readBracketed r.flags parts).map fun s =>
        { r with inner := r.inner.addPart ⟨.ofSet s.value, s.depth⟩ }
  | .flags changes =>
      let part : Part := ⟨⟨.empty, 0⟩, true⟩
      some { r with
        flags := changes.foldl Flags.change r.flags
        inner := { r.inner with parts := part :: r.inner.parts } }
  | .enter captures changes =>
      let groups := if captures then r.groups + 1 else r.groups
      some { r with
        flags := changes.foldl Flags.change r.flags
        groups
        inner := {
          index := if captures then some groups else none
          flags := r.flags }
        outer := r.inner :: r.outer }
  | .leave =>
      match r.outer with
      | [] => none
      | around :: outer =>
          let whole := r.inner.whole
          let e := r.inner.index.elim whole.value fun index =>
            .group index whole.value
          some { r with
            flags := r.inner.flags
            inner := around.addPart ⟨e, whole.depth + 1⟩
            outer }
  | .bar =>
      some { r with
        inner := { r.inner with
          branches := r.inner.branch :: r.inner.branches
          parts := [] } }
  | .times least most lazy =>
      match r.inner.parts with
      | ⟨e, false⟩ :: before =>
          let e : Nested Expr :=
            ⟨e.value.repeated least most (lazy == r.flags.swapGreed),
              e.depth + 1⟩
          some { r with
            inner := { r.inner with parts := ⟨e, false⟩ :: before } }
      | _ => none

/-- The expression that tokens write, if it does not nest too deep. -/
def Expr.ofTokens? (tokens : List Token) : Option Expr :=
  (tokens.foldlM Reading.read {}).bind fun r =>
    let whole := r.inner.whole
    if r.outer.isEmpty && whole.depth ≤ maxDepth then some whole.value else none

/-- Reads a pattern, the whole text. -/
def Expr.parse? (s : String) : Option Expr :=
  ((Token.ofText? s).bind Expr.ofTokens?).filter Expr.fits

end TenantTables.Pattern
