import TenantTables.Unicode.Query

/-!
# Tokens of patterns

A pattern is written as a row of tokens: characters, classes, anchors,
parentheses, bars and repetitions. Look-around and back references are no part
of the language.
-/

namespace TenantTables.Pattern

open Unicode (CharSet Query)

/-- A setting that changes how what follows is read. -/
inductive Flag where
  | caseless
  | multiLine
  | dotAll
  | swapGreed
  | unicode
  | crlf
  | verbose
  deriving Repr, DecidableEq

/-- Settings by the letters that write them. -/
def Flag.ofLetter? : Char → Option Flag
  | 'i' => some caseless
  | 'm' => some multiLine
  | 's' => some dotAll
  | 'U' => some swapGreed
  | 'u' => some unicode
  | 'R' => some crlf
  | 'x' => some verbose
  | _ => none

/-- A written condition on a position. -/
inductive Mark where
  | lineStart
  | lineEnd
  | textStart
  | textEnd
  | wordEdge
  | noWordEdge
  | wordStart
  | wordEnd
  | halfWordStart
  | halfWordEnd
  deriving Repr, DecidableEq

/-- A class of characters with an escape of its own. -/
inductive Family where
  | digit
  | space
  | word
  deriving Repr, DecidableEq

/-- An operation between two parts of a class. -/
inductive SetOp where
  | inter
  | diff
  | symmDiff
  deriving Repr, DecidableEq

/-- A part of a class in brackets. -/
inductive SetToken where
  | enter (negated : Bool)
  | leave
  | op (o : SetOp)
  | char (c : Char)
  | range (first last : Char)
  | family (f : Family) (negated : Bool)
  | property (q : Query) (negated : Bool)
  /-- One of the named ASCII classes. -/
  | named (s : CharSet) (negated : Bool)

/-- A part of a pattern. -/
inductive Token where
  /-- A character; `isByte` if it is written as a byte in two digits. -/
  | char (c : Char) (isByte : Bool)
  | dot
  | mark (m : Mark)
  | family (f : Family) (negated : Bool)
  | property (q : Query) (negated : Bool)
  | bracket (parts : List SetToken)
  | flags (changes : List (Flag × Bool))
  | enter (captures : Bool) (changes : List (Flag × Bool))
  | leave
  | bar
  | times (least : Nat) (most : Option Nat) (lazy : Bool)

end TenantTables.Pattern
