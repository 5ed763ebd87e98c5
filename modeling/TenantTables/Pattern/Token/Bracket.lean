import TenantTables.Pattern.Token.Escape

/-!
# Classes in brackets

A class in brackets has characters, ranges, and other classes as members, and
operations between rows of members. Each round of the loop takes a character, so
that the length of the text bounds the rounds.
-/

namespace TenantTables.Pattern

open Unicode (CharSet)

/-- The ASCII classes that have names. -/
def namedClass? (name : String) : Option CharSet :=
  let ranges : Option (List (Nat × Nat)) :=
    match name with
    | "alnum" => some [(0x30, 0x39), (0x41, 0x5A), (0x61, 0x7A)]
    | "alpha" => some [(0x41, 0x5A), (0x61, 0x7A)]
    | "ascii" => some [(0, 0x7F)]
    | "blank" => some [(9, 9), (0x20, 0x20)]
    | "cntrl" => some [(0, 0x1F), (0x7F, 0x7F)]
    | "digit" => some [(0x30, 0x39)]
    | "graph" => some [(0x21, 0x7E)]
    | "lower" => some [(0x61, 0x7A)]
    | "print" => some [(0x20, 0x7E)]
    | "punct" => some [(0x21, 0x2F), (0x3A, 0x40), (0x5B, 0x60), (0x7B, 0x7E)]
    | "space" => some [(9, 0xD), (0x20, 0x20)]
    | "upper" => some [(0x41, 0x5A)]
    | "word" => some [(0x30, 0x39), (0x41, 0x5A), (0x5F, 0x5F), (0x61, 0x7A)]
    | "xdigit" => some [(0x30, 0x39), (0x41, 0x46), (0x61, 0x66)]
    | _ => none
  ranges.map CharSet.mk

/-- Reads a named class behind its opening bracket. -/
def readNamedClass (cs : List Char) : Option (SetToken × List Char) :=
  match cs with
  | ':' :: rest =>
      let negated := rest.head? = some '^'
      let rest := if negated then rest.drop 1 else rest
      match rest.dropWhile (· != ':') with
      | ':' :: ']' :: left =>
          (namedClass? (String.ofList (rest.takeWhile (· != ':')))).map fun s =>
            (.named s negated, left)
      | _ => none
  | _ => none

/-- Reads one member of a class. -/
def readMember (verbose : Bool) : List Char → Option (SetToken × List Char)
  | [] => none
  | '\\' :: rest =>
      match readEscape verbose rest with
      | some (.char c _, rest) => some (.char c, rest)
      | some (.family f negated, rest) => some (.family f negated, rest)
      | some (.property q negated, rest) => some (.property q negated, rest)
      | _ => none
  | c :: rest => some (.char c, rest)

/-- The character that decides whether a hyphen, behind which the characters
stand, makes a range. In a verbose pattern it is looked for behind blanks and
one sign of a comment; where there is nothing else it is the next character. -/
def peekBehindHyphen (verbose : Bool) (cs : List Char) : Option Char :=
  if !verbose then cs.head?
  else
    let found :=
      match cs.dropWhile Text.isBlank with
      | '#' :: rest => rest.dropWhile Text.isBlank
      | rest => rest
    found.head?.or cs.head?

/-- Reads a member or a range. A hyphen in front of the closing bracket, or of
another hyphen, makes no range. -/
def readRange (verbose : Bool) (cs : List Char) :
    Option (SetToken × List Char) :=
  (readMember verbose cs).bind fun (first, rest) =>
    match skipIgnored verbose rest with
    | '-' :: behind =>
        match peekBehindHyphen verbose behind with
        | some ']' | some '-' => some (first, '-' :: behind)
        | _ =>
            (readMember verbose (skipIgnored verbose behind)).bind
              fun (last, rest) =>
              match first, last with
              | .char a, .char b =>
                  if a ≤ b then some (.range a b, rest) else none
              | _, _ => none
    | rest => some (first, rest)

/-- Reads the opening of a class behind its bracket. Hyphens that stand first
are members, and so is a closing bracket that stands first. -/
def readOpening (verbose : Bool) (cs : List Char) : List SetToken × List Char :=
  let cs := skipIgnored verbose cs
  let negated := cs.head? = some '^'
  let (hyphens, rest) :=
    spanIgnoring verbose (· == '-') (if negated then cs.drop 1 else cs)
  match hyphens, rest with
  | [], ']' :: rest => ([.enter negated, .char ']'], rest)
  | hyphens, rest => (.enter negated :: hyphens.map .char, rest)

/-- Reads the rest of a class, to the bracket that closes it. `opened` counts
the classes around, and `parts` holds what was read, last first. -/
def readParts (verbose : Bool) : Nat → Nat → List SetToken → List Char →
    Option (List SetToken × List Char)
  | 0, _, _, _ => none
  | rounds + 1, opened, parts, cs =>
      match skipIgnored verbose cs with
      | [] => none
      | ']' :: rest =>
          match opened with
          | 0 => some ((.leave :: parts).reverse, rest)
          | opened + 1 => readParts verbose rounds opened (.leave :: parts) rest
      | '[' :: rest =>
          match readNamedClass rest with
          | some (part, rest) =>
              readParts verbose rounds opened (part :: parts) rest
          | none =>
              let (opening, rest) := readOpening verbose rest
              readParts verbose rounds (opened + 1)
                (opening.reverse ++ parts) rest
      | '&' :: '&' :: rest =>
          readParts verbose rounds opened (.op .inter :: parts) rest
      | '-' :: '-' :: rest =>
          readParts verbose rounds opened (.op .diff :: parts) rest
      | '~' :: '~' :: rest =>
          readParts verbose rounds opened (.op .symmDiff :: parts) rest
      | cs =>
          (readRange verbose cs).bind fun (part, rest) =>
            readParts verbose rounds opened (part :: parts) rest

/-- Reads a class behind its opening bracket. -/
def readBracket (verbose : Bool) (cs : List Char) :
    Option (Token × List Char) :=
  let (opening, rest) := readOpening verbose cs
  (readParts verbose (rest.length + 1) 0 opening.reverse rest).map
    fun (parts, rest) => (.bracket parts, rest)

end TenantTables.Pattern
