import TenantTables.Pattern.Token.Bracket
import TenantTables.Pattern.Token.Name

/-!
# From text to tokens

Whether a pattern is verbose may change with every parenthesis, so it is settled
here and not by the reader of the tokens. Each token takes a character, so that
the length of the text bounds their number.
-/

namespace TenantTables.Pattern

/-- The greatest number that a repetition may name. -/
def maxCount : Nat := 4294967295

/-- Reads a number in ASCII digits, between blanks. -/
def readCount (verbose : Bool) (cs : List Char) : Option Nat × List Char :=
  let (digits, rest) :=
    spanIgnoring verbose Text.isAsciiDigit (cs.dropWhile Text.isBlank)
  let n := Text.decimalValue digits
  (if digits.isEmpty || maxCount < n then none else some n,
    rest.dropWhile Text.isBlank)

/-- Takes a question mark, which makes a repetition prefer to be short. -/
def readLazyMark : List Char → Bool × List Char
  | '?' :: rest => (true, rest)
  | rest => (false, rest)

/-- Reads the numbers of a repetition behind the opening brace. -/
def readCounts (verbose : Bool) (cs : List Char) : Option (Token × List Char) :=
  let close (least : Nat) (most : Option Nat) (rest : List Char) :
      Option (Token × List Char) :=
    match rest with
    | '\x7d' :: rest =>
        let (lazy, rest) := readLazyMark (skipIgnored verbose rest)
        if most.all (least ≤ ·) then some (.times least most lazy, rest)
        else none
    | _ => none
  match readCount verbose (skipIgnored verbose cs) with
  | (some least, ',' :: rest) =>
      match skipIgnored verbose rest with
      | '\x7d' :: rest => close least none ('\x7d' :: rest)
      | rest =>
          match readCount verbose rest with
          | (some most, rest) => close least (some most) rest
          | (none, _) => none
  | (some n, rest) => close n (some n) rest
  | (none, _) => none

/-- Reads flags up to the closing parenthesis or the colon of a group.
Each is named once; those behind a hyphen, which stands in front of
some, are cleared. -/
def readFlags (on : Bool) (changes : List (Flag × Bool)) :
    List Char → Option (List (Flag × Bool) × Char × List Char)
  | [] => none
  | c :: rest =>
      if c = ')' ∨ c = ':' then
        if on ∨ (changes.any fun (_, on) => !on) then
          some (changes.reverse, c, rest) else none
      else if c = '-' then
        if on then readFlags false changes rest else none
      else
        match Flag.ofLetter? c with
        | none => none
        | some flag =>
            if changes.any fun (seen, _) => seen = flag then none
            else readFlags on ((flag, on) :: changes) rest

/-- What the text up to some point says about what follows: whether it
is verbose, whether it will be behind each open parenthesis, and the
names of groups. -/
structure Context where
  verbose : Bool := false
  outer : List Bool := []
  names : List String := []

/-- Whether the text is verbose behind some changes of the flags. -/
def Context.verboseAfter (ctx : Context)
    (changes : List (Flag × Bool)) : Bool :=
  (changes.lookup .verbose).getD ctx.verbose

/-- The context inside a parenthesis. -/
def Context.enter (ctx : Context) (verbose : Bool) : Context :=
  { ctx with verbose, outer := ctx.verbose :: ctx.outer }

/-- Reads a group with a name, which no other group has. -/
def readNamedGroup (ctx : Context) (cs : List Char) :
    Option (Token × Context × List Char) :=
  (readName cs).bind fun (name, rest) =>
    if ctx.names.contains name then none
    else some (.enter true [],
      { ctx.enter ctx.verbose with names := name :: ctx.names }, rest)

/-- Reads what an opening parenthesis opens. -/
def readGroup (ctx : Context) (cs : List Char) :
    Option (Token × Context × List Char) :=
  match skipIgnored ctx.verbose cs with
  | '?' :: '=' :: _ | '?' :: '!' :: _ | '?' :: '<' :: '=' :: _
  | '?' :: '<' :: '!' :: _ => none
  | '?' :: 'P' :: '<' :: rest => readNamedGroup ctx rest
  | '?' :: '<' :: rest => readNamedGroup ctx rest
  | '?' :: rest =>
      match readFlags true [] rest with
      | some (changes, ':', rest) =>
          some (.enter false changes,
            ctx.enter (ctx.verboseAfter changes), rest)
      | some (changes, _, rest) =>
          if changes.isEmpty then none
          else some (.flags changes,
            { ctx with verbose := ctx.verboseAfter changes }, rest)
      | none => none
  | cs => some (.enter true [], ctx.enter ctx.verbose, cs)

/-- Reads the token that starts with a character. -/
def readToken (ctx : Context) (c : Char) (rest : List Char) :
    Option (Token × Context × List Char) :=
  let stay (found : Token × List Char) : Token × Context × List Char :=
    (found.1, ctx, found.2)
  let repetition (least : Nat) (most : Option Nat) :
      Option (Token × Context × List Char) :=
    let (lazy, rest) := readLazyMark rest
    some (.times least most lazy, ctx, rest)
  match c with
  | '(' => readGroup ctx rest
  | ')' =>
      match ctx.outer with
      | [] => none
      | verbose :: outer => some (.leave, { ctx with verbose, outer }, rest)
  | '|' => some (.bar, ctx, rest)
  | '[' => (readBracket ctx.verbose rest).map stay
  | '?' => repetition 0 (some 1)
  | '*' => repetition 0 none
  | '+' => repetition 1 none
  | '\x7b' => (readCounts ctx.verbose rest).map stay
  | '.' => some (.dot, ctx, rest)
  | '^' => some (.mark .lineStart, ctx, rest)
  | '$' => some (.mark .lineEnd, ctx, rest)
  | '\\' =>
      (readEscape ctx.verbose rest).map fun (e, rest) =>
        let token : Token :=
          match e with
          | .char c isByte => .char c isByte
          | .mark m => .mark m
          | .family f negated => .family f negated
          | .property q negated => .property q negated
        (token, ctx, rest)
  | c => some (.char c false, ctx, rest)

/-- Reads the tokens of a text, to its end. -/
def readTokens : Nat → Context → List Char → Option (List Token)
  | 0, _, _ => none
  | rounds + 1, ctx, cs =>
      match skipIgnored ctx.verbose cs with
      | [] => if ctx.outer.isEmpty then some [] else none
      | c :: rest =>
          (readToken ctx c rest).bind fun (token, ctx, rest) =>
            (readTokens rounds ctx rest).map (token :: ·)

/-- The tokens of a pattern. -/
def Token.ofText? (s : String) : Option (List Token) :=
  let cs := s.toList
  readTokens (cs.length + 1) {} cs

end TenantTables.Pattern
