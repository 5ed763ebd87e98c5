import TenantTables.Number.Power
import TenantTables.Text.Class
import TenantTables.Time.Instant

/-!
# Reading timestamps

Three notations are accepted, tried in this order: RFC 3339 with an offset, a
date and a time of day in UTC, and a date alone, which means its midnight.

The first is strict, every number having its width. The other two are lenient
in the way hand-written files need: numbers may be short and may have blanks in
front, and a signed year may be long.
-/

namespace TenantTables.Time

open TenantTables.Number (tenTo)

/-- Exactly `width` ASCII digits. -/
def readFixed (width : Nat) (cs : List Char) : Option (Nat × List Char) :=
  let digits := cs.take width
  if digits.length = width ∧ digits.all Text.isAsciiDigit then
    some (Text.decimalValue digits, cs.drop width)
  else none

/-- One to `width` ASCII digits behind any blanks. -/
def readShort (width : Nat) (cs : List Char) : Option (Nat × List Char) :=
  let cs := Text.dropLeadingBlanks cs
  let digits := (cs.take width).takeWhile Text.isAsciiDigit
  if digits.isEmpty then none
  else some (Text.decimalValue digits, cs.drop digits.length)

/-- The text behind one given character. -/
def expect (c : Char) : List Char → Option (List Char)
  | [] => none
  | d :: rest => if d = c then some rest else none

/-- A time of day: hour, minute, second and nanosecond. -/
structure Clock where
  hour : Nat
  minute : Nat
  second : Nat
  nano : Nat
  deriving Repr

/-- The time with these numbers, if a day has it. Second sixty may
be a leap second. -/
def Clock.of? (hour minute second nano : Nat) : Option Clock :=
  if hour ≤ 23 ∧ minute ≤ 59 ∧ second ≤ 60 then
    some ⟨hour, minute, second, nano⟩ else none

/-- The instant at a time of a day. -/
def Clock.on (c : Clock) (d : Date) : Instant :=
  Instant.ofFields d c.hour c.minute c.second c.nano

/-- A fraction behind its point: at least one digit, of which nine count. -/
def readFraction (cs : List Char) : Option (Nat × List Char) :=
  let digits := cs.takeWhile Text.isAsciiDigit
  let kept := digits.take 9
  if digits.isEmpty then none
  else some (Text.decimalValue kept * tenTo (9 - kept.length),
    cs.drop digits.length)

/-- An offset from UTC in seconds: `Z`, or a sign, two digits, a colon and two
digits. The minus sign may be typographic. -/
def readOffset (cs : List Char) : Option (Int × List Char) := do
  match cs with
  | [] => none
  | c :: rest =>
      if c = 'Z' ∨ c = 'z' then some (0, rest)
      else if c = '+' ∨ c = '-' ∨ c = '\u2212' then
        let (hours, rest) ← readFixed 2 rest
        let rest ← expect ':' rest
        let (minutes, rest) ← readFixed 2 rest
        if 23 < hours ∨ 59 < minutes then none
        else
          let seconds : Int := hours * 3600 + minutes * 60
          some (if c = '+' then seconds else -seconds, rest)
      else none

/-- RFC 3339, the whole text. -/
def readStrict? (cs : List Char) : Option Instant := do
  let (year, rest) ← readFixed 4 cs
  let rest ← expect '-' rest
  let (month, rest) ← readFixed 2 rest
  let rest ← expect '-' rest
  let (day, rest) ← readFixed 2 rest
  let rest ← (expect 'T' rest).or ((expect 't' rest).or (expect ' ' rest))
  let (hour, rest) ← readFixed 2 rest
  let rest ← expect ':' rest
  let (minute, rest) ← readFixed 2 rest
  let rest ← expect ':' rest
  let (second, rest) ← readFixed 2 rest
  let (nano, rest) ←
    match rest with
    | '.' :: rest => readFraction rest
    | rest => some (0, rest)
  let (offset, rest) ← readOffset rest
  if !rest.isEmpty then none
  else
    let date ← Date.of? year month day
    let clock ← Clock.of? hour minute second nano
    let t := clock.on date
    some ⟨t.second - offset, t.nano⟩

/-- A year: up to four digits, or a sign and any number of them. -/
def readYear (cs : List Char) : Option (Int × List Char) :=
  match Text.dropLeadingBlanks cs with
  | '-' :: rest => signedYear true rest
  | '+' :: rest => signedYear false rest
  | rest => (readShort 4 rest).map fun (n, rest) => ((n : Int), rest)
where
  signedYear (negative : Bool) (rest : List Char) : Option (Int × List Char) :=
    let digits := rest.takeWhile Text.isAsciiDigit
    let n : Int := Text.decimalValue digits
    if digits.isEmpty then none
    else some (if negative then -n else n, rest.drop digits.length)

/-- A date, and the text behind it. -/
def readDate (cs : List Char) : Option (Date × List Char) := do
  let (year, rest) ← readYear cs
  let rest ← expect '-' rest
  let (month, rest) ← readShort 2 rest
  let rest ← expect '-' rest
  let (day, rest) ← readShort 2 rest
  let date ← Date.of? year month day
  some (date, rest)

/-- A date and a time of day, the whole text. Blanks between
them may be absent. -/
def readDateTime? (cs : List Char) : Option Instant := do
  let (date, rest) ← readDate cs
  let (hour, rest) ← readShort 2 rest
  let rest ← expect ':' rest
  let (minute, rest) ← readShort 2 rest
  let rest ← expect ':' rest
  let (second, rest) ← readShort 2 rest
  let clock ← Clock.of? hour minute second 0
  if rest.isEmpty then some (clock.on date) else none

/-- A date, the whole text: its midnight. -/
def readDay? (cs : List Char) : Option Instant := do
  let (date, rest) ← readDate cs
  if rest.isEmpty then some (Instant.ofDate date) else none

/-- Reads RFC 3339 and nothing else; white space is not skipped. -/
def Instant.readStrict? (s : String) : Option Instant :=
  Time.readStrict? s.toList

/-- Reads a timestamp in any of the accepted notations, trimmed. -/
def Instant.read? (s : String) : Option Instant :=
  let cs := Text.trimChars s.toList
  (Time.readStrict? cs).or ((readDateTime? cs).or (readDay? cs))

end TenantTables.Time
