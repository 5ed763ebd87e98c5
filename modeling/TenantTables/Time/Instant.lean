import TenantTables.Time.Date

/-!
# Instants

A point in time is a whole second of UTC and a fraction in nanoseconds. A
fraction of a second or more belongs to a leap second: the sixty-first second
of its minute, which the count of seconds does not number.
-/

namespace TenantTables.Time

/-- A point in time. -/
structure Instant where
  /-- Seconds since 1970-01-01T00:00:00 UTC. -/
  second : Int
  /-- Nanoseconds, from a thousand million on inside a leap second. -/
  nano : Nat
  deriving Repr, DecidableEq

namespace Instant

/-- Chronological order. -/
def compare (a b : Instant) : Ordering :=
  (Ord.compare a.second b.second).then (Ord.compare a.nano b.nano)

/-- The day that the instant belongs to, in UTC. -/
def date (t : Instant) : Date :=
  Date.ofDays (t.second / 86400)

/-- Seconds since midnight UTC. -/
def secondOfDay (t : Instant) : Nat :=
  (t.second % 86400).toNat

/-- Midnight at the start of a day. -/
def ofDate (d : Date) : Instant :=
  ⟨d.toDays * 86400, 0⟩

/-- Midnight at the start of the instant's day. -/
def startOfDay (t : Instant) : Instant :=
  ⟨t.second - t.second % 86400, 0⟩

/-- The instant at a time of a day. Second sixty is a leap second. -/
def ofFields (d : Date) (hour minute second nano : Nat) : Instant :=
  let whole := if second = 60 then 59 else second
  let extra := if second = 60 then 1000000000 else 0
  ⟨d.toDays * 86400 + (hour * 3600 + minute * 60 + whole : Nat), nano + extra⟩

/-- At least `width` digits. -/
def padded (width n : Nat) : String :=
  let digits := (toString n).toList
  String.ofList (List.replicate (width - digits.length) '0' ++ digits)

/-- Four digits for the years that have no more, a sign and as many digits as
needed for all others. -/
def yearText (year : Int) : String :=
  if 0 ≤ year ∧ year ≤ 9999 then padded 4 year.toNat
  else (if year < 0 then "-" else "+") ++ padded 4 year.natAbs

/-- No fraction, or three, six or nine digits: as many as are needed. -/
def fractionText (nano : Nat) : String :=
  if nano = 0 then ""
  else if nano % 1000000 = 0 then "." ++ padded 3 (nano / 1000000)
  else if nano % 1000 = 0 then "." ++ padded 6 (nano / 1000)
  else "." ++ padded 9 nano

/-- The text of RFC 3339 with the offset of UTC. -/
def toText (t : Instant) : String :=
  let d := t.date
  let s := t.secondOfDay
  let leap := 1000000000 ≤ t.nano
  let second := if leap then s % 60 + 1 else s % 60
  let nano := if leap then t.nano - 1000000000 else t.nano
  yearText d.year ++ "-" ++ padded 2 d.month ++ "-" ++ padded 2 d.day ++ "T" ++
    padded 2 (s / 3600) ++ ":" ++ padded 2 (s / 60 % 60) ++ ":" ++
    padded 2 second ++
    fractionText nano ++ "+00:00"

end Instant

end TenantTables.Time
