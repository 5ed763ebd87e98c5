import TenantTables.Time.Instant

/-!
# Stored instants

The database keeps instants in whole microseconds, counted from the start of
the year 2000. What is finer is dropped toward that moment, and a leap second
becomes the second that follows it.
-/

namespace TenantTables.Time

/-- The second that stored instants are counted from. -/
def storedEpoch : Int := 946684800

/-- Microseconds from the start of 2000. -/
def Instant.toMicros (t : Instant) : Int :=
  Int.tdiv ((t.second - storedEpoch) * 1000000000 + t.nano) 1000

/-- The instant so many microseconds from the start of 2000. -/
def Instant.ofMicros (n : Int) : Instant :=
  ⟨storedEpoch + n / 1000000, (n % 1000000).toNat * 1000⟩

/-- The instant as the database keeps it. -/
def Instant.stored (t : Instant) : Instant :=
  .ofMicros t.toMicros

end TenantTables.Time
