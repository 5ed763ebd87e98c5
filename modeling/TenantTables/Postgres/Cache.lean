import TenantTables.Time.Instant

/-!
# The table cache

A store remembers for a while which tables it has created or found, so that
most requests need not create theirs. An entry is fresh until its time to live
has passed.
-/

namespace TenantTables.Postgres

open Time (Instant)

/-- Tables and when each was last known to exist. No table occurs twice. -/
structure TableCache where
  /-- For how many seconds an entry is fresh. -/
  seconds : Nat
  entries : List (String × Instant)

namespace TableCache

/-- Nothing known yet. -/
def empty (seconds : Nat) : TableCache := ⟨seconds, []⟩

/-- Nanoseconds from one instant to another. -/
def elapsed (since now : Instant) : Int :=
  (now.second - since.second) * 1000000000 + ((now.nano : Int) - since.nano)

/-- Whether an entry made at an instant is fresh. -/
def isFreshAt (c : TableCache) (now seen : Instant) : Bool :=
  elapsed seen now < (c.seconds : Int) * 1000000000

/-- Forgets a table. -/
def forget (c : TableCache) (table : String) : TableCache :=
  { c with entries := c.entries.filter fun (name, _) => name != table }

/-- Whether a table is known to exist, and the cache without its entry if that
is stale. -/
def check (c : TableCache) (now : Instant)
    (table : String) : Bool × TableCache :=
  match c.entries.lookup table with
  | some seen =>
      if c.isFreshAt now seen then (true, c) else (false, c.forget table)
  | none => (false, c)

/-- Forgets what is stale and notes that a table exists. -/
def remember (c : TableCache) (now : Instant) (table : String) : TableCache :=
  let fresh :=
    { c with entries := c.entries.filter fun (_, seen) => c.isFreshAt now seen }
  { c with entries := (fresh.forget table).entries ++ [(table, now)] }

/-- The number of entries, stale ones included. -/
def size (c : TableCache) : Nat :=
  c.entries.length

end TableCache

end TenantTables.Postgres
