import TenantTables.Page
import TenantTables.Record
import TenantTables.TableName

/-!
# Repositories

What the service and the import need of a store, and nothing about how it
stores. A repository answers requests on whole tables. A unit of work writes
records, and its writes count only once it is committed.

Both are records of actions over a state of the store's own choosing, so that a
statement about the service or the import can range over every store there is.
-/

namespace TenantTables

/-- A unit of work over the states `τ`. -/
structure Transaction (τ : Type) where
  /-- The first record whose field has this text. -/
  find : TableName → String → String → Action τ (Option Record)
  /-- Stores a new record and answers it as it was stored. -/
  insert : TableName → Record → Action τ Record
  /-- Stores the changes to a record and answers it as it was stored. -/
  update : TableName → Record → Action τ Record
  delete : TableName → Record → Action τ Unit
  commit : Action τ Unit
  rollback : Action τ Unit

/-- A store of tables over the states `ρ`, with units of work over
the states `τ`. -/
structure Repository (ρ τ : Type) where
  /-- The layout of all tables. -/
  spec : TableSpec
  /-- Creates the table if it is not there. -/
  ensureTable : TableName → Action ρ Unit
  dropTable : TableName → Action ρ Unit
  /-- Removes all rows and starts the surrogate key anew. -/
  truncate : TableName → Action ρ Unit
  /-- Starts a unit of work. -/
  start : Action ρ τ
  transaction : Transaction τ
  /-- The store behind a unit of work that is over, whether it was committed,
  rolled back or abandoned. -/
  finish : τ → ρ
  /-- The first record whose field has this text. -/
  find : TableName → String → String → Action ρ (Option Record)
  /-- The rows of a page, and where they stand. -/
  paginate : TableName → Query.Descriptor → Action ρ Page
  /-- All selected records in order. -/
  selectAll : TableName → Query.Filter → List Query.SortTerm →
    Action ρ (List Record)
  /-- Deletes the selected rows and answers how many there were. -/
  deleteWhere : TableName → Query.Filter → Action ρ Nat

end TenantTables
