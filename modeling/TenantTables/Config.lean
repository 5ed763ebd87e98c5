import TenantTables.Query.Descriptor

/-!
# Configuration

What a deployment decides, with the values that hold where it decides nothing.
-/

namespace TenantTables

/-- Which tables are audited, and what the log conceals. -/
structure AuditConfig where
  /-- A pattern that the tenant has to match. -/
  includeTenant : Option String := some ".*"
  /-- A pattern that the table has to match. -/
  includeTable : Option String := some ".*"
  /-- A pattern that the tenant must not match. -/
  excludeTenant : Option String := none
  /-- A pattern that the table must not match. -/
  excludeTable : Option String := some "(log.*|cache)"
  /-- Attributes whose values are concealed. -/
  hiddenFields : List String := []
  deriving DecidableEq, Repr

/-- The settings of a store and its service. -/
structure Config where
  databaseUrl : String
  /-- The column that identifies records. -/
  idField : String := "uid"
  /-- The greatest number of rows of an import. -/
  importLimit : Nat := 9999
  pageSize : Nat := Query.defaultPageSize
  /-- Names that callers may not use for tables. -/
  reservedTables : List String := ["profile", "user", "recipe", "tables"]
  /-- For how many seconds a table is known to exist. -/
  cacheSeconds : Nat := 43200
  /-- The name that audit events carry. -/
  appName : String := "runtara-table-store"
  audit : AuditConfig := {}
  deriving DecidableEq, Repr

namespace Config

/-- Sets the page size; a page has at least one row. -/
def withPageSize (c : Config) (size : Nat) : Config :=
  { c with pageSize := if size = 0 then 1 else size }

/-- Turns auditing off. -/
def withoutAudit (c : Config) : Config :=
  { c with
    audit := { c.audit with includeTenant := none, includeTable := none } }

end Config

end TenantTables
