import TenantTables.Column.Document
import TenantTables.Config

/-!
# Configurations as documents

A configuration document names what differs from the defaults. What it does not
name, or names by a value of another kind, stays as it is; a pattern that it
names as null is taken away.
-/

namespace TenantTables

open Json (Value Object)

/-- A text that a document may name. -/
def textOr (fields : Object) (key default : String) : String :=
  (textField? fields key).getD default

/-- A number that a document may name. -/
def natOr (fields : Object) (key : String) (default : Nat) : Nat :=
  match Object.get? fields key with
  | some (.int n) => n.toNat
  | _ => default

/-- A list of texts that a document may name. -/
def textsOr (fields : Object) (key : String)
    (default : List String) : List String :=
  ((Object.get? fields key).bind (listOf? Value.str?)).getD default

/-- A text that may be absent, as a value. -/
def optionalText (s : Option String) : Value :=
  match s with
  | some s => .str s
  | none => .null

/-- Texts as a value. -/
def textList (values : List String) : Value :=
  .arr (values.map .str)

namespace AuditConfig

/-- A pattern that a document may name, or take away. -/
def patternOr (fields : Object) (key : String)
    (default : Option String) : Option String :=
  match Object.get? fields key with
  | some value => value.str?
  | none => default

/-- The audit settings of a document. -/
def ofFields (fields : Object) : AuditConfig :=
  let base : AuditConfig := {}
  { includeTenant := patternOr fields "include_tenant" base.includeTenant
    includeTable := patternOr fields "include_table" base.includeTable
    excludeTenant := patternOr fields "exclude_tenant" base.excludeTenant
    excludeTable := patternOr fields "exclude_table" base.excludeTable
    hiddenFields := textsOr fields "hidden_fields" base.hiddenFields }

/-- The document of audit settings. -/
def toJson (c : AuditConfig) : Value :=
  .obj [("include_tenant", optionalText c.includeTenant),
    ("include_table", optionalText c.includeTable),
    ("exclude_tenant", optionalText c.excludeTenant),
    ("exclude_table", optionalText c.excludeTable),
    ("hidden_fields", textList c.hiddenFields)]

end AuditConfig

namespace Config

/-- The audit settings that a document holds. -/
def auditOf (fields : Object) : AuditConfig :=
  match Object.get? fields "audit" with
  | some (.obj audit) => AuditConfig.ofFields audit
  | _ => {}

/-- The configuration of a document. -/
def ofFields (fields : Object) : Config :=
  let base : Config :=
    { databaseUrl := textOr fields "database_url" "memory://" }
  let c : Config :=
    { base with
      idField := textOr fields "id_field" base.idField
      importLimit := natOr fields "import_limit" base.importLimit
      reservedTables := textsOr fields "reserved_tables" base.reservedTables
      cacheSeconds := natOr fields "table_cache_ttl" base.cacheSeconds
      appName := textOr fields "app_name" base.appName
      audit := auditOf fields }
  let c := c.withPageSize (natOr fields "default_page_size" base.pageSize)
  match Object.get? fields "without_audit" with
  | some (.bool true) => c.withoutAudit
  | _ => c

/-- The document of a configuration. -/
def toJson (c : Config) : Value :=
  .obj [("database_url", .str c.databaseUrl), ("id_field", .str c.idField),
    ("import_limit", .int c.importLimit),
    ("default_page_size", .int c.pageSize),
    ("reserved_tables", textList c.reservedTables),
    ("table_cache_ttl", .int c.cacheSeconds), ("app_name", .str c.appName),
    ("audit", c.audit.toJson)]

end Config

end TenantTables
