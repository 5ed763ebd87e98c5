import TenantTables.Error
import TenantTables.Text.Class
import TenantTables.Text.Split

/-!
# Table names

Tenants share one database, and a table belongs to a tenant by its name: the
slugs of the tenant and of the table, with a dollar sign between them. A slug
holds lower case letters, digits and underscores only, so the dollar sign is
always the first in the physical name, and the two parts can be told apart
again.
-/

namespace TenantTables

/-- The characters of a slug. -/
def isSlugChar (c : Char) : Bool :=
  Text.isAsciiLower c || Text.isAsciiDigit c || c == '_'

/-- Lower case, and nothing but letters, digits and underscores kept. -/
def slug (value : String) : String :=
  String.ofList ((Text.lower value).toList.filter isSlugChar)

/-- The delimiter between the parts of a physical name. -/
def tableDelimiter : Char := '$'

/-- The physical name of a tenant's table, without any check. -/
def physicalName (tenant table : String) : String :=
  slug tenant ++ String.ofList [tableDelimiter] ++ slug table

/-- A text that is a slug and not empty. -/
def IsSlug (s : String) : Prop :=
  s ≠ "" ∧ s.toList.all isSlugChar = true

instance (s : String) : Decidable (IsSlug s) :=
  inferInstanceAs (Decidable (_ ∧ _))

/-- A table of a tenant. -/
structure TableName where
  tenant : String
  table : String
  tenant_isSlug : IsSlug tenant
  table_isSlug : IsSlug table
  deriving DecidableEq

namespace TableName

/-- The identifier of the table in the database. -/
def physical (t : TableName) : String :=
  t.tenant ++ String.ofList [tableDelimiter] ++ t.table

/-- The name of a tenant's table. Both parts must have a character
that a slug keeps. -/
def of (tenant name : String) : Except Error TableName :=
  if ht : IsSlug (slug tenant) then
    if hn : IsSlug (slug name) then .ok ⟨slug tenant, slug name, ht, hn⟩
    else .error
      (.invalidTable ("Table '" ++ name ++ "' has no usable characters"))
  else .error .tenantRequired

/-- The name under an explicit tenant, or else under the ambient one. -/
def resolve (tenant : Option String) (name : String) (ambient : Option String) :
    Except Error TableName :=
  match tenant.or ambient with
  | some tenant => of tenant name
  | none => .error .tenantRequired

/-- Reads a physical name back. Parts that no slug produces are refused. -/
def parse (physical : String) : Except Error TableName :=
  let refused : Error :=
    .invalidTable ("'" ++ physical ++ "' is not a tenant table")
  match Text.splitOnce tableDelimiter physical with
  | (tenant, some table) =>
      if tenant ≠ slug tenant ∨ table ≠ slug table then .error refused
      else of tenant table
  | (_, none) => .error refused

end TableName

/-- Whether a caller may use this logical name: three to thirty
slug characters. -/
def isLogicalName (name : String) : Bool :=
  let cs := name.toList
  3 ≤ cs.length && cs.length ≤ 30 && cs.all isSlugChar

/-- Checks a logical table name; reserved names are not for callers. -/
def validateTableName (name : String)
    (reserved : List String) : Except Error Unit :=
  if !isLogicalName name then
    .error (.invalidTable
      ("Table '" ++ name ++ "' must be 3 to 30 characters " ++
      "of lowercase letters, numbers and underscores"))
  else if reserved.contains name then
    .error (.invalidTable ("Table '" ++ name ++ "' is reserved"))
  else .ok ()

end TenantTables
