import TenantTables.Config
import TenantTables.Pattern.Match
import TenantTables.Pattern.Read
import TenantTables.Record
import TenantTables.TableName

/-!
# Audit policy

Which tables are audited, and what of a change the log may tell. Patterns are
not anchored. A table is audited only if both patterns for inclusion are set
and match, and no pattern for exclusion does.
-/

namespace TenantTables.Audit

open Json (Value)

/-- The compiled settings. -/
structure Policy where
  includeTenant : Option Pattern.Expr
  includeTable : Option Pattern.Expr
  excludeTenant : Option Pattern.Expr
  excludeTable : Option Pattern.Expr
  hiddenFields : List String

namespace Policy

/-- The policy that audits nothing. -/
def disabled : Policy := ⟨none, none, none, none, []⟩

/-- Reads a pattern; an empty one counts as not set. -/
def compile (pattern : Option String) : Except Error (Option Pattern.Expr) :=
  match pattern.filter (· ≠ "") with
  | none => .ok none
  | some p =>
      match Pattern.Expr.parse? p with
      | some e => .ok (some e)
      | none => .error (.invalidPattern .audit)

/-- The policy of a configuration. -/
def ofConfig (c : AuditConfig) : Except Error Policy := do
  let includeTenant ← compile c.includeTenant
  let includeTable ← compile c.includeTable
  let excludeTenant ← compile c.excludeTenant
  let excludeTable ← compile c.excludeTable
  .ok ⟨includeTenant, includeTable, excludeTenant, excludeTable, c.hiddenFields⟩

/-- Whether a pattern that may be unset is set and matches. -/
def matched (pattern : Option Pattern.Expr) (s : String) : Bool :=
  pattern.any fun e => e.isMatch s

/-- Whether changes to a table are audited. -/
def audits (p : Policy) (t : TableName) : Bool :=
  matched p.includeTenant t.tenant && matched p.includeTable t.table &&
    !matched p.excludeTenant t.tenant && !matched p.excludeTable t.table

/-- What stands for a concealed value. -/
def hiddenValue : Value := .str "***HIDDEN***"

/-- Conceals the values of a hidden attribute. -/
def maskChange (p : Policy) (c : Change) : Change :=
  if p.hiddenFields.contains c.key then ⟨c.key, hiddenValue, hiddenValue⟩ else c

/-- Conceals the values of all hidden attributes. -/
def mask (p : Policy) (log : List Change) : List Change :=
  log.map p.maskChange

end Policy

end TenantTables.Audit
