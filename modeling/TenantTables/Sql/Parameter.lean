import TenantTables.Number.Decimal
import TenantTables.TableSpec
import TenantTables.Time.Stored

/-!
# Parameters

The values that a statement is sent with. Each has a type of its own, null
included, so the database never has to guess one.
-/

namespace TenantTables.Sql

open Json (Value)
open Number (Decimal)
open Time (Instant)

/-- A value bound to a placeholder; of each type, nothing stands for null. -/
inductive Parameter where
  | text (s : Option String)
  | integer (n : Option Int)
  | boolean (b : Option Bool)
  | instant (t : Option Instant)
  | decimal (d : Option Decimal)
  | document (v : Option Value)

namespace Parameter

/-- The failure to bind a value that is not of the column's kind. -/
def mismatch (column expected : String) : Error :=
  .validation ("Column '" ++ column ++ "' expected " ++ expected)

/-- The value, if there is one; what is expected of it goes into the message. -/
def expect {α : Type} (column expected : String)
    (value : Option α) : Except Error α :=
  match value with
  | some a => .ok a
  | none => .error (mismatch column expected)

/-- Binds a value that is not null under the type of its column. -/
def ofPresent (c : Column) (v : Value) : Except Error Parameter :=
  match c.type with
  | .text | .varchar _ => .ok (.text v.toText?)
  | .serial | .integer =>
      (expect c.name "integer" v.int64?).map fun n => .integer (some n)
  | .decimal .. =>
      (expect c.name "decimal" (v.toText?.bind Decimal.ofText?)).map fun d =>
        .decimal (some d)
  | .boolean =>
      match v with
      | .bool b => .ok (.boolean (some b))
      | _ => .error (mismatch c.name "boolean")
  | .timestamp =>
      match v with
      | .str s =>
          (expect c.name "timestamp" (Instant.readStrict? s)).map fun t =>
            .instant (some t.stored)
      | _ => .error (mismatch c.name "timestamp string")
  | .json => .ok (.document (some v))

/-- The null of a column. -/
def null (c : Column) : Parameter :=
  match c.type with
  | .text | .varchar _ => .text none
  | .serial | .integer => .integer none
  | .decimal .. => .decimal none
  | .boolean => .boolean none
  | .timestamp => .instant none
  | .json => .document none

/-- Binds a value under the type of its column. -/
def ofValue (c : Column) (v : Value) : Except Error Parameter :=
  if v.isNull then .ok (null c) else ofPresent c v

end Parameter

end TenantTables.Sql
