import TenantTables.Number.Decimal
import TenantTables.Record

/-!
# Replies

What the database answers to a statement: rows of typed values under the names
of their columns, and how many rows it touched. A row is read through the
layout of its table: every column of the layout that came is an attribute, and
a value of another type than the column's reads as null.
-/

namespace TenantTables.Postgres

open Json (Value Object)
open Number (Decimal)
open Time (Instant)

/-- A value in a row of the database. -/
inductive Cell where
  | null
  | integer (n : Int)
  | boolean (b : Bool)
  | text (s : String)
  | instant (t : Instant)
  | decimal (d : Decimal)
  | document (v : Value)
  /-- A value of a type that no column of a layout has. -/
  | foreign

/-- A row: values under the names of their columns. -/
abbrev Row := List (String × Cell)

/-- The answer to a statement. -/
structure Reply where
  rows : List Row
  affected : Nat

/-- The value of a column whose name may repeat: that of the last. -/
def Row.cell? (row : Row) (name : String) : Option Cell :=
  (row.reverse : List (String × Cell)).lookup name

/-- The value that a column of this type reads, null if it is
of another type. -/
def Cell.read (type : ColumnType) (cell : Cell) : Value :=
  match type, cell with
  | .text, .text s | .varchar _, .text s => .str s
  | .serial, .integer n | .integer, .integer n => .int n
  | .decimal .., .decimal d => .float d.toDouble
  | .boolean, .boolean b => .bool b
  | .timestamp, .instant t => .str t.toText
  | .json, .document v => v
  | _, _ => .null

/-- The attributes of a row in the order of the layout. -/
def Row.read (spec : TableSpec) (row : Row) : Object :=
  Object.ofFields (spec.columns.filterMap fun column =>
    (Row.cell? row column.name).map fun cell =>
      (column.name, cell.read column.type))

/-- The surrogate key of a row, and its attributes. -/
def splitId (attributes : Object) : Except Error (Int × Object) :=
  match (attributes.get? idColumn).bind Value.int64? with
  | some id => .ok (id, attributes.erase idColumn)
  | none => .error (.database "row has no surrogate id")

/-- The record of a row. -/
def Row.record (spec : TableSpec) (row : Row) : Except Error Record :=
  (splitId (Row.read spec row)).map fun (id, attributes) =>
    Record.ofStored id attributes

/-- The number in the first column of a row. -/
def Row.number? : Row → Option Int
  | (_, .integer n) :: _ => some n
  | _ => none

end TenantTables.Postgres
