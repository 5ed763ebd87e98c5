import TenantTables.Json.Print
import TenantTables.Number.Reading
import TenantTables.Time.Reading

/-!
# Columns

A column has a type, and a type decides two things: the SQL type it is created
with, and the shape that a value is brought into before it is stored. Bringing
a value into shape is forgiving where files are imported from: numbers and
booleans may arrive as text, and blank text means null everywhere but in a text
column.
-/

namespace TenantTables

open Json (Value)
open Number (readInt64? readDouble? isNumericLiteral)
open Time (Instant)

/-- What a column stores. -/
inductive ColumnType where
  /-- The surrogate key, numbered by the store. -/
  | serial
  | text
  /-- Text of at most so many characters. -/
  | varchar (length : Nat)
  /-- Signed 64-bit integers. -/
  | integer
  /-- Exact numbers with so many digits, of which `scale` are
  behind the point. -/
  | decimal (precision scale : Nat)
  | boolean
  | timestamp
  /-- Any document. -/
  | json
  deriving DecidableEq, Repr

/-- Reads the spellings of a boolean that PostgreSQL accepts, trimmed
and in any case. -/
def readBool? (s : String) : Option Bool :=
  let word := Text.lower (Text.trim s)
  if ["true", "t", "1", "yes", "y", "on"].contains word then some true
  else if ["false", "f", "0", "no", "n", "off"].contains word then some false
  else none

namespace ColumnType

/-- The type in a table definition. -/
def sqlType : ColumnType → String
  | .serial => "BIGSERIAL PRIMARY KEY"
  | .text => "TEXT"
  | .varchar length => "VARCHAR(" ++ toString length ++ ")"
  | .integer => "BIGINT"
  | .decimal precision scale =>
      "NUMERIC(" ++ toString precision ++ "," ++ toString scale ++ ")"
  | .boolean => "BOOLEAN"
  | .timestamp => "TIMESTAMP WITH TIME ZONE"
  | .json => "JSONB"

/-- The name of the type in messages. -/
def describe : ColumnType → String
  | .serial => "Serial"
  | .text => "String"
  | .varchar length => "Varchar \x7b length: " ++ toString length ++ " \x7d"
  | .integer => "Integer"
  | .decimal precision scale =>
      "Decimal \x7b precision: " ++ toString precision ++ ", scale: " ++
        toString scale ++ " \x7d"
  | .boolean => "Boolean"
  | .timestamp => "Timestamp"
  | .json => "Json"

def isText : ColumnType → Bool
  | .text | .varchar _ => true
  | _ => false

/-- The SQL type that filter comparisons are made in, if it is not text. -/
def filterCast : ColumnType → Option String
  | .serial | .integer | .decimal .. => some "numeric"
  | .boolean => some "boolean"
  | .timestamp => some "timestamptz"
  | .text | .varchar _ | .json => none

/-- Whether a filter literal can be compared in the column's own type. A
literal that cannot is compared as text. -/
def acceptsLiteral (t : ColumnType) (literal : String) : Bool :=
  match t with
  | .serial | .integer | .decimal .. => isNumericLiteral literal
  | .boolean => (readBool? literal).isSome
  | .timestamp => (Instant.read? literal).isSome
  | .text | .varchar _ | .json => false

/-- The message for a value that cannot be read as the type. -/
def cannotConvert (value type : String) : String :=
  "Cannot convert '" ++ value ++ "' to " ++ type

/-- The message for a value of a kind that the type does not take. -/
def mismatch (t : ColumnType) (v : Value) : String :=
  "Type mismatch: expected " ++ t.describe ++ ", got " ++ v.text

/-- Text as a value of the type. -/
def coerceText (t : ColumnType) (s : String) : Except String Value :=
  match t with
  | .serial | .integer =>
      match readInt64? (Text.trim s) with
      | some n => .ok (.int n)
      | none => .error (cannotConvert s "integer")
  | .decimal .. =>
      match readDouble? (Text.trim s) with
      | some d => .ok (.float d)
      | none => .error (cannotConvert s "decimal")
  | .boolean =>
      match readBool? s with
      | some b => .ok (.bool b)
      | none => .error (cannotConvert s "boolean")
  | .timestamp =>
      match Instant.read? s with
      | some i => .ok (.str i.toText)
      | none => .error ("Invalid timestamp format: '" ++ s ++ "'")
  | .varchar length =>
      if s.length ≤ length then .ok (.str s)
      else .error
        ("value too long for type character varying(" ++ toString length ++ ")")
  | .text | .json => .ok (.str s)

/-- A number as a value of a type that is not text. -/
def coerceNumber (t : ColumnType) (v : Value) : Except String Value :=
  match t with
  | .serial | .integer =>
      match v.int64? with
      | some n => .ok (.int n)
      | none => .error (cannotConvert v.text "integer")
  | .boolean =>
      match v.int64? with
      | some 0 => .ok (.bool false)
      | some 1 => .ok (.bool true)
      | _ => .error (cannotConvert v.text "boolean")
  | .decimal .. | .json => .ok v
  | _ => .error (t.mismatch v)

/-- Brings a value into the shape that the type stores. -/
def coerce (t : ColumnType) (v : Value) : Except String Value :=
  match v with
  | .null => .ok .null
  | .str s =>
      if !t.isText && Text.isBlankText s then .ok .null else t.coerceText s
  | v =>
      if t.isText then t.coerceText v.text
      else
        match t, v with
        | .json, v => .ok v
        | .boolean, .bool b => .ok (.bool b)
        | t, .int n => t.coerceNumber (.int n)
        | t, .float d => t.coerceNumber (.float d)
        | t, v => .error (t.mismatch v)

end ColumnType

/-- A column of a table. -/
structure Column where
  name : String
  type : ColumnType
  nullable : Bool := true
  unique : Bool := false
  /-- The expression that gives the value where none is written. -/
  default? : Option String := none
  deriving DecidableEq, Repr

/-- Brings a value into the column's shape and enforces NOT NULL. -/
def Column.coerce (c : Column) (v : Value) : Except String Value :=
  match c.type.coerce v with
  | .error e => .error ("column \"" ++ c.name ++ "\": " ++ e)
  | .ok w =>
      if w.isNull && !c.nullable then
        .error ("null value in column \"" ++ c.name ++
          "\" violates not-null constraint")
      else .ok w

/-- An index of a table. -/
structure Index where
  /-- The name, which follows the table's in the database. -/
  name : String
  columns : List String
  unique : Bool := false
  deriving DecidableEq, Repr

end TenantTables
