import TenantTables.Csv
import TenantTables.FieldRule

/-!
# Import rows

All rows of a file are read and checked before the first is stored. A cell is
trimmed; three words stand for null, what looks like a number and can be kept
as one becomes a number, and everything else is text. Headers are paths and may
have dots.
-/

namespace TenantTables.Import

open Json (Value Object)

/-- Words that stand for null, in any case. -/
def nullWords : List String := ["null", "nil", "undefined"]

/-- The column that tells which import a row came with. -/
def importIdColumn : String := "import_id"

/-- The value of a cell. -/
def readCell (raw : String) : Value :=
  let text := Text.trim raw
  if nullWords.contains (Text.lower text) then .null
  else if Number.isNumeric text then
    match Number.readInt64? text with
    | some n => .int n
    | none =>
        match Number.readDouble? text with
        | some d => .float d
        | none => .str text
  else .str text

/-- A row that passed its rules. -/
structure Row where
  /-- Counted from one. -/
  number : Nat
  /-- Cells under their headers. -/
  values : Object
  importId : String

namespace Row

/-- The attributes of the row, nested, with the import they came with. -/
def attributes (r : Row) : Object :=
  (Path.undot r.values).insert importIdColumn (.str r.importId)

/-- The identifier that the row carries, unless it is blank. -/
def id? (r : Row) (idField : String) : Option String :=
  ((r.values.get? idField).bind Value.toText?).filter fun id =>
    !Text.isBlankText id

/-- The row as it was read, for reports. -/
def toJson (r : Row) : Value :=
  .obj r.values

end Row

/-- What rows are held to. -/
structure Limits where
  rules : FieldRules
  /-- The greatest number of rows. -/
  rows : Nat

/-- Checks the records from the given number on. A record that cannot be read
comes first among its failures, then the limit, then the rules. -/
def validateFrom (limits : Limits) (importId : String) :
    Nat → List (Except Error (List (String × String))) → Except Error (List Row)
  | _, [] => .ok []
  | _, .error e :: _ => .error e
  | n, .ok cells :: records =>
      let values :=
        Object.ofFields (cells.map fun (header, cell) =>
          (header, readCell cell))
      if limits.rows < n then .error (.importLimit limits.rows n)
      else
        let messages := limits.rules.validate values
        if !messages.isEmpty then
          .error (.rowValidation n (.obj values) messages)
        else (validateFrom limits importId (n + 1) records).map
          (⟨n, values, importId⟩ :: ·)

/-- Checks records, each of them headers with cells, or a failure to read. -/
def validate (limits : Limits) (importId : String)
    (records : List (Except Error (List (String × String)))) :
    Except Error (List Row) :=
  validateFrom limits importId 1 records

/-- The cells of a record under their headers; what has no
partner is dropped. -/
def pairCells (headers : List String) : Option (List String) →
    Except Error (List (String × String))
  | none => .error .csv
  | some cells => .ok ((headers.map Text.trim).zip cells)

/-- Checks a file whose first record holds the headers. -/
def validateCsv (limits : Limits) (importId : String) (bytes : List UInt8) :
    Except Error (List Row) :=
  match Csv.read bytes with
  | [] => .ok []
  | none :: _ => .error .csv
  | some headers :: records =>
      validate limits importId (records.map (pairCells headers))

end TenantTables.Import
