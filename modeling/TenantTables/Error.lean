import TenantTables.Json.Print
import TenantTables.Text.Order

/-!
# Errors

Everything an operation can fail with, by cause. Each cause has a status in the
manner of HTTP, a message, and a body for the caller; all three are derived
from the cause, so no two places word the same failure.
-/

namespace TenantTables

open Json (Value)

/-- Messages by field. Fields are in ascending order and occur once. -/
abbrev FieldMessages := List (String × List String)

namespace FieldMessages

/-- Sets the messages of a field, replacing what was there. -/
def insert : FieldMessages → String → List String → FieldMessages
  | [], field, messages => [(field, messages)]
  | (f, m) :: rest, field, messages =>
      if field == f then (field, messages) :: rest
      else if Text.order field f = .lt then (field, messages) :: (f, m) :: rest
      else (f, m) :: insert rest field messages

/-- The messages as a document. -/
def toJson (messages : FieldMessages) : Value :=
  .obj (messages.map fun (field, texts) => (field, .arr (texts.map .str)))

end FieldMessages

/-- A failure that the database reports. -/
inductive DatabaseFault where
  /-- The database refused a statement. -/
  | refused (code message : String)
  /-- A row was expected and none came. -/
  | noRow
  /-- A row came, and a value of it is not of the kind that was expected. -/
  | unreadable
  deriving DecidableEq, Repr

/-- What a pattern that cannot be read was meant for. -/
inductive PatternUse where
  | rule
  | audit
  deriving DecidableEq, Repr

/-- Why an operation failed. -/
inductive Error where
  /-- The request or the configuration makes no sense. -/
  | validation (message : String)
  /-- A pattern that cannot be read. -/
  | invalidPattern (use : PatternUse)
  | invalidTable (message : String)
  | tenantRequired
  | notFound (what : String)
  | conflict (message : String)
  /-- The inputs break their field rules. -/
  | fieldErrors (messages : FieldMessages)
  /-- An import row breaks the field rules. Nothing was stored. -/
  | rowValidation (rowNumber : Nat) (row : Value) (messages : FieldMessages)
  /-- The import has more rows than allowed. Nothing was stored. -/
  | importLimit (limit count : Nat)
  /-- An import row could not be stored, and nothing was. -/
  | importRow (rowNumber : Nat) (row : Value) (message : String)
  | missingFile
  /-- The store refuses a row. -/
  | database (message : String)
  | connection (message : String)
  | sql (fault : DatabaseFault)
  /-- A document does not decode. -/
  | document
  /-- A file is not CSV in UTF-8. -/
  | csv
  /-- The operation was broken off by a sort that was given no order. That is no
  answer: no handler sees it, and whoever goes on behind it has nothing to tell
  but a failure of its own. -/
  | aborted
  deriving Inhabited

namespace Error

/-- The status that a caller answers with. -/
def status : Error → Nat
  | .notFound _ => 404
  | .tenantRequired => 403
  | .conflict _ => 409
  | .validation _ | .invalidPattern _ | .fieldErrors _ | .invalidTable _
  | .rowValidation .. | .importLimit .. | .importRow .. | .missingFile | .csv =>
      422
  | .database _ | .connection _ | .sql _ | .document | .aborted => 500

/-- The wording of a database failure. -/
def faultMessage : DatabaseFault → String
  | .refused _ message => "error returned from database: " ++ message
  | .noRow =>
      "no rows returned by a query that expected to return at least one row"
  | .unreadable => "a column could not be read"

/-- The message of the failure. -/
def message : Error → String
  | .validation m => "Validation error: " ++ m
  | .invalidPattern .rule => "Validation error: Invalid rule pattern"
  | .invalidPattern .audit => "Validation error: Invalid audit pattern"
  | .invalidTable m => "Invalid table: " ++ m
  | .tenantRequired => "Tenant is required"
  | .notFound m => "Record not found: " ++ m
  | .conflict m => "Conflict: " ++ m
  | .fieldErrors _ => "The given data was invalid"
  | .rowValidation n _ _ => "Row " ++ toString n ++ " failed validation"
  | .importLimit limit _ =>
      "Import exceeds the limit of " ++ toString limit ++ " rows"
  | .importRow n _ m => "Row " ++ toString n ++ " could not be saved: " ++ m
  | .missingFile => "The file field is required"
  | .database m => "Database error: " ++ m
  | .connection m => "Connection error: " ++ m
  | .sql fault => "SQL error: " ++ faultMessage fault
  | .document => "JSON serialization error"
  | .csv => "CSV error"
  | .aborted => "The comparison of a sort is not a total order"

/-- The body for the caller. What was not found is not named in it. -/
def body : Error → Value
  | .notFound _ => .obj [("error", .str "not found")]
  | .fieldErrors messages => .obj [("error", messages.toJson)]
  | .rowValidation n row messages =>
      .obj [("error", messages.toJson), ("rowno", .int n), ("row", row)]
  | .importRow n row m =>
      .obj [("error", .str m), ("rowno", .int n), ("row", row)]
  | .importLimit limit count =>
      .obj [("error",
        .str ("import is limited to " ++ toString limit ++ " rows")),
        ("limit", .int limit), ("count", .int count)]
  | .missingFile =>
      .obj [("error",
        .obj [("file", .arr [.str "The file field is required."])])]
  | e => .obj [("error", .str e.message)]

end Error

end TenantTables
