import TenantTables.Csv
import TenantTables.Path
import TenantTables.Record
import TenantTables.TableName

/-!
# Exports

Records leave as CSV, flattened to dotted keys. Where no headings are given,
every key of every record is one, in the order of first encounter. A heading
may also name a whole document, which then is one cell.
-/

namespace TenantTables

open Json (Value Object)
open Time (Instant)

/-- The file that an export of a table is offered as. -/
def exportFileName (table : TableName) (now : Instant) : String :=
  table.table ++ "-" ++ toString now.second ++ ".csv"

/-- The text of a cell; null is an empty one. -/
def exportCell (v : Value) : String :=
  v.toText?.getD ""

/-- The names without repetitions, in the order of their first occurrence. -/
def distinct (names : List String) : List String :=
  names.foldl
    (fun seen name => if seen.contains name then seen else seen ++ [name]) []

/-- The keys of all flattened records. -/
def exportHeadings (records : List Record) : List String :=
  distinct (records.flatMap fun r => Object.keys (Path.flatten r.toObject))

/-- The cells of a record under headings. -/
def exportRow (headings : List String) (r : Record) : List String :=
  let nested := r.toObject
  let flat := Path.flatten nested
  headings.map fun heading =>
    match (flat.get? heading).or (Path.get? nested heading) with
    | some v => exportCell v
    | none => ""

/-- The file of records, a line of headings first if there are any. -/
def exportCsv (records : List Record)
    (headings : Option (List String)) : String :=
  let headings := headings.getD (exportHeadings records)
  let rows := records.map (exportRow headings)
  Csv.write (if headings.isEmpty then rows else headings :: rows)

end TenantTables
