import TenantTables.Record
import TenantTables.Sql.Condition
import TenantTables.Sql.Parameter
import TenantTables.TableName

/-!
# Statements

The statements that read and write rows. The k-th parameter of a statement is
the value of its placeholder `$k`: those of the filter come first and in the
order of its clauses, then what the statement adds.
-/

namespace TenantTables.Sql

open Json (Value)
open Query (Filter SortTerm Descriptor)

/-- A statement and the values of its placeholders. -/
structure Statement where
  sql : String
  params : List Parameter

namespace Statement

/-- A statement without placeholders. -/
def plain (sql : String) : Statement := ⟨sql, []⟩

/-- The placeholder with a number. -/
def placeholder (n : Nat) : String := "$" ++ toString n

/-- The condition of a statement and the values it binds. -/
def whereClause (spec : TableSpec) (f : Filter) : String × List Parameter :=
  let (sql, p) := condition spec f (Params.startingAt 0)
  ((sql.map (" WHERE " ++ ·)).getD "", p.values.map fun s => .text (some s))

/-- The order of a statement: that of the surrogate key where no
other is known. -/
def orderClause (spec : TableSpec) (sorts : List SortTerm) : String :=
  (orderBy spec sorts).getD (quote idColumn ++ " ASC")

/-- Counts the selected rows. -/
def count (spec : TableSpec) (t : TableName) (f : Filter) : Statement :=
  let (condition, params) := whereClause spec f
  ⟨"SELECT COUNT(*) FROM " ++ quote t.physical ++ condition, params⟩

/-- The greatest number that a placeholder of the page can take. -/
def maxInteger : Nat := 9223372036854775807

/-- Selects the rows of a page. -/
def page (spec : TableSpec) (t : TableName) (d : Descriptor) : Statement :=
  let (condition, params) := whereClause spec d.filter
  ⟨"SELECT " ++ selectList spec d.selected ++ " FROM " ++ quote t.physical ++
    condition ++
      " ORDER BY " ++ orderClause spec d.sorts ++
      " LIMIT " ++ placeholder (params.length + 1) ++
      " OFFSET " ++ placeholder (params.length + 2),
    params ++ [.integer (some d.pageSize),
      .integer (some (min d.offset maxInteger : Nat))]⟩

/-- Selects all rows in order. -/
def selectAll (spec : TableSpec) (t : TableName) (f : Filter)
    (sorts : List SortTerm) :
    Statement :=
  let (condition, params) := whereClause spec f
  ⟨"SELECT * FROM " ++ quote t.physical ++ condition ++ " ORDER BY " ++
    orderClause spec sorts, params⟩

/-- Deletes the selected rows. -/
def deleteWhere (spec : TableSpec) (t : TableName) (f : Filter) : Statement :=
  let (condition, params) := whereClause spec f
  ⟨"DELETE FROM " ++ quote t.physical ++ condition, params⟩

/-- Selects the first row whose field has a text, if the field is known. -/
def find? (spec : TableSpec) (t : TableName)
    (field value : String) : Option Statement :=
  (spec.columnRef? field).map fun r =>
    ⟨"SELECT * FROM " ++ quote t.physical ++ " WHERE " ++ columnExpression r ++
        "::text = $1 ORDER BY " ++ quote idColumn ++ " ASC LIMIT 1",
      [.text (some value)]⟩

/-- Deletes the row under a surrogate key. -/
def deleteRow (t : TableName) (id : Int) : Statement :=
  ⟨"DELETE FROM " ++ quote t.physical ++ " WHERE " ++ quote idColumn ++ " = $1",
    [.integer (some id)]⟩

/-- Attributes under their columns, brought into shape. The surrogate key is
left out; a key that is no column is refused. -/
def coerceAll (spec : TableSpec) (t : TableName) :
    List (String × Value) → Except Error (List (Column × Value))
  | [] => .ok []
  | (key, v) :: attributes =>
      if key == idColumn then coerceAll spec t attributes
      else
        match spec.column? key with
        | none =>
            .error (.database
              ("column \"" ++ key ++ "\" of relation \"" ++ t.physical ++
              "\" does not exist"))
        | some column =>
            match column.coerce v with
            | .error e => .error (.database e)
            | .ok v => (coerceAll spec t attributes).map ((column, v) :: ·)

/-- The parameters of written columns in order. -/
def bindAll (values : List (Column × Value)) : Except Error (List Parameter) :=
  values.mapM fun (column, v) => Parameter.ofValue column v

/-- The placeholders of so many parameters. -/
def placeholders (n : Nat) : List String :=
  (List.range n).map fun i => placeholder (i + 1)

/-- The text of an insertion into the named columns. -/
def insertSql (t : TableName) (columns : List String) : String :=
  if columns.isEmpty then
    "INSERT INTO " ++ quote t.physical ++ " DEFAULT VALUES RETURNING *"
  else
    "INSERT INTO " ++ quote t.physical ++ " (" ++
      ", ".intercalate (columns.map quote) ++
      ") VALUES (" ++ ", ".intercalate (placeholders columns.length) ++
      ") RETURNING *"

/-- Inserts a row with these attributes. -/
def insert (spec : TableSpec) (t : TableName)
    (attributes : List (String × Value)) :
    Except Error Statement := do
  let values ← coerceAll spec t attributes
  let params ← bindAll values
  .ok ⟨insertSql t (values.map fun (column, _) => column.name), params⟩

/-- The assignments of named columns to placeholders in order. -/
def assignments (columns : List String) : List String :=
  List.zipWith (fun column place => quote column ++ " = " ++ place) columns
    (placeholders columns.length)

/-- The column that tells when a row was last written. -/
def updatedColumn : String := "updated_at"

/-- Writes the changes to the row under a surrogate key, and the time of
writing unless the changes give it. -/
def update (spec : TableSpec) (t : TableName) (id : Int)
    (changes : List Change) : Except Error Statement := do
  let values ← coerceAll spec t (changes.map fun c => (c.key, c.new))
  let params ← bindAll values
  let stamp :=
    if spec.hasColumn updatedColumn &&
        !changes.any (·.key == updatedColumn) then
      [quote updatedColumn ++ " = NOW()"]
    else []
  .ok ⟨"UPDATE " ++ quote t.physical ++ " SET " ++
      ", ".intercalate
        (assignments (values.map fun (column, _) => column.name) ++ stamp) ++
      " WHERE " ++ quote idColumn ++ " = " ++ placeholder (params.length + 1) ++
      " RETURNING *",
    params ++ [.integer (some id)]⟩

end Statement

end TenantTables.Sql
