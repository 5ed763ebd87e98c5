import TenantTables.Sql.Identifier

/-!
# Table definitions

The statements that create, drop and empty a table. All of them may be repeated
without harm, so a table can be created on first use.
-/

namespace TenantTables.Sql

/-- A column in a table definition. -/
def columnDefinition (c : Column) : String :=
  " ".intercalate ([quote c.name, c.type.sqlType] ++
    (if c.unique then ["UNIQUE"] else []) ++
    (if c.nullable then [] else ["NOT NULL"]) ++
    match c.default? with
    | some expression => ["DEFAULT " ++ expression]
    | none => [])

def createTable (spec : TableSpec) (table : String) : String :=
  "CREATE TABLE IF NOT EXISTS " ++ quote table ++ " (" ++
    ", ".intercalate (spec.columns.map columnDefinition) ++ ")"

/-- The name of an index in the database: that of its table goes in front. -/
def indexName (table : String) (index : Index) : String :=
  table ++ "_" ++ index.name

def createIndex (table : String) (index : Index) : String :=
  "CREATE " ++ (if index.unique then "UNIQUE " else "") ++
    "INDEX IF NOT EXISTS " ++
    quote (indexName table index) ++ " ON " ++ quote table ++ "(" ++
    ", ".intercalate (index.columns.map quote) ++ ")"

/-- The statements for all indexes of a layout. -/
def createIndexes (spec : TableSpec) (table : String) : List String :=
  spec.indexes.map (createIndex table)

def dropTable (table : String) : String :=
  "DROP TABLE IF EXISTS " ++ quote table ++ " CASCADE"

/-- Empties a table and starts its surrogate key anew. -/
def truncateTable (table : String) : String :=
  "TRUNCATE TABLE " ++ quote table ++ " RESTART IDENTITY"

end TenantTables.Sql
