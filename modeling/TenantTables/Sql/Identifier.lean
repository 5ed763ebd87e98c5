import TenantTables.TableSpec

/-!
# SQL identifiers

Every identifier is quoted, since table names hold a dollar sign. Quoting
doubles the quotes inside, so no name can end its own quotation. Column and
index names of a layout are held to a narrower form on top of that.
-/

namespace TenantTables.Sql

/-- Words that PostgreSQL reserves. -/
def reservedWords : List String := [
  "ALL", "ANALYSE", "ANALYZE", "AND", "ANY", "ARRAY", "AS", "ASC",
  "ASYMMETRIC", "BOTH", "CASE", "CAST", "CHECK", "COLLATE", "COLUMN",
  "CONSTRAINT", "CREATE", "CURRENT_CATALOG", "CURRENT_DATE", "CURRENT_ROLE",
  "CURRENT_TIME", "CURRENT_TIMESTAMP", "CURRENT_USER", "DEFAULT", "DEFERRABLE",
  "DESC", "DISTINCT", "DO", "ELSE", "END", "EXCEPT", "FALSE", "FETCH", "FOR",
  "FOREIGN", "FROM", "GRANT", "GROUP", "HAVING", "IN", "INITIALLY", "INTERSECT",
  "INTO", "LATERAL", "LEADING", "LIMIT", "LOCALTIME", "LOCALTIMESTAMP", "NOT",
  "NULL", "OFFSET", "ON", "ONLY", "OR", "ORDER", "PLACING", "PRIMARY",
  "REFERENCES", "RETURNING", "SELECT", "SESSION_USER", "SOME", "SYMMETRIC",
  "TABLE", "THEN", "TO", "TRAILING", "TRUE", "UNION", "UNIQUE", "USER", "USING",
  "VARIADIC", "WHEN", "WHERE", "WINDOW", "WITH"]

/-- Quotes an identifier; quotes inside are doubled. -/
def quote (identifier : String) : String :=
  "\"" ++ Text.substitute '"' ['"', '"'] identifier ++ "\""

/-- A path into a document as a text literal. -/
def pathLiteral (segments : List String) : String :=
  "'\x7b" ++
    Text.substitute '\'' ['\'', '\''] (",".intercalate segments) ++ "\x7d'"

/-- Lower case letters, digits and underscores, with a letter in front. -/
def isSnakeCase (name : String) : Bool :=
  match name.toList with
  | [] => false
  | c :: cs =>
      Text.isAsciiLower c &&
        cs.all fun c => Text.isAsciiLower c || Text.isAsciiDigit c || c == '_'

/-- Checks the name of a column or an index. -/
def validateIdentifier (name : String)
    (reserved : List String) : Except String Unit :=
  if name.isEmpty then .error "Column name is empty"
  else if !isSnakeCase name then
    .error ("Column '" ++ name ++ "' must be lowercase snake case")
  else if reservedWords.contains (Text.upper name) then
    .error ("Column '" ++ name ++ "' is a PostgreSQL keyword")
  else if reserved.contains name then
    .error ("Column '" ++ name ++ "' is managed by the store")
  else .ok ()

/-- Checks names in order; the first that fails decides. -/
def validateNames : List String → Except Error Unit
  | [] => .ok ()
  | name :: names =>
      match validateIdentifier name [] with
      | .error e => .error (.validation e)
      | .ok () => validateNames names

/-- Checks that every index names columns of the layout. -/
def validateIndexes (spec : TableSpec) : List Index → Except Error Unit
  | [] => .ok ()
  | index :: indexes =>
      match index.columns.find? fun c => !spec.hasColumn c with
      | some missing =>
          .error (.validation
            ("Index '" ++ index.name ++ "' names unknown column '" ++
            missing ++ "'"))
      | none => validateIndexes spec indexes

/-- Checks the names of a layout and the columns of its indexes. -/
def validateSpec (spec : TableSpec) : Except Error Unit :=
  match validateNames (spec.columns.map (·.name) ++ spec.indexes.map (·.name))
    with
  | .error e => .error e
  | .ok () => validateIndexes spec spec.indexes

end TenantTables.Sql
