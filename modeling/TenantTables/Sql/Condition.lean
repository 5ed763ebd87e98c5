import TenantTables.Json.Print
import TenantTables.Query.Descriptor
import TenantTables.Sql.Identifier

/-!
# Conditions

Filters, orders and column lists as SQL. No value ever becomes part of the
text: each is bound as a text parameter, and the placeholder casts it to the
type that the comparison is made in.

A clause on an unknown column is left out, and so is a group that loses all its
clauses. A value inside a document comes out as text; it compares numerically
when both the stored value and the literal are numbers, which the statement
itself has to find out about the stored one.
-/

namespace TenantTables.Sql

open Query

/-- The values bound to a statement, in the order of their placeholders. -/
structure Params where
  values : List String
  /-- How many placeholders the statement has in front of these. -/
  offset : Nat
  deriving DecidableEq, Repr

namespace Params

/-- No values yet, behind so many placeholders. -/
def startingAt (offset : Nat) : Params := ⟨[], offset⟩

/-- The number of the next placeholder. -/
def nextIndex (p : Params) : Nat :=
  p.offset + p.values.length + 1

/-- Binds a value and gives its placeholder. -/
def push (p : Params) (value : String) : String × Params :=
  ("$" ++ toString p.nextIndex, { p with values := p.values ++ [value] })

end Params

/-- The expression for a column or for the text below it. -/
def columnExpression (r : ColumnRef) : String :=
  if r.isNested then
    "(" ++ quote r.column.name ++ "#>>" ++ pathLiteral r.path ++ ")"
  else quote r.column.name

/-- The test that the value below a column is a number. -/
def numberTest (r : ColumnRef) : String :=
  "jsonb_typeof(" ++ quote r.column.name ++ "#>" ++ pathLiteral r.path ++
    ") = 'number'"

/-- Whether the comparison has to distinguish stored numbers
from other values. -/
def comparesNested (r : ColumnRef) (literals : List String) : Bool :=
  r.isNested && literals.all Number.isNumericLiteral

/-- The sign of a comparison. Only equality has a negated form. -/
def comparisonSign (op : Operator) (negate : Bool) : String :=
  match op, negate with
  | .eq, false => "="
  | .eq, true => "!="
  | .gt, _ => ">"
  | .gte, _ => ">="
  | .lt, _ => "<"
  | _, _ => "<="

/-- The left side of a comparison and the type it is made in: the column's own
if every literal fits it, and text otherwise. -/
def typedOperand (expression : String) (type : ColumnType)
    (literals : List String) :
    String × String :=
  match type.filterCast with
  | some cast =>
      if literals.all type.acceptsLiteral then (expression, cast)
      else (expression ++ "::text", "text")
  | none => (expression ++ "::text", "text")

/-- A comparison with one value. -/
def comparison (r : ColumnRef) (sign value : String)
    (p : Params) : String × Params :=
  let e := columnExpression r
  let (place, q) := p.push value
  if comparesNested r [value] then
    ("CASE WHEN " ++ numberTest r ++ " THEN " ++ e ++ "::numeric " ++ sign ++
      " " ++ place ++ "::numeric ELSE " ++ e ++ "::text " ++ sign ++ " " ++
      place ++ "::text END", q)
  else
    let (left, cast) := typedOperand e r.type [value]
    (left ++ " " ++ sign ++ " " ++ place ++ "::" ++ cast, q)

/-- A comparison with a range. -/
def range (r : ColumnRef) (not low high : String)
    (p : Params) : String × Params :=
  let e := columnExpression r
  let (l, q) := p.push low
  let (h, q) := q.push high
  if comparesNested r [low, high] then
    ("CASE WHEN " ++ numberTest r ++ " THEN " ++ e ++ "::numeric " ++ not ++
      "BETWEEN " ++ l ++ "::numeric AND " ++ h ++ "::numeric ELSE " ++ e ++
      "::text " ++ not ++ "BETWEEN " ++ l ++ "::text AND " ++ h ++
      "::text END", q)
  else
    let (left, cast) := typedOperand e r.type [low, high]
    (left ++ " " ++ not ++ "BETWEEN " ++ l ++ "::" ++ cast ++ " AND " ++ h ++
      "::" ++ cast, q)

/-- The condition of a clause on a column that exists. -/
def clauseOn (r : ColumnRef) (c : Clause) (p : Params) : String × Params :=
  let e := columnExpression r
  let not := if c.negate then "NOT " else ""
  match c.operator with
  | .isNull => (e ++ " IS " ++ not ++ "NULL", p)
  | .eq | .gt | .gte | .lt | .lte =>
      comparison r (comparisonSign c.operator c.negate)
        (c.value.single?.getD "") p
  | .contains | .startsWith | .endsWith =>
      let pattern := (c.operator.likePattern? (c.value.single?.getD "")).getD ""
      let (place, p) := p.push pattern
      (e ++ "::text " ++ not ++ "LIKE " ++ place ++ "::text", p)
  | .between =>
      match c.value.bounds with
      | (some low, some high) => range r not low high p
      | _ => ("FALSE", p)
  | .oneOf =>
      let (place, p) := p.push (Json.Value.arr (c.value.values.map .str)).text
      let any :=
        e ++ "::text = ANY(SELECT jsonb_array_elements_text(" ++ place ++
          "::jsonb))"
      (if c.negate then "NOT (" ++ any ++ ")" else any, p)

/-- The condition of a clause, unless its column is unknown. -/
def clause (spec : TableSpec) (c : Clause) (p : Params) :
    Option String × Params :=
  match spec.columnRef? c.column with
  | none => (none, p)
  | some r =>
      let (sql, p) := clauseOn r c p
      (some sql, p)

/-- The conditions of the clauses on known columns. -/
def clauses (spec : TableSpec) : List Clause → Params → List String × Params
  | [], p => ([], p)
  | c :: cs, p =>
      let (sql, p) := clause spec c p
      let (sqls, p) := clauses spec cs p
      (sql.toList ++ sqls, p)

/-- The conditions of the groups that keep a clause. -/
def groups (spec : TableSpec) :
    List (List Clause) → Params → List String × Params
  | [], p => ([], p)
  | g :: gs, p =>
      let (sqls, p) := clauses spec g p
      let (rest, p) := groups spec gs p
      (if sqls.isEmpty then rest
        else ("(" ++ " OR ".intercalate sqls ++ ")") :: rest, p)

/-- The condition of a filter, or none when nothing of it remains. -/
def condition (spec : TableSpec) (f : Filter) (p : Params) :
    Option String × Params :=
  let (sqls, p) := groups spec f.groups p
  (if sqls.isEmpty then none else some (" AND ".intercalate sqls), p)

/-- The order of the terms on known columns, or none when there are none. -/
def orderBy (spec : TableSpec) (sorts : List SortTerm) : Option String :=
  let terms := sorts.filterMap fun s =>
    (spec.columnRef? s.column).map fun r =>
      columnExpression r ++ " " ++ s.direction.sql
  if terms.isEmpty then none else some (", ".intercalate terms)

/-- The list of selected columns: the known ones, or all when there are none. -/
def selectList (spec : TableSpec) (columns : List String) : String :=
  if columns.contains "*" then "*"
  else
    let known := columns.filter spec.hasColumn
    if known.isEmpty then "*" else ", ".intercalate (known.map quote)

end TenantTables.Sql
