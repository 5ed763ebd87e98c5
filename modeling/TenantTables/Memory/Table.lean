import TenantTables.Json.Read
import TenantTables.Query.Order
import TenantTables.Record
import TenantTables.TableName

/-!
# Tables in memory

A table is its rows under ascending surrogate keys, and the key that the next
row gets. Writing a row is all or nothing: the row is completed, brought into
the shape of its columns and held to every constraint before the table changes.
-/

namespace TenantTables.Memory

open Json (Value Object)
open Time (Instant)

/-- A table: rows without their surrogate keys, which are beside them. -/
structure Table where
  nextId : Int
  rows : List (Int × Object)

namespace Table

/-- A table without rows. -/
def empty : Table := ⟨1, []⟩

/-- The row under a key. -/
def row? (t : Table) (id : Int) : Option Object :=
  t.rows.lookup id

/-- Rows with one written under a key; keys stay in ascending order. -/
def setRow (id : Int) (row : Object) : List (Int × Object) → List (Int × Object)
  | [] => [(id, row)]
  | (i, r) :: rows =>
      if id = i then (id, row) :: rows
      else if id < i then (id, row) :: (i, r) :: rows
      else (i, r) :: setRow id row rows

/-- Removes the row under a key. -/
def erase (t : Table) (id : Int) : Table :=
  { t with rows := t.rows.filter fun (i, _) => i ≠ id }

end Table

/-- A constraint with a name, which every written row has to meet. -/
structure Check where
  name : String
  holds : Object → Bool

/-- Replaces each pair of single quotes by one, from left to right. -/
def unquoted : List Char → List Char
  | '\'' :: '\'' :: rest => '\'' :: unquoted rest
  | c :: rest => c :: unquoted rest
  | [] => []

/-- The text between single quotes, if a text stands in them. -/
def betweenQuotes? (cs : List Char) : Option (List Char) :=
  match cs with
  | '\'' :: rest =>
      if rest.getLast? = some '\'' then some rest.dropLast else none
  | _ => none

/-- The value of a default expression: the time of writing, a quoted text, a
document, or else the expression itself as text. -/
def defaultValue (expression : String) (now : Instant) : Value :=
  let e := Text.trim expression
  if ["now()", "current_timestamp"].contains (Text.lowerAscii e) then
    .str now.toText
  else
    match betweenQuotes? e.toList with
    | some text => .str (String.ofList (unquoted text))
    | none => (Json.parse? (Text.lower e)).getD (.str e)

/-- A new row before anything is written to it: defaults and nulls. -/
def blankRow (spec : TableSpec) (now : Instant) : Object :=
  Object.ofFields ((spec.columns.filter (·.name != idColumn)).map fun c =>
    (c.name, match c.default? with
      | some expression => defaultValue expression now
      | none => .null))

/-- Writes attributes into a row, each brought into the shape of its column. -/
def assign (spec : TableSpec) (table : String) :
    List (String × Value) → Object →
    Except Error Object
  | [], row => .ok row
  | (key, v) :: attributes, row =>
      match spec.column? key with
      | none =>
          .error (.database
            ("column \"" ++ key ++ "\" of relation \"" ++ table ++
            "\" does not exist"))
      | some column =>
          match column.coerce v with
          | .error e => .error (.database e)
          | .ok v => assign spec table attributes (row.insert key v)

/-- Whether a row leaves a column empty that has to have a value. -/
def leavesNull (row : Object) (c : Column) : Bool :=
  c.type != .serial && !c.nullable && (row.get? c.name).all Value.isNull

/-- The text of a row's value in a column, unless it is null or missing. -/
def textAt (row : Object) (column : String) : Option String :=
  (row.get? column).bind Value.toText?

/-- Whether another row has the same text in a unique column. -/
def repeatsValue (t : Table) (id : Option Int) (row : Object)
    (c : Column) : Bool :=
  c.unique &&
    match textAt row c.name with
    | none => false
    | some text =>
        t.rows.any fun (other, r) =>
          some other != id && textAt r c.name == some text

/-- Holds a completed row to the constraints of its table. -/
def constrain (spec : TableSpec) (checks : List Check) (name : String)
    (t : Table) (id : Option Int) (row : Object) : Except Error Unit :=
  match spec.columns.find? (leavesNull row) with
  | some c =>
      .error (.database
        ("null value in column \"" ++ c.name ++ "\" of relation \"" ++ name ++
        "\" violates not-null constraint"))
  | none =>
      match spec.columns.find? (repeatsValue t id row) with
      | some c =>
          .error (.conflict
            ("duplicate key value violates unique constraint \"" ++ name ++
            "_" ++ c.name ++ "_key\""))
      | none =>
          match checks.find? fun check => !check.holds row with
          | some check =>
              .error (.database ("new row for relation \"" ++ name ++
                "\" violates check constraint \"" ++ check.name ++ "\""))
          | none => .ok ()

/-- The row that a write starts from: the stored one, or a blank one. -/
def startRow (spec : TableSpec) (name : String) (t : Table) (id : Option Int)
    (now : Instant) :
    Except Error Object :=
  match id with
  | none => .ok (blankRow spec now)
  | some id =>
      match t.row? id with
      | some row => .ok row
      | none => .error (.notFound (name ++ " id=" ++ toString id))

/-- The row that a write would store, checked against everything. -/
def completeRow (spec : TableSpec) (checks : List Check) (name : String)
    (t : Table) (id : Option Int) (attributes : Object) (now : Instant) :
    Except Error Object := do
  let row ← startRow spec name t id now
  let row ← assign spec name attributes row
  let row :=
    if id.isSome && spec.hasColumn "updated_at" then
      row.insert "updated_at" (.str now.toText)
    else row
  constrain spec checks name t id row
  .ok row

/-- Writes a row: a stored one under its key, a new one under the next. Answers
the key, the row, and the table behind the write. -/
def writeRow (spec : TableSpec) (checks : List Check) (name : String)
    (t : Table) (id : Option Int) (attributes : Object) (now : Instant) :
    Except Error (Int × Object × Table) :=
  (completeRow spec checks name t id attributes now).map fun row =>
    match id with
    | some id => (id, row, { t with rows := Table.setRow id row t.rows })
    | none => (t.nextId, row, ⟨t.nextId + 1, Table.setRow t.nextId row t.rows⟩)

/-- A stored row as an object, the surrogate key first. -/
def storedRow (id : Int) (attributes : Object) : Object :=
  (Record.ofStored id attributes).toObject

/-- The filter without clauses on unknown columns. -/
def knownFilter (spec : TableSpec) (f : Query.Filter) : Query.Filter :=
  f.keep fun c => (spec.columnRef? c.column).isSome

/-- The sort terms on known columns. -/
def knownSorts (spec : TableSpec)
    (sorts : List Query.SortTerm) : List Query.SortTerm :=
  sorts.filter fun s => (spec.columnRef? s.column).isSome

/-- All rows as objects, in the order of their keys. -/
def Table.objects (t : Table) : List Object :=
  t.rows.map fun (id, attributes) => storedRow id attributes

/-- The selected rows in order, if they can be sorted. -/
def matchingRows (spec : TableSpec) (t : Table) (f : Query.Filter)
    (sorts : List Query.SortTerm) : Option (List Object) :=
  Query.sortRows (knownSorts spec sorts)
    (t.objects.filter (knownFilter spec f).holds)

/-- The first record whose field has this text. -/
def findIn (t : Table) (field value : String) : Option Record :=
  (t.rows.find? fun (_, attributes) =>
      ((Query.lookup attributes field).bind Value.toText?) == some value).map
    fun (id, attributes) => Record.ofStored id attributes

/-- The record of a selected row. -/
def recordOfRow? (row : Object) : Option Record :=
  ((row.get? idColumn).bind Value.int64?).map fun id => Record.ofStored id row

end TenantTables.Memory
