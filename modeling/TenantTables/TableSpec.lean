import TenantTables.Column
import TenantTables.Supply
import TenantTables.Text.Split

/-!
# Table layouts

All tables of a store have one layout. Two columns are in every layout: the
surrogate key `id`, which the store numbers, and the identifier field, which
callers know a record by. The layout also says which attributes callers may
write, and completes a record before it is stored.
-/

namespace TenantTables

open Json (Value Object)
open Time (Instant)

/-- The surrogate key. -/
def idColumn : String := "id"

/-- Columns that the store writes itself. -/
def managedColumns : List String := ["id", "created_at", "updated_at"]

/-- The columns of a table, its indexes, and the column that
identifies its records. -/
structure TableSpec where
  idField : String
  columns : List Column
  indexes : List Index
  deriving DecidableEq, Repr

/-- A column that a filter or a sort names, and the path into its document. -/
structure ColumnRef where
  column : Column
  /-- Empty for the column itself. -/
  path : List String
  deriving DecidableEq, Repr

def ColumnRef.isNested (r : ColumnRef) : Bool :=
  !r.path.isEmpty

/-- The type that comparisons with the reference are made in: a path into a
document yields text. -/
def ColumnRef.type (r : ColumnRef) : ColumnType :=
  if r.isNested then .text else r.column.type

namespace TableSpec

/-- The layout with nothing but the two keys. -/
def bare (idField : String) : TableSpec where
  idField := idField
  columns := [
    { name := idColumn, type := .serial, nullable := false },
    { name := idField, type := .varchar 50, nullable := false, unique := true }]
  indexes := []

/-- Puts a column in the place of the first of its name. -/
def replaceColumn (column : Column) : List Column → List Column
  | [] => []
  | c :: cs =>
      if c.name == column.name then column :: cs
      else c :: replaceColumn column cs

/-- Adds a column, or replaces the one of that name. -/
def withColumn (spec : TableSpec) (column : Column) : TableSpec :=
  if spec.columns.any (·.name == column.name) then
    { spec with columns := replaceColumn column spec.columns }
  else { spec with columns := spec.columns ++ [column] }

/-- Adds an index. -/
def withIndex (spec : TableSpec) (index : Index) : TableSpec :=
  { spec with indexes := spec.indexes ++ [index] }

/-- The general layout: a window of time, four documents, and bookkeeping. -/
def records (idField : String) : TableSpec :=
  let columns : List Column := [
    { name := "started_at", type := .timestamp },
    { name := "ended_at", type := .timestamp },
    { name := "private", type := .json },
    { name := "public", type := .json },
    { name := "meta", type := .json },
    { name := "data", type := .json },
    { name := "import_id", type := .text },
    { name := "created_at", type := .timestamp, default? := some "NOW()" },
    { name := "updated_at", type := .timestamp, default? := some "NOW()" }]
  let indexes : List Index := [
    { name := "started_at", columns := ["started_at"] },
    { name := "ended_at", columns := ["ended_at"] },
    { name := "import_id", columns := ["import_id"] }]
  indexes.foldl withIndex (columns.foldl withColumn (bare idField))

/-- The layout of stores that ask for no other. -/
def default : TableSpec := records "uid"

/-- The first column of a name. -/
def column? (spec : TableSpec) (name : String) : Option Column :=
  spec.columns.find? (·.name == name)

def hasColumn (spec : TableSpec) (name : String) : Bool :=
  (spec.column? name).isSome

/-- The attributes that callers may write: those of known columns, the
managed ones excepted. -/
def fillable (spec : TableSpec) (attributes : Object) : Object :=
  attributes.filter fun (key, _) =>
    spec.hasColumn key && !managedColumns.contains key

/-- A character of a path segment. -/
def isPathChar (c : Char) : Bool :=
  Text.isAsciiLower c || Text.isAsciiUpper c || Text.isAsciiDigit c ||
    c == '_' || c == '-'

/-- Whether a text may be a segment of a path. -/
def isPathSegment (s : String) : Bool :=
  !s.isEmpty && s.toList.all isPathChar

/-- Resolves a name that may have dots. A whole name goes first;
otherwise the part before the first dot must name a document column, and
the rest is a path. -/
def columnRef? (spec : TableSpec) (name : String) : Option ColumnRef :=
  match spec.column? name with
  | some column => some ⟨column, []⟩
  | none =>
      match Text.split '.' name with
      | head :: path =>
          match spec.column? head with
          | some column =>
              if column.type = .json && !path.isEmpty &&
                  path.all isPathSegment then
                some ⟨column, path⟩
              else none
          | none => none
      | [] => none

/-- Moves the ends of the window of time to the start of their day. Values that
are no timestamps are left to be refused later. -/
def prepareUpdate (spec : TableSpec) (attributes : Object) : Object :=
  ["started_at", "ended_at"].foldl truncate attributes
where
  truncate (attributes : Object) (key : String) : Object :=
    if !spec.hasColumn key then attributes
    else
      match (attributes.get? key).bind Value.str? |>.bind Instant.read? with
      | some t => attributes.insert key (.str t.startOfDay.toText)
      | none => attributes

/-- Whether a record with these attributes needs an identifier: it has none, or
a blank one. -/
def missesId (spec : TableSpec) (attributes : Object) : Bool :=
  match attributes.get? spec.idField with
  | none | some .null => true
  | some (.str s) => Text.isBlankText s
  | some _ => false

/-- Whether the window of time needs a start. -/
def missesStart (spec : TableSpec) (attributes : Object) : Bool :=
  spec.hasColumn "started_at" &&
    ((attributes.get? "started_at").all Value.isNull)

/-- Completes the attributes of a new record: an identifier if it has none, and
a window of time that starts now if it has no start. -/
def prepareInsert (spec : TableSpec) (attributes : Object) (supply : Supply) :
    Object × Supply :=
  let (attributes, supply) :=
    if spec.missesId attributes then
      let (id, supply) := supply.fresh
      (attributes.insert spec.idField (.str id), supply)
    else (attributes, supply)
  let (attributes, supply) :=
    if spec.missesStart attributes then
      let (t, supply) := supply.now
      (attributes.insert "started_at" (.str t.toText), supply)
    else (attributes, supply)
  (spec.prepareUpdate attributes, supply)

end TableSpec

end TenantTables
