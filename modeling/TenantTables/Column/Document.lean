import TenantTables.TableSpec

/-!
# Columns and layouts as documents

Layouts are configured as documents and reported as documents. Decoding is
strict about kinds and ranges and indifferent to unknown keys. Where the fields
of a structure have a fixed order, a list of their values in that order is
accepted too.
-/

namespace TenantTables

open Json (Value Object)

namespace ColumnType

/-- The types in the order in which they may be numbered. -/
def tags : List String :=
  ["serial", "string", "varchar", "integer", "decimal", "boolean",
    "timestamp", "json"]

/-- The tag of a type in a document. -/
def tag : ColumnType → String
  | .serial => "serial"
  | .text => "string"
  | .varchar _ => "varchar"
  | .integer => "integer"
  | .decimal .. => "decimal"
  | .boolean => "boolean"
  | .timestamp => "timestamp"
  | .json => "json"

/-- The fields of a type in a document. -/
def toFields (t : ColumnType) : Object :=
  ("type", .str t.tag) ::
    match t with
    | .varchar length => [("length", .int length)]
    | .decimal precision scale =>
        [("precision", .int precision), ("scale", .int scale)]
    | _ => []

/-- A natural number up to a bound. -/
def boundedNat? (bound : Nat) : Value → Option Nat
  | .int n => if 0 ≤ n ∧ n ≤ bound then some n.toNat else none
  | _ => none

/-- A field with a default: absent, or a number up to the bound. -/
def defaultedNat? (bound default : Nat) : Option Value → Option Nat
  | none => some default
  | some v => boundedNat? bound v

/-- The greatest length of a bounded text. -/
def maxLength : Nat := 4294967295

/-- The type of a tag with its own fields. -/
def ofTag? (tag : String)
    (length precision scale : Option Value) : Option ColumnType :=
  match tag with
  | "serial" => some .serial
  | "string" => some .text
  | "varchar" => (length.bind (boundedNat? maxLength)).map .varchar
  | "integer" => some .integer
  | "decimal" =>
      match defaultedNat? 255 19 precision, defaultedNat? 255 4 scale with
      | some precision, some scale => some (.decimal precision scale)
      | _, _ => none
  | "boolean" => some .boolean
  | "timestamp" => some .timestamp
  | "json" => some .json
  | _ => none

/-- The type under a tag and fields by name. -/
def ofFields? (tag : String) (fields : Object) : Option ColumnType :=
  ofTag? tag (Object.get? fields "length") (Object.get? fields "precision")
    (Object.get? fields "scale")

/-- The type under a tag and the values of its fields in
order, none too many. -/
def ofItems? (tag : String) (items : List Value) : Option ColumnType :=
  if tag = "varchar" then
    if items.length ≤ 1 then ofTag? tag items[0]? none none else none
  else if tag = "decimal" then
    if items.length ≤ 2 then ofTag? tag none items[0]? items[1]? else none
  else if items.isEmpty then ofTag? tag none none none
  else none

/-- Decodes a type that stands alone. -/
def ofJson? : Value → Option ColumnType
  | .obj fields =>
      match Object.get? fields "type" with
      | some (.str tag) => ofFields? tag fields
      | _ => none
  | .arr (.str tag :: items) => ofItems? tag items
  | _ => none

end ColumnType

/-- Decodes a required text. -/
def textField? (fields : Object) (key : String) : Option String :=
  (Object.get? fields key).bind Value.str?

/-- Decodes a truth value that may be absent. -/
def boolField? (fields : Object) (key : String)
    (default : Bool) : Option Bool :=
  match Object.get? fields key with
  | none => some default
  | some (.bool b) => some b
  | some _ => none

/-- Decodes a list of values, all of which must decode. -/
def listOf? {α : Type} (item : Value → Option α) : Value → Option (List α)
  | .arr items => items.mapM item
  | _ => none

namespace Column

/-- The type of a column. Its tag may be given by its number. -/
def typeOf? (fields : Object) : Option ColumnType :=
  match Object.get? fields "type" with
  | some (.str tag) => ColumnType.ofFields? tag fields
  | some (.int n) =>
      if n < 0 then none
      else (ColumnType.tags[n.toNat]?).bind fun tag =>
        ColumnType.ofFields? tag fields
  | _ => none

/-- Decodes a column. -/
def ofJson? : Value → Option Column
  | .obj fields => do
      let name ← textField? fields "name"
      let type ← typeOf? fields
      let nullable ← boolField? fields "nullable" true
      let unique ← boolField? fields "unique" false
      let default? ←
        match Object.get? fields "default" with
        | none | some .null => some none
        | some (.str s) => some (some s)
        | some _ => none
      some ⟨name, type, nullable, unique, default?⟩
  | _ => none

/-- The document of a column; a default is written only where there is one. -/
def toJson (c : Column) : Value :=
  .obj ([("name", .str c.name)] ++ c.type.toFields ++
    [("nullable", .bool c.nullable), ("unique", .bool c.unique)] ++
    match c.default? with
    | some s => [("default", .str s)]
    | none => [])

end Column

namespace Index

/-- Decodes an index. -/
def ofJson? : Value → Option Index
  | .obj fields => do
      let name ← textField? fields "name"
      let columns ← (Object.get? fields "columns").bind (listOf? Value.str?)
      let unique ← boolField? fields "unique" false
      some ⟨name, columns, unique⟩
  | .arr [.str name, columns] => do
      let columns ← listOf? Value.str? columns
      some ⟨name, columns, false⟩
  | .arr [.str name, columns, .bool unique] => do
      let columns ← listOf? Value.str? columns
      some ⟨name, columns, unique⟩
  | _ => none

/-- The document of an index. -/
def toJson (i : Index) : Value :=
  .obj [("name", .str i.name), ("columns", .arr (i.columns.map .str)),
    ("unique", .bool i.unique)]

end Index

namespace TableSpec

/-- Decodes a layout. Nothing is checked beyond the kinds of its parts. -/
def ofJson? : Value → Option TableSpec
  | .obj fields => do
      let idField ← textField? fields "id_field"
      let columns ← (Object.get? fields "columns").bind (listOf? Column.ofJson?)
      let indexes ← (Object.get? fields "indexes").bind (listOf? Index.ofJson?)
      some ⟨idField, columns, indexes⟩
  | .arr [.str idField, columns, indexes] => do
      let columns ← listOf? Column.ofJson? columns
      let indexes ← listOf? Index.ofJson? indexes
      some ⟨idField, columns, indexes⟩
  | _ => none

/-- A layout that is built up: one of the two bases under an identifier field,
with columns and indexes added in order. -/
def ofParts? (fields : Object) : Option TableSpec := do
  let idField := (textField? fields "id_field").getD default.idField
  let base := if textField? fields "base" = some "new" then bare idField
    else records idField
  let columns ← listOf? Column.ofJson?
      ((Object.get? fields "columns").getD (.arr []))
  let indexes ← listOf? Index.ofJson?
      ((Object.get? fields "indexes").getD (.arr []))
  some (indexes.foldl withIndex (columns.foldl withColumn base))

/-- The layout that a configuration asks for: none in particular, one written
out, or one built up. -/
def ofConfig? : Value → Option TableSpec
  | .obj fields =>
      match Object.get? fields "raw" with
      | some raw => ofJson? raw
      | none => ofParts? fields
  | _ => some default

/-- The document of a layout. -/
def toJson (spec : TableSpec) : Value :=
  .obj [("id_field", .str spec.idField),
    ("columns", .arr (spec.columns.map Column.toJson)),
    ("indexes", .arr (spec.indexes.map Index.toJson))]

end TableSpec

end TenantTables
