import TenantTables.Column.Document
import TenantTables.Query.Descriptor

/-!
# Queries as documents

Clauses, sort terms and descriptors can be written as documents, and clauses
can be read from them. Reading is strict about names and kinds and indifferent
to unknown keys; the fields of a clause may also come as a list, in order.
-/

namespace TenantTables.Query

open Json (Value Object)

/-- The name in a document where one of a fixed set of names is expected. It
stands alone, or as the only key of an object, above null. -/
def nameIn? : Value → Option String
  | .str name => some name
  | .obj [(name, .null)] => some name
  | _ => none

/-- The operator of a document. -/
def Operator.ofJson? (v : Value) : Option Operator :=
  (nameIn? v).bind fun name => Operator.all.find? fun op => op.name == name

namespace Combinator

/-- The name of the combinator in documents. -/
def name : Combinator → String
  | .and => "and"
  | .or => "or"

/-- The combinator of a document. -/
def ofJson? (v : Value) : Option Combinator :=
  (nameIn? v).bind fun n => [Combinator.and, .or].find? fun c => c.name == n

end Combinator

namespace Operand

/-- A text, or a list of texts. -/
def toJson : Operand → Value
  | single value => .str value
  | list values => .arr (values.map .str)

/-- The operand of a document. -/
def ofJson? : Value → Option Operand
  | .str value => some (single value)
  | v => (listOf? Value.str? v).map list

end Operand

/-- Decodes a truth value. -/
def bool? : Value → Option Bool
  | .bool b => some b
  | _ => none

namespace Clause

/-- The document of a clause. -/
def toJson (c : Clause) : Value :=
  .obj [("column", .str c.column), ("operator", .str c.operator.name),
    ("value", c.value.toJson), ("negate", .bool c.negate),
    ("combinator", .str c.combinator.name)]

/-- The clause of the values of its fields in order. -/
def ofFields?
    (column operator value negate combinator : Value) : Option Clause := do
  let column ← column.str?
  let operator ← Operator.ofJson? operator
  let value ← Operand.ofJson? value
  let negate ← bool? negate
  let combinator ← Combinator.ofJson? combinator
  some ⟨column, operator, value, negate, combinator⟩

/-- The clause of a document. All fields are required. -/
def ofJson? : Value → Option Clause
  | .obj fields => do
      let column ← Object.get? fields "column"
      let operator ← Object.get? fields "operator"
      let value ← Object.get? fields "value"
      let negate ← Object.get? fields "negate"
      let combinator ← Object.get? fields "combinator"
      ofFields? column operator value negate combinator
  | .arr [column, operator, value, negate, combinator] =>
      ofFields? column operator value negate combinator
  | _ => none

end Clause

/-- The document of a filter: its groups, each a list of clauses. -/
def Filter.toJson (f : Filter) : Value :=
  .obj [("groups",
    .arr (f.groups.map fun group => .arr (group.map Clause.toJson)))]

/-- The document of a sort term. -/
def SortTerm.toJson (s : SortTerm) : Value :=
  .obj [("column", .str s.column), ("direction", .str s.direction.name)]

/-- The document of a descriptor. -/
def Descriptor.toJson (d : Descriptor) : Value :=
  .obj [("selected_columns", .arr (d.selected.map .str)),
    ("filters", d.filter.toJson), ("sorts", .arr (d.sorts.map SortTerm.toJson)),
    ("page", .int d.page), ("page_size", .int d.pageSize),
    ("is_delete", .bool d.isDelete)]

end TenantTables.Query
