import TenantTables.Json.Print
import TenantTables.Number.Reading
import TenantTables.Query.Filter
import TenantTables.Query.Like
import TenantTables.Text.Order
import TenantTables.Time.Reading

/-!
# Evaluating filters

The meaning of clauses on rows in memory, with SQL's three truth values: a
comparison with a missing or null value is unknown, and unknown it stays under
negation. Only the null test has an answer everywhere.
-/

namespace TenantTables.Query

open Json (Value Object)
open Time (Instant)

/-- The value below a value along a path of keys. -/
def descend (v : Value) : List String → Option Value
  | [] => some v
  | key :: path =>
      match v with
      | .obj fields => (Object.get? fields key).bind fun v => descend v path
      | _ => none

/-- The value of a column whose name may have dots. A whole key goes first;
otherwise the dots separate the keys of a path. -/
def lookup (row : Object) (column : String) : Option Value :=
  match row.get? column with
  | some v => some v
  | none => descend (.obj row) (Text.split '.' column)

/-- Compares a stored value, whose text is given, with a filter literal:
numerically if both are numbers, chronologically if both are timestamps, and as
texts otherwise. -/
def compareLiteral (v : Value) (text literal : String) : Ordering :=
  match v.double?, Number.literalValue? literal with
  | some a, some b => a.compare b
  | _, _ =>
      match Instant.read? text, Instant.read? literal with
      | some a, some b => a.compare b
      | _, _ => Text.order text literal

/-- The truth value of a clause on a value that is not null, without its
negation; `none` is unknown. -/
def Clause.evaluate (c : Clause) (v : Value) : Option Bool :=
  v.toText?.bind fun text =>
    let ordered (test : Ordering → Bool) : Option Bool :=
      c.value.single?.map fun literal => test (compareLiteral v text literal)
    match c.operator with
    | .eq => ordered (· == .eq)
    | .gt => ordered (· == .gt)
    | .gte => ordered (· != .lt)
    | .lt => ordered (· == .lt)
    | .lte => ordered (· != .gt)
    | .contains | .startsWith | .endsWith =>
        (c.value.single?.bind c.operator.likePattern?).map fun pattern =>
          like pattern text
    | .between =>
        match c.value.bounds with
        | (some low, some high) =>
            some (compareLiteral v text low != .lt &&
              compareLiteral v text high != .gt)
        | _ => none
    | .oneOf => some (c.value.values.contains text)
    | .isNull => none

/-- The value of a column, unless it is missing or null. -/
def present? (row : Object) (column : String) : Option Value :=
  (lookup row column).filter fun v => !v.isNull

/-- Whether a row satisfies a clause. -/
def Clause.holds (c : Clause) (row : Object) : Bool :=
  match c.operator, present? row c.column with
  | .isNull, v => v.isNone != c.negate
  | _, none => false
  | _, some v =>
      match c.evaluate v with
      | some truth => truth != c.negate
      | none => false

/-- Whether a row satisfies a filter. -/
def Filter.holds (f : Filter) (row : Object) : Bool :=
  f.groups.all fun group => group.any (·.holds row)

end TenantTables.Query
