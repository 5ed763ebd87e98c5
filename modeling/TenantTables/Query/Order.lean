import TenantTables.Query.Match
import TenantTables.Query.Sort
import TenantTables.Sorting.Runs

/-!
# Ordering and projecting rows

Rows are ordered as the database orders them: numbers numerically, booleans
with false first, everything else by its text, and what is missing or null
last when ascending and first when descending. The sort is stable. It relies on
the comparison to be an order, which it is not between numbers and values of
other kinds, and may have no result if it is none.
-/

namespace TenantTables.Query

open Json (Value Object)

/-- The ascending order of two values, either of which may be missing. -/
def compareValues (left right : Option Value) : Ordering :=
  match left.filter (!·.isNull), right.filter (!·.isNull) with
  | none, none => .eq
  | none, some _ => .gt
  | some _, none => .lt
  | some (.bool a), some (.bool b) =>
      if a = b then .eq else if b then .lt else .gt
  | some a, some b =>
      match a.double?, b.double? with
      | some x, some y => x.compare y
      | _, _ => Text.order (a.toText?.getD "") (b.toText?.getD "")

/-- The opposite of an ordering. -/
def opposite : Ordering → Ordering
  | .lt => .gt
  | .eq => .eq
  | .gt => .lt

/-- The order of two rows under one term. -/
def SortTerm.compare (s : SortTerm) (a b : Object) : Ordering :=
  let ordering := compareValues (lookup a s.column) (lookup b s.column)
  match s.direction with
  | .asc => ordering
  | .desc => opposite ordering

/-- The order of two rows: that of the first term that tells them apart. -/
def compareRows : List SortTerm → Object → Object → Ordering
  | [], _, _ => .eq
  | s :: sorts, a, b =>
      match s.compare a b with
      | .eq => compareRows sorts a b
      | ordering => ordering

/-- The rows in the order of the terms. Without terms they stay as they are. -/
def sortRows (sorts : List SortTerm) (rows : List Object) :
    Option (List Object) :=
  if sorts.isEmpty then some rows
  else Sorting.stableSort (fun a b => compareRows sorts a b == .lt) rows

/-- Takes the named columns out of a row one after another; a column taken once
is gone. -/
def takeColumns : List String → Object → Object
  | [], _ => []
  | c :: columns, row =>
      match row.get? c with
      | some v => (c, v) :: takeColumns columns (row.erase c)
      | none => takeColumns columns row

/-- Keeps the named columns in the order of the names, or everything. -/
def project (columns : List String) (row : Object) : Object :=
  if columns.isEmpty || columns.contains "*" then row
  else takeColumns columns row

end TenantTables.Query
