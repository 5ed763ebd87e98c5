import TenantTables.Query.Descriptor
import TenantTables.Json.Value

/-!
# Pages

A page tells its rows, where among all selected rows they stand, and how many
pages there are. Positions count from one. An empty page stands nowhere.
-/

namespace TenantTables

open Json (Value Object)

/-- One page of rows. -/
structure Page where
  current : Nat
  perPage : Nat
  total : Nat
  last : Nat
  first? : Option Nat
  last? : Option Nat
  rows : List Object

namespace Page

/-- The quotient rounded up. -/
def ceilDiv (n d : Nat) : Nat :=
  (n + d - 1) / d

/-- The page of a descriptor, from its rows and the number of all rows. -/
def of (d : Query.Descriptor) (total : Nat) (rows : List Object) : Page :=
  let perPage := if d.pageSize = 0 then 1 else d.pageSize
  let pages := ceilDiv total perPage
  { current := d.page
    perPage := perPage
    total := total
    last := if pages = 0 then 1 else pages
    first? := if rows.isEmpty then none else some (d.offset + 1)
    last? := if rows.isEmpty then none else some (d.offset + rows.length)
    rows := rows }

/-- A number that may be absent. -/
def optional (n : Option Nat) : Value :=
  match n with
  | some n => .int n
  | none => .null

/-- The document of a page. -/
def toJson (p : Page) : Value :=
  .obj [("current_page", .int p.current), ("per_page", .int p.perPage),
    ("total", .int p.total), ("last_page", .int p.last),
    ("from", optional p.first?), ("to", optional p.last?),
    ("data", .arr (p.rows.map .obj))]

end Page

end TenantTables
