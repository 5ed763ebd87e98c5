import TenantTables.Query.Clause

/-!
# Sort terms

A term is a column and a direction, with a colon between them, or a bar where
there is no colon.
-/

namespace TenantTables.Query

/-- The direction of a sort. -/
inductive Direction where
  | asc
  | desc
  deriving DecidableEq, Repr

namespace Direction

/-- Reads a direction, trimmed and in any case. -/
def parse? (s : String) : Option Direction :=
  match Text.lower (Text.trim s) with
  | "asc" => some .asc
  | "desc" => some .desc
  | _ => none

def sql : Direction → String
  | asc => "ASC"
  | desc => "DESC"

/-- The name of the direction in documents. -/
def name : Direction → String
  | asc => "asc"
  | desc => "desc"

end Direction

/-- One term of an order. -/
structure SortTerm where
  column : String
  direction : Direction
  deriving DecidableEq, Repr

/-- Reads a term. A term without a column or a direction is none. -/
def SortTerm.parse? (raw : String) (aliases : Aliases) : Option SortTerm :=
  let separator := if raw.toList.contains ':' then ':' else '|'
  let (column, direction) := Text.splitOnce separator (Text.trim raw)
  match Direction.parse? (direction.getD "") with
  | none => none
  | some direction =>
      let column := Text.trim (aliases.resolve (Text.trim column))
      if column.isEmpty then none else some ⟨column, direction⟩

end TenantTables.Query
