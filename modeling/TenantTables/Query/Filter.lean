import TenantTables.Query.Clause

/-!
# Filters

A filter is a conjunction of groups, and a group a disjunction of clauses. Each
filter parameter of a request becomes one group; commas separate its clauses.
Clauses that do not parse are left out, and a group without clauses is not
there at all: an empty disjunction would select nothing.
-/

namespace TenantTables.Query

/-- Groups that must all hold; of a group, some clause must. -/
structure Filter where
  groups : List (List Clause)
  deriving DecidableEq, Repr

namespace Filter

/-- The filter that selects everything. -/
def empty : Filter := ⟨[]⟩

def isEmpty (f : Filter) : Bool :=
  f.groups.isEmpty

/-- All clauses in order. -/
def clauses (f : Filter) : List Clause :=
  f.groups.flatten

/-- Adds a group, unless it has no clauses. -/
def push (f : Filter) (group : List Clause) : Filter :=
  if group.isEmpty then f else ⟨f.groups ++ [group]⟩

/-- The clauses among the parts of a parameter. The first that parses opens the
group, the others are alternatives to it. -/
def parseGroup (aliases : Aliases) : Combinator → List String → List Clause
  | _, [] => []
  | combinator, part :: parts =>
      match Clause.parse? part aliases combinator with
      | some clause => clause :: parseGroup aliases .or parts
      | none => parseGroup aliases combinator parts

/-- Adds the group that a filter parameter writes. -/
def pushRaw (f : Filter) (raw : String) (aliases : Aliases) : Filter :=
  f.push (parseGroup aliases .and (Text.split ',' raw))

/-- The filter that a list of parameters writes. -/
def ofRaw (raws : List String) (aliases : Aliases) : Filter :=
  raws.foldl (fun f raw => f.pushRaw raw aliases) empty

/-- Keeps the clauses that pass a test, and the groups that keep a clause. -/
def keep (f : Filter) (p : Clause → Bool) : Filter :=
  ⟨(f.groups.map (·.filter p)).filter fun group => !group.isEmpty⟩

end Filter

end TenantTables.Query
