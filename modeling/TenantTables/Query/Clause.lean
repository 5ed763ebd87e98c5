import TenantTables.Text.Percent
import TenantTables.Text.Split

/-!
# Filter clauses

A clause is written `column:operator:value`. The operator is one of a fixed set
of tokens, short or long, in any case; each stands for a primitive and says
whether it is negated. The value is percent-encoded, and two operators read it
as a list with `|` between the elements.

Nothing here fails loudly. What does not parse is no clause.
-/

namespace TenantTables.Query

/-- The primitive comparisons. -/
inductive Operator where
  | eq
  | gt
  | gte
  | lt
  | lte
  | contains
  | startsWith
  | endsWith
  | between
  | oneOf
  | isNull
  deriving DecidableEq, Repr

namespace Operator

/-- The tokens: each names an operator and says whether it is negated. -/
def tokens : List (String × Operator × Bool) := [
  ("eq", eq, false), ("neq", eq, true),
  ("gt", gt, false), ("gte", gte, false), ("lt", lt, false),
  ("lte", lte, false), ("ct", contains, false), ("contains", contains, false),
  ("nct", contains, true), ("not-contains", contains, true),
  ("sw", startsWith, false), ("starts-with", startsWith, false),
  ("nsw", startsWith, true), ("not-starts-with", startsWith, true),
  ("ew", endsWith, false), ("ends-with", endsWith, false),
  ("new", endsWith, true), ("not-ends-with", endsWith, true),
  ("bt", between, false), ("between", between, false),
  ("nbt", between, true), ("not-between", between, true),
  ("in", oneOf, false), ("nin", oneOf, true), ("not-in", oneOf, true),
  ("nl", isNull, false), ("is-null", isNull, false),
  ("nnl", isNull, true), ("not-null", isNull, true)]

/-- The operator of a token, and whether it is negated. -/
def ofToken? (token : String) : Option (Operator × Bool) :=
  tokens.lookup token

/-- Whether the value is a list. -/
def takesList : Operator → Bool
  | between | oneOf => true
  | _ => false

/-- The pattern that a value becomes under a pattern operator. Wildcards in the
value stay wildcards. -/
def likePattern? (op : Operator) (value : String) : Option String :=
  match op with
  | contains => some ("%" ++ value ++ "%")
  | startsWith => some (value ++ "%")
  | endsWith => some ("%" ++ value)
  | _ => none

/-- The name of the operator in documents. -/
def name : Operator → String
  | eq => "eq"
  | gt => "gt"
  | gte => "gte"
  | lt => "lt"
  | lte => "lte"
  | contains => "contains"
  | startsWith => "starts_with"
  | endsWith => "ends_with"
  | between => "between"
  | oneOf => "in"
  | isNull => "is_null"

/-- All operators. -/
def all : List Operator :=
  [eq, gt, gte, lt, lte, contains, startsWith, endsWith, between, oneOf, isNull]

end Operator

/-- How a clause joins those before it. -/
inductive Combinator where
  | and
  | or
  deriving DecidableEq, Repr

/-- The value of a clause. -/
inductive Operand where
  | single (value : String)
  | list (values : List String)
  deriving DecidableEq, Repr

namespace Operand

def single? : Operand → Option String
  | single value => some value
  | list _ => none

/-- The values; a single one is a list of one. -/
def values : Operand → List String
  | single value => [value]
  | list values => values

/-- The lower and the upper bound of a range. -/
def bounds (o : Operand) : Option String × Option String :=
  (o.values[0]?, o.values[1]?)

end Operand

/-- One condition on a column. -/
structure Clause where
  column : String
  operator : Operator
  value : Operand
  negate : Bool
  combinator : Combinator
  deriving DecidableEq, Repr

/-- Public names of columns and the columns they stand for. -/
abbrev Aliases := List (String × String)

/-- The column that a name stands for; an unknown name stands for itself. -/
def Aliases.resolve (aliases : Aliases) (column : String) : String :=
  (aliases.lookup column).getD column

/-- The operand that an encoded value is for an operator. -/
def Operand.parse (op : Operator) (encoded : String) : Operand :=
  let value := Text.trim (Text.percentDecode encoded)
  if op.takesList then .list (Text.split '|' value) else .single value

/-- Reads one clause. -/
def Clause.parse? (raw : String) (aliases : Aliases) (combinator : Combinator) :
    Option Clause :=
  let (column, rest) := Text.splitOnce ':' (Text.trim raw)
  let (token, value) := Text.splitOnce ':' (rest.getD "")
  let column := Text.trim (aliases.resolve (Text.trim column))
  if column.isEmpty then none
  else
    (Operator.ofToken? (Text.lower (Text.trim token))).map
      fun (operator, negate) =>
      ⟨column, operator, .parse operator (value.getD ""), negate, combinator⟩

end TenantTables.Query
