import TenantTables.Text.Percent
import TenantTables.Text.Split

/-!
# Query parameters

Parameters keep the order of their arrival, and a name may be given more than
once. A name ending in `[]` is the name without it.
-/

namespace TenantTables.Query

/-- The decoded pairs of a query, in order. -/
structure Params where
  pairs : List (String × String)
  deriving DecidableEq, Repr

namespace Params

/-- A key without its list marker. -/
def baseKey (key : String) : String :=
  let cs := key.toList
  if ['[', ']'].isSuffixOf cs then String.ofList (cs.take (cs.length - 2))
  else key

/-- One parameter of a raw query, decoded. -/
def readPair (raw : String) : String × String :=
  let (key, value) := Text.splitOnce '=' raw
  (Text.percentDecode key, Text.percentDecode (value.getD ""))

/-- Reads a raw query string; question marks in front are dropped. -/
def parse (query : String) : Params :=
  let body := String.ofList (query.toList.dropWhile (· == '?'))
  ⟨((Text.split '&' body).filter (· ≠ "")).map readPair⟩

/-- Adds a pair. -/
def add (p : Params) (key value : String) : Params :=
  ⟨p.pairs ++ [(key, value)]⟩

/-- All values given for a name, in order. -/
def all (p : Params) (name : String) : List String :=
  (p.pairs.filter fun (key, _) => baseKey key == name).map (·.2)

/-- The last value given for a name. -/
def get? (p : Params) (name : String) : Option String :=
  (p.all name).getLast?

end Params

end TenantTables.Query
