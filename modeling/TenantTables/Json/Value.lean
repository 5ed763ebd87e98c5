import TenantTables.Number.Double

/-!
# Documents

The values that rows hold and requests carry. Two things are finer here than in
many JSON libraries. An integer and a number with a fraction are different
values even when they denote the same number, and an object remembers the order
in which its keys were first written.
-/

namespace TenantTables.Json

open TenantTables.Number (Double twoTo)

/-- A document. Integers reach from the least signed to the greatest unsigned
64-bit integer. -/
inductive Value where
  | null
  | bool (b : Bool)
  | int (n : Int)
  | float (d : Double)
  | str (s : String)
  | arr (items : List Value)
  | obj (fields : List (String × Value))

/-- The fields of an object in the order of their first writing. No
key occurs twice. -/
abbrev Object := List (String × Value)

instance : Inhabited Value := ⟨.null⟩

namespace Object

/-- The value under a key. -/
def get? (o : Object) (key : String) : Option Value :=
  o.lookup key

/-- Whether the key is present. -/
def has (o : Object) (key : String) : Bool :=
  (o.get? key).isSome

/-- Writes a value. A key that is present keeps its place, a
new one goes last. -/
def insert : Object → String → Value → Object
  | [], key, value => [(key, value)]
  | (k, v) :: rest, key, value =>
      if k == key then (k, value) :: rest else (k, v) :: insert rest key value

/-- Removes a key; the others keep their order. -/
def erase (o : Object) (key : String) : Object :=
  o.filter fun (k, _) => k != key

/-- Writes all fields in order. -/
def insertAll (o : Object) (fields : List (String × Value)) : Object :=
  fields.foldl (fun o (k, v) => insert o k v) o

/-- The object that a list of fields writes: of a repeated key the first place
and the last value remain. -/
def ofFields (fields : List (String × Value)) : Object :=
  insertAll [] fields

/-- The keys in order. -/
def keys (o : Object) : List String :=
  o.map (·.1)

end Object

mutual

/-- Equality of documents. The order of keys does not matter; an integer never
equals a number with a fraction; the two zeros are equal. -/
def Value.same : Value → Value → Bool
  | .null, .null => true
  | .bool a, .bool b => a == b
  | .int a, .int b => a == b
  | .float a, .float b => a.same b
  | .str a, .str b => a == b
  | .arr xs, .arr ys => Value.sameItems xs ys
  | .obj xs, .obj ys => xs.length == ys.length && Value.sameFields xs ys
  | _, _ => false

/-- Items are compared pairwise. -/
def Value.sameItems : List Value → List Value → Bool
  | [], [] => true
  | x :: xs, y :: ys => Value.same x y && Value.sameItems xs ys
  | _, _ => false

/-- Every field on the left has an equal partner under its key on the right. -/
def Value.sameFields : List (String × Value) → List (String × Value) → Bool
  | [], _ => true
  | (k, x) :: xs, ys =>
      (match ys.lookup k with
        | some y => Value.same x y
        | none => false) && Value.sameFields xs ys

end

namespace Value

def isNull : Value → Bool
  | .null => true
  | _ => false

/-- The text of a string. -/
def str? : Value → Option String
  | .str s => some s
  | _ => none

/-- The integer, if it fits the signed 64-bit range. -/
def int64? : Value → Option Int
  | .int n => if n < twoTo 63 then some n else none
  | _ => none

/-- The number as a binary64 number. -/
def double? : Value → Option Double
  | .int n => some (Double.ofInt n)
  | .float d => some d
  | _ => none

end Value

end TenantTables.Json
