import TenantTables.Json.Value
import TenantTables.Text.Split

/-!
# Dotted paths

Rows travel flat, with keys such as `data.color`, and are stored nested. A
segment of a path is always a key, never a position in a list.
-/

namespace TenantTables.Path

open Json (Value Object)

/-- The fields of a value; what is no object has none. -/
def fieldsOf : Option Value → Object
  | some (.obj fields) => fields
  | _ => []

/-- Writes a value below keys. Objects are created where they are missing, and
replace anything that is no object. -/
def setAt (target : Object) : List String → Value → Object
  | [], _ => target
  | [key], v => target.insert key v
  | key :: path, v =>
      target.insert key (.obj (setAt (fieldsOf (target.get? key)) path v))

/-- Writes a value at a dotted path. -/
def set (target : Object) (path : String) (v : Value) : Object :=
  setAt target (Text.split '.' path) v

/-- The value below keys. -/
def getAt (v : Value) : List String → Option Value
  | [] => some v
  | key :: path =>
      match v with
      | .obj fields => (Object.get? fields key).bind fun v => getAt v path
      | _ => none

/-- Reads the value at a dotted path. A whole key goes first. -/
def get? (source : Object) (path : String) : Option Value :=
  match source.get? path with
  | some v => some v
  | none => getAt (.obj source) (Text.split '.' path)

/-- Nests a flat row: every key is a path, written in order. -/
def undot (flat : Object) : Object :=
  flat.foldl (fun nested (key, v) => set nested key v) []

mutual

/-- The leaves below a value at a path. Lists and empty objects are leaves. -/
def leaves (path : String) : Value → List (String × Value)
  | .obj (field :: fields) => leavesOf (path ++ ".") (field :: fields)
  | v => [(path, v)]

/-- The leaves below the fields of an object, all of whose paths start alike. -/
def leavesOf (start : String) : List (String × Value) → List (String × Value)
  | [] => []
  | (key, v) :: fields => leaves (start ++ key) v ++ leavesOf start fields

end

/-- Flattens a nested row: the leaves under their paths. Of a repeated path the
first place and the last value remain. -/
def flatten (nested : Object) : Object :=
  Object.ofFields (leavesOf "" nested)

end TenantTables.Path
