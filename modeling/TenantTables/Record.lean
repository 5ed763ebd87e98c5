import TenantTables.Json.Print
import TenantTables.TableSpec

/-!
# Records

A record is a row in the hands of a caller: its attributes, and the snapshot of
them that the store was last known to hold. What differs between the two is
what an update writes and what the audit log tells. The surrogate key stands
beside the attributes and is never one of them.
-/

namespace TenantTables

open Json (Value Object)

/-- One changed attribute. -/
structure Change where
  key : String
  old : Value
  new : Value

namespace Change

/-- The document of a change. -/
def toJson (c : Change) : Value :=
  .obj [("key", .str c.key), ("old", c.old), ("new", c.new)]

/-- The change of a document; its fields may also come as a list, in order. -/
def ofJson? : Value → Option Change
  | .obj fields =>
      match Object.get? fields "key", Object.get? fields "old",
        Object.get? fields "new" with
      | some (.str key), some old, some new => some ⟨key, old, new⟩
      | _, _, _ => none
  | .arr [.str key, old, new] => some ⟨key, old, new⟩
  | _ => none

end Change

/-- A row, and what is known of its stored state. -/
structure Record where
  /-- The surrogate key, once the record has been stored. -/
  id : Option Int
  attributes : Object
  /-- The attributes as last stored. -/
  snapshot : Object
  /-- Whether changes to the record are audited. -/
  audited : Bool

namespace Record

/-- Attributes without the surrogate key. -/
def withoutId (attributes : Object) : Object :=
  attributes.filter fun (key, _) => key != idColumn

/-- A record that was never stored. -/
def new (attributes : Object) : Record :=
  ⟨none, withoutId attributes, [], true⟩

/-- A record as it was read from the store. -/
def ofStored (id : Int) (attributes : Object) : Record :=
  ⟨some id, withoutId attributes, withoutId attributes, true⟩

def exists? (r : Record) : Bool :=
  r.id.isSome

/-- The value of an attribute. -/
def get? (r : Record) (key : String) : Option Value :=
  if key == idColumn then none else r.attributes.get? key

/-- Writes an attribute; the surrogate key is not one. -/
def set (r : Record) (key : String) (v : Value) : Record :=
  if key == idColumn then r
  else { r with attributes := r.attributes.insert key v }

/-- Writes attributes in order. -/
def fill (r : Record) (attributes : Object) : Record :=
  attributes.foldl (fun r (key, v) => r.set key v) r

/-- Removes an attribute. -/
def remove (r : Record) (key : String) : Record :=
  { r with attributes := r.attributes.erase key }

/-- The identifier that callers know the record by. -/
def uid? (r : Record) (idField : String) : Option String :=
  ((r.attributes.get? idField).bind Value.toText?).filter (· ≠ "")

/-- Whether an attribute has the value that was last stored. -/
def isUnchanged (r : Record) (key : String) (v : Value) : Bool :=
  match r.snapshot.get? key with
  | some old => old.same v
  | none => false

/-- The attributes that differ from what was last stored, in order. What was
not stored before counts as null. -/
def changes (r : Record) : List Change :=
  (r.attributes.filter fun (key, v) => !r.isUnchanged key v).map fun (key, v) =>
    ⟨key, (r.snapshot.get? key).getD .null, v⟩

def isDirty (r : Record) : Bool :=
  !r.changes.isEmpty

/-- Takes over what a store just wrote. -/
def markSaved (r : Record) (id : Int) (attributes : Object) : Record :=
  { ofStored id attributes with audited := r.audited }

/-- Exempts the record from audit. -/
def withoutAudit (r : Record) : Record :=
  { r with audited := false }

/-- The record as an object, the surrogate key first. -/
def toObject (r : Record) : Object :=
  Object.insertAll
    [(idColumn, match r.id with
      | some id => .int id
      | none => .null)]
    r.attributes

def toJson (r : Record) : Value :=
  .obj r.toObject

end Record

end TenantTables
