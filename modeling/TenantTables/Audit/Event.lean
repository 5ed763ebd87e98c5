import TenantTables.Audit.Policy
import TenantTables.Column.Document

/-!
# Audit events

An event is a document and the path it is stored under. Events about one record
share a path of their own. Events about many records go to a path per day whose
numbers count down, so that listing the paths in order shows the newest first.
-/

namespace TenantTables

open Json (Value Object)
open Time (Instant)

/-- What is known of the request that an operation serves. -/
structure RequestContext where
  /-- The tenant that the request names, if it does. -/
  tenant : Option String
  /-- The method, in upper case. -/
  method : String
  path : String
  ip : Option String
  userAgent : Option String
  deriving DecidableEq, Repr

/-- The context of a request with nothing but a method and a path. -/
def RequestContext.of (method path : String) : RequestContext :=
  ⟨none, Text.upper method, path, none, none⟩

/-- The context that a document describes: a method, a path, and
what else is known. -/
def RequestContext.ofFields (fields : Object) : RequestContext :=
  { RequestContext.of ((textField? fields "method").getD "GET")
      ((textField? fields "path").getD "/") with
    tenant := textField? fields "tenant"
    ip := textField? fields "ip"
    userAgent := textField? fields "user_agent" }

namespace Audit

/-- What happened. -/
inductive Act where
  | create
  | update
  | delete
  | import_
  deriving DecidableEq, Repr

/-- The name of an act in events. -/
def Act.name : Act → String
  | .create => "create"
  | .update => "update"
  | .delete => "delete"
  | .import_ => "import"

/-- A document, and where it is stored. -/
structure Event where
  path : String
  body : Value

/-- The document of an event. -/
def Event.toJson (e : Event) : Value :=
  .obj [("path", .str e.path), ("body", e.body)]

/-- Where the events about one record are stored. -/
def recordPath (t : TableName) (uid : String) : String :=
  t.physical ++ "/" ++ uid ++ "/index.json"

/-- Where the events of a day are stored. -/
def dayPath (t : TableName) (now : Instant) : String :=
  let d := now.date
  t.physical ++ "/" ++ toString (9999 - d.year) ++ toString (99 - d.month) ++
    toString (99 - d.day) ++ "_revts.json"

/-- Everything that events of one request have in common. -/
structure Auditor where
  policy : Policy
  appName : String
  idField : String
  context : RequestContext

/-- A text that may be absent. -/
def optional (s : Option String) : Value :=
  match s with
  | some s => .str s
  | none => .null

namespace Auditor

def audits (a : Auditor) (t : TableName) : Bool :=
  a.policy.audits t

/-- The fields that every event has. -/
def body (a : Auditor) (t : TableName) (act : Act) (log : List Change)
    (now : Instant) :
    Object :=
  [("app_name", .str a.appName), ("table_name", .str t.physical),
    ("tenant", .str t.tenant), ("table", .str t.table),
    ("action", .str act.name), ("log", .arr (log.map Change.toJson)),
    ("created_at", .int now.second), ("ip_address", optional a.context.ip),
    ("user_agent", optional a.context.userAgent),
    ("method", .str a.context.method), ("path", .str a.context.path)]

/-- The event about a record, if the record is stored and has an identifier. -/
def recordEvent? (a : Auditor) (t : TableName) (act : Act) (r : Record)
    (log : List Change) (now : Instant) : Option Event :=
  match r.id, r.uid? a.idField with
  | some id, some uid =>
      some ⟨recordPath t uid,
        .obj (Object.insertAll (a.body t act (a.policy.mask log) now)
          [("uid", .str uid), ("model_id", .int id), ("model", r.toJson)])⟩
  | _, _ => none

/-- The event about many records. -/
def dayEvent (a : Auditor) (t : TableName) (act : Act) (custom : Value)
    (created now : Instant) :
    Event :=
  ⟨dayPath t now,
    .obj (Object.insert (a.body t act [] created) "custom" custom)⟩

end Auditor

end Audit

end TenantTables
