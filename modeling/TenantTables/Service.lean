import TenantTables.Audit.Session
import TenantTables.Export
import TenantTables.Import.Reconcile

/-!
# The table service

One set of operations serves every table of every tenant: list or delete in
bulk, retrieve, create, upsert, delete, import, export, truncate and drop. Each
resolves the table's name first and creates the table if it is not there. All
writing happens in one audited unit of work per operation.
-/

namespace TenantTables

open Json (Value Object)
open Audit (Auditor Session Sink Policy)
open Import (Veto Summary)

/-- The states behind a service: the store's and the sink's. -/
structure ServiceState (ρ κ : Type) where
  store : ρ
  sink : κ

/-- A service over a store and a sink of audit events. -/
structure Service (ρ τ κ : Type) where
  repository : Repository ρ τ
  sink : Sink κ
  config : Config
  policy : Policy
  aliases : Query.Aliases
  /-- The tenant of requests that name none. -/
  ambientTenant : Option String
  veto : Veto

/-- What a list request answers. -/
inductive ListOutcome where
  | page (p : Page)
  | deleted (count : Nat)

/-- The document of a list's outcome. -/
def ListOutcome.toJson : ListOutcome → Value
  | .page p => p.toJson
  | .deleted count => .obj [("deleted", .int count)]

/-- What an import answers. -/
structure ImportOutcome where
  summary : Summary
  importId : String

/-- The document of an import's outcome. -/
def ImportOutcome.toJson (o : ImportOutcome) : Value :=
  .obj (o.summary.toFields ++ [("import_id", .str o.importId)])

/-- An export to download. -/
structure ExportFile where
  name : String
  content : String

namespace Service

variable {ρ τ κ : Type}

/-- A service; its audit patterns have to be readable. -/
def of (repository : Repository ρ τ) (sink : Sink κ) (config : Config) :
    Except Error (Service ρ τ κ) :=
  (Policy.ofConfig config.audit).map fun policy =>
    { repository, sink, config, policy, aliases := [], ambientTenant := none,
      veto := Veto.never }

/-- Operations of a service. -/
abbrev Op (ρ κ α : Type) := Action (ServiceState ρ κ) α

/-- Runs an action of the store. -/
def onStore {α : Type} (a : Action ρ α) : Op ρ κ α :=
  a.zoom ServiceState.store fun s store => { s with store }

def idField (s : Service ρ τ κ) : String :=
  s.repository.spec.idField

/-- The auditor of a request. -/
def auditor (s : Service ρ τ κ) (ctx : RequestContext) : Auditor :=
  ⟨s.policy, s.config.appName, s.idField, ctx⟩

/-- Checks a logical name and resolves it. -/
def tableName (s : Service ρ τ κ) (ctx : RequestContext) (table : String) :
    Except Error TableName := do
  validateTableName table s.config.reservedTables
  TableName.resolve ctx.tenant table s.ambientTenant

/-- Resolves a name and creates the table if it is not there. -/
def openTable (s : Service ρ τ κ) (ctx : RequestContext) (table : String) :
    Op ρ κ TableName := do
  let t ← Action.lift (s.tableName ctx table)
  onStore (s.repository.ensureTable t)
  pure t

/-- Runs an action in a unit of work. However it ends, the unit of work is over
behind it: what was not committed is gone. -/
def inWork {α : Type} (s : Service ρ τ κ)
    (body : Action (Session τ κ) α) : Op ρ κ α :=
  Action.of fun w =>
    let (started, outer) := s.repository.start.runIn ⟨w.state.store, w.supply⟩
    match started with
    | .error e =>
        (.error e, ⟨{ w.state with store := outer.state }, outer.supply⟩)
    | .ok work =>
        let (r, inner) := body.runIn ⟨⟨work, [], w.state.sink⟩, outer.supply⟩
        (r, ⟨⟨s.repository.finish inner.state.work, inner.state.sink⟩,
          inner.supply⟩)

/-- The failure to find a record. -/
def noRecord (t : TableName) (id : String) : Error :=
  .notFound (t.physical ++ " " ++ id)

/-- The descriptor of a request. -/
def descriptor (s : Service ρ τ κ) (params : Query.Params) (method : String) :
    Query.Descriptor :=
  Query.Descriptor.ofParams params method s.aliases s.config.pageSize

/-- A page of rows; or, for a request to delete, the deletion of all rows that
the filter selects. -/
def list (s : Service ρ τ κ) (ctx : RequestContext) (table : String)
    (params : Query.Params) :
    Op ρ κ ListOutcome := do
  let t ← s.openTable ctx table
  let d := s.descriptor params ctx.method
  if d.isDelete then
    let n ← onStore (s.repository.deleteWhere t d.filter)
    pure (.deleted n)
  else
    let p ← onStore (s.repository.paginate t d)
    pure (.page p)

/-- The record with an identifier. -/
def retrieve (s : Service ρ τ κ) (ctx : RequestContext) (table id : String) :
    Op ρ κ Record := do
  let t ← s.openTable ctx table
  match ← onStore (s.repository.find t s.idField id) with
  | some r => pure r
  | none => Action.lift (.error (noRecord t id))

/-- Stores a record that exists, if anything about it changed. -/
def saveChanges (tx : Transaction (Session τ κ)) (t : TableName) (r : Record) :
    Action (Session τ κ) Record :=
  if r.isDirty then tx.update t r else pure r

/-- Stores a new record, under an identifier if one is given. -/
def saveNew (tx : Transaction (Session τ κ)) (spec : TableSpec) (t : TableName)
    (id : Option String) (attributes : Object) :
    Action (Session τ κ) Record := do
  let attributes :=
    match id with
    | some id => attributes.insert spec.idField (.str id)
    | none => attributes
  let attributes ← Action.drawing (spec.prepareInsert attributes)
  tx.insert t (Record.new attributes)

/-- Updates the record with an identifier, or stores a new one that carries it.
Rules are held against the inputs as they came; dotted keys are nested after
that. -/
def upsert (s : Service ρ τ κ) (ctx : RequestContext) (table : String)
    (id : Option String) (inputs : Object)
    (rules : FieldRules) : Op ρ κ Record := do
  Action.lift (rules.check inputs)
  let t ← s.openTable ctx table
  let spec := s.repository.spec
  let attributes := spec.fillable (Path.undot inputs)
  let tx := (s.auditor ctx).wrap s.sink s.repository.transaction
  s.inWork do
    let existing ←
      match id with
      | some id => tx.find t spec.idField id
      | none => pure none
    let r ←
      match existing with
      | some r => saveChanges tx t (r.fill (spec.prepareUpdate attributes))
      | none => saveNew tx spec t id attributes
    tx.commit
    pure r

/-- Stores a new record. -/
def create (s : Service ρ τ κ) (ctx : RequestContext) (table : String)
    (inputs : Object) (rules : FieldRules) : Op ρ κ Record :=
  s.upsert ctx table none inputs rules

/-- Deletes the record with an identifier and answers it. -/
def delete (s : Service ρ τ κ) (ctx : RequestContext) (table id : String) :
    Op ρ κ Record := do
  let t ← s.openTable ctx table
  let tx := (s.auditor ctx).wrap s.sink s.repository.transaction
  s.inWork do
    match ← tx.find t s.idField id with
    | none =>
        tx.rollback
        Action.lift (.error (noRecord t id))
    | some r =>
        tx.delete t r
        tx.commit
        pure r

/-- Identifiers as a document. -/
def idsJson (ids : List String) : Value :=
  .arr (ids.map .str)

/-- What the event about an import tells. -/
def importReport (importId : String) (summary : Summary) : Value :=
  .obj [("import_id", .str importId), ("inserted", idsJson summary.inserted),
    ("updated", idsJson summary.updated),
    ("skipped", .arr (summary.skipped.map Audit.optional)),
    ("rows", .int summary.rowCount)]

/-- Sends the event about an import, if the table is audited. -/
def reportImport (s : Service ρ τ κ) (ctx : RequestContext) (t : TableName)
    (importId : String) (summary : Summary) : Op ρ κ Unit :=
  let auditor := s.auditor ctx
  if auditor.audits t then do
    let created ← Action.now
    let now ← Action.now
    let e :=
      auditor.dayEvent t .import_ (importReport importId summary) created now
    Action.of fun w =>
      (.ok (), { w with state.sink := s.sink.writeAll [e] w.state.sink })
  else pure ()

/-- Imports a file whose first line holds the headers. All rows are checked
before the first is stored. -/
def importCsv (s : Service ρ τ κ) (ctx : RequestContext) (table : String)
    (bytes : List UInt8) (rules : FieldRules) : Op ρ κ ImportOutcome := do
  let t ← s.openTable ctx table
  let importId ← Action.fresh
  let rows ← Action.lift
      (Import.validateCsv ⟨rules, s.config.importLimit⟩ importId bytes)
  let plan : Import.Plan τ :=
    ⟨s.repository.transaction, s.repository.spec, t, s.veto⟩
  let summary ← s.inWork (Session.onWork (plan.reconcile rows))
  s.reportImport ctx t importId summary
  pure ⟨summary, importId⟩

/-- Imports an uploaded file, which has to be there. -/
def importFile (s : Service ρ τ κ) (ctx : RequestContext) (table : String)
    (file : Option (List UInt8)) (rules : FieldRules) : Op ρ κ ImportOutcome :=
  match file with
  | some bytes => s.importCsv ctx table bytes rules
  | none => Action.lift (.error .missingFile)

/-- All rows that a request selects, as CSV. Without headings, an explicit
selection names the columns. -/
def exportTable (s : Service ρ τ κ) (ctx : RequestContext) (table : String)
    (params : Query.Params) (headings : Option (List String)) :
    Op ρ κ ExportFile := do
  let t ← s.openTable ctx table
  let d := s.descriptor params "GET"
  let records ← onStore (s.repository.selectAll t d.filter d.sorts)
  let headings := headings.or (if d.selectsAll then none else some d.selected)
  let content := exportCsv records headings
  let now ← Action.now
  pure ⟨exportFileName t now, content⟩

/-- Removes all rows of a table. -/
def truncate (s : Service ρ τ κ) (ctx : RequestContext)
    (table : String) : Op ρ κ Unit := do
  let t ← s.openTable ctx table
  onStore (s.repository.truncate t)

/-- Drops a table, which need not be there. -/
def drop (s : Service ρ τ κ) (ctx : RequestContext)
    (table : String) : Op ρ κ Unit := do
  let t ← Action.lift (s.tableName ctx table)
  onStore (s.repository.dropTable t)

end Service

end TenantTables
