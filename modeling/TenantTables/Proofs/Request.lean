import TenantTables.Proofs.WorkView
import TenantTables.Service

/-!
# Requests to a service

A service has ten operations. Statements about all of them are made about one
function that serves a request, whatever it asks for; and what is said about a
service over the store in memory is said about its requests.

Two operations of the service occur in almost every request, and this file says
what they do over the store in memory. Opening a table creates it if it is not
there, unless its name is refused. Working in a unit of work starts from the
tables of the store, and leaves the tables that the unit of work ends with: what
it has copied and not committed is gone.
-/

namespace TenantTables

open Json (Object)
open Audit (Session)
open Memory (Store Table Tables Work)

namespace Service

/-- What a caller asks of a service about one table. -/
inductive Request where
  | list (params : Query.Params)
  | retrieve (id : String)
  | create (inputs : Object) (rules : FieldRules)
  | upsert (id : Option String) (inputs : Object) (rules : FieldRules)
  | delete (id : String)
  | importCsv (bytes : List UInt8) (rules : FieldRules)
  | importFile (file : Option (List UInt8)) (rules : FieldRules)
  | exportTable (params : Query.Params) (headings : Option (List String))
  | truncate
  | drop

/-- What a service answers. -/
inductive Answer where
  | listed (outcome : ListOutcome)
  | record (r : Record)
  | imported (outcome : ImportOutcome)
  | exported (file : ExportFile)
  | done

variable {ρ τ κ : Type}

/-- Serves a request. -/
def serve (s : Service ρ τ κ) (ctx : RequestContext) (table : String) :
    Request → Op ρ κ Answer
  | .list params => do pure (.listed (← s.list ctx table params))
  | .retrieve id => do pure (.record (← s.retrieve ctx table id))
  | .create inputs rules =>
      do pure (.record (← s.create ctx table inputs rules))
  | .upsert id inputs rules =>
      do pure (.record (← s.upsert ctx table id inputs rules))
  | .delete id => do pure (.record (← s.delete ctx table id))
  | .importCsv bytes rules =>
      do pure (.imported (← s.importCsv ctx table bytes rules))
  | .importFile file rules =>
      do pure (.imported (← s.importFile ctx table file rules))
  | .exportTable params headings => do
      pure (.exported (← s.exportTable ctx table params headings))
  | .truncate => do
      s.truncate ctx table
      pure .done
  | .drop => do
      s.drop ctx table
      pure .done

/-! ## Over the store in memory -/

section Memory

variable {svc : Service Tables Work κ} {s : Store} {ctx : RequestContext}
  {table : String} {t : TableName}

theorem openTable_runIn (hs : svc.repository = s.repository)
    (ht : svc.tableName ctx table = .ok t) (w : World (ServiceState Tables κ)) :
    (svc.openTable ctx table).runIn w =
      (.ok t,
        { w with state.store := Tables.ensured w.state.store t.physical }) := by
  unfold openTable onStore
  rw [ht, hs, Action.runIn_bind_ok (Action.runIn_lift _ _)]
  have hensure : ((s.repository.ensureTable t).zoom ServiceState.store
      fun s store => { s with store }).runIn w =
        (.ok (),
          { w with
            state.store := Tables.ensured w.state.store t.physical }) := by
    rw [Action.runIn_zoom, Store.ensureTable_runIn]
  rw [Action.runIn_bind_ok hensure, Action.runIn_pure]

/-- A name that is refused is refused before anything is touched. -/
theorem openTable_runIn_error {e : Error}
    (ht : svc.tableName ctx table = .error e)
    (w : World (ServiceState Tables κ)) :
    (svc.openTable ctx table).runIn w = (.error e, w) := by
  unfold openTable
  rw [ht, Action.runIn_bind_error (Action.runIn_lift _ _)]

/-- A unit of work leaves the tables and the sink that it ends with. -/
theorem inWork_runIn (hs : svc.repository = s.repository) {α : Type}
    {body : Action (Session Work κ) α} {w : World (ServiceState Tables κ)}
    {r : Except Error α} {inner : World (Session Work κ)}
    (h : body.runIn ⟨⟨⟨w.state.store, []⟩, [], w.state.sink⟩, w.supply⟩ =
      (r, inner)) :
    (svc.inWork body).runIn w =
      (r, ⟨⟨inner.state.work.tables, inner.state.sink⟩, inner.supply⟩) := by
  have hstart : s.repository.start.runIn ⟨w.state.store, w.supply⟩ =
      (.ok ⟨w.state.store, []⟩, ⟨w.state.store, w.supply⟩) := rfl
  unfold inWork
  rw [Action.runIn_of, hs]
  simp only [hstart, h]
  rfl

end Memory

end Service

end TenantTables
