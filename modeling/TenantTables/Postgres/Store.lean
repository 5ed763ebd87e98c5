import TenantTables.Config
import TenantTables.Postgres.Cache
import TenantTables.Postgres.Connection
import TenantTables.Repository
import TenantTables.Sql.Definition

/-!
# The store in PostgreSQL

A repository whose tables live in a database. Tables are created on first use,
and remembered, so that creating one is attempted rarely. A unit of work is a
transaction of the database; one that is not over when it is given up is rolled
back.
-/

namespace TenantTables.Postgres

open Sql (Statement)

/-- The database behind a store, and the tables known to exist there. -/
structure Database (δ : Type) where
  peer : δ
  cache : TableCache

/-- A transaction, and whether it is still open. -/
structure Work (δ : Type) where
  database : Database δ
  isOpen : Bool

/-- What does not change in the life of a store. -/
structure Store (δ : Type) where
  peer : Peer δ
  spec : TableSpec

variable {δ : Type}

/-- The database of a configuration, with nothing known about its tables. -/
def Database.of (config : Config) (peer : δ) : Database δ :=
  ⟨peer, .empty config.cacheSeconds⟩

namespace Store

/-- A store with the general layout. -/
def ofConfig (peer : Peer δ) (config : Config) : Store δ :=
  ⟨peer, TableSpec.records config.idField⟩

/-- Replaces the layout; its names have to be valid. -/
def withSpec (s : Store δ) (spec : TableSpec) : Except Error (Store δ) :=
  (Sql.validateSpec spec).map fun () => { s with spec }

/-- Runs an exchange with the database. -/
def onPeer {α : Type} (a : Action δ α) : Action (Database δ) α :=
  a.zoom Database.peer fun d peer => { d with peer }

/-- Runs an exchange in a transaction. -/
def inWork {α : Type} (a : Action δ α) : Action (Work δ) α :=
  (onPeer a).zoom Work.database fun w database => { w with database }

/-- Begins a transaction. -/
def start (s : Store δ) : Action (Database δ) (Work δ) := do
  onPeer (s.peer.issue .start)
  let database ← Action.state
  pure ⟨database, true⟩

/-- Notes that the transaction is over. -/
def close : Action (Work δ) Unit :=
  Action.of fun w => (.ok (), { w with state.isOpen := false })

/-- Ends a transaction; it is over only if that succeeds. -/
def finishWith (s : Store δ) (b : Boundary) : Action (Work δ) Unit := do
  inWork (s.peer.issue b)
  close

/-- The database behind a transaction that was given up: if it is still open it
is rolled back, whatever comes of that. -/
def finish (s : Store δ) (w : Work δ) : Database δ :=
  if w.isOpen then
    { w.database with peer := (s.peer.bound .rollback w.database.peer).2 }
  else w.database

/-- The statements that create a table and its indexes. -/
def creation (s : Store δ) (t : TableName) : List Statement :=
  (Sql.createTable s.spec t.physical :: Sql.createIndexes s.spec t.physical).map
    Statement.plain

/-- Creates a table and its indexes in a transaction. -/
def create (s : Store δ) (t : TableName) : Action (Database δ) Unit :=
  Action.of fun w =>
    let (started, outer) := s.start.runIn w
    match started with
    | .error e => (.error e, outer)
    | .ok work =>
        let body : Action (Work δ) Unit := do
          inWork (s.peer.queryAll (s.creation t))
          s.finishWith .commit
        let (r, inner) := body.runIn ⟨work, outer.supply⟩
        (r, ⟨s.finish inner.state, inner.supply⟩)

/-- Looks a table up in the cache. -/
def checkCache (t : TableName) : Action (Database δ) Bool := do
  let now ← Action.now
  Action.of fun w =>
    let (fresh, cache) := w.state.cache.check now t.physical
    (.ok fresh, { w with state.cache := cache })

/-- Notes in the cache that a table exists. -/
def rememberTable (t : TableName) : Action (Database δ) Unit := do
  let now ← Action.now
  Action.of fun w =>
    (.ok (), { w with state.cache := w.state.cache.remember now t.physical })

/-- Notes in the cache that a table may not exist. -/
def forgetTable (t : TableName) : Action (Database δ) Unit :=
  Action.of fun w =>
    (.ok (), { w with state.cache := w.state.cache.forget t.physical })

/-- Creates the table, unless it is known to exist. -/
def ensureTable (s : Store δ) (t : TableName) : Action (Database δ) Unit := do
  if ← checkCache t then pure ()
  else
    s.create t
    rememberTable t

/-- The record that a written row came back as. -/
def savedAs (s : Store δ) (r : Record) (row : Row) : Except Error Record :=
  (splitId (Row.read s.spec row)).map fun (id, attributes) =>
    r.markSaved id attributes

/-- Inserts a record. -/
def insert (s : Store δ) (t : TableName) (r : Record) : Action δ Record := do
  let statement ← Action.lift (Statement.insert s.spec t r.attributes)
  let row ← asWrite (s.peer.queryOne statement)
  Action.lift (s.savedAs r row)

/-- Writes the changes to a record that is stored, if there are any. -/
def update (s : Store δ) (t : TableName) (r : Record) : Action δ Record :=
  match r.id with
  | none =>
      Action.lift
        (.error (.database "cannot update a record that was never saved"))
  | some id =>
      if r.changes.isEmpty then pure r
      else do
        let statement ← Action.lift (Statement.update s.spec t id r.changes)
        match ← asWrite (s.peer.queryOptional statement) with
        | some row => Action.lift (s.savedAs r row)
        | none =>
            Action.lift
              (.error (.notFound (t.physical ++ " id=" ++ toString id)))

/-- Deletes the row of a record that is stored. -/
def delete (s : Store δ) (t : TableName) (r : Record) : Action δ Unit :=
  match r.id with
  | some id => do
      let _ ← s.peer.query (Statement.deleteRow t id)
      pure ()
  | none => pure ()

/-- Units of work as transactions of the database. -/
def transaction (s : Store δ) : Transaction (Work δ) where
  find t field value :=
    inWork (s.peer.findRecord s.spec (Statement.find? s.spec t field value))
  insert t r := inWork (s.insert t r)
  update t r := inWork (s.update t r)
  delete t r := inWork (s.delete t r)
  commit := s.finishWith .commit
  rollback := s.finishWith .rollback

/-- The number of selected rows. -/
def count (s : Store δ) (t : TableName) (f : Query.Filter) : Action δ Nat := do
  let row ← s.peer.queryOne (Statement.count s.spec t f)
  match Row.number? row with
  | some n => pure n.toNat
  | none => Action.lift (.error (.sql .unreadable))

/-- The store as a repository. -/
def repository (s : Store δ) : Repository (Database δ) (Work δ) where
  spec := s.spec
  ensureTable := s.ensureTable
  dropTable t := do
    let _ ← onPeer (s.peer.query (Statement.plain (Sql.dropTable t.physical)))
    forgetTable t
  truncate t := do
    let _ ← onPeer
        (s.peer.query (Statement.plain (Sql.truncateTable t.physical)))
    pure ()
  start := s.start
  transaction := s.transaction
  finish := s.finish
  find t field value :=
    onPeer (s.peer.findRecord s.spec (Statement.find? s.spec t field value))
  paginate t d := onPeer do
    let total ← s.count t d.filter
    let reply ← s.peer.query (Statement.page s.spec t d)
    pure (Page.of d total (reply.rows.map (Row.read s.spec)))
  selectAll t f sorts := onPeer do
    let reply ← s.peer.query (Statement.selectAll s.spec t f sorts)
    Action.lift (reply.rows.mapM (Row.record s.spec))
  deleteWhere t f := onPeer do
    let reply ← s.peer.query (Statement.deleteWhere s.spec t f)
    pure reply.affected

end Store

end TenantTables.Postgres
