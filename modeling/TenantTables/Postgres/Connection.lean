import TenantTables.Postgres.Reply
import TenantTables.Sql.Statement
import TenantTables.Supply

/-!
# The connection

The database is a peer that answers statements from a state of its own; nothing
else is known about it. All statements go through one connection. A transaction
is open from its beginning until it has been committed or rolled back, and one
that is left open is rolled back before anything else happens.
-/

namespace TenantTables.Postgres

open Sql (Statement)

/-- The statements that bound a transaction. -/
inductive Boundary where
  | start
  | commit
  | rollback
  deriving DecidableEq, Repr

/-- The text of a boundary. -/
def Boundary.sql : Boundary → String
  | .start => "BEGIN"
  | .commit => "COMMIT"
  | .rollback => "ROLLBACK"

/-- A database over the states `δ`. -/
structure Peer (δ : Type) where
  bound : Boundary → δ → Except DatabaseFault Unit × δ
  execute : Statement → δ → Except DatabaseFault Reply × δ

variable {δ : Type}

/-- The outcome of an exchange with the database. -/
def answered {α : Type} (r : Except DatabaseFault α) : Except Error α :=
  match r with
  | .ok a => .ok a
  | .error fault => .error (.sql fault)

namespace Peer

/-- Executes a statement. -/
def query (p : Peer δ) (s : Statement) : Action δ Reply :=
  Action.of fun w =>
    let (r, state) := p.execute s w.state
    (answered r, { w with state })

/-- Issues a boundary of a transaction. -/
def issue (p : Peer δ) (b : Boundary) : Action δ Unit :=
  Action.of fun w =>
    let (r, state) := p.bound b w.state
    (answered r, { w with state })

/-- The first row of the answer, if there is one. -/
def queryOptional (p : Peer δ) (s : Statement) : Action δ (Option Row) := do
  let reply ← p.query s
  pure reply.rows.head?

/-- The first row of the answer, which has to be there. -/
def queryOne (p : Peer δ) (s : Statement) : Action δ Row := do
  match ← p.queryOptional s with
  | some row => pure row
  | none => Action.lift (.error (.sql .noRow))

/-- Executes statements in order. -/
def queryAll (p : Peer δ) : List Statement → Action δ Unit
  | [] => pure ()
  | s :: statements => do
      let _ ← p.query s
      p.queryAll statements

/-- The record that a statement finds, if it is executed and finds one. -/
def findRecord (p : Peer δ) (spec : TableSpec) (s : Option Statement) :
    Action δ (Option Record) := do
  match s with
  | none => pure none
  | some s =>
      match ← p.queryOptional s with
      | none => pure none
      | some row => do
          let r ← Action.lift (Row.record spec row)
          pure (some r)

end Peer

/-- The database code for a repeated value in a unique column. -/
def uniqueViolation : String := "23505"

/-- The failure of a write: a repeated value is a conflict. -/
def writeError : Error → Error
  | .sql (.refused code message) =>
      if code == uniqueViolation then .conflict message
      else .sql (.refused code message)
  | e => e

/-- Runs a write, telling conflicts from other failures. -/
def asWrite {σ α : Type} (a : Action σ α) : Action σ α := do
  match ← a.attempt with
  | .ok r => pure r
  | .error e => Action.lift (.error (writeError e))

end TenantTables.Postgres
