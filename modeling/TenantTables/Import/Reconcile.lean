import TenantTables.Import.Row
import TenantTables.Repository

/-!
# Reconciling an import

The rows of an import are applied one after another in one unit of work. A row
updates the record that its identifier names, as the rows before it left the
table, and otherwise becomes a new record. A hook may veto it. The first row
that fails takes the whole import with it.
-/

namespace TenantTables.Import

/-- The identifiers that an import touched, in the order of its rows. -/
structure Summary where
  inserted : List String
  updated : List String
  /-- Vetoed rows; those that carried no identifier have none here. -/
  skipped : List (Option String)
  rowCount : Nat
  deriving DecidableEq, Repr

/-- Nothing touched yet. -/
def Summary.empty : Summary := ⟨[], [], [], 0⟩

/-- The identifiers of a summary under the names that documents give them. -/
def Summary.toFields (s : Summary) : Json.Object :=
  [("inserted", .arr (s.inserted.map .str)),
    ("updated", .arr (s.updated.map .str)),
    ("skipped",
      .arr (s.skipped.map fun id => (id.map Json.Value.str).getD .null))]

/-- The document of a summary. -/
def Summary.toJson (s : Summary) : Json.Value :=
  .obj (s.toFields ++ [("row_count", .int s.rowCount)])

/-- Says of a row and the record it would update whether to leave it out. -/
abbrev Veto := Row → Option Record → Bool

/-- The hook that lets every row pass. -/
def Veto.never : Veto := fun _ _ => false

/-- The identifier that a stored record is reported under. -/
def reportedId (spec : TableSpec) (r : Record) (id : Option String) : String :=
  ((r.uid? spec.idField).or id).getD ""

/-- What an import works with. -/
structure Plan (τ : Type) where
  transaction : Transaction τ
  spec : TableSpec
  table : TableName
  veto : Veto

namespace Plan

variable {τ : Type}

/-- The record that the row's identifier names. -/
def existing (p : Plan τ) (id : Option String) : Action τ (Option Record) :=
  match id with
  | some id => p.transaction.find p.table p.spec.idField id
  | none => pure none

/-- Applies one row. -/
def applyRow (p : Plan τ) (row : Row) (s : Summary) : Action τ Summary := do
  let id := row.id? p.spec.idField
  let existing ← p.existing id
  if p.veto row existing then pure { s with skipped := s.skipped ++ [id] }
  else
    let attributes := p.spec.fillable row.attributes
    match existing with
    | some r =>
        let r := r.withoutAudit.fill (p.spec.prepareUpdate attributes)
        let r ← p.transaction.update p.table r
        pure { s with updated := s.updated ++ [reportedId p.spec r id] }
    | none =>
        let attributes ← Action.drawing (p.spec.prepareInsert attributes)
        let r ← p.transaction.insert p.table
            (Record.new attributes).withoutAudit
        pure { s with inserted := s.inserted ++ [reportedId p.spec r id] }

/-- Applies rows up to the first that fails, which rolls everything back. -/
def applyRows (p : Plan τ) : List Row → Summary → Action τ Summary
  | [], s => pure s
  | row :: rows, s => do
      match ← (p.applyRow row s).attempt with
      | .ok s => p.applyRows rows s
      | .error e => do
          let _ ← p.transaction.rollback.attempt
          Action.lift (.error (.importRow row.number row.toJson e.message))

/-- Applies all rows and commits. -/
def reconcile (p : Plan τ) (rows : List Row) : Action τ Summary := do
  let s ← p.applyRows rows { Summary.empty with rowCount := rows.length }
  p.transaction.commit
  pure s

end Plan

end TenantTables.Import
