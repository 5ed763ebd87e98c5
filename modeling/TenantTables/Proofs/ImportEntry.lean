import TenantTables.Import.Reconcile
import TenantTables.Proofs.ActionRun

/-!
# One entry for each row of an import

A row that is applied leaves one entry in the summary: it was left out, or it
changed a record, or it became one. Applying a row is finding out its entry and
adding it to the summary, and the summary of an import is its entries sorted by
kind. Stated that way, no proof about an import has to carry the summary along.
-/

namespace TenantTables.Import

/-- What became of a row, with the identifier that the summary reports. -/
inductive Entry where
  | skipped (id : Option String)
  | updated (id : String)
  | inserted (id : String)
  deriving DecidableEq, Repr

namespace Entry

def skipped? : Entry → Option (Option String)
  | .skipped id => some id
  | _ => none

def updated? : Entry → Option String
  | .updated id => some id
  | _ => none

def inserted? : Entry → Option String
  | .inserted id => some id
  | _ => none

end Entry

namespace Summary

/-- The summary with one entry more. -/
def add (s : Summary) : Entry → Summary
  | .skipped id => { s with skipped := s.skipped ++ [id] }
  | .updated id => { s with updated := s.updated ++ [id] }
  | .inserted id => { s with inserted := s.inserted ++ [id] }

/-- The summary of an import that left these entries. -/
def ofEntries (entries : List Entry) : Summary :=
  ⟨entries.filterMap Entry.inserted?, entries.filterMap Entry.updated?,
    entries.filterMap Entry.skipped?, entries.length⟩

theorem foldl_add (entries : List Entry) (s : Summary) :
    entries.foldl add s =
      ⟨s.inserted ++ entries.filterMap Entry.inserted?,
        s.updated ++ entries.filterMap Entry.updated?,
        s.skipped ++ entries.filterMap Entry.skipped?, s.rowCount⟩ := by
  induction entries generalizing s with
  | nil => simp
  | cons e entries ih =>
      rw [List.foldl_cons, ih]
      cases e <;>
        simp [add, List.filterMap_cons, Entry.inserted?, Entry.updated?,
          Entry.skipped?]

/-- The summary that an import starts with ends as the summary
of its entries. -/
theorem foldl_add_empty {entries : List Entry} {n : Nat}
    (h : entries.length = n) :
    entries.foldl add { empty with rowCount := n } = ofEntries entries := by
  rw [foldl_add, ofEntries, h]
  rfl

/-- Every entry stands in exactly one of the three lists. -/
theorem length_ofEntries (entries : List Entry) :
    (ofEntries entries).inserted.length + (ofEntries entries).updated.length +
      (ofEntries entries).skipped.length = entries.length := by
  unfold ofEntries
  induction entries with
  | nil => rfl
  | cons e entries ih =>
      simp only [List.length_cons] at ih ⊢
      cases e <;>
        simp only [List.filterMap_cons, Entry.inserted?, Entry.updated?,
          Entry.skipped?, List.length_cons] <;> omega

end Summary

namespace Plan

variable {τ : Type}

/-- The record that a row makes of the one it names. -/
def revised (p : Plan τ) (row : Row) (r : Record) : Record :=
  r.withoutAudit.fill (p.spec.prepareUpdate (p.spec.fillable row.attributes))

/-- The new record that a row makes. -/
def created (p : Plan τ) (row : Row) (supply : Supply) : Record :=
  (Record.new (p.spec.prepareInsert (p.spec.fillable row.attributes)
    supply).1).withoutAudit

/-- The supply behind the making of a new record. -/
def supplyBehind (p : Plan τ) (row : Row) (supply : Supply) : Supply :=
  (p.spec.prepareInsert (p.spec.fillable row.attributes) supply).2

/-- The identifier that the summary reports for a stored record. -/
def reported (p : Plan τ) (row : Row) (stored : Record) : String :=
  reportedId p.spec stored (row.id? p.spec.idField)

/-- Writes the record that a row asks for, given the one it names. -/
def writeEntry (p : Plan τ) (row : Row) : Option Record → Action τ Entry
  | some r => do
      let stored ← p.transaction.update p.table (p.revised row r)
      pure (.updated (p.reported row stored))
  | none => do
      let attributes ← Action.drawing
        (p.spec.prepareInsert (p.spec.fillable row.attributes))
      let stored ← p.transaction.insert p.table
          (Record.new attributes).withoutAudit
      pure (.inserted (p.reported row stored))

/-- Applies one row and answers its entry. -/
def enter (p : Plan τ) (row : Row) : Action τ Entry := do
  let found ← p.existing (row.id? p.spec.idField)
  if p.veto row found then pure (.skipped (row.id? p.spec.idField))
  else p.writeEntry row found

/-- Applying a row adds its entry to the summary. -/
theorem applyRow_eq (p : Plan τ) (row : Row) (s : Summary) :
    p.applyRow row s = (p.enter row >>= fun entry => pure (s.add entry)) := by
  unfold applyRow enter
  rw [bind_assoc]
  refine bind_congr fun found => ?_
  split
  · simp [Summary.add]
  · cases found with
    | some r => simp [writeEntry, Summary.add, revised, reported]
    | none => simp [writeEntry, Summary.add, reported]

variable {p : Plan τ} {row : Row} {rows : List Row} {s : Summary}
  {w w' : World τ}

theorem writeEntry_some_runIn {r : Record} {answer : Except Error Record}
    (h : (p.transaction.update p.table (p.revised row r)).runIn w =
      (answer, w')) :
    (p.writeEntry row (some r)).runIn w =
      (answer.map fun stored => .updated (p.reported row stored), w') :=
  Action.runIn_bind_pure h _

theorem writeEntry_none_runIn {answer : Except Error Record}
    (h : (p.transaction.insert p.table (p.created row w.supply)).runIn
      ⟨w.state, p.supplyBehind row w.supply⟩ = (answer, w')) :
    (p.writeEntry row none).runIn w =
      (answer.map fun stored => .inserted (p.reported row stored), w') := by
  rw [writeEntry, Action.runIn_bind_ok (Action.runIn_drawing _ _)]
  exact Action.runIn_bind_pure h _

theorem enter_runIn_vetoed {found : Option Record}
    (h : (p.existing (row.id? p.spec.idField)).runIn w = (.ok found, w'))
    (hv : p.veto row found = true) :
    (p.enter row).runIn w = (.ok (.skipped (row.id? p.spec.idField)), w') := by
  rw [enter, Action.runIn_bind_ok h, hv, if_pos rfl, Action.runIn_pure]

theorem enter_runIn_write {found : Option Record}
    (h : (p.existing (row.id? p.spec.idField)).runIn w = (.ok found, w'))
    (hv : p.veto row found = false) :
    (p.enter row).runIn w = (p.writeEntry row found).runIn w' := by
  rw [enter, Action.runIn_bind_ok h, hv, if_neg (by simp)]

theorem applyRows_runIn_ok {entry : Entry}
    (h : (p.enter row).runIn w = (.ok entry, w')) :
    (p.applyRows (row :: rows) s).runIn w =
      (p.applyRows rows (s.add entry)).runIn w' := by
  have happly : (p.applyRow row s).runIn w = (.ok (s.add entry), w') := by
    rw [applyRow_eq, Action.runIn_bind_ok h]
    rfl
  rw [applyRows, Action.runIn_bind_ok (Action.runIn_attempt _ _), happly]

/-- The first row that fails rolls everything back and fails the import. -/
theorem applyRows_runIn_error {e : Error}
    (h : (p.enter row).runIn w = (.error e, w')) :
    (p.applyRows (row :: rows) s).runIn w =
      (.error (.importRow row.number row.toJson e.message),
        (p.transaction.rollback.runIn w').2) := by
  have happly : (p.applyRow row s).runIn w = (.error e, w') := by
    rw [applyRow_eq, Action.runIn_bind_error h]
  rw [applyRows, Action.runIn_bind_ok (Action.runIn_attempt _ _), happly]
  rfl

end Plan

end TenantTables.Import
