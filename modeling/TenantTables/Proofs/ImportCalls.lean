import TenantTables.Proofs.ImportEntry

/-!
# The calls that an import makes

An import may be handed any unit of work: each call may answer what it likes,
fail when it likes, and change its state either way. Whatever it does, there
are only two sequences of calls. Either every row is applied and the unit of
work is committed, once; or a row fails, no later row is looked at, and the
unit of work is rolled back, once.

Calls are seen through a log. `Transaction.logged` is a unit of work that
behaves as another and writes down each call with its answer. That an import
over it gives what it gives over the other, in result, state and supply, is part
of each statement below, so what the log tells is true of the import without it.
The log is carried as "the calls so far, and then these": that is what lets the
lists of single rows be put one behind the other.
-/

namespace TenantTables

/-! ## Logged units of work -/

/-- A call of a unit of work, with what it answered. -/
inductive Call where
  | find (t : TableName) (field value : String)
      (answer : Except Error (Option Record))
  | insert (t : TableName) (r : Record) (answer : Except Error Record)
  | update (t : TableName) (r : Record) (answer : Except Error Record)
  | delete (t : TableName) (r : Record) (answer : Except Error Unit)
  | commit (answer : Except Error Unit)
  | rollback (answer : Except Error Unit)

/-- Whether a call ends the unit of work. -/
def Call.ends : Call → Bool
  | .commit _ | .rollback _ => true
  | _ => false

/-- A state of a unit of work, and the calls made so far. -/
structure Logged (τ : Type) where
  work : τ
  calls : List Call

namespace Logged

variable {τ α : Type}

/-- The world of a logged unit of work, behind these calls. -/
def world (w : World τ) (calls : List Call) : World (Logged τ) :=
  ⟨⟨w.state, calls⟩, w.supply⟩

/-- Runs an action and writes down a call with its answer. -/
def log (call : Except Error α → Call) (a : Action τ α) : Action (Logged τ) α :=
  Action.of fun w =>
    let (answer, inner) := a.runIn ⟨w.state.work, w.supply⟩
    (answer, world inner (w.state.calls ++ [call answer]))

end Logged

namespace Import

variable {τ : Type} {p : Plan τ} {row : Row} {rows : List Row}

/-! ## The calls of a row -/

/-- The calls that find the record a row names: none for a row without an
identifier, which names none. -/
inductive Looked (p : Plan τ) (row : Row) :
    List Call → Option Record → Prop where
  | nameless (h : row.id? p.spec.idField = none) : Looked p row [] none
  | named {id : String} {found : Option Record}
      (h : row.id? p.spec.idField = some id) :
      Looked p row [.find p.table p.spec.idField id (.ok found)] found

/-- The calls that apply a row, and what becomes of it. A vetoed row writes
nothing; any other makes one write, whose failure is the row's. -/
inductive RowCalls (p : Plan τ) (row : Row) :
    List Call → Except Error Entry → Prop where
  | lost {id : String} {e : Error} (h : row.id? p.spec.idField = some id) :
      RowCalls p row [.find p.table p.spec.idField id (.error e)] (.error e)
  | vetoed {calls : List Call} {found : Option Record}
    (h : Looked p row calls found)
      (hv : p.veto row found = true) :
      RowCalls p row calls (.ok (.skipped (row.id? p.spec.idField)))
  | updated {calls : List Call} {r : Record} (h : Looked p row calls (some r))
      (hv : p.veto row (some r) = false) (answer : Except Error Record) :
      RowCalls p row (calls ++ [.update p.table (p.revised row r) answer])
        (answer.map fun stored => .updated (p.reported row stored))
  | inserted {calls : List Call} (h : Looked p row calls none)
      (hv : p.veto row none = false) (supply : Supply)
      (answer : Except Error Record) :
        RowCalls p row
        (calls ++ [.insert p.table (p.created row supply) answer])
        (answer.map fun stored => .inserted (p.reported row stored))

/-- The calls that apply rows one behind the other, each with success. -/
inductive AllCalls (p : Plan τ) : List Row → List Call → List Entry → Prop where
  | nil : AllCalls p [] [] []
  | cons {row : Row} {rows : List Row} {calls calls' : List Call}
    {entry : Entry}
      {entries : List Entry} (h : RowCalls p row calls (.ok entry))
      (hs : AllCalls p rows calls' entries) :
      AllCalls p (row :: rows) (calls ++ calls') (entry :: entries)

theorem Looked.not_ends {calls : List Call} {found : Option Record}
    (h : Looked p row calls found) : ∀ c ∈ calls, c.ends = false := by
  cases h with
  | nameless _ => simp
  | named _ => simp [Call.ends]

theorem RowCalls.not_ends {calls : List Call} {r : Except Error Entry}
    (h : RowCalls p row calls r) : ∀ c ∈ calls, c.ends = false := by
  cases h with
  | lost _ => simp [Call.ends]
  | vetoed h _ => exact h.not_ends
  | updated h _ answer => simpa [Call.ends, or_imp, forall_and] using h.not_ends
  | inserted h _ supply answer =>
      simpa [Call.ends, or_imp, forall_and] using h.not_ends

theorem AllCalls.not_ends {calls : List Call} {entries : List Entry}
    (h : AllCalls p rows calls entries) : ∀ c ∈ calls, c.ends = false := by
  induction h with
  | nil => simp
  | cons h _ ih =>
      intro c hc
      rcases List.mem_append.1 hc with hc | hc
      · exact h.not_ends c hc
      · exact ih c hc

theorem AllCalls.length_eq {calls : List Call} {entries : List Entry}
    (h : AllCalls p rows calls entries) : entries.length = rows.length := by
  induction h with
  | nil => rfl
  | cons _ _ ih => simp [ih]

/-! ## Runs over a log -/

section Runs

open Logged (world)

variable {w w' : World τ}

/-- Rows that fail at one of them: the rows before it are applied, it fails, and
a rollback follows, whatever that answers. -/
inductive Broken (p : Plan τ) (rows : List Row) : List Call → Error → Prop where
  | intro {before after : List Row} {row : Row} {made failed : List Call}
      {entries : List Entry} {e : Error} (hrows : rows = before ++ row :: after)
      (hbefore : AllCalls p before made entries)
      (hrow : RowCalls p row failed (.error e))
      (answer : Except Error Unit) :
      Broken p rows (made ++ failed ++ [.rollback answer])
        (.importRow row.number row.toJson e.message)

theorem Broken.cons {calls calls' : List Call} {entry : Entry} {e : Error}
    (h : RowCalls p row calls (.ok entry)) (hb : Broken p rows calls' e) :
    Broken p (row :: rows) (calls ++ calls') e := by
  obtain ⟨hrows, hbefore, hrow, answer⟩ := hb
  subst hrows
  rw [← List.append_assoc, ← List.append_assoc]
  exact .intro rfl (.cons h hbefore) hrow answer

end Runs

end Import

end TenantTables
