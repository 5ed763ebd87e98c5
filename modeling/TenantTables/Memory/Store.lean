import TenantTables.Memory.Table
import TenantTables.Repository
import TenantTables.Sql.Identifier

/-!
# The store in memory

A repository whose tables live in memory. A unit of work copies each table it
touches on first use and works on the copies, so abandoning it leaves no trace;
committing puts the copies in the place of the tables.
-/

namespace TenantTables.Memory

open Time (Instant)

/-- The tables under their physical names. -/
abbrev Tables := List (String × Table)

/-- Puts a table under a name. -/
def Tables.set : Tables → String → Table → Tables
  | [], name, t => [(name, t)]
  | (n, u) :: rest, name, t =>
      if n == name then (n, t) :: rest else (n, u) :: Tables.set rest name t

/-- What does not change in the life of a store. -/
structure Store where
  spec : TableSpec
  checks : List Check

/-- A store of a layout whose names are valid. -/
def Store.ofSpec (spec : TableSpec)
    (checks : List Check) : Except Error Store :=
  (Sql.validateSpec spec).map fun () => ⟨spec, checks⟩

/-- A unit of work: the tables it started from, and copies of
those it touched. -/
structure Work where
  tables : Tables
  copies : Tables

/-- The failure to find a table. -/
def missingTable (t : TableName) : Error :=
  .database ("relation \"" ++ t.physical ++ "\" does not exist")

/-- A table of the store. -/
def tableIn (name : TableName) : Action Tables Table :=
  Action.of fun w =>
    match w.state.lookup name.physical with
    | some t => (.ok t, w)
    | none => (.error (missingTable name), w)

/-- The copy of a table, made on first use. -/
def copyOf (name : TableName) : Action Work Table :=
  Action.of fun w =>
    match w.state.copies.lookup name.physical with
    | some t => (.ok t, w)
    | none =>
        match w.state.tables.lookup name.physical with
        | some t =>
            (.ok t,
              { w with
                state.copies := Tables.set w.state.copies name.physical t })
        | none => (.error (missingTable name), w)

/-- Replaces the copy of a table. -/
def putCopy (name : TableName) (t : Table) : Action Work Unit :=
  Action.of fun w =>
    (.ok (),
      { w with state.copies := Tables.set w.state.copies name.physical t })

namespace Store

/-- Writes a record to the copy of its table. -/
def write (s : Store) (name : TableName) (id : Option Int) (r : Record) :
    Action Work Record := do
  let t ← copyOf name
  let now ← Action.now
  let (id, row, t) ← Action.lift
    (writeRow s.spec s.checks name.physical t id r.attributes now)
  putCopy name t
  pure (r.markSaved id row)

/-- Units of work on copies. -/
def transaction (s : Store) : Transaction Work where
  find name field value := do
    let t ← copyOf name
    pure (findIn t field value)
  insert name r := s.write name none r
  update name r :=
    match r.id with
    | some id => s.write name (some id) r
    | none => Action.lift (.error
      (.database "cannot update a record that was never saved"))
  delete name r := do
    let t ← copyOf name
    match r.id with
    | some id => putCopy name (t.erase id)
    | none => pure ()
  commit := Action.of fun w =>
    (.ok (), { w with state.tables :=
      w.state.copies.foldl (fun tables (name, t) =>
        Tables.set tables name t) w.state.tables })
  rollback := pure ()

/-- The columns of a page: the known ones, or all when there are none. -/
def selectable (s : Store) (selected : List String) : List String :=
  let columns := selected.filter fun c => c == "*" || s.spec.hasColumn c
  if columns.isEmpty then ["*"] else columns

/-- What was sorted, or the end of the operation. -/
def orAborted {α : Type} : Option α → Except Error α
  | some a => .ok a
  | none => .error .aborted

/-- The store as a repository. -/
def repository (s : Store) : Repository Tables Work where
  spec := s.spec
  ensureTable name := Action.of fun w =>
    match w.state.lookup name.physical with
    | some _ => (.ok (), w)
    | none =>
        (.ok (), { w with
          state := Tables.set w.state name.physical .empty })
  dropTable name := Action.of fun w =>
    (.ok (), { w with
      state := w.state.filter fun (n, _) => n != name.physical })
  truncate name := do
    let _ ← tableIn name
    Action.of fun w =>
      (.ok (), { w with state := Tables.set w.state name.physical .empty })
  start := Action.of fun w => (.ok ⟨w.state, []⟩, w)
  transaction := s.transaction
  finish := Work.tables
  find name field value := do
    let t ← tableIn name
    pure (findIn t field value)
  paginate name d := do
    let t ← tableIn name
    let rows ← Action.lift
      (orAborted (matchingRows s.spec t d.filter d.sorts))
    let page := (rows.drop d.offset).take d.pageSize
    pure (Page.of d rows.length
      (page.map (Query.project (s.selectable d.selected))))
  selectAll name f sorts := do
    let t ← tableIn name
    let rows ← Action.lift (orAborted (matchingRows s.spec t f sorts))
    pure (rows.filterMap recordOfRow?)
  deleteWhere name f := do
    let t ← tableIn name
    let kept := t.rows.filter fun (id, attributes) =>
      !(knownFilter s.spec f).holds (storedRow id attributes)
    Action.of fun w =>
      (.ok (t.rows.length - kept.length),
        { w with
          state := Tables.set w.state name.physical { t with rows := kept } })

end Store

end TenantTables.Memory
