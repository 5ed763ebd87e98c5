import TenantTables.Postgres.Store
import TenantTables.Proofs.StatementBinding

/-!
# The statements that a store issues

Which statements an operation issues shows in what it can learn from the
database: if it asks nothing but the given statements, two databases that answer
these alike are the same to it. `IssuesOnly` says so, and it is closed under the
ways in which the store's operations are built. Together with what each
statement is sent with it covers everything that the store and its transactions
ask about rows.
-/

namespace TenantTables.Postgres

open Query (Filter SortTerm Descriptor)
open Sql (Statement Token Parameter)
open Sql.Statement (Writes filterParams filterRead orderNames pageParams
  selectedNames stampNames textParameter)

variable {δ σ α β : Type} {issued : Statement → Prop}

/-- An operation asks the database nothing but the given statements. -/
def IssuesOnly (op : Peer δ → Action σ α) (issued : Statement → Prop) : Prop :=
  ∀ p q : Peer δ, (∀ st, issued st → p.execute st = q.execute st) → op p = op q

/-! ## How operations are built -/

theorem issuesOnly_const (a : Action σ α) :
    IssuesOnly (fun _ : Peer δ => a) issued :=
  fun _ _ _ => rfl

theorem IssuesOnly.bind {a : Peer δ → Action σ α} {k : Peer δ → α → Action σ β}
    (ha : IssuesOnly a issued) (hk : ∀ x, IssuesOnly (fun p => k p x) issued) :
    IssuesOnly (fun p => a p >>= k p) issued := by
  intro p q h
  have hk' : k p = k q := funext fun x => hk x p q h
  show a p >>= k p = a q >>= k q
  rw [ha p q h, hk']

theorem IssuesOnly.comp {a : Peer δ → Action σ α} {τ : Type}
    (F : Action σ α → Action τ β) (ha : IssuesOnly a issued) :
    IssuesOnly (fun p => F (a p)) issued :=
  fun p q h => congrArg F (ha p q h)

/-- Behind a computation that may fail only its results matter. -/
theorem issuesOnly_lift_bind {r : Except Error α} {k : Peer δ → α → Action σ β}
    (hk : ∀ x, r = .ok x → IssuesOnly (fun p => k p x) issued) :
    IssuesOnly (fun p => Action.lift r >>= k p) issued := by
  intro p q h
  cases r with
  | error e => rfl
  | ok x => exact hk x rfl p q h

theorem issuesOnly_query {st : Statement} (h : issued st) :
    IssuesOnly (fun p : Peer δ => p.query st) issued := by
  intro p q hpq
  show p.query st = q.query st
  unfold Peer.query
  rw [hpq st h]

theorem issuesOnly_queryOptional {st : Statement} (h : issued st) :
    IssuesOnly (fun p : Peer δ => p.queryOptional st) issued :=
  (issuesOnly_query h).bind fun _ => issuesOnly_const _

theorem issuesOnly_queryOne {st : Statement} (h : issued st) :
    IssuesOnly (fun p : Peer δ => p.queryOne st) issued :=
  (issuesOnly_queryOptional h).bind fun
    | some _ => issuesOnly_const _
    | none => issuesOnly_const _

theorem issuesOnly_findRecord (spec : TableSpec) {st : Option Statement}
    (h : ∀ s, st = some s → issued s) :
    IssuesOnly (fun p : Peer δ => p.findRecord spec st) issued := by
  cases st with
  | none => exact issuesOnly_const _
  | some s =>
      refine (issuesOnly_queryOptional (h s rfl)).bind fun row => ?_
      cases row with
      | none => exact issuesOnly_const _
      | some _ => exact issuesOnly_const _

/-! ## The operations of the store -/

namespace Store

variable (spec : TableSpec) (t : TableName)

theorem issuesOnly_count (f : Filter) (h : issued (.count spec t f)) :
    IssuesOnly (fun p : Peer δ => (Store.mk p spec).count t f) issued := by
  refine (issuesOnly_queryOne h).bind fun row => ?_
  cases Row.number? row with
  | none => exact issuesOnly_const _
  | some _ => exact issuesOnly_const _

theorem issuesOnly_paginate (d : Descriptor) :
    IssuesOnly (fun p : Peer δ => (Store.mk p spec).repository.paginate t d)
      (fun st => st = .count spec t d.filter ∨ st = .page spec t d) := by
  show IssuesOnly (fun p : Peer δ => onPeer do
    let total ← (Store.mk p spec).count t d.filter
    let reply ← p.query (.page spec t d)
    pure (Page.of d total (reply.rows.map (Row.read spec)))) _
  refine IssuesOnly.comp onPeer
    ((issuesOnly_count spec t d.filter (.inl rfl)).bind fun _ => ?_)
  exact (issuesOnly_query (.inr rfl)).bind fun _ => issuesOnly_const _

theorem issuesOnly_selectAll (f : Filter) (sorts : List SortTerm) :
    IssuesOnly (fun p : Peer δ =>
      (Store.mk p spec).repository.selectAll t f sorts)
      (· = .selectAll spec t f sorts) := by
  show IssuesOnly (fun p : Peer δ => onPeer do
    let reply ← p.query (.selectAll spec t f sorts)
    Action.lift (reply.rows.mapM (Row.record spec))) _
  refine IssuesOnly.comp onPeer (IssuesOnly.bind (issuesOnly_query ?_) fun _ =>
    issuesOnly_const _)
  rfl

theorem issuesOnly_deleteWhere (f : Filter) :
    IssuesOnly (fun p : Peer δ => (Store.mk p spec).repository.deleteWhere t f)
      (· = .deleteWhere spec t f) := by
  show IssuesOnly (fun p : Peer δ => onPeer do
    let reply ← p.query (.deleteWhere spec t f)
    pure reply.affected) _
  refine IssuesOnly.comp onPeer (IssuesOnly.bind (issuesOnly_query ?_) fun _ =>
    issuesOnly_const _)
  rfl

theorem issuesOnly_find (field value : String) :
    IssuesOnly (fun p : Peer δ =>
      (Store.mk p spec).repository.find t field value)
      (Statement.find? spec t field value = some ·) :=
  IssuesOnly.comp onPeer (issuesOnly_findRecord spec fun _ h => h)

theorem issuesOnly_transaction_find (field value : String) :
    IssuesOnly (fun p : Peer δ =>
      (Store.mk p spec).transaction.find t field value)
      (Statement.find? spec t field value = some ·) :=
  IssuesOnly.comp inWork (issuesOnly_findRecord spec fun _ h => h)

theorem issuesOnly_savedAs (r : Record) (row : Row) :
    IssuesOnly (fun p : Peer δ =>
      Action.lift ((Store.mk p spec).savedAs r row) (σ := σ)) issued :=
  fun _ _ _ => rfl

theorem issuesOnly_insert (r : Record) :
    IssuesOnly (fun p : Peer δ => (Store.mk p spec).transaction.insert t r)
      (Statement.insert spec t r.attributes = .ok ·) := by
  show IssuesOnly (fun p : Peer δ => inWork do
    let statement ← Action.lift (Statement.insert spec t r.attributes)
    let row ← asWrite (p.queryOne statement)
    Action.lift ((Store.mk p spec).savedAs r row)) _
  refine IssuesOnly.comp inWork (issuesOnly_lift_bind fun st hst => ?_)
  exact (IssuesOnly.comp asWrite (issuesOnly_queryOne hst)).bind
    (issuesOnly_savedAs spec r)

theorem issuesOnly_update (r : Record) :
    IssuesOnly (fun p : Peer δ => (Store.mk p spec).transaction.update t r)
      (fun st => ∃ id, r.id = some id ∧
        Statement.update spec t id r.changes = .ok st) := by
  show IssuesOnly (fun p : Peer δ => inWork ((Store.mk p spec).update t r)) _
  refine IssuesOnly.comp inWork ?_
  unfold update
  cases hid : r.id with
  | none => exact issuesOnly_const _
  | some id =>
      dsimp only
      split
      · exact issuesOnly_const _
      · refine issuesOnly_lift_bind fun st hst => ?_
        refine (IssuesOnly.comp asWrite
          (issuesOnly_queryOptional ⟨id, rfl, hst⟩)).bind fun row => ?_
        cases row with
        | none => exact issuesOnly_const _
        | some row => exact issuesOnly_savedAs spec r row

theorem issuesOnly_delete (r : Record) :
    IssuesOnly (fun p : Peer δ => (Store.mk p spec).transaction.delete t r)
      (fun st => ∃ id, r.id = some id ∧ st = .deleteRow t id) := by
  show IssuesOnly (fun p : Peer δ => inWork ((Store.mk p spec).delete t r)) _
  refine IssuesOnly.comp inWork ?_
  unfold delete
  cases hid : r.id with
  | none => exact issuesOnly_const _
  | some id => exact (issuesOnly_query ⟨id, rfl, rfl⟩).bind fun _ =>
      issuesOnly_const _

/-- What the store and its transactions ask about rows, each statement with a
placeholder for every parameter and no others. The values of a filter come first
and in the order of its clauses, then size and offset of a page; written columns
come in the order of the attributes, and the surrogate key last. -/
theorem statements_send_their_values {δ : Type} (spec : TableSpec)
    (t : TableName) :
    (∀ d : Descriptor,
      IssuesOnly (fun p : Peer δ => (Store.mk p spec).repository.paginate t d)
        (fun st => st = .count spec t d.filter ∨ st = .page spec t d) ∧
      (Statement.count spec t d.filter).Sends (filterParams spec d.filter)
        (.name t.physical :: filterRead spec d.filter) ∧
      (Statement.page spec t d).Sends
        (filterParams spec d.filter ++ pageParams d)
        ((selectedNames spec d.selected).map .name ++
          .name t.physical :: filterRead spec d.filter ++
          (orderNames spec d.sorts).map .name ++
          (pageParams d).map (.place ∘ some))) ∧
    (∀ (f : Filter) (sorts : List SortTerm),
      IssuesOnly (fun p : Peer δ =>
        (Store.mk p spec).repository.selectAll t f sorts)
        (· = .selectAll spec t f sorts) ∧
      (Statement.selectAll spec t f sorts).Sends (filterParams spec f)
        (.name t.physical :: filterRead spec f ++
          (orderNames spec sorts).map .name)) ∧
    (∀ f : Filter,
      IssuesOnly (fun p : Peer δ =>
        (Store.mk p spec).repository.deleteWhere t f)
        (· = .deleteWhere spec t f) ∧
      (Statement.deleteWhere spec t f).Sends (filterParams spec f)
        (.name t.physical :: filterRead spec f)) ∧
    (∀ field value : String,
      IssuesOnly (fun p : Peer δ =>
        (Store.mk p spec).repository.find t field value)
        (Statement.find? spec t field value = some ·) ∧
      IssuesOnly (fun p : Peer δ =>
        (Store.mk p spec).transaction.find t field value)
        (Statement.find? spec t field value = some ·) ∧
      ∀ st, Statement.find? spec t field value = some st →
        ∃ r, spec.columnRef? field = some r ∧
          st.Sends [textParameter value]
            [.name t.physical, .name r.column.name,
              .place (some (textParameter value)), .name idColumn]) ∧
    (∀ r : Record,
      IssuesOnly (fun p : Peer δ => (Store.mk p spec).transaction.insert t r)
        (Statement.insert spec t r.attributes = .ok ·) ∧
      ∀ st, Statement.insert spec t r.attributes = .ok st →
        ∃ written,
        List.Forall₂ (Writes spec)
          (r.attributes.filter (·.1 != idColumn)) written ∧
          st.Sends (written.map (·.2))
            (.name t.physical :: (written.map fun e => .name e.1.name) ++
              written.map fun e => .place (some e.2))) ∧
    (∀ r : Record,
      IssuesOnly (fun p : Peer δ => (Store.mk p spec).transaction.update t r)
        (fun st => ∃ id, r.id = some id ∧
          Statement.update spec t id r.changes = .ok st) ∧
      ∀ id st, Statement.update spec t id r.changes = .ok st →
        ∃ written,
          List.Forall₂ (Writes spec)
            ((r.changes.map fun c => (c.key, c.new)).filter (·.1 != idColumn))
            written ∧
          st.Sends (written.map (·.2) ++ [.integer (some id)])
            (.name t.physical ::
              (written.flatMap fun e => [.name e.1.name, .place (some e.2)]) ++
              (stampNames spec r.changes).map .name ++
              [.name idColumn, .place (some (.integer (some id)))])) ∧
    (∀ r : Record,
      IssuesOnly (fun p : Peer δ => (Store.mk p spec).transaction.delete t r)
        (fun st => ∃ id, r.id = some id ∧ st = .deleteRow t id) ∧
      ∀ id, (Statement.deleteRow t id).Sends [.integer (some id)]
        [.name t.physical, .name idColumn,
          .place (some (.integer (some id)))]) := by
  refine ⟨fun d =>
    ⟨issuesOnly_paginate spec t d, Statement.count_sends spec t d.filter,
      Statement.page_sends spec t d⟩,
    fun f sorts => ⟨issuesOnly_selectAll spec t f sorts,
      Statement.selectAll_sends spec t f sorts⟩,
    fun f =>
      ⟨issuesOnly_deleteWhere spec t f, Statement.deleteWhere_sends spec t f⟩,
    fun field value => ⟨issuesOnly_find spec t field value,
      issuesOnly_transaction_find spec t field value, fun _ h =>
        Statement.find_sends h⟩,
    fun r => ⟨issuesOnly_insert spec t r, fun _ h => Statement.insert_sends h⟩,
    fun r =>
      ⟨issuesOnly_update spec t r, fun _ _ h => Statement.update_sends h⟩,
    fun r =>
      ⟨issuesOnly_delete spec t r, fun id => Statement.deleteRow_sends t id⟩⟩

/-- A clause on an unknown column takes no number, and a dollar sign in a value
is no placeholder. The time of an update stands between numbered parameters. -/
theorem orders_are_bound_in_order :
    let t : TableName := ⟨"acme", "orders", by decide, by decide⟩
    let d : Descriptor :=
      { selected := ["uid"]
        filter := ⟨[[⟨"nosuch", .eq, .single "1", false, .and⟩,
            ⟨"id", .between, .list ["1", "9"], false, .or⟩],
          [⟨"data.note", .startsWith, .single "a$9", false, .and⟩]]⟩
        sorts := [], page := 3, pageSize := 15, isDelete := false }
    (Statement.page .default t d).params =
        [.text (some "1"), .text (some "9"), .text (some "a$9%"),
          .integer (some 15), .integer (some 30)] ∧
      (Sql.tokens (Statement.page .default t d).sql).map
          (Token.map (Statement.page .default t d).param?) =
        [.name "uid", .name "acme$orders", .name "id",
          .place (some (.text (some "1"))), .place (some (.text (some "9"))),
          .name "data", .place (some (.text (some "a$9%"))), .name "id",
          .place (some (.integer (some 15))),
          .place (some (.integer (some 30)))] ∧
      (∃ st, Statement.find? .default t "uid" "a" = some st ∧
        st.params = [.text (some "a")]) ∧
      (∃ st, Statement.insert .default t
        [("id", .int 4), ("uid", .str "a"), ("data", .null)] =
          .ok st ∧ st.params.length = 2 ∧ st.Numbered) ∧
      ∃ st,
        Statement.update .default t 7 [⟨"uid", .str "a", .str "b"⟩] = .ok st ∧
        st.params.length = 2 ∧ st.Numbered := by
  intro t d
  obtain ⟨hpage, -, -, hfind, hinsert, hupdate, -⟩ :=
    statements_send_their_values (δ := Unit) .default t
  have hsent := (hpage d).2.2
  refine ⟨hsent.params.trans rfl, hsent.read.trans rfl, ?_, ?_, ?_⟩
  · obtain ⟨r, -, hsends⟩ := (hfind "uid" "a").2.2 _ rfl
    exact ⟨_, rfl, hsends.params⟩
  · obtain ⟨written, -, hsends⟩ :=
      (hinsert ⟨none, [("id", .int 4), ("uid", .str "a"), ("data", .null)], [],
        true⟩).2 _ rfl
    exact ⟨_, rfl, rfl, hsends.numbered⟩
  · obtain ⟨written, -, hsends⟩ :=
      (hupdate ⟨some 7, [("uid", .str "b")], [("uid", .str "a")],
        true⟩).2 7 _ rfl
    exact ⟨_, rfl, rfl, hsends.numbered⟩

end Store

end TenantTables.Postgres
