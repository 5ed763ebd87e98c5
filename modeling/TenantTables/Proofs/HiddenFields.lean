import Mathlib.Data.List.Forall2
import TenantTables.Proofs.AuditTrail
import TenantTables.Proofs.StoreInvariant

/-!
# What hidden fields leave to see

A policy conceals the values of hidden attributes in change logs. The question
is what an observer of events can tell about them, which takes two runs: two
records that differ in hidden values only, told at the same time of the same
request. Nothing that comes from the log differs, and neither does the path,
which is made from the identifier. The events differ in one field at most, the
record itself, which is no log and is told as it is.
-/

namespace TenantTables

open Json (Value Object)

/-! ## Records and logs that differ in hidden values -/

/-- Two changes of one attribute, which differ only if it is hidden. -/
structure Change.AlikeBut (hidden : List String) (c c' : Change) : Prop where
  key : c.key = c'.key
  visible : c.key ∉ hidden → c = c'

/-- Two records with the same keys, which differ only in hidden attributes. -/
structure Record.AlikeBut (hidden : List String) (r r' : Record) : Prop where
  id : r.id = r'.id
  keys : ∀ k, k ∈ r.attributes.keys ↔ k ∈ r'.attributes.keys
  visible : ∀ k, k ∉ hidden → r.attributes.get? k = r'.attributes.get? k

/-- Attributes as they stand in a record: no key is repeated, and none is the
surrogate key. -/
structure Record.Plain (r : Record) : Prop where
  nodup : r.attributes.keys.Nodup
  id_not_mem : idColumn ∉ r.attributes.keys

namespace Record

variable {hidden : List String} {r r' : Record}

theorem Plain.toObject_eq (h : r.Plain) :
    r.toObject =
      (idColumn, (r.id.elim .null .int : Value)) :: r.attributes := by
  unfold toObject
  rw [Object.insertAll_of_nodup]
  · cases r.id <;> rfl
  · exact List.nodup_cons.2 ⟨h.id_not_mem, h.nodup⟩

theorem AlikeBut.toJson_eq_iff (h : r.AlikeBut hidden r') (hr : r.Plain)
    (hr' : r'.Plain) :
    r.toJson = r'.toJson ↔ r.attributes.keys = r'.attributes.keys ∧
      ∀ k ∈ hidden, r.attributes.get? k = r'.attributes.get? k := by
  have hattributes : r.toJson = r'.toJson ↔ r.attributes = r'.attributes := by
    simp [toJson, hr.toObject_eq, hr'.toObject_eq, h.id]
  rw [hattributes]
  constructor
  · intro heq
    rw [heq]
    exact ⟨rfl, fun _ _ => rfl⟩
  · rintro ⟨hkeys, hvalues⟩
    refine Object.eq_of_keys_of_get? hr.nodup hkeys fun k => ?_
    by_cases hk : k ∈ hidden
    · exact hvalues k hk
    · exact h.visible k hk

theorem AlikeBut.uid?_eq (h : r.AlikeBut hidden r') {field : String}
    (hfield : field ∉ hidden) :
    r.uid? field = r'.uid? field := by
  simp only [uid?, h.visible field hfield]

end Record

namespace Audit

theorem Policy.mask_eq {p : Policy} {log log' : List Change}
    (h : List.Forall₂ (Change.AlikeBut p.hiddenFields) log log') :
    p.mask log = p.mask log' := by
  unfold Policy.mask
  induction h with
  | nil => rfl
  | @cons c c' log log' hc _ ih =>
      have hmask : p.maskChange c = p.maskChange c' := by
        by_cases hk : c.key ∈ p.hiddenFields
        · simp [Policy.maskChange, hc.key ▸ hk, hc.key]
        · rw [hc.visible hk]
      rw [List.map_cons, List.map_cons, hmask, ih]

/-- Of two records that differ in hidden values only, with logs that do, either
none is told of or both are, under one path and with one body up to `model`.
There each stands as it is, so the events are the same only if the hidden values
and the order of the keys are. -/
theorem alike_records_differ_in_model {a : Auditor} {r r' : Record}
    {log log' : List Change} (hfield : a.idField ∉ a.policy.hiddenFields)
    (hr : r.AlikeBut a.policy.hiddenFields r') (hplain : r.Plain)
    (hplain' : r'.Plain)
    (hlog : List.Forall₂ (Change.AlikeBut a.policy.hiddenFields) log log')
    (t : TableName) (act : Act) (now : Time.Instant) :
    (a.recordEvent? t act r log now = none ∧
      a.recordEvent? t act r' log' now = none) ∨
      ∃ path fields, "model" ∉ Object.keys fields ∧
        a.recordEvent? t act r log now =
          some ⟨path, .obj (fields ++ [("model", r.toJson)])⟩ ∧
        a.recordEvent? t act r' log' now =
          some ⟨path, .obj (fields ++ [("model", r'.toJson)])⟩ ∧
        (r.toJson = r'.toJson ↔ r.attributes.keys = r'.attributes.keys ∧
          ∀ k ∈ a.policy.hiddenFields,
          r.attributes.get? k = r'.attributes.get? k) := by
  have huid : r.uid? a.idField = r'.uid? a.idField := hr.uid?_eq hfield
  cases hkey' : r'.id with
  | none =>
      have hkey : r.id = none := hr.id.trans hkey'
      exact .inl (by simp [Auditor.recordEvent?, hkey, hkey'])
  | some id =>
      have hkey : r.id = some id := hr.id.trans hkey'
      cases huid' : r'.uid? a.idField with
      | none =>
          rw [huid'] at huid
          exact .inl (by simp [Auditor.recordEvent?, hkey, hkey', huid, huid'])
      | some uid =>
          rw [huid'] at huid
          refine .inr ⟨recordPath t uid,
            a.body t act (a.policy.mask log') now ++
              [("uid", .str uid), ("model_id", .int id)], ?_, ?_, ?_, ?_⟩
          · simp [Auditor.body, Object.keys]
          · rw [Auditor.recordEvent?_eq_some hkey huid, Auditor.eventAbout,
              Policy.mask_eq hlog]
            simp
          · rw [Auditor.recordEvent?_eq_some hkey' huid', Auditor.eventAbout]
            simp
          · exact hr.toJson_eq_iff hplain hplain'

/-- An auditor that conceals one attribute. -/
def concealing : Auditor :=
  ⟨{ Policy.disabled with hiddenFields := ["private"] }, "shop", "uid",
    .of "post" "/"⟩

/-- An order with a note, and the change that wrote it. -/
def noted (note : String) : Record × List Change :=
  (⟨some 1, [("uid", .str "a"), ("private", .str note)], [], true⟩,
    [⟨"private", .null, .str note⟩])

theorem noted_alike (note note' : String) :
    (noted note).1.AlikeBut ["private"] (noted note').1 := by
  refine ⟨rfl, fun k => Iff.rfl, fun k hk => ?_⟩
  have hne : k ≠ "private" := by simpa using hk
  simp [noted, Object.get?, List.lookup_cons, beq_false_of_ne hne]

theorem noted_plain (note : String) : (noted note).1.Plain :=
  ⟨(by decide : ["uid", "private"].Nodup),
    (by decide : idColumn ∉ ["uid", "private"])⟩

theorem noted_log_alike (note note' : String) :
    List.Forall₂ (Change.AlikeBut ["private"]) (noted note).2 (noted note').2 :=
  .cons ⟨rfl, fun hk => absurd List.mem_cons_self hk⟩ .nil

theorem notes_conceal_but_model :
    concealing.recordEvent? Memory.Store.ordersOfAcme .update (noted "x").1
      (noted "x").2 ⟨0, 0⟩ ≠
        none ∧
      ∃ path fields, "model" ∉ Object.keys fields ∧
        ∀ note ∈ ["x", "y"],
          concealing.recordEvent? Memory.Store.ordersOfAcme .update
          (noted note).1 (noted note).2 ⟨0, 0⟩ =
            some ⟨path,
              .obj (fields ++ [("model", (noted note).1.toJson)])⟩ := by
  obtain ⟨hnone, -⟩ | ⟨path, fields, hmodel, hx, hy, -⟩ :=
    alike_records_differ_in_model (a := concealing) (by decide)
      (noted_alike "x" "y") (noted_plain "x") (noted_plain "y")
      (noted_log_alike "x" "y") Memory.Store.ordersOfAcme .update ⟨0, 0⟩
  · cases hnone
  · refine ⟨by simp [hx], path, fields, hmodel, ?_⟩
    simp [hx, hy]

/-- The events about two orders that differ in a hidden note
are not the same. -/
theorem hidden_note_stands_in_model :
    "uid" ∉ ["private"] ∧ (noted "x").1.AlikeBut ["private"] (noted "y").1 ∧
      List.Forall₂ (Change.AlikeBut ["private"]) (noted "x").2 (noted "y").2 ∧
      concealing.recordEvent? Memory.Store.ordersOfAcme .update (noted "x").1
        (noted "x").2 ⟨0, 0⟩ ≠
        concealing.recordEvent? Memory.Store.ordersOfAcme .update (noted "y").1
          (noted "y").2 ⟨0, 0⟩ := by
  refine ⟨by decide, noted_alike "x" "y", noted_log_alike "x" "y",
    fun heq => ?_⟩
  have huid : ∀ note, (noted note).1.uid? "uid" = some "a" := fun _ => rfl
  rw [Auditor.recordEvent?_eq_some rfl (huid "x"),
    Auditor.recordEvent?_eq_some rfl (huid "y")]
    at heq
  simp only [Auditor.eventAbout, Option.some.injEq, Event.mk.injEq,
    Value.obj.injEq] at heq
  have hmodel : (noted "x").1.toJson = (noted "y").1.toJson := by
    simpa using (List.append_inj' heq.2 rfl).2
  obtain ⟨-, hvalues⟩ :=
    ((noted_alike "x" "y").toJson_eq_iff (noted_plain "x")
      (noted_plain "y")).1 hmodel
  simpa [noted, Object.get?, List.lookup_cons]
    using hvalues "private" (by decide)

end Audit

end TenantTables
