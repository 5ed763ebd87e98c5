import TenantTables.Proofs.PathReading
import TenantTables.Proofs.RuleMessages

/-!
# Rules, held against the flat row and against the nested one

Rules are held against a row as it comes in, with its dotted keys, and what is
stored is the row nested. The two readings differ where one key is read and a
later one writes over it, so a row may pass its rules and be stored with a value
that breaks them. This happens for some values whenever it can be told from the
keys: `ReadsAlike` at every declared path is all that keeps the readings equal.
-/

namespace TenantTables.FieldRules

open Json (Value Object)
open TenantTables.Path (ReadsAlike lastMeeting? readKey?)

variable {rules : FieldRules} {row other : Object} {keys : List String}
  {path : String}

/-- Only the values at the declared paths are looked at. -/
theorem check_congr
    (h : ∀ field ∈ rules.fields, Path.get? row field.1 =
      Path.get? other field.1) :
    rules.check row = rules.check other := by
  have hvalidate : rules.validate row = rules.validate other := by
    unfold validate
    refine List.foldl_ext _ _ _ fun messages field hfield => ?_
    simp only [h field hfield]
  unfold check
  rw [hvalidate]

theorem check_eq_ok_iff :
    rules.check row = .ok () ↔ rules.validate row = [] := by
  unfold check
  cases rules.validate row with
  | nil => simp
  | cons _ _ => simp

/-- One rule for one path. -/
theorem check_single_eq_ok_iff (rule : FieldRule) :
    check ⟨[(path, [rule])]⟩ row = .ok () ↔
      rule.holds (Path.get? row path) = true := by
  rw [check_eq_ok_iff, validate_eq_nil_iff]
  simp [Passes]

/-- A row with given keys that has a text at a path. Below every other key there
is a number, wherever the path may lead. -/
def textAt (keys : List String) (path : String) : Object :=
  keys.map fun k =>
    (k, Path.nest ((Text.split '.' path).drop (Text.split '.' k).length)
      (if readKey? keys path = some k then .str "" else .int 0))

theorem keys_textAt (keys : List String) (path : String) :
    (textAt keys path).keys = keys := by
  rw [Object.keys, textAt, List.map_map]
  exact List.map_id keys

theorem eq_of_mem_textAt {k : String} {v : Value} {steps : List String}
    (h : (k, v) ∈ textAt keys path)
    (hsteps : Text.split '.' path = Text.split '.' k ++ steps) :
    v = Path.nest steps (if readKey? keys path = some k then .str ""
      else .int 0) := by
  obtain ⟨k', -, heq⟩ := List.mem_map.1 h
  obtain ⟨rfl, rfl⟩ := Prod.mk.inj heq
  rw [hsteps, List.drop_left]

theorem string_holds_textAt (hkeys : keys.Nodup) :
    FieldRule.string.holds (Path.get? (textAt keys path) path) = true := by
  have hnodup : (textAt keys path).keys.Nodup := by
    rw [keys_textAt]
    exact hkeys
  cases hread : readKey? keys path with
  | none =>
      rw [Path.get?_of_readKey?_none (by rw [keys_textAt, hread])]
      rfl
  | some k =>
      obtain ⟨hk, steps, hsteps⟩ := Path.split_of_readKey? hread
      rw [← keys_textAt keys path] at hk
      obtain ⟨v, hv⟩ := Object.mem_keys_iff.1 hk
      have hmem : (k, v) ∈ textAt keys path := by
        obtain ⟨before, after, heq, -⟩ := List.lookup_eq_some_iff.1 hv
        rw [heq]
        simp
      rw [Path.get?_of_readKey? (by rw [keys_textAt, hread]) hsteps hv,
        eq_of_mem_textAt hmem hsteps, if_pos hread, Path.getAt_nest]
      rfl

/-- Where another key writes last, the nested row has no text. -/
theorem not_string_holds_undot_textAt (h : ¬ ReadsAlike keys path) :
    FieldRule.string.holds
      (Path.get? (Path.undot (textAt keys path)) path) = false := by
  cases hlast : lastMeeting? keys path with
  | none =>
      -- then the key that is read does not write there either, so there is none
      cases hread : readKey? keys path with
      | none => exact absurd (hlast.trans hread.symm) h
      | some k =>
          have hnone : ∀ key ∈ keys, ¬ Path.Meets key path := by
            simpa [lastMeeting?] using hlast
          exact absurd (Path.meets_of_readKey? hread)
            (hnone k (Path.split_of_readKey? hread).1)
  | some k =>
      have hne : readKey? keys path ≠ some k :=
        fun heq => h (hlast.trans heq.symm)
      obtain ⟨hmeets, earlier, v, hv, hread⟩ :=
        Path.get?_undot_of_some (o := textAt keys path)
          (by rw [keys_textAt, hlast])
      rw [hread]
      by_cases hbelow : Text.split '.' k <+: Text.split '.' path
      · obtain ⟨steps, hsteps⟩ := hbelow
        rw [eq_of_mem_textAt hv hsteps.symm, if_neg hne, ← hsteps, Path.set,
          Path.getAt_setAt_append _ (Text.split_ne_nil '.' k), Path.getAt_nest]
        rfl
      · have hpassed := hmeets.resolve_left hbelow
        obtain ⟨fields, hfields⟩ := Path.getAt_setAt_of_passed earlier hpassed
          (fun heq => hbelow (heq ▸ List.prefix_rfl)) v
        rw [Path.set, hfields]
        rfl

/-- A row whose declared paths read alike passes its rules nested if and
only if it passes them flat, with the same messages otherwise. For keys and
a path that do not read alike there is a row that passes a rule and breaks
it once nested. -/
theorem nested_row_is_held_to_its_rules :
    (∀ (rules : FieldRules) (inputs : Object), inputs.keys.Nodup →
      (∀ field ∈ rules.fields, ReadsAlike inputs.keys field.1) →
        rules.check (Path.undot inputs) = rules.check inputs) ∧
    (∀ (keys : List String) (path : String), keys.Nodup →
      ¬ ReadsAlike keys path → ∃ (rules : FieldRules) (inputs : Object),
        rules.fields.map (·.1) = [path] ∧ inputs.keys = keys ∧
          rules.check inputs = .ok () ∧
          rules.check (Path.undot inputs) ≠ .ok ()) := by
  constructor
  · intro rules inputs hnodup halike
    exact check_congr fun field hfield =>
      Path.get?_undot hnodup (halike field hfield)
  · intro keys path hkeys halike
    refine ⟨⟨[(path, [.string])]⟩, textAt keys path, rfl,
      keys_textAt keys path, ?_, ?_⟩
    · exact (check_single_eq_ok_iff .string).2 (string_holds_textAt hkeys)
    · rw [ne_eq, check_single_eq_ok_iff, not_string_holds_undot_textAt halike]
      exact Bool.false_ne_true

/-- A dotted key in front of the object that it leads into is lost. -/
theorem quantity_passes_and_is_overwritten :
    ¬ ∀ (rules : FieldRules) (inputs : Object), inputs.keys.Nodup →
      rules.check inputs = .ok () →
      rules.check (Path.undot inputs) = .ok () := by
  intro h
  have hnested := h ⟨[("data.qty", [.integer])]⟩
    [("data.qty", .int 5), ("data", .obj [("qty", .str "many")])]
    (by decide) rfl
  exact absurd ((check_single_eq_ok_iff .integer).1 hnested) (by decide)

/-- Behind the object the dotted key writes into it, and is what
both rows read. -/
theorem quantity_behind_its_object_is_kept :
    let rules : FieldRules :=
      ⟨[("uid", [.required]), ("data.qty", [.required, .integer]),
        ("data.color", [.string])]⟩
    let inputs : Object :=
      [("uid", .str "a1"),
        ("data", .obj [("qty", .str "many"), ("color", .str "red")]),
        ("data.qty", .int 5)]
    Path.undot inputs =
        [("uid", .str "a1"),
          ("data", .obj [("qty", .int 5), ("color", .str "red")])] ∧
      rules.check inputs = .ok () ∧ rules.check (Path.undot inputs) = .ok () ∧
      ∃ (rules : FieldRules) (inputs : Object),
        rules.fields.map (·.1) = ["data.qty"] ∧
          inputs.keys = ["data.qty", "data"] ∧
          rules.check inputs = .ok () ∧
          rules.check (Path.undot inputs) ≠ .ok () := by
  intro rules inputs
  have hflat : rules.check inputs = .ok () := rfl
  have hnested :=
    nested_row_is_held_to_its_rules.1 rules inputs (by decide) (by decide)
  exact ⟨rfl, hflat, hnested.trans hflat,
    nested_row_is_held_to_its_rules.2 _ _ (by decide) (by decide)⟩

end TenantTables.FieldRules
