import Mathlib.Data.List.Basic
import Mathlib.Data.List.Induction
import TenantTables.FieldRule

/-!
# What the rules of a row find wrong

Declarations are gone through in order, and each that finds something wrong sets
the messages of its path. A path may be declared more than once: then a later
declaration replaces what an earlier one has found, but only if it finds
something itself. So there are messages under a path exactly if some declaration
for it is broken, and none at all exactly if the row `Passes`.
-/

namespace TenantTables

open Json (Value Object)

theorem FieldMessages.lookup_insert (messages : FieldMessages) (field : String)
    (texts : List String) (path : String) :
    (messages.insert field texts).lookup path =
      if path == field then some texts else messages.lookup path := by
  induction messages with
  | nil => cases h : path == field <;> simp [insert, List.lookup_cons, h]
  | cons entry rest ih =>
      obtain ⟨f, m⟩ := entry
      rw [insert]
      split
      · next hf =>
          obtain rfl := eq_of_beq hf
          cases h : path == field <;> simp [List.lookup_cons, h]
      · next hf =>
          split
          · cases h : path == field <;> simp [List.lookup_cons, h]
          · rw [List.lookup_cons, List.lookup_cons, ih]
            cases hpath : path == f with
            | false => rfl
            | true =>
                obtain rfl := eq_of_beq hpath
                have hne : (path == field) = false :=
                  beq_false_of_ne (by rintro rfl; simp at hf)
                rw [hne]
                rfl

namespace FieldRules

variable {rules : FieldRules} {row : Object} {path : String}

/-- Every declared rule holds of the value at its path. -/
def Passes (rules : FieldRules) (row : Object) : Prop :=
  ∀ field ∈ rules.fields, ∀ rule ∈ field.2,
    rule.holds (Path.get? row field.1) = true

instance (rules : FieldRules) (row : Object) : Decidable (rules.Passes row) :=
  inferInstanceAs (Decidable (∀ field ∈ rules.fields, ∀ rule ∈ field.2,
    rule.holds (Path.get? row field.1) = true))

/-- What the declarations for a path find wrong, each that finds something. -/
def findings (rules : FieldRules) (row : Object)
    (path : String) : List (List String) :=
  ((rules.fields.filter (·.1 == path)).map fun field =>
    broken path field.2 (Path.get? row path)).filter fun texts => !texts.isEmpty

/-- Under each path are the messages of the last declaration that
finds something. -/
theorem lookup_validate (rules : FieldRules) (row : Object) (path : String) :
    (rules.validate row).lookup path = (rules.findings row path).getLast? := by
  obtain ⟨fields⟩ := rules
  induction fields using List.reverseRecOn with
  | nil => rfl
  | append_singleton fields field ih =>
      obtain ⟨name, fieldRules⟩ := field
      have hstep : validate ⟨fields ++ [(name, fieldRules)]⟩ row =
          if (broken name fieldRules (Path.get? row name)).isEmpty then
            validate ⟨fields⟩ row
          else (validate ⟨fields⟩ row).insert name
            (broken name fieldRules (Path.get? row name)) :=
        List.foldl_concat _ _ _ _
      rw [hstep]
      simp only [findings, List.filter_append, List.map_append] at ih ⊢
      by_cases hname : path = name
      · subst hname
        cases htexts : (broken path fieldRules (Path.get? row path)).isEmpty
          with
        | true => simp [htexts, ih]
        | false => simp [htexts, FieldMessages.lookup_insert]
      · have hskip : (name == path) = false := beq_false_of_ne (Ne.symm hname)
        split <;> simp [hskip, ih, FieldMessages.lookup_insert, hname]

theorem broken_eq_nil_iff {fieldRules : List FieldRule} {v : Option Value} :
    broken path fieldRules v = [] ↔ ∀ rule ∈ fieldRules,
      rule.holds v = true := by
  simp [broken]

theorem validate_eq_nil_iff : rules.validate row = [] ↔ rules.Passes row := by
  have hempty : rules.validate row = [] ↔ ∀ path,
      (rules.validate row).lookup path = none := by
    rcases rules.validate row with _ | ⟨⟨path, texts⟩, rest⟩
    · simp
    · refine iff_of_false (List.cons_ne_nil _ _) fun h => ?_
      simpa using h path
  simp only [hempty, lookup_validate, List.getLast?_eq_none_iff, Passes,
    findings, List.filter_eq_nil_iff, List.forall_mem_map, List.mem_filter,
    Bool.not_eq_true', Bool.not_eq_false, List.isEmpty_iff, broken_eq_nil_iff]
  refine ⟨fun h field hfield =>
    h field.1 field ⟨hfield, beq_self_eq_true _⟩, ?_⟩
  rintro h path field ⟨hfield, hpath⟩
  obtain rfl := eq_of_beq hpath
  exact h field hfield

end FieldRules

end TenantTables
