import TenantTables.Proofs.RuleMessages
import TenantTables.Proofs.TextOrder

/-!
# Which broken rules are reported

Every declaration for a path is checked, but the messages of a path are those of
one declaration: what a later one finds takes the place of what an earlier one
has found. No path is left out by that, and none is made up. Messages are: of a
path for which two declarations find something, only the last ones are reported,
and the row has to be corrected once for each.
-/

namespace TenantTables

open Json (Object)

namespace FieldMessages

variable {messages : FieldMessages} {field : String} {texts : List String}

/-- Fields are in ascending order, and so each occurs once. -/
def Ascending (messages : FieldMessages) : Prop :=
  messages.Pairwise fun a b => Text.order a.1 b.1 = .lt

theorem mem_of_mem_insert {entry : String × List String}
    (h : entry ∈ messages.insert field texts) :
    entry = (field, texts) ∨ entry ∈ messages := by
  induction messages with
  | nil => exact .inl (List.mem_singleton.1 h)
  | cons head rest ih =>
      rw [insert] at h
      split at h
      · exact (List.mem_cons.1 h).imp_right (List.mem_cons_of_mem _)
      · split at h
        · exact List.mem_cons.1 h
        · rcases List.mem_cons.1 h with rfl | hrest
          · exact .inr List.mem_cons_self
          · exact (ih hrest).imp_right (List.mem_cons_of_mem _)

theorem Ascending.insert (h : messages.Ascending) (field : String)
    (texts : List String) : (messages.insert field texts).Ascending := by
  induction messages with
  | nil => exact List.pairwise_singleton _ _
  | cons head rest ih =>
      obtain ⟨hhead, hrest⟩ := List.pairwise_cons.1 h
      rw [FieldMessages.insert]
      split
      · next heq =>
          obtain rfl := eq_of_beq heq
          exact List.pairwise_cons.2 ⟨hhead, hrest⟩
      · next hne =>
          split
          · next hlt =>
              refine List.pairwise_cons.2 ⟨fun entry hentry => ?_, h⟩
              rcases List.mem_cons.1 hentry with rfl | hmem
              · exact hlt
              · exact Std.TransCmp.lt_trans hlt (hhead entry hmem)
          · next hnotlt =>
              -- Neither equal nor in front of the head, so behind it.
              have hbehind : Text.order head.1 field = .lt := by
                rw [Text.order_swap]
                cases horder : Text.order field head.1 with
                | lt => exact absurd horder hnotlt
                | eq =>
                    exact absurd (beq_iff_eq.2 (Text.order_eq_iff.1 horder)) hne
                | gt => rfl
              refine List.pairwise_cons.2 ⟨fun entry hentry => ?_, ih hrest⟩
              rcases mem_of_mem_insert hentry with rfl | hmem
              · exact hbehind
              · exact hhead entry hmem

theorem Ascending.mem_iff_lookup (h : messages.Ascending) :
    (field, texts) ∈ messages ↔ messages.lookup field = some texts := by
  induction messages with
  | nil => simp
  | cons head rest ih =>
      obtain ⟨f, m⟩ := head
      obtain ⟨hhead, hrest⟩ := List.pairwise_cons.1 h
      rw [List.mem_cons, List.lookup_cons, Prod.mk.injEq]
      by_cases heq : field = f
      · subst heq
        have habsent : (field, texts) ∉ rest := by
          intro hmem
          have hself := hhead _ hmem
          rw [Text.order_eq_iff.2 rfl] at hself
          cases hself
        simp [habsent, eq_comm]
      · simp [heq, ih hrest, beq_false_of_ne heq]

end FieldMessages

namespace FieldRules

variable {rules : FieldRules} {row : Object} {path : String}
  {texts : List String}

/-- The rules of all declarations for a path, in the order of declaration. -/
def declaredFor (rules : FieldRules) (path : String) : List FieldRule :=
  (rules.fields.filter (·.1 == path)).flatMap (·.2)

/-- The messages of all rules declared for a path that a row breaks. -/
def complaints (rules : FieldRules) (row : Object)
    (path : String) : List String :=
  broken path (rules.declaredFor path) (Path.get? row path)

/-- Every broken rule is reported, under its path and in the order of
declaration, and nothing else. -/
def ReportsAll (rules : FieldRules) (row : Object) : Prop :=
  ∀ path texts, (path, texts) ∈ rules.validate row ↔
    texts = rules.complaints row path ∧ texts ≠ []

theorem broken_flatMap (path : String)
    (declared : List (String × List FieldRule)) (v : Option Json.Value) :
    broken path (declared.flatMap (·.2)) v =
      declared.flatMap fun field => broken path field.2 v := by
  simp only [broken, List.filter_flatMap, List.map_flatMap]

/-- All complaints about a path are those of one declaration after the other. -/
theorem complaints_eq_flatten (rules : FieldRules) (row : Object)
    (path : String) :
    rules.complaints row path = (rules.findings row path).flatten := by
  rw [complaints, declaredFor, broken_flatMap, findings,
    List.flatten_filter_not_isEmpty, List.flatMap_def]

theorem ne_nil_of_mem_findings
    (h : texts ∈ rules.findings row path) : texts ≠ [] := by
  have hfound := (List.mem_filter.1 h).2
  rintro rfl
  cases hfound

/-- Lists of messages with something in each leave nothing only if
there are none. -/
theorem flatten_eq_nil_iff {found : List (List String)}
    (h : ∀ texts ∈ found, texts ≠ []) :
    found.flatten = [] ↔ found = [] := by
  rw [List.flatten_eq_nil_iff, List.eq_nil_iff_forall_not_mem]
  exact forall_congr' fun texts =>
    ⟨fun hnil hmem => h texts hmem (hnil hmem), fun hnot hmem =>
      absurd hmem hnot⟩

theorem ascending_validate (rules : FieldRules) (row : Object) :
    (rules.validate row).Ascending := by
  refine List.foldlRecOn (motive := FieldMessages.Ascending) rules.fields _
    List.Pairwise.nil fun messages h field _ => ?_
  dsimp only
  split
  · exact h
  · exact h.insert _ _

theorem mem_validate_iff :
    (path, texts) ∈ rules.validate row ↔
      (rules.findings row path).getLast? = some texts := by
  rw [(ascending_validate rules row).mem_iff_lookup, lookup_validate]

theorem exists_mem_validate_iff :
    (∃ texts, (path, texts) ∈ rules.validate row) ↔
      rules.complaints row path ≠ [] := by
  simp only [mem_validate_iff, ← Option.isSome_iff_exists,
    List.getLast?_isSome, ne_eq, complaints_eq_flatten,
    flatten_eq_nil_iff fun _ => ne_nil_of_mem_findings]

/-- What is reported is the end of what there is to complain about. -/
theorem suffix_complaints (h : (path, texts) ∈ rules.validate row) :
    texts <:+ rules.complaints row path := by
  obtain ⟨earlier, hfindings⟩ :=
    List.getLast?_eq_some_iff.1 (mem_validate_iff.1 h)
  rw [complaints_eq_flatten, hfindings, List.flatten_concat]
  exact List.suffix_append _ _

/-- If no two declarations find something, nothing takes the
place of anything. -/
theorem reported_of_length_le_one (h : (rules.findings row path).length ≤ 1)
    (texts : List String) :
    (path, texts) ∈ rules.validate row ↔
      texts = rules.complaints row path ∧ texts ≠ [] := by
  rw [mem_validate_iff, complaints_eq_flatten]
  match hfindings : rules.findings row path, h with
  | [], _ => simp
  | [found], _ =>
      have hne : found ≠ [] :=
        ne_nil_of_mem_findings (hfindings ▸ List.mem_cons_self)
      simp only [List.getLast?_singleton, Option.some.injEq,
        List.flatten_singleton]
      exact ⟨fun heq => ⟨heq.symm, heq ▸ hne⟩, fun heq => heq.1.symm⟩

/-- What an earlier declaration has found is missing behind a later one. -/
theorem length_le_one_of_reported
    (h : ∀ texts, (path, texts) ∈ rules.validate row ↔
      texts = rules.complaints row path ∧ texts ≠ []) :
    (rules.findings row path).length ≤ 1 := by
  rcases List.eq_nil_or_concat (rules.findings row path)
    with hnil | ⟨earlier, last, hfindings⟩
  · simp [hnil]
  · rw [List.concat_eq_append] at hfindings
    have hlast : last = (rules.findings row path).flatten := by
      rw [← complaints_eq_flatten]
      refine ((h last).1 (mem_validate_iff.2 ?_)).1
      rw [hfindings, List.getLast?_concat]
    have hearlier : ∀ texts ∈ earlier, texts ≠ [] := fun texts hmem =>
      ne_nil_of_mem_findings (hfindings ▸ List.mem_append_left [last] hmem)
    rw [hfindings, List.flatten_concat, List.self_eq_append_left,
      flatten_eq_nil_iff hearlier]
      at hlast
    simp [hfindings, hlast]

/-- The messages are in ascending order of the paths, each path occurring once.
A path has messages exactly if some rule declared for it is broken, and they are
the last of those that are due. All that are due are reported exactly if no path
has two declarations that find something. -/
theorem every_broken_rule_is_reported_iff (rules : FieldRules) (row : Object) :
    (rules.validate row).Ascending ∧
      (∀ path, (∃ texts, (path, texts) ∈ rules.validate row) ↔
        rules.complaints row path ≠ []) ∧
      (∀ path texts, (path, texts) ∈ rules.validate row →
        texts <:+ rules.complaints row path) ∧
      (rules.ReportsAll row ↔ ∀ path, (rules.findings row path).length ≤ 1) :=
  ⟨ascending_validate rules row, fun _ => exists_mem_validate_iff, fun _ _ =>
    suffix_complaints,
    fun h path => length_le_one_of_reported (h path),
    fun h path => reported_of_length_le_one (h path)⟩

/-- Quantities have to be integers, and a later declaration says which. -/
def quantityTwice : FieldRules :=
  (empty.declare "qty" [.integer]).declare "qty" [.oneOf ["1", "2", "3"]]

/-- A text is neither, and only one of the two is reported. -/
theorem second_declaration_hides_the_first :
    quantityTwice.complaints [("qty", .str "many")] "qty" =
        ["The qty must be an integer.", "The selected qty is invalid."] ∧
      quantityTwice.validate [("qty", .str "many")] =
        [("qty", ["The selected qty is invalid."])] ∧
      ¬ ∀ (rules : FieldRules) (row : Object), rules.ReportsAll row := by
  have hdue : quantityTwice.complaints [("qty", .str "many")] "qty" =
      ["The qty must be an integer.", "The selected qty is invalid."] := by
        decide +kernel
  have hreported : quantityTwice.validate [("qty", .str "many")] =
      [("qty", ["The selected qty is invalid."])] := by decide +kernel
  refine ⟨hdue, hreported, fun hall => ?_⟩
  have hlast := (hall quantityTwice [("qty", .str "many")] "qty"
    ["The selected qty is invalid."]).1 (hreported ▸ List.mem_singleton_self _)
  rw [hdue] at hlast
  exact absurd hlast.1 (by decide)

end FieldRules

end TenantTables
