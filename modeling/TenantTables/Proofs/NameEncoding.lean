import TenantTables.Proofs.PhysicalName

/-!
# Reading physical names back

A slug is what is left of a text, and a text of slug characters is left as it
is: lower case has no effect on them and the filter keeps them all. What other
alphabets turn into under lower case does not matter, since only the result is
filtered.

Reading a physical name cuts it at its first dollar sign and refuses the parts
that are not their own slugs, so it accepts exactly what is written for some
table, and then gives that table.

A reserved word is compared with the logical name and not with its slug. The
two are the same for every name that is accepted. A word that no slug spells
reserves nothing: no table has it as its part of a physical name.
-/

namespace TenantTables

/-! ## Slugs -/

theorem all_isSlugChar_slug (value : String) :
    (slug value).toList.all isSlugChar = true := by
  rw [slug, String.toList_ofList, List.all_eq_true]
  intro c hc
  exact (List.mem_filter.1 hc).2

theorem exists_slug_eq_iff {s : String} :
    (∃ value, slug value = s) ↔ s.toList.all isSlugChar = true := by
  constructor
  · rintro ⟨value, rfl⟩
    exact all_isSlugChar_slug value
  · intro h
    exact ⟨s, slug_eq_self h⟩

theorem slug_eq_self_of_validateTableName {name : String}
    {reserved : List String} (h : validateTableName name reserved = .ok ()) :
    slug name = name ∧ name ∉ reserved := by
  unfold validateTableName at h
  split at h
  · cases h
  · next hlogical =>
      split at h
      · cases h
      · next hfree =>
          simp only [isLogicalName, Bool.not_eq_true', Bool.not_eq_false,
            Bool.and_eq_true]
            at hlogical
          exact ⟨slug_eq_self hlogical.2, by simpa using hfree⟩

namespace TableName

/-! ## Reading -/

theorem parse_physical (t : TableName) : parse t.physical = .ok t := by
  have hcut :
      Text.splitOnce tableDelimiter t.physical = (t.tenant, some t.table) :=
    Text.splitOnce_append (String.toList_ofList)
      (delimiter_not_mem_of_isSlug t.tenant_isSlug) _
  have hslugs : ¬ (t.tenant ≠ slug t.tenant ∨ t.table ≠ slug t.table) := by
    simp [slug_eq_self t.tenant_isSlug.2, slug_eq_self t.table_isSlug.2]
  simp only [parse, hcut, if_neg hslugs]
  exact of_eq_ok t.tenant_isSlug t.table_isSlug

theorem physical_of_parse {s : String} {t : TableName} (h : parse s = .ok t) :
    t.physical = s := by
  unfold parse at h
  split at h
  · next tenant table hcut =>
      split at h
      · cases h
      · next hslugs =>
          obtain ⟨htenant, htable⟩ : tenant = slug tenant ∧
              table = slug table := by
            simpa using hslugs
          rw [physical, tenant_of_ok h, table_of_ok h, ← htenant, ← htable]
          exact (Text.eq_append_of_splitOnce hcut).symm
  · cases h

theorem parse_eq_ok_iff {s : String} {t : TableName} :
    parse s = .ok t ↔ t.physical = s := by
  constructor
  · exact physical_of_parse
  · rintro rfl
    exact parse_physical t

theorem exists_parse_eq_ok_iff {s : String} :
    (∃ t, parse s = .ok t) ↔ ∃ a b,
      IsSlug a ∧ IsSlug b ∧ s = a ++ "$" ++ b := by
  constructor
  · rintro ⟨t, h⟩
    exact ⟨t.tenant, t.table, t.tenant_isSlug, t.table_isSlug,
      (physical_of_parse h).symm⟩
  · rintro ⟨a, b, ha, hb, rfl⟩
    exact ⟨⟨a, b, ha, hb⟩, parse_eq_ok_iff.2 rfl⟩

/-! ## Names as an encoding -/

/-- Physical names are an exact encoding of tenants and tables: every text has a
slug and every text of slug characters is one; what is read from a physical
name is what was written, for all names and no other texts; and a name that
callers may use stands in the physical name as it is, so none leads to a table
that is reserved, under whatever tenant. -/
theorem physical_names_are_faithful :
    (∀ value, slug (slug value) = slug value) ∧
    (∀ s, (∃ value, slug value = s) ↔ s.toList.all isSlugChar = true) ∧
    (∀ s, (∃ t, parse s = .ok t) ↔
      ∃ a b, IsSlug a ∧ IsSlug b ∧ s = a ++ "$" ++ b) ∧
    (∀ s t, parse s = .ok t → t.physical = s) ∧
    (∀ tenant name t, of tenant name = .ok t → parse t.physical = .ok t) ∧
    (∀ t u : TableName, t.physical = u.physical → t = u) ∧
    (∀ name reserved, validateTableName name reserved = .ok () →
      slug name = name ∧
      ∀ tenant t, of tenant name = .ok t →
        ∀ a, ∀ word ∈ reserved, t.physical ≠ a ++ "$" ++ word) := by
  refine ⟨fun value => slug_eq_self (all_isSlugChar_slug value), fun _ =>
    exists_slug_eq_iff,
    fun _ => exists_parse_eq_ok_iff, fun _ _ => physical_of_parse,
    fun _ _ t _ => parse_physical t, fun _ _ => physical_injective, ?_⟩
  intro name reserved hvalid
  obtain ⟨hname, hfree⟩ := slug_eq_self_of_validateTableName hvalid
  refine ⟨hname, ?_⟩
  intro tenant t ht a word hword hphysical
  have htable : t.table = word := (parts_of_physical hphysical).2
  rw [table_of_ok ht, hname] at htable
  exact hfree (htable ▸ hword)

/-- The tiles of a tenant, whose own name is cleaned on the way. The Kelvin sign
becomes an ordinary k, the dotted capital I an i with a mark that is dropped. -/
def tilesOfKiln : TableName :=
  ⟨"kiln", "tiles", by decide, by decide⟩

theorem tilesOfKiln_is_read_back :
    of "\u212A\u0130LN!" "tiles" = .ok tilesOfKiln ∧
    tilesOfKiln.physical = "kiln$tiles" ∧
    parse "kiln$tiles" = .ok tilesOfKiln ∧
    validateTableName "tiles" ["profile", "user"] = .ok () ∧
    slug (slug "\u212A\u0130LN!") = slug "\u212A\u0130LN!" ∧
    ∀ a, ∀ word ∈ ["profile", "user"],
      tilesOfKiln.physical ≠ a ++ "$" ++ word := by
  have hof : of "\u212A\u0130LN!" "tiles" = .ok tilesOfKiln := by
    have htenant : slug "\u212A\u0130LN!" = "kiln" := by decide +kernel
    have hname : slug "tiles" = "tiles" := by decide +kernel
    simp only [of, htenant, hname]
    rfl
  have hvalid : validateTableName "tiles" ["profile", "user"] = .ok () := by rfl
  obtain ⟨hslug, -, -, -, hparse, -, hreserved⟩ := physical_names_are_faithful
  exact ⟨hof, rfl, hparse _ _ _ hof, hvalid, hslug _,
    (hreserved _ _ hvalid).2 _ _ hof⟩

end TableName

end TenantTables
