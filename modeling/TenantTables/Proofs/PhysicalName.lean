import Mathlib.Data.List.Basic
import TenantTables.Proofs.TextCutting
import TenantTables.TableName

/-!
# Physical names

A physical name is cut at its first dollar sign, since no slug has one. So two
tables with one physical name are the same table, and a tenant's tables never
bear the name of another tenant's.
-/

namespace TenantTables

/-! ## Slug characters -/

theorem toNat_of_isSlugChar {c : Char} (h : isSlugChar c = true) :
    c.toNat < 128 ∧ (c.toNat < 65 ∨ 90 < c.toNat) := by
  simp only [isSlugChar, Text.isAsciiLower, Text.isAsciiDigit, Bool.or_eq_true,
    Bool.and_eq_true, decide_eq_true_eq, beq_iff_eq] at h
  rcases h with (⟨hlow, hhigh⟩ | ⟨hlow, hhigh⟩) | rfl
  · have hlow : 97 ≤ c.toNat := hlow
    have hhigh : c.toNat ≤ 122 := hhigh
    omega
  · have hlow : 48 ≤ c.toNat := hlow
    have hhigh : c.toNat ≤ 57 := hhigh
    omega
  · decide

theorem slug_eq_self {s : String}
    (h : s.toList.all isSlugChar = true) : slug s = s := by
  rw [List.all_eq_true] at h
  have hlower : Text.lower s = s := by
    apply Text.lower_eq_self
    intro c hc
    obtain ⟨hsmall, hcase⟩ := toNat_of_isSlugChar (h c hc)
    exact Text.isLowerAlready_of_toNat hsmall hcase
  rw [slug, hlower, List.filter_eq_self.2 h, String.ofList_toList]

namespace TableName

/-! ## Two parts -/

theorem delimiter_not_mem_of_isSlug {s : String} (h : IsSlug s) :
    tableDelimiter ∉ s.toList := by
  intro hmem
  have hchar : isSlugChar tableDelimiter = true := List.all_eq_true.1 h.2 _ hmem
  exact absurd hchar (by decide)

theorem toList_physical (t : TableName) :
    t.physical.toList =
      t.tenant.toList ++ tableDelimiter :: t.table.toList := by
  simp [physical]

/-- A physical name has one dollar sign, so it has its two parts
in one way only. -/
theorem parts_of_physical {t : TableName} {a b : String}
    (h : t.physical = a ++ String.ofList [tableDelimiter] ++ b) :
    t.tenant = a ∧ t.table = b := by
  have hlist : t.physical.toList = a.toList ++ tableDelimiter :: b.toList := by
    rw [h]
    simp
  rw [toList_physical, List.append_cons_inj_of_notMem
    (delimiter_not_mem_of_isSlug t.tenant_isSlug)
    (delimiter_not_mem_of_isSlug t.table_isSlug)] at hlist
  obtain ⟨htenant, -, htable⟩ := hlist
  exact ⟨String.toList_inj.1 htenant, String.toList_inj.1 htable⟩

theorem physical_injective {t u : TableName}
    (h : t.physical = u.physical) : t = u := by
  obtain ⟨htenant, htable⟩ := parts_of_physical h
  cases t
  cases u
  simp_all

/-- Two slugs are given out as they are. -/
theorem of_eq_ok {tenant name : String} (ht : IsSlug tenant)
    (hn : IsSlug name) :
    of tenant name = .ok ⟨tenant, name, ht, hn⟩ := by
  simp [of, slug_eq_self ht.2, slug_eq_self hn.2, ht, hn]

/-- Whether a name is that of a table of a tenant. -/
def IsOfTenant (tenant n : String) : Prop :=
  ∃ t : TableName, t.tenant = slug tenant ∧ t.physical = n

/-- No table is of two tenants. -/
theorem IsOfTenant.not_other {a b n : String} (hab : slug a ≠ slug b)
    (h : IsOfTenant b n) :
    ¬ IsOfTenant a n := by
  rintro ⟨t, ht, htn⟩
  obtain ⟨u, hu, hun⟩ := h
  obtain rfl : t = u := physical_injective (htn.trans hun.symm)
  exact hab (ht.symm.trans hu)

/-- A name that is given out is the tenant's. -/
theorem tenant_of_ok {tenant name : String} {t : TableName}
    (h : of tenant name = .ok t) :
    t.tenant = slug tenant := by
  unfold of at h
  split at h
  · split at h
    · injection h with h
      rw [← h]
    · simp at h
  · simp at h

theorem table_of_ok {tenant name : String} {t : TableName}
    (h : of tenant name = .ok t) :
    t.table = slug name := by
  unfold of at h
  split at h
  · split at h
    · injection h with h
      rw [← h]
    · simp at h
  · simp at h

theorem table_of_resolve_ok {tenant ambient : Option String} {name : String}
    {t : TableName} (h : resolve tenant name ambient = .ok t) :
    t.table = slug name := by
  unfold resolve at h
  split at h
  · exact table_of_ok h
  · simp at h

theorem tenant_of_resolve_ok {tenant ambient : Option String} {a name : String}
    {t : TableName} (ha : tenant.or ambient = some a)
    (h : resolve tenant name ambient = .ok t) :
    t.tenant = slug a := by
  unfold resolve at h
  rw [ha] at h
  exact tenant_of_ok h

end TableName

end TenantTables
