import TenantTables.Postgres.Store
import TenantTables.Proofs.PhysicalName
import TenantTables.Service
import TenantTables.Text.Utf8

/-!
# Physical names under the identifier limit

PostgreSQL keeps the first 63 bytes of an identifier and drops the rest without
a word. A logical name has at most thirty characters, but the slug of a tenant
may be of any length, and it stands in front. So two things can be cut off: a
part of the logical name, with the dollar sign or without, and the end of the
tenant itself.

All characters of a physical name are in ASCII, so its bytes are its characters,
and what is left of two names is compared as lists of characters. If the dollar
sign is kept in one of two names that agree, it is kept in the other at the same
place, because it is the first in both; if it is kept in none, the tenants are
at least as long as the limit.
-/

namespace TenantTables

open TableName (delimiter_not_mem_of_isSlug toList_physical)

/-- The bytes that PostgreSQL keeps of an identifier. -/
def keptBytes (identifier : String) : List UInt8 :=
  (Text.encodeUtf8 identifier).take 63

/-! ## Bytes that are characters -/

def asciiByte (c : Char) : UInt8 :=
  c.toNat.toUInt8

theorem encodeUtf8_of_ascii {s : String} (h : ∀ c ∈ s.toList, c.toNat < 128) :
    Text.encodeUtf8 s = s.toList.map asciiByte := by
  rw [Text.encodeUtf8, List.map_eq_flatMap]
  apply List.flatMap_congr
  intro c hc
  exact if_pos (h c hc)

theorem ofNat_asciiByte {c : Char} (h : c.toNat < 128) :
    Char.ofNat (asciiByte c).toNat = c := by
  have hbyte : (asciiByte c).toNat = c.toNat := by
    simp only [asciiByte, Nat.toUInt8_eq, UInt8.toNat_ofNat']
    omega
  rw [hbyte, Char.ofNat_toNat]

theorem map_asciiByte_inj {cs ds : List Char} (hc : ∀ c ∈ cs, c.toNat < 128)
    (hd : ∀ c ∈ ds, c.toNat < 128) :
    cs.map asciiByte = ds.map asciiByte ↔ cs = ds := by
  have hback : ∀ {es : List Char}, (∀ c ∈ es, c.toNat < 128) →
      (es.map asciiByte).map (fun b => Char.ofNat b.toNat) = es := by
    intro es hes
    rw [List.map_map]
    exact (List.map_congr_left fun c hc => ofNat_asciiByte (hes c hc)).trans
      (List.map_id es)
  constructor
  · intro h
    rw [← hback hc, h, hback hd]
  · intro h
    rw [h]

theorem ascii_of_isSlug {s : String} (h : IsSlug s) :
    ∀ c ∈ s.toList, c.toNat < 128 :=
  fun c hc => (toNat_of_isSlugChar (List.all_eq_true.1 h.2 c hc)).1

theorem ascii_physical (t : TableName) :
    ∀ c ∈ t.physical.toList, c.toNat < 128 := by
  intro c hc
  rw [toList_physical, List.mem_append, List.mem_cons] at hc
  rcases hc with htenant | rfl | htable
  · exact ascii_of_isSlug t.tenant_isSlug c htenant
  · decide
  · exact ascii_of_isSlug t.table_isSlug c htable

theorem keptBytes_physical_eq_iff {t u : TableName} :
    keptBytes t.physical = keptBytes u.physical ↔
      t.physical.toList.take 63 = u.physical.toList.take 63 := by
  rw [keptBytes, keptBytes, encodeUtf8_of_ascii (ascii_physical t),
    encodeUtf8_of_ascii (ascii_physical u), ← List.map_take, ← List.map_take]
  exact map_asciiByte_inj (fun c hc =>
    ascii_physical t c (List.mem_of_mem_take hc))
    fun c hc => ascii_physical u c (List.mem_of_mem_take hc)

/-! ## Cutting a text with a delimiter -/

theorem take_append_cons_of_lt {α : Type} {front back : List α} {d : α}
    {n : Nat} (h : front.length < n) :
    (front ++ d :: back).take n =
      front ++ d :: back.take (n - front.length - 1) := by
  obtain ⟨m, rfl⟩ : ∃ m, n = front.length + (m + 1) :=
    ⟨n - front.length - 1, by omega⟩
  rw [List.take_length_add_append, List.take_succ_cons]
  congr 3
  omega

theorem delimiter_mem_take {α : Type} {front back : List α} {d : α} {n : Nat}
    (h : front.length < n) : d ∈ (front ++ d :: back).take n := by
  rw [take_append_cons_of_lt h]
  simp

/-- Two texts with one delimiter, cut at one length, agree if both are cut in
front of the delimiter and agree there, or if they are the same in front of it
and agree in what is kept behind it. -/
theorem take_delimited_eq_iff {α : Type} {x y a b : List α} {d : α} (hx : d ∉ x)
    (hy : d ∉ y) (ha : d ∉ a) (n : Nat) :
    (x ++ d :: a).take n = (y ++ d :: b).take n ↔
      (n ≤ x.length ∧ n ≤ y.length ∧ x.take n = y.take n) ∨
        (x = y ∧ a.take (n - x.length - 1) = b.take (n - x.length - 1)) := by
  have hfront : ∀ {z : List α}, d ∉ z → d ∉ z.take n :=
    fun hz hmem => hz (List.mem_of_mem_take hmem)
  rcases Nat.lt_or_ge x.length n with hxn | hxn <;>
    rcases Nat.lt_or_ge y.length n with hyn | hyn
  · rw [take_append_cons_of_lt hxn, take_append_cons_of_lt hyn,
      List.append_cons_inj_of_notMem hx fun hmem =>
        ha (List.mem_of_mem_take hmem)]
    constructor
    · rintro ⟨rfl, -, hrest⟩
      exact .inr ⟨rfl, hrest⟩
    · rintro (⟨hle, -, -⟩ | ⟨rfl, hrest⟩)
      · omega
      · exact ⟨rfl, rfl, hrest⟩
  · rw [List.take_append_of_le_length hyn]
    constructor
    · intro heq
      exact absurd (heq ▸ delimiter_mem_take hxn) (hfront hy)
    · rintro (⟨hle, -, -⟩ | ⟨rfl, -⟩) <;> omega
  · rw [List.take_append_of_le_length hxn]
    constructor
    · intro heq
      exact absurd (heq ▸ delimiter_mem_take hyn) (hfront hx)
    · rintro (⟨-, hle, -⟩ | ⟨rfl, -⟩) <;> omega
  · rw [List.take_append_of_le_length hxn, List.take_append_of_le_length hyn]
    constructor
    · intro heq
      exact .inl ⟨hxn, hyn, heq⟩
    · rintro (⟨-, -, heq⟩ | ⟨rfl, -⟩)
      · exact heq
      · rfl

theorem kept_names_agree_iff {t u : TableName} :
    keptBytes t.physical = keptBytes u.physical ↔
      (63 ≤ t.tenant.length ∧ 63 ≤ u.tenant.length ∧
        t.tenant.toList.take 63 = u.tenant.toList.take 63) ∨
      (t.tenant = u.tenant ∧
        t.table.toList.take (62 - t.tenant.length) =
          u.table.toList.take (62 - t.tenant.length)) := by
  have hrest : 63 - t.tenant.toList.length - 1 = 62 - t.tenant.length := by
    rw [String.length_toList]
    omega
  rw [keptBytes_physical_eq_iff, toList_physical, toList_physical,
    take_delimited_eq_iff (delimiter_not_mem_of_isSlug t.tenant_isSlug)
      (delimiter_not_mem_of_isSlug u.tenant_isSlug)
      (delimiter_not_mem_of_isSlug t.table_isSlug),
    hrest, String.toList_inj, String.length_toList, String.length_toList]

/-! ## Names that a service gives out -/

namespace Service

variable {ρ τ κ : Type} {s : Service ρ τ κ} {ctx : RequestContext}
  {name : String} {t : TableName}

theorem of_tableName_ok (h : s.tableName ctx name = .ok t) :
    isLogicalName name = true ∧ t.table = slug name := by
  unfold tableName at h
  cases hname : validateTableName name s.config.reservedTables with
  | error e =>
      rw [hname] at h
      cases h
  | ok _ =>
      rw [hname] at h
      refine ⟨?_, TableName.table_of_resolve_ok h⟩
      unfold validateTableName at hname
      split at hname
      · cases hname
      · next hlogical => simpa using hlogical

theorem length_table_le (h : s.tableName ctx name = .ok t) :
    t.table.length ≤ 30 := by
  obtain ⟨hname, htable⟩ := of_tableName_ok h
  simp only [isLogicalName, Bool.and_eq_true, decide_eq_true_eq] at hname
  obtain ⟨⟨-, hlength⟩, hchars⟩ := hname
  rw [htable, slug_eq_self hchars, ← String.length_toList]
  exact hlength

/-- Of two different names that a service gives out PostgreSQL keeps the same
exactly if both tenants reach the limit and agree up to it, or if the tenant is
the same and the limit cuts the tables where they still agree. A tenant of at
most 32 characters leaves room for the longest logical name. -/
theorem names_are_kept_alike_iff {ctx' : RequestContext} {name' : String}
    {u : TableName} (ht : s.tableName ctx name = .ok t)
    (hu : s.tableName ctx' name' = .ok u) (hne : t ≠ u) :
    (keptBytes t.physical = keptBytes u.physical ↔
      (63 ≤ t.tenant.length ∧ 63 ≤ u.tenant.length ∧
        t.tenant.toList.take 63 = u.tenant.toList.take 63) ∨
      (t.tenant = u.tenant ∧
        t.table.toList.take (62 - t.tenant.length) =
          u.table.toList.take (62 - t.tenant.length))) ∧
    (t.tenant.length ≤ 32 → keptBytes t.physical ≠ keptBytes u.physical) := by
  refine ⟨kept_names_agree_iff, fun hshort hkept => hne ?_⟩
  rcases kept_names_agree_iff.1 hkept with ⟨hlong, -, -⟩ | ⟨htenant, htable⟩
  · omega
  · have htlen : t.table.toList.length ≤ 62 - t.tenant.length := by
      have := length_table_le ht
      rw [String.length_toList]
      omega
    have hulen : u.table.toList.length ≤ 62 - t.tenant.length := by
      have := length_table_le hu
      rw [String.length_toList]
      omega
    rw [List.take_of_length_le htlen, List.take_of_length_le hulen] at htable
    apply TableName.physical_injective
    rw [← String.toList_inj, toList_physical, toList_physical, htenant, htable]

/-- A logical name under a slug is given out as it is, unless it is reserved. -/
theorem tableName_of_isSlug {tenant : String} (htenant : IsSlug tenant)
    (hctx : ctx.tenant = some tenant) (hname : isLogicalName name = true)
    (hfree : name ∉ s.config.reservedTables) :
    ∃ t, s.tableName ctx name = .ok t ∧ t.tenant = tenant ∧ t.table = name := by
  have hchars : name.toList.all isSlugChar = true := by
    simp only [isLogicalName, Bool.and_eq_true] at hname
    exact hname.2
  have hslug : IsSlug name := by
    refine ⟨fun heq => ?_, hchars⟩
    rw [heq] at hname
    exact absurd hname (by decide)
  have hvalid : validateTableName name s.config.reservedTables = .ok () := by
    simp [validateTableName, hname, hfree]
  refine ⟨⟨tenant, name, htenant, hslug⟩, ?_, rfl, rfl⟩
  rw [tableName, hvalid]
  simp [TableName.resolve, hctx, TableName.of_eq_ok htenant hslug]
  rfl

/-- Two logical names of thirty characters that differ in the last. -/
def lastA : String := String.ofList (List.replicate 30 'a')

def lastB : String := String.ofList (List.replicate 29 'a' ++ ['b'])

/-- The bound is the best one: under any longer tenant a service has different
names that are kept alike, unless it reserves these. -/
theorem exists_names_kept_alike {tenant : String} (htenant : IsSlug tenant)
    (hctx : ctx.tenant = some tenant) (hlong : 33 ≤ tenant.length)
    (hA : lastA ∉ s.config.reservedTables)
    (hB : lastB ∉ s.config.reservedTables) :
    ∃ t u, s.tableName ctx lastA = .ok t ∧ s.tableName ctx lastB = .ok u ∧
      t ≠ u ∧ keptBytes t.physical = keptBytes u.physical := by
  obtain ⟨t, ht, htt, hta⟩ :=
    tableName_of_isSlug htenant hctx (by decide) hA
  obtain ⟨u, hu, hut, hub⟩ :=
    tableName_of_isSlug htenant hctx (by decide) hB
  refine ⟨t, u, ht, hu, fun heq => ?_, ?_⟩
  · have htable : lastA = lastB := by rw [← hta, ← hub, heq]
    exact absurd htable (by decide)
  · refine kept_names_agree_iff.2 (.inr ⟨htt.trans hut.symm, ?_⟩)
    have hsame : lastA.toList.take 29 = lastB.toList.take 29 := by decide
    have hroom : 62 - t.tenant.length = min (62 - t.tenant.length) 29 := by
      rw [htt]
      omega
    rw [hta, hub, hroom, ← List.take_take, ← List.take_take, hsame]

/-- A tenant whose slug is a row of one letter. -/
def rowOf (n : Nat) : String := String.ofList (List.replicate n 'a')

def requestOf (n : Nat) : RequestContext :=
  { RequestContext.of "GET" "/" with tenant := some (rowOf n) }

/-- A service that reserves no names, over a database that takes
every statement. -/
def unreserved :
    Service (Postgres.Database Unit) (Postgres.Work Unit)
      (List Audit.Event) where
  repository :=
    Postgres.Store.repository
      ⟨⟨fun _ d => (.ok (), d), fun _ d => (.ok ⟨[], 0⟩, d)⟩, .default⟩
  sink := .collecting
  config := { databaseUrl := "", reservedTables := [] }
  policy := ⟨none, none, none, none, []⟩
  aliases := []
  ambientTenant := none
  veto := .never

/-- The longest tenant that leaves room for all logical names. -/
theorem names_of_longest_tenant_are_kept_apart :
    ∃ (ctx : RequestContext) (t u : TableName),
      unreserved.tableName ctx lastA = .ok t ∧
      unreserved.tableName ctx lastB = .ok u ∧ t ≠ u ∧ t.tenant.length = 32 ∧
      keptBytes t.physical ≠ keptBytes u.physical := by
  have hctx : (requestOf 32).tenant = some (rowOf 32) := rfl
  have htenant : IsSlug (rowOf 32) := by decide
  have hlastA : isLogicalName lastA = true := by decide
  have hlastB : isLogicalName lastB = true := by decide
  obtain ⟨t, ht, htt, hta⟩ :=
    tableName_of_isSlug (s := unreserved) htenant hctx hlastA
      (by simp [unreserved])
  obtain ⟨u, hu, -, hub⟩ :=
    tableName_of_isSlug (s := unreserved) htenant hctx hlastB
      (by simp [unreserved])
  have hne : t ≠ u := by
    intro heq
    have htable : lastA = lastB := by rw [← hta, ← hub, heq]
    exact absurd htable (by decide)
  have hlength : t.tenant.length = 32 := by rw [htt]; decide
  exact ⟨requestOf 32, t, u, ht, hu, hne, hlength,
    (names_are_kept_alike_iff ht hu hne).2 (by omega)⟩

/-- Two tenants, one of them longer by a letter, whose tables `orders` are one
table to PostgreSQL. -/
theorem two_tenants_have_one_kept_name :
    ∃ (ctx ctx' : RequestContext) (t u : TableName),
      unreserved.tableName ctx "orders" = .ok t ∧
      unreserved.tableName ctx' "orders" = .ok u ∧ t.tenant ≠ u.tenant ∧
      keptBytes t.physical = keptBytes u.physical := by
  have hctx (n : Nat) : (requestOf n).tenant = some (rowOf n) := rfl
  have horders : isLogicalName "orders" = true := by decide
  obtain ⟨t, ht, htt, -⟩ := tableName_of_isSlug (s := unreserved)
    (by decide) (hctx 63) horders (by simp [unreserved])
  obtain ⟨u, hu, huu, -⟩ := tableName_of_isSlug (s := unreserved)
    (by decide) (hctx 64) horders (by simp [unreserved])
  refine ⟨_, _, t, u, ht, hu, ?_, kept_names_agree_iff.2 (.inl ?_)⟩
  · rw [htt, huu]
    decide
  · rw [htt, huu]
    decide

end Service

end TenantTables
