import Mathlib.Data.List.Induction
import TenantTables.Proofs.TextCutting
import TenantTables.Query.Descriptor

/-!
# What every descriptor looks like

Any request has a descriptor, and what is malformed in it leaves no trace. A
part of a filter parameter is a clause or is not there: the group of a parameter
is made of the parts that can be read, and which of them opens the group is told
by its place among those alone. What is left is never half of something. Columns
are named, operands have the form that their operator takes, numbers are
positive, and some column is selected.
-/

namespace TenantTables.Query

/-! ## Clauses -/

namespace Operator

theorem takesList_iff {op : Operator} :
    op.takesList = true ↔ op = .between ∨ op = .oneOf := by
  cases op <;> simp [takesList]

/-- Of the orders only equality has a negated token. -/
theorem negate_of_ofToken? {token : String} {op : Operator} {negate : Bool}
    (h : ofToken? token = some (op, negate))
    (hop : op ∈ [gt, gte, lt, lte]) : negate = false := by
  have hall : ∀ entry ∈ tokens, entry.2.1 ∈ [gt, gte, lt, lte] →
      entry.2.2 = false := by decide
  obtain ⟨front, back, htokens, -⟩ := List.lookup_eq_some_iff.1 h
  exact hall (token, op, negate) (by rw [htokens]; simp) hop

end Operator

/-- What holds of every clause that can be read. -/
structure Clause.WellFormed (c : Clause) : Prop where
  nonempty : c.column ≠ ""
  trimmed : Text.trim c.column = c.column
  operand : if c.operator = .between ∨ c.operator = .oneOf then
      ∃ value values, c.value = .list (value :: values)
    else ∃ value, c.value = .single value
  affirmed : c.operator ∈ [.gt, .gte, .lt, .lte] → c.negate = false

theorem Operand.parse_form (op : Operator) (encoded : String) :
    if op = .between ∨ op = .oneOf then ∃ value values,
      parse op encoded = list (value :: values)
    else ∃ value, parse op encoded = single value := by
  unfold parse
  split
  · next hlist =>
      rw [if_pos (Operator.takesList_iff.2 hlist)]
      obtain ⟨value, values, hvalues⟩ := List.exists_cons_of_ne_nil
        (Text.split_ne_nil '|' (Text.trim (Text.percentDecode encoded)))
      exact ⟨value, values, congrArg list hvalues⟩
  · next hsingle =>
      rw [if_neg (mt Operator.takesList_iff.1 hsingle)]
      exact ⟨_, rfl⟩

namespace Clause

variable {part : String} {aliases : Aliases} {combinator : Combinator}
  {c : Clause}

theorem wellFormed_of_parse?
    (h : parse? part aliases combinator = some c) : c.WellFormed := by
  unfold parse? at h
  dsimp only at h
  split at h
  · cases h
  · next hempty =>
      obtain ⟨⟨op, negate⟩, htoken, rfl⟩ := Option.map_eq_some_iff.1 h
      exact ⟨by simpa using hempty, Text.trim_trim _, Operand.parse_form op _,
        Operator.negate_of_ofToken? htoken⟩

/-- How a clause joins those before it has no part in whether it can be read. -/
theorem parse?_combinator (part : String) (aliases : Aliases)
    (combinator : Combinator) :
    parse? part aliases combinator =
      (parse? part aliases .and).map fun c => { c with combinator } := by
  unfold parse?
  dsimp only
  split
  · rfl
  · rw [Option.map_map]
    rfl

/-- The empty text names no operator. -/
theorem parse?_empty (aliases : Aliases) :
    parse? "" aliases combinator = none := by
  have htoken : Operator.ofToken? (Text.lower (Text.trim "")) = none := by
    decide +kernel
  unfold parse?
  dsimp only
  split
  · rfl
  · exact congrArg (Option.map _) htoken

end Clause

/-! ## Groups

Reading passes a combinator along the parts of a parameter, and only a part that
can be read changes it. -/

/-- The clauses among parts, in order. -/
def readParts (aliases : Aliases) (parts : List String) : List Clause :=
  parts.filterMap fun part => Clause.parse? part aliases .and

/-- The clauses that a filter parameter writes. -/
def clausesIn (aliases : Aliases) (raw : String) : List Clause :=
  readParts aliases (Text.split ',' raw)

/-- Clauses as a group: the first is joined by `and`, and all others by `or`. -/
def joined : List Clause → List Clause
  | [] => []
  | c :: others =>
      { c with combinator := .and } :: others.map fun c =>
        { c with combinator := .or }

variable {aliases : Aliases} {part raw : String} {front back : List String}

theorem readParts_cons_of_none (h : Clause.parse? part aliases .and = none)
    (parts : List String) :
    readParts aliases (part :: parts) = readParts aliases parts :=
  List.filterMap_cons_none h

theorem readParts_insert (h : Clause.parse? part aliases .and = none)
    (front back : List String) :
    readParts aliases (front ++ part :: back) =
      readParts aliases (front ++ back) := by
  have happend : ∀ xs ys,
      readParts aliases (xs ++ ys) =
        readParts aliases xs ++ readParts aliases ys :=
    fun _ _ => List.filterMap_append
  rw [happend, happend, readParts_cons_of_none h]

theorem parseGroup_step (aliases : Aliases) (combinator : Combinator)
    (part : String) (parts : List String) :
    Filter.parseGroup aliases combinator (part :: parts) =
      match Clause.parse? part aliases combinator with
      | some c => c :: Filter.parseGroup aliases .or parts
      | none => Filter.parseGroup aliases combinator parts := by
  refine (Filter.parseGroup.eq_def aliases combinator (part :: parts)).trans ?_
  cases h : Clause.parse? part aliases combinator <;> simp only [h]

theorem parseGroup_alternatives (aliases : Aliases) (parts : List String) :
    Filter.parseGroup aliases .or parts =
      (readParts aliases parts).map fun c => { c with combinator := .or } := by
  induction parts with
  | nil => rfl
  | cons part parts ih =>
      rw [parseGroup_step, Clause.parse?_combinator, readParts,
        List.filterMap_cons]
      cases Clause.parse? part aliases .and with
      | none => exact ih
      | some c => exact congrArg (List.cons _) ih

theorem parseGroup_eq_joined (aliases : Aliases) (parts : List String) :
    Filter.parseGroup aliases .and parts =
      joined (readParts aliases parts) := by
  induction parts with
  | nil => rfl
  | cons part parts ih =>
      rw [parseGroup_step, Clause.parse?_combinator, readParts,
        List.filterMap_cons]
      cases Clause.parse? part aliases .and with
      | none => exact ih
      | some c =>
          exact congrArg (List.cons _) (parseGroup_alternatives aliases parts)

theorem isEmpty_joined (clauses : List Clause) :
    (joined clauses).isEmpty = clauses.isEmpty := by
  cases clauses <;> rfl

/-- One more parameter is one more group, if it has a part that can be read. -/
theorem groups_pushRaw (f : Filter) (raw : String) (aliases : Aliases) :
    (f.pushRaw raw aliases).groups = f.groups ++
      ([clausesIn aliases raw].filter fun clauses =>
        !clauses.isEmpty).map joined := by
  rw [Filter.pushRaw, parseGroup_eq_joined, ← clausesIn, Filter.push,
    isEmpty_joined]
  cases clausesIn aliases raw with
  | nil => exact (List.append_nil _).symm
  | cons c others => rfl

theorem groups_ofRaw (raws : List String) (aliases : Aliases) :
    (Filter.ofRaw raws aliases).groups =
      ((raws.map (clausesIn aliases)).filter fun clauses =>
        !clauses.isEmpty).map joined := by
  induction raws using List.reverseRecOn with
  | nil => rfl
  | append_singleton raws raw ih =>
      rw [Filter.ofRaw, List.foldl_concat, ← Filter.ofRaw, groups_pushRaw, ih,
        List.map_append, List.filter_append, List.map_append]
      rfl

/-- A part that cannot be read may as well be left out. -/
theorem clausesIn_insert (hcomma : ∀ s ∈ front ++ part :: back, ',' ∉ s.toList)
    (hpart : Clause.parse? part aliases .and = none) :
    clausesIn aliases (",".intercalate (front ++ part :: back)) =
      clausesIn aliases (",".intercalate (front ++ back)) := by
  have hwith : Text.split ',' (",".intercalate (front ++ part :: back)) =
      front ++ part :: back :=
    Text.split_intercalate rfl (by simp) hcomma
  rw [clausesIn, hwith, readParts_insert hpart]
  by_cases hnil : front ++ back = []
  · have hempty : Text.split ',' (",".intercalate []) = [""] := rfl
    rw [hnil, clausesIn, hempty,
      readParts_cons_of_none (Clause.parse?_empty aliases)]
  · have hwithout : Text.split ',' (",".intercalate (front ++ back)) =
        front ++ back :=
      Text.split_intercalate rfl hnil fun s hs => hcomma s (by
        rw [List.mem_append] at hs ⊢
        exact hs.imp_right (List.mem_cons_of_mem part))
    rw [clausesIn, hwithout]

/-! ## Terms, names and numbers -/

theorem SortTerm.column_of_parse? {s : SortTerm}
    (h : parse? raw aliases = some s) :
    s.column ≠ "" ∧ Text.trim s.column = s.column := by
  unfold parse? at h
  dsimp only at h
  split at h
  · cases h
  · obtain ⟨hempty, h⟩ := Option.ite_none_left_eq_some.1 h
    rw [← Option.some.inj h]
    exact ⟨by simpa using hempty, Text.trim_trim _⟩

namespace Descriptor

theorem isSelectChar_iff {c : Char} : isSelectChar c = true ↔
    ('a' ≤ c ∧ c ≤ 'z') ∨ ('0' ≤ c ∧ c ≤ '9') ∨ c = '_' ∨ c = '*' := by
  simp [isSelectChar, Text.isAsciiLower, Text.isAsciiDigit, or_assoc]

/-- Names over the characters that names are reduced to, and `*`
where none is left. -/
theorem readSelect_names (raw : Option String) :
    readSelect raw ≠ [] ∧
      ∀ name ∈ readSelect raw, name ≠ "" ∧ ∀ c ∈ name.toList,
        isSelectChar c = true := by
  have hnames : ∀ names : List String,
      (∀ name ∈ names, name ≠ "" ∧ ∀ c ∈ name.toList, isSelectChar c = true) →
      (if names.isEmpty then ["*"] else names) ≠ [] ∧
        ∀ name ∈ if names.isEmpty then ["*"] else names,
          name ≠ "" ∧ ∀ c ∈ name.toList, isSelectChar c = true := by
    intro names h
    cases names with
    | nil =>
        have hstar : ∀ c ∈ ['*'], isSelectChar c = true :=
          List.forall_mem_singleton.2 rfl
        exact ⟨by simp, List.forall_mem_singleton.2 ⟨by decide, hstar⟩⟩
    | cons name names => exact ⟨by simp, h⟩
  unfold readSelect
  cases raw with
  | none => exact hnames [] nofun
  | some raw =>
      dsimp only
      refine hnames _ fun name hname => ?_
      obtain ⟨hname, hne⟩ := List.mem_filter.1 hname
      obtain ⟨whole, -, rfl⟩ := List.mem_map.1 hname
      refine ⟨of_decide_eq_true hne, fun c hc => ?_⟩
      rw [String.toList_ofList] at hc
      exact (List.mem_filter.1 hc).2

theorem one_le_of_readPositive? {raw : Option String} {n : Nat}
    (h : readPositive? raw = some n) :
    1 ≤ n := by
  obtain ⟨text, -, h⟩ := Option.bind_eq_some_iff.1 h
  obtain ⟨d, -, h⟩ := Option.bind_eq_some_iff.1 h
  dsimp only at h
  split at h
  · next hrange =>
      simp only [Bool.and_eq_true, decide_eq_true_eq] at hrange
      rw [← Option.some.inj h]
      exact hrange.1.2
  · exact absurd h nofun

end Descriptor

/-! ## Descriptors -/

/-- What holds of the descriptor of a request, however it is written. -/
structure Descriptor.Shaped (p : Params) (aliases : Aliases)
    (d : Descriptor) : Prop where
  /-- One group for each filter parameter with a part that can be
  read, made of these. -/
  groups : d.filter.groups =
    (((p.all "filter").map (clausesIn aliases)).filter fun clauses =>
      !clauses.isEmpty).map joined
  clauses : ∀ c ∈ d.filter.clauses, c.WellFormed
  sorts : ∀ s ∈ d.sorts, s.column ≠ "" ∧ Text.trim s.column = s.column
  page : 1 ≤ d.page
  pageSize : 1 ≤ d.pageSize
  selected : d.selected ≠ []
  names : ∀ name ∈ d.selected, name ≠ "" ∧ ∀ c ∈ name.toList,
    ('a' ≤ c ∧ c ≤ 'z') ∨ ('0' ≤ c ∧ c ≤ '9') ∨ c = '_' ∨ c = '*'

theorem Clause.WellFormed.joinedBy {c : Clause} (h : c.WellFormed)
    (combinator : Combinator) : { c with combinator }.WellFormed :=
  ⟨h.nonempty, h.trimmed, h.operand, h.affirmed⟩

theorem wellFormed_of_mem_joined {clauses : List Clause}
    (h : ∀ c ∈ clauses, c.WellFormed) {c : Clause}
    (hc : c ∈ joined clauses) : c.WellFormed := by
  cases clauses with
  | nil => cases hc
  | cons first others =>
      obtain ⟨hfirst, hothers⟩ := List.forall_mem_cons.1 h
      rcases List.mem_cons.1 hc with rfl | hc
      · exact hfirst.joinedBy .and
      · obtain ⟨other, hother, rfl⟩ := List.mem_map.1 hc
        exact (hothers other hother).joinedBy .or

theorem wellFormed_of_mem_clausesIn {c : Clause}
    (h : c ∈ clausesIn aliases raw) :
    c.WellFormed := by
  obtain ⟨part, -, hpart⟩ := List.mem_filterMap.1 h
  exact Clause.wellFormed_of_parse? hpart

theorem one_le_getD {n? : Option Nat} {n : Nat} (h : ∀ m ∈ n?, 1 ≤ m)
    (hn : 1 ≤ n) :
    1 ≤ n?.getD n := by
  cases n? with
  | none => exact hn
  | some m => exact h m rfl

theorem shaped_ofParams (p : Params) (method : String) (aliases : Aliases)
    (pageSize : Nat) :
    (Descriptor.ofParams p method aliases pageSize).Shaped p aliases where
  groups := groups_ofRaw _ aliases
  clauses c hc := by
    obtain ⟨group, hgroup, hc⟩ := List.mem_flatten.1 hc
    rw [Descriptor.ofParams, groups_ofRaw] at hgroup
    obtain ⟨clauses, hclauses, rfl⟩ := List.mem_map.1 hgroup
    obtain ⟨raw, -, rfl⟩ := List.mem_map.1 (List.mem_filter.1 hclauses).1
    exact wellFormed_of_mem_joined (fun c => wellFormed_of_mem_clausesIn) hc
  sorts s hs := by
    obtain ⟨raw, -, hs⟩ := List.mem_filterMap.1 hs
    exact SortTerm.column_of_parse? hs
  page :=
    one_le_getD (fun _ => Descriptor.one_le_of_readPositive?) (Nat.le_refl 1)
  pageSize := by
    refine one_le_getD (fun n hn => ?_) (by split <;> omega)
    rcases Option.or_eq_some_iff.1 hn with hlimit | ⟨-, hperPage⟩
    · exact Descriptor.one_le_of_readPositive? hlimit
    · exact Descriptor.one_le_of_readPositive? hperPage
  selected := (Descriptor.readSelect_names _).1
  names name hname := by
    obtain ⟨hne, hchars⟩ := (Descriptor.readSelect_names _).2 name hname
    exact ⟨hne, fun c hc => Descriptor.isSelectChar_iff.1 (hchars c hc)⟩

theorem Filter.eq_of_groups {f g : Filter}
    (h : f.groups = g.groups) : f = g := by
  cases f
  cases g
  exact congrArg Filter.mk h

section Replaced

variable {before after : List (String × String)} {key other : String}

theorem all_replaced (hkey : Params.baseKey key = "filter") {name : String}
    (hname : name ≠ "filter") :
    Params.all ⟨before ++ (key, raw) :: after⟩ name =
      Params.all ⟨before ++ (key, other) :: after⟩ name := by
  have hskip : ¬ (Params.baseKey key == name) = true := by
    rw [hkey]
    simpa using hname.symm
  simp [Params.all, hskip]

theorem clausesIn_replaced
    (h : clausesIn aliases raw = clausesIn aliases other) :
    (Params.all ⟨before ++ (key, raw) :: after⟩ "filter").map
      (clausesIn aliases) =
      (Params.all ⟨before ++ (key, other) :: after⟩ "filter").map
        (clausesIn aliases) := by
  simp only [Params.all, List.filter_append, List.map_append, List.filter_cons]
  split <;> simp [h]

/-- A filter parameter counts for the clauses in it and for nothing else. -/
theorem ofParams_replaced (hkey : Params.baseKey key = "filter")
    (h : clausesIn aliases raw = clausesIn aliases other) (method : String)
    (pageSize : Nat) :
    Descriptor.ofParams ⟨before ++ (key, raw) :: after⟩ method aliases
      pageSize =
      Descriptor.ofParams ⟨before ++ (key, other) :: after⟩ method aliases
        pageSize := by
  have hsort : Params.all ⟨before ++ (key, raw) :: after⟩ "sort" =
      Params.all ⟨before ++ (key, other) :: after⟩ "sort" :=
        all_replaced hkey (by decide)
  have hget : ∀ name ≠ "filter",
      Params.get? ⟨before ++ (key, raw) :: after⟩ name =
        Params.get? ⟨before ++ (key, other) :: after⟩ name := fun name hname =>
    congrArg List.getLast? (all_replaced hkey hname)
  have hfilter :
      Filter.ofRaw (Params.all ⟨before ++ (key, raw) :: after⟩ "filter")
          aliases =
        Filter.ofRaw (Params.all ⟨before ++ (key, other) :: after⟩ "filter")
          aliases :=
    Filter.eq_of_groups
      (by rw [groups_ofRaw, groups_ofRaw, clausesIn_replaced h])
  unfold Descriptor.ofParams
  rw [hfilter, hsort, hget "select" (by decide), hget "page" (by decide),
    hget "limit" (by decide), hget "per_page" (by decide)]

end Replaced

/-- Every request has a well-formed descriptor, and in a filter parameter a part
that cannot be read may be there or not. -/
theorem any_request_has_shaped_descriptor (p : Params) (method : String)
    (aliases : Aliases) (pageSize : Nat) :
    (Descriptor.ofParams p method aliases pageSize).Shaped p aliases ∧
      ∀ (before after : List (String × String)) (key part : String)
        (front back : List String),
        p.pairs =
          before ++ (key, ",".intercalate (front ++ part :: back)) :: after →
        Params.baseKey key = "filter" →
        (∀ s ∈ front ++ part :: back, ',' ∉ s.toList) →
        Clause.parse? part aliases .and = none →
          Descriptor.ofParams
            ⟨before ++ (key, ",".intercalate (front ++ back)) :: after⟩ method
            aliases pageSize =
              Descriptor.ofParams p method aliases pageSize := by
  refine ⟨shaped_ofParams p method aliases pageSize, ?_⟩
  intro before after key part front back hpairs hkey hcomma hpart
  obtain rfl : p =
      ⟨before ++ (key, ",".intercalate (front ++ part :: back)) :: after⟩ := by
    rw [← hpairs]
  exact (ofParams_replaced hkey (clausesIn_insert hcomma hpart) method
    pageSize).symm

/-- Between two alternatives stands a part without a column. -/
theorem malformed_part_may_be_left_out :
    Descriptor.ofParams ⟨[("sort[]", "n:desc")] ++
        ("filter[]", ",".intercalate (["n:eq:x"] ++ ["age:gt:3"])) ::
          [("select", "Name,*")]⟩
        "GET" [("n", "name")] 0 =
      Descriptor.ofParams
        ⟨[("sort[]", "n:desc"), ("filter[]", "n:eq:x,:eq:1,age:gt:3"),
          ("select", "Name,*")]⟩
        "GET" [("n", "name")] 0 := by
  refine (any_request_has_shaped_descriptor _ "GET" [("n", "name")] 0).2
    [("sort[]", "n:desc")] [("select", "Name,*")] "filter[]" ":eq:1" ["n:eq:x"]
    ["age:gt:3"] rfl ?_ ?_ ?_
  · decide
  · decide
  · decide +kernel

end TenantTables.Query
