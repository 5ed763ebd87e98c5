import TenantTables.Proofs.DescriptorShape
import TenantTables.Proofs.Encoding

/-!
# Every query can be written

What a list request can ask for is written by wrapping, outermost last: the
value of a clause is escaped byte by byte, clauses are joined by commas, and the
whole is encoded once more as the value of a parameter. Each separator is then
looked for where only those of its own level are left. The ampersand and the
equals sign are cut before the first decoding, the comma and the two colons
between the decodings, the bar behind the second.

Parameters may come in any order. Those of one kind keep the order among
themselves.
-/

namespace TenantTables.Query

open Text (percentEncode percentDecode escapeChars)

/-! ## Clauses -/

/-- A column that a request can name. -/
structure Writable (column : String) : Prop where
  nonempty : column ≠ ""
  trimmed : Text.trim column = column
  colon : ':' ∉ column.toList
  comma : ',' ∉ column.toList

namespace Operand

/-- An operand as it stands behind the second decoding. -/
def text : Operand → String
  | single value => value
  | list values => "|".intercalate values

/-- An operand that an operator can be given. -/
structure Fits (o : Operand) (op : Operator) : Prop where
  trimmed : Text.trim o.text = o.text
  shape : match o with
    | single _ => op.takesList = false
    | list values =>
        op.takesList = true ∧ values ≠ [] ∧ ∀ value ∈ values, '|' ∉ value.toList

end Operand

/-- A clause as a request writes it. -/
structure WrittenClause where
  column : String
  token : String
  operator : Operator
  negate : Bool
  value : Operand
  writable : Writable column
  known : Operator.ofToken? (Text.lower (Text.trim token)) =
    some (operator, negate)
  colon : ':' ∉ token.toList
  comma : ',' ∉ token.toList
  fits : value.Fits operator

namespace WrittenClause

/-- The text of the clause, its value escaped. -/
def text (c : WrittenClause) : String :=
  c.column ++ ":" ++
    (c.token ++ ":" ++ percentEncode (fun _ => false) c.value.text)

def clause (c : WrittenClause) (combinator : Combinator) : Clause :=
  ⟨c.column, c.operator, c.value, c.negate, combinator⟩

end WrittenClause

/-- Every token is known as it stands, and in no need of escapes. -/
theorem Operator.known_of_mem_tokens {token : String} {operator : Operator}
    {negate : Bool} (h : (token, operator, negate) ∈ tokens) :
    ofToken? (Text.lower (Text.trim token)) = some (operator, negate) ∧
      ':' ∉ token.toList ∧
      ',' ∉ token.toList := by
  have hall : tokens.all (fun entry => decide (ofToken? entry.1 = some entry.2 ∧
      Text.trim entry.1 = entry.1 ∧
      entry.1.toList.all Text.isLowerAlready = true ∧
      ':' ∉ entry.1.toList ∧ ',' ∉ entry.1.toList)) = true := by
    decide +kernel
  obtain ⟨hknown, htrim, hlower, hcolon, hcomma⟩ :=
    of_decide_eq_true (List.all_eq_true.1 hall _ h)
  dsimp only at htrim hlower hknown
  rw [htrim, Text.lower_eq_self (List.all_eq_true.1 hlower)]
  exact ⟨hknown, hcolon, hcomma⟩

theorem not_mem_escaped {c : Char} (h : c ∉ escapeChars) (s : String) :
    c ∉ (percentEncode (fun _ => false) s).toList := fun hmem =>
  (Text.mem_percentEncode hmem).elim Bool.false_ne_true h

theorem Operand.parse_escaped {o : Operand} {op : Operator} (h : o.Fits op) :
    Operand.parse op (percentEncode (fun _ => false) o.text) = o := by
  obtain ⟨htrimmed, hshape⟩ := h
  rw [Operand.parse, Text.percentDecode_percentEncode rfl, htrimmed]
  cases o with
  | single value => simp [hshape, text]
  | list values =>
      obtain ⟨htakes, hne, hbar⟩ := hshape
      have hsplit : Text.split '|' ("|".intercalate values) = values :=
        Text.split_intercalate rfl hne hbar
      rw [if_pos htakes, text, hsplit]

namespace WrittenClause

variable (c : WrittenClause)

/-- White space stands at neither end: in front is the column, and behind it a
colon or an escape. -/
theorem trim_text : Text.trim c.text = c.text := by
  obtain ⟨hhead, -⟩ := Text.trim_eq_self_iff.1 c.writable.trimmed
  rw [Text.trim_eq_self_iff]
  simp only [text, String.toList_append]
  constructor
  · have hne : c.column.toList ≠ [] := by simpa using c.writable.nonempty
    rwa [List.append_assoc, List.head?_append_of_ne_nil _ hne]
  · intro d hd
    have hmem :
        d ∈ [':'] ++ (percentEncode (fun _ => false) c.value.text).toList := by
      rw [← List.append_assoc, ← List.append_assoc,
        List.append_assoc _ ":".toList,
        List.getLast?_append_of_ne_nil _ (by simp)] at hd
      exact List.mem_of_getLast? hd
    rcases List.mem_append.1 hmem with hcolon | hescaped
    · rw [List.mem_singleton.1 hcolon]
      rfl
    · have hblank : escapeChars.all (fun d => !Text.isBlank d) = true := by
        decide
      have hd :=
        (Text.mem_percentEncode hescaped).resolve_left Bool.false_ne_true
      simpa using List.all_eq_true.1 hblank d hd

theorem parse?_text (combinator : Combinator) :
    Clause.parse? c.text [] combinator = some (c.clause combinator) := by
  have hempty : c.column.isEmpty = false := by simpa using c.writable.nonempty
  have hsecond :
      Text.splitOnce ':'
          (c.token ++ ":" ++ percentEncode (fun _ => false) c.value.text) =
        (c.token, some (percentEncode (fun _ => false) c.value.text)) :=
    Text.splitOnce_append rfl c.colon _
  have hfirst : Text.splitOnce ':' c.text =
      (c.column,
        some (c.token ++ ":" ++ percentEncode (fun _ => false) c.value.text)) :=
    Text.splitOnce_append rfl c.writable.colon _
  simp only [Clause.parse?, c.trim_text, hfirst, Option.getD_some, hsecond]
  simp [Aliases.resolve, c.writable.trimmed, hempty, c.known,
    Operand.parse_escaped c.fits, clause]

theorem comma_not_mem_text : ',' ∉ c.text.toList := by
  have hescaped := not_mem_escaped (c := ',') (by decide) c.value.text
  simp [text, c.writable.comma, c.comma, hescaped]

end WrittenClause

/-! ## Groups -/

/-- The group that is meant: its first clause, and alternatives to it. -/
def groupOf : List WrittenClause → List Clause
  | [] => []
  | c :: others => c.clause .and :: others.map (·.clause .or)

theorem joined_clauses (group : List WrittenClause) :
    joined (group.map (·.clause .and)) = groupOf group := by
  cases group with
  | nil => rfl
  | cons c others =>
      rw [List.map_cons, joined, List.map_map]
      rfl

/-- Every part of the text is read. -/
theorem readParts_texts (group : List WrittenClause) :
    readParts [] (group.map (·.text)) = group.map (·.clause .and) := by
  have hread : (fun c : WrittenClause => Clause.parse? c.text [] .and) =
      fun c => some (c.clause .and) := funext fun c => c.parse?_text .and
  rw [readParts, List.filterMap_map, Function.comp_def, hread,
    List.filterMap_eq_map']

abbrev WrittenGroup := { group : List WrittenClause // group ≠ [] }

def WrittenGroup.text (g : WrittenGroup) : String :=
  ",".intercalate (g.1.map (·.text))

theorem clausesIn_text (g : WrittenGroup) :
    clausesIn [] g.text = g.1.map (·.clause .and) := by
  have hsplit : Text.split ',' g.text = g.1.map (·.text) :=
    Text.split_intercalate rfl (by simpa using g.2)
      (List.forall_mem_map.2 fun c _ => c.comma_not_mem_text)
  rw [clausesIn, hsplit, readParts_texts]

theorem ofRaw_texts (groups : List WrittenGroup) :
    (Filter.ofRaw (groups.map (·.text)) []).groups =
      groups.map (groupOf ·.1) := by
  have hclauses : (groups.map (·.text)).map (clausesIn []) =
      groups.map fun g => g.1.map (·.clause .and) := by
    rw [List.map_map]
    exact List.map_congr_left fun g _ => clausesIn_text g
  have hnonempty : ∀ clauses ∈ groups.map fun g => g.1.map (·.clause .and),
      (!clauses.isEmpty) = true :=
    List.forall_mem_map.2 fun g _ => by simpa using g.2
  rw [groups_ofRaw, hclauses, List.filter_eq_self.2 hnonempty, List.map_map]
  exact List.map_congr_left fun g _ => joined_clauses g.1

/-! ## Sorts -/

abbrev WrittenSort := { s : SortTerm // Writable s.column }

def WrittenSort.text (s : WrittenSort) : String :=
  s.1.column ++ ":" ++ s.1.direction.name

theorem Direction.parse?_name (d : Direction) :
    Direction.parse? d.name = some d := by
  cases d <;> decide +kernel

theorem Direction.name_ends (d : Direction) :
    d.name.toList ≠ [] ∧ ∀ c ∈ d.name.toList.getLast?,
      Text.isBlank c = false := by
  refine ⟨by cases d <;> decide, fun c hc => ?_⟩
  cases d <;> exact Option.some.inj hc ▸ rfl

theorem Writable.trim_sort {column : String} (h : Writable column)
    (d : Direction) :
    Text.trim (column ++ ":" ++ d.name) = column ++ ":" ++ d.name := by
  obtain ⟨hhead, -⟩ := Text.trim_eq_self_iff.1 h.trimmed
  have hne : column.toList ≠ [] := by simpa using h.nonempty
  rw [Text.trim_eq_self_iff, String.toList_append, String.toList_append,
    List.getLast?_append_of_ne_nil _ d.name_ends.1, List.append_assoc,
    List.head?_append_of_ne_nil _ hne]
  exact ⟨hhead, d.name_ends.2⟩

theorem Writable.parse?_sort {column : String} (h : Writable column)
    (d : Direction) :
    SortTerm.parse? (column ++ ":" ++ d.name) [] = some ⟨column, d⟩ := by
  have hresolve : Aliases.resolve [] column = column := rfl
  have hempty : column.isEmpty = false := by simpa using h.nonempty
  have hcolon : (column ++ ":" ++ d.name).toList.contains ':' = true := by simp
  have hcut : Text.splitOnce ':' (column ++ ":" ++ d.name) =
      (column, some d.name) :=
    Text.splitOnce_append rfl h.colon d.name
  have htrim := h.trim_sort d
  generalize column ++ ":" ++ d.name = raw at hcolon hcut htrim
  unfold SortTerm.parse?
  rw [hcolon, if_pos rfl, htrim]
  dsimp only
  rw [hcut]
  dsimp only
  rw [Option.getD_some, d.parse?_name]
  dsimp only
  rw [h.trimmed, hresolve, h.trimmed, hempty, if_neg Bool.false_ne_true]

theorem filterMap_sortTexts (sorts : List WrittenSort) :
    (sorts.map (·.text)).filterMap (SortTerm.parse? · []) =
      sorts.map (·.1) := by
  induction sorts with
  | nil => rfl
  | cons s sorts ih =>
      have hparse : SortTerm.parse? s.text [] = some s.1 :=
        s.2.parse?_sort s.1.direction
      rw [List.map_cons, List.filterMap_cons, hparse, ih, List.map_cons]

/-! ## Selected names -/

abbrev SelectName :=
  { name : String // name ≠ "" ∧ ∀ c ∈ name.toList, Descriptor.isSelectChar c }

theorem isLowerAlready_of_isSelectChar {c : Char}
    (h : Descriptor.isSelectChar c = true) :
    Text.isLowerAlready c = true := by
  simp only [Descriptor.isSelectChar, Bool.or_eq_true, beq_iff_eq,
    Text.isAsciiLower, Text.isAsciiDigit, Bool.and_eq_true,
    decide_eq_true_eq] at h
  obtain ((⟨hlow, hhigh⟩ | ⟨hlow, hhigh⟩) | rfl) | rfl := h
  · have hlow : 97 ≤ c.toNat := hlow
    have hhigh : c.toNat ≤ 122 := hhigh
    exact Text.isLowerAlready_of_toNat (by omega) (by omega)
  · have hlow : 48 ≤ c.toNat := hlow
    have hhigh : c.toNat ≤ 57 := hhigh
    exact Text.isLowerAlready_of_toNat (by omega) (by omega)
  · rfl
  · rfl

def selectText (names : List SelectName) : String :=
  ",".intercalate (names.map (·.1))

theorem lower_selectText (names : List SelectName) :
    Text.lower (selectText names) = selectText names := by
  refine Text.lower_eq_self fun c hc => ?_
  rw [selectText, String.toList_intercalate] at hc
  obtain hcomma | ⟨part, hpart, hc⟩ := Text.mem_intercalate hc
  · rw [List.mem_singleton.1 hcomma]
    rfl
  · obtain ⟨s, hs, rfl⟩ := List.mem_map.1 hpart
    obtain ⟨name, -, rfl⟩ := List.mem_map.1 hs
    exact isLowerAlready_of_isSelectChar (name.2.2 c hc)

theorem readSelect_selectText {names : List SelectName} (hne : names ≠ []) :
    Descriptor.readSelect (some (selectText names)) = names.map (·.1) := by
  have hmap : names.map (·.1) ≠ [] := mt List.map_eq_nil_iff.1 hne
  have hsplit : Text.split ',' (selectText names) = names.map (·.1) :=
    Text.split_intercalate rfl hmap
      (List.forall_mem_map.2 fun name _ hmem =>
        absurd (name.2.2 _ hmem) (by decide))
  have hkeep : ((names.map (·.1)).map fun name =>
      String.ofList (name.toList.filter Descriptor.isSelectChar)) =
        names.map (·.1) := by
    rw [List.map_map]
    refine List.map_congr_left fun name _ => ?_
    rw [Function.comp_apply, List.filter_eq_self.2 name.2.2,
      String.ofList_toList]
  have hall : (names.map (·.1)).filter (· ≠ "") = names.map (·.1) := by
    rw [List.filter_eq_self]
    exact List.forall_mem_map.2 fun name _ => decide_eq_true name.2.1
  rw [Descriptor.readSelect, lower_selectText, hsplit, hkeep, hall,
    List.isEmpty_eq_false_iff.2 hmap, if_neg Bool.false_ne_true]

/-! ## Parameters -/

inductive Parameter where
  | filter (group : WrittenGroup)
  | sort (term : WrittenSort)
  | select (names : List SelectName)

namespace Parameter

def key : Parameter → String
  | filter _ => "filter[]"
  | sort _ => "sort[]"
  | select _ => "select"

def value : Parameter → String
  | filter group => group.text
  | sort term => term.text
  | select names => selectText names

def group? : Parameter → Option WrittenGroup
  | filter group => some group
  | _ => none

def sort? : Parameter → Option WrittenSort
  | sort term => some term
  | _ => none

def select? : Parameter → Option (List SelectName)
  | select names => some names
  | _ => none

/-- The text of a parameter; `plain` says which characters are not encoded. -/
def text (plain : Char → Bool) (p : Parameter) : String :=
  p.key ++ "=" ++ percentEncode plain p.value

end Parameter

/-- The query string that sends parameters. -/
def queryText (plain : Parameter → Char → Bool)
    (parameters : List Parameter) : String :=
  "&".intercalate (parameters.map fun p => p.text (plain p))

namespace Parameter

/-- No key has a separator or an escape, and none begins a query with
a question mark. -/
theorem plain_key (p : Parameter) :
    '&' ∉ p.key.toList ∧ '=' ∉ p.key.toList ∧ '%' ∉ p.key.toList ∧
      p.key.toList ≠ [] ∧
      ∀ c ∈ p.key.toList.head?, c ≠ '?' := by
  have hall : ["filter[]", "sort[]", "select"].all (fun key =>
      decide ('&' ∉ key.toList ∧ '=' ∉ key.toList ∧ '%' ∉ key.toList ∧
        key.toList ≠ [] ∧ key.toList.head? ≠ some '?')) = true := by
    decide
  obtain ⟨hampersand, hequals, hpercent, hne, hhead⟩ :=
    of_decide_eq_true
      (List.all_eq_true.1 hall p.key (by cases p <;> simp [key]))
  exact ⟨hampersand, hequals, hpercent, hne, fun c hc hmark =>
    hhead (hmark ▸ hc)⟩

variable {plain : Char → Bool} (p : Parameter)

theorem ampersand_not_mem_text (hplain : plain '&' = false) :
    '&' ∉ (p.text plain).toList := by
  have hvalue : '&' ∉ (percentEncode plain p.value).toList := fun hmem =>
    (Text.mem_percentEncode hmem).elim
      (fun h => absurd (hplain ▸ h) Bool.false_ne_true) (by decide)
  simp [text, p.plain_key.1, hvalue]

theorem readPair_text (hplain : plain '%' = false) :
    Params.readPair (p.text plain) = (p.key, p.value) := by
  obtain ⟨-, hequals, hpercent, -, -⟩ := p.plain_key
  have hcut : Text.splitOnce '=' (p.text plain) =
      (p.key, some (percentEncode plain p.value)) :=
    Text.splitOnce_append rfl hequals _
  rw [Params.readPair, hcut]
  dsimp only
  rw [Option.getD_some, Text.percentDecode_of_not_mem hpercent,
    Text.percentDecode_percentEncode hplain]

theorem head_text (plain : Char → Bool) :
    (p.text plain).toList ≠ [] ∧
      ∀ c ∈ (p.text plain).toList.head?, c ≠ '?' := by
  obtain ⟨-, -, -, hne, hhead⟩ := p.plain_key
  rw [text, String.toList_append, String.toList_append, List.append_assoc]
  refine ⟨List.append_ne_nil_of_left_ne_nil hne _, ?_⟩
  rwa [List.head?_append_of_ne_nil _ hne]

end Parameter

/-! ## The query -/

section

variable {plain : Parameter → Char → Bool} {parameters : List Parameter}

theorem parse_queryText
    (hplain : ∀ p ∈ parameters, plain p '%' = false ∧ plain p '&' = false)
    (hne : parameters ≠ []) :
    Params.parse (queryText plain parameters) =
      ⟨parameters.map fun p => (p.key, p.value)⟩ := by
  have hdrop : (queryText plain parameters).toList.dropWhile (· == '?') =
      (queryText plain parameters).toList := by
    obtain ⟨p, others, rfl⟩ := List.exists_cons_of_ne_nil hne
    obtain ⟨hnonempty, hhead⟩ := p.head_text (plain p)
    have hfirst : (queryText plain (p :: others)).toList.head? =
        (p.text (plain p)).toList.head? := by
      rw [queryText, String.toList_intercalate]
      exact Text.head_intercalate hnonempty _
    rw [← hfirst] at hhead
    cases hchars : (queryText plain (p :: others)).toList with
    | nil => rfl
    | cons c rest =>
        rw [hchars] at hhead
        rw [List.dropWhile_cons, if_neg (by simpa using hhead c rfl)]
  have hsplit : Text.split '&' (queryText plain parameters) =
      parameters.map fun p => p.text (plain p) :=
    Text.split_intercalate rfl (mt List.map_eq_nil_iff.1 hne)
      (List.forall_mem_map.2 fun p hp =>
        p.ampersand_not_mem_text (hplain p hp).2)
  have hall : (parameters.map fun p => p.text (plain p)).filter (· ≠ "") =
      parameters.map fun p => p.text (plain p) := by
    rw [List.filter_eq_self]
    refine List.forall_mem_map.2 fun p _ => decide_eq_true fun hempty => ?_
    exact (p.head_text (plain p)).1 (by rw [hempty]; rfl)
  rw [Params.parse, hdrop, String.ofList_toList, hsplit, hall, List.map_map]
  exact congrArg _ (List.map_congr_left fun p hp =>
    p.readPair_text (hplain p hp).1)

/-- The values of a name, where the parameters of that name are
those of one kind. -/
theorem all_parameters {α : Type} {name : String} {part? : Parameter → Option α}
    {text : α → String}
    (hkind : ∀ p : Parameter, if Params.baseKey p.key = name then
      (part? p).map text = some p.value
      else part? p = none) (parameters : List Parameter) :
    (Params.mk (parameters.map fun p => (p.key, p.value))).all name =
      (parameters.filterMap part?).map text := by
  rw [Params.all]
  induction parameters with
  | nil => rfl
  | cons p parameters ih =>
      have hp := hkind p
      rw [List.map_cons, List.filter_cons]
      split at hp
      · next hname =>
          obtain ⟨part, hpart, htext⟩ := Option.map_eq_some_iff.1 hp
          rw [if_pos (beq_iff_eq.2 hname), List.map_cons, ih,
            List.filterMap_cons_some hpart, List.map_cons, htext]
      · next hname =>
          rw [if_neg (mt beq_iff_eq.1 hname), ih, List.filterMap_cons_none hp]

theorem baseKey_key (p : Parameter) : Params.baseKey p.key =
    match p with
    | .filter _ => "filter"
    | .sort _ => "sort"
    | .select _ => "select" := by
  have hall : Params.baseKey "filter[]" = "filter" ∧
      Params.baseKey "sort[]" = "sort" ∧
      Params.baseKey "select" = "select" := by
    decide
  cases p with
  | filter _ => exact hall.1
  | sort _ => exact hall.2.1
  | select _ => exact hall.2.2

/-- Whatever groups of clauses, sorts and names a request is to send, and in
whatever order it sends them, the descriptor that is read has exactly these. -/
theorem query_is_read_as_written
    {groups : List WrittenGroup} {sorts : List WrittenSort}
    {names : List SelectName}
    (hplain : ∀ p ∈ parameters, plain p '%' = false ∧ plain p '&' = false)
    (hgroups : parameters.filterMap Parameter.group? = groups)
    (hsorts : parameters.filterMap Parameter.sort? = sorts)
    (hselect : parameters.filterMap Parameter.select? = [names])
    (hnames : names ≠ []) (method : String) (pageSize : Nat) :
    let d := Descriptor.ofParams (Params.parse (queryText plain parameters))
      method [] pageSize
    d.filter.groups = groups.map (groupOf ·.1) ∧ d.sorts = sorts.map (·.1) ∧
      d.selected = names.map (·.1) := by
  have hne : parameters ≠ [] := by
    rintro rfl
    simp at hselect
  have hfilterAll :
      (Params.mk (parameters.map fun p => (p.key, p.value))).all "filter" =
        groups.map (·.text) := by
    rw [← hgroups]
    refine all_parameters (fun p => ?_) parameters
    rw [baseKey_key]
    cases p <;> simp [Parameter.group?, Parameter.value]
  have hsortAll :
      (Params.mk (parameters.map fun p => (p.key, p.value))).all "sort" =
        sorts.map (·.text) := by
    rw [← hsorts]
    refine all_parameters (fun p => ?_) parameters
    rw [baseKey_key]
    cases p <;> simp [Parameter.sort?, Parameter.value]
  have hselectAll :
      (Params.mk (parameters.map fun p => (p.key, p.value))).all "select" =
        [selectText names] := by
    rw [← List.map_singleton, ← hselect]
    refine all_parameters (fun p => ?_) parameters
    rw [baseKey_key]
    cases p <;> simp [Parameter.select?, Parameter.value]
  rw [parse_queryText hplain hne]
  refine ⟨?_, ?_, ?_⟩
  · rw [Descriptor.ofParams, hfilterAll, ofRaw_texts]
  · rw [Descriptor.ofParams, hsortAll, filterMap_sortTexts]
  · rw [Descriptor.ofParams, Params.get?, hselectAll, List.getLast?_singleton,
      readSelect_selectText hnames]

/-- A column that needs no escapes, and one clause whose value has separators of
every level. -/
theorem writable_name : Writable "name" where
  nonempty := by decide
  trimmed := by decide
  colon := by decide
  comma := by decide

def nameColumn : SelectName :=
  ⟨"name", by decide, List.all_eq_true.1 (by decide)⟩

def separatorClause : WrittenClause where
  column := "name"
  token := "neq"
  operator := .eq
  negate := true
  value := .single "a,b:c|d&e=%"
  writable := writable_name
  known := (Operator.known_of_mem_tokens (by decide)).1
  colon := by decide
  comma := by decide
  fits := ⟨by decide, rfl⟩

theorem separators_are_read_as_written :
    let text := "sort[]=name:desc&filter[]=name:neq:" ++
      "%2561%252C%2562%253A%2563%257C%2564%2526%2565%253D%2525&select=name"
    let d := Descriptor.ofParams (Params.parse text) "GET" [] 15
    d.filter.groups = [[⟨"name", .eq, .single "a,b:c|d&e=%", true, .and⟩]] ∧
      d.sorts = [⟨"name", .desc⟩] ∧ d.selected = ["name"] := by
  have hread := @query_is_read_as_written (fun _ c => c != '%' && c != '&')
    [.sort ⟨⟨"name", .desc⟩, writable_name⟩,
      .filter ⟨[separatorClause], List.cons_ne_nil _ _⟩, .select [nameColumn]]
    _ _ _ (fun _ _ => ⟨rfl, rfl⟩) rfl rfl rfl (List.cons_ne_nil _ _) "GET" 15
  have htext :
      "sort[]=name:desc&filter[]=name:neq:" ++
        "%2561%252C%2562%253A%2563%257C%2564%2526%2565%253D%2525&select=name" =
      queryText (fun _ c => c != '%' && c != '&')
        [.sort ⟨⟨"name", .desc⟩, writable_name⟩,
          .filter ⟨[separatorClause], List.cons_ne_nil _ _⟩,
          .select [nameColumn]] := by
    decide +kernel
  rw [← htext] at hread
  exact hread

end

end TenantTables.Query
