import TenantTables.Sql.Definition

/-!
# A quoted identifier ends where it was written to end

A reader of SQL knows where an identifier begins, by its opening quote. It ends
at the first quote behind which there is no other one, and two quotes in a row
are one of its characters. Since every quote inside an identifier is written
twice, quotes come in pairs up to the one that closes, however many the
identifier has and wherever they stand. The last of them would only find a
partner in the text that follows, so the reader gets back the identifier and
that text exactly if the text does not begin with a quote itself.

So no identifier can end its own quotation, and in front of such texts two
identifiers never look alike.
-/

namespace TenantTables.Sql

/-! ## Reading -/

/-- What stands in front of the first quote that is not doubled, with one quote
for each two, and what stands behind it. -/
def untilQuote : List Char → Option (List Char × List Char)
  | [] => none
  | '"' :: '"' :: cs => (untilQuote cs).map fun (name, rest) =>
      ('"' :: name, rest)
  | c :: cs =>
      if c = '"' then some ([], cs)
      else (untilQuote cs).map fun (name, rest) => (c :: name, rest)

/-- The quoted identifier that a text begins with, and the text behind it. -/
def readQuoted? (text : String) : Option (String × String) :=
  match text.toList with
  | '"' :: cs => (untilQuote cs).map fun (name, rest) =>
      (String.ofList name, String.ofList rest)
  | _ => none

/-- A text that would go on with a quoted identifier in front of it. -/
def BeginsWithQuote (text : String) : Prop := text.toList.head? = some '"'

instance (text : String) : Decidable (BeginsWithQuote text) :=
  inferInstanceAs (Decidable (_ = _))

/-- Every quote twice. -/
def doubled (name : List Char) : List Char :=
  name.flatMap fun c => if c = '"' then ['"', '"'] else [c]

theorem toList_quote (name : String) :
    (quote name).toList = '"' :: (doubled name.toList ++ ['"']) := by
  simp [quote, Text.substitute, doubled]

variable {name rest cs : List Char}

theorem untilQuote_of_ne {c : Char} (hc : c ≠ '"') (cs : List Char) :
    untilQuote (c :: cs) = (untilQuote cs).map fun (name, rest) =>
      (c :: name, rest) := by
  rw [untilQuote.eq_def]
  split
  · next heq => cases heq
  · next heq => exact absurd (List.cons.inj heq).1 hc
  · next heq =>
      obtain ⟨rfl, rfl⟩ := List.cons.inj heq
      rw [if_neg hc]

theorem untilQuote_closed (h : rest.head? ≠ some '"') :
    untilQuote ('"' :: rest) = some ([], rest) := by
  rw [untilQuote.eq_def]
  split
  · next heq => cases heq
  · next heq =>
      obtain ⟨-, rfl⟩ := List.cons.inj heq
      exact absurd rfl h
  · next heq =>
      obtain ⟨rfl, rfl⟩ := List.cons.inj heq
      rw [if_pos rfl]

theorem doubled_quote (name : List Char) :
    doubled ('"' :: name) = '"' :: '"' :: doubled name := rfl

theorem doubled_of_ne {c : Char} (hc : c ≠ '"') (name : List Char) :
    doubled (c :: name) = c :: doubled name := by
  rw [doubled, List.flatMap_cons, if_neg hc]
  rfl

/-- The quotes of an identifier are read in pairs, whatever follows. -/
theorem untilQuote_doubled_append (name cs : List Char) :
    untilQuote (doubled name ++ cs) =
      (untilQuote cs).map fun (more, rest) => (name ++ more, rest) := by
  induction name with
  | nil => exact Option.map_id'.symm
  | cons c name ih =>
      by_cases hc : c = '"'
      · subst hc
        rw [doubled_quote, List.cons_append, List.cons_append, untilQuote, ih,
          Option.map_map]
        rfl
      · rw [doubled_of_ne hc, List.cons_append, untilQuote_of_ne hc, ih,
          Option.map_map]
        rfl

/-- What is read is an identifier that was written with its quotes doubled. -/
theorem eq_doubled_of_untilQuote (h : untilQuote cs = some (name, rest)) :
    cs = doubled name ++ '"' :: rest ∧ rest.head? ≠ some '"' := by
  fun_induction untilQuote cs generalizing name with
  | case1 => cases h
  | case2 cs ih =>
      obtain ⟨⟨name', rest'⟩, hread, heq⟩ := Option.map_eq_some_iff.1 h
      obtain ⟨rfl, rfl⟩ := Prod.mk.inj heq
      obtain ⟨rfl, hrest⟩ := ih hread
      exact ⟨rfl, hrest⟩
  | case3 cs hsingle =>
      obtain ⟨rfl, rfl⟩ := Prod.mk.inj (Option.some.inj h)
      refine ⟨rfl, fun hhead => ?_⟩
      obtain ⟨cs', rfl⟩ := List.head?_eq_some_iff.1 hhead
      exact hsingle cs' rfl rfl
  | case4 c cs hpair hc ih =>
      obtain ⟨⟨name', rest'⟩, hread, heq⟩ := Option.map_eq_some_iff.1 h
      obtain ⟨rfl, rfl⟩ := Prod.mk.inj heq
      obtain ⟨rfl, hrest⟩ := ih hread
      rw [doubled_of_ne hc]
      exact ⟨rfl, hrest⟩

/-! ## Identifiers in front of a text -/

/-- Behind an identifier reading ends, or goes on with the one that follows. -/
theorem readQuoted?_quote_append (name text : String) :
    readQuoted? (quote name ++ text) =
      if BeginsWithQuote text then
        (readQuoted? text).map fun (more, rest) => (name ++ "\"" ++ more, rest)
      else some (name, text) := by
  have hread :
      readQuoted? (quote name ++ text) = (untilQuote ('"' :: text.toList)).map
      fun (more, rest) => (name ++ String.ofList more, String.ofList rest) := by
    rw [readQuoted?, String.toList_append, toList_quote]
    simp only [List.cons_append, List.append_assoc, List.nil_append]
    rw [untilQuote_doubled_append, Option.map_map]
    simp [Function.comp_def, String.ofList_append]
  rw [hread]
  split
  · next hquote =>
      obtain ⟨cs, htext⟩ := List.head?_eq_some_iff.1 hquote
      rw [readQuoted?, htext, untilQuote]
      simp only [Option.map_map]
      congr 1
      funext ⟨more, rest⟩
      simp [← String.toList_inj]
  · next hquote =>
      rw [untilQuote_closed hquote]
      simp

/-- Reading accepts exactly what quoting writes in front of a text that does
not go on with it. -/
theorem readQuoted?_eq_some_iff {text name rest : String} :
    readQuoted? text = some (name, rest) ↔
      text = quote name ++ rest ∧ ¬ BeginsWithQuote rest := by
  constructor
  · intro h
    rw [readQuoted?] at h
    split at h
    · next cs htext =>
        obtain ⟨⟨name', rest'⟩, hread, heq⟩ := Option.map_eq_some_iff.1 h
        obtain ⟨rfl, rfl⟩ := Prod.mk.inj heq
        obtain ⟨rfl, hrest⟩ := eq_doubled_of_untilQuote hread
        refine ⟨?_, by rwa [BeginsWithQuote, String.toList_ofList]⟩
        rw [← String.toList_inj, htext, String.toList_append, toList_quote]
        simp
    · cases h
  · rintro ⟨rfl, hrest⟩
    rw [readQuoted?_quote_append, if_neg hrest]

/-- Whatever is behind an identifier, reading gets past its last character and
leaves no more than what is behind it. -/
theorem quoted_within {name text read rest : String}
    (h : readQuoted? (quote name ++ text) = some (read, rest)) :
    ∃ more between, read = name ++ more ∧ text = between ++ rest := by
  rw [readQuoted?_quote_append] at h
  split at h
  · obtain ⟨⟨more, rest'⟩, hread, heq⟩ := Option.map_eq_some_iff.1 h
    obtain ⟨rfl, rfl⟩ := Prod.mk.inj heq
    exact ⟨"\"" ++ more, quote more, String.append_assoc ..,
      (readQuoted?_eq_some_iff.1 hread).1⟩
  · obtain ⟨rfl, rfl⟩ := Prod.mk.inj (Option.some.inj h)
    exact ⟨"", "", String.append_empty.symm, String.empty_append.symm⟩

/-- In front of texts that do not go on with them, two identifiers
never look alike. -/
theorem eq_of_quote_append_eq {name other rest behind : String}
    (hrest : ¬ BeginsWithQuote rest) (hbehind : ¬ BeginsWithQuote behind)
    (h : quote name ++ rest = quote other ++ behind) :
    name = other ∧ rest = behind := by
  have hread := readQuoted?_eq_some_iff.2 ⟨h, hbehind⟩
  rw [readQuoted?_eq_some_iff.2 ⟨rfl, hrest⟩] at hread
  exact Prod.mk.inj (Option.some.inj hread)

/-- A quoted identifier is read back, and the text behind it is left, exactly if
that text does not begin with a quote. So no two identifiers look alike in front
of such texts, and none ends its own quotation in front of any text. -/
theorem quoted_name_is_read_back (name rest : String) :
    (readQuoted? (quote name ++ rest) = some (name, rest) ↔
      ¬ BeginsWithQuote rest) ∧
    (∀ other behind, ¬ BeginsWithQuote rest → ¬ BeginsWithQuote behind →
      quote name ++ rest = quote other ++ behind →
      name = other ∧ rest = behind) ∧
    ∀ read behind, readQuoted? (quote name ++ rest) = some (read, behind) →
      ∃ more between, read = name ++ more ∧ rest = between ++ behind :=
  ⟨⟨fun h => (readQuoted?_eq_some_iff.1 h).2, fun h =>
    readQuoted?_eq_some_iff.2 ⟨rfl, h⟩⟩,
    fun _ _ => eq_of_quote_append_eq, fun _ _ => quoted_within⟩

-- quotes at both ends and in the middle, and a text that would do harm outside
example : readQuoted? (quote "\"\"; DROP TABLE \"t\"\"" ++ " CASCADE") =
    some ("\"\"; DROP TABLE \"t\"\"", " CASCADE") := by
  cbv

-- a quote behind it goes on with the identifier
example :
    readQuoted? (quote "a" ++ "\"b\" CASCADE") = some ("a\"b", " CASCADE") := by
  cbv

/-! ## What a definition tells about its table -/

theorem head?_append {front : String} {c : Char}
    (h : front.toList.head? = some c) (rest : String) :
    (front ++ rest).toList.head? = some c := by
  rw [String.toList_append, List.head?_append, h]
  rfl

theorem not_beginsWithQuote_append {front : String} {c : Char}
    (h : front.toList.head? = some c) (hne : c ≠ '"') (rest : String) :
    ¬ BeginsWithQuote (front ++ rest) := by
  rw [BeginsWithQuote, head?_append h]
  simpa using hne

variable {spec spec' : TableSpec} {t u : String} {i j : Index}

/-- Statements of one kind that are the same are about the same table, and say
the same about it. -/
theorem eq_of_statement_eq {verb name other rest behind : String}
    (hrest : ¬ BeginsWithQuote rest) (hbehind : ¬ BeginsWithQuote behind)
    (h : verb ++ (quote name ++ rest) = verb ++ (quote other ++ behind)) :
    name = other ∧ rest = behind :=
  eq_of_quote_append_eq hrest hbehind ((String.append_right_inj verb).1 h)

/-- Of two tables no definition is the same, whatever their layouts are. -/
theorem table_of_createTable
    (h : createTable spec t = createTable spec' u) : t = u := by
  unfold createTable at h
  simp only [String.append_assoc] at h
  exact (eq_of_statement_eq (not_beginsWithQuote_append rfl (by decide) _)
    (not_beginsWithQuote_append rfl (by decide) _) h).1

theorem table_of_dropTable (h : dropTable t = dropTable u) : t = u := by
  unfold dropTable at h
  simp only [String.append_assoc] at h
  exact (eq_of_statement_eq (by decide) (by decide) h).1

theorem table_of_truncateTable
    (h : truncateTable t = truncateTable u) : t = u := by
  unfold truncateTable at h
  simp only [String.append_assoc] at h
  exact (eq_of_statement_eq (by decide) (by decide) h).1

theorem head?_kind (unique : Bool) (rest : String) :
    ((if unique then "UNIQUE " else "") ++
      ("INDEX IF NOT EXISTS " ++ rest)).toList.head? =
      some (if unique then 'U' else 'I') := by
  cases unique with
  | false =>
      rw [if_neg Bool.false_ne_true, String.empty_append]
      exact head?_append rfl rest
  | true => exact head?_append rfl _

theorem unique_of_createIndex (h : createIndex t i = createIndex u j) :
    i.unique = j.unique := by
  have htold : ∀ unique unique' : Bool, some (if unique then 'U' else 'I') =
      some (if unique' then 'U' else 'I') → unique = unique' := by decide
  unfold createIndex at h
  simp only [String.append_assoc] at h
  have hhead := congrArg (·.toList.head?) ((String.append_right_inj _).1 h)
  rw [head?_kind, head?_kind] at hhead
  exact htold _ _ hhead

/-- Of two indexes no definition is the same. -/
theorem table_of_createIndex (h : createIndex t i = createIndex u j) :
    t = u ∧ indexName t i = indexName u j ∧ i.unique = j.unique := by
  have hunique := unique_of_createIndex h
  unfold createIndex at h
  simp only [hunique, String.append_assoc] at h
  have hindex := (String.append_right_inj _).1 ((String.append_right_inj _).1 h)
  obtain ⟨hname, hbehind⟩ :=
    eq_of_statement_eq (not_beginsWithQuote_append rfl (by decide) _)
      (not_beginsWithQuote_append rfl (by decide) _) hindex
  obtain ⟨htable, -⟩ :=
    eq_of_statement_eq (not_beginsWithQuote_append rfl (by decide) _)
      (not_beginsWithQuote_append rfl (by decide) _) hbehind
  exact ⟨htable, hname, hunique⟩

end TenantTables.Sql
