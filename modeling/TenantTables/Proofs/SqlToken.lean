import Mathlib.Data.List.Forall2
import TenantTables.Sql.Statement

/-!
# Reading a statement

Where a statement has its placeholders can be read off its text without a
grammar: outside quoted identifiers, a dollar sign with the digits behind it is
one, and a type may stand behind it that it is cast to. Identifiers are read
along with them. Text literals are not told apart, so a dollar sign inside of
one would count as well.

A text is put together from parts. An identifier and a placeholder both end
only where something else begins, since another quote would go on with the one
and another digit or letter with the other. So `Reads` tells what a text is read
as in front of what begins with none of these, and `Closed` what it is read as
in front of anything; plain text behind the one makes the other of it.
-/

namespace TenantTables.Sql

/-- What is read of a statement: an identifier, or what stands
at a placeholder. -/
inductive Token (α : Type) where
  | name (s : String)
  | place (a : α)
  deriving DecidableEq, Repr

/-- Puts something else at every placeholder. -/
def Token.map {α β : Type} (f : α → β) : Token α → Token β
  | .name s => .name s
  | .place a => .place (f a)

/-- The number that the digits in front of a text write. -/
def leadingNumber (cs : List Char) : Nat :=
  Nat.ofDigitChars 10 (cs.takeWhile Char.isDigit) 0

/-- The type in front of a text, if the text begins with a cast. -/
def leadingCast? : List Char → Option String
  | ':' :: ':' :: cs => some (String.ofList (cs.takeWhile Char.isAlpha))
  | _ => none

/-- A placeholder: its number, and the type that it is cast to. -/
structure Place where
  number : Nat
  cast : Option String
  deriving DecidableEq, Repr

/-- The placeholder whose dollar sign stands in front of a text. -/
def Place.before (cs : List Char) : Place :=
  ⟨leadingNumber cs, leadingCast? (cs.dropWhile Char.isDigit)⟩

/-- The identifiers and placeholders of a text, with what `site` makes of the
text behind the dollar sign at every placeholder. Inside an identifier its
characters so far are given, and a doubled quote is one of them. -/
def tokensFrom {α : Type} (site : List Char → α) :
    Option (List Char) → List Char → List (Token α)
  | none, [] => []
  | none, c :: cs =>
      if c = '"' then tokensFrom site (some []) cs
      else if c = '$' then .place (site cs) :: tokensFrom site none cs
      else tokensFrom site none cs
  | some name, [] => [.name (String.ofList name)]
  | some name, c :: cs =>
      if c = '"' then
        match cs with
        | '"' :: cs => tokensFrom site (some (name ++ ['"'])) cs
        | cs => .name (String.ofList name) :: tokensFrom site none cs
      else tokensFrom site (some (name ++ [c])) cs

/-- The identifiers and the numbers of the placeholders of a
statement in order. -/
def tokens (sql : String) : List (Token Nat) :=
  tokensFrom leadingNumber none sql.toList

/-- Text without quotes and dollar signs. -/
def Plain (text : String) : Prop :=
  (text.toList.all fun c => c != '"' && c != '$') = true

/-- What goes on with neither an identifier nor a placeholder. -/
def Ends (rest : List Char) : Prop :=
  (rest.head?.all fun c => c != '"' && !c.isAlphanum) = true

/-- Plain text that ends what is in front of it. -/
def Separates (text : String) : Prop :=
  Plain text ∧ text ≠ "" ∧ Ends text.toList

/-- A type that something can be cast to. -/
def IsTypeName (type : String) : Prop :=
  type.toList.all Char.isAlpha = true

instance (text : String) : Decidable (Plain text) :=
  inferInstanceAs (Decidable (_ = _))

instance (rest : List Char) : Decidable (Ends rest) :=
  inferInstanceAs (Decidable (_ = _))

instance (text : String) : Decidable (Separates text) :=
  inferInstanceAs (Decidable (_ ∧ _))

instance (type : String) : Decidable (IsTypeName type) :=
  inferInstanceAs (Decidable (_ = _))

variable {α : Type}

/-- What a text is read as in front of what ends it. -/
def Reads (site : List Char → α) (text : String) (ts : List (Token α)) : Prop :=
  ∀ rest, Ends rest →
    tokensFrom site none (text.toList ++ rest) = ts ++ tokensFrom site none rest

/-- What a text is read as in front of anything. -/
def Closed (site : List Char → α) (text : String)
    (ts : List (Token α)) : Prop :=
  ∀ rest,
    tokensFrom site none (text.toList ++ rest) = ts ++ tokensFrom site none rest

section Parts

variable {site : List Char → α} {a b : String}
  {ts us : List (Token α)} {rest : List Char}

/-! ## Putting texts together -/

theorem Ends.append_of_ne_nil {cs : List Char} (h : Ends cs) (hne : cs ≠ [])
    (rest : List Char) :
    Ends (cs ++ rest) := by
  cases cs with
  | nil => exact absurd rfl hne
  | cons _ _ => exact h

theorem Ends.append {cs : List Char} (hcs : Ends cs) (hrest : Ends rest) :
    Ends (cs ++ rest) := by
  cases cs with
  | nil => exact hrest
  | cons _ _ => exact hcs

theorem tokensFrom_plain {cs : List Char}
    (h : (cs.all fun c => c != '"' && c != '$') = true) (rest : List Char) :
    tokensFrom site none (cs ++ rest) = tokensFrom site none rest := by
  induction cs with
  | nil => rfl
  | cons c cs ih =>
      simp only [List.all_cons, Bool.and_eq_true, bne_iff_ne] at h
      rw [List.cons_append, tokensFrom, if_neg h.1.1, if_neg h.1.2]
      exact ih (by simpa using h.2)

theorem closed_plain (a : String) (h : Plain a) : Closed site a [] :=
  fun rest => tokensFrom_plain h rest

theorem Closed.reads (h : Closed site a ts) : Reads site a ts :=
  fun rest _ => h rest

theorem Reads.tokens_eq {ts : List (Token Nat)} (h : Reads leadingNumber a ts) :
    tokens a = ts := by
  simpa [tokens, tokensFrom] using h [] rfl

theorem Closed.append (ha : Closed site a ts) (hb : Closed site b us) :
    Closed site (a ++ b) (ts ++ us) := by
  intro rest
  rw [String.toList_append, List.append_assoc, ha, hb, List.append_assoc]

theorem Closed.plain (ha : Closed site a ts) (b : String) (hb : Plain b) :
    Closed site (a ++ b) ts := by
  simpa using ha.append (closed_plain b hb)

theorem Closed.append_reads (ha : Closed site a ts) (hb : Reads site b us) :
    Reads site (a ++ b) (ts ++ us) := by
  intro rest hrest
  rw [String.toList_append, List.append_assoc, ha, hb rest hrest,
    List.append_assoc]

theorem Reads.append (ha : Reads site a ts) (hb : Reads site b us)
    (hends : Ends b.toList) :
    Reads site (a ++ b) (ts ++ us) := by
  intro rest hrest
  rw [String.toList_append, List.append_assoc, ha _ (hends.append hrest),
    hb rest hrest, List.append_assoc]

theorem Reads.append_closed (ha : Reads site a ts) (hb : Closed site b us)
    (hne : b ≠ "") (hends : Ends b.toList) :
    Closed site (a ++ b) (ts ++ us) := by
  intro rest
  have hlist : b.toList ≠ [] := fun h => hne (String.toList_eq_nil_iff.1 h)
  rw [String.toList_append, List.append_assoc,
    ha _ (hends.append_of_ne_nil hlist rest), hb, List.append_assoc]

/-- Plain text closes what is in front of it. -/
theorem Reads.close (ha : Reads site a ts) (b : String) (hb : Separates b) :
    Closed site (a ++ b) ts := by
  simpa using ha.append_closed (closed_plain b hb.1) hb.2.1 hb.2.2

/-- Texts with plain text between them. -/
theorem reads_intercalate {separator : String} (hs : Separates separator)
    {texts : List String} {tss : List (List (Token α))}
    (h : List.Forall₂ (Reads site) texts tss) :
    Reads site (separator.intercalate texts) tss.flatten := by
  induction h with
  | nil =>
      rw [String.intercalate_nil]
      exact (closed_plain "" (by decide)).reads
  | cons ha hs' ih =>
      cases hs' with
      | nil => simpa using ha
      | cons _ _ =>
          rw [String.intercalate_cons_cons, List.flatten_cons]
          exact (ha.close separator hs).append_reads ih

theorem reads_intercalate_map {ι : Type} {separator : String}
    (hs : Separates separator) (text : ι → String) (read : ι → List (Token α))
    (xs : List ι) (h : ∀ x ∈ xs, Reads site (text x) (read x)) :
    Reads site (separator.intercalate (xs.map text)) (xs.flatMap read) :=
  reads_intercalate hs
    (List.forall₂_map_left_iff.2 (List.forall₂_map_right_iff.2
    (List.forall₂_same.2 h)))

/-! ## Identifiers -/

theorem tokensFrom_doubled (name cs : List Char) :
    tokensFrom site (some name) ('"' :: '"' :: cs) =
      tokensFrom site (some (name ++ ['"'])) cs := rfl

theorem tokensFrom_ended (name : List Char) (hrest : Ends rest) :
    tokensFrom site (some name) ('"' :: rest) =
      .name (String.ofList name) :: tokensFrom site none rest := by
  cases rest with
  | nil => rfl
  | cons c cs =>
      have hc : c ≠ '"' := by
        rintro rfl
        simp [Ends] at hrest
      rw [tokensFrom.eq_def]
      simp [hc]

theorem tokensFrom_inside (name cs : List Char) {c : Char} (hc : c ≠ '"') :
    tokensFrom site (some name) (c :: cs) =
      tokensFrom site (some (name ++ [c])) cs := by
  rw [tokensFrom.eq_def]
  simp only [hc, if_false]

theorem tokensFrom_quoted (name cs : List Char) (hrest : Ends rest) :
    tokensFrom site (some name)
        ((cs.flatMap fun c => if c = '"' then ['"', '"'] else [c]) ++
          '"' :: rest) =
      .name (String.ofList (name ++ cs)) :: tokensFrom site none rest := by
  induction cs generalizing name with
  | nil =>
      rw [List.flatMap_nil, List.nil_append, List.append_nil,
        tokensFrom_ended name hrest]
  | cons c cs ih =>
      rw [List.flatMap_cons, List.append_cons name c cs]
      by_cases hc : c = '"'
      · subst hc
        rw [if_pos rfl, List.cons_append, List.cons_append, List.cons_append,
          List.cons_append, List.nil_append, tokensFrom_doubled, ih]
      · rw [if_neg hc, List.cons_append, List.cons_append, List.nil_append,
          tokensFrom_inside name _ hc, ih]

theorem reads_quote (s : String) : Reads site (quote s) [.name s] := by
  intro rest hrest
  have htext : (quote s).toList ++ rest =
      '"' :: ((s.toList.flatMap fun c => if c = '"' then ['"', '"'] else [c]) ++
        '"' :: rest) := by
    simp [quote, Text.substitute]
  rw [htext, tokensFrom, if_pos rfl, tokensFrom_quoted [] s.toList hrest]
  simp

/-- Identifiers with plain text between them. -/
theorem reads_intercalate_quote {separator : String} (hs : Separates separator)
    (names : List String) :
    Reads site (separator.intercalate (names.map quote)) (names.map .name) := by
  rw [List.map_eq_flatMap (f := Token.name)]
  exact reads_intercalate_map hs quote _ names fun s _ => reads_quote s

/-! ## Placeholders -/

/-- What is made of the placeholders can be made of them afterwards. -/
theorem map_tokensFrom {β : Type} (site : List Char → α) (f : α → β)
    (name : Option (List Char)) (cs : List Char) :
    (tokensFrom site name cs).map (Token.map f) =
      tokensFrom (f ∘ site) name cs := by
  fun_induction tokensFrom site name cs with
  | case1 | case5 => rfl
  | case2 cs ih => exact ih
  | case3 cs hquote ih => exact congrArg (_ :: ·) ih
  | case4 c cs hquote hdollar ih =>
      rw [tokensFrom, if_neg hquote, if_neg hdollar, ih]
  | case6 name cs ih => exact ih
  | case7 name cs hcs ih =>
      rw [List.map_cons, ih]
      simp [tokensFrom, Token.map]
  | case8 name c cs hquote ih => rw [tokensFrom_inside name cs hquote, ih]

theorem Reads.map {β : Type} (h : Reads site a ts) (f : α → β) :
    Reads (f ∘ site) a (ts.map (Token.map f)) := by
  intro rest hrest
  rw [← map_tokensFrom, h rest hrest, List.map_append, map_tokensFrom]

theorem all_isDigit_toString (n : Nat) :
    ∀ c ∈ (toString n).toList, c.isDigit = true := by
  intro c hc
  rw [Nat.toString_eq_repr, Nat.toList_repr] at hc
  exact Nat.isDigit_of_mem_toDigits (by decide) (by decide) hc

theorem plain_toString (n : Nat) : Plain (toString n) := by
  refine List.all_eq_true.2 fun c hc => ?_
  have hdigit := all_isDigit_toString n c hc
  rw [Bool.and_eq_true, bne_iff_ne, bne_iff_ne]
  constructor <;> rintro rfl <;> exact absurd hdigit (by decide)

/-- A run of letters or digits is as long as written in front
of what ends it. -/
theorem run_in_front_of {p : Char → Bool}
    (hp : ∀ c, p c = true → c.isAlphanum = true) {cs : List Char}
    (hcs : ∀ c ∈ cs, p c = true) (hrest : Ends rest) :
    (cs ++ rest).takeWhile p = cs ∧ (cs ++ rest).dropWhile p = rest := by
  rw [List.takeWhile_append_of_pos hcs, List.dropWhile_append_of_pos hcs]
  cases rest with
  | nil => simp
  | cons c rest =>
      rw [Ends, List.head?_cons, Option.all_some, Bool.and_eq_true,
        Bool.not_eq_true'] at hrest
      have hc : p c = false :=
        Bool.eq_false_iff.2 fun h =>
          Bool.false_ne_true (hrest.2.symm.trans (hp c h))
      simp [hc]

theorem before_toString (n : Nat) (hrest : Ends rest) :
    Place.before ((toString n).toList ++ rest) = ⟨n, leadingCast? rest⟩ := by
  obtain ⟨htake, hdrop⟩ :=
    run_in_front_of (by simp +contextual [Char.isAlphanum])
      (all_isDigit_toString n) hrest
  rw [Place.before, leadingNumber, htake, hdrop, Nat.toString_eq_repr,
    Nat.toList_repr, Nat.ofDigitChars_ten_toDigits]

theorem leadingCast?_type {type : String} (htype : IsTypeName type)
    (hrest : Ends rest) :
    leadingCast? (("::" ++ type).toList ++ rest) = some type := by
  obtain ⟨htake, -⟩ := run_in_front_of (by simp +contextual [Char.isAlphanum])
    (List.all_eq_true.1 htype) hrest
  have htext : ("::" ++ type).toList ++ rest =
      ':' :: ':' :: (type.toList ++ rest) := by simp
  rw [htext, leadingCast?, htake, String.ofList_toList]

theorem IsTypeName.plain {type : String}
    (h : IsTypeName type) : Plain type := by
  refine List.all_eq_true.2 fun c hc => ?_
  have halpha := List.all_eq_true.1 h c hc
  rw [Bool.and_eq_true, bne_iff_ne, bne_iff_ne]
  constructor <;> rintro rfl <;> exact absurd halpha (by decide)

theorem tokensFrom_place (site : List Char → α) (n : Nat) (rest : List Char) :
    tokensFrom site none (("$" ++ toString n).toList ++ rest) =
      .place (site ((toString n).toList ++ rest)) ::
        tokensFrom site none rest := by
  have htext : ("$" ++ toString n).toList ++ rest =
      '$' :: ((toString n).toList ++ rest) := by simp
  rw [htext, tokensFrom, if_neg (by decide), if_pos rfl,
    tokensFrom_plain (plain_toString n)]

theorem reads_placeholder (n : Nat) :
    Reads leadingNumber ("$" ++ toString n) [.place n] := by
  intro rest hrest
  rw [tokensFrom_place]
  exact congrArg (Token.place ·.number :: _) (before_toString n hrest)

/-- A placeholder with the type behind it that it is cast to. -/
theorem Closed.cast {ts : List (Token Place)} (ha : Closed Place.before a ts)
    (n : Nat) (type : String) (htype : IsTypeName type)
    (hb : b = "::" ++ type) :
    Reads Place.before (a ++ ("$" ++ toString n) ++ b)
      (ts ++ [.place ⟨n, type⟩]) := by
  subst hb
  rw [String.append_assoc]
  refine ha.append_reads fun rest hrest => ?_
  have hends : Ends (("::" ++ type).toList ++ rest) := by
    rw [String.toList_append, List.append_assoc]
    rfl
  rw [String.toList_append, List.append_assoc, tokensFrom_place,
    before_toString n hends, leadingCast?_type htype hrest,
    String.toList_append, List.append_assoc,
    tokensFrom_plain (show Plain "::" by decide), tokensFrom_plain htype.plain]
  rfl

/-- A cast in front of text that ends it. -/
theorem Closed.castBefore {ts : List (Token Place)}
    (ha : Closed Place.before a ts) (n : Nat) (type c : String)
    (h : b = "::" ++ type ++ c ∧ IsTypeName type ∧ Separates c) :
    Closed Place.before (a ++ ("$" ++ toString n) ++ b)
      (ts ++ [.place ⟨n, type⟩]) := by
  obtain ⟨rfl, htype, hc⟩ := h
  rw [← String.append_assoc]
  exact (ha.cast n type htype rfl).close c hc

example : tokens "\"a\"\"b\" = $12::text" = [.name "a\"b", .place 12] := by cbv

end Parts

/-! ## Numbers and values -/

/-- Placeholders that number values from `k` on, each of them at least once;
with its value at every placeholder, they read as given. -/
structure Numbers (k : Nat) (ts : List (Token Nat)) (values : List α)
    (read : List (Token (Option α))) : Prop where
  places (n : Nat) : .place n ∈ ts ↔ k ≤ n ∧ n < k + values.length
  read : ts.map (Token.map fun n => values[n - k]?) = read

theorem Token.map_congr {β : Type} {f g : α → β} {ts : List (Token α)}
    (h : ∀ a, .place a ∈ ts → f a = g a) :
    ts.map (Token.map f) = ts.map (Token.map g) := by
  refine List.map_congr_left fun t ht => ?_
  cases t with
  | name s => rfl
  | place a => exact congrArg Token.place (h a ht)

theorem Token.map_map {β γ : Type} (f : α → β) (g : β → γ)
    (ts : List (Token α)) :
    (ts.map (Token.map f)).map (Token.map g) =
      ts.map (Token.map fun a => g (f a)) := by
  rw [List.map_map]
  exact List.map_congr_left fun t _ => by cases t <;> rfl

namespace Numbers

variable {k : Nat} {ts us : List (Token Nat)} {values ws : List α}
  {read other : List (Token (Option α))}

theorem nil : Numbers k [] ([] : List α) [] :=
  ⟨fun n =>
    ⟨fun h => absurd h List.not_mem_nil, fun h => by simp at h; omega⟩, rfl⟩

/-- Identifiers take no numbers. -/
theorem name (s : String) (h : Numbers k ts values read) :
    Numbers k (.name s :: ts) values (.name s :: read) :=
  ⟨fun n => by rw [← h.places n]; simp, congrArg _ h.read⟩

/-- What comes behind goes on with the next number. -/
theorem append (h : Numbers k ts values read)
    (h' : Numbers (k + values.length) us ws other) :
    Numbers k (ts ++ us) (values ++ ws) (read ++ other) where
  places n := by
    rw [List.mem_append, h.places, h'.places, List.length_append]
    omega
  read := by
    rw [List.map_append, ← h.read, ← h'.read]
    congr 1
    · refine Token.map_congr fun n hn => ?_
      have hn := (h.places n).1 hn
      rw [List.getElem?_append_left (by omega)]
    · refine Token.map_congr fun n hn => ?_
      have hn := (h'.places n).1 hn
      rw [List.getElem?_append_right (by omega), Nat.sub_sub]

theorem place (k : Nat) (v : α) :
    Numbers k [.place k] [v] [.place (some v)] where
  places n := by
    rw [List.mem_singleton, Token.place.injEq, List.length_singleton]
    omega
  read := by simp [Token.map]

theorem names (k : Nat) (ss : List String) :
    Numbers k (ss.map .name) ([] : List α) (ss.map .name) := by
  induction ss with
  | nil => exact nil
  | cons s ss ih => exact ih.name s

theorem append_names (h : Numbers k ts values read) (ss : List String) :
    Numbers k (ts ++ ss.map .name) values (read ++ ss.map .name) := by
  simpa using h.append (names _ ss)

theorem append_place (h : Numbers k ts values read) (v : α) {n : Nat}
    (hn : n = k + values.length) :
    Numbers k (ts ++ [.place n]) (values ++ [v]) (read ++ [.place (some v)]) :=
  h.append (hn ▸ place _ v)

/-- Placeholders one after the other. -/
theorem run (k : Nat) (vs : List α) :
    Numbers k ((List.range' k vs.length).map .place) vs
      (vs.map (.place ∘ some)) := by
  induction vs generalizing k with
  | nil => exact nil
  | cons v vs ih => exact (place k v).append (ih (k + 1))

/-- Numbers that were counted from zero. -/
theorem shift (h : Numbers 0 ts values read) (k : Nat) :
    Numbers k (ts.map (Token.map (k + ·))) values read where
  places n := by
    rw [List.mem_map]
    constructor
    · rintro ⟨t, ht, heq⟩
      cases t with
      | name s => simp [Token.map] at heq
      | place i =>
          obtain rfl : k + i = n := Token.place.inj heq
          have := (h.places i).1 ht
          omega
    · rintro ⟨hk, hn⟩
      refine ⟨.place (n - k), (h.places _).2 (by omega), ?_⟩
      rw [Token.map, Nat.add_sub_cancel' hk]
  read := by
    rw [← h.read, Token.map_map]
    simp

/-- The same placeholders for values of another kind. -/
theorem map {β : Type} (f : α → β) (h : Numbers k ts values read) :
    Numbers k ts (values.map f) (read.map (Token.map (Option.map f))) where
  places n := by
    rw [List.length_map]
    exact h.places n
  read := by
    rw [← h.read, Token.map_map]
    simp

end Numbers

end TenantTables.Sql
