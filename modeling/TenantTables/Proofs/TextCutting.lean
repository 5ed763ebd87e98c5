import Mathlib.Data.List.Basic
import Mathlib.Data.List.TakeWhile
import TenantTables.Text.Class
import TenantTables.Text.Split

/-!
# Joining, cutting, trimming, lower case

Cutting a text at a separator is undone by joining, and joining by cutting as
long as no piece has the separator. Cut once, a text breaks at the first
separator, so only the part in front has to be without it.

A text is its own trim when neither of its ends is white space. What stands
between the ends does not matter, so a text keeps its trim when something
closed is put at one of them.

Lower case has no effect on ASCII characters other than the capital letters.
-/

namespace TenantTables.Text

/-! ## Pieces -/

theorem pieces_ne_nil (separator : Char) (cs : List Char) :
    pieces separator cs ≠ [] := by
  cases cs with
  | nil => simp [pieces]
  | cons c cs =>
      rw [pieces]
      split
      · simp
      · split <;> simp

theorem not_mem_of_mem_pieces {separator : Char} {cs piece : List Char}
    (h : piece ∈ pieces separator cs) : separator ∉ piece := by
  induction cs generalizing piece with
  | nil =>
      rw [pieces, List.mem_singleton] at h
      simp [h]
  | cons c cs ih =>
      rw [pieces] at h
      split at h
      · rcases List.mem_cons.1 h with rfl | h
        · simp
        · exact ih h
      · next hc =>
          split at h
          · rw [List.mem_singleton] at h
            simpa [h] using Ne.symm hc
          · next first others hcs =>
              rw [hcs] at ih
              rcases List.mem_cons.1 h with rfl | h
              · rw [List.mem_cons, not_or]
                exact ⟨Ne.symm hc, ih (List.mem_cons_self ..)⟩
              · exact ih (List.mem_cons_of_mem _ h)

/-- What has no separator is its own only piece. -/
theorem pieces_of_not_mem {separator : Char} {cs : List Char}
    (h : separator ∉ cs) :
    pieces separator cs = [cs] := by
  induction cs with
  | nil => rfl
  | cons c cs ih =>
      rw [List.mem_cons, not_or] at h
      rw [pieces, if_neg (Ne.symm h.1), ih h.2]

theorem split_ne_nil (separator : Char) (s : String) :
    split separator s ≠ [] := by
  simp [split, pieces_ne_nil]

theorem split_of_mem_split {separator : Char} {s piece : String}
    (h : piece ∈ split separator s) :
    split separator piece = [piece] := by
  obtain ⟨cs, hcs, rfl⟩ := List.mem_map.1 h
  rw [split, String.toList_ofList,
    pieces_of_not_mem (not_mem_of_mem_pieces hcs)]
  rfl

theorem pieces_append {separator : Char} {front : List Char}
    (h : separator ∉ front) (rest : List Char) :
    pieces separator (front ++ separator :: rest) =
      front :: pieces separator rest := by
  induction front with
  | nil => rw [List.nil_append, pieces, if_pos rfl]
  | cons c front ih =>
      rw [List.mem_cons, not_or] at h
      rw [List.cons_append, pieces, if_neg (Ne.symm h.1), ih h.2]

/-- Cutting undoes joining. -/
theorem pieces_intercalate {separator : Char} {parts : List (List Char)}
    (hne : parts ≠ []) (h : ∀ part ∈ parts, separator ∉ part) :
    pieces separator ([separator].intercalate parts) = parts := by
  induction parts with
  | nil => exact absurd rfl hne
  | cons part parts ih =>
      have hpart := h part (List.mem_cons_self ..)
      cases parts with
      | nil => rw [List.intercalate_singleton, pieces_of_not_mem hpart]
      | cons next parts =>
          rw [List.intercalate_cons_cons, List.append_assoc,
            List.singleton_append, pieces_append hpart,
            ih (by simp) fun part hmem => h part (List.mem_cons_of_mem _ hmem)]

theorem split_intercalate {separator : String} {c : Char}
    (hseparator : separator.toList = [c]) {parts : List String}
    (hne : parts ≠ []) (h : ∀ part ∈ parts, c ∉ part.toList) :
    split c (separator.intercalate parts) = parts := by
  rw [split, String.toList_intercalate, hseparator,
    pieces_intercalate (by simpa using hne) (List.forall_mem_map.2 h),
    List.map_map]
  simp [Function.comp_def]

/-- Joining undoes cutting. -/
theorem intercalate_pieces (separator : Char) (cs : List Char) :
    [separator].intercalate (pieces separator cs) = cs := by
  induction cs with
  | nil => rfl
  | cons c cs ih =>
      obtain ⟨piece, others, hcs⟩ :=
        List.exists_cons_of_ne_nil (pieces_ne_nil separator cs)
      rw [hcs] at ih
      rw [pieces, hcs]
      split
      · next hc =>
          rw [List.intercalate_cons_cons, ih, hc]
          rfl
      · cases others with
        | nil => simpa using ih
        | cons next others =>
            dsimp only
            rw [List.intercalate_cons_cons] at ih ⊢
            rw [List.cons_append, List.cons_append, ih]

/-- A text is known by its pieces. -/
theorem split_injective (separator : Char) :
    Function.Injective (split separator) := by
  intro s t h
  have hpieces : pieces separator s.toList = pieces separator t.toList :=
    List.map_injective_iff.2 (fun _ _ => String.ofList_inj.1) h
  have hjoined := congrArg [separator].intercalate hpieces
  rw [intercalate_pieces, intercalate_pieces] at hjoined
  exact String.toList_inj.1 hjoined

theorem head_intercalate {separator part : List Char} (h : part ≠ [])
    (parts : List (List Char)) :
    (separator.intercalate (part :: parts)).head? = part.head? := by
  cases parts with
  | nil => rw [List.intercalate_singleton]
  | cons next parts =>
      rw [List.intercalate_cons_cons, List.append_assoc,
        List.head?_append_of_ne_nil _ h]

theorem mem_intercalate {separator : List Char} {parts : List (List Char)}
    {c : Char} (h : c ∈ separator.intercalate parts) :
    c ∈ separator ∨ ∃ part ∈ parts, c ∈ part := by
  induction parts with
  | nil => exact absurd h List.not_mem_nil
  | cons part parts ih =>
      cases parts with
      | nil =>
          rw [List.intercalate_singleton] at h
          exact .inr ⟨part, List.mem_cons_self .., h⟩
      | cons next parts =>
          rw [List.intercalate_cons_cons, List.mem_append, List.mem_append] at h
          obtain (hpart | hseparator) | hbehind := h
          · exact .inr ⟨part, List.mem_cons_self .., hpart⟩
          · exact .inl hseparator
          · exact (ih hbehind).imp_right fun ⟨part, hmem, hc⟩ =>
              ⟨part, List.mem_cons_of_mem _ hmem, hc⟩

/-! ## One cut -/

theorem cutAt_append {separator : Char} {front : List Char}
    (h : separator ∉ front) (rest : List Char) :
    cutAt separator (front ++ separator :: rest) = (front, some rest) := by
  induction front with
  | nil => rw [List.nil_append, cutAt, if_pos rfl]
  | cons c front ih =>
      rw [List.mem_cons, not_or] at h
      rw [List.cons_append, cutAt, if_neg (Ne.symm h.1), ih h.2]

theorem eq_append_of_cutAt {separator : Char} {cs front rest : List Char}
    (h : cutAt separator cs = (front, some rest)) :
    cs = front ++ separator :: rest := by
  induction cs generalizing front with
  | nil => simp [cutAt] at h
  | cons c cs ih =>
      rw [cutAt] at h
      split at h
      · next hc =>
          obtain ⟨rfl, rfl⟩ : [] = front ∧ cs = rest := by simpa using h
          rw [hc, List.nil_append]
      · cases hcut : cutAt separator cs with
        | mk first behind =>
            rw [hcut] at h
            obtain ⟨rfl, rfl⟩ : c :: first = front ∧ behind = some rest := by
              simpa using h
            rw [ih hcut, List.cons_append]

theorem splitOnce_append {separator : String} {c : Char}
    (hseparator : separator.toList = [c]) {front : String}
    (h : c ∉ front.toList) (rest : String) :
    splitOnce c (front ++ separator ++ rest) = (front, some rest) := by
  rw [splitOnce, String.toList_append, String.toList_append, hseparator,
    List.append_assoc, List.singleton_append, cutAt_append h]
  simp

/-- A text that is cut is its two parts with the separator between them. -/
theorem eq_append_of_splitOnce {separator : Char} {s front rest : String}
    (h : splitOnce separator s = (front, some rest)) :
    s = front ++ String.ofList [separator] ++ rest := by
  cases hcut : cutAt separator s.toList with
  | mk first behind =>
      rw [splitOnce, hcut] at h
      obtain ⟨rfl, behind, rfl, rfl⟩ :
          String.ofList first = front ∧ ∃ rs,
            behind = some rs ∧ String.ofList rs = rest := by
        simpa using h
      rw [← String.toList_inj, eq_append_of_cutAt hcut]
      simp

/-! ## Ends -/

theorem trimChars_eq_self {cs : List Char}
    (hhead : ∀ c ∈ cs.head?, isBlank c = false)
    (hlast : ∀ c ∈ cs.getLast?, isBlank c = false) : trimChars cs = cs := by
  have hdrop : ∀ ds : List Char, (∀ c ∈ ds.head?, isBlank c = false) →
      ds.dropWhile isBlank = ds := by
    intro ds hds
    cases ds with
    | nil => rfl
    | cons d ds =>
        rw [List.dropWhile_cons, hds d rfl, if_neg Bool.false_ne_true]
  rw [trimChars, dropLeadingBlanks, hdrop cs hhead, dropTrailingBlanks,
    hdrop cs.reverse (by rwa [List.head?_reverse]), List.reverse_reverse]

theorem trimChars_of_blank {s : String} (h : isBlankText s = true) :
    trimChars s.toList = [] := by
  have hnone : s.toList.dropWhile isBlank = [] :=
    List.dropWhile_eq_nil_iff.2 (List.all_eq_true.1 h)
  rw [trimChars, dropLeadingBlanks, hnone]
  rfl

/-- Only what stands in front of a character that is not white
space is dropped. -/
theorem dropLeadingBlanks_append {c : Char} (h : isBlank c = false)
    (front rest : List Char) :
    dropLeadingBlanks (front ++ c :: rest) =
      dropLeadingBlanks front ++ c :: rest := by
  have hstop : (c :: rest).dropWhile isBlank = c :: rest :=
    List.dropWhile_cons_of_neg (by simp [h])
  unfold dropLeadingBlanks
  rw [List.dropWhile_append, hstop]
  split
  · next hempty => rw [List.isEmpty_iff.1 hempty, List.nil_append]
  · rfl

theorem dropTrailingBlanks_append {c : Char} (h : isBlank c = false)
    (front rest : List Char) :
    dropTrailingBlanks (front ++ c :: rest) =
      front ++ c :: dropTrailingBlanks rest := by
  have hdrop := dropLeadingBlanks_append h rest.reverse front.reverse
  unfold dropLeadingBlanks at hdrop
  unfold dropTrailingBlanks
  rw [List.reverse_append, List.reverse_cons, List.append_assoc,
    List.singleton_append, hdrop]
  simp

/-- A text without white space is what is left when white space
around it is dropped. -/
theorem trimChars_surrounded {front back cs : List Char}
    (hfront : ∀ c ∈ front, isBlank c = true)
    (hback : ∀ c ∈ back, isBlank c = true) (h : ∀ c ∈ cs, isBlank c = false)
    (hne : cs ≠ []) :
    trimChars (front ++ cs ++ back) = cs := by
  have hstop : ∀ ds rest : List Char, (∀ d ∈ ds, isBlank d = false) → ds ≠ [] →
      (ds ++ rest).dropWhile isBlank = ds ++ rest := by
    intro ds rest hds hdsne
    obtain ⟨d, ds, rfl⟩ := List.exists_cons_of_ne_nil hdsne
    exact List.dropWhile_cons_of_neg (by simp [hds d List.mem_cons_self])
  rw [trimChars, dropLeadingBlanks, List.append_assoc,
    List.dropWhile_append_of_pos hfront, hstop cs back h hne,
    dropTrailingBlanks, List.reverse_append,
    List.dropWhile_append_of_pos fun c hc => hback c (List.mem_reverse.1 hc)]
  have hreverse :=
    hstop cs.reverse [] (fun c hc => h c (List.mem_reverse.1 hc))
      (by simpa using hne)
  rw [List.append_nil] at hreverse
  rw [hreverse, List.reverse_reverse]

theorem isPrefix_trimChars (cs : List Char) :
    trimChars cs <+: dropLeadingBlanks cs := by
  rw [← List.reverse_suffix, trimChars, dropTrailingBlanks,
    List.reverse_reverse]
  exact List.dropWhile_suffix isBlank

theorem isInfix_trimChars (cs : List Char) : trimChars cs <:+: cs := by
  have hfront : dropLeadingBlanks cs <:+ cs := List.dropWhile_suffix isBlank
  exact (isPrefix_trimChars cs).isInfix.trans hfront.isInfix

theorem head_trimChars {cs : List Char} :
    ∀ c ∈ (trimChars cs).head?, isBlank c = false := by
  intro c hc
  obtain ⟨behind, hbehind⟩ := isPrefix_trimChars cs
  have hhead : c ∈ (dropLeadingBlanks cs).head? := by
    rw [← hbehind, List.head?_append, Option.mem_def.1 hc]
    rfl
  have hnot := List.head?_dropWhile_not isBlank cs
  rw [← dropLeadingBlanks, Option.mem_def.1 hhead] at hnot
  exact hnot

theorem getLast_trimChars {cs : List Char} :
    ∀ c ∈ (trimChars cs).getLast?, isBlank c = false := by
  intro c hc
  rw [trimChars, dropTrailingBlanks, List.getLast?_reverse] at hc
  have hnot := List.head?_dropWhile_not isBlank (dropLeadingBlanks cs).reverse
  rw [Option.mem_def.1 hc] at hnot
  exact hnot

/-- A text is its own trim when no white space stands at its ends. -/
theorem trim_eq_self_iff {s : String} :
    trim s = s ↔ (∀ c ∈ s.toList.head?, isBlank c = false) ∧
      ∀ c ∈ s.toList.getLast?, isBlank c = false := by
  constructor
  · intro h
    have hchars : trimChars s.toList = s.toList := by
      rw [← String.toList_ofList (l := trimChars s.toList), ← trim, h]
    rw [← hchars]
    exact ⟨head_trimChars, getLast_trimChars⟩
  · rintro ⟨hhead, hlast⟩
    rw [trim, trimChars_eq_self hhead hlast, String.ofList_toList]

theorem trim_trim (s : String) : trim (trim s) = trim s := by
  rw [trim_eq_self_iff, trim, String.toList_ofList]
  exact ⟨head_trimChars, getLast_trimChars⟩

/-! ## Case -/

/-- An ASCII character that has no other lower case. -/
def isLowerAlready (c : Char) : Bool :=
  c.toNat < 128 && !isAsciiUpper c

theorem isLowerAlready_of_toNat {c : Char} (hsmall : c.toNat < 128)
    (h : c.toNat < 65 ∨ 90 < c.toNat) : isLowerAlready c = true := by
  rw [isLowerAlready, Bool.and_eq_true, decide_eq_true_eq, Bool.not_eq_true',
    isAsciiUpper, Bool.and_eq_false_iff, decide_eq_false_iff_not,
    decide_eq_false_iff_not]
  refine ⟨hsmall, h.imp (fun hlow hle => ?_) fun hhigh hle => ?_⟩
  · have hcap : 65 ≤ c.toNat := hle
    omega
  · have hcap : c.toNat ≤ 90 := hle
    omega

theorem imageIn_lowerRuns {c : Char} (h : isLowerAlready c = true) :
    imageIn lowerRuns c.toNat = none := by
  have hruns : ∀ run ∈ lowerRuns, (run.1 = 0x41 ∧ run.2.1 = 0x5A) ∨
      128 ≤ run.1 := by
    decide +kernel
  rw [isLowerAlready, Bool.and_eq_true, decide_eq_true_eq, Bool.not_eq_true',
    isAsciiUpper, Bool.and_eq_false_iff, decide_eq_false_iff_not,
    decide_eq_false_iff_not] at h
  have hletter : ¬ (0x41 ≤ c.toNat ∧ c.toNat ≤ 0x5A) := by
    rintro ⟨hlow, hhigh⟩
    exact h.2.elim (fun hnot => hnot hlow) fun hnot => hnot hhigh
  rw [imageIn, List.findSome?_eq_none_iff]
  intro run hrun
  refine if_neg fun hin => ?_
  obtain ⟨hfirst, hlast⟩ | hbeyond := hruns run hrun
  · exact hletter ⟨hfirst ▸ hin.1, hlast ▸ hin.2.1⟩
  · omega

theorem lower_eq_self {s : String}
    (h : ∀ c ∈ s.toList, isLowerAlready c = true) :
    lower s = s := by
  have hchar : ∀ c, isLowerAlready c = true → c ≠ 'Σ' ∧ lowerChar c = [c] := by
    intro c hc
    have hsmall : c.toNat < 128 := by
      rw [isLowerAlready, Bool.and_eq_true, decide_eq_true_eq] at hc
      exact hc.1
    refine ⟨fun heq => absurd (heq ▸ hsmall) (by decide), ?_⟩
    rw [lowerChar, if_neg (by omega), imageIn_lowerRuns hc]
    rfl
  have hfrom : ∀ cs before, (∀ c ∈ cs, isLowerAlready c = true) →
      lowerFrom before cs = cs := by
    intro cs
    induction cs with
    | nil => exact fun _ _ => rfl
    | cons c cs ih =>
        intro before hcs
        obtain ⟨hne, himage⟩ := hchar c (hcs c (List.mem_cons_self ..))
        rw [lowerFrom, if_neg hne, himage, ih _ fun d hd =>
          hcs d (List.mem_cons_of_mem _ hd)]
        rfl
  rw [lower, hfrom _ _ h, String.ofList_toList]

end TenantTables.Text
