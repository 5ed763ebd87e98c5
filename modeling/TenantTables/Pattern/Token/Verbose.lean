import TenantTables.Text.Blank

/-!
# Verbose patterns

In a verbose pattern blanks and comments between tokens, and inside most of
them, say nothing. Readers take the characters from some point on and return
what is left; what is dropped on the way never makes that longer.
-/

namespace TenantTables.Pattern

/-- Drops what a verbose pattern ignores: blanks, and comments up to the end of
their line. -/
def skipIgnored (verbose : Bool) : List Char → List Char
  | [] => []
  | c :: cs =>
      if !verbose then c :: cs
      else if Text.isBlank c then skipIgnored verbose cs
      else if c = '#' then skipComment cs
      else c :: cs
where
  skipComment : List Char → List Char
    | [] => []
    | c :: cs => if c = '\n' then skipIgnored verbose cs else skipComment cs

mutual

theorem length_skipIgnored_le (verbose : Bool) :
    (cs : List Char) → (skipIgnored verbose cs).length ≤ cs.length
  | [] => by simp [skipIgnored]
  | c :: cs => by
      rw [skipIgnored]
      have ignored := length_skipIgnored_le verbose cs
      have comment := length_skipComment_le verbose cs
      split
      · exact Nat.le_refl _
      · split
        · exact Nat.le_succ_of_le ignored
        · split
          · exact Nat.le_succ_of_le comment
          · exact Nat.le_refl _

theorem length_skipComment_le (verbose : Bool) :
    (cs : List Char) → (skipIgnored.skipComment verbose cs).length ≤ cs.length
  | [] => by simp [skipIgnored.skipComment]
  | c :: cs => by
      rw [skipIgnored.skipComment]
      split
      · exact Nat.le_succ_of_le (length_skipIgnored_le verbose cs)
      · exact Nat.le_succ_of_le (length_skipComment_le verbose cs)

end

theorem length_lt_of_skipIgnored_eq_cons {verbose : Bool} {cs rest : List Char}
    {c : Char} (h : skipIgnored verbose cs = c :: rest) :
    rest.length < cs.length := by
  have := length_skipIgnored_le verbose cs
  rw [h, List.length_cons] at this
  omega

/-- Takes characters that pass, and drops what is ignored in front of each
and of the rest. -/
def spanIgnoring (verbose : Bool) (passes : Char → Bool) (cs : List Char) :
    List Char × List Char :=
  match h : skipIgnored verbose cs with
  | [] => ([], [])
  | c :: rest =>
      have := length_lt_of_skipIgnored_eq_cons h
      if passes c then
        let (taken, left) := spanIgnoring verbose passes rest
        (c :: taken, left)
      else ([], c :: rest)
termination_by cs.length

end TenantTables.Pattern
