import TenantTables.Unicode.CharSet
import TenantTables.Unicode.FoldTable

/-!
# Closure under case

Two characters that differ only in case belong to one family, by the simple case
folding of Unicode: the Kelvin sign is of the family of `k`, while the German
sharp s is not related to any two letters. A set closed under case holds whole
families. Among ASCII characters alone the families are the pairs of letters.
-/

namespace TenantTables.Unicode

/-- The pairs of a row of the table. -/
def pairsOfRun (run : Nat × Nat × Nat × Nat) : List (List Nat) :=
  let (first, last, step, image) := run
  (List.range ((last - first) / step + 1)).map fun i =>
    [first + step * i, image + step * i]

/-- Families of characters that differ only in case. -/
def caseOrbits : List (List Nat) :=
  casePairs.flatMap pairsOfRun ++ caseFamilies

/-- The other members of the family of each character that has any, in order. -/
def casePartners : List (Nat × List Nat) :=
  (caseOrbits.flatMap fun orbit => orbit.map fun n =>
    (n, orbit.filter (· != n))).mergeSort
    fun p q => p.1 ≤ q.1

namespace CharSet

/-- The partners of the characters that a list of ranges holds. -/
def partnersIn : List (Nat × List Nat) → List (Nat × Nat) → List Nat
  | (n, others) :: rest, (a, b) :: ranges =>
      if n < a then partnersIn rest ((a, b) :: ranges)
      else if n ≤ b then others ++ partnersIn rest ((a, b) :: ranges)
      else partnersIn ((n, others) :: rest) ranges
  | _, _ => []
termination_by partners ranges => partners.length + ranges.length

/-- The least set around this one that is closed under case. -/
def foldCase (s : CharSet) : CharSet :=
  match partnersIn casePartners s.ranges with
  | [] => s
  | others => ofRanges (s.ranges ++ others.map fun n => (n, n))

/-- The set with the other case of its ASCII letters. -/
def foldAscii (s : CharSet) : CharSet :=
  let shift (letters : CharSet) (move : Nat → Nat) : List (Nat × Nat) :=
    (s.inter letters).ranges.map fun (a, b) => (move a, move b)
  ofRanges
    (s.ranges ++ shift (span 'a' 'z') (· - 32) ++ shift (span 'A' 'Z') (· + 32))

end CharSet

end TenantTables.Unicode
