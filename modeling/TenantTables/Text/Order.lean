/-!
# The order of texts

Texts are ordered by their first different character, and characters by code
point. This is the order of the database's `C` collation and of every sorted
list of names.
-/

namespace TenantTables.Text

/-- Compares character by character. -/
def orderChars : List Char → List Char → Ordering
  | [], [] => .eq
  | [], _ :: _ => .lt
  | _ :: _, [] => .gt
  | c :: cs, d :: ds =>
      if c.toNat < d.toNat then .lt
      else if d.toNat < c.toNat then .gt
      else orderChars cs ds

/-- Compares texts by code point. -/
def order (a b : String) : Ordering :=
  orderChars a.toList b.toList

/-- Puts a text into a sorted list, behind those that do not come after it. -/
def insertSorted (s : String) : List String → List String
  | [] => [s]
  | t :: ts => if order s t = .lt then s :: t :: ts else t :: insertSorted s ts

/-- The texts in ascending order. -/
def sorted (ss : List String) : List String :=
  ss.foldl (fun sorted s => insertSorted s sorted) []

end TenantTables.Text
