/-!
# Sorting by insertion

The sort of short lists, and the last step in sorting parts of long ones. It
looks at the sorted elements from the back, so an element comes to stand behind
those that it is not told apart from.
-/

namespace TenantTables.Sorting

variable {α : Type}

/-- Inserts from the back: `sorted` is reversed, and the new element passes the
elements it comes before. -/
def insertBack (before : α → α → Bool) (x : α) : List α → List α
  | [] => [x]
  | y :: ys =>
      if before x y then y :: insertBack before x ys else x :: y :: ys

/-- Inserts elements into a sorted list, one after another. -/
def insertInto (before : α → α → Bool) (sorted xs : List α) : List α :=
  (xs.foldl (fun sorted x => insertBack before x sorted) sorted.reverse).reverse

/-- Sorts by insertion, keeping the order of what is not told apart. -/
def insertionSort (before : α → α → Bool) (xs : List α) : List α :=
  insertInto before [] xs

end TenantTables.Sorting
