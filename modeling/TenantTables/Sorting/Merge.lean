import TenantTables.Sorting.Insertion

/-!
# Merging, and sorting by a merge

Sorted lists are merged from the front or from the back. A list of up to
thirty-two elements is sorted in two halves, which are merged from both ends at
once: as many elements are read from either end as the shorter half has, so that
at most one is left in between.

Both ends compare on their own. If the comparison is an order they share the
elements out between them. If not, they may both read an element, or leave out
one that neither has read, and then the sort gives up: it has no result.
-/

namespace TenantTables.Sorting

variable {α : Type}

/-- Merges sorted lists. An element of the second comes first only if it is
before that of the first. -/
def merge (before : α → α → Bool) (xs ys : List α) : List α :=
  xs.merge ys fun x y => !before y x

/-- Merges sorted lists from the back. -/
def mergeBack (before : α → α → Bool) (xs ys : List α) : List α :=
  (merge (flip before) ys.reverse xs.reverse).reverse

/-- What was read from two lists: the elements in the order of reading, and how
many of them are from each list. -/
structure Reading (α : Type) where
  elements : List α
  left : Nat
  right : Nat

/-- Reads that many elements from the front of two lists, as a merge does. -/
def readFront (before : α → α → Bool) :
    Nat → List α → List α → Reading α
  | n + 1, x :: xs, y :: ys =>
      if before y x then
        let r := readFront before n (x :: xs) ys
        ⟨y :: r.elements, r.left, r.right + 1⟩
      else
        let r := readFront before n xs (y :: ys)
        ⟨x :: r.elements, r.left + 1, r.right⟩
  | _, _, _ => ⟨[], 0, 0⟩

/-- Reads from the back. What is read comes last one first. -/
def readBack (before : α → α → Bool) (n : Nat) (xs ys : List α) : Reading α :=
  let r := readFront (flip before) n ys.reverse xs.reverse
  ⟨r.elements, r.right, r.left⟩

/-- Merges sorted lists from both ends; the first one is not the longer one.
There is no result if the ends do not share out the elements of each list. -/
def mergeEnds (before : α → α → Bool) (xs ys : List α) : Option (List α) :=
  let front := readFront before xs.length xs ys
  let back := readBack before xs.length xs ys
  if front.left + back.left ≤ xs.length ∧
      front.right + back.right ≤ ys.length then
    some (front.elements ++
      (xs.extract front.left (xs.length - back.left) ++
        ys.extract front.right (ys.length - back.right)) ++
      back.elements.reverse)
  else none

/-- Sorts four elements in five comparisons: both pairs, then the least and the
greatest of all, and what is left. -/
def sortFour (before : α → α → Bool) (w x y z : α) : List α :=
  let (a, b) := if before x w then (x, w) else (w, x)
  let (c, d) := if before z y then (z, y) else (y, z)
  let rightFirst := before c a
  let leftLast := before d b
  let least := if rightFirst then c else a
  let greatest := if leftLast then b else d
  let left := if rightFirst then a else if leftLast then c else b
  let right := if leftLast then d else if rightFirst then b else c
  if before right left then [least, right, left, greatest]
  else [least, left, right, greatest]

/-- Sorts a half by insertion, the first four elements of a longer list in one
step. -/
def sortHalf (before : α → α → Bool) (long : Bool) (xs : List α) : List α :=
  match long, xs with
  | true, w :: x :: y :: z :: xs =>
      insertInto before (sortFour before w x y z) xs
  | _, xs => insertionSort before xs

/-- Sorts a list of up to thirty-two elements. -/
def smallSort (before : α → α → Bool) (xs : List α) : Option (List α) :=
  let half := xs.length / 2
  let long := decide (8 ≤ xs.length)
  mergeEnds before (sortHalf before long (xs.take half))
    (sortHalf before long (xs.drop half))

end TenantTables.Sorting
