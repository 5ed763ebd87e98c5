import TenantTables.Sorting.Merge

/-!
# Sorting by runs

The sort of lists of any length. Up to twenty elements are sorted by insertion.
A longer list is cut into runs: where it is in order anyway, or strictly in the
opposite one, for long enough, that is a run, and between such runs are pieces
of a fixed size. In a list of up to sixty-four elements each piece is sorted at
once. In a longer one pieces are joined unsorted as long as that can be, and are
sorted by partition when they have to be. Runs are merged pairwise, in the order
of a merge tree that is balanced by the places of the runs.

The comparison has to be an order, which is not checked. If it is none, the
elements come out in some order, or a merge of two halves finds that it cannot
be one, and there is no result.
-/

namespace TenantTables.Sorting

variable {α : Type}

/-! ## Partition -/

/-- The middle one of three places, by the elements there. -/
def median (before : α → α → Bool) (xs : List α) (a b c : Fin xs.length) :
    Fin xs.length :=
  let first := before xs[a] xs[b]
  if first == before xs[a] xs[c] then
    if before xs[b] xs[c] == first then b else c
  else a

/-- A place near the middle of a block by its element: the median of three
places, in large blocks each of them found in the same way. -/
def pseudoMedian (before : α → α → Bool) (xs : List α) (start size : Nat)
    (hsize : 8 ≤ size) (hend : start + size ≤ xs.length) : Fin xs.length :=
  let eighth := size / 8
  if h : 8 ≤ eighth then
    median before xs
      (pseudoMedian before xs start eighth h (by omega))
      (pseudoMedian before xs (start + eighth * 4) eighth h (by omega))
      (pseudoMedian before xs (start + eighth * 7) eighth h (by omega))
  else
    median before xs ⟨start, by omega⟩ ⟨start + eighth * 4, by omega⟩
      ⟨start + eighth * 7, by omega⟩
termination_by size

/-- Sorts by partition. The limit is the number of partitions one inside the
other; where it is reached, another sort takes over. The ancestor is an element
that no element of the list is before: where the pivot is not behind it either,
what is not behind the pivot is sorted already. -/
def quicksort (before : α → α → Bool)
    (fallback : List α → Option (List α)) :
    Nat → Option α → List α → Option (List α)
  | 0, _, xs =>
      if xs.length ≤ 32 then smallSort before xs else fallback xs
  | limit + 1, ancestor, xs =>
      if h : xs.length ≤ 32 then smallSort before xs
      else
        let place := pseudoMedian before xs 0 xs.length (by omega) (by omega)
        let pivot := xs[place]
        let front := xs.take place
        let back := xs.drop (place + 1)
        let least := (front ++ back).filter (before · pivot)
        if ancestor.any (fun a => !before a pivot) || least.isEmpty then
          let equal := front.filter (!before pivot ·) ++
            pivot :: back.filter (!before pivot ·)
          let greater := (front ++ back).filter (before pivot ·)
          (quicksort before fallback limit none greater).map (equal ++ ·)
        else do
          let rest := front.filter (!before · pivot) ++
            pivot :: back.filter (!before · pivot)
          let rest ← quicksort before fallback limit (some pivot) rest
          let least ← quicksort before fallback limit ancestor least
          some (least ++ rest)

/-! ## Runs -/

/-- Elements next to each other, sorted or not. -/
structure Run (α : Type) where
  elements : List α
  sorted : Bool

/-- How many elements go on from `x` in steps of this kind. -/
def chain (step : α → α → Bool) : α → List α → Nat
  | _, [] => 0
  | x, y :: ys => if step x y then chain step y ys + 1 else 0

/-- How many elements a list begins with that are in order, or that are strictly
in the opposite one, and which of the two. -/
def naturalRun (before : α → α → Bool) : List α → Nat × Bool
  | x :: y :: ys =>
      let down := before y x
      (chain (fun a b => before b a == down) x (y :: ys) + 1, down)
  | xs => (xs.length, false)

/-- The run that a list begins with, and its greatest length. A run that is
there anyway has to have enough elements. -/
def firstRun (before : α → α → Bool) (enough : Nat) (eager : Bool)
    (xs : List α) : Nat × Option (Run α) :=
  let (length, down) := naturalRun before xs
  let start := xs.take length
  if enough ≤ length then
    (length, some ⟨if down then start.reverse else start, true⟩)
  else if eager then
    (32, (smallSort before (xs.take 32)).map fun elements => ⟨elements, true⟩)
  else (enough, some ⟨xs.take enough, false⟩)

/-- Cuts a list into runs. -/
def cutRuns (before : α → α → Bool) (enough : Nat) (eager : Bool) :
    List α → Option (List (Run α))
  | [] => some []
  | x :: xs => do
      let (length, run?) := firstRun before enough eager (x :: xs)
      let run ← run?
      let runs ← cutRuns before enough eager (xs.drop (length - 1))
      some (run :: runs)
termination_by xs => xs.length

/-- How many elements make a run that is worth keeping: half of a short list,
and about the square root of the length of a long one. -/
def enoughFor (n : Nat) : Nat :=
  if n ≤ 64 * 64 then min (n - n / 2) 64
  else
    let shift := (1 + n.log2) / 2
    ((1 <<< shift) + (n >>> shift)) / 2

/-! ## Merging runs -/

/-- Merges two sorted lists, from the side of the shorter one. -/
def mergeSorted (before : α → α → Bool) (xs ys : List α) : List α :=
  if xs.length ≤ ys.length then merge before xs ys
  else mergeBack before xs ys

/-- The elements of a run in order. -/
def Run.sort (quick : List α → Option (List α)) (r : Run α) :
    Option (List α) :=
  if r.sorted then some r.elements else quick r.elements

/-- Joins neighbouring runs: unsorted ones as they are, if they are not too
long for the working space, and others by sorting and merging them. -/
def joinRuns (before : α → α → Bool) (quick : List α → Option (List α))
    (space : Nat) (left right : Run α) : Option (Run α) :=
  if left.elements.length + right.elements.length ≤ space ∧
      left.sorted = false ∧ right.sorted = false then
    some ⟨left.elements ++ right.elements, false⟩
  else do
    let xs ← left.sort quick
    let ys ← right.sort quick
    some ⟨mergeSorted before xs ys, true⟩

/-- How many zeros a word of 64 bits has in front. -/
def leadingZeros (n : Nat) : Nat :=
  if n = 0 then 64 else 63 - n.log2

/-- How deep in the merge tree over `n` elements two neighbouring runs are
merged, from where the left one starts to where the right one ends. -/
def mergeDepth (n start middle stop : Nat) : Nat :=
  let scale := ((1 <<< 62) + n - 1) / n
  leadingZeros ((scale * (start + middle)) ^^^ (scale * (middle + stop)))

/-- Runs that wait to be merged with what is behind them, the last one first,
and how deep in the tree. -/
abbrev Waiting (α : Type) := List (Run α × Nat)

/-- Joins a run with those in front of it that are to be merged first. -/
def collapse (join : Run α → Run α → Option (Run α)) (depth : Nat) :
    Waiting α → Run α → Option (Waiting α × Run α)
  | [], run => some ([], run)
  | (left, d) :: waiting, run =>
      if depth ≤ d then do
        let run ← join left run
        collapse join depth waiting run
      else some ((left, d) :: waiting, run)

/-- Joins all runs. The last one that was cut ends at `place`. -/
def joinAll (join : Run α → Run α → Option (Run α)) (n : Nat) :
    Nat → Waiting α → Run α → List (Run α) → Option (Run α)
  | _, waiting, run, [] => do
      let (_, run) ← collapse join 0 waiting run
      some run
  | place, waiting, run, next :: runs => do
      let stop := place + next.elements.length
      let depth := mergeDepth n (place - run.elements.length) place stop
      let (waiting, run) ← collapse join depth waiting run
      joinAll join n stop ((run, depth) :: waiting) next runs

/-- Sorts by runs. Pieces are sorted at once, or by `quick` when they have to
be. -/
def runSort (before : α → α → Bool) (quick : List α → Option (List α))
    (space : Nat) (eager : Bool) (xs : List α) : Option (List α) := do
  match ← cutRuns before (enoughFor xs.length) eager xs with
  | [] => some []
  | run :: runs =>
      let join := joinRuns before quick space
      let run ← joinAll join xs.length run.elements.length [] run runs
      run.sort quick

/-! ## The sort -/

/-- Sorts by partition, up to twice as deep as halving would take. Then pieces
are sorted at once and merged; nothing is left to be sorted later. -/
def quick (before : α → α → Bool) (xs : List α) : Option (List α) :=
  let eagerly := runSort before (smallSort before) xs.length true
  quicksort before eagerly (2 * xs.length.log2) none xs

/-- How many elements fit into the working space of a sort of `n` elements: all
of them up to eight million bytes, an element taking 72. -/
def spaceFor (n : Nat) : Nat :=
  max (n - n / 2) (min n (8000000 / 72))

/-- Sorts a list, if the comparison is an order on its elements. Elements that
it does not tell apart keep their order. -/
def stableSort (before : α → α → Bool) (xs : List α) : Option (List α) :=
  if xs.length ≤ 20 then some (insertionSort before xs)
  else
    runSort before (quick before) (spaceFor xs.length)
      (xs.length ≤ 64) xs

end TenantTables.Sorting
