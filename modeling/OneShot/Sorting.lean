import OneShot.Sorting.Quicksort

/-!
# Sorting

A stable sort, which adapts to what is in order already. Up to 20 elements are sorted by insertion,
up to 64 by runs that are in order. Longer lists are sorted by runs that may be in any order: these
are joined by putting one behind the other, as long as there is room for them, and sorted by
quicksort when they are joined with a run that is in order.

What sorting makes of a list is determined by the comparison, whatever that is, and so is whether it
gives up. It gives up only where the comparison contradicts itself, so it does not if the comparison
is an order. If it is none, the result depends on which elements are compared with which, and this
is why the sort is described in every step.

## Main definitions

* `Run` — runs that may be in order or not
* `sort` — the sort
-/

namespace OneShot.Sorting

variable {α : Type}

/-- A part of a list, in order or not. -/
inductive Run (α : Type) where
  | sorted (xs : List α)
  | unsorted (xs : List α)

namespace Run

def length : Run α → Nat
  | sorted xs => xs.length
  | unsorted xs => xs.length

variable (less : α → α → Bool)

/-- The elements of a run in order. -/
def settle : Run α → Option (List α)
  | sorted xs => some xs
  | unsorted xs => quicksort less (2 * xs.length.log2) none xs

/-- Two runs in order and merged. -/
def merge (left right : Run α) : Option (Run α) := do
  let xs ← left.settle less
  let ys ← right.settle less
  return sorted (Sorting.merge less xs ys)

/-- Joins two runs. If neither is in order the second is put behind the first, unless that takes
more than the room there is. -/
def join (room : Nat) (left right : Run α) : Option (Run α) :=
  match left, right with
  | unsorted xs, unsorted ys =>
    if xs.length + ys.length ≤ room then some (unsorted (xs ++ ys)) else left.merge less right
  | _, _ => left.merge less right

/-- A run that may be in any order: a natural one, if it is long enough, or as much of the list. -/
def next (enough : Nat) (xs : List α) : Option (Run α × List α) :=
  let (run, rest) := naturalRun less xs
  if enough ≤ run.length then some (sorted run, rest)
  else some (unsorted (xs.take enough), xs.drop enough)

end Run

/-- The room for sorting a list of a given length, in elements of sixteen bytes: the length of the
list, but not more than 500000 or half of the list, and not less than 256. -/
def room (length : Nat) : Nat := max 256 (max (length - length / 2) (min length 500000))

variable (less : α → α → Bool)

/-- The list in rising order, or nothing where sorting gives up. -/
def sort (xs : List α) : Option (List α) :=
  if xs.length ≤ 20 then some (insertion less xs)
  else if xs.length ≤ 64 then sortEagerly less xs
  else
    sortByRuns (Run.next less (enough xs.length)) (Run.join less (room xs.length)) Run.length
      (Run.settle less) xs

end OneShot.Sorting
