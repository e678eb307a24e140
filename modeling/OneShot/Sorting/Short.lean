/-!
# Sorting short lists

Three ways to put elements in order by a comparison: insertion, merging, and a combination of the
two for lists of up to 32 elements. Elements of which neither is less than the other keep their
order.

The combination sorts both halves of a list and merges them from both ends at once, each end taking
half of the elements, so that nobody has to look for the end of a half. If the comparison is an
order, both ends meet. If it is none they may take an element twice and miss another one. Then the
lists are no longer those that were to be merged, and sorting gives up.

## Main definitions

* `insertion` — insertion sort
* `Merging`, `advance`, `merge` — a merge that is under way, its steps, and the whole of it
* `mergeEnds` — the merge from both ends, which may give up
* `sortShort` — the sort for lists of up to 32 elements
-/

namespace OneShot.Sorting

variable {α : Type} (less : α → α → Bool)

/-! ### Insertion -/

/-- Inserts an element into a list that is kept in falling order, behind all greater elements. -/
def insertFalling (x : α) : List α → List α
  | [] => [x]
  | y :: rest => if less x y then y :: insertFalling x rest else x :: y :: rest

/-- Inserts elements one after another into a list in rising order, each from its end. -/
def insertAll (sorted xs : List α) : List α :=
  (xs.foldl (fun falling x => insertFalling less x falling) sorted.reverse).reverse

/-- The list in rising order: each element moves left past its predecessors as long as it is less
than them. -/
def insertion (xs : List α) : List α := insertAll less [] xs

/-! ### Merging -/

/-- A merge of two lists that is under way. -/
structure Merging (α : Type) where
  /-- What has been taken from either list. -/
  merged : List α
  left : List α
  right : List α

/-- So many steps of a merge. A step takes the head of the right list if that passes the head of the
left list, and else the head of the left list. At the end of a list there is no step. -/
def advance (passes : α → α → Bool) : Nat → List α → List α → Merging α
  | k + 1, x :: xs, y :: ys =>
    if passes y x then
      let next := advance passes k (x :: xs) ys
      { next with merged := y :: next.merged }
    else
      let next := advance passes k xs (y :: ys)
      { next with merged := x :: next.merged }
  | _, xs, ys => ⟨[], xs, ys⟩

/-- All steps of a merge, and then what is left of one of the lists. -/
def mergeAll (passes : α → α → Bool) (xs ys : List α) : List α :=
  let last := advance passes (xs.length + ys.length) xs ys
  last.merged ++ (last.left ++ last.right)

/-- Merges two lists in rising order, from that end at which the shorter one begins. -/
def merge (xs ys : List α) : List α :=
  if xs.length ≤ ys.length then mergeAll less xs ys
  else (mergeAll (flip less) ys.reverse xs.reverse).reverse

/-- What is taken neither from the front of a list nor from its back, if nothing is taken twice. The
two lists are what is left in front and, in reverse, what is left at the back. -/
def untaken (xs front back : List α) : Option (List α) :=
  if xs.length ≤ front.length + back.length then
    some (front.take (front.length + back.length - xs.length))
  else none

/-- Merges two lists in rising order from both ends at once. Each end takes half of the elements,
and the middle one is in its place if the number of elements is odd. -/
def mergeEnds (xs ys : List α) : Option (List α) := do
  let half := (xs.length + ys.length) / 2
  let low := advance less half xs ys
  let high := advance (flip less) half ys.reverse xs.reverse
  let x ← untaken xs low.left high.right
  let y ← untaken ys low.right high.left
  return low.merged ++ (x ++ y) ++ high.merged.reverse

/-! ### Short lists -/

/-- Two elements in order. -/
def two (x y : α) : α × α := if less y x then (y, x) else (x, y)

/-- Of two pairs in order, the least element, the two that are neither least nor greatest, and the
greatest element. -/
def joinPairs (a b c d : α) : α × α × α × α :=
  match less c a, less d b with
  | false, false => (a, b, c, d)
  | false, true => (a, c, d, b)
  | true, false => (c, a, b, d)
  | true, true => (c, a, d, b)

/-- Four elements in order: first those of both pairs, then the least and the greatest one, and then
those in the middle. -/
def sortFour : List α → List α
  | [w, x, y, z] =>
    let (a, b) := two less w x
    let (c, d) := two less y z
    let (low, x, y, high) := joinPairs less a b c d
    let (x, y) := two less x y
    [low, x, y, high]
  | xs => insertion less xs

/-- Eight elements in order. -/
def sortEight (xs : List α) : Option (List α) :=
  mergeEnds less (sortFour less (xs.take 4)) (sortFour less (xs.drop 4))

/-- Half of a list of a given length in order: the first eight elements or four or one, and then the
others one after another. -/
def sortHalf (length : Nat) (xs : List α) : Option (List α) :=
  if 16 ≤ length then (sortEight less (xs.take 8)).map (insertAll less · (xs.drop 8))
  else if 8 ≤ length then some (insertAll less (sortFour less (xs.take 4)) (xs.drop 4))
  else some (insertAll less (xs.take 1) (xs.drop 1))

/-- A list of up to 32 elements in order. -/
def sortShort (xs : List α) : Option (List α) := do
  if xs.length < 2 then return xs
  let half := xs.length / 2
  let low ← sortHalf less xs.length (xs.take half)
  let high ← sortHalf less xs.length (xs.drop half)
  mergeEnds less low high

end OneShot.Sorting
