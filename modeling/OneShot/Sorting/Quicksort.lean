import OneShot.Sorting.Runs

/-!
# Quicksort

A list is parted by one of its elements, the pivot, into the elements that are less and those that
are not, and both parts are sorted. The parts keep the order of the list. Short parts are sorted by
`sortShort`, and if the parts have not become short after so many steps they are sorted by runs.

A part may consist of equals of the pivot. This is noticed if nothing is less than the pivot, or if
the pivot is not greater than the one that the part on its left was parted by. Then the equals of
the pivot are parted off, and only what is greater remains to be sorted.

## Main definitions

* `pivot` — the position of the pivot
* `part` — the two parts of a list
* `quicksort` — the sort
-/

namespace OneShot.Sorting

variable {α : Type}

/-! ### The pivot -/

/-- The middle one of three positions, as far as three comparisons tell. -/
def median (below : Nat → Nat → Bool) (a b c : Nat) : Nat :=
  if below a b = below a c then if below b c = below a b then b else c else a

/-- The middle one of three positions, each of them found likewise among three nearby positions,
down to so many levels and to a width of less than eight. -/
def medianNear (below : Nat → Nat → Bool) : Nat → Nat → Nat → Nat → Nat → Nat
  | 0, _, a, b, c => median below a b c
  | levels + 1, width, a, b, c =>
    if width < 8 then median below a b c
    else
      let near (p : Nat) : Nat :=
        medianNear below levels (width / 8) p (p + width / 8 * 4) (p + width / 8 * 7)
      median below (near a) (near b) (near c)

/-- Whether the element at one position is less than that at another. -/
def lessAt (less : α → α → Bool) (xs : List α) (i j : Nat) : Bool :=
  match xs[i]?, xs[j]? with
  | some x, some y => less x y
  | _, _ => false

/-- The position of the element by which a list is parted. -/
def pivot (less : α → α → Bool) (xs : List α) : Nat :=
  let width := xs.length / 8
  medianNear (lessAt less xs) width.log2 width 0 (width * 4) (width * 7)

/-! ### Parting -/

/-- Each element with a mark if it goes to the left. Between the elements before and after it, the
pivot goes where it is told. -/
def marked (goesLeft : α → Bool) (pivotLeft : Bool) (before : List α) (pivot : α) (after : List α) :
    List (α × Bool) :=
  before.map (fun x => (x, goesLeft x)) ++ (pivot, pivotLeft) ::
    after.map (fun x => (x, goesLeft x))

/-- The elements of a list that go to the left and those that do not. -/
def part (goesLeft : α → Bool) (pivotLeft : Bool) (before : List α) (pivot : α) (after : List α) :
    List α × List α :=
  let marked := marked goesLeft pivotLeft before pivot after
  ((marked.filter (·.2)).map (·.1), (marked.filter (!·.2)).map (·.1))

/-! ### The sort -/

variable (less : α → α → Bool)

/-- Sorts a list in so many steps of parting. The bound, if there is one, is the pivot by which
everything less was parted off on the left. -/
def quicksort : Nat → Option α → List α → Option (List α)
  | 0, _, xs => if xs.length ≤ 32 then sortShort less xs else sortEagerly less xs
  | steps + 1, bound, xs =>
    if xs.length ≤ 32 then sortShort less xs
    else
      match xs.splitAt (pivot less xs) with
      | (_, []) => sortEagerly less xs
      | (before, pivot :: after) =>
        let (left, right) := part (less · pivot) false before pivot after
        if bound.any (!less · pivot) ∨ left = [] then
          let (equal, greater) := part (!less pivot ·) true before pivot after
          (quicksort steps none greater).map (equal ++ ·)
        else do
          let high ← quicksort steps (some pivot) right
          let low ← quicksort steps bound left
          return low ++ high

end OneShot.Sorting
