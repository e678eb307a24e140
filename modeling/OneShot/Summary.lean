import OneShot.Number.Order
import OneShot.Sorting

/-!
# Summaries of lists

Sum, average, extremes and the sorted list of a list of numbers.

`Number.cmp` is no order where the integer zero meets both floating point zeros. A list of up to 20
elements is sorted all the same, by insertion. Of a longer list with these three zeros the result
depends on which elements are compared with which, and sorting may give up. Then there is no
summary.

## Main definitions

* `Summary` — the five results
* `Summary.total`, `Summary.mean`, `Summary.extreme?`, `Summary.sort` — the parts of a summary
* `Summary.ofList` — the summary of a list, if it can be sorted
-/

namespace OneShot

/-- What is told about a list of numbers. The extremes are missing for the empty list. -/
@[ext]
structure Summary where
  sum : Number
  average : Number
  min : Option Number
  max : Option Number
  sorted : List Number
deriving DecidableEq

namespace Summary

/-- The sum from left to right, beginning with the integer zero. -/
def total (numbers : List Number) : Number := numbers.foldl Number.add (.int 0)

/-- The sum divided by the number of elements; the integer zero for the empty list. -/
def mean (numbers : List Number) : Number :=
  if numbers = [] then .int 0
  else .float ((total numbers).toBinary64.div (.ofInt numbers.length))

/-- The better of two numbers: the new one only if it beats the old one in the wanted direction. -/
def better (wanted : Ordering) (best new : Number) : Number :=
  if new.cmp best = wanted then new else best

/-- The first element that no later one beats in the wanted direction. -/
def extreme? (wanted : Ordering) : List Number → Option Number
  | [] => none
  | x :: rest => some (rest.foldl (better wanted) x)

/-- Whether a number compares less than another one. -/
def less (x y : Number) : Bool := x.cmp y = .lt

/-- The list in rising order, or nothing where sorting gives up. -/
def sort (numbers : List Number) : Option (List Number) := Sorting.sort less numbers

/-- The summary of a list, given its sorted list. -/
def ofSorted (numbers sorted : List Number) : Summary where
  sum := total numbers
  average := mean numbers
  min := extreme? .lt numbers
  max := extreme? .gt numbers
  sorted := sorted

/-- The summary of a list, or nothing where sorting gives up. -/
def ofList (numbers : List Number) : Option Summary := (sort numbers).map (ofSorted numbers)

end Summary

end OneShot
