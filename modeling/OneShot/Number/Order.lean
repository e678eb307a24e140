import OneShot.Number.Basic

/-!
# The order of numbers

How numbers of the two forms compare. Integers compare as integers and floating point numbers by
`Binary64.totalOrder`. An integer and a floating point number compare exactly, by integer part
first and by the sign of the fraction where that does not decide: no integer is rounded on the way.
A NaN of either sign is above every integer.

## Main definitions

* `Number.compareInt` — an integer against a floating point number
* `Number.cmp` — the comparison of two numbers
-/

namespace OneShot.Number

/-- Compares an integer with a floating point number. -/
def compareInt (i : Int) (x : Binary64) : Ordering :=
  if x.IsNaN then .lt
  else if x.IsInfinite then (if x.negative then .gt else .lt)
  else (compare i x.whole).then (compare 0 x.part)

/-- Compares two numbers of any form. -/
def cmp : Number → Number → Ordering
  | .int x, .int y => compare x.toInt y.toInt
  | .int x, .float y => compareInt x.toInt y
  | .float x, .int y => (compareInt y.toInt x).swap
  | .float x, .float y => x.totalOrder y

end OneShot.Number
