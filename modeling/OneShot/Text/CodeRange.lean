/-!
# Ranges of code points

A property of characters is given as a list of ranges, each with a step: in many scripts the
uppercase and the lowercase letters alternate, so that every second code point has the property.

## Main definitions

* `CodeRange` — the code points from `first` to `last` in steps of `step`
* `CodeRange.covers` — whether one of the ranges of a list contains a character
-/

namespace OneShot.Text

/-- The code points `first`, `first + step`, … up to `last`. -/
structure CodeRange where
  first : Nat
  last : Nat
  step : Nat
deriving DecidableEq, Repr

namespace CodeRange

/-- Whether a code point is in a range. -/
def contains (r : CodeRange) (code : Nat) : Bool :=
  r.first ≤ code && code ≤ r.last && (code - r.first) % r.step == 0

/-- Whether a character is in one of the ranges. -/
def covers (ranges : List CodeRange) (c : Char) : Bool :=
  ranges.any (·.contains c.toNat)

end CodeRange

end OneShot.Text
