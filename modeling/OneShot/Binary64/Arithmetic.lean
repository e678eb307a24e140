import OneShot.Binary64.Rounding

/-!
# Arithmetic on binary64 numbers

The four basic operations: the exact result, computed on units, rounded once. Infinities and NaNs
follow IEEE 754: an operation without a meaningful result gives `nan`, and an exact zero sum is
positive unless both terms are negative zeros.

The power function is the one operation that is not correctly rounded; it is left to the floating
point unit through `Float.pow`.
-/

namespace OneShot.Binary64

/-- The sign of a product or a quotient. -/
def signOf (x y : Binary64) : Bool := x.negative != y.negative

def add (x y : Binary64) : Binary64 :=
  if x.IsNaN ∨ y.IsNaN then nan
  else if x.IsInfinite then
    if y.IsInfinite ∧ x.negative ≠ y.negative then nan else x
  else if y.IsInfinite then y
  else
    let total := x.units + y.units
    if total = 0 then zero (x.negative && y.negative)
    else ofRatio (decide (total < 0)) total.natAbs 1

def sub (x y : Binary64) : Binary64 := x.add y.neg

def mul (x y : Binary64) : Binary64 :=
  if x.IsNaN ∨ y.IsNaN then nan
  else if x.IsInfinite ∨ y.IsInfinite then
    if x.code = 0 ∨ y.code = 0 then nan else infinity (signOf x y)
  else ofRatio (signOf x y) (magnitude x.code * magnitude y.code) unitsPerOne

def div (x y : Binary64) : Binary64 :=
  if x.IsNaN ∨ y.IsNaN then nan
  else if x.IsInfinite then
    if y.IsInfinite then nan else infinity (signOf x y)
  else if y.IsInfinite then zero (signOf x y)
  else if y.code = 0 then
    if x.code = 0 then nan else infinity (signOf x y)
  else ofRatio (signOf x y) (magnitude x.code * unitsPerOne) (magnitude y.code)

/-- The same number in the machine's format. -/
def toFloat (x : Binary64) : Float := Float.ofBits x.toBits

def ofFloat (x : Float) : Binary64 := ofBits x.toBits

/-- `x` to the power `y`, as the floating point unit computes it. -/
def pow (x y : Binary64) : Binary64 := ofFloat (Float.pow x.toFloat y.toFloat)

end OneShot.Binary64
