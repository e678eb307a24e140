/-!
# Decimal numbers

A non-negative decimal number as a coefficient and a power of ten, and its positional digits. The
same value has many such forms; `trim` gives the one whose coefficient ends in no zero.

## Main definitions

* `Decimal` — coefficient and exponent, with the value `coefficient * 10 ^ exponent`
* `Decimal.digits` — the digits of the coefficient
* `Decimal.order` — the power of ten of the leading digit
* `Decimal.wholeDigits`, `Decimal.fractionDigits` — the digits before and after the point
-/

namespace OneShot

/-- The decimal number `coefficient * 10 ^ exponent`. -/
structure Decimal where
  coefficient : Nat
  exponent : Int
deriving DecidableEq, Repr

namespace Decimal

/-- The digits of the coefficient, the most significant first. -/
def digits (d : Decimal) : List Char := Nat.toDigits 10 d.coefficient

/-- The power of ten of the leading digit. -/
def order (d : Decimal) : Int := d.exponent + d.digits.length - 1

/-- Moves zeros at the end of a coefficient into the exponent. -/
def trimmed (coefficient : Nat) (exponent : Int) : Decimal :=
  if h : coefficient ≠ 0 ∧ coefficient % 10 = 0 then
    trimmed (coefficient / 10) (exponent + 1)
  else ⟨coefficient, exponent⟩
termination_by coefficient
decreasing_by omega

/-- The same value with a coefficient that does not end in a zero. -/
def trim (d : Decimal) : Decimal := trimmed d.coefficient d.exponent

/-! ### Positional notation -/

/-- The digits before the point: at least one, and `0` alone for a value below one. -/
def wholeDigits (d : Decimal) : List Char :=
  if 0 ≤ d.exponent then d.digits ++ List.replicate d.exponent.toNat '0'
  else
    let places := (-d.exponent).toNat
    if places < d.digits.length then d.digits.take (d.digits.length - places) else ['0']

/-- The digits after the point; none for a value written with a non-negative exponent. -/
def fractionDigits (d : Decimal) : List Char :=
  if 0 ≤ d.exponent then []
  else
    let places := (-d.exponent).toNat
    if places < d.digits.length then d.digits.drop (d.digits.length - places)
    else List.replicate (places - d.digits.length) '0' ++ d.digits

/-! ### Value -/

/-- The quotient of natural numbers that has the value `coefficient * 10 ^ exponent`. -/
def ratio (d : Decimal) : Nat × Nat :=
  if 0 ≤ d.exponent then (d.coefficient * Nat.pow 10 d.exponent.toNat, 1)
  else (d.coefficient, Nat.pow 10 (-d.exponent).toNat)

end Decimal

end OneShot
