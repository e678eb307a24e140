import OneShot.Decimal.Layout
import OneShot.Number.Basic

/-!
# Numbers as words

The notation of numbers in arguments. No number is written with an exponent, however large or small
it is.

A floating point argument is written with the shortest digits that read back, without a point if
none is needed. A list element has to keep its form, so there a floating point number without a
fraction is written exactly and ends in `.0`.

## Main definitions

* `Binary64.text` — a floating point argument
* `Number.text` — a list element
-/

namespace OneShot

/-- A floating point number in plain notation, with the fewest digits that read back; of two
equally short and equally near decimals the larger one. -/
def Binary64.text (x : Binary64) : String :=
  if x.IsNaN then "NaN"
  else if x.IsInfinite then String.ofList (x.sign ++ "inf".toList)
  else String.ofList (x.sign ++ (Decimal.shortest .upward x.code).plain)

/-- A number in plain notation, the form of which can be told: a floating point number without a
fraction shows all its integer digits and `.0`. -/
def Number.text : Number → String
  | .int value => toString value.toInt
  | .float x =>
    if x.IsFinite ∧ x.part = 0 then
      String.ofList (x.sign ++ Nat.toDigits 10 x.whole.natAbs ++ ".0".toList)
    else x.text

end OneShot
