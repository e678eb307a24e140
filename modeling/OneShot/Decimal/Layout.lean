import OneShot.Decimal.Shortest

/-!
# Layouts of decimals

The ways in which the digits of a decimal are laid out: without an exponent, with or without a
fraction that is always shown, and with one digit before the point and an exponent. The sign of a
binary64 number goes in front.
-/

namespace OneShot

namespace Decimal

/-- Without an exponent; the point is left out together with an empty fraction. -/
def plain (d : Decimal) : List Char :=
  if d.fractionDigits = [] then d.wholeDigits
  else d.wholeDigits ++ '.' :: d.fractionDigits

/-- Without an exponent, and with at least one digit behind the point. -/
def pointed (d : Decimal) : List Char :=
  d.wholeDigits ++ '.' :: (if d.fractionDigits = [] then ['0'] else d.fractionDigits)

/-- With one digit before the point, further digits behind it, and a signed exponent. -/
def scientific (d : Decimal) : List Char :=
  let fraction := d.digits.drop 1
  d.digits.take 1 ++ (if fraction = [] then [] else '.' :: fraction)
    ++ 'e' :: (if d.order < 0 then '-' else '+') :: Nat.toDigits 10 d.order.natAbs

end Decimal

/-- The sign of a number as it is written in front of the digits. -/
def Binary64.sign (x : Binary64) : List Char := if x.negative then ['-'] else []

end OneShot
