import OneShot.Binary64.Rounding
import OneShot.Decimal.Basic

/-!
# The binary64 number nearest to a decimal

`Binary64.ofDecimal` rounds a decimal of any size once, with a tie going to the even neighbour.
Exponents come from texts and may be astronomically large, so a decimal that is plainly beyond the
range on either side is answered without computing its power of ten: a non-zero coefficient is at
least `1` and below `10 ^ (log₂ + 1)`, and all finite magnitudes lie between `10 ^ (-324)` and
`10 ^ 309`.
-/

namespace OneShot.Binary64

/-- The code of the magnitude nearest to a decimal. -/
def codeOfDecimal (d : Decimal) : Nat :=
  if d.coefficient = 0 then 0
  else if 400 < d.exponent then infinityCode
  else if d.exponent + d.coefficient.log2 + 1 < -400 then 0
  else roundCode (d.ratio.1 * unitsPerOne) d.ratio.2

theorem codeOfDecimal_lt (d : Decimal) : codeOfDecimal d < 0x8000000000000000 := by
  unfold codeOfDecimal
  split
  · decide
  · split
    · decide
    · split
      · decide
      · exact roundCode_lt _ _

/-- The number of the given sign nearest to a decimal; infinity beyond the finite range. -/
def ofDecimal (negative : Bool) (d : Decimal) : Binary64 :=
  ⟨negative, codeOfDecimal d, codeOfDecimal_lt d⟩

end OneShot.Binary64
