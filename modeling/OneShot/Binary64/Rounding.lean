import OneShot.Binary64.Basic

/-!
# Rounding to binary64

Rounding of an exact quotient to the nearest binary64 number, with a tie going to the even
neighbour. Quotients are counted in units of `2 ^ (-1074)`, so that below `2 ^ 53` units the grid
of representable magnitudes is the integers, and above it the grid doubles with each binary order
of magnitude.

## Main definitions

* `Binary64.roundDiv` — a quotient of natural numbers to the nearest integer, ties to even
* `Binary64.roundCode` — a quotient in units to the nearest magnitude code
* `Binary64.ofRatio`, `Binary64.ofInt` — the nearest number with a given sign

The code of `c` grid steps of width `2 ^ s` is `c + s * binadeSize`: the exponent field counts the
doublings, and a significand that rounds up to `2 ^ 53` carries into it by itself.
-/

namespace OneShot.Binary64

/-- `num / den` to the nearest integer; an exact half goes to the even neighbour. -/
def roundDiv (num den : Nat) : Nat :=
  let q := num / den
  let r := num % den
  if 2 * r < den then q
  else if den < 2 * r then q + 1
  else q + q % 2

/-- The exponent of two of the grid on which a magnitude of `q` whole units lies: `0` below
`2 ^ 53`, and above it the one that leaves 53 significant bits. -/
def gridExponent (q : Nat) : Nat := if q < 2 * binadeSize then 0 else q.log2 - 52

/-- The code of the magnitude nearest to `num / den` units, ties to even; `infinityCode` when the
quotient rounds beyond the finite range. -/
def roundCode (num den : Nat) : Nat :=
  let s := gridExponent (num / den)
  min (roundDiv num (den * Nat.pow 2 s) + s * binadeSize) infinityCode

theorem roundCode_lt (num den : Nat) : roundCode num den < 0x8000000000000000 :=
  Nat.lt_of_le_of_lt (Nat.min_le_right _ _) (by decide)

/-- The number of the given sign nearest to `num / den` units. -/
def ofRatio (negative : Bool) (num den : Nat) : Binary64 :=
  ⟨negative, roundCode num den, roundCode_lt num den⟩

/-- The number nearest to an integer; zero is positive. -/
def ofInt (i : Int) : Binary64 := ofRatio (decide (i < 0)) (i.natAbs * unitsPerOne) 1

end OneShot.Binary64
