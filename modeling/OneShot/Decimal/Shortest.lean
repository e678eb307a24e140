import OneShot.Decimal.Nearest

/-!
# The shortest decimal that reads back

Every finite magnitude has infinitely many decimals that round to it. `shortest` takes one with the
fewest digits and, among those, the nearest to the exact value.

The search goes through the decimal grids with one, two, … digits. On each grid only the two
neighbours of the exact value matter: if any point of a grid rounds to the magnitude, then so does
one of the two next to it. Where both do, the nearer one is taken, and an exact tie is settled by
the caller's `Tie`. A magnitude that none of the first seventeen grids catches would be written out
exactly, so `shortest` reads back whatever it is given.

## Main definitions

* `Decimal.Tie` — which of two equally near decimals to take
* `Decimal.neighbour?` — the decimal of one grid that reads back, if there is one
* `Decimal.shortest` — the search
-/

namespace OneShot.Decimal

/-- Which of two equally near neighbours is taken. -/
inductive Tie where
  /-- The one whose last digit is even. -/
  | toEven
  /-- The larger one. -/
  | upward
deriving DecidableEq, Repr

/-- Whether a decimal rounds to the magnitude with this code. -/
def ReadsBack (code : Nat) (d : Decimal) : Prop := Binary64.codeOfDecimal d = code

instance (code : Nat) (d : Decimal) : Decidable (ReadsBack code d) :=
  inferInstanceAs (Decidable (_ = _))

/-- The quotient of a magnitude by `10 ^ exponent`, as numerator and denominator. -/
def gridRatio (code : Nat) (exponent : Int) : Nat × Nat :=
  let units := Binary64.magnitude code
  if 0 ≤ exponent then (units, Binary64.unitsPerOne * Nat.pow 10 exponent.toNat)
  else (units * Nat.pow 10 (-exponent).toNat, Binary64.unitsPerOne)

/-- Whether the upper neighbour is preferred to the lower one `low` when the value lies
`rest / den` above `low`. -/
def preferUpper (tie : Tie) (low rest den : Nat) : Bool :=
  if 2 * rest < den then false
  else if den < 2 * rest then true
  else match tie with
    | .toEven => low % 2 == 1
    | .upward => true

/-- The multiple of `10 ^ exponent` next to a magnitude that reads back: the preferred one of the
two neighbours if both do. -/
def neighbour? (tie : Tie) (code : Nat) (exponent : Int) : Option Decimal :=
  let (num, den) := gridRatio code exponent
  let low : Decimal := ⟨num / den, exponent⟩
  let high : Decimal := ⟨num / den + 1, exponent⟩
  if ReadsBack code low then
    if ReadsBack code high ∧ preferUpper tie (num / den) (num % den) den then some high
    else some low
  else if ReadsBack code high then some high
  else none

/-- The place of the leading digit of a non-zero magnitude: the least power of ten above it. Every
magnitude is above `10 ^ (-324)`, so the integer digits of `10 ^ 324` times it tell. -/
def leadingPlace (code : Nat) : Int :=
  (Nat.toDigits 10 (Binary64.magnitude code * Nat.pow 10 324 / Binary64.unitsPerOne)).length - 324

/-- The value of a magnitude without any rounding: `2 ^ (-1074)` is `5 ^ 1074 * 10 ^ (-1074)`. -/
def exact (code : Nat) : Decimal := ⟨Binary64.magnitude code * Nat.pow 5 1074, -1074⟩

/-- The shortest decimal that reads back as the finite magnitude with this code, and the nearest
to it among those. -/
def shortest (tie : Tie) (code : Nat) : Decimal :=
  if code = 0 then ⟨0, 0⟩
  else
    let place := leadingPlace code
    ((List.range 17).findSome? fun (n : Nat) => neighbour? tie code (place - (n + 1)))
      |>.getD (exact code) |>.trim

end OneShot.Decimal
