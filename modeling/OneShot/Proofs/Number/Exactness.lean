import OneShot.Proofs.Number.Rational

/-!
# The comparison is exact

Numbers of any two forms compare like their exact values. An integer beyond `2 ^ 53` may have no
floating point number of its value; it is still told apart from its neighbours, because it is the
integer that stays as it is and the floating point number that is taken apart. The one thing that is
not decided by the values is the order of the two floating point zeros.

The integer part that is compared need not be kept as an integer of any size. Outside the range of
64-bit integers the side of the floating point number decides, and inside it the integer part is
such an integer itself, `compareInt_eq_compareWord`: nothing wraps around at either bound.

## Main definitions

* `Number.compareWord` — an integer against a floating point number, by 64-bit integers

## Main results

* `Number.compareInt_eq_compareWord` — 64-bit integers are enough
* `Number.cmp_eq_compare_value` — how two numbers compare, in terms of their values
-/

namespace OneShot.Number

open Binary64

/-! ### Comparing by 64-bit integers -/

/-- Compares an integer with a floating point number that is cut down to a 64-bit integer, unless
it lies beyond them. -/
def compareWord (i : Int64) (x : Binary64) : Ordering :=
  if x.IsNaN then .lt
  else if 0x8000000000000000 * unitsPerOne ≤ x.units then .lt
  else if x.units < -0x8000000000000000 * unitsPerOne then .gt
  else (compare i.toInt (Int64.ofInt x.whole).toInt).then (compare 0 x.part)

/-- Between the bounds the integer part is a 64-bit integer. -/
theorem inRange_whole {x : Binary64} (hlow : -0x8000000000000000 * unitsPerOne ≤ x.units)
    (hhigh : x.units < 0x8000000000000000 * unitsPerOne) : InRange x.whole := by
  have hU : (0 : Int) < unitsPerOne := by exact_mod_cast unitsPerOne_pos
  refine ⟨Int.le_tdiv_of_mul_le hU hlow, ?_⟩
  rcases Int.le_total 0 x.units with h | h
  · have hpart : 0 ≤ x.part := Int.tmod_nonneg _ h
    have hwhole : x.whole * unitsPerOne < 0x8000000000000000 * unitsPerOne := by
      have hunits := units_add x
      omega
    exact Int.lt_of_mul_lt_mul_right hwhole hU.le
  · have hwhole : x.whole ≤ Int.tdiv 0 unitsPerOne := Int.tdiv_le_tdiv hU h
    rw [Int.zero_tdiv] at hwhole
    omega

/-- **64-bit integers are enough** to compare an integer with a floating point number. -/
theorem compareInt_eq_compareWord (i : Int64) (x : Binary64) :
    compareInt i.toInt x = compareWord i x := by
  have hU : (0 : Int) < unitsPerOne := by exact_mod_cast unitsPerOne_pos
  have hi := inRange_toInt i
  rw [compareWord]
  by_cases hnan : x.IsNaN
  · rw [if_pos hnan, compareInt, if_pos hnan]
  have hunits := compareInt_eq hi fun h => absurd h hnan
  rw [if_neg hnan]
  split_ifs with hhigh hlow
  · rw [hunits, Int.compare_eq_lt]
    exact (Int.mul_lt_mul_of_pos_right hi.2 hU).trans_le hhigh
  · rw [hunits, Int.compare_eq_gt]
    exact hlow.trans_le (Int.mul_le_mul_of_nonneg_right hi.1 hU.le)
  · have hwhole := inRange_whole (Int.not_lt.1 hlow) (Int.not_le.1 hhigh)
    have hinf : ¬x.IsInfinite := by
      intro hcode
      have hcode : x.code = infinityCode := hcode
      have hbound := lt_magnitude_infinityCode_of_le (i := 0x8000000000000000) (by decide) le_rfl
      rw [Binary64.units, hcode] at hhigh hlow
      split_ifs at hhigh hlow <;> omega
    rw [Int64.toInt_ofInt_of_le hwhole.1 hwhole.2, compareInt, if_neg hnan, if_neg hinf]

/-! ### Comparing by value -/

variable {x y : Number}

/-- **The comparison is exact.** Two numbers that are no NaNs compare like their values, whatever
their forms; only `-0.0` is below `0.0`, although both are zero. -/
theorem cmp_eq_compare_value (hx : ¬x.IsNaN) (hy : ¬y.IsNaN) :
    x.cmp y =
      if x = float (zero true) ∧ y = float (zero false) then .lt
      else if x = float (zero false) ∧ y = float (zero true) then .gt
      else compare x.value y.value := by
  split_ifs with hlt hgt
  · obtain ⟨rfl, rfl⟩ := hlt
    decide
  · obtain ⟨rfl, rfl⟩ := hgt
    decide
  · rcases cmp_cases (notBelow_of_not_isNaN hx) (notBelow_of_not_isNaN hy) with hcmp | h | h
    · rw [hcmp, compare_value hx hy]
    · exact absurd h hlt
    · exact absurd h hgt

/-- The least positive integer without a floating point number of its value is above the number it
would be rounded to, and would not be if it were rounded first. -/
theorem cmp_above_rounded :
    let i := int 9007199254740993
    let x := float (.ofBits 0x4340000000000000)
    ¬i.IsNaN ∧ ¬x.IsNaN ∧ i.cmp x = compare i.value x.value ∧ i.cmp x = .gt ∧
      (float i.toBinary64).cmp x = .eq := by
  intro i x
  have hi : ¬i.IsNaN := by decide
  have hx : ¬x.IsNaN := by decide +kernel
  refine ⟨hi, hx, ?_, by decide +kernel, by decide +kernel⟩
  rw [cmp_eq_compare_value hi hx, if_neg (by decide), if_neg (by decide)]

end OneShot.Number
