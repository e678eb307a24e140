import OneShot.Binary64.Arithmetic
import OneShot.Proofs.Binary64.Rounding

/-!
# Arithmetic on finite binary64 numbers

When the result of an operation on finite numbers is finite, and which numbers of units are
magnitudes. A quotient by a number from one on does not exceed its dividend, so it is finite with
it; products and sums may leave the range.

## Main results

* `exists_magnitude_eq` — up to `2 ^ 53` steps on a grid make a magnitude
* `dvd_magnitude` — the grids get coarser
* `div_isFinite`, `ofInt_isFinite` — results that stay in the range
-/

namespace OneShot.Binary64

/-! ### Magnitudes -/

/-- Up to `2 ^ 53` steps on the grid of width `2 ^ s` are the magnitude of a code. -/
theorem exists_magnitude_eq {k s : Nat} (hk : k ≤ 2 * binadeSize) :
    ∃ c, magnitude c = k * 2 ^ s := by
  induction s generalizing k with
  | zero => exact ⟨k, by rw [magnitude_of_le hk, pow_zero, Nat.mul_one]⟩
  | succ s ih =>
    rcases Nat.lt_or_ge k binadeSize with h | h
    · obtain ⟨c, hc⟩ := ih (k := 2 * k) (by omega)
      exact ⟨c, by rw [hc, pow_succ]; ring⟩
    · exact ⟨_, magnitude_add_mul h hk⟩

/-- A finite magnitude on a grid is the rounding of its units. -/
theorem magnitude_roundCode {k s : Nat} (hk : k ≤ 2 * binadeSize)
    (h : k * 2 ^ s < magnitude infinityCode) : magnitude (roundCode (k * 2 ^ s) 1) = k * 2 ^ s := by
  obtain ⟨c, hc⟩ := exists_magnitude_eq (s := s) hk
  have hcode : c < infinityCode := by rwa [← magnitude_strictMono.lt_iff_lt, hc]
  have hround := roundCode_magnitude Nat.one_pos hcode
  rw [hc, Nat.mul_one] at hround
  rw [hround, hc]

/-- From the binade of a grid on, all magnitudes lie on that grid. -/
theorem dvd_magnitude {c s : Nat} (h : (s + 1) * binadeSize ≤ c) : 2 ^ s ∣ magnitude c := by
  have hB : 0 < binadeSize := by decide
  obtain ⟨k, hk, hk', hc⟩ := exists_grid (Nat.le_trans (Nat.le_mul_of_pos_left _ s.succ_pos) h)
  have hs : s + 1 ≤ c / binadeSize := (Nat.le_div_iff_mul_le hB).mpr h
  rw [hc, magnitude_add_mul hk hk'.le]
  exact Dvd.dvd.mul_left (pow_dvd_pow 2 (by omega)) k

/-- The code of one. -/
def oneCode : Nat := 1023 * binadeSize

theorem magnitude_oneCode : magnitude oneCode = unitsPerOne := by
  have h := magnitude_add_mul (k := binadeSize) (s := 1022) le_rfl (by omega)
  rw [show oneCode = binadeSize + 1022 * binadeSize by decide, h, unitsPerOne_eq]
  rw [show binadeSize = 2 ^ 52 by decide, ← pow_add]

/-! ### Finite results -/

theorem not_isNaN_of_isFinite {x : Binary64} (h : x.IsFinite) : ¬x.IsNaN := Nat.lt_asymm h

theorem not_isInfinite_of_isFinite {x : Binary64} (h : x.IsFinite) : ¬x.IsInfinite := Nat.ne_of_lt h

theorem isFinite_of_not_isNaN_of_not_isInfinite {x : Binary64} (hnan : ¬x.IsNaN)
    (hinf : ¬x.IsInfinite) : x.IsFinite :=
  Nat.lt_of_le_of_ne (Nat.le_of_not_lt hnan) hinf

theorem neg_isFinite {x : Binary64} : x.neg.IsFinite ↔ x.IsFinite := Iff.rfl

theorem zero_isFinite (negative : Bool) : (zero negative).IsFinite := by decide +revert

/-- A result of rounding is a number, if perhaps an infinite one. -/
theorem ofRatio_isFinite_or_isInfinite (negative : Bool) (num den : Nat) :
    (ofRatio negative num den).IsFinite ∨ (ofRatio negative num den).IsInfinite :=
  (roundCode_le num den).lt_or_eq

/-- A quotient at the end of the range or beyond it rounds to infinity. -/
theorem roundCode_eq_infinityCode {num den : Nat} (hden : 0 < den)
    (h : magnitude infinityCode * den ≤ num) : roundCode num den = infinityCode := by
  refine le_antisymm (roundCode_le num den) ?_
  by_contra hlt
  have hle : roundCode num den ≤ infinityCode - 1 := by omega
  have hmag : magnitude (infinityCode - 1) < magnitude infinityCode :=
    magnitude_strictMono (by decide)
  rw [roundCode_le_iff hden (by decide), Nat.sub_add_cancel (by decide)] at hle
  rcases hle with hle | ⟨hle, -⟩ <;> nlinarith

theorem div_eq_ofRatio {x y : Binary64} (hx : x.IsFinite) (hy : y.IsFinite) (hzero : y.code ≠ 0) :
    x.div y = ofRatio (signOf x y) (magnitude x.code * unitsPerOne) (magnitude y.code) := by
  rw [div, if_neg (not_or.2 ⟨not_isNaN_of_isFinite hx, not_isNaN_of_isFinite hy⟩),
    if_neg (not_isInfinite_of_isFinite hx), if_neg (not_isInfinite_of_isFinite hy), if_neg hzero]

/-- A quotient by a number from one on is finite with its dividend. -/
theorem div_isFinite {x y : Binary64} (hx : x.IsFinite) (hy : ¬y.IsNaN) (hone : oneCode ≤ y.code) :
    (x.div y).IsFinite := by
  rw [div, if_neg (not_or.2 ⟨not_isNaN_of_isFinite hx, hy⟩),
    if_neg (not_isInfinite_of_isFinite hx)]
  have hzero : y.code ≠ 0 := by
    intro h
    rw [h] at hone
    exact absurd hone (by decide)
  split_ifs
  · exact zero_isFinite _
  · have hmag : unitsPerOne ≤ magnitude y.code := by
      rw [← magnitude_oneCode]
      exact magnitude_le_magnitude.2 hone
    refine Nat.lt_of_le_of_lt (roundCode_le_of_le ?_ hx ?_) hx
    · exact Nat.lt_of_lt_of_le unitsPerOne_pos hmag
    · exact Nat.mul_le_mul_left _ hmag

theorem mul_eq_ofRatio {x y : Binary64} (hx : x.IsFinite) (hy : y.IsFinite) :
    x.mul y = ofRatio (signOf x y) (magnitude x.code * magnitude y.code) unitsPerOne := by
  rw [mul, if_neg (not_or.2 ⟨not_isNaN_of_isFinite hx, not_isNaN_of_isFinite hy⟩),
    if_neg (not_or.2 ⟨not_isInfinite_of_isFinite hx, not_isInfinite_of_isFinite hy⟩)]

/-- A smaller factor gives a smaller product. -/
theorem mul_code_mono {x x' y y' : Binary64} (hx : x'.IsFinite) (hy : y'.IsFinite)
    (hxx : x.code ≤ x'.code) (hyy : y.code ≤ y'.code) : (x.mul y).code ≤ (x'.mul y').code := by
  rw [mul_eq_ofRatio hx hy, mul_eq_ofRatio (Nat.lt_of_le_of_lt hxx hx) (Nat.lt_of_le_of_lt hyy hy)]
  refine roundCode_mono unitsPerOne_pos unitsPerOne_pos (Nat.mul_le_mul_right _ ?_)
  exact Nat.mul_le_mul (magnitude_le_magnitude.2 hxx) (magnitude_le_magnitude.2 hyy)

/-! ### Integers -/

theorem ofInt_code_mono {i j : Int} (h : i.natAbs ≤ j.natAbs) : (ofInt i).code ≤ (ofInt j).code :=
  roundCode_mono Nat.one_pos Nat.one_pos
    (Nat.mul_le_mul_right 1 (Nat.mul_le_mul_right unitsPerOne h))

/-- Integers of up to 64 bits, and somewhat beyond, are in the range. -/
theorem ofInt_isFinite {i : Int} (h : i.natAbs ≤ 0x10000000000000000) : (ofInt i).IsFinite := by
  have hlast : (ofInt 0x10000000000000000).IsFinite := by decide +kernel
  refine Nat.lt_of_le_of_lt (ofInt_code_mono ?_) hlast
  exact h

theorem ofNat_code_mono {m n : Nat} (h : m ≤ n) : (ofInt m).code ≤ (ofInt n).code :=
  ofInt_code_mono (by rwa [Int.natAbs_natCast, Int.natAbs_natCast])

theorem ofNat_isFinite {n : Nat} (h : n ≤ 0x10000000000000000) : (ofInt n).IsFinite :=
  ofInt_isFinite (by rwa [Int.natAbs_natCast])

theorem oneCode_le_ofInt {i : Int} (h : i ≠ 0) : oneCode ≤ (ofInt i).code := by
  refine le_roundCode_of_le Nat.one_pos (by decide) ?_
  rw [magnitude_oneCode, Nat.mul_one]
  exact Nat.le_mul_of_pos_left _ (Int.natAbs_pos.2 h)

theorem ofInt_not_isNaN (i : Int) : ¬(ofInt i).IsNaN := Nat.not_lt.2 (roundCode_le _ _)

end OneShot.Binary64
