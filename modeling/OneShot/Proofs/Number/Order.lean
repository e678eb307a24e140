import OneShot.Number.Order
import OneShot.Proofs.Binary64.Rounding

/-!
# Where the order of numbers is one

`Number.cmp` glues three comparisons together: integers as integers, an integer and a floating point
number by value, and floating point numbers by their rank, which tells the two zeros apart and puts
the NaNs of either sign at the two ends. Each of the three is an order. Glued together they compare
everything with everything, and always the same way round, but not transitively:

* the integer zero equals both floating point zeros, and these are not equal;
* a NaN with a sign is above every integer and below every floating point number.

`Seam` lists the triples in which one of the two happens, and `cmp_refl_swap_trans_iff` says that
there are no others. Away from the negative NaNs the comparison is that of the exact values, up to
the zeros; `compareInt_eq` and `rank_le_of_units_le` make this precise and carry the proof.
-/

namespace OneShot

namespace Binary64

/-! ### Values and ranks -/

/-- Not a NaN, or a NaN without a sign. -/
def NotBelow (x : Binary64) : Prop := x.IsNaN → x.negative = false

instance (x : Binary64) : Decidable x.NotBelow := inferInstanceAs (Decidable (_ → _))

theorem units_add (x : Binary64) : x.whole * unitsPerOne + x.part = x.units :=
  Int.tdiv_mul_add_tmod _ _

/-- The value of infinity is beyond all 64-bit integers. -/
theorem lt_magnitude_infinityCode_of_le {i : Int} (hlow : -0x8000000000000000 ≤ i)
    (hhigh : i ≤ 0x8000000000000000) :
    -(magnitude infinityCode : Int) < i * unitsPerOne ∧
      i * unitsPerOne < magnitude infinityCode := by
  have hmag : magnitude infinityCode = 2 ^ 1024 * unitsPerOne := by
    have h : infinityCode = binadeSize + 2046 * binadeSize := by decide
    rw [h, magnitude_add_mul le_rfl (by decide), unitsPerOne_eq, ← pow_add,
      show binadeSize = 2 ^ 52 by norm_num [binadeSize], ← pow_add]
  have hU : (0 : Int) < unitsPerOne := by exact_mod_cast unitsPerOne_pos
  have hbig : (0x8000000000000000 : Int) < 2 ^ 1024 :=
    lt_of_lt_of_le (b := 2 ^ 64) (by norm_num) (pow_le_pow_right₀ (by norm_num) (by norm_num))
  rw [hmag, Nat.cast_mul, Nat.cast_pow, Nat.cast_ofNat]
  constructor
  · rw [← Int.neg_mul]
    exact Int.mul_lt_mul_of_pos_right (by omega) hU
  · exact Int.mul_lt_mul_of_pos_right (by omega) hU

theorem lt_magnitude_infinityCode {i : Int} (hi : Number.InRange i) :
    -(magnitude infinityCode : Int) < i * unitsPerOne ∧
      i * unitsPerOne < magnitude infinityCode :=
  lt_magnitude_infinityCode_of_le hi.1 hi.2.le

theorem units_le_of_rank_le {x y : Binary64} (h : x.rank ≤ y.rank) : x.units ≤ y.units := by
  rw [rank, rank] at h
  rw [units, units]
  have hmag {c d : Nat} (h : c ≤ d) : (magnitude c : Int) ≤ magnitude d := by
    exact_mod_cast magnitude_le_magnitude.mpr h
  cases hx : x.negative <;> cases hy : y.negative <;> rw [hx, hy] at h <;>
    simp only [Bool.false_eq_true, if_true, if_false] at h ⊢
  · exact hmag (by omega)
  · omega
  · omega
  · exact Int.neg_le_neg (hmag (by omega))

/-- Ranks tell no more than values do, but for the two zeros. -/
theorem rank_le_of_units_le {x y : Binary64} (h : x.units ≤ y.units) :
    x.rank ≤ y.rank ∨ x = zero false ∧ y = zero true := by
  rw [units, units] at h
  rw [rank, rank]
  have hmag {c d : Nat} (h : (magnitude c : Int) ≤ magnitude d) : c ≤ d :=
    magnitude_le_magnitude.mp (by exact_mod_cast h)
  have hzero {z : Binary64} (h : (magnitude z.code : Int) ≤ 0) : z.code = 0 := by
    by_contra hne
    have := magnitude_pos hne
    omega
  cases hx : x.negative <;> cases hy : y.negative <;> rw [hx, hy] at h <;>
    simp only [Bool.false_eq_true, if_true, if_false] at h ⊢
  · exact Or.inl (by exact_mod_cast hmag h)
  · refine Or.inr ⟨Binary64.ext hx (hzero (by omega)), Binary64.ext hy (hzero (by omega))⟩
  · omega
  · have := hmag (Int.neg_le_neg_iff.mp h)
    omega

/-- No negative NaN has a rank as high as a number that is none. -/
theorem NotBelow.of_rank_le {x y : Binary64} (hx : x.NotBelow) (h : x.rank ≤ y.rank) :
    y.NotBelow := by
  intro hy
  by_contra hneg
  rw [Bool.not_eq_false] at hneg
  have hycode : infinityCode < y.code := hy
  rw [rank, rank, if_pos hneg] at h
  split at h
  · rename_i hxneg
    have hnan : x.IsNaN := Nat.lt_of_lt_of_le hycode (by omega)
    simp [hx hnan] at hxneg
  · omega

end Binary64

namespace Number

open Binary64

/-! ### The three comparisons -/

/-- An integer compares with a floating point number as the exact values do. -/
theorem compareInt_eq {i : Int} {x : Binary64} (hi : InRange i) (hx : x.NotBelow) :
    compareInt i x = compare (i * unitsPerOne) x.units := by
  have hbig := lt_magnitude_infinityCode hi
  have hmag {c : Nat} (h : infinityCode ≤ c) : (magnitude infinityCode : Int) ≤ magnitude c := by
    exact_mod_cast magnitude_le_magnitude.mpr h
  rw [compareInt]
  split
  · rename_i hnan
    have := hmag (Nat.le_of_lt hnan)
    rw [units, if_neg (by simp [hx hnan]), eq_comm, Int.compare_eq_lt]
    omega
  · split
    · rename_i hinf
      have hcode : x.code = infinityCode := hinf
      rw [units, hcode]
      cases hneg : x.negative
      · rw [if_neg (by simp), if_neg (by simp), eq_comm, Int.compare_eq_lt]
        omega
      · rw [if_pos rfl, if_pos rfl, eq_comm, Int.compare_eq_gt]
        omega
    · have hU : (0 : Int) < unitsPerOne := by exact_mod_cast unitsPerOne_pos
      have hlow : -(unitsPerOne : Int) < x.part := Int.lt_tmod_of_pos _ hU
      have hhigh : x.part < unitsPerOne := Int.tmod_lt_of_pos _ hU
      rw [← units_add]
      generalize (unitsPerOne : Int) = u at hU hlow hhigh ⊢
      rcases Int.lt_trichotomy i x.whole with h | rfl | h
      · have : (i + 1) * u ≤ x.whole * u := Int.mul_le_mul_of_nonneg_right h hU.le
        rw [Int.compare_eq_lt.mpr h, Ordering.lt_then, eq_comm, Int.compare_eq_lt]
        linarith
      · rw [Int.compare_eq_eq.mpr rfl, Ordering.eq_then]
        rcases Int.lt_trichotomy 0 x.part with h | h | h
        · rw [Int.compare_eq_lt.mpr h, eq_comm, Int.compare_eq_lt]; omega
        · rw [Int.compare_eq_eq.mpr h, eq_comm, Int.compare_eq_eq]; omega
        · rw [Int.compare_eq_gt.mpr h, eq_comm, Int.compare_eq_gt]; omega
      · have : (x.whole + 1) * u ≤ i * u := Int.mul_le_mul_of_nonneg_right h hU.le
        rw [Int.compare_eq_gt.mpr h, Ordering.gt_then, eq_comm, Int.compare_eq_gt]
        linarith

/-- A NaN with a sign is above every integer, as all NaNs are. -/
theorem compareInt_of_not_notBelow {i : Int} {x : Binary64} (hx : ¬x.NotBelow) :
    compareInt i x = .lt := by
  rw [compareInt, if_pos (Classical.not_imp.mp hx).1]

theorem cmp_int_ne_gt {i j : Int64} : (int i).cmp (int j) ≠ .gt ↔ i.toInt ≤ j.toInt :=
  Int.compare_ne_gt

theorem cmp_float_ne_gt {x y : Binary64} : (float x).cmp (float y) ≠ .gt ↔ x.rank ≤ y.rank :=
  Int.compare_ne_gt

theorem cmp_int_float_ne_gt {i : Int64} {x : Binary64} (hx : x.NotBelow) :
    (int i).cmp (float x) ≠ .gt ↔ i.toInt * unitsPerOne ≤ x.units := by
  rw [cmp, compareInt_eq (inRange_toInt i) hx, Int.compare_ne_gt]

theorem cmp_float_int_ne_gt {i : Int64} {x : Binary64} :
    (float x).cmp (int i) ≠ .gt ↔ x.NotBelow ∧ x.units ≤ i.toInt * unitsPerOne := by
  rw [cmp]
  by_cases hx : x.NotBelow
  · rw [compareInt_eq (inRange_toInt i) hx, Int.compare_swap, Int.compare_ne_gt,
      and_iff_right hx]
  · rw [compareInt_of_not_notBelow hx]
    exact ⟨fun h => absurd rfl h, fun h => absurd h.1 hx⟩

/-! ### Transitivity -/

/-- Three numbers in a row that do not compare like the first and the last of them. -/
inductive Seam : Number → Number → Number → Prop where
  /-- The integer zero equals both zeros. -/
  | zeros : Seam (float (zero false)) (int 0) (float (zero true))
  /-- A negative NaN is below every other floating point number and above every integer. -/
  | nanFirst {n x : Binary64} {i : Int64} (hn : n.IsNaN ∧ n.negative = true)
      (h : compareInt i.toInt x ≠ .lt) : Seam (float n) (float x) (int i)
  | nanBetween {n x : Binary64} {i : Int64} (hn : n.IsNaN ∧ n.negative = true)
      (h : compareInt i.toInt x = .gt) : Seam (int i) (float n) (float x)
  | nanLast {n x : Binary64} {i : Int64} (hn : n.IsNaN ∧ n.negative = true)
      (h : compareInt i.toInt x ≠ .lt) : Seam (float x) (int i) (float n)

theorem cmp_self (x : Number) : x.cmp x = .eq := by
  cases x with
  | int i => exact Int.compare_eq_eq.mpr rfl
  | float x => exact Int.compare_eq_eq.mpr rfl

theorem cmp_swap (x y : Number) : y.cmp x = (x.cmp y).swap := by
  cases x <;> cases y <;> simp only [cmp, totalOrder, Int.compare_swap, Ordering.swap_swap]

/-- The integer zero is the only integer between the two zeros. -/
theorem eq_zero_of_units {i : Int64} (h : (zero false).units ≤ i.toInt * unitsPerOne)
    (h' : i.toInt * unitsPerOne ≤ (zero true).units) : i = 0 := by
  have hU : (0 : Int) < unitsPerOne := by exact_mod_cast unitsPerOne_pos
  have hmul : i.toInt * unitsPerOne = 0 := le_antisymm h' h
  exact Int64.toInt_inj.mp ((Int.mul_eq_zero.mp hmul).resolve_right hU.ne')

theorem rank_lt_of_notBelow {n x : Binary64} (hn : ¬n.NotBelow) (hx : x.NotBelow) :
    n.rank < x.rank := by
  by_contra h
  exact hn (hx.of_rank_le (Int.not_lt.mp h))

theorem not_notBelow {n : Binary64} (hn : n.IsNaN ∧ n.negative = true) : ¬n.NotBelow := by
  intro h
  have hpos := h hn.1
  rw [hn.2] at hpos
  exact Bool.noConfusion hpos

/-- A number that is not above an integer is not a NaN. -/
theorem notBelow_of_compareInt_ne_lt {i : Int} {x : Binary64} (h : compareInt i x ≠ .lt) :
    x.NotBelow := by
  by_contra hx
  exact h (compareInt_of_not_notBelow hx)

theorem Seam.cmp_eq_gt {x y z : Number} (h : Seam x y z) : x.cmp z = .gt := by
  cases h with
  | zeros => decide
  | nanFirst hn h => rw [cmp, compareInt_of_not_notBelow (not_notBelow hn)]; rfl
  | nanBetween hn h => exact h
  | nanLast hn h =>
    exact Int.compare_eq_gt.mpr
      (rank_lt_of_notBelow (not_notBelow hn) (notBelow_of_compareInt_ne_lt h))

theorem cmp_trans_of_not_seam {x y z : Number} (hxy : x.cmp y ≠ .gt) (hyz : y.cmp z ≠ .gt)
    (h : ¬Seam x y z) : x.cmp z ≠ .gt := by
  have hU : (0 : Int) < unitsPerOne := by exact_mod_cast unitsPerOne_pos
  have hmul {i j : Int64} (hij : i.toInt ≤ j.toInt) :
      i.toInt * unitsPerOne ≤ j.toInt * unitsPerOne := Int.mul_le_mul_of_nonneg_right hij hU.le
  -- By the forms of the three numbers. Where an integer meets a negative NaN nothing is to be
  -- said about values; everywhere else the values are in order.
  rcases x with i | x <;> rcases y with j | y <;> rcases z with k | z
  · exact cmp_int_ne_gt.mpr (le_trans (cmp_int_ne_gt.mp hxy) (cmp_int_ne_gt.mp hyz))
  · by_cases hz : z.NotBelow
    · rw [cmp_int_float_ne_gt hz] at hyz ⊢
      exact le_trans (hmul (cmp_int_ne_gt.mp hxy)) hyz
    · rw [cmp, compareInt_of_not_notBelow hz]
      decide
  · obtain ⟨hy, hyk⟩ := cmp_float_int_ne_gt.mp hyz
    rw [cmp_int_float_ne_gt hy] at hxy
    exact cmp_int_ne_gt.mpr (Int.le_of_mul_le_mul_right (le_trans hxy hyk) hU)
  · by_cases hy : y.NotBelow
    · have hyz := cmp_float_ne_gt.mp hyz
      rw [cmp_int_float_ne_gt hy] at hxy
      rw [cmp_int_float_ne_gt (hy.of_rank_le hyz)]
      exact le_trans hxy (units_le_of_rank_le hyz)
    · obtain ⟨hnan, hneg⟩ := Classical.not_imp.mp hy
      exact fun hgt => h (Seam.nanBetween ⟨hnan, by simpa using hneg⟩ hgt)
  · obtain ⟨hx, hxj⟩ := cmp_float_int_ne_gt.mp hxy
    exact cmp_float_int_ne_gt.mpr ⟨hx, le_trans hxj (hmul (cmp_int_ne_gt.mp hyz))⟩
  · obtain ⟨hx, hxj⟩ := cmp_float_int_ne_gt.mp hxy
    by_cases hz : z.NotBelow
    · rw [cmp_int_float_ne_gt hz] at hyz
      rw [cmp_float_ne_gt]
      refine (rank_le_of_units_le (le_trans hxj hyz)).resolve_right ?_
      rintro ⟨rfl, rfl⟩
      obtain rfl := eq_zero_of_units hxj hyz
      exact h Seam.zeros
    · obtain ⟨hnan, hneg⟩ := Classical.not_imp.mp hz
      refine absurd (Seam.nanLast ⟨hnan, by simpa using hneg⟩ ?_) h
      rwa [compareInt_eq (inRange_toInt j) hx, Int.compare_ne_lt]
  · have hxy := cmp_float_ne_gt.mp hxy
    obtain ⟨hy, hyk⟩ := cmp_float_int_ne_gt.mp hyz
    by_cases hx : x.NotBelow
    · exact cmp_float_int_ne_gt.mpr ⟨hx, le_trans (units_le_of_rank_le hxy) hyk⟩
    · obtain ⟨hnan, hneg⟩ := Classical.not_imp.mp hx
      refine absurd (Seam.nanFirst ⟨hnan, by simpa using hneg⟩ ?_) h
      rwa [compareInt_eq (inRange_toInt k) hy, Int.compare_ne_lt]
  · exact cmp_float_ne_gt.mpr (le_trans (cmp_float_ne_gt.mp hxy) (cmp_float_ne_gt.mp hyz))

/-- **The seams are the only failures.** Every number equals itself, the comparison is the same in
both directions, and of three numbers in a row the last is above the first or equal to it exactly
if the three are no seam. -/
theorem cmp_refl_swap_trans_iff (x y z : Number) :
    x.cmp x = .eq ∧ y.cmp x = (x.cmp y).swap ∧
      (x.cmp y ≠ .gt → y.cmp z ≠ .gt → (x.cmp z ≠ .gt ↔ ¬Seam x y z)) :=
  ⟨cmp_self x, cmp_swap x y, fun hxy hyz =>
    ⟨fun hxz h => hxz h.cmp_eq_gt, cmp_trans_of_not_seam hxy hyz⟩⟩

/-- The comparison is no order: both zeros equal the integer zero, and yet the positive one is above
the negative one. -/
theorem not_cmp_trans :
    ¬∀ x y z : Number, x.cmp y ≠ .gt → y.cmp z ≠ .gt → x.cmp z ≠ .gt := by
  intro h
  exact h (float (zero false)) (int 0) (float (zero true)) (by decide +kernel) (by decide +kernel)
    (by decide +kernel)

end Number

end OneShot
