import OneShot.Proofs.Number.Json
import OneShot.Proofs.Number.Order

/-!
# Numbers compared by value

The value of a number of either form is a whole number of units, and an infinity counts as the first
magnitude out of range. With the NaNs that have a sign left out, `Number.cmp` is the comparison of
these values in all cases but one: `-0.0` is below `0.0`, although both are zero. `cmp_cases` says
this once, and what is needed elsewhere is read off from it.

## Main definitions

* `Number.units` — the value of a number
* `Number.NotBelow` — every number but the NaNs that have a sign

## Main results

* `Number.cmp_cases` — how two numbers compare
* `Number.eq_zeros_of_cmp_lt` — the one pair that is told apart without a difference in value
-/

namespace OneShot.Number

open Binary64

/-- The value of a number in units of `2 ^ (-1074)`. -/
def units : Number → Int
  | int value => value.toInt * unitsPerOne
  | float x => x.units

/-- Not a NaN with a sign. -/
def NotBelow : Number → Prop
  | int _ => True
  | float x => x.NotBelow

theorem IsFinite.notBelow {x : Number} (h : x.IsFinite) : x.NotBelow := by
  cases x with
  | int i => exact trivial
  | float x => exact fun hnan => absurd hnan (not_isNaN_of_isFinite h)

/-- **How two numbers compare**: by value, and the two floating point zeros by their signs. -/
theorem cmp_cases {x y : Number} (hx : x.NotBelow) (hy : y.NotBelow) :
    x.cmp y = compare x.units y.units ∨
      x = float (zero true) ∧ y = float (zero false) ∨
      x = float (zero false) ∧ y = float (zero true) := by
  have hU : (0 : Int) < unitsPerOne := by exact_mod_cast unitsPerOne_pos
  cases x with
  | int i =>
    cases y with
    | int j =>
      left
      rw [cmp, units, units]
      rcases Int.lt_trichotomy i.toInt j.toInt with h | h | h
      · rw [Int.compare_eq_lt.2 h, Int.compare_eq_lt.2 (Int.mul_lt_mul_of_pos_right h hU)]
      · rw [h, Int.compare_eq_eq.2 rfl, Int.compare_eq_eq.2 rfl]
      · rw [Int.compare_eq_gt.2 h, Int.compare_eq_gt.2 (Int.mul_lt_mul_of_pos_right h hU)]
    | float y => exact .inl (compareInt_eq (inRange_toInt i) hy)
  | float x =>
    cases y with
    | int j =>
      left
      rw [cmp, compareInt_eq (inRange_toInt j) hx, Int.compare_swap]
      rfl
    | float y =>
      change compare x.rank y.rank = compare x.units y.units ∨ _
      -- Only numbers of different ranks and the same value are told apart by more than the value.
      rcases Int.lt_trichotomy x.rank y.rank with h | h | h
      · rcases (units_le_of_rank_le h.le).lt_or_eq with hlt | heq
        · left
          rw [Int.compare_eq_lt.2 h, Int.compare_eq_lt.2 hlt]
        · obtain ⟨rfl, rfl⟩ := (rank_le_of_units_le heq.ge).resolve_left (Int.not_le.2 h)
          exact .inr (.inl ⟨rfl, rfl⟩)
      · left
        rw [Int.compare_eq_eq.2 h, Int.compare_eq_eq.2
          (le_antisymm (units_le_of_rank_le h.le) (units_le_of_rank_le h.ge))]
      · rcases (units_le_of_rank_le h.le).lt_or_eq with hlt | heq
        · left
          rw [Int.compare_eq_gt.2 h, Int.compare_eq_gt.2 hlt]
        · obtain ⟨rfl, rfl⟩ := (rank_le_of_units_le heq.ge).resolve_left (Int.not_le.2 h)
          exact .inr (.inr ⟨rfl, rfl⟩)

section Compare

variable {x y : Number}

theorem cmp_eq_gt_iff : x.cmp y = .gt ↔ y.cmp x = .lt := by
  rw [cmp_swap y x, Ordering.swap_eq_gt]

/-- A number that is not below another has no smaller value. -/
theorem units_le_of_cmp_ne_lt (hx : x.NotBelow) (hy : y.NotBelow) (h : x.cmp y ≠ .lt) :
    y.units ≤ x.units := by
  rcases cmp_cases hx hy with hcmp | ⟨rfl, rfl⟩ | ⟨rfl, rfl⟩
  · rw [hcmp] at h
    exact Int.compare_ne_lt.1 h
  · exact le_rfl
  · exact le_rfl

theorem units_le_of_cmp_lt (hx : x.NotBelow) (hy : y.NotBelow) (h : x.cmp y = .lt) :
    x.units ≤ y.units := by
  refine units_le_of_cmp_ne_lt hy hx ?_
  rw [cmp_swap x y, h]
  decide

theorem units_eq_of_cmp_eq (hx : x.NotBelow) (hy : y.NotBelow) (h : x.cmp y = .eq) :
    x.units = y.units := by
  have hswap := cmp_swap x y
  rw [h] at hswap
  refine le_antisymm (units_le_of_cmp_ne_lt hy hx ?_) (units_le_of_cmp_ne_lt hx hy ?_)
  · rw [hswap]
    decide
  · rw [h]
    decide

/-- A number that is below another without having a smaller value is the zero with the sign. -/
theorem eq_zeros_of_cmp_lt (hx : x.NotBelow) (hy : y.NotBelow) (h : x.cmp y = .lt)
    (hle : y.units ≤ x.units) : x = float (zero true) ∧ y = float (zero false) := by
  rcases cmp_cases hx hy with hcmp | hzeros | ⟨rfl, rfl⟩
  · rw [hcmp, Int.compare_eq_lt] at h
    exact absurd h (Int.not_lt.2 hle)
  · exact hzeros
  · exact absurd h (by decide)

/-- A number that is above another without having a greater value is the zero without the sign. -/
theorem eq_zeros_of_cmp_gt (hx : x.NotBelow) (hy : y.NotBelow) (h : x.cmp y = .gt)
    (hle : x.units ≤ y.units) : x = float (zero false) ∧ y = float (zero true) :=
  (eq_zeros_of_cmp_lt hy hx (cmp_eq_gt_iff.1 h) hle).symm

end Compare

/-- The three zeros. -/
theorem eq_zero_of_units_eq_zero {x : Number} (h : x.units = 0) :
    x = int 0 ∨ x = float (zero false) ∨ x = float (zero true) := by
  have hU : (0 : Int) < unitsPerOne := by exact_mod_cast unitsPerOne_pos
  cases x with
  | int i =>
    have hi : i.toInt = 0 := (Int.mul_eq_zero.1 h).resolve_right hU.ne'
    exact .inl (congrArg int (Int64.toInt_inj.1 hi))
  | float x =>
    have hcode : x.code = 0 := by
      by_contra hne
      have hpos := magnitude_pos hne
      change x.units = 0 at h
      rw [Binary64.units] at h
      split_ifs at h <;> omega
    refine .inr ?_
    cases hneg : x.negative
    · exact .inl (congrArg float (Binary64.ext hneg hcode))
    · exact .inr (congrArg float (Binary64.ext hneg hcode))

end OneShot.Number
