import Mathlib.Algebra.Order.Field.Rat
import Mathlib.Order.WithBot
import OneShot.Proofs.Number.Value

/-!
# Exact values

The value of a number as an extended rational number: of an integer the integer itself, of a finite
floating point number a fraction with a power of two below, and the ends of the line for the two
infinities. A NaN has no value; the definition is total and puts it with the infinities, and the
theorems leave it out.

Values compare like units, `compare_value`, so all that is known of units carries over.

## Main definitions

* `Number.IsNaN` — the floating point numbers that are none
* `Number.value` — the exact value of a number

## Main results

* `Number.value_le_value_iff`, `Number.compare_value` — values compare like units
* `Number.cmp_cases_value` — how two numbers compare
-/

namespace OneShot

namespace Binary64

/-- The exact value of a number. -/
def value (x : Binary64) : WithBot (WithTop ℚ) :=
  if x.IsFinite then ((x.units / unitsPerOne : ℚ) : WithTop ℚ)
  else if x.negative then ⊥ else ⊤

end Binary64

namespace Number

open Binary64

/-- A NaN of any kind. -/
def IsNaN : Number → Prop
  | int _ => False
  | float x => x.IsNaN

instance : (x : Number) → Decidable x.IsNaN
  | int _ => inferInstanceAs (Decidable False)
  | float x => inferInstanceAs (Decidable x.IsNaN)

/-- The exact value of a number. -/
def value : Number → WithBot (WithTop ℚ)
  | int i => ((i.toInt : ℚ) : WithTop ℚ)
  | float x => x.value

variable {x y : Number}

theorem IsFinite.not_isNaN (h : x.IsFinite) : ¬x.IsNaN := by
  cases x with
  | int i => exact not_false
  | float x => exact not_isNaN_of_isFinite h

theorem notBelow_of_not_isNaN (h : ¬x.IsNaN) : x.NotBelow := by
  cases x with
  | int i => exact trivial
  | float x => exact fun hnan => absurd hnan h

/-- **The three kinds of values.** -/
theorem value_cases (h : ¬x.IsNaN) :
    (x.value = ((x.units / unitsPerOne : ℚ) : WithTop ℚ) ∧
        -(magnitude infinityCode : Int) < x.units ∧ x.units < magnitude infinityCode) ∨
      (x.value = ⊤ ∧ x.units = magnitude infinityCode) ∨
      (x.value = ⊥ ∧ x.units = -(magnitude infinityCode : Int)) := by
  cases x with
  | int i =>
    have hU : (unitsPerOne : ℚ) ≠ 0 := by exact_mod_cast unitsPerOne_pos.ne'
    refine .inl ⟨?_, lt_magnitude_infinityCode (inRange_toInt i)⟩
    rw [value, units, Int.cast_mul, Int.cast_natCast, mul_div_cancel_right₀ _ hU]
  | float x =>
    by_cases hfinite : x.IsFinite
    · have hmag : (magnitude x.code : Int) < magnitude infinityCode := by
        exact_mod_cast magnitude_strictMono hfinite
      refine .inl ⟨by rw [value, Binary64.value, if_pos hfinite]; rfl, ?_⟩
      rw [units, Binary64.units]
      split_ifs <;> omega
    · have hcode : x.code = infinityCode :=
        Nat.le_antisymm (Nat.not_lt.1 h) (Nat.not_lt.1 hfinite)
      rw [value, Binary64.value, if_neg hfinite, units, Binary64.units, hcode]
      cases x.negative
      · exact .inr (.inl ⟨rfl, rfl⟩)
      · exact .inr (.inr ⟨rfl, rfl⟩)

/-- **Values compare like units.** -/
theorem value_le_value_iff (hx : ¬x.IsNaN) (hy : ¬y.IsNaN) :
    x.value ≤ y.value ↔ x.units ≤ y.units := by
  have hU : (0 : ℚ) < unitsPerOne := by exact_mod_cast unitsPerOne_pos
  have hM : 0 < magnitude infinityCode := magnitude_pos (by decide)
  rcases value_cases hx with ⟨hxv, hx₁, hx₂⟩ | ⟨hxv, hxu⟩ | ⟨hxv, hxu⟩ <;>
    rcases value_cases hy with ⟨hyv, hy₁, hy₂⟩ | ⟨hyv, hyu⟩ | ⟨hyv, hyu⟩ <;>
    rw [hxv, hyv]
  · rw [WithBot.coe_le_coe, WithTop.coe_le_coe, div_le_div_iff_of_pos_right hU, Int.cast_le]
  · exact iff_of_true le_top (by omega)
  · exact iff_of_false (WithBot.bot_lt_coe _).not_ge (by omega)
  · exact iff_of_false (WithBot.coe_lt_coe.2 (WithTop.coe_lt_top _)).not_ge (by omega)
  · exact iff_of_true le_top (by omega)
  · exact iff_of_false bot_lt_top.not_ge (by omega)
  · exact iff_of_true bot_le (by omega)
  · exact iff_of_true bot_le (by omega)
  · exact iff_of_true bot_le (by omega)

theorem compare_value (hx : ¬x.IsNaN) (hy : ¬y.IsNaN) :
    compare x.value y.value = compare x.units y.units := by
  rcases lt_trichotomy x.units y.units with h | h | h
  · rw [compare_lt_iff_lt.2 h, compare_lt_iff_lt, ← not_le, value_le_value_iff hy hx, not_le]
    exact h
  · rw [compare_eq_iff_eq.2 h, compare_eq_iff_eq]
    exact le_antisymm ((value_le_value_iff hx hy).2 h.le) ((value_le_value_iff hy hx).2 h.ge)
  · rw [compare_gt_iff_gt.2 h, compare_gt_iff_gt, ← not_le, value_le_value_iff hx hy, not_le]
    exact h

/-- **How two numbers compare**: by value, or both are zero. -/
theorem cmp_cases_value (hx : ¬x.IsNaN) (hy : ¬y.IsNaN) :
    x.cmp y = compare x.value y.value ∨ x.value = 0 ∧ y.value = 0 := by
  have hzero (negative : Bool) : (float (zero negative)).value = 0 := by
    cases negative <;> decide +kernel
  rcases cmp_cases (notBelow_of_not_isNaN hx) (notBelow_of_not_isNaN hy) with
    hcmp | ⟨rfl, rfl⟩ | ⟨rfl, rfl⟩
  · rw [compare_value hx hy]
    exact .inl hcmp
  · exact .inr ⟨hzero true, hzero false⟩
  · exact .inr ⟨hzero false, hzero true⟩

end Number

end OneShot
