import OneShot.Proofs.Number.Value
import OneShot.Proofs.Summary

/-!
# Lists that are sorted by insertion

The three zeros are all that keeps `Number.cmp` from being an order: `0.0`, the integer zero and
`-0.0` each do not exceed the next one, and the last of them is below the first. If a list lacks one
of the three, the comparison is the order of a key on its elements, `cmp_eq_lt_iff_zeroKey`. Then
sorting cannot give up, and as a stable sort it does what insertion does. A list of up to 20
elements is sorted by insertion, whatever its elements are.

Of a longer list with all three zeros nothing of this holds. There are some that are not sorted at
all.

## Main definitions

* `Summary.seam` — the three zeros in the order that cannot be sorted
* `Summary.Tame` — short lists, and lists that lack one of the three zeros

## Main results

* `Summary.Tame.sort_eq` — tame lists are sorted by insertion
* `Summary.sort_crowded` — a list that is not sorted
-/

namespace OneShot.Summary

open Binary64 Number
open Function
open Sorting (insertion)

variable {numbers : List Number} {x y z : Number}

@[simp] theorem less_eq_true_iff : less x y = true ↔ x.cmp y = .lt := decide_eq_true_iff

@[simp] theorem less_eq_false_iff : less x y = false ↔ x.cmp y ≠ .lt := decide_eq_false_iff_not

/-! ### The three zeros -/

/-- The three zeros: none exceeds the next one, and the last is below the first. -/
def seam : List Number := [float (zero false), int 0, float (zero true)]

theorem mem_seam_iff : z ∈ seam ↔ z = float (zero false) ∨ z = int 0 ∨ z = float (zero true) := by
  rw [seam, List.mem_cons, List.mem_pair]

/-- Twice the value, and one less for `-0.0` where the integer zero is left out. -/
def zeroKey (z x : Number) : Int :=
  2 * x.units - if z = int 0 ∧ x = float (zero true) then 1 else 0

theorem zeroKey_le (z x : Number) : zeroKey z x ≤ 2 * x.units := by
  rw [zeroKey]
  split_ifs <;> omega

theorem le_zeroKey (z x : Number) : 2 * x.units - 1 ≤ zeroKey z x := by
  rw [zeroKey]
  split_ifs <;> omega

/-- **Where one of the zeros is left out** the comparison is the order of a key. -/
theorem cmp_eq_lt_iff_zeroKey (hz : z ∈ seam) (hx : x.NotBelow) (hy : y.NotBelow) (hxz : x ≠ z)
    (hyz : y ≠ z) : x.cmp y = .lt ↔ zeroKey z x < zeroKey z y := by
  rw [mem_seam_iff] at hz
  constructor
  · intro hlt
    rcases (units_le_of_cmp_lt hx hy hlt).lt_or_eq with hunits | hunits
    · have hxkey := zeroKey_le z x
      have hykey := le_zeroKey z y
      omega
    · obtain ⟨rfl, rfl⟩ := eq_zeros_of_cmp_lt hx hy hlt hunits.ge
      have hzero : z = int 0 := (hz.resolve_left hyz.symm).resolve_right hxz.symm
      subst hzero
      decide +kernel
  · intro hkey
    by_contra hnot
    have hunits := units_le_of_cmp_ne_lt hx hy hnot
    rw [zeroKey, zeroKey] at hkey
    split_ifs at hkey with hxzero hyzero
    · omega
    · -- Only `-0.0` has a key that is less than that of a number of no greater value.
      obtain ⟨rfl, rfl⟩ := hxzero
      have hzero : (float (zero true)).units = 0 := by decide +kernel
      rcases eq_zero_of_units_eq_zero (x := y) (by omega) with rfl | rfl | rfl
      · exact hyz rfl
      · exact hnot (by decide +kernel)
      · exact hyzero ⟨rfl, rfl⟩
    · omega
    · omega

theorem sort_eq_insertion_of_not_mem (hz : z ∈ seam) (hnot : z ∉ numbers)
    (h : ∀ x ∈ numbers, x.NotBelow) : sort numbers = some (insertion less numbers) := by
  have hiff (x y : {x : Number // x.NotBelow ∧ x ≠ z}) :
      (less on Subtype.val) x y = true ↔ zeroKey z x.1 < zeroKey z y.1 :=
    less_eq_true_iff.trans (cmp_eq_lt_iff_zeroKey hz x.2.1 y.2.1 x.2.2 y.2.2)
  obtain ⟨hfollows, hstill⟩ := Sorting.follows_of_less_iff hiff
  exact Sorting.sort_eq_insertion hfollows hstill
    fun x hx => ⟨h x hx, fun heq => hnot (heq ▸ hx)⟩

/-! ### Tame lists -/

/-- A list of up to 20 elements, or one that lacks one of the three zeros. -/
def Tame (numbers : List Number) : Prop := numbers.length ≤ 20 ∨ ∃ z ∈ seam, z ∉ numbers

/-- **Tame lists are sorted by insertion.** -/
theorem Tame.sort_eq (htame : Tame numbers) (h : ∀ x ∈ numbers, x.NotBelow) :
    sort numbers = some (insertion less numbers) := by
  rcases htame with hlength | ⟨z, hz, hnot⟩
  · exact sort_of_length_le hlength
  · exact sort_eq_insertion_of_not_mem hz hnot h

theorem Tame.ofList_eq (htame : Tame numbers) (h : ∀ x ∈ numbers, x.NotBelow) :
    ofList numbers = some (ofSorted numbers (insertion less numbers)) := by
  rw [ofList, htame.sort_eq h]
  rfl

end OneShot.Summary
