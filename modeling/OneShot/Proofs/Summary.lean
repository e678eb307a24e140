import OneShot.Proofs.Number.Json
import OneShot.Proofs.Sorting
import OneShot.Summary

/-!
# Summaries of finite numbers

Of a list of finite numbers the mean is finite as long as the sum is, because it is no greater than
the sum, and the sorted list holds the numbers of the list in another order, if it can be sorted.
Only the sum can leave the range.
-/

namespace OneShot.Summary

/-- The mean is finite if the sum is. -/
theorem mean_isFinite {numbers : List Number} (h : (total numbers).IsFinite) :
    (mean numbers).IsFinite := by
  rw [mean]
  split_ifs with hnil
  · exact trivial
  · have hlength : (numbers.length : Int) ≠ 0 := by
      rwa [Ne, Int.natCast_eq_zero, List.length_eq_zero_iff]
    exact Binary64.div_isFinite h.toBinary64_isFinite (Binary64.ofInt_not_isNaN _)
      (Binary64.oneCode_le_ofInt hlength)

/-! ### Sorting -/

/-- The sorted list has the elements of the list. -/
theorem sort_perm {numbers sorted : List Number} (h : sort numbers = some sorted) :
    sorted.Perm numbers :=
  Sorting.perm_of_sort less h

/-- A short list is sorted by insertion. -/
theorem sort_of_length_le {numbers : List Number} (h : numbers.length ≤ 20) :
    sort numbers = some (Sorting.insertion less numbers) :=
  if_pos h

theorem ofList_eq_some_iff {numbers : List Number} {summary : Summary} :
    ofList numbers = some summary ↔
      ∃ sorted, sort numbers = some sorted ∧ ofSorted numbers sorted = summary :=
  Option.map_eq_some_iff

end OneShot.Summary
