import OneShot.Text.Blank
import OneShot.Text.Lowercase
import OneShot.Text.Uppercase

/-!
# Disjoint properties of characters

Two ranges have no code point in common if one of them ends before the other begins, or if all code
points of one are even and all of the other are odd. The second case is that of the scripts in which
uppercase and lowercase letters alternate. Two lists of ranges are checked pair by pair, so the
properties that they give are seen to be disjoint without looking at any character.

## Main definitions

* `Text.CodeRange.alternates` — whether all code points of a range have one parity
* `Text.CodeRange.apart` — whether two ranges are seen to have no code point in common

## Main results

* `Text.CodeRange.covers_eq_false` — what is said of two lists of ranges when all pairs are apart
* `Text.isLowercase_of_isUppercase` — no uppercase character is a lowercase one
-/

namespace OneShot.Text

namespace CodeRange

/-- Whether a range takes every second code point or has only one. -/
def alternates (r : CodeRange) : Bool := r.step == 2 || r.first == r.last

theorem mod_two_of_alternates {r : CodeRange} {code : Nat} (halternates : r.alternates = true)
    (hr : r.contains code = true) : code % 2 = r.first % 2 := by
  simp only [alternates, contains, Bool.or_eq_true, Bool.and_eq_true, decide_eq_true_eq,
    beq_iff_eq] at halternates hr
  obtain hstep | hone := halternates
  · rw [hstep] at hr
    omega
  · rw [show code = r.first by omega]

/-- Whether one of two ranges ends before the other, or one is even and the other odd. -/
def apart (r r' : CodeRange) : Bool :=
  r.last < r'.first || r'.last < r.first ||
    (r.alternates && r'.alternates && r.first % 2 != r'.first % 2)

theorem contains_eq_false_of_apart {r r' : CodeRange} {code : Nat} (happart : r.apart r' = true)
    (hr : r.contains code = true) : r'.contains code = false := by
  rw [Bool.eq_false_iff]
  intro hr'
  simp only [apart, Bool.or_eq_true, Bool.and_eq_true, decide_eq_true_eq, bne_iff_ne] at happart
  obtain (hbefore | hbehind) | ⟨⟨halternates, halternates'⟩, hparity⟩ := happart
  · simp only [contains, Bool.and_eq_true, decide_eq_true_eq] at hr hr'
    omega
  · simp only [contains, Bool.and_eq_true, decide_eq_true_eq] at hr hr'
    omega
  · rw [← mod_two_of_alternates halternates hr, mod_two_of_alternates halternates' hr'] at hparity
    exact hparity rfl

theorem covers_eq_false {ranges ranges' : List CodeRange} {c : Char}
    (happart : (ranges.all fun r => ranges'.all r.apart) = true)
    (hc : covers ranges c = true) : covers ranges' c = false := by
  obtain ⟨r, hmem, hr⟩ := List.any_eq_true.1 hc
  refine List.any_eq_false.2 fun r' hmem' => ?_
  rw [Bool.not_eq_true]
  have hpair := List.all_eq_true.1 (List.all_eq_true.1 happart r hmem) r' hmem'
  exact contains_eq_false_of_apart hpair hr

end CodeRange

/-- No uppercase character is a lowercase one. -/
theorem isLowercase_of_isUppercase {c : Char} (hc : isUppercase c = true) :
    isLowercase c = false := by
  have happart : (uppercaseRanges.all fun r => lowercaseRanges.all r.apart) = true := by
    decide +kernel
  exact CodeRange.covers_eq_false happart hc

end OneShot.Text
