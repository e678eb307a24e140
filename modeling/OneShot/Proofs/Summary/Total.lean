import Mathlib.Data.List.Infix
import OneShot.Proofs.Number.Json
import OneShot.Summary

/-!
# Sums

The sum of a list is built from left to right, and its form can change on the way but never back: a
floating point number stays one, whatever is added to it. So the sum of a list is an integer exactly
if all elements are and no partial sum leaves the range of 64 bits, `total_eq_int_iff`. This is more
than that the total is in range: partial sums that leave the range and come back cost the form, and
the rounding may cost the value, so that the total is one and the sum `0.0`.

## Main definitions

* `Summary.exactTotal` — the total of integers
* `Summary.StaysInRange` — no partial sum is out of range
* `Summary.FollowsTotal` — the form of the sum is decided by the total

## Main results

* `Summary.foldl_add_float` — once a floating point number, always one
* `Summary.total_eq_int_iff` — the lists that have an integer as their sum
* `Summary.followsTotal_iff` — the lists the total of which decides
* `Summary.sum_eq_int_iff` — when the sum is an integer, and that no addition wraps around
-/

namespace OneShot.Summary

open Number

/-- The total of integers, of any size. -/
def exactTotal (values : List Int64) : Int := (values.map Int64.toInt).sum

/-- No partial sum is out of range when integers are added one by one to the first number. -/
def StaysInRange (start : Int) (values : List Int64) : Prop :=
  ∀ before, before <+: values → InRange (start + exactTotal before)

/-! ### One addition -/

theorem add_float (x : Binary64) (number : Number) : ∃ y, (float x).add number = float y := by
  cases number with
  | int i => exact ⟨_, rfl⟩
  | float y => exact ⟨_, rfl⟩

theorem add_of_float (number : Number) (x : Binary64) : ∃ y, number.add (float x) = float y := by
  cases number with
  | int i => exact ⟨_, rfl⟩
  | float y => exact ⟨_, rfl⟩

/-- Two integers give the integer that is their sum, if it is in range. -/
theorem add_int_of_inRange {i j : Int64} (h : InRange (i.toInt + j.toInt)) :
    ∃ t : Int64, (int i).add (int j) = int t ∧ t.toInt = i.toInt + j.toInt :=
  ⟨_, if_pos h, Int64.toInt_ofInt_of_le h.1 h.2⟩

theorem add_int_of_not_inRange {i j : Int64} (h : ¬InRange (i.toInt + j.toInt)) :
    ∃ y, (int i).add (int j) = float y :=
  ⟨_, if_neg h⟩

/-! ### Sums from left to right -/

/-- **Once a floating point number, always one.** -/
theorem foldl_add_float (x : Binary64) (numbers : List Number) :
    ∃ y, numbers.foldl add (float x) = float y := by
  induction numbers generalizing x with
  | nil => exact ⟨x, rfl⟩
  | cons number numbers ih =>
    obtain ⟨y, hy⟩ := add_float x number
    rw [List.foldl_cons, hy]
    exact ih y

theorem foldl_add_of_mem_float {x : Binary64} {numbers : List Number} (h : float x ∈ numbers)
    (start : Number) : ∃ y, numbers.foldl add start = float y := by
  obtain ⟨before, behind, rfl⟩ := List.append_of_mem h
  obtain ⟨y, hy⟩ := add_of_float (before.foldl add start) x
  rw [List.foldl_append, List.foldl_cons, hy]
  exact foldl_add_float y behind

theorem exactTotal_cons (value : Int64) (values : List Int64) :
    exactTotal (value :: values) = value.toInt + exactTotal values :=
  List.sum_cons

theorem StaysInRange.start {start : Int} {values : List Int64} (h : StaysInRange start values) :
    InRange start := by
  have hnil := h [] List.nil_prefix
  rwa [exactTotal, List.map_nil, List.sum_nil, Int.add_zero] at hnil

theorem staysInRange_nil {start : Int} : StaysInRange start [] ↔ InRange start := by
  refine ⟨StaysInRange.start, fun h before hbefore => ?_⟩
  rw [List.prefix_nil.1 hbefore, exactTotal, List.map_nil, List.sum_nil, Int.add_zero]
  exact h

/-- The first partial sum is the start, and the others begin with the first integer. -/
theorem staysInRange_cons {start : Int} {value : Int64} {values : List Int64} :
    StaysInRange start (value :: values) ↔
      InRange start ∧ StaysInRange (start + value.toInt) values := by
  constructor
  · intro h
    refine ⟨h.start, fun before hbefore => ?_⟩
    rw [Int.add_assoc, ← exactTotal_cons]
    exact h _ (List.cons_prefix_cons.2 ⟨rfl, hbefore⟩)
  · rintro ⟨hstart, h⟩ before hbefore
    rcases List.prefix_cons_iff.1 hbefore with rfl | ⟨before, rfl, hprefix⟩
    · exact staysInRange_nil.2 hstart [] List.prefix_rfl
    · rw [exactTotal_cons, ← Int.add_assoc]
      exact h before hprefix

/-- The invariant of the sum: as long as no partial sum leaves the range, the sum is the integer
that the exact total is, and afterwards it is no integer. -/
theorem foldl_add_int_iff {start t : Int64} {values : List Int64} :
    (values.map int).foldl add (int start) = int t ↔
      StaysInRange start.toInt values ∧ t.toInt = start.toInt + exactTotal values := by
  induction values generalizing start with
  | nil =>
    rw [staysInRange_nil, and_iff_right (inRange_toInt start), exactTotal, List.map_nil,
      List.map_nil, List.sum_nil, Int.add_zero, List.foldl_nil, int.injEq, ← Int64.toInt_inj,
      eq_comm]
  | cons value values ih =>
    rw [List.map_cons, List.foldl_cons, staysInRange_cons, and_iff_right (inRange_toInt start),
      exactTotal_cons, ← Int.add_assoc]
    by_cases hsum : InRange (start.toInt + value.toInt)
    · obtain ⟨next, hadd, hnext⟩ := add_int_of_inRange hsum
      rw [hadd, ih, hnext]
    · obtain ⟨x, hadd⟩ := add_int_of_not_inRange hsum
      obtain ⟨y, hy⟩ := foldl_add_float x (values.map int)
      rw [hadd, hy]
      exact iff_of_false nofun fun h => hsum h.1.start

/-! ### Sums of lists -/

/-- A list holds integers only, or a floating point number. -/
theorem integers_or_float (numbers : List Number) :
    (∃ values : List Int64, numbers = values.map int) ∨ ∃ x, float x ∈ numbers := by
  induction numbers with
  | nil => exact .inl ⟨[], rfl⟩
  | cons number numbers ih =>
    cases number with
    | float x => exact .inr ⟨x, List.mem_cons_self⟩
    | int i =>
      rcases ih with ⟨values, rfl⟩ | ⟨x, hx⟩
      · exact .inl ⟨i :: values, rfl⟩
      · exact .inr ⟨x, List.mem_cons_of_mem _ hx⟩

theorem total_of_mem_float {x : Binary64} {numbers : List Number} (h : float x ∈ numbers) :
    ∃ y, total numbers = float y :=
  foldl_add_of_mem_float h (int 0)

theorem total_map_int_iff {t : Int64} {values : List Int64} :
    total (values.map int) = int t ↔ StaysInRange 0 values ∧ t.toInt = exactTotal values := by
  rw [total, foldl_add_int_iff, Int64.toInt_zero, Int.zero_add]

/-- **The lists that have an integer as their sum.** -/
theorem total_eq_int_iff {t : Int64} {numbers : List Number} :
    total numbers = int t ↔
      ∃ values : List Int64, numbers = values.map int ∧ StaysInRange 0 values ∧
        t.toInt = exactTotal values := by
  constructor
  · intro h
    rcases integers_or_float numbers with ⟨values, rfl⟩ | ⟨x, hx⟩
    · exact ⟨values, rfl, total_map_int_iff.1 h⟩
    · obtain ⟨y, hy⟩ := total_of_mem_float hx
      rw [hy] at h
      cases h
  · rintro ⟨values, rfl, h⟩
    exact total_map_int_iff.2 h

/-! ### The law of the total -/

/-- The sum of a list is the exact total if all elements are integers and the total is in range; if
an element is a floating point number, or the total is out of range, the sum is a floating point
number. -/
structure FollowsTotal (numbers : List Number) (sum : Number) : Prop where
  integer : ∀ values : List Int64, numbers = values.map int → InRange (exactTotal values) →
    ∃ t : Int64, sum = int t ∧ t.toInt = exactTotal values
  floating : ((∃ x, float x ∈ numbers) ∨
      ∃ values : List Int64, numbers = values.map int ∧ ¬InRange (exactTotal values)) →
    ∃ y, sum = float y

/-- The sum of a summary, which is built before the list is sorted. -/
theorem sum_of_ofList {numbers : List Number} {summary : Summary}
    (h : ofList numbers = some summary) : summary.sum = total numbers := by
  obtain ⟨sorted, -, rfl⟩ := Option.map_eq_some_iff.1 h
  rfl

/-- **The lists the total of which decides.** The sum of a list is as its total wants it exactly if
the list is no list of integers whose total is in range and which has a partial sum that is not.
This is the sum in its summary, if there is one. -/
theorem followsTotal_iff (numbers : List Number) :
    (FollowsTotal numbers (total numbers) ↔
      ∀ values : List Int64, numbers = values.map int → InRange (exactTotal values) →
        StaysInRange 0 values) ∧
      ∀ summary, ofList numbers = some summary → summary.sum = total numbers := by
  refine ⟨?_, fun summary => sum_of_ofList⟩
  constructor
  · intro h values hvalues hrange
    obtain ⟨t, ht, -⟩ := h.integer values hvalues hrange
    rw [hvalues] at ht
    exact (total_map_int_iff.1 ht).1
  · intro h
    refine ⟨fun values hvalues hrange => ?_, ?_⟩
    · refine ⟨.ofInt (exactTotal values), ?_, Int64.toInt_ofInt_of_le hrange.1 hrange.2⟩
      rw [hvalues]
      exact total_map_int_iff.2
        ⟨h values hvalues hrange, Int64.toInt_ofInt_of_le hrange.1 hrange.2⟩
    · rintro (⟨x, hx⟩ | ⟨values, rfl, hrange⟩)
      · exact total_of_mem_float hx
      · cases htotal : total (values.map int) with
        | float y => exact ⟨y, rfl⟩
        | int t =>
          obtain ⟨-, ht⟩ := total_map_int_iff.1 htotal
          rw [← ht] at hrange
          exact absurd (inRange_toInt t) hrange

/-- The greatest integer, one, and the greatest integer taken away again: the total is one, and the
sum is zero. -/
theorem not_followsTotal :
    exactTotal [0x7FFFFFFFFFFFFFFF, 1, -0x7FFFFFFFFFFFFFFF] = 1 ∧
      ∃ summary, ofList ([0x7FFFFFFFFFFFFFFF, 1, -0x7FFFFFFFFFFFFFFF].map int) = some summary ∧
        summary.sum = float (.zero false) ∧
        ¬FollowsTotal ([0x7FFFFFFFFFFFFFFF, 1, -0x7FFFFFFFFFFFFFFF].map int) summary.sum := by
  have hsum : (ofList ([0x7FFFFFFFFFFFFFFF, 1, -0x7FFFFFFFFFFFFFFF].map int)).map Summary.sum =
      some (float (.zero false)) := by
    decide +kernel
  obtain ⟨summary, hsummary, hfloat⟩ := Option.map_eq_some_iff.1 hsum
  refine ⟨by decide, summary, hsummary, hfloat, fun h => ?_⟩
  obtain ⟨t, ht, -⟩ := h.integer _ rfl (by decide)
  rw [hfloat] at ht
  cases ht

/-! ### Partial sums -/

/-- Two numbers add up to an integer exactly if both are integers and nothing is lost: the result is
their exact sum. -/
theorem add_eq_int_iff {x y : Number} {s : Int64} :
    x.add y = int s ↔
      ∃ i j : Int64, x = int i ∧ y = int j ∧ s.toInt = i.toInt + j.toInt := by
  constructor
  · intro h
    cases x with
    | float x =>
      obtain ⟨z, hz⟩ := add_float x y
      rw [hz] at h
      cases h
    | int i =>
      cases y with
      | float y =>
        obtain ⟨z, hz⟩ := add_of_float (int i) y
        rw [hz] at h
        cases h
      | int j =>
        by_cases hsum : InRange (i.toInt + j.toInt)
        · obtain ⟨t, ht, hexact⟩ := add_int_of_inRange hsum
          rw [ht] at h
          cases h
          exact ⟨i, j, rfl, rfl, hexact⟩
        · obtain ⟨z, hz⟩ := add_int_of_not_inRange hsum
          rw [hz] at h
          cases h
  · rintro ⟨i, j, rfl, rfl, hs⟩
    obtain ⟨t, ht, hexact⟩ := add_int_of_inRange (hs ▸ inRange_toInt s)
    rw [ht, int.injEq, ← Int64.toInt_inj, hexact, hs]

theorem total_concat (numbers : List Number) (number : Number) :
    total (numbers ++ [number]) = (total numbers).add number := by
  rw [total, List.foldl_append]
  rfl

/-- The sum is no integer in all other cases. -/
theorem total_eq_float_iff {numbers : List Number} :
    (∃ x, total numbers = float x) ↔
      ¬∃ values : List Int64, numbers = values.map int ∧ StaysInRange 0 values := by
  constructor
  · rintro ⟨x, hx⟩ ⟨values, rfl, hstays⟩
    have hrange : InRange (exactTotal values) := by
      have hwhole := hstays values List.prefix_rfl
      rwa [Int.zero_add] at hwhole
    have hexact := Int64.toInt_ofInt_of_le hrange.1 hrange.2
    rw [total_map_int_iff.2 ⟨hstays, hexact⟩] at hx
    cases hx
  · intro h
    cases htotal : total numbers with
    | float x => exact ⟨x, rfl⟩
    | int t =>
      obtain ⟨values, hvalues, hstays, -⟩ := total_eq_int_iff.1 htotal
      exact absurd ⟨values, hvalues, hstays⟩ h

/-- **When the sum is an integer.** It is one exactly if all elements are integers and no partial
sum is out of range, and then it is the exact total; in every other case it is a floating point
number. No addition wraps around: with one more element, the sum is an integer only if the sum so
far and the element are, and then it is exactly what these two add up to. And this is the sum in the
summary of the list, if there is one. -/
theorem sum_eq_int_iff (numbers : List Number) :
    (∀ s : Int64, total numbers = int s ↔
        ∃ values : List Int64, numbers = values.map int ∧ StaysInRange 0 values ∧
          s.toInt = exactTotal values) ∧
      ((∃ x, total numbers = float x) ↔
        ¬∃ values : List Int64, numbers = values.map int ∧ StaysInRange 0 values) ∧
      (∀ (number : Number) (s : Int64), total (numbers ++ [number]) = int s ↔
        ∃ i j : Int64, total numbers = int i ∧ number = int j ∧
          s.toInt = i.toInt + j.toInt) ∧
      ∀ summary, ofList numbers = some summary → summary.sum = total numbers := by
  refine ⟨fun s => total_eq_int_iff, total_eq_float_iff, fun number s => ?_,
    fun summary => sum_of_ofList⟩
  rw [total_concat]
  exact add_eq_int_iff

end OneShot.Summary
