import OneShot.Proofs.Number.Rational
import OneShot.Proofs.Summary.Order

/-!
# Lists sorted by exact values

What the sorted list and the extremes are in terms of exact values, for all lists without NaNs. The
comparison is no order at the zeros, so sorting is not what sorting by an order would be. But two
numbers of one value compare equal unless both are zero, `cmp_cases_value`. So the comparison
follows values, and all values but zero are still: whatever the zeros are, the values in a list that
has been sorted do not fall, and elements of the same value stay in the order of the list, unless
the value is zero. Likewise an extreme is the first element of its value, unless it is a zero.

## Main definitions

* `Summary.Ascends` — a list arranged by exact values
* `Summary.Leads` — an element of extreme value, the first of its value
* `Summary.Ordered` — the sorted list and the extremes of a list

## Main results

* `Summary.ascends_of_sort`, `Summary.ascends_insertion` — lists that have been sorted
* `Summary.leads_of_extreme?` — an extreme is the first element of its value
* `Summary.ofList_ordered` — the sorted list and the extremes of a summary
-/

namespace OneShot.Summary

open Function Number

variable {numbers sorted : List Number} {wanted : Ordering} {x y best : Number}

/-! ### Values in the sorted list -/

/-- A number that is below another of the same value is a zero. -/
theorem value_eq_zero_of_cmp_lt (hx : ¬x.IsNaN) (hy : ¬y.IsNaN) (h : x.cmp y = .lt)
    (hvalue : x.value = y.value) : x.value = 0 := by
  rcases cmp_cases_value hx hy with hcmp | ⟨hzero, -⟩
  · rw [hcmp, compare_lt_iff_lt] at h
    exact absurd hvalue h.ne
  · exact hzero

/-- The comparison follows exact values. -/
theorem less_follows_value :
    Sorting.Follows (less on (Subtype.val : {x : Number // ¬x.IsNaN} → Number))
      (value ∘ Subtype.val) where
  key_le_of_less {x y} hless := by
    rcases cmp_cases_value x.2 y.2 with hcmp | ⟨hx, hy⟩
    · have hlt := less_eq_true_iff.1 hless
      rw [hcmp, compare_lt_iff_lt] at hlt
      exact hlt.le
    · exact (hx.trans hy.symm).le
  key_le_of_not_less {x y} hnot := by
    rcases cmp_cases_value x.2 y.2 with hcmp | ⟨hx, hy⟩
    · have hge := less_eq_false_iff.1 hnot
      rw [hcmp, compare_ge_iff_ge] at hge
      exact hge
    · exact (hy.trans hx.symm).le

/-- Every value but zero is still. -/
theorem still_value {v : WithBot (WithTop ℚ)} (hv : v ≠ 0) :
    Sorting.Still (less on (Subtype.val : {x : Number // ¬x.IsNaN} → Number))
      (value ∘ Subtype.val) v := by
  intro x y hx hy
  refine less_eq_false_iff.2 fun hlt => hv ?_
  exact hx.symm.trans (value_eq_zero_of_cmp_lt x.2 y.2 hlt (hx.trans hy.symm))

/-- What an arrangement of a list by exact values is. -/
structure Ascends (numbers sorted : List Number) : Prop where
  /-- All elements are kept, with their forms and their bits. -/
  perm : sorted.Perm numbers
  /-- The values do not fall. -/
  rising : sorted.Pairwise fun x y => x.value ≤ y.value
  /-- Elements of the same value keep their order, unless they are zeros. -/
  stable : ∀ v ≠ 0, sorted.filter (·.value = v) = numbers.filter (·.value = v)

/-- **The sorted list ascends**, if there is one. -/
theorem ascends_of_sort (h : ∀ x ∈ numbers, ¬x.IsNaN) (hsort : sort numbers = some sorted) :
    Ascends numbers sorted := by
  have hperm := sort_perm hsort
  obtain ⟨_, rfl, harranged⟩ := Sorting.arranged_of_sort less_follows_value h hsort
  exact ⟨hperm, harranged.rising_map, fun v hv => harranged.filter_map (still_value hv)⟩

/-- The list that is sorted by insertion ascends. -/
theorem ascends_insertion (h : ∀ x ∈ numbers, ¬x.IsNaN) :
    Ascends numbers (Sorting.insertion less numbers) := by
  have hperm := Sorting.insertion_perm less numbers
  obtain ⟨_, hinsertion, harranged⟩ := Sorting.arranged_insertion less_follows_value h
  rw [hinsertion] at hperm ⊢
  exact ⟨hperm, harranged.rising_map, fun v hv => harranged.filter_map (still_value hv)⟩

/-! ### Extremes -/

/-- In a linear order, not to come before another in the wanted direction is transitive. -/
theorem compare_ne_trans {α : Type} [LinearOrder α] (hwanted : wanted ≠ .eq) {a b c : α}
    (hab : compare a b ≠ wanted) (hbc : compare b c ≠ wanted) : compare a c ≠ wanted := by
  cases wanted with
  | eq => exact absurd rfl hwanted
  | lt =>
    rw [compare_ge_iff_ge] at hab hbc ⊢
    exact hbc.trans hab
  | gt =>
    rw [compare_le_iff_le] at hab hbc ⊢
    exact hab.trans hbc

/-- The value of a number that beats another is not beaten by the value of that. -/
theorem compare_ne_of_cmp_eq (hwanted : wanted ≠ .eq) (hx : ¬x.IsNaN) (hy : ¬y.IsNaN)
    (h : x.cmp y = wanted) : compare y.value x.value ≠ wanted := by
  rcases cmp_cases_value hx hy with hcmp | ⟨hxv, hyv⟩
  · rw [hcmp] at h
    cases wanted with
    | eq => exact absurd rfl hwanted
    | lt => exact compare_ge_iff_ge.2 (compare_lt_iff_lt.1 h).le
    | gt => exact compare_le_iff_le.2 (compare_gt_iff_gt.1 h).le
  · rw [hxv, hyv, compare_eq_iff_eq.2 rfl]
    exact hwanted.symm

theorem compare_ne_of_cmp_ne (hwanted : wanted ≠ .eq) (hx : ¬x.IsNaN) (hy : ¬y.IsNaN)
    (h : x.cmp y ≠ wanted) : compare x.value y.value ≠ wanted := by
  rcases cmp_cases_value hx hy with hcmp | ⟨hxv, hyv⟩
  · rwa [← hcmp]
  · rw [hxv, hyv, compare_eq_iff_eq.2 rfl]
    exact hwanted.symm

/-- No value in the list beats that of the element in the wanted direction, and the element is the
first of its value, unless it is a zero. -/
structure Leads (wanted : Ordering) (numbers : List Number) (best : Number) : Prop where
  unbeaten : ∀ x ∈ numbers, compare x.value best.value ≠ wanted
  first : best.value ≠ 0 → numbers.find? (·.value = best.value) = some best

/-- A new element that beats the best one leads. -/
theorem Leads.concat_of_eq (hwanted : wanted ≠ .eq) (h : Leads wanted numbers best)
    (hbest : ¬best.IsNaN) (hx : ¬x.IsNaN) (hbeats : x.cmp best = wanted) :
    Leads wanted (numbers ++ [x]) x where
  unbeaten := by
    rw [List.forall_mem_append, List.forall_mem_singleton]
    refine ⟨fun y hy => ?_, by rw [compare_eq_iff_eq.2 rfl]; exact hwanted.symm⟩
    exact compare_ne_trans hwanted (h.unbeaten y hy)
      (compare_ne_of_cmp_eq hwanted hx hbest hbeats)
  first hzero := by
    have hnone : numbers.find? (·.value = x.value) = none := by
      refine List.find?_eq_none.2 fun y hy => ?_
      rw [decide_eq_true_iff]
      intro hvalue
      rcases cmp_cases_value hx hbest with hcmp | ⟨hxv, -⟩
      · exact h.unbeaten y hy (by rw [hvalue, ← hcmp, hbeats])
      · exact hzero hxv
    rw [List.find?_append, hnone, Option.none_or]
    exact List.find?_cons_of_pos (decide_eq_true rfl)

/-- Otherwise the best one still leads. -/
theorem Leads.concat_of_ne (hwanted : wanted ≠ .eq) (h : Leads wanted numbers best)
    (hbest : ¬best.IsNaN) (hx : ¬x.IsNaN) (hbeats : x.cmp best ≠ wanted) :
    Leads wanted (numbers ++ [x]) best where
  unbeaten := by
    rw [List.forall_mem_append, List.forall_mem_singleton]
    exact ⟨h.unbeaten, compare_ne_of_cmp_ne hwanted hx hbest hbeats⟩
  first hzero := by
    rw [List.find?_append, h.first hzero, Option.some_or]

/-- **An extreme is the first element of its value**, unless it is a zero. -/
theorem leads_of_extreme? (hwanted : wanted ≠ .eq) (h : ∀ x ∈ numbers, ¬x.IsNaN)
    (hbest : extreme? wanted numbers = some best) : Leads wanted numbers best := by
  induction numbers using List.reverseRecOn generalizing best with
  | nil => cases hbest
  | append_singleton numbers x ih =>
    rw [List.forall_mem_append, List.forall_mem_singleton] at h
    rw [extreme?_concat, Option.some.injEq] at hbest
    subst hbest
    cases hold : extreme? wanted numbers with
    | none =>
      obtain rfl := extreme?_eq_none_iff.1 hold
      rw [Option.elim_none, List.nil_append]
      refine ⟨List.forall_mem_singleton.2 ?_, fun _ =>
        List.find?_cons_of_pos (decide_eq_true rfl)⟩
      rw [compare_eq_iff_eq.2 rfl]
      exact hwanted.symm
    | some y =>
      have hy : ¬y.IsNaN := h.1 y (mem_of_extreme? hold)
      rw [Option.elim_some, better]
      split_ifs with hbeats
      · exact (ih h.1 hold).concat_of_eq hwanted hy h.2 hbeats
      · exact (ih h.1 hold).concat_of_ne hwanted hy h.2 hbeats

/-! ### Summaries -/

/-- The sorted list and the extremes of a list, by exact values. -/
structure Ordered (numbers : List Number) (summary : Summary) : Prop
    extends Ascends numbers summary.sorted where
  min_eq_none : summary.min = none ↔ numbers = []
  /-- The minimum is an element of least value, and the first one unless it is a zero. -/
  min : ∀ m ∈ summary.min, m ∈ numbers ∧ (∀ x ∈ numbers, m.value ≤ x.value) ∧
    (m.value ≠ 0 → numbers.find? (·.value = m.value) = some m)
  max_eq_none : summary.max = none ↔ numbers = []
  /-- The maximum is an element of greatest value, and the first one unless it is a zero. -/
  max : ∀ m ∈ summary.max, m ∈ numbers ∧ (∀ x ∈ numbers, x.value ≤ m.value) ∧
    (m.value ≠ 0 → numbers.find? (·.value = m.value) = some m)

/-- A list without NaNs, as every list is that was read. -/
def IsOrderable (numbers : List Number) : Prop :=
  (∀ x ∈ numbers, ¬x.IsNaN) ∨ ∃ text, NumberList.parse text = .ok numbers

theorem IsOrderable.not_isNaN (h : IsOrderable numbers) : ∀ x ∈ numbers, ¬x.IsNaN := by
  rcases h with h | ⟨text, hparse⟩
  · exact h
  · exact fun x hx => (NumberList.isFinite_of_parse hparse x hx).not_isNaN

theorem Ascends.ordered (h : Ascends numbers sorted) (hnan : ∀ x ∈ numbers, ¬x.IsNaN) :
    Ordered numbers (ofSorted numbers sorted) where
  toAscends := h
  min_eq_none := extreme?_eq_none_iff
  min m hm := by
    obtain ⟨hunbeaten, hfirst⟩ := leads_of_extreme? (by decide) hnan hm
    exact ⟨mem_of_extreme? hm, fun x hx => compare_ge_iff_ge.1 (hunbeaten x hx), hfirst⟩
  max_eq_none := extreme?_eq_none_iff
  max m hm := by
    obtain ⟨hunbeaten, hfirst⟩ := leads_of_extreme? (by decide) hnan hm
    exact ⟨mem_of_extreme? hm, fun x hx => compare_le_iff_le.1 (hunbeaten x hx), hfirst⟩

/-- **The sorted list and the extremes of a summary**, for every list without NaNs, and so for every
list that was read. They are as they should be if there is a summary, and so they are for the list
that is sorted by insertion; a tame list has a summary, and it is sorted by insertion. -/
theorem ofList_ordered (h : IsOrderable numbers) :
    (∀ summary, ofList numbers = some summary → Ordered numbers summary) ∧
      Ordered numbers (ofSorted numbers (Sorting.insertion less numbers)) ∧
      (Tame numbers →
        ofList numbers = some (ofSorted numbers (Sorting.insertion less numbers))) := by
  refine ⟨fun summary hsummary => ?_, (ascends_insertion h.not_isNaN).ordered h.not_isNaN,
    fun htame => ?_⟩
  · obtain ⟨sorted, hsort, rfl⟩ := ofList_eq_some_iff.1 hsummary
    exact (ascends_of_sort h.not_isNaN hsort).ordered h.not_isNaN
  · exact htame.ofList_eq fun x hx => notBelow_of_not_isNaN (h.not_isNaN x hx)

/-- Two elements of the value one, and the three zeros in the order that cannot be sorted. -/
theorem ofList_ordered_zeros_and_ones :
    IsOrderable [.float (.ofBits 0x3FF0000000000000), .int 1, .float (.zero false), .int 0,
        .float (.zero true)] ∧
      Tame [.float (.ofBits 0x3FF0000000000000), .int 1, .float (.zero false), .int 0,
        .float (.zero true)] ∧
      Ordered [.float (.ofBits 0x3FF0000000000000), .int 1, .float (.zero false), .int 0,
        .float (.zero true)]
        ⟨.float (.ofBits 0x4000000000000000), .float (.ofBits 0x3FD999999999999A),
          some (.float (.zero true)), some (.float (.ofBits 0x3FF0000000000000)),
          [.float (.zero false), .int 0, .float (.zero true), .float (.ofBits 0x3FF0000000000000),
            .int 1]⟩ := by
  have hnumbers : IsOrderable [.float (.ofBits 0x3FF0000000000000), .int 1, .float (.zero false),
      .int 0, .float (.zero true)] :=
    .inl (by decide +kernel)
  have hsummary : ofList [.float (.ofBits 0x3FF0000000000000), .int 1, .float (.zero false), .int 0,
      .float (.zero true)] =
        some ⟨.float (.ofBits 0x4000000000000000), .float (.ofBits 0x3FD999999999999A),
          some (.float (.zero true)), some (.float (.ofBits 0x3FF0000000000000)),
          [.float (.zero false), .int 0, .float (.zero true), .float (.ofBits 0x3FF0000000000000),
            .int 1]⟩ := by
    decide +kernel
  exact ⟨hnumbers, .inl (by decide), (ofList_ordered hnumbers).1 _ hsummary⟩

end OneShot.Summary
