import Mathlib.Data.List.Induction
import OneShot.Proofs.Number.List
import OneShot.Proofs.Summary.Tame

/-!
# Sorted lists and extremes

A list is sorted by inserting its elements one after the other, as every tame list is, and an
extreme is found by going through the list once. The two are different algorithms on one comparison,
and where the comparison is an order they agree. It is none at the zeros: `0.0`, the integer zero
and `-0.0` each do not exceed the next one, and the last of them is below the first.

What one more element does to the sorted list is said once, in `insertion_concat`: it goes in front
of the elements that it is below, as far as the first one that it is not below. Three facts follow
by induction on the list from its end.

* The values in the sorted list never fall, whatever the zeros do.
* An integer zero is not passed by a zero, so it keeps its place behind every `0.0`.
* So `0.0` stays in front of `-0.0` exactly if an integer zero stands between them in the list.

## Main definitions

* `Summary.Agrees` — the sorted list and the extremes fit together

## Main results

* `Summary.insertion_units`, `Summary.insertion_ascending_iff` — values and elements in order
* `Summary.head?_insertion`, `Summary.cmp_getLast?_insertion` — the extremes and the ends of the
  sorted list
* `Summary.agrees_iff_of_parse` — the tame lists of which the summary fits together
-/

namespace OneShot.Summary

open Binary64 Number
open Function
open Sorting (insertion)
open scoped List

/-! ### Sublists of a list with one element more -/

section Sublist

variable {α : Type} {a b x : α} {s t l : List α}

theorem pair_sublist_insert :
    [a, b] <+ s ++ x :: t ↔ [a, b] <+ s ++ t ∨ (a ∈ s ∧ b = x) ∨ (a = x ∧ b ∈ t) := by
  constructor
  · intro h
    obtain ⟨l₁, l₂, heq, h₁, h₂⟩ := List.sublist_append_iff.1 h
    rcases List.sublist_cons_iff.1 h₂ with h₂ | ⟨r, rfl, hr⟩
    · left
      rw [heq]
      exact h₁.append h₂
    · right
      cases l₁ with
      | nil =>
        cases heq
        exact .inr ⟨rfl, List.singleton_sublist.1 hr⟩
      | cons c l₁ =>
        obtain ⟨rfl, heq⟩ := List.cons.inj heq
        cases l₁ with
        | nil =>
          cases heq
          exact .inl ⟨List.singleton_sublist.1 h₁, rfl⟩
        | cons d l₁ => simp at heq
  · rintro (h | ⟨ha, rfl⟩ | ⟨rfl, hb⟩)
    · exact h.trans ((List.sublist_cons_self x t).append_left s)
    · exact (List.singleton_sublist.2 ha).append ((List.nil_sublist t).cons_cons b)
    · exact ((List.singleton_sublist.2 hb).cons_cons a).trans (List.sublist_append_right s _)

/-- Of a pair in two lists put together, the first element is in the first or the second in the
second. -/
theorem mem_or_mem_of_pair_sublist (h : [a, b] <+ s ++ t) : a ∈ s ∨ b ∈ t := by
  obtain ⟨l₁, l₂, heq, h₁, h₂⟩ := List.sublist_append_iff.1 h
  cases l₁ with
  | nil =>
    cases heq
    exact .inr (h₂.subset (List.mem_cons_of_mem a (List.mem_singleton_self b)))
  | cons c l₁ =>
    obtain ⟨rfl, -⟩ := List.cons.inj heq
    exact .inl (h₁.subset List.mem_cons_self)

theorem concat_sublist_concat_iff : l ++ [a] <+ s ++ [x] ↔ l ++ [a] <+ s ∨ l <+ s ∧ a = x := by
  rw [← List.reverse_sublist, List.reverse_concat, List.reverse_concat, List.sublist_cons_iff,
    ← List.reverse_concat, List.reverse_sublist]
  simp [List.cons.injEq, and_comm, eq_comm]

end Sublist

/-! ### One element more -/

/-- **One step of sorting.** The last element of a list goes in front of those that it is below. -/
theorem insertion_concat (numbers : List Number) (x : Number) :
    ∃ s t, insertion less numbers = s ++ t ∧ insertion less (numbers ++ [x]) = s ++ x :: t ∧
      (∀ y ∈ s.getLast?, x.cmp y ≠ .lt) ∧ ∀ y ∈ t, x.cmp y = .lt := by
  obtain ⟨s, t, hsort, hconcat, hstop, hpassed⟩ := Sorting.insertAll_concat less [] numbers x
  exact ⟨s, t, hsort, hconcat, fun y hy => less_eq_false_iff.1 (hstop y hy),
    fun y hy => less_eq_true_iff.1 (hpassed y hy)⟩

/-- One step of the search for an extreme. -/
theorem extreme?_concat (wanted : Ordering) (numbers : List Number) (x : Number) :
    extreme? wanted (numbers ++ [x]) =
      some ((extreme? wanted numbers).elim x fun best => better wanted best x) := by
  cases numbers with
  | nil => rfl
  | cons y rest => simp [extreme?, List.foldl_append]

theorem mem_of_extreme? {wanted : Ordering} {numbers : List Number} {best : Number}
    (h : extreme? wanted numbers = some best) : best ∈ numbers := by
  induction numbers using List.reverseRecOn generalizing best with
  | nil => cases h
  | append_singleton numbers x ih =>
    rw [extreme?_concat, Option.some.injEq] at h
    subst h
    cases hold : extreme? wanted numbers with
    | none => exact List.mem_append_right _ (List.mem_singleton_self x)
    | some y =>
      rw [Option.elim_some, better]
      split_ifs
      · exact List.mem_append_right _ (List.mem_singleton_self x)
      · exact List.mem_append_left _ (ih hold)

theorem extreme?_eq_none_iff {wanted : Ordering} {numbers : List Number} :
    extreme? wanted numbers = none ↔ numbers = [] := by
  cases numbers <;> simp [extreme?]

/-! ### Values -/

section Sorted

variable {numbers : List Number}

theorem mem_insertion {x : Number} : x ∈ insertion less numbers ↔ x ∈ numbers :=
  (Sorting.insertion_perm less numbers).mem_iff

/-- An element that stops behind some others has no smaller value than they have. -/
theorem units_le_of_stop {s : List Number} {x : Number} (hx : x.NotBelow)
    (hs : ∀ y ∈ s, y.NotBelow) (h : s.Pairwise fun x y => x.units ≤ y.units)
    (hstop : ∀ y ∈ s.getLast?, x.cmp y ≠ .lt) : ∀ y ∈ s, y.units ≤ x.units :=
  Sorting.key_le_of_stop h fun y hy =>
    units_le_of_cmp_ne_lt hx (hs y (List.mem_of_getLast? hy)) (hstop y hy)

/-- The comparison follows values. -/
theorem less_follows_units :
    Sorting.Follows (less on (Subtype.val : {x : Number // x.NotBelow} → Number))
      (Number.units ∘ Subtype.val) where
  key_le_of_less {x y} hless := units_le_of_cmp_lt x.2 y.2 (less_eq_true_iff.1 hless)
  key_le_of_not_less {x y} hnot := units_le_of_cmp_ne_lt x.2 y.2 (less_eq_false_iff.1 hnot)

/-- **The values in the sorted list do not fall.** -/
theorem insertion_units (h : ∀ x ∈ numbers, x.NotBelow) :
    (insertion less numbers).Pairwise fun x y => x.units ≤ y.units := by
  obtain ⟨sorted, hsorted, harranged⟩ := Sorting.arranged_insertion less_follows_units h
  rw [hsorted]
  exact harranged.rising_map

/-! ### Zeros -/

theorem cmp_int_zero (negative : Bool) : (int 0).cmp (float (zero negative)) = .eq := by
  cases negative <;> decide +kernel

theorem cmp_zero_int (negative : Bool) : (float (zero negative)).cmp (int 0) = .eq := by
  cases negative <;> decide +kernel

theorem cmp_zeros : (float (zero true)).cmp (float (zero false)) = .lt := by decide +kernel

/-- The integer zero neither passes the zero without a sign nor is passed by it. -/
theorem zero_int_sublist_insertion_iff :
    [float (zero false), int 0] <+ insertion less numbers ↔
      [float (zero false), int 0] <+ numbers := by
  induction numbers using List.reverseRecOn with
  | nil => rfl
  | append_singleton numbers x ih =>
    obtain ⟨s, t, hsort, hconcat, -, hpassed⟩ := insertion_concat numbers x
    rw [hconcat, pair_sublist_insert, ← hsort, ih, pair_sublist_insert, List.append_nil]
    refine or_congr_right (or_congr ?_ ?_)
    · refine and_congr_left fun hx => ?_
      rw [← @mem_insertion numbers, hsort, List.mem_append, or_iff_left]
      intro hmem
      have hlt := hpassed _ hmem
      rw [← hx, cmp_int_zero] at hlt
      cases hlt
    · refine and_congr_right fun hx => iff_of_false (fun hmem => ?_) List.not_mem_nil
      have hlt := hpassed _ hmem
      rw [← hx, cmp_zero_int] at hlt
      cases hlt

/-- The zero with the sign, when it stops behind the other one, is stopped by another zero. -/
theorem zero_sublist_of_stop {s : List Number} (hs : ∀ y ∈ s, y.NotBelow)
    (h : s.Pairwise fun x y => x.units ≤ y.units)
    (hstop : ∀ y ∈ s.getLast?, (float (zero true)).cmp y ≠ .lt) (hmem : float (zero false) ∈ s) :
    [float (zero false), int 0] <+ s ∨ [float (zero false), float (zero true)] <+ s := by
  obtain ⟨y, hy⟩ := Option.isSome_iff_exists.1 (List.getLast?_isSome.2 (List.ne_nil_of_mem hmem))
  have hlow : 0 ≤ y.units := Sorting.key_le_getLast? h hy _ hmem
  have hhigh : y.units ≤ 0 :=
    units_le_of_cmp_ne_lt (@IsFinite.notBelow (float (zero true)) (zero_isFinite true))
      (hs y (List.mem_of_getLast? hy)) (hstop y hy)
  obtain ⟨s, rfl⟩ := List.getLast?_eq_some_iff.1 hy
  rw [List.mem_append, List.mem_singleton] at hmem
  rcases eq_zero_of_units_eq_zero (le_antisymm hhigh hlow) with rfl | rfl | rfl
  · left
    exact (List.singleton_sublist.2 (hmem.resolve_right nofun)).append (.refl _)
  · exact absurd cmp_zeros (hstop _ hy)
  · right
    exact (List.singleton_sublist.2 (hmem.resolve_right (by decide))).append (.refl _)

/-- The zero with the sign stays behind the other one if an integer zero stops it. -/
theorem zeros_sublist_insertion_iff (h : ∀ x ∈ numbers, x.NotBelow) :
    [float (zero false), float (zero true)] <+ insertion less numbers ↔ seam <+ numbers := by
  induction numbers using List.reverseRecOn with
  | nil => exact iff_of_false (by decide) (by decide)
  | append_singleton numbers x ih =>
    rw [List.forall_mem_append, List.forall_mem_singleton] at h
    obtain ⟨s, t, hsort, hconcat, hstop, hpassed⟩ := insertion_concat numbers x
    have hmem : ∀ y ∈ s, y.NotBelow := fun y hy =>
      h.1 y (mem_insertion.1 (hsort ▸ List.mem_append_left t hy))
    have hunits := insertion_units h.1
    rw [hsort] at hunits
    have hs := hunits.sublist (List.sublist_append_left s t)
    rw [hconcat, pair_sublist_insert, ← hsort,
      show seam = [float (zero false), int 0] ++ [float (zero true)] from rfl,
      concat_sublist_concat_iff, ← zero_int_sublist_insertion_iff]
    constructor
    · rintro (hzeros | ⟨hzero, rfl⟩ | ⟨rfl, hzero⟩)
      · exact .inl ((ih h.1).1 hzeros)
      · rw [hsort]
        rcases zero_sublist_of_stop hmem hs hstop hzero with hsub | hsub
        · exact .inr ⟨hsub.trans (List.sublist_append_left s t), rfl⟩
        · left
          refine (ih h.1).1 ?_
          rw [hsort]
          exact hsub.trans (List.sublist_append_left s t)
      · have hlt := hpassed _ hzero
        rw [cmp_eq_gt_iff.2 cmp_zeros] at hlt
        cases hlt
    · rintro (hseam | ⟨hsub, rfl⟩)
      · exact .inl ((ih h.1).2 hseam)
      · rw [hsort] at hsub
        refine .inr (.inl ⟨(mem_or_mem_of_pair_sublist hsub).resolve_right fun hzero => ?_, rfl⟩)
        have hlt := hpassed _ hzero
        rw [cmp_zero_int] at hlt
        cases hlt

/-- The sorted list ascends unless the two floating point zeros stand the wrong way round. -/
theorem insertion_ascending_iff (h : ∀ x ∈ numbers, x.NotBelow) :
    (insertion less numbers).Pairwise (fun x y => x.cmp y ≠ .gt) ↔
      ¬[float (zero false), float (zero true)] <+ insertion less numbers := by
  have hunits := insertion_units h
  rw [List.pairwise_iff_forall_sublist] at hunits ⊢
  constructor
  · intro hascending hzeros
    exact hascending hzeros (cmp_eq_gt_iff.2 cmp_zeros)
  · intro hzeros x y hsub hgt
    have hx : x.NotBelow := h x (mem_insertion.1 (hsub.subset List.mem_cons_self))
    have hy : y.NotBelow := h y (mem_insertion.1 (hsub.subset (by simp)))
    obtain ⟨rfl, rfl⟩ := eq_zeros_of_cmp_gt hx hy hgt (hunits hsub)
    exact hzeros hsub

/-! ### Extremes -/

/-- The elements that are sorted already keep their order. -/
theorem sublist_insertion_concat (numbers : List Number) (x : Number) :
    insertion less numbers <+ insertion less (numbers ++ [x]) := by
  obtain ⟨s, t, hsort, hconcat, -⟩ := insertion_concat numbers x
  rw [hsort, hconcat]
  exact (List.sublist_cons_self x t).append_left s

/-- **The least element stands first in the sorted list**, form and bits included. -/
theorem head?_insertion (h : ∀ x ∈ numbers, x.NotBelow)
    (hzeros : ¬[float (zero false), float (zero true)] <+ insertion less numbers) :
    (insertion less numbers).head? = extreme? .lt numbers := by
  induction numbers using List.reverseRecOn with
  | nil => rfl
  | append_singleton numbers x ih =>
    rw [List.forall_mem_append, List.forall_mem_singleton] at h
    have hfirst := ih h.1 fun hsub => hzeros (hsub.trans (sublist_insertion_concat numbers x))
    have hunits := insertion_units h.1
    obtain ⟨s, t, hsort, hconcat, hstop, hpassed⟩ := insertion_concat numbers x
    have hmem : ∀ y ∈ s ++ t, y.NotBelow := fun y hy => h.1 y (mem_insertion.1 (hsort ▸ hy))
    rw [hsort] at hfirst hunits
    rw [hconcat] at hzeros ⊢
    rw [extreme?_concat, ← hfirst]
    cases s with
    | nil =>
      cases t with
      | nil => rfl
      | cons y t =>
        have hnew : better .lt y x = x := if_pos (hpassed y List.mem_cons_self)
        exact congrArg some hnew.symm
    | cons y s =>
      have hold : better .lt y x = y := by
        refine if_neg fun hlt => hzeros ?_
        have hle := units_le_of_stop h.2 (fun z hz => hmem z (List.mem_append_left t hz))
          (hunits.sublist (List.sublist_append_left _ t)) hstop y List.mem_cons_self
        obtain ⟨rfl, rfl⟩ := eq_zeros_of_cmp_lt h.2 (hmem y List.mem_cons_self) hlt hle
        exact pair_sublist_insert.2 (.inr (.inl ⟨List.mem_cons_self, rfl⟩))
      exact congrArg some hold.symm

/-- An element that comes last equals the greatest one, itself or an earlier one. -/
theorem cmp_better_of_stop {s : List Number} {x best : Number} (hx : x.NotBelow)
    (hs : ∀ y ∈ s, y.NotBelow) (h : s.Pairwise fun x y => x.units ≤ y.units)
    (hstop : ∀ y ∈ s.getLast?, x.cmp y ≠ .lt) (hbest : best ∈ s)
    (hzeros : ¬[float (zero false), float (zero true)] <+ s ++ [x]) :
    (better .gt best x).cmp x = .eq := by
  have hle := units_le_of_stop hx hs h hstop best hbest
  rw [better]
  split_ifs with hgt
  · exact cmp_self x
  · rw [cmp_swap x best]
    cases hcmp : x.cmp best with
    | lt =>
      obtain ⟨rfl, rfl⟩ := eq_zeros_of_cmp_lt hx (hs best hbest) hcmp hle
      exact absurd (pair_sublist_insert.2 (.inr (.inl ⟨hbest, rfl⟩))) hzeros
    | eq => rfl
    | gt => exact absurd hcmp hgt

/-- An element that is below an equal of the greatest one is not the greatest. -/
theorem better_of_passed {x best last : Number} (hx : x.NotBelow) (hbest : best.NotBelow)
    (hlast : last.NotBelow) (heq : best.cmp last = .eq) (hlt : x.cmp last = .lt) :
    better .gt best x = best := by
  refine if_neg fun hgt => ?_
  have hunits := units_eq_of_cmp_eq hbest hlast heq
  have hle := units_le_of_cmp_lt hx hlast hlt
  obtain ⟨rfl, rfl⟩ := eq_zeros_of_cmp_gt hx hbest hgt (hle.trans hunits.ge)
  -- It would have to be either zero at once.
  cases (eq_zeros_of_cmp_lt hx hlast hlt hunits.ge).1

/-- **The greatest element equals the last one of the sorted list.** -/
theorem cmp_getLast?_insertion (h : ∀ x ∈ numbers, x.NotBelow)
    (hzeros : ¬[float (zero false), float (zero true)] <+ insertion less numbers)
    {max last : Number} (hmax : extreme? .gt numbers = some max)
    (hlast : (insertion less numbers).getLast? = some last) : max.cmp last = .eq := by
  induction numbers using List.reverseRecOn generalizing max last with
  | nil => cases hmax
  | append_singleton numbers x ih =>
    rw [List.forall_mem_append, List.forall_mem_singleton] at h
    rw [extreme?_concat, Option.some.injEq] at hmax
    cases hbest : extreme? .gt numbers with
    | none =>
      obtain rfl := extreme?_eq_none_iff.1 hbest
      cases hmax
      cases hlast
      exact cmp_self _
    | some best =>
      have hequal {last : Number} := @ih h.1
        (fun hsub => hzeros (hsub.trans (sublist_insertion_concat numbers x))) best last hbest
      have hunits := insertion_units h.1
      have hmem : best ∈ insertion less numbers := mem_insertion.2 (mem_of_extreme? hbest)
      have hnot : ∀ y ∈ insertion less numbers, y.NotBelow := fun y hy => h.1 y (mem_insertion.1 hy)
      obtain ⟨s, t, hsort, hconcat, hstop, hpassed⟩ := insertion_concat numbers x
      rw [hsort] at hequal hunits hmem hnot
      rw [hconcat] at hlast hzeros
      rw [hbest, Option.elim_some] at hmax
      subst hmax
      cases t with
      | nil =>
        rw [List.append_nil] at hunits hmem hnot
        obtain rfl := Option.some.inj (List.getLast?_concat.symm.trans hlast)
        exact cmp_better_of_stop h.2 hnot hunits hstop hmem hzeros
      | cons y t =>
        rw [List.getLast?_append_of_ne_nil _ (List.cons_ne_nil x _), List.getLast?_cons_cons]
          at hlast
        have hold := hequal
          ((List.getLast?_append_of_ne_nil s (List.cons_ne_nil y t)).trans hlast)
        have hlt := hpassed last (List.mem_of_getLast? hlast)
        have hlastNot := hnot last (List.mem_append_right s (List.mem_of_getLast? hlast))
        rw [better_of_passed h.2 (hnot best hmem) hlastNot hold hlt]
        exact hold

end Sorted

/-! ### Summaries -/

/-- The sorted list and the extremes of a summary fit together. -/
structure Agrees (summary : Summary) : Prop where
  /-- No element is above a later one. -/
  ascending : summary.sorted.Pairwise fun x y => x.cmp y ≠ .gt
  /-- The minimum is the first element, with its form and its bits. -/
  first : ∃ min, summary.min = some min ∧ summary.sorted.head? = some min
  /-- The maximum equals the last element. -/
  last : ∃ max last, summary.max = some max ∧ summary.sorted.getLast? = some last ∧
    max.cmp last = .eq

/-- A list that is sorted by insertion fits together with its extremes unless it has the seam. -/
theorem agrees_ofSorted_insertion_iff {numbers : List Number} (h : ∀ x ∈ numbers, x.NotBelow)
    (hne : numbers ≠ []) :
    (ofSorted numbers (insertion less numbers)).Agrees ↔ ¬seam <+ numbers := by
  rw [← zeros_sublist_insertion_iff h]
  constructor
  · intro hagrees
    exact (insertion_ascending_iff h).1 hagrees.ascending
  · intro hzeros
    obtain ⟨min, hmin⟩ := Option.ne_none_iff_exists'.1 (mt (@extreme?_eq_none_iff .lt _).1 hne)
    obtain ⟨max, hmax⟩ := Option.ne_none_iff_exists'.1 (mt (@extreme?_eq_none_iff .gt _).1 hne)
    have hsorted : insertion less numbers ≠ [] := fun hnil =>
      hne (hnil ▸ Sorting.insertion_perm less numbers).nil_eq.symm
    obtain ⟨last, hlast⟩ := Option.isSome_iff_exists.1 (List.getLast?_isSome.2 hsorted)
    exact {
      ascending := (insertion_ascending_iff h).2 hzeros
      first := ⟨min, hmin, (head?_insertion h hzeros).trans hmin⟩
      last := ⟨max, last, hmax, hlast, cmp_getLast?_insertion h hzeros hmax hlast⟩ }

/-- **The lists of which the summary fits together.** A list that was read and is not empty has a
summary, if it is tame. The sorted list ascends then, begins with the minimum and ends with an equal
of the maximum, exactly if the list does not have `0.0`, the integer zero and `-0.0` in this
order. -/
theorem agrees_iff_of_parse {text : String} {numbers : List Number}
    (h : NumberList.parse text = .ok numbers) (hne : numbers ≠ []) (htame : Tame numbers) :
    ∃ summary, ofList numbers = some summary ∧ (summary.Agrees ↔ ¬seam <+ numbers) := by
  have hnot (x : Number) (hx : x ∈ numbers) : x.NotBelow :=
    (NumberList.isFinite_of_parse h x hx).notBelow
  exact ⟨_, htame.ofList_eq hnot, agrees_ofSorted_insertion_iff hnot hne⟩

/-- The three zeros in an order that can be sorted. -/
theorem agrees_zeros :
    NumberList.parse "[0.0,-0.0,0]" =
        .ok [.float (zero false), .float (zero true), .int 0] ∧
      [Number.float (zero false), .float (zero true), .int 0] ≠ [] ∧
      Tame [.float (zero false), .float (zero true), .int 0] ∧
      ∃ summary, ofList [.float (zero false), .float (zero true), .int 0] = some summary ∧
        summary.Agrees := by
  have hread : NumberList.parse "[0.0,-0.0,0]" =
      .ok [.float (zero false), .float (zero true), .int 0] := by
    rw [show "[0.0,-0.0,0]" =
      NumberList.write [.float (zero false), .float (zero true), .int 0] by decide +kernel]
    refine NumberList.parse_write_of_isShort (by decide +kernel) fun x hmem => ?_
    rw [List.mem_cons, List.mem_pair] at hmem
    obtain ⟨⟨⟩⟩ | ⟨⟨⟩⟩ | ⟨⟨⟩⟩ := hmem <;> decide +kernel
  have hne : [Number.float (zero false), .float (zero true), .int 0] ≠ [] := List.cons_ne_nil _ _
  have htame : Tame [.float (zero false), .float (zero true), .int 0] := .inl (by decide)
  obtain ⟨summary, hsummary, hiff⟩ := agrees_iff_of_parse hread hne htame
  exact ⟨hread, hne, htame, summary, hsummary, hiff.2 (by decide +kernel)⟩

/-- The three zeros in the order that cannot be sorted. The list is left as it is, and its minimum
is the last element. -/
theorem not_agrees_seam :
    NumberList.parse "[0.0,0,-0.0]" = .ok seam ∧
      ∃ summary, ofList seam = some summary ∧ summary.sorted = seam ∧
        summary.min = some (.float (zero true)) ∧ ¬summary.Agrees := by
  have hread : NumberList.parse "[0.0,0,-0.0]" = .ok seam := by
    rw [show "[0.0,0,-0.0]" = NumberList.write seam by decide +kernel]
    refine NumberList.parse_write_of_isShort (by decide +kernel) fun x hmem => ?_
    rw [seam, List.mem_cons, List.mem_pair] at hmem
    obtain ⟨⟨⟩⟩ | ⟨⟨⟩⟩ | ⟨⟨⟩⟩ := hmem <;> decide +kernel
  have hnot : ∀ x ∈ seam, x.NotBelow := fun x hx =>
    (NumberList.isFinite_of_parse hread x hx).notBelow
  have hsort : insertion less seam = seam := by decide +kernel
  have hagrees := agrees_ofSorted_insertion_iff hnot (List.cons_ne_nil _ _)
  rw [hsort] at hagrees
  refine ⟨hread, ofSorted seam seam, by decide +kernel, rfl, by decide +kernel, fun h => ?_⟩
  exact hagrees.1 h (.refl seam)

/-- A longer list without the seam that is no tame one. It is sorted in another way, and does not
begin with the minimum. -/
example :
    (ofList ([.int 2, .int 1, .int 0, .float (zero true)] ++ List.replicate 32 (.int 0) ++
        .float (zero false) :: List.replicate 28 (.int 0))).map
      (fun summary => (summary.min, summary.sorted.head?)) =
    some (some (.int 0), some (.float (zero true))) := by
  decide +kernel

end OneShot.Summary
