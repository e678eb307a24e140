import OneShot.Proofs.Summary

/-!
# Summaries by a comparison that may give up

A summary is computed by comparing numbers. Here every comparison is a question of its own, which
may remain without an answer; then there is no summary either. So `Summary.ofList?` tells of the
questions that come up on the way to a summary whether they are answered, and not just what the
answers lead to.

For the extremes the questions are asked one after the other. Which questions sorting asks depends
on the answers so far, and on the length of the list. So here it is told to give up earlier than it
has to: if the question about any two elements of the list remains without an answer.

If all questions about two elements are answered, and answered as by `Number.cmp`, the summary is
that of the list, `Summary.ofList?_eq_some`. For no questions are asked about other numbers.

## Main definitions

* `Summary.ofList?` — the summary of a list, by a comparison that may give up
* `Summary.Answers` — a comparison that answers all questions about the elements of a list

## Main results

* `Summary.ofList?_eq_some` — the questions that come up are about elements of the list
-/

namespace OneShot.Summary

section Ask

variable (ask : Number → Number → Option Ordering)

/-- The better of two numbers, as `better` has it. -/
def better? (wanted : Ordering) (best new : Number) : Option Number :=
  (ask new best).map fun answer => if answer = wanted then new else best

/-- The first element that no later one beats, as `extreme?` has it. -/
def extremeBy? (wanted : Ordering) : List Number → Option (Option Number)
  | [] => some none
  | x :: rest => (rest.foldlM (better? ask wanted) x).map some

/-- The list in rising order, as `sort` has it, if all its elements can be compared. -/
def sort? (numbers : List Number) : Option (Option (List Number)) :=
  if ∀ x ∈ numbers, ∀ y ∈ numbers, (ask x y).isSome then
    some (Sorting.sort (fun x y => ask x y = some .lt) numbers)
  else none

/-- The summary of a list, as `ofList` has it. -/
def ofList? (numbers : List Number) : Option (Option Summary) := do
  let sorted ← sort? ask numbers
  let min ← extremeBy? ask .lt numbers
  let max ← extremeBy? ask .gt numbers
  return sorted.map fun sorted => ⟨total numbers, mean numbers, min, max, sorted⟩

/-- The comparison answers all questions about two elements of a list as `Number.cmp` does. -/
def Answers (numbers : List Number) : Prop :=
  ∀ x ∈ numbers, ∀ y ∈ numbers, ask x y = some (x.cmp y)

end Ask

/-- A fold all of whose steps succeed, from a state with a property that the steps keep. -/
theorem foldlM_eq_some_foldl {σ β : Type} {step? : σ → β → Option σ} {step : σ → β → σ}
    {bs : List β} (kept : σ → Prop)
    (hstep : ∀ state b, kept state → b ∈ bs →
      step? state b = some (step state b) ∧ kept (step state b))
    {start : σ} (hstart : kept start) : bs.foldlM step? start = some (bs.foldl step start) := by
  induction bs generalizing start with
  | nil => rfl
  | cons b bs ih =>
    obtain ⟨hnext, hkept⟩ := hstep start b hstart List.mem_cons_self
    rw [List.foldlM_cons, hnext, List.foldl_cons]
    exact ih (fun state c hstate hc => hstep state c hstate (List.mem_cons_of_mem b hc)) hkept

variable {ask : Number → Number → Option Ordering} {numbers : List Number} {x y : Number}

/-! ### Extremes -/

theorem better?_eq_some (h : Answers ask numbers) (hx : x ∈ numbers) (hy : y ∈ numbers)
    (wanted : Ordering) : better? ask wanted x y = some (better wanted x y) := by
  rw [better?, h y hy x hx]
  rfl

theorem better_mem (hx : x ∈ numbers) (hy : y ∈ numbers) (wanted : Ordering) :
    better wanted x y ∈ numbers := by
  rw [better]
  split_ifs
  · exact hy
  · exact hx

theorem extremeBy?_eq_some (h : Answers ask numbers) (wanted : Ordering) :
    extremeBy? ask wanted numbers = some (extreme? wanted numbers) := by
  cases numbers with
  | nil => rfl
  | cons x rest =>
    -- The best number so far is always an element of the list.
    have hfold : rest.foldlM (better? ask wanted) x = some (rest.foldl (better wanted) x) := by
      refine foldlM_eq_some_foldl (· ∈ x :: rest) (fun best new hbest hnew => ?_) List.mem_cons_self
      have hnew : new ∈ x :: rest := List.mem_cons_of_mem x hnew
      exact ⟨better?_eq_some h hbest hnew wanted, better_mem hbest hnew wanted⟩
    rw [extremeBy?, hfold]
    rfl

/-! ### Sorting -/

/-- The answers decide how the list is sorted, for sorting compares its elements only. -/
theorem sort?_eq_some (h : Answers ask numbers) : sort? ask numbers = some (sort numbers) := by
  have hsome : ∀ x ∈ numbers, ∀ y ∈ numbers, (ask x y).isSome := by
    intro x hx y hy
    rw [h x hx y hy, Option.isSome_some]
  have hless : ∀ x ∈ numbers, ∀ y ∈ numbers, decide (ask x y = some .lt) = less x y := by
    intro x hx y hy
    rw [less, decide_eq_decide, h x hx y hy, Option.some_inj]
  rw [sort?, if_pos hsome, Sorting.sort_congr hless, sort]

/-! ### Summaries -/

/-- **Only elements of the list are compared.** A comparison that answers all questions about them
leads to the summary of the list. -/
theorem ofList?_eq_some (h : Answers ask numbers) :
    ofList? ask numbers = some (ofList numbers) := by
  rw [ofList?, sort?_eq_some h, extremeBy?_eq_some h, extremeBy?_eq_some h]
  rfl

end OneShot.Summary
