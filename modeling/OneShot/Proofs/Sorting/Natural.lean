import Mathlib.Logic.Function.Basic
import OneShot.Proofs.Sorting.Quicksort
import OneShot.Sorting

/-!
# Sorting and maps

Sorting sees the elements of a list by comparing them, and in no other way. So a list that was
mapped is sorted as the list itself by the comparison of what its elements are mapped to. There is a
lemma for each step of the sort, and `sort_map` for the whole.

This is how a comparison that follows keys on some elements only is dealt with: the list is a mapped
list of a subtype, `sort_eq_map_attachWith`. It also follows that only elements of the list are
compared, `sort_congr`.

## Main results

* `sort_map` — sorting a mapped list
* `sort_congr` — comparisons that agree on the elements of a list sort it alike
-/

namespace OneShot.Sorting

open Function

variable {α γ ρ σ : Type} (less : γ → γ → Bool) (f : α → γ)

/-! ### Insertion -/

theorem insertFalling_map (x : α) (xs : List α) :
    insertFalling less (f x) (xs.map f) = (insertFalling (less on f) x xs).map f := by
  induction xs with
  | nil => rfl
  | cons y rest ih =>
    rw [List.map_cons, insertFalling, insertFalling, ih, ← List.map_cons, ← List.map_cons,
      ← List.map_cons, apply_ite (List.map f)]

theorem insertAll_map (sorted xs : List α) :
    insertAll less (sorted.map f) (xs.map f) = (insertAll (less on f) sorted xs).map f := by
  have hfold (falling : List α) :
      xs.foldl (fun falling x => insertFalling less (f x) falling) (falling.map f) =
        (xs.foldl (fun falling x => insertFalling (less on f) x falling) falling).map f := by
    induction xs generalizing falling with
    | nil => rfl
    | cons x xs ih =>
      rw [List.foldl_cons, insertFalling_map]
      exact ih _
  rw [insertAll, insertAll, ← List.map_reverse, List.foldl_map, hfold, List.map_reverse]

theorem insertion_map (xs : List α) :
    insertion less (xs.map f) = (insertion (less on f) xs).map f :=
  insertAll_map less f [] xs

/-! ### Merging -/

/-- A merge of mapped lists, as far as it has come. -/
def Merging.map (m : Merging α) : Merging γ := ⟨m.merged.map f, m.left.map f, m.right.map f⟩

theorem advance_map (passes : γ → γ → Bool) (k : Nat) (xs ys : List α) :
    advance passes k (xs.map f) (ys.map f) = (advance (passes on f) k xs ys).map f := by
  fun_induction advance (passes on f) k xs ys with
  | case1 k x xs y ys hpasses next ih =>
    rw [List.map_cons, List.map_cons, advance, if_pos hpasses, ← List.map_cons, ih]
    rfl
  | case2 k x xs y ys hpasses next ih =>
    rw [List.map_cons, List.map_cons, advance, if_neg hpasses, ← List.map_cons, ih]
    rfl
  | case3 k xs ys hcases =>
    cases k with
    | zero => rfl
    | succ k =>
      cases xs with
      | nil => rfl
      | cons x xs =>
        cases ys with
        | nil => rfl
        | cons y ys => exact absurd rfl (hcases k x xs y ys rfl rfl)

theorem mergeAll_map (passes : γ → γ → Bool) (xs ys : List α) :
    mergeAll passes (xs.map f) (ys.map f) = (mergeAll (passes on f) xs ys).map f := by
  simp only [mergeAll, List.length_map, advance_map, Merging.map, List.map_append]

theorem merge_map (xs ys : List α) :
    merge less (xs.map f) (ys.map f) = (merge (less on f) xs ys).map f := by
  simp only [merge, List.length_map, ← List.map_reverse, mergeAll_map, apply_ite (List.map f)]
  rfl

theorem untaken_map (xs front back : List α) :
    untaken (xs.map f) (front.map f) (back.map f) = (untaken xs front back).map (List.map f) := by
  simp only [untaken, List.length_map, ← List.map_take, apply_ite (Option.map (List.map f)),
    Option.map_some, Option.map_none]

theorem mergeEnds_map (xs ys : List α) :
    mergeEnds less (xs.map f) (ys.map f) = (mergeEnds (less on f) xs ys).map (List.map f) := by
  simp only [mergeEnds, List.length_map, ← List.map_reverse, advance_map, Merging.map, untaken_map,
    Option.bind_eq_bind, Option.bind_map, Option.map_bind, Function.comp_def, Option.pure_def,
    Option.map_some, List.map_append]
  rfl

/-! ### Short lists -/

theorem two_map (x y : α) : two less (f x) (f y) = Prod.map f f (two (less on f) x y) := by
  simp only [two, apply_ite (Prod.map f f), Prod.map_apply]

theorem joinPairs_map (a b c d : α) :
    joinPairs less (f a) (f b) (f c) (f d) =
      Prod.map f (Prod.map f (Prod.map f f)) (joinPairs (less on f) a b c d) := by
  simp only [joinPairs, onFun]
  cases less (f c) (f a) <;> cases less (f d) (f b) <;> rfl

theorem sortFour_map (xs : List α) :
    sortFour less (xs.map f) = (sortFour (less on f) xs).map f := by
  fun_cases sortFour (less on f) xs with
  | case1 w x y z a b hab c d hcd low x' y' high hjoin x'' y'' htwo =>
    simp only [List.map_cons, List.map_nil, sortFour, two_map, hab, hcd, joinPairs_map, hjoin, htwo,
      Prod.map_apply]
  | case2 xs hcases =>
    rw [sortFour, insertion_map]
    intro w x y z hxs
    simp only [List.map_eq_cons_iff, List.map_eq_nil_iff] at hxs
    obtain ⟨w, _, rfl, -, x, _, rfl, -, y, _, rfl, -, z, _, rfl, -, rfl⟩ := hxs
    exact hcases w x y z rfl

theorem sortEight_map (xs : List α) :
    sortEight less (xs.map f) = (sortEight (less on f) xs).map (List.map f) := by
  simp only [sortEight, ← List.map_take, ← List.map_drop, sortFour_map, mergeEnds_map]

theorem sortHalf_map (length : Nat) (xs : List α) :
    sortHalf less length (xs.map f) = (sortHalf (less on f) length xs).map (List.map f) := by
  simp only [sortHalf, ← List.map_take, ← List.map_drop, sortEight_map, sortFour_map, insertAll_map,
    Option.map_map, Function.comp_def, apply_ite (Option.map (List.map f)), Option.map_some]

theorem sortShort_map (xs : List α) :
    sortShort less (xs.map f) = (sortShort (less on f) xs).map (List.map f) := by
  simp only [sortShort, List.length_map, ← List.map_take, ← List.map_drop, sortHalf_map,
    mergeEnds_map, Option.bind_eq_bind, Option.bind_map, Option.map_bind, Function.comp_def,
    Option.pure_def, apply_ite (Option.map (List.map f)), Option.map_some]

/-! ### Runs -/

theorem streak_map (follows : γ → γ → Bool) (x : α) (xs : List α) :
    streak follows (f x) (xs.map f) =
      Prod.map (List.map f) (List.map f) (streak (follows on f) x xs) := by
  fun_induction streak (follows on f) x xs with
  | case1 => rfl
  | case2 x y rest hfollows run rest' heq ih =>
    rw [List.map_cons, streak, if_pos hfollows, ih, heq]
    rfl
  | case3 x y rest hfollows =>
    rw [List.map_cons, streak, if_neg hfollows]
    rfl

theorem naturalRun_map (xs : List α) :
    naturalRun less (xs.map f) =
      Prod.map (List.map f) (List.map f) (naturalRun (less on f) xs) := by
  fun_cases naturalRun (less on f) xs with
  | case1 x y rest hless run rest' heq =>
    rw [List.map_cons, List.map_cons, naturalRun, if_pos hless, ← List.map_cons, streak_map]
    change streak (flip less on f) x (y :: rest) = (run, rest') at heq
    rw [heq]
    simp only [Prod.map_apply, ← List.map_cons, List.map_reverse]
  | case2 x y rest hless run rest' heq =>
    rw [List.map_cons, List.map_cons, naturalRun, if_neg hless, ← List.map_cons, streak_map]
    change streak ((fun x y => !less y x) on f) x (y :: rest) = (run, rest') at heq
    rw [heq]
    rfl
  | case3 xs hshort =>
    match xs, hshort with
    | [], _ => rfl
    | [x], _ => rfl
    | x :: y :: rest, hshort => exact absurd rfl (hshort x y rest)

section Tree

variable (g : ρ → σ)

theorem cutRuns_map {next : List α → Option (ρ × List α)} {next' : List γ → Option (σ × List γ)}
    (h : ∀ xs, next' (xs.map f) = (next xs).map (Prod.map g (List.map f))) (n : Nat) (xs : List α) :
    cutRuns next' n (xs.map f) = (cutRuns next n xs).map (List.map g) := by
  induction n generalizing xs with
  | zero => cases xs <;> rfl
  | succ n ih =>
    cases xs with
    | nil => rfl
    | cons x xs =>
      have hcut := h (x :: xs)
      rw [List.map_cons] at hcut ⊢
      simp only [cutRuns, hcut, Option.bind_eq_bind, Option.bind_map, Option.map_bind,
        Function.comp_def, Prod.map_fst, Prod.map_snd, ih, Option.pure_def, Option.map_some,
        List.map_cons]

variable {join : ρ → ρ → Option ρ} {join' : σ → σ → Option σ} {size : ρ → Nat} {size' : σ → Nat}

theorem collapse_map (h : ∀ left right, join' (g left) (g right) = (join left right).map g)
    (depth : Nat) (waiting : List (ρ × Nat)) (run : ρ) :
    collapse join' depth (waiting.map (Prod.map g id)) (g run) =
      (collapse join depth waiting run).map (Prod.map (List.map (Prod.map g id)) g) := by
  induction waiting generalizing run with
  | nil => rfl
  | cons head waiting ih =>
    obtain ⟨left, d⟩ := head
    simp only [List.map_cons, Prod.map_apply, collapse, id]
    split_ifs
    · simp only [h, Option.bind_eq_bind, Option.bind_map, Option.map_bind, Function.comp_def, ih]
    · rfl

theorem joinRuns_map (h : ∀ left right, join' (g left) (g right) = (join left right).map g)
    (hsize : ∀ run, size' (g run) = size run) (scale : Nat) (waiting : List (ρ × Nat)) (start : Nat)
    (last : ρ) (runs : List ρ) :
    joinRuns join' size' scale (waiting.map (Prod.map g id)) start (g last) (runs.map g) =
      (joinRuns join size scale waiting start last runs).map g := by
  induction runs generalizing waiting start last with
  | nil =>
    simp only [List.map_nil, joinRuns, collapse_map g h, Option.map_map, Function.comp_def,
      Prod.map_snd]
  | cons next runs ih =>
    simp only [List.map_cons, joinRuns, hsize, collapse_map g h, Option.bind_eq_bind,
      Option.bind_map, Option.map_bind, Function.comp_def, Prod.map_fst, Prod.map_snd]
    refine congrArg _ (funext fun left => ?_)
    exact ih ((left.2, _) :: left.1) _ next

theorem sortByRuns_map {next : List α → Option (ρ × List α)} {next' : List γ → Option (σ × List γ)}
    {finish : ρ → Option (List α)} {finish' : σ → Option (List γ)}
    (hnext : ∀ xs, next' (xs.map f) = (next xs).map (Prod.map g (List.map f)))
    (hjoin : ∀ left right, join' (g left) (g right) = (join left right).map g)
    (hsize : ∀ run, size' (g run) = size run)
    (hfinish : ∀ run, finish' (g run) = (finish run).map (List.map f)) (xs : List α) :
    sortByRuns next' join' size' finish' (xs.map f) =
      (sortByRuns next join size finish xs).map (List.map f) := by
  simp only [sortByRuns, List.length_map, cutRuns_map f g hnext, Option.bind_eq_bind,
    Option.bind_map, Option.map_bind, Function.comp_def]
  refine congrArg _ (funext fun runs => ?_)
  cases runs with
  | nil => rfl
  | cons run runs =>
    have hrest := joinRuns_map g hjoin hsize (scale xs.length) [] 0 run runs
    rw [List.map_nil] at hrest
    simp only [List.map_cons, hrest, Option.bind_map, Option.map_bind, Function.comp_def, hfinish]

end Tree

theorem eagerRun_map (enough : Nat) (xs : List α) :
    eagerRun less enough (xs.map f) =
      (eagerRun (less on f) enough xs).map (Prod.map (List.map f) (List.map f)) := by
  simp only [eagerRun, naturalRun_map, Prod.map_fst, Prod.map_snd, List.length_map, ← List.map_take,
    ← List.map_drop, sortShort_map, Option.map_map, Function.comp_def, Option.map_some,
    apply_ite (Option.map _), Prod.map_apply]

theorem sortEagerly_map (xs : List α) :
    sortEagerly less (xs.map f) = (sortEagerly (less on f) xs).map (List.map f) := by
  rw [sortEagerly, sortEagerly, List.length_map]
  refine sortByRuns_map f (List.map f) (eagerRun_map less f _) (fun left right => ?_)
    (fun run => List.length_map f) (fun run => rfl) xs
  rw [merge_map, Option.map_some]

/-! ### Quicksort -/

theorem lessAt_map (xs : List α) : lessAt less (xs.map f) = lessAt (less on f) xs := by
  funext i j
  rw [lessAt, lessAt, List.getElem?_map, List.getElem?_map]
  cases xs[i]? <;> cases xs[j]? <;> rfl

theorem pivot_map (xs : List α) : pivot less (xs.map f) = pivot (less on f) xs := by
  rw [pivot, pivot, lessAt_map, List.length_map]

theorem part_map (goesLeft : γ → Bool) (pivotLeft : Bool) (before : List α) (pivot : α)
    (after : List α) :
    part goesLeft pivotLeft (before.map f) (f pivot) (after.map f) =
      Prod.map (List.map f) (List.map f)
        (part (fun x => goesLeft (f x)) pivotLeft before pivot after) := by
  have hmarked : marked goesLeft pivotLeft (before.map f) (f pivot) (after.map f) =
      (marked (fun x => goesLeft (f x)) pivotLeft before pivot after).map (Prod.map f id) := by
    simp only [marked, List.map_append, List.map_cons, List.map_map, Function.comp_def,
      Prod.map_apply, id]
  simp only [part, hmarked, List.filter_map, List.map_map, Function.comp_def, Prod.map_fst,
    Prod.map_snd, id, Prod.map_apply]

theorem quicksort_map (steps : Nat) (bound : Option α) (xs : List α) :
    quicksort less steps (bound.map f) (xs.map f) =
      (quicksort (less on f) steps bound xs).map (List.map f) := by
  induction steps generalizing bound xs with
  | zero =>
    rw [quicksort, quicksort, List.length_map, sortShort_map, sortEagerly_map,
      apply_ite (Option.map (List.map f))]
  | succ steps ih =>
    rw [quicksort, quicksort, List.length_map, sortShort_map, sortEagerly_map, List.splitAt_eq,
      List.splitAt_eq, pivot_map, ← List.map_take, ← List.map_drop]
    split_ifs
    · rfl
    cases xs.drop (pivot (less on f) xs) with
    | nil => rfl
    | cons pivot after =>
      have hnone (xs : List α) := ih none xs
      have hsome (xs : List α) := ih (some pivot) xs
      rw [Option.map_none] at hnone
      rw [Option.map_some] at hsome
      simp only [List.map_cons, part_map, Prod.map_fst, Prod.map_snd, List.map_eq_nil_iff,
        Option.any_map]
      split_ifs
      · simp only [hnone, Option.map_map, Function.comp_def, List.map_append]
      · simp only [hsome, ih, Option.bind_eq_bind, Option.bind_map, Option.map_bind,
          Function.comp_def, Option.pure_def, Option.map_some, List.map_append]

/-! ### The whole sort -/

namespace Run

/-- A run of mapped elements. -/
def map : Run α → Run γ
  | sorted xs => sorted (xs.map f)
  | unsorted xs => unsorted (xs.map f)

theorem length_map (run : Run α) : (run.map f).length = run.length := by
  cases run <;> exact List.length_map f

theorem settle_map (run : Run α) :
    (run.map f).settle less = (run.settle (less on f)).map (List.map f) := by
  cases run with
  | sorted xs => rfl
  | unsorted xs =>
    rw [map, settle, settle, List.length_map]
    exact quicksort_map less f _ none xs

theorem merge_map (left right : Run α) :
    (left.map f).merge less (right.map f) = (left.merge (less on f) right).map (map f) := by
  simp only [merge, settle_map, Option.bind_eq_bind, Option.bind_map, Option.map_bind,
    Function.comp_def, Sorting.merge_map, Option.pure_def, Option.map_some]
  rfl

theorem join_map (room : Nat) (left right : Run α) :
    (left.map f).join less room (right.map f) = (left.join (less on f) room right).map (map f) := by
  cases left with
  | sorted xs => exact merge_map less f (sorted xs) right
  | unsorted xs =>
    cases right with
    | sorted ys => exact merge_map less f (unsorted xs) (sorted ys)
    | unsorted ys =>
      have hmerge := merge_map less f (unsorted xs) (unsorted ys)
      simp only [map] at hmerge
      simp only [map, join, List.length_map, hmerge, apply_ite (Option.map (map f)),
        Option.map_some, List.map_append]

theorem next_map (enough : Nat) (xs : List α) :
    next less enough (xs.map f) =
      (next (less on f) enough xs).map (Prod.map (map f) (List.map f)) := by
  simp only [next, naturalRun_map, Prod.map_fst, Prod.map_snd, List.length_map, ← List.map_take,
    ← List.map_drop, apply_ite (Option.map _), Option.map_some, Prod.map_apply, map]

end Run

/-- **Sorting a mapped list.** -/
theorem sort_map (xs : List α) : sort less (xs.map f) = (sort (less on f) xs).map (List.map f) := by
  have hruns := sortByRuns_map f (Run.map f) (Run.next_map less f (enough xs.length))
    (Run.join_map less f (room xs.length)) (Run.length_map f) (Run.settle_map less f) xs
  rw [sort, sort, List.length_map, insertion_map, sortEagerly_map, hruns]
  split_ifs <;> rfl

/-! ### Elements of the list -/

section Subtype

variable (less : α → α → Bool) {p : α → Prop} {xs : List α}

/-- A list is sorted as a list of elements with a property that all of them have. -/
theorem sort_eq_map_attachWith (h : ∀ x ∈ xs, p x) :
    sort less xs = (sort (less on Subtype.val) (xs.attachWith p h)).map (List.map Subtype.val) := by
  rw [← sort_map, List.attachWith_map_subtype_val]

/-- **Only elements of the list are compared.** -/
theorem sort_congr {less less' : α → α → Bool}
    (h : ∀ x ∈ xs, ∀ y ∈ xs, less x y = less' x y) : sort less xs = sort less' xs := by
  have heq : (less on (Subtype.val : {x // x ∈ xs} → α)) = (less' on Subtype.val) := by
    funext x y
    exact h x x.2 y y.2
  rw [sort_eq_map_attachWith less fun x hx => hx, sort_eq_map_attachWith less' fun x hx => hx, heq]

end Subtype

end OneShot.Sorting
