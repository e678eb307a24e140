import OneShot.Proofs.Sorting.Natural
import OneShot.Proofs.Sorting.Quicksort

/-!
# Sorting sorts

What the sort returns is arranged, for every comparison that follows keys, and where all keys are
still it does return. Since there is only one arrangement then, it returns what insertion returns.

The comparison need not follow keys on all elements, but only on those with a property that all
elements of the list have. This is what the theorems are stated for.

## Main results

* `sort_sorts`, `perm_of_sort` — the sort
* `arranged_of_sort` — the sort, by a comparison that follows keys on some elements only
* `sort_eq_insertion` — where the sort returns what insertion does
-/

namespace OneShot.Sorting

open Function

variable {α β : Type} [LinearOrder β]

section Follows

variable {less : α → α → Bool} {key : α → β}

/-! ### Runs in order or not -/

/-- A run holds a part of a list: in order, or as it is. -/
def Run.Holds (less : α → α → Bool) (key : α → β) (part : List α) : Run α → Prop
  | sorted xs => Arranged less key part xs
  | unsorted xs => part = xs

theorem Run.settle_sorts (h : Follows less key) {part : List α} {run : Run α}
    (hrun : run.Holds less key part) : Sorts less key part (run.settle less) := by
  cases run with
  | sorted xs => exact .some hrun
  | unsorted xs =>
    rw [Holds] at hrun
    subst hrun
    exact quicksort_sorts h _ none _ nofun

theorem Run.merge_yields (h : Follows less key) {p q : List α} {left right : Run α}
    (hleft : left.Holds less key p) (hright : right.Holds less key q) :
    Yields (∀ k, Still less key k) (left.merge less right) (Run.Holds less key (p ++ q)) := by
  refine (settle_sorts h hleft).bind fun xs hxs => (settle_sorts h hright).bind fun ys hys =>
    .some ?_
  exact .of_rearranged (hxs.rearranged.append hys.rearranged)
    (merge_arranged h hxs.rising hys.rising)

theorem Run.join_joins (h : Follows less key) (room : ℕ) :
    Joins (∀ k, Still less key k) (Run.Holds less key) (Run.join less room) := by
  intro p q left right hleft hright
  have hmerge := merge_yields h hleft hright
  cases left with
  | sorted xs => exact hmerge
  | unsorted xs =>
    cases right with
    | sorted ys => exact hmerge
    | unsorted ys =>
      rw [join]
      split_ifs
      · exact .some (congrArg₂ (· ++ ·) hleft hright)
      · exact hmerge

theorem Run.next_cuts (h : Follows less key) {enough : ℕ} (henough : 0 < enough) :
    Cuts (∀ k, Still less key k) (Run.Holds less key) (Run.next less enough) := by
  intro xs hxs
  obtain ⟨part, happend, harranged, hpart⟩ := naturalRun_spec h xs
  rw [next]
  dsimp only
  split_ifs
  · exact .some ⟨part, hpart hxs, happend, harranged⟩
  · exact .some ⟨xs.take enough, take_ne_nil henough hxs, (List.take_append_drop enough xs).symm,
      rfl⟩

omit [LinearOrder β] in
theorem enough_pos {length : ℕ} (h : 0 < length) : 0 < enough length := by
  rw [enough]
  split_ifs with hlength
  · exact lt_min (by omega) (by decide)
  · have hlog : 12 ≤ length.log2 := (Nat.le_log2 h.ne').2 (by omega)
    have hpow : 2 ^ 1 ≤ 2 ^ ((1 + length.log2) / 2) := Nat.pow_le_pow_right (by decide) (by omega)
    exact Nat.div_pos (hpow.trans (Nat.le_add_right _ _)) (by decide)

/-! ### The sort -/

/-- **The sort** arranges a list, if it returns, and it returns if all keys are still. -/
theorem sort_sorts (h : Follows less key) (xs : List α) : Sorts less key xs (sort less xs) := by
  rw [sort]
  split_ifs with hshort hmiddle
  · exact .some (insertion_arranged h xs)
  · exact sortEagerly_sorts h xs
  · exact sortByRuns_sorts (Run.next_cuts h (enough_pos (by omega))) (Run.join_joins h _) _
      (fun _ _ hrun => Run.settle_sorts h hrun) xs

end Follows

/-- **The sort keeps all elements**, whatever the comparison is. -/
theorem perm_of_sort {xs out : List α} (less : α → α → Bool) (h : sort less xs = some out) :
    out.Perm xs := by
  -- Every comparison follows keys that are all the same.
  have hfollows : Follows less fun _ => () := ⟨fun _ => le_rfl, fun _ => le_rfl⟩
  exact ((sort_sorts hfollows xs).holds out h).rearranged.perm.symm

theorem insertion_perm (less : α → α → Bool) (xs : List α) : (insertion less xs).Perm xs := by
  have hfollows : Follows less fun _ => () := ⟨fun _ => le_rfl, fun _ => le_rfl⟩
  exact (insertion_arranged hfollows xs).rearranged.perm.symm

/-! ### Elements with a property -/

section Subtype

variable {p : α → Prop} {less : α → α → Bool} {key : Subtype p → β} {xs out : List α}

/-- **What the sort returns is arranged**, by a comparison that follows keys on elements with a
property that all elements of the list have. -/
theorem arranged_of_sort (h : Follows (less on Subtype.val) key) (hp : ∀ x ∈ xs, p x)
    (hout : sort less xs = some out) :
    ∃ sorted : List (Subtype p), out = sorted.map Subtype.val ∧
      Arranged (less on Subtype.val) key (xs.attachWith p hp) sorted := by
  rw [sort_eq_map_attachWith less hp, Option.map_eq_some_iff] at hout
  obtain ⟨sorted, hsorted, rfl⟩ := hout
  exact ⟨sorted, rfl, (sort_sorts h _).holds sorted hsorted⟩

theorem arranged_insertion (h : Follows (less on Subtype.val) key) (hp : ∀ x ∈ xs, p x) :
    ∃ sorted : List (Subtype p), insertion less xs = sorted.map Subtype.val ∧
      Arranged (less on Subtype.val) key (xs.attachWith p hp) sorted := by
  refine ⟨_, ?_, insertion_arranged h _⟩
  rw [← insertion_map, List.attachWith_map_subtype_val]

/-- **Where all keys are still the sort returns what insertion does.** -/
theorem sort_eq_insertion (h : Follows (less on Subtype.val) key)
    (hstill : ∀ k, Still (less on Subtype.val) key k) (hp : ∀ x ∈ xs, p x) :
    sort less xs = some (insertion less xs) := by
  have hsorts := sort_sorts h (xs.attachWith p hp)
  obtain ⟨sorted, hsorted⟩ := Option.isSome_iff_exists.1 (hsorts.returns hstill)
  obtain ⟨sorted', hinsertion, hsorted'⟩ := arranged_insertion h hp
  rw [sort_eq_map_attachWith less hp, hsorted, Option.map_some, hinsertion,
    (hsorts.holds sorted hsorted).unique hstill hsorted']

end Subtype

/-! ### Keys of all elements -/

section Keys

variable {p : α → Prop} {less : α → α → Bool} {key : α → β} {xs : List α}
  {sorted : List (Subtype p)} {hp : ∀ x ∈ xs, p x}

theorem Arranged.rising_map
    (h : Arranged (less on Subtype.val) (key ∘ Subtype.val) (xs.attachWith p hp) sorted) :
    Rising key (sorted.map Subtype.val) :=
  List.pairwise_map.2 h.rising

theorem Arranged.filter_map
    (h : Arranged (less on Subtype.val) (key ∘ Subtype.val) (xs.attachWith p hp) sorted) {k : β}
    (hk : Still (less on Subtype.val) (key ∘ (Subtype.val : Subtype p → α)) k) :
    (sorted.map Subtype.val).filter (key · = k) = xs.filter (key · = k) := by
  have hfilter := congrArg (List.map Subtype.val) (h.rearranged.stable k hk)
  rw [← List.attachWith_map_subtype_val hp, List.filter_map, List.filter_map]
  exact hfilter.symm

end Keys

/-- A comparison that tells which key is less follows the keys, and all of them are still. -/
theorem follows_of_less_iff {less : α → α → Bool} {key : α → β}
    (h : ∀ x y, less x y = true ↔ key x < key y) :
    Follows less key ∧ ∀ k, Still less key k := by
  have hnot (x y : α) : less x y = false ↔ key y ≤ key x := by
    rw [← Bool.not_eq_true, h, not_lt]
  exact ⟨⟨fun hless => ((h _ _).1 hless).le, fun hless => (hnot _ _).1 hless⟩,
    fun k x y hx hy => (hnot x y).2 (hy.trans hx.symm).le⟩

end OneShot.Sorting
