import Mathlib.Data.List.Induction
import OneShot.Proofs.Sorting.Arrangement
import OneShot.Sorting.Short

/-!
# Short lists are sorted

Insertion, merging and the sort for short lists arrange a list, by every comparison that follows
keys. Insertion and merging always return.

A merge that is under way has split both lists, `Splits`: no element that was taken from the left is
above one that remains on the right, and each that was taken from the right may pass all that remain
on the left. The merge from both ends ends with two such splits. If they do not overlap, they leave
at most one element in the middle, and the lists are merged. If they do overlap, then one of two
elements is above the other by the first split and below it by the second, so this does not happen
where all keys are still.

## Main definitions

* `Splits` — how far a merge has come

## Main results

* `insertAll_arranged`, `merge_arranged` — insertion and merging
* `mergeEnds_sorts` — the merge from both ends
* `sortShort_sorts` — the sort for short lists
-/

namespace OneShot.Sorting

variable {α β : Type} [LinearOrder β] {less : α → α → Bool} {key : α → β}
  {x y : α} {xs ys out sorted x₁ x₂ y₁ y₂ front back : List α} {m : Merging α}

/-! ### Insertion -/

/-- An element is inserted behind those that it is less than. -/
theorem insertFalling_eq (less : α → α → Bool) (x : α) (xs : List α) :
    ∃ s t, xs = s ++ t ∧ insertFalling less x xs = s ++ x :: t ∧
      (∀ y ∈ s, less x y = true) ∧ ∀ y ∈ t.head?, less x y = false := by
  induction xs with
  | nil => exact ⟨[], [], rfl, rfl, nofun, nofun⟩
  | cons y rest ih =>
    rw [insertFalling]
    split_ifs with hless
    · obtain ⟨s, t, heq, hinsert, hs, ht⟩ := ih
      refine ⟨y :: s, t, by rw [heq]; rfl, by rw [hinsert]; rfl, ?_, ht⟩
      exact List.forall_mem_cons.2 ⟨hless, hs⟩
    · refine ⟨[], y :: rest, rfl, rfl, nofun, ?_⟩
      rintro _ ⟨⟩
      exact Bool.eq_false_iff.2 hless

/-- **One step of insertion.** The last element goes in front of those that it is less than. -/
theorem insertAll_concat (less : α → α → Bool) (sorted xs : List α) (x : α) :
    ∃ s t, insertAll less sorted xs = s ++ t ∧ insertAll less sorted (xs ++ [x]) = s ++ x :: t ∧
      (∀ y ∈ s.getLast?, less x y = false) ∧ ∀ y ∈ t, less x y = true := by
  obtain ⟨t, s, heq, hinsert, ht, hs⟩ := insertFalling_eq less x
    (xs.foldl (fun falling x => insertFalling less x falling) sorted.reverse)
  refine ⟨s.reverse, t.reverse, ?_, ?_, ?_, ?_⟩
  · rw [insertAll, heq, List.reverse_append]
  · rw [insertAll, List.foldl_append, List.foldl_cons, List.foldl_nil, hinsert, List.reverse_append,
      List.reverse_cons, List.append_assoc]
    rfl
  · rw [List.getLast?_reverse]
    exact hs
  · intro y hy
    exact ht y (List.mem_reverse.1 hy)

/-- Where keys do not fall, the last element has the greatest key. -/
theorem key_le_getLast? (h : Rising key xs) (hy : y ∈ xs.getLast?) : ∀ x ∈ xs, key x ≤ key y := by
  obtain ⟨xs, rfl⟩ := List.getLast?_eq_some_iff.1 hy
  rw [rising_append_iff] at h
  rw [List.forall_mem_append, List.forall_mem_singleton]
  exact ⟨fun x hx => h.2.2 x hx y (List.mem_singleton_self y), le_rfl⟩

/-- An element that stops behind the last of some others has no smaller key than they have. -/
theorem key_le_of_stop (hxs : Rising key xs) (hstop : ∀ y ∈ xs.getLast?, key y ≤ key x) :
    ∀ y ∈ xs, key y ≤ key x := by
  intro y hy
  obtain ⟨z, hz⟩ := Option.isSome_iff_exists.1 (List.getLast?_isSome.2 (List.ne_nil_of_mem hy))
  exact (key_le_getLast? hxs hz y hy).trans (hstop z hz)

/-- **Insertion arranges a list.** -/
theorem insertAll_arranged (h : Follows less key) (hsorted : Rising key sorted) (xs : List α) :
    Arranged less key (sorted ++ xs) (insertAll less sorted xs) := by
  induction xs using List.reverseRecOn with
  | nil =>
    rw [insertAll, List.foldl_nil, List.reverse_reverse, List.append_nil]
    exact .of_rising hsorted
  | append_singleton xs x ih =>
    obtain ⟨s, t, hold, hnew, hstop, hpassed⟩ := insertAll_concat less sorted xs x
    rw [hold] at ih
    obtain ⟨hs, ht, hst⟩ := rising_append_iff.1 ih.rising
    have hsx := key_le_of_stop hs fun y hy => h.key_le_of_not_less (hstop y hy)
    have hxt (y : α) (hy : y ∈ t) : Passes less key x y := h.passes (hpassed y hy)
    rw [hnew, ← List.append_assoc]
    refine .of_rearranged (ih.rearranged.append (.refl [x])) ⟨?_, ?_⟩
    · have hmove := Rearranged.move t [] hxt
      rw [List.append_nil] at hmove
      rw [List.append_assoc]
      exact (Rearranged.refl s).append hmove
    · rw [rising_append_iff, rising_cons_iff]
      refine ⟨hs, ⟨fun y hy => (hxt y hy).1, ht⟩, fun y hy => ?_⟩
      exact List.forall_mem_cons.2 ⟨hsx y hy, hst y hy⟩

theorem insertion_arranged (h : Follows less key) (xs : List α) :
    Arranged less key xs (insertion less xs) :=
  insertAll_arranged h .nil xs

/-! ### Steps of a merge -/

/-- Two lists are cut, each in two, so that the front parts may be merged first. -/
structure Cut (less : α → α → Bool) (key : α → β) (x₁ x₂ y₁ y₂ : List α) : Prop where
  /-- The front part on the left is not above the back part on the right. -/
  key_le : ∀ x ∈ x₁, ∀ y ∈ y₂, key x ≤ key y
  /-- The front part on the right may pass the back part on the left. -/
  passes : ∀ y ∈ y₁, ∀ x ∈ x₂, Passes less key y x

/-- What remains of a cut if elements are taken off in front. -/
theorem Cut.of_append {a b : List α} (h : Cut less key (x₁ ++ a) x₂ (y₁ ++ b) y₂) :
    Cut less key a x₂ b y₂ where
  key_le x hx := h.key_le x (List.mem_append_right x₁ hx)
  passes y hy := h.passes y (List.mem_append_right y₁ hy)

/-- **Two lists that are cut are merged in two parts**, first the front parts and then the back
parts. -/
theorem Cut.arranged_append (h : Cut less key x₁ x₂ y₁ y₂) (hxs : Rising key (x₁ ++ x₂))
    (hys : Rising key (y₁ ++ y₂)) (hfront : Arranged less key (x₁ ++ y₁) front)
    (hback : Arranged less key (x₂ ++ y₂) back) :
    Arranged less key ((x₁ ++ x₂) ++ (y₁ ++ y₂)) (front ++ back) := by
  rw [rising_append_iff] at hxs hys
  refine .of_rearranged (.exchange_between x₁ y₂ h.passes) (hfront.append hback ?_)
  simp only [List.forall_mem_append]
  exact ⟨fun x hx => ⟨hxs.2.2 x hx, h.key_le x hx⟩,
    fun y hy => ⟨fun x hx => (h.passes y hy x hx).1, hys.2.2 y hy⟩⟩

/-- A merge that is under way has cut both lists and merged the front parts. -/
structure Splits (less : α → α → Bool) (key : α → β) (xs ys : List α) (m : Merging α)
    (x₁ y₁ : List α) : Prop where
  left : xs = x₁ ++ m.left
  right : ys = y₁ ++ m.right
  arranged : Arranged less key (x₁ ++ y₁) m.merged
  cut : Cut less key x₁ m.left y₁ m.right

/-- **After any number of steps a merge has split both lists.** -/
theorem advance_splits (h : Follows less key) (hxs : Rising key xs) (hys : Rising key ys) (k : ℕ) :
    ∃ x₁ y₁, Splits less key xs ys (advance less k xs ys) x₁ y₁ := by
  fun_induction advance less k xs ys with
  | case1 k x xs y ys hless next ih =>
    obtain ⟨x₁, y₁, hleft, hright, harranged, ⟨hle, hpasses⟩⟩ := ih hxs (rising_cons_iff.1 hys).2
    have hpass (z : α) (hz : z ∈ x :: xs) : Passes less key y z := by
      refine (h.passes hless).trans_le ?_
      rcases List.mem_cons.1 hz with rfl | hz
      · exact le_rfl
      · exact (rising_cons_iff.1 hxs).1 z hz
    have hx₁ (z : α) (hz : z ∈ x₁) : z ∈ x :: xs := hleft ▸ List.mem_append_left _ hz
    refine ⟨x₁, y :: y₁, hleft, congrArg (y :: ·) hright, ?_, hle, ?_⟩
    · refine .of_rearranged (.move x₁ y₁ fun z hz => hpass z (hx₁ z hz)) (harranged.cons ?_)
      rw [List.forall_mem_append]
      refine ⟨fun z hz => (hpass z (hx₁ z hz)).1, fun z hz => (rising_cons_iff.1 hys).1 z ?_⟩
      exact hright ▸ List.mem_append_left _ hz
    · rw [List.forall_mem_cons]
      exact ⟨fun z hz => hpass z (hleft ▸ List.mem_append_right _ hz), hpasses⟩
  | case2 k x xs y ys hless next ih =>
    obtain ⟨x₁, y₁, hleft, hright, harranged, ⟨hle, hpasses⟩⟩ := ih (rising_cons_iff.1 hxs).2 hys
    have hbelow (z : α) (hz : z ∈ y :: ys) : key x ≤ key z := by
      refine (h.key_le_of_not_less (Bool.eq_false_iff.2 hless)).trans ?_
      rcases List.mem_cons.1 hz with rfl | hz
      · exact le_rfl
      · exact (rising_cons_iff.1 hys).1 z hz
    refine ⟨x :: x₁, y₁, congrArg (x :: ·) hleft, hright, ?_, ?_, hpasses⟩
    · refine harranged.cons ?_
      rw [List.forall_mem_append]
      refine ⟨fun z hz => (rising_cons_iff.1 hxs).1 z ?_, fun z hz => hbelow z ?_⟩
      · exact hleft ▸ List.mem_append_left _ hz
      · exact hright ▸ List.mem_append_left _ hz
    · rw [List.forall_mem_cons]
      exact ⟨fun z hz => hbelow z (hright ▸ List.mem_append_right _ hz), hle⟩
  | case3 => exact ⟨[], [], rfl, rfl, .of_rising .nil, nofun, nofun⟩

/-- What remains is arranged behind what was merged. -/
theorem Splits.arranged_append (h : Splits less key xs ys m x₁ y₁) (hxs : Rising key xs)
    (hys : Rising key ys) (hout : Arranged less key (m.left ++ m.right) out) :
    Arranged less key (xs ++ ys) (m.merged ++ out) := by
  rw [h.left] at hxs ⊢
  rw [h.right] at hys ⊢
  exact h.cut.arranged_append hxs hys h.arranged hout

/-! ### Whole merges -/

section Lengths

omit [LinearOrder β]

/-- After enough steps nothing is left of one of the lists. -/
theorem advance_ends (passes : α → α → Bool) {k : ℕ} {xs ys : List α}
    (h : xs.length + ys.length ≤ k) :
    (advance passes k xs ys).left = [] ∨ (advance passes k xs ys).right = [] := by
  fun_induction advance passes k xs ys with
  | case1 k x xs y ys hless next ih =>
    exact ih (Nat.le_of_succ_le_succ h)
  | case2 k x xs y ys hless next ih =>
    rw [List.length_cons, Nat.succ_add] at h
    exact ih (Nat.le_of_succ_le_succ h)
  | case3 k xs ys hcases =>
    cases xs with
    | nil => exact .inl rfl
    | cons x xs =>
      cases ys with
      | nil => exact .inr rfl
      | cons y ys =>
        cases k with
        | zero => simp at h
        | succ k => exact absurd rfl (hcases k x xs y ys rfl rfl)

/-- No step is left out as long as both lists are long enough. -/
theorem advance_length (passes : α → α → Bool) {k : ℕ} {xs ys : List α} (hxs : k ≤ xs.length)
    (hys : k ≤ ys.length) : (advance passes k xs ys).merged.length = k := by
  fun_induction advance passes k xs ys with
  | case1 k x xs y ys hless next ih =>
    exact congrArg (· + 1) (ih (Nat.le_of_succ_le hxs) (Nat.le_of_succ_le_succ hys))
  | case2 k x xs y ys hless next ih =>
    exact congrArg (· + 1) (ih (Nat.le_of_succ_le_succ hxs) (Nat.le_of_succ_le hys))
  | case3 k xs ys hcases =>
    cases k with
    | zero => rfl
    | succ k =>
      obtain ⟨x, xs, rfl⟩ := List.exists_cons_of_length_pos (Nat.lt_of_lt_of_le k.succ_pos hxs)
      obtain ⟨y, ys, rfl⟩ := List.exists_cons_of_length_pos (Nat.lt_of_lt_of_le k.succ_pos hys)
      exact absurd rfl (hcases k x xs y ys rfl rfl)

end Lengths

theorem mergeAll_arranged (h : Follows less key) (hxs : Rising key xs) (hys : Rising key ys) :
    Arranged less key (xs ++ ys) (mergeAll less xs ys) := by
  obtain ⟨x₁, y₁, hsplits⟩ := advance_splits h hxs hys (xs.length + ys.length)
  refine hsplits.arranged_append hxs hys (.of_rising ?_)
  rw [hsplits.left, rising_append_iff] at hxs
  rw [hsplits.right, rising_append_iff] at hys
  rcases advance_ends less (le_refl (xs.length + ys.length)) with hnil | hnil
  · rw [hnil]
    exact hys.2.1
  · rw [hnil, List.append_nil]
    exact hxs.2.1

/-- **Merging two lists arranges them.** -/
theorem merge_arranged (h : Follows less key) (hxs : Rising key xs) (hys : Rising key ys) :
    Arranged less key (xs ++ ys) (merge less xs ys) := by
  rw [merge]
  split_ifs
  · exact mergeAll_arranged h hxs hys
  · refine .of_flip ?_
    rw [List.reverse_append, List.reverse_reverse]
    exact mergeAll_arranged h.flip (rising_flip_iff.2 hys) (rising_flip_iff.2 hxs)

/-! ### Merging from both ends -/

omit [LinearOrder β] in
/-- If a list is cut at two places, some element is in front of the later one and behind the earlier
one. -/
theorem exists_mem_of_length_lt {p q p' q' : List α} (h : p ++ q = p' ++ q')
    (hlt : p'.length < p.length) : ∃ x ∈ p, x ∈ q' := by
  rcases List.append_eq_append_iff.1 h with ⟨l, rfl, rfl⟩ | ⟨l, rfl, rfl⟩
  · rw [List.length_append] at hlt
    omega
  · have hl : l ≠ [] := by
      rintro rfl
      rw [List.append_nil] at hlt
      exact absurd hlt (lt_irrefl _)
    obtain ⟨x, hx⟩ := List.exists_mem_of_ne_nil l hl
    exact ⟨x, List.mem_append_right p' hx, List.mem_append_left q hx⟩

/-- **Two cuts do not cross** where all keys are still: that with the shorter front parts has both
front parts shorter. -/
theorem Cut.length_le {x₁' x₂' y₁' y₂' : List α} (hstill : ∀ k, Still less key k)
    (h : Cut less key x₁ x₂ y₁ y₂) (h' : Cut less key x₁' x₂' y₁' y₂')
    (hxs : x₁ ++ x₂ = x₁' ++ x₂') (hys : y₁ ++ y₂ = y₁' ++ y₂')
    (hle : x₁.length + y₁.length ≤ x₁'.length + y₁'.length) :
    x₁.length ≤ x₁'.length ∧ y₁.length ≤ y₁'.length := by
  -- Where the cuts cross there are two elements in the wrong order, whichever it is.
  constructor
  · by_contra! hlt
    obtain ⟨x, hx, hx'⟩ := exists_mem_of_length_lt hxs hlt
    obtain ⟨y, hy', hy⟩ := exists_mem_of_length_lt hys.symm (by omega)
    exact absurd (h.key_le x hx y hy) (not_le_of_gt ((h'.passes y hy' x hx').lt hstill))
  · by_contra! hlt
    obtain ⟨y, hy, hy'⟩ := exists_mem_of_length_lt hys hlt
    obtain ⟨x, hx', hx⟩ := exists_mem_of_length_lt hxs.symm (by omega)
    exact absurd (h'.key_le x hx' y hy') (not_le_of_gt ((h.passes y hy x hx).lt hstill))

/-- Steps from the other end cut both lists, and merge the back parts. -/
theorem advance_flip_splits (h : Follows less key) (hxs : Rising key xs) (hys : Rising key ys)
    (k : ℕ) :
    let m := advance (flip less) k ys.reverse xs.reverse
    ∃ x₂ y₂, xs = m.right.reverse ++ x₂ ∧ ys = m.left.reverse ++ y₂ ∧
      Arranged less key (x₂ ++ y₂) m.merged.reverse ∧
        Cut less key m.right.reverse x₂ m.left.reverse y₂ := by
  obtain ⟨y₂, x₂, hleft, hright, harranged, hcut⟩ :=
    advance_splits h.flip (rising_flip_iff.2 hys) (rising_flip_iff.2 hxs) k
  refine ⟨x₂.reverse, y₂.reverse, ?_, ?_, .of_flip ?_, fun x hx y hy => ?_, fun y hy x hx => ?_⟩
  · rw [← List.reverse_append, ← hright, List.reverse_reverse]
  · rw [← List.reverse_append, ← hleft, List.reverse_reverse]
  · rwa [List.reverse_append, List.reverse_reverse, List.reverse_reverse, List.reverse_reverse]
  · exact hcut.key_le y (List.mem_reverse.1 hy) x (List.mem_reverse.1 hx)
  · exact passes_flip_iff.1 (hcut.passes x (List.mem_reverse.1 hx) y (List.mem_reverse.1 hy))

omit [LinearOrder β] in
/-- What is not taken from either end is what is between. -/
theorem untaken_yields {sure : Prop} (hfront : xs = x₁ ++ front) (hback : xs = back.reverse ++ x₂)
    (hsure : sure → x₁.length ≤ back.length) :
    Yields sure (untaken xs front back)
      fun between => front = between ++ x₂ ∧ back.reverse = x₁ ++ between := by
  have hlength : xs.length ≤ front.length + back.length ↔ x₁.length ≤ back.length := by
    rw [hfront, List.length_append]
    omega
  rw [untaken]
  split_ifs with hle
  · refine .some ?_
    rcases List.append_eq_append_iff.1 (hfront.symm.trans hback) with
      ⟨l, hl, hfront'⟩ | ⟨l, hl, hx₂⟩
    · have hcount : front.length + back.length - xs.length = l.length := by
        rw [hfront, ← back.length_reverse, hl, List.length_append, List.length_append]
        omega
      rw [hcount, hfront', List.take_left]
      exact ⟨rfl, hl⟩
    · have hnil : l = [] := by
        rw [hlength, hl, List.length_append, List.length_reverse] at hle
        exact List.eq_nil_of_length_eq_zero (by omega)
      have hcount : front.length + back.length - xs.length = 0 := by
        rw [hback, hx₂, hnil, List.length_append, List.length_reverse, List.nil_append]
        omega
      rw [hcount, List.take_zero, hl, hx₂, hnil, List.append_nil, List.append_nil]
      exact ⟨rfl, rfl⟩
  · exact ⟨nofun, fun h => absurd (hlength.2 (hsure h)) hle⟩

/-- **Merging from both ends** arranges two lists of about the same length. -/
theorem mergeEnds_sorts (h : Follows less key) (hxs : Rising key xs) (hys : Rising key ys)
    (hlength : xs.length ≤ ys.length) (hlength' : ys.length ≤ xs.length + 1) :
    Sorts less key (xs ++ ys) (mergeEnds less xs ys) := by
  have hhalf : (xs.length + ys.length) / 2 = xs.length := by omega
  rw [mergeEnds, hhalf]
  obtain ⟨x₁, y₁, hlow⟩ := advance_splits h hxs hys xs.length
  obtain ⟨x₂, y₂, hxs₂, hys₂, hhigh, hcut⟩ := advance_flip_splits h hxs hys xs.length
  have hlowLength := advance_length less le_rfl hlength
  have hhighLength : (advance (flip less) xs.length ys.reverse xs.reverse).merged.length =
      xs.length :=
    advance_length _ (by rwa [List.length_reverse]) List.length_reverse.ge
  generalize advance less xs.length xs ys = low at *
  generalize advance (flip less) xs.length ys.reverse xs.reverse = high at *
  rw [hlow.arranged.length_eq, List.length_append] at hlowLength
  rw [← List.length_reverse, hhigh.length_eq, List.length_append] at hhighLength
  have hxsLength := congrArg List.length hxs₂
  have hysLength := congrArg List.length hys₂
  rw [List.length_append] at hxsLength hysLength
  -- Both ends have taken as many elements, so the cut of the lower end lies before the other one.
  have hle (hstill : ∀ k, Still less key k) := hlow.cut.length_le hstill hcut
    (hlow.left.symm.trans hxs₂) (hlow.right.symm.trans hys₂) (by omega)
  refine (untaken_yields hlow.left hxs₂ fun hstill => ?_).bind fun a ⟨hleft, ha⟩ =>
    (untaken_yields hlow.right hys₂ fun hstill => ?_).bind fun b ⟨hright, hb⟩ => .some ?_
  · exact (hle hstill).1.trans_eq List.length_reverse
  · exact (hle hstill).2.trans_eq List.length_reverse
  · rw [ha, hb] at hcut
    rw [ha, List.length_append] at hxsLength
    rw [hb, List.length_append] at hysLength
    rw [List.append_assoc]
    refine hlow.arranged_append hxs hys ?_
    rw [hleft, hright]
    -- The lower end and the upper end leave one element between them at most.
    have hbetween : (a ++ b).length ≤ 1 := by
      rw [List.length_append]
      omega
    refine hcut.of_append.arranged_append ?_ ?_ (.of_rising (rising_of_length_le_one hbetween))
      hhigh
    · rw [← hleft]
      exact (rising_append_iff.1 (hlow.left ▸ hxs)).2.1
    · rw [← hright]
      exact (rising_append_iff.1 (hlow.right ▸ hys)).2.1

/-- **Merging both halves** of a list from both ends, each of them in order. -/
theorem mergeEnds_halves_sorts (h : Follows less key) {half : ℕ} (hhalf : half = xs.length / 2)
    {low high : List α} (hlow : Arranged less key (xs.take half) low)
    (hhigh : Arranged less key (xs.drop half) high) :
    Sorts less key xs (mergeEnds less low high) := by
  have hlowLength : low.length = min half xs.length := hlow.length_eq.trans List.length_take
  have hhighLength : high.length = xs.length - half := hhigh.length_eq.trans List.length_drop
  refine (mergeEnds_sorts h hlow.rising hhigh.rising (by omega) (by omega)).imp fun out hout => ?_
  exact .of_rearranged (.of_take_drop hlow.rearranged hhigh.rearranged) hout

/-! ### Short lists -/

theorem two_arranged (h : Follows less key) (x y : α) :
    Arranged less key [x, y] [(two less x y).1, (two less x y).2] := by
  rw [two]
  split_ifs with hless
  · refine ⟨.move [x] [] ?_, rising_pair_iff.2 (h.key_le_of_less hless)⟩
    rw [List.forall_mem_singleton]
    exact h.passes hless
  · exact .of_rising (rising_pair_iff.2 (h.key_le_of_not_less (Bool.eq_false_iff.2 hless)))

/-- Four elements are in order as soon as those in the middle are. -/
theorem two_arranged_between (h : Follows less key) {low high : α} (hx : key low ≤ key x)
    (hy : key low ≤ key y) (hx' : key x ≤ key high) (hy' : key y ≤ key high) :
    Arranged less key [low, x, y, high] [low, (two less x y).1, (two less x y).2, high] := by
  have hhigh : Arranged less key [high] [high] := .of_rising (List.pairwise_singleton _ high)
  refine ((two_arranged h x y).append hhigh ?_).cons ?_
  · simp only [List.forall_mem_cons, List.not_mem_nil, IsEmpty.forall_iff, implies_true, and_true]
    exact ⟨hx', hy'⟩
  · simp only [List.cons_append, List.nil_append, List.forall_mem_cons, List.not_mem_nil,
      IsEmpty.forall_iff, implies_true, and_true]
    exact ⟨hx, hy, hx.trans hx'⟩

/-- The least and the greatest one of four elements. -/
theorem joinPairs_arranged (h : Follows less key) {a b c d low high : α} (hab : key a ≤ key b)
    (hcd : key c ≤ key d) (hjoin : joinPairs less a b c d = (low, x, y, high)) :
    Arranged less key [a, b, c, d] [low, (two less x y).1, (two less x y).2, high] := by
  have hfront (hless : less c a = true) : Rearranged less key [a, b, c, d] [c, a, b, d] := by
    refine .move [a, b] [d] fun x hx => ?_
    rcases List.mem_pair.1 hx with rfl | rfl
    · exact h.passes hless
    · exact (h.passes hless).trans_le hab
  rw [joinPairs] at hjoin
  cases hca : less c a with
  | false =>
    have hac := h.key_le_of_not_less hca
    cases hdb : less d b with
    | false =>
      simp only [hca, hdb, Prod.mk.injEq] at hjoin
      obtain ⟨rfl, rfl, rfl, rfl⟩ := hjoin
      exact two_arranged_between h hab hac (h.key_le_of_not_less hdb) hcd
    | true =>
      simp only [hca, hdb, Prod.mk.injEq] at hjoin
      obtain ⟨rfl, rfl, rfl, rfl⟩ := hjoin
      have hback : Rearranged less key [b, c, d] [c, d, b] := by
        refine .exchange [b] [c, d] fun y hy => ?_
        rw [List.forall_mem_singleton]
        rcases List.mem_pair.1 hy with rfl | rfl
        · exact .le_trans hcd (h.passes hdb)
        · exact h.passes hdb
      have hle := h.key_le_of_less hdb
      exact .of_rearranged (hback.cons a)
        (two_arranged_between h hac (hac.trans hcd) (hcd.trans hle) hle)
  | true =>
    have hle := h.key_le_of_less hca
    cases hdb : less d b with
    | false =>
      simp only [hca, hdb, Prod.mk.injEq] at hjoin
      obtain ⟨rfl, rfl, rfl, rfl⟩ := hjoin
      have hbd := h.key_le_of_not_less hdb
      exact .of_rearranged (hfront hca)
        (two_arranged_between h hle (hle.trans hab) (hab.trans hbd) hbd)
    | true =>
      simp only [hca, hdb, Prod.mk.injEq] at hjoin
      obtain ⟨rfl, rfl, rfl, rfl⟩ := hjoin
      have hback : Rearranged less key [b, d] [d, b] := by
        refine .move [b] [] ?_
        rw [List.forall_mem_singleton]
        exact h.passes hdb
      exact .of_rearranged ((hfront hca).trans ((hback.cons a).cons c))
        (two_arranged_between h hle hcd hab (h.key_le_of_less hdb))

theorem sortFour_arranged (h : Follows less key) (xs : List α) :
    Arranged less key xs (sortFour less xs) := by
  fun_cases sortFour less xs with
  | case1 w x y z a b hab c d hcd low x' y' high hjoin x'' y'' htwo =>
    have hwx := two_arranged h w x
    have hyz := two_arranged h y z
    rw [hab] at hwx
    rw [hcd] at hyz
    have hmiddle := joinPairs_arranged h (rising_pair_iff.1 hwx.rising)
      (rising_pair_iff.1 hyz.rising) hjoin
    rw [htwo] at hmiddle
    exact .of_rearranged (hwx.rearranged.append hyz.rearranged) hmiddle
  | case2 => exact insertion_arranged h xs

theorem sortEight_sorts (h : Follows less key) (hxs : xs.length = 8) :
    Sorts less key xs (sortEight less xs) :=
  mergeEnds_halves_sorts h (by rw [hxs]) (sortFour_arranged h _) (sortFour_arranged h _)

/-- What is arranged in front of other elements is extended by insertion. -/
theorem insertAll_arranged_of_take (h : Follows less key) {k : ℕ}
    (hsorted : Arranged less key (xs.take k) sorted) :
    Arranged less key xs (insertAll less sorted (xs.drop k)) :=
  .of_rearranged (.of_take_drop hsorted.rearranged (.refl _))
    (insertAll_arranged h hsorted.rising _)

theorem sortHalf_sorts (h : Follows less key) {length : ℕ} (hlength : length / 2 ≤ xs.length) :
    Sorts less key xs (sortHalf less length xs) := by
  rw [sortHalf]
  split_ifs
  · have htake : (xs.take 8).length = 8 := by rw [List.length_take]; omega
    exact (sortEight_sorts h htake).map fun sorted hsorted => insertAll_arranged_of_take h hsorted
  · exact .some (insertAll_arranged_of_take h (sortFour_arranged h _))
  · refine .some (insertAll_arranged_of_take h (.of_rising (rising_of_length_le_one ?_)))
    exact List.length_take_le 1 xs

/-- **The sort for short lists** arranges a list. -/
theorem sortShort_sorts (h : Follows less key) (xs : List α) :
    Sorts less key xs (sortShort less xs) := by
  rw [sortShort]
  split_ifs with hlength
  · exact .some (.of_rising (rising_of_length_le_one (Nat.le_of_lt_succ hlength)))
  · have htake : xs.length / 2 ≤ (xs.take (xs.length / 2)).length := by
      rw [List.length_take]
      omega
    have hdrop : xs.length / 2 ≤ (xs.drop (xs.length / 2)).length := by
      rw [List.length_drop]
      omega
    exact (sortHalf_sorts h htake).bind fun low hlow => (sortHalf_sorts h hdrop).bind
      fun high hhigh => mergeEnds_halves_sorts h rfl hlow hhigh

end OneShot.Sorting
