import OneShot.Proofs.Sorting.Runs
import OneShot.Sorting.Quicksort

/-!
# Quicksort sorts

Which element is the pivot does not matter here: by any pivot a list is parted into elements that
may pass the others. Nothing is compared with itself, so the pivot goes where it is told. Where
equals of the pivot are parted off, nothing in the list has a smaller key than the pivot, so all of
these equals have its key, and they are in order as they are.

## Main results

* `part_rearranged` — the parts of a list put together
* `quicksort_sorts` — the sort
-/

namespace OneShot.Sorting

variable {α β : Type} [LinearOrder β] {less : α → α → Bool} {key : α → β} {x y pivot : α}
  {xs before after : List α}

/-! ### Parting -/

/-- Marked elements come to the front, if they may pass the others. -/
theorem marked_rearranged {marked : List (α × Bool)}
    (h : ∀ y ∈ (marked.filter (·.2)).map (·.1), ∀ x ∈ (marked.filter (!·.2)).map (·.1),
      Passes less key y x) :
    Rearranged less key (marked.map (·.1))
      ((marked.filter (·.2)).map (·.1) ++ (marked.filter (!·.2)).map (·.1)) := by
  induction marked with
  | nil => exact .refl []
  | cons head marked ih =>
    obtain ⟨x, mark⟩ := head
    cases mark with
    | true => exact (ih fun y hy => h y (List.mem_cons_of_mem x hy)).cons x
    | false =>
      have hrest := ih fun y hy x hx => h y hy x (List.mem_cons_of_mem _ hx)
      have hx : ∀ y ∈ (marked.filter (·.2)).map (·.1), ∀ z ∈ [x], Passes less key y z := by
        intro y hy
        rw [List.forall_mem_singleton]
        exact h y hy x List.mem_cons_self
      exact (hrest.cons x).trans (.exchange_between [] _ hx)

section Part

variable {goesLeft : α → Bool} {pivotLeft : Bool}

omit [LinearOrder β] in
theorem map_fst_marked :
    (marked goesLeft pivotLeft before pivot after).map (·.1) = before ++ pivot :: after := by
  simp only [marked, List.map_append, List.map_cons, List.map_map, Function.comp_def, List.map_id']

/-- **The parts of a list put together**, if those on the left may pass those on the right. -/
theorem part_rearranged
    (h : ∀ y ∈ (part goesLeft pivotLeft before pivot after).1,
      ∀ x ∈ (part goesLeft pivotLeft before pivot after).2, Passes less key y x) :
    Rearranged less key (before ++ pivot :: after)
      ((part goesLeft pivotLeft before pivot after).1 ++
        (part goesLeft pivotLeft before pivot after).2) := by
  have hmarked := marked_rearranged h
  rwa [map_fst_marked] at hmarked

omit [LinearOrder β] in
theorem mem_marked {mark : Bool}
    (h : (x, mark) ∈ marked goesLeft pivotLeft before pivot after) :
    goesLeft x = mark ∨ x = pivot ∧ pivotLeft = mark := by
  rw [marked, List.mem_append, List.mem_cons, List.mem_map, List.mem_map, Prod.mk.injEq] at h
  rcases h with ⟨_, -, ⟨⟩⟩ | ⟨rfl, rfl⟩ | ⟨_, -, ⟨⟩⟩
  · exact .inl rfl
  · exact .inr ⟨rfl, rfl⟩
  · exact .inl rfl

omit [LinearOrder β] in
theorem mem_part_left (h : y ∈ (part goesLeft pivotLeft before pivot after).1) :
    goesLeft y = true ∨ y = pivot ∧ pivotLeft = true := by
  obtain ⟨⟨y, mark⟩, hmem, rfl⟩ := List.mem_map.1 h
  obtain ⟨hmem, rfl⟩ := List.mem_filter.1 hmem
  exact mem_marked hmem

omit [LinearOrder β] in
theorem mem_part_right (h : x ∈ (part goesLeft pivotLeft before pivot after).2) :
    goesLeft x = false ∨ x = pivot ∧ pivotLeft = false := by
  obtain ⟨⟨x, mark⟩, hmem, rfl⟩ := List.mem_map.1 h
  obtain ⟨hmem, hmark⟩ := List.mem_filter.1 hmem
  obtain rfl : mark = false := Bool.not_inj hmark
  exact mem_marked hmem

end Part

/-! ### Parting by the pivot -/

section Pivot

variable (before after : List α) (pivot : α)

/-- What is less than the pivot, and what is not. -/
theorem part_less (h : Follows less key) :
    (∀ y ∈ (part (less · pivot) false before pivot after).1, Passes less key y pivot) ∧
      ∀ x ∈ (part (less · pivot) false before pivot after).2, key pivot ≤ key x := by
  refine ⟨fun y hy => ?_, fun x hx => ?_⟩
  · rcases mem_part_left hy with hless | ⟨-, hfalse⟩
    · exact h.passes hless
    · cases hfalse
  · rcases mem_part_right hx with hnot | ⟨rfl, -⟩
    · exact h.key_le_of_not_less hnot
    · exact le_rfl

/-- What the pivot is not less than, and what it is less than. -/
theorem part_equal (h : Follows less key) :
    (∀ y ∈ (part (!less pivot ·) true before pivot after).1, key y ≤ key pivot) ∧
      ∀ x ∈ (part (!less pivot ·) true before pivot after).2, Passes less key pivot x := by
  refine ⟨fun y hy => ?_, fun x hx => ?_⟩
  · rcases mem_part_left hy with hnot | ⟨rfl, -⟩
    · exact h.key_le_of_not_less (Bool.not_inj hnot)
    · exact le_rfl
  · rcases mem_part_right hx with hless | ⟨-, hfalse⟩
    · exact h.passes (Bool.not_inj hless)
    · cases hfalse

theorem part_less_rearranged (h : Follows less key) :
    Rearranged less key (before ++ pivot :: after)
      ((part (less · pivot) false before pivot after).1 ++
        (part (less · pivot) false before pivot after).2) := by
  obtain ⟨hleft, hright⟩ := part_less before after pivot h
  exact part_rearranged fun y hy x hx => (hleft y hy).trans_le (hright x hx)

theorem part_equal_rearranged (h : Follows less key) :
    Rearranged less key (before ++ pivot :: after)
      ((part (!less pivot ·) true before pivot after).1 ++
        (part (!less pivot ·) true before pivot after).2) := by
  obtain ⟨hequal, hgreater⟩ := part_equal before after pivot h
  exact part_rearranged fun y hy x hx => .le_trans (hequal y hy) (hgreater x hx)

/-- Where both parts are sorted, the list is. -/
theorem part_less_sorts (h : Follows less key) {low high : Option (List α)}
    (hhigh : Sorts less key (part (less · pivot) false before pivot after).2 high)
    (hlow : Sorts less key (part (less · pivot) false before pivot after).1 low) :
    Sorts less key (before ++ pivot :: after) (do
      let ys ← high
      let xs ← low
      return xs ++ ys) := by
  obtain ⟨hleft, hright⟩ := part_less before after pivot h
  refine hhigh.bind fun ys hys => hlow.bind fun xs hxs => .some ?_
  refine .of_rearranged (part_less_rearranged before after pivot h) (hxs.append hys ?_)
  exact fun y hy x hx => (hleft y hy).1.trans (hright x hx)

/-- Where nothing has a smaller key than the pivot, only what is greater remains to be sorted. -/
theorem part_equal_sorts (h : Follows less key)
    (hpivot : ∀ x ∈ before ++ pivot :: after, key pivot ≤ key x) {greater : Option (List α)}
    (hgreater : Sorts less key (part (!less pivot ·) true before pivot after).2 greater) :
    Sorts less key (before ++ pivot :: after)
      (greater.map ((part (!less pivot ·) true before pivot after).1 ++ ·)) := by
  obtain ⟨hleft, hright⟩ := part_equal before after pivot h
  have hrearranged := part_equal_rearranged before after pivot h
  -- The elements on the left have the key of the pivot.
  have hrising : Rising key (part (!less pivot ·) true before pivot after).1 := by
    refine List.pairwise_of_forall_mem_list fun x hx y hy => (hleft x hx).trans (hpivot y ?_)
    exact hrearranged.perm.mem_iff.2 (List.mem_append_left _ hy)
  refine hgreater.map fun ys hys => ?_
  refine .of_rearranged hrearranged ((Arranged.of_rising hrising).append hys ?_)
  exact fun y hy x hx => (hleft y hy).trans (hright x hx).1

end Pivot

/-! ### The sort -/

/-- Nothing in a list has a smaller key than the pivot, if the pivot is not above the bound, or if
nothing is less than the pivot. -/
theorem key_pivot_le (h : Follows less key) {bound : Option α}
    (hbound : ∀ b ∈ bound, ∀ x ∈ before ++ pivot :: after, key b ≤ key x)
    (hpivot : bound.any (!less · pivot) = true ∨
      (part (less · pivot) false before pivot after).1 = []) :
    ∀ x ∈ before ++ pivot :: after, key pivot ≤ key x := by
  intro x hx
  rcases hpivot with hany | hnil
  · cases bound with
    | none => cases hany
    | some b => exact (h.key_le_of_not_less (Bool.not_inj hany)).trans (hbound b rfl x hx)
  · have hperm := (part_less_rearranged before after pivot h).perm
    rw [hnil, List.nil_append] at hperm
    exact (part_less before after pivot h).2 x (hperm.mem_iff.1 hx)

/-- **Quicksort** arranges a list, if nothing in it has a smaller key than the bound. -/
theorem quicksort_sorts (h : Follows less key) (steps : ℕ) (bound : Option α) (xs : List α)
    (hbound : ∀ b ∈ bound, ∀ x ∈ xs, key b ≤ key x) :
    Sorts less key xs (quicksort less steps bound xs) := by
  induction steps generalizing bound xs with
  | zero =>
    rw [quicksort]
    split_ifs
    · exact sortShort_sorts h xs
    · exact sortEagerly_sorts h xs
  | succ steps ih =>
    have hxs := List.take_append_drop (Sorting.pivot less xs) xs
    rw [quicksort, List.splitAt_eq]
    split_ifs
    · exact sortShort_sorts h xs
    generalize xs.take (Sorting.pivot less xs) = before at *
    cases hdrop : xs.drop (Sorting.pivot less xs) with
    | nil => exact sortEagerly_sorts h xs
    | cons pivot after =>
      rw [hdrop] at hxs
      subst hxs
      dsimp only
      split_ifs with hpivot
      · exact part_equal_sorts before after pivot h (key_pivot_le h hbound hpivot)
          (ih none _ nofun)
      · have hperm := (part_less_rearranged before after pivot h).perm
        refine part_less_sorts before after pivot h (ih (some pivot) _ ?_) (ih bound _ ?_)
        · rintro _ ⟨⟩
          exact (part_less before after pivot h).2
        · exact fun b hb x hx => hbound b hb x (hperm.mem_iff.2 (List.mem_append_left _ hx))

end OneShot.Sorting
