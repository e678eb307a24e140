import Mathlib.Data.List.Basic
import Mathlib.Order.Basic
import Mathlib.Order.Lattice

/-!
# What sorting has to keep to

Sorting is judged by keys in a linear order, and the comparison is only asked to follow the keys: an
element that is less than another has no greater key, and one that is not less has no smaller one.
Among elements of one key it may say what it likes, and there it may contradict itself. So this is
less than what an order gives, but it is what a comparison gives that is an order but for a few
elements, and every step of a sort keeps to it.

A key is still if no element with this key is less than another one. Where all keys are still, the
comparison is an order.

## The contract of a sort

`Arranged xs out` says that `out` has the elements of `xs`, that the keys in it do not fall, and
that elements with the same still key keep their order. `Sorts xs result` is for a sort that may
give up: what it returns is arranged, and it does return if all keys are still. Both are put
together from parts: `Rearranged` is kept by exchanging neighbours that may pass each other, and
`Yields` by doing one thing after another.

## Main definitions

* `Follows`, `Still` — comparisons that follow keys, and keys without contradictions
* `Passes` — one element may be put in front of another
* `Rearranged`, `Arranged` — what a step of a sort keeps, and what a sort does
* `Yields`, `Sorts` — the contract of what may give up

## Main results

* `Arranged.unique` — where all keys are still, a list can be arranged in one way only
-/

namespace OneShot.Sorting

variable {α β : Type} [LinearOrder β]

/-! ### Comparisons and keys -/

/-- A comparison follows keys: what is less has no greater key, and what is not less no smaller. -/
structure Follows (less : α → α → Bool) (key : α → β) : Prop where
  key_le_of_less {x y : α} (h : less x y = true) : key x ≤ key y
  key_le_of_not_less {x y : α} (h : less x y = false) : key y ≤ key x

/-- No element with this key is less than another one. -/
def Still (less : α → α → Bool) (key : α → β) (k : β) : Prop :=
  ∀ x y, key x = k → key y = k → less x y = false

/-- The first element may be put in front of the second: its key is smaller, or both have a key at
which the comparison contradicts itself. -/
def Passes (less : α → α → Bool) (key : α → β) (y x : α) : Prop :=
  key y ≤ key x ∧ (key y = key x → ¬Still less key (key x))

variable {less : α → α → Bool} {key : α → β} {x x' y y' z : α} {xs xs' ys ys' zs out out' : List α}

theorem Follows.passes (h : Follows less key) (hless : less y x = true) : Passes less key y x := by
  refine ⟨h.key_le_of_less hless, fun heq hstill => ?_⟩
  rw [hstill y x heq rfl] at hless
  cases hless

theorem Passes.trans_le (h : Passes less key y x) (hle : key x ≤ key z) : Passes less key y z := by
  refine ⟨h.1.trans hle, fun heq => ?_⟩
  have hx : key x = key z := le_antisymm hle (heq ▸ h.1)
  exact hx ▸ h.2 (heq.trans hx.symm)

theorem Passes.le_trans (hle : key z ≤ key y) (h : Passes less key y x) : Passes less key z x := by
  refine ⟨hle.trans h.1, fun heq => h.2 ?_⟩
  exact le_antisymm h.1 (heq ▸ hle)

theorem Passes.lt (h : Passes less key y x) (hstill : ∀ k, Still less key k) : key y < key x :=
  lt_of_le_of_ne h.1 fun heq => h.2 heq (hstill _)

/-! ### From the other end

A comparison that is turned round follows the keys in the order turned round, and the lists are read
backwards.
-/

theorem Follows.flip (h : Follows less key) : Follows (flip less) (OrderDual.toDual ∘ key) where
  key_le_of_less hless := h.key_le_of_less hless
  key_le_of_not_less hless := h.key_le_of_not_less hless

omit [LinearOrder β] in
theorem still_flip_iff {k : β} :
    Still (flip less) (OrderDual.toDual ∘ key) (OrderDual.toDual k) ↔ Still less key k :=
  ⟨fun h x y hx hy => h y x hy hx, fun h x y hx hy => h y x hy hx⟩

theorem passes_flip_iff :
    Passes (flip less) (OrderDual.toDual ∘ key) x y ↔ Passes less key y x := by
  constructor
  · rintro ⟨hle, hnot⟩
    refine ⟨hle, fun heq hstill => hnot heq.symm ?_⟩
    exact still_flip_iff.2 (heq ▸ hstill)
  · rintro ⟨hle, hnot⟩
    refine ⟨hle, fun (heq : key x = key y) hstill => hnot heq.symm ?_⟩
    rw [heq]
    exact still_flip_iff.1 hstill

/-! ### Rearranged lists -/

/-- Two lists have the same elements, and those with the same still key in the same order. -/
structure Rearranged (less : α → α → Bool) (key : α → β) (xs out : List α) : Prop where
  perm : xs.Perm out
  stable : ∀ k, Still less key k → xs.filter (key · = k) = out.filter (key · = k)

namespace Rearranged

theorem refl (xs : List α) : Rearranged less key xs xs := ⟨.refl _, fun _ _ => rfl⟩

theorem trans (h : Rearranged less key xs ys) (h' : Rearranged less key ys zs) :
    Rearranged less key xs zs :=
  ⟨h.perm.trans h'.perm, fun k hk => (h.stable k hk).trans (h'.stable k hk)⟩

theorem append (h : Rearranged less key xs ys) (h' : Rearranged less key xs' ys') :
    Rearranged less key (xs ++ xs') (ys ++ ys') where
  perm := h.perm.append h'.perm
  stable k hk := by rw [List.filter_append, List.filter_append, h.stable k hk, h'.stable k hk]

theorem cons (x : α) (h : Rearranged less key xs ys) : Rearranged less key (x :: xs) (x :: ys) :=
  (refl [x]).append h

/-- A list is rearranged if both its parts are. -/
theorem of_take_drop {k : ℕ} (h : Rearranged less key (xs.take k) ys)
    (h' : Rearranged less key (xs.drop k) ys') : Rearranged less key xs (ys ++ ys') := by
  have happend := h.append h'
  rwa [List.take_append_drop] at happend

/-- Two neighbouring parts change places, if the elements of one may pass those of the other. -/
theorem exchange (xs ys : List α) (h : ∀ y ∈ ys, ∀ x ∈ xs, Passes less key y x) :
    Rearranged less key (xs ++ ys) (ys ++ xs) where
  perm := List.perm_append_comm
  stable k hk := by
    rw [List.filter_append, List.filter_append]
    by_cases hys : ∃ y ∈ ys, key y = k
    · obtain ⟨y, hy, rfl⟩ := hys
      have hnone : xs.filter (key · = key y) = [] := by
        refine List.filter_eq_nil_iff.2 fun x hx => ?_
        rw [decide_eq_true_iff]
        exact fun heq => (h y hy x hx).2 heq.symm (heq ▸ hk)
      rw [hnone, List.nil_append, List.append_nil]
    · have hnone : ys.filter (key · = k) = [] := by
        refine List.filter_eq_nil_iff.2 fun y hy => ?_
        rw [decide_eq_true_iff]
        exact fun heq => hys ⟨y, hy, heq⟩
      rw [hnone, List.nil_append, List.append_nil]

/-- Two parts change places in the middle of a list. -/
theorem exchange_between (ws zs : List α) (h : ∀ y ∈ ys, ∀ x ∈ xs, Passes less key y x) :
    Rearranged less key ((ws ++ xs) ++ (ys ++ zs)) ((ws ++ ys) ++ (xs ++ zs)) := by
  have hmiddle := ((refl ws).append (exchange xs ys h)).append (refl zs)
  simpa only [List.append_assoc] using hmiddle

/-- An element comes to the front. -/
theorem move (xs ys : List α) (h : ∀ x ∈ xs, Passes less key y x) :
    Rearranged less key (xs ++ y :: ys) (y :: (xs ++ ys)) := by
  have hy : ∀ z ∈ [y], ∀ x ∈ xs, Passes less key z x := by
    rwa [List.forall_mem_singleton]
  exact exchange_between [] ys hy

/-- A list is turned round, if every element may pass all those before it. -/
theorem reverse (h : xs.Pairwise fun x y => Passes less key y x) :
    Rearranged less key xs xs.reverse := by
  induction xs with
  | nil => exact refl _
  | cons x xs ih =>
    rw [List.pairwise_cons] at h
    rw [List.reverse_cons]
    refine ((ih h.2).cons x).trans (exchange [x] xs.reverse fun y hy => ?_)
    rw [List.forall_mem_singleton]
    exact h.1 y (List.mem_reverse.1 hy)

/-- Lists are rearranged if they are, read backwards, by the comparison that is turned round. -/
theorem of_flip (h : Rearranged (flip less) (OrderDual.toDual ∘ key) xs.reverse ys.reverse) :
    Rearranged less key xs ys where
  perm := ((List.reverse_perm xs).symm.trans h.perm).trans (List.reverse_perm ys)
  stable k hk := by
    have hfilter := h.stable (OrderDual.toDual k) (still_flip_iff.2 hk)
    rw [List.filter_reverse, List.filter_reverse, List.reverse_inj] at hfilter
    exact hfilter

end Rearranged

/-! ### Arranged lists -/

/-- The keys in a list do not fall. -/
def Rising (key : α → β) (xs : List α) : Prop := xs.Pairwise fun x y => key x ≤ key y

/-- What a sort makes of a list. -/
structure Arranged (less : α → α → Bool) (key : α → β) (xs out : List α) : Prop where
  rearranged : Rearranged less key xs out
  rising : Rising key out

theorem rising_append_iff : Rising key (xs ++ ys) ↔
    Rising key xs ∧ Rising key ys ∧ ∀ x ∈ xs, ∀ y ∈ ys, key x ≤ key y :=
  List.pairwise_append

theorem rising_cons_iff : Rising key (x :: xs) ↔ (∀ y ∈ xs, key x ≤ key y) ∧ Rising key xs :=
  List.pairwise_cons

theorem rising_pair_iff : Rising key [x, y] ↔ key x ≤ key y := List.pairwise_pair

theorem rising_of_length_le_one (h : xs.length ≤ 1) : Rising key xs := by
  match xs, h with
  | [], _ => exact .nil
  | [x], _ => exact List.pairwise_singleton _ x

theorem rising_flip_iff : Rising (OrderDual.toDual ∘ key) xs.reverse ↔ Rising key xs :=
  List.pairwise_reverse

namespace Arranged

theorem of_rising (h : Rising key xs) : Arranged less key xs xs := ⟨.refl xs, h⟩

theorem mem_iff (h : Arranged less key xs out) : x ∈ out ↔ x ∈ xs := h.rearranged.perm.mem_iff.symm

theorem length_eq (h : Arranged less key xs out) : out.length = xs.length :=
  h.rearranged.perm.length_eq.symm

/-- What comes before is rearranged before. -/
theorem of_rearranged (h : Rearranged less key xs ys) (h' : Arranged less key ys out) :
    Arranged less key xs out :=
  ⟨h.trans h'.rearranged, h'.rising⟩

/-- Two arranged parts, none of the first above one of the second. -/
theorem append (h : Arranged less key xs out) (h' : Arranged less key ys out')
    (hle : ∀ x ∈ xs, ∀ y ∈ ys, key x ≤ key y) : Arranged less key (xs ++ ys) (out ++ out') where
  rearranged := h.rearranged.append h'.rearranged
  rising := rising_append_iff.2
    ⟨h.rising, h'.rising, fun x hx y hy => hle x (h.mem_iff.1 hx) y (h'.mem_iff.1 hy)⟩

theorem cons (h : Arranged less key xs out) (hle : ∀ y ∈ xs, key x ≤ key y) :
    Arranged less key (x :: xs) (x :: out) :=
  (of_rising (List.pairwise_singleton _ x)).append h fun _ hz =>
    (List.mem_singleton.1 hz) ▸ hle

theorem of_flip
    (h : Arranged (flip less) (OrderDual.toDual ∘ key) xs.reverse out.reverse) :
    Arranged less key xs out :=
  ⟨.of_flip h.rearranged, rising_flip_iff.1 h.rising⟩

/-- **Where all keys are still there is one arrangement only.** -/
theorem unique (hstill : ∀ k, Still less key k) (h : Arranged less key xs out)
    (h' : Arranged less key xs out') : out = out' := by
  have hfilter (k : β) : out.filter (key · = k) = out'.filter (key · = k) :=
    (h.rearranged.stable k (hstill k)).symm.trans (h'.rearranged.stable k (hstill k))
  have hperm : out.Perm out' := h.rearranged.perm.symm.trans h'.rearranged.perm
  replace h := h.rising
  replace h' := h'.rising
  clear hstill
  induction out generalizing out' with
  | nil => exact hperm.nil_eq
  | cons x out ih =>
    cases out' with
    | nil => exact absurd hperm.symm.nil_eq (List.cons_ne_nil x out).symm
    | cons y out' =>
      rw [rising_cons_iff] at h h'
      -- Either head has the least key, so both have the same, and then they are the same.
      have hxy : key x = key y := by
        refine le_antisymm ?_ ?_
        · rcases List.mem_cons.1 (hperm.mem_iff.2 List.mem_cons_self) with rfl | hy
          · exact le_rfl
          · exact h.1 y hy
        · rcases List.mem_cons.1 (hperm.mem_iff.1 List.mem_cons_self) with rfl | hx
          · exact le_rfl
          · exact h'.1 x hx
      have hhead := hfilter (key x)
      rw [List.filter_cons_of_pos (by simp), List.filter_cons_of_pos (by simp [hxy]),
        List.cons.injEq] at hhead
      obtain ⟨rfl, -⟩ := hhead
      refine congrArg (x :: ·) (ih (fun k => ?_) hperm.cons_inv h.2 h'.2)
      have hk := hfilter k
      by_cases hx : key x = k
      · rwa [List.filter_cons_of_pos (by simp [hx]), List.filter_cons_of_pos (by simp [hx]),
          List.cons.injEq, and_iff_right rfl] at hk
      · rwa [List.filter_cons_of_neg (by simp [hx]), List.filter_cons_of_neg (by simp [hx])] at hk

end Arranged

/-! ### What may give up -/

section Yields

variable {σ τ : Type} {sure : Prop} {result : Option σ} {P : σ → Prop} {Q : τ → Prop}

/-- What is returned has a property, and something is returned under a condition. -/
structure Yields (sure : Prop) (result : Option σ) (P : σ → Prop) : Prop where
  holds : ∀ a ∈ result, P a
  returns : sure → result.isSome

namespace Yields

theorem some {a : σ} (h : P a) : Yields sure (some a) P where
  holds b hb := by cases hb; exact h
  returns _ := rfl

theorem bind {f : σ → Option τ} (h : Yields sure result P) (hf : ∀ a, P a → Yields sure (f a) Q) :
    Yields sure (result >>= f) Q where
  holds b hb := by
    obtain ⟨a, ha, hb⟩ := Option.bind_eq_some_iff.1 hb
    exact (hf a (h.holds a ha)).holds b hb
  returns hsure := by
    obtain ⟨a, ha⟩ := Option.isSome_iff_exists.1 (h.returns hsure)
    rw [ha]
    exact (hf a (h.holds a ha)).returns hsure

theorem map {f : σ → τ} (h : Yields sure result P) (hf : ∀ a, P a → Q (f a)) :
    Yields sure (result.map f) Q := by
  rw [Option.map_eq_bind]
  exact h.bind fun a ha => some (hf a ha)

theorem imp {P' : σ → Prop} (h : Yields sure result P) (hP : ∀ a, P a → P' a) :
    Yields sure result P' :=
  ⟨fun a ha => hP a (h.holds a ha), h.returns⟩

end Yields

end Yields

/-- **The contract of a sort.** What it returns is arranged; it returns if all keys are still. -/
def Sorts (less : α → α → Bool) (key : α → β) (xs : List α) (result : Option (List α)) : Prop :=
  Yields (∀ k, Still less key k) result (Arranged less key xs)

end OneShot.Sorting
