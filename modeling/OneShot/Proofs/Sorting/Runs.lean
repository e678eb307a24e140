import OneShot.Proofs.Sorting.Short
import OneShot.Sorting.Runs

/-!
# Runs are sorted

What holds of the runs of a list does not depend on the tree that tells which of them are joined
first. So the tree is left alone here: whatever it is, runs that are neighbours are joined, and in
the end one run holds the list.

What it means that a run holds a part of a list is a parameter, since there are runs of two kinds. A
sort by runs has to say how a run is cut off, `Cuts`, and how two runs are joined, `Joins`.

## Main definitions

* `Cuts`, `Joins` — the contracts of a sort by runs
* `Waits` — the runs that wait hold a list

## Main results

* `naturalRun_spec` — the natural run at the beginning of a list
* `joinRuns_yields` — what is made of the runs of a list
* `sortByRuns_sorts`, `sortEagerly_sorts` — sorting by runs
-/

namespace OneShot.Sorting

variable {α β ρ : Type} [LinearOrder β] {less : α → α → Bool} {key : α → β} {sure : Prop}
  {Holds : List α → ρ → Prop} {x : α} {xs : List α}

/-! ### Natural runs -/

omit [LinearOrder β] in
/-- A streak is a beginning of the list, in which each element follows the one before. -/
theorem streak_spec (follows : α → α → Bool) (x : α) (xs : List α) :
    xs = (streak follows x xs).1 ++ (streak follows x xs).2 ∧
      List.IsChain (follows · · = true) (x :: (streak follows x xs).1) := by
  fun_induction streak follows x xs with
  | case1 => exact ⟨rfl, .singleton _⟩
  | case2 x y rest hfollows run rest' heq ih =>
    rw [heq] at ih
    exact ⟨congrArg (y :: ·) ih.1, .cons_cons hfollows ih.2⟩
  | case3 x y rest hfollows => exact ⟨rfl, .singleton _⟩

/-- What goes on without falling is arranged. -/
theorem arranged_of_isChain (h : Follows less key)
    (hchain : List.IsChain (fun x y => (!less y x) = true) xs) : Arranged less key xs xs := by
  let _ : Trans (fun x y => key x ≤ key y) (fun x y => key x ≤ key y)
    (fun x y => key x ≤ key y) := ⟨fun hxy hyz => hxy.trans hyz⟩
  refine .of_rising (hchain.imp fun x y hnot => ?_).pairwise
  exact h.key_le_of_not_less (Bool.not_inj hnot)

/-- What goes on falling is arranged by turning it round. -/
theorem reverse_arranged_of_isChain (h : Follows less key)
    (hchain : List.IsChain (flip less · · = true) xs) : Arranged less key xs xs.reverse := by
  let _ : Trans (fun x y => Passes less key y x) (fun x y => Passes less key y x)
    (fun x y => Passes less key y x) := ⟨fun hxy hyz => .le_trans hyz.1 hxy⟩
  have hpairs := (hchain.imp fun x y hless => h.passes hless).pairwise
  exact ⟨.reverse hpairs, List.pairwise_reverse.2 (hpairs.imp fun hpass => hpass.1)⟩

/-- **A natural run** is a beginning of the list, and not empty unless the list is. -/
theorem naturalRun_spec (h : Follows less key) (xs : List α) :
    ∃ part, xs = part ++ (naturalRun less xs).2 ∧ Arranged less key part (naturalRun less xs).1 ∧
      (xs ≠ [] → part ≠ []) := by
  fun_cases naturalRun less xs with
  | case1 x y rest hless run rest' heq =>
    obtain ⟨happend, hchain⟩ := streak_spec (flip less) x (y :: rest)
    rw [heq] at happend hchain
    exact ⟨x :: run, congrArg (x :: ·) happend, reverse_arranged_of_isChain h hchain,
      fun _ => List.cons_ne_nil x run⟩
  | case2 x y rest hless run rest' heq =>
    obtain ⟨happend, hchain⟩ := streak_spec (fun x y => !less y x) x (y :: rest)
    rw [heq] at happend hchain
    exact ⟨x :: run, congrArg (x :: ·) happend, arranged_of_isChain h hchain,
      fun _ => List.cons_ne_nil x run⟩
  | case3 xs hshort =>
    refine ⟨xs, (List.append_nil xs).symm, .of_rising (rising_of_length_le_one ?_), id⟩
    match xs, hshort with
    | [], _ => exact Nat.zero_le 1
    | [x], _ => exact le_rfl
    | x :: y :: rest, hshort => exact absurd rfl (hshort x y rest)

/-! ### The runs of a list -/

/-- What is cut off holds a beginning of the list that is not empty. -/
def Cuts (sure : Prop) (Holds : List α → ρ → Prop) (next : List α → Option (ρ × List α)) : Prop :=
  ∀ xs ≠ [], Yields sure (next xs) fun cut =>
    ∃ part ≠ [], xs = part ++ cut.2 ∧ Holds part cut.1

omit [LinearOrder β] in
/-- What is cut off by number is not empty either. -/
theorem take_ne_nil {k : ℕ} (hk : 0 < k) (hxs : xs ≠ []) : xs.take k ≠ [] := by
  rw [Ne, List.take_eq_nil_iff]
  exact fun hnil => hxs (hnil.resolve_left hk.ne')

omit [LinearOrder β] in
theorem cutRuns_yields {next : List α → Option (ρ × List α)} (h : Cuts sure Holds next) {n : ℕ}
    (hn : xs.length ≤ n) :
    Yields sure (cutRuns next n xs) fun runs =>
      ∃ parts, xs = parts.flatten ∧ List.Forall₂ Holds parts runs := by
  induction n generalizing xs with
  | zero =>
    obtain rfl := List.eq_nil_of_length_eq_zero (Nat.le_zero.1 hn)
    exact .some ⟨[], rfl, .nil⟩
  | succ n ih =>
    cases xs with
    | nil => exact .some ⟨[], rfl, .nil⟩
    | cons x xs =>
      refine (h _ (List.cons_ne_nil x xs)).bind fun ⟨run, rest⟩ ⟨part, hpart, happend, hrun⟩ => ?_
      have hpos := List.length_pos_of_ne_nil hpart
      have hlength : rest.length ≤ n := by
        rw [happend, List.length_append] at hn
        dsimp only at hn
        omega
      refine (ih hlength).bind fun runs ⟨parts, hparts, hruns⟩ => .some ?_
      exact ⟨part :: parts, by rw [happend, hparts]; rfl, .cons hrun hruns⟩

/-! ### Runs that are joined -/

/-- Two runs that are joined hold the parts one after the other. -/
def Joins (sure : Prop) (Holds : List α → ρ → Prop) (join : ρ → ρ → Option ρ) : Prop :=
  ∀ p q left right, Holds p left → Holds q right → Yields sure (join left right) (Holds (p ++ q))

/-- The runs that wait hold a list, the first of them its last part. -/
inductive Waits (Holds : List α → ρ → Prop) : List α → List (ρ × ℕ) → Prop
  | nil : Waits Holds [] []
  | cons {front part : List α} {run : ρ} {waiting : List (ρ × ℕ)} (depth : ℕ)
      (hfront : Waits Holds front waiting) (hpart : Holds part run) :
      Waits Holds (front ++ part) ((run, depth) :: waiting)

omit [LinearOrder β] in
/-- Joining with those that wait leaves the list as it is, and joins all of them where it is not
deep. -/
theorem collapse_yields {join : ρ → ρ → Option ρ} (h : Joins sure Holds join) {front part : List α}
    {waiting : List (ρ × ℕ)} (hwaits : Waits Holds front waiting) {run : ρ} (hrun : Holds part run)
    (depth : ℕ) :
    Yields sure (collapse join depth waiting run) fun left =>
      (depth = 0 → left.1 = []) ∧ ∃ front' part', front ++ part = front' ++ part' ∧
        Waits Holds front' left.1 ∧ Holds part' left.2 := by
  induction hwaits generalizing part run with
  | nil => exact .some ⟨fun _ => rfl, [], part, rfl, .nil, hrun⟩
  | @cons front last left waiting d hfront hlast ih =>
    rw [collapse]
    split_ifs with hdepth
    · refine (h _ _ _ _ hlast hrun).bind fun joined hjoined => ?_
      rw [List.append_assoc]
      exact ih hjoined
    · refine .some ⟨fun hzero => absurd (hzero ▸ Nat.zero_le d) hdepth, front ++ last, part, rfl,
        .cons d hfront hlast, hrun⟩

omit [LinearOrder β] in
/-- **All runs are joined to one**, which holds the list. -/
theorem joinRuns_yields {join : ρ → ρ → Option ρ} (h : Joins sure Holds join) (size : ρ → ℕ)
    (scale start : ℕ) {front part : List α} {parts : List (List α)} {waiting : List (ρ × ℕ)}
    (hwaits : Waits Holds front waiting) {last : ρ} (hlast : Holds part last) {runs : List ρ}
    (hruns : List.Forall₂ Holds parts runs) :
    Yields sure (joinRuns join size scale waiting start last runs)
      (Holds (front ++ part ++ parts.flatten)) := by
  induction hruns generalizing front part waiting start last with
  | nil =>
    refine (collapse_yields h hwaits hlast 0).map fun left => ?_
    rintro ⟨hnil, front', part', happend, hfront, hpart⟩
    rw [hnil rfl] at hfront
    cases hfront
    rw [List.flatten_nil, List.append_nil, happend]
    exact hpart
  | @cons part' next parts runs hnext hruns ih =>
    refine (collapse_yields h hwaits hlast _).bind fun left => ?_
    rintro ⟨-, front', last', happend, hfront, hlast'⟩
    rw [List.flatten_cons, ← List.append_assoc, happend]
    exact ih _ (.cons _ hfront hlast') hnext

/-- **Sorting by runs** sorts, if runs are cut off, joined and finished as they should. -/
theorem sortByRuns_sorts {next : List α → Option (ρ × List α)} {join : ρ → ρ → Option ρ}
    {finish : ρ → Option (List α)} (hcuts : Cuts (∀ k, Still less key k) Holds next)
    (hjoins : Joins (∀ k, Still less key k) Holds join) (size : ρ → ℕ)
    (hfinish : ∀ part run, Holds part run → Sorts less key part (finish run)) (xs : List α) :
    Sorts less key xs (sortByRuns next join size finish xs) := by
  refine (cutRuns_yields hcuts le_rfl).bind fun runs ⟨parts, hparts, hruns⟩ => ?_
  cases hruns with
  | nil =>
    rw [hparts]
    exact .some (.of_rising .nil)
  | @cons part run parts runs hrun hruns =>
    refine (joinRuns_yields hjoins size _ 0 .nil hrun hruns).bind fun last hlast => ?_
    rw [hparts]
    exact hfinish _ last hlast

/-! ### Runs in order -/

theorem eagerRun_cuts (h : Follows less key) (enough : ℕ) :
    Cuts (∀ k, Still less key k) (Arranged less key) (eagerRun less enough) := by
  intro xs hxs
  obtain ⟨part, happend, harranged, hpart⟩ := naturalRun_spec h xs
  rw [eagerRun]
  dsimp only
  split_ifs
  · exact .some ⟨part, hpart hxs, happend, harranged⟩
  · refine (sortShort_sorts h (xs.take 32)).map fun run hrun => ?_
    exact ⟨xs.take 32, take_ne_nil (by decide) hxs, (List.take_append_drop 32 xs).symm, hrun⟩

theorem merge_joins (h : Follows less key) :
    Joins (∀ k, Still less key k) (Arranged less key) fun xs ys => some (merge less xs ys) := by
  intro p q left right hleft hright
  exact .some (.of_rearranged (hleft.rearranged.append hright.rearranged)
    (merge_arranged h hleft.rising hright.rising))

/-- **Sorting by runs that are in order** arranges a list. -/
theorem sortEagerly_sorts (h : Follows less key) (xs : List α) :
    Sorts less key xs (sortEagerly less xs) :=
  sortByRuns_sorts (eagerRun_cuts h _) (merge_joins h) _ (fun _ _ hrun => .some hrun) xs

end OneShot.Sorting
