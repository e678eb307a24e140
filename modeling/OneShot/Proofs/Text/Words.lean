import Mathlib.Data.List.TakeWhile
import Mathlib.Data.Nat.Count
import Mathlib.Data.Set.Card
import Mathlib.Tactic.SplitIfs
import OneShot.Text.Words

/-!
# The words of a text

The words of a text are described in two ways that say nothing about how they are collected: by the
positions where a word starts, of which there are as many as words, and as the longest runs of
characters that are not blank.

The words are collected from the end of the text, and what a character adds to them depends on the
character before it: a character that is not blank begins a word exactly if the one before it is
blank. So the induction is on the words that begin behind a given character, `wordsBehind`, and the
text itself is treated as if it stood behind a blank.

## Main definitions

* `Text.wordsBehind` — the words that begin behind a character
* `Text.StartsWord` — the positions where a word starts
* `Text.IsRun` — the longest runs of characters that are not blank

## Main results

* `Text.length_words` — there are as many words as positions where a word starts
* `Text.mem_words_iff` — the words are the longest runs
* `Text.two_mul_length_words_le` — there are at most half as many words as characters, rounded up
-/

namespace OneShot.Text

/-! ### The words behind a character -/

/-- The words of a text that begin behind the character `before`. -/
def wordsBehind (before : Char) (s : List Char) : List (List Char) :=
  ((before :: s).foldr addChar ([], [])).2

/-- The run at the front of a text. -/
theorem fst_foldr_addChar (s : List Char) :
    (s.foldr addChar ([], [])).1 = s.takeWhile (!isBlank ·) := by
  induction s with
  | nil => rfl
  | cons c s ih =>
    rw [List.foldr_cons, addChar, List.takeWhile_cons]
    cases hc : isBlank c with
    | true => rfl
    | false => exact congrArg (c :: ·) ih

theorem isBlank_space : isBlank ' ' = true := by decide

theorem words_eq_wordsBehind {before : Char} (hbefore : isBlank before = true) (s : List Char) :
    words s = wordsBehind before s := by
  rw [wordsBehind, List.foldr_cons, addChar, if_pos hbefore]
  rfl

theorem wordsBehind_nil (before : Char) : wordsBehind before [] = [] := by
  rw [wordsBehind, List.foldr_cons, addChar]
  split_ifs <;> rfl

/-- A character that is not blank begins a word behind a blank one. -/
theorem wordsBehind_cons (before c : Char) (s : List Char) :
    wordsBehind before (c :: s) =
      if isBlank before = true ∧ isBlank c = false then
        (c :: s.takeWhile (!isBlank ·)) :: wordsBehind c s
      else wordsBehind c s := by
  have hrun := fst_foldr_addChar (c :: s)
  rw [List.takeWhile_cons] at hrun
  rw [wordsBehind, List.foldr_cons, addChar]
  cases hbefore : isBlank before with
  | false => rfl
  | true =>
    rw [if_pos rfl]
    cases hc : isBlank c with
    | true =>
      rw [hc] at hrun
      rw [if_neg (by rintro ⟨-, h⟩; cases h)]
      exact if_pos hrun
    | false =>
      rw [hc] at hrun
      rw [if_pos ⟨rfl, rfl⟩]
      dsimp only
      rw [hrun]
      exact if_neg (List.cons_ne_nil _ _)

/-- A word and the blank behind it are at least two characters. -/
theorem two_mul_length_wordsBehind_le (before : Char) (s : List Char) :
    2 * (wordsBehind before s).length ≤ s.length + (isBlank before).toNat := by
  induction s generalizing before with
  | nil => rw [wordsBehind_nil]; exact Nat.zero_le _
  | cons c s ih =>
    have hc := ih c
    rw [wordsBehind_cons]
    split_ifs with hstart
    · rw [hstart.2, Bool.toNat_false] at hc
      rw [hstart.1, Bool.toNat_true, List.length_cons, List.length_cons]
      omega
    · have hle := Bool.toNat_le (isBlank c)
      rw [List.length_cons]
      omega

theorem two_mul_length_words_le (s : List Char) : 2 * (words s).length ≤ s.length + 1 := by
  have hle := two_mul_length_wordsBehind_le ' ' s
  rwa [isBlank_space, ← words_eq_wordsBehind isBlank_space] at hle

/-! ### The positions where a word starts -/

/-- A word starts at a character that is not blank and is the first one or follows a blank one. -/
def StartsWord (s : List Char) (i : Nat) : Prop :=
  (∃ c ∈ s[i]?, isBlank c = false) ∧ (i = 0 ∨ ∃ c ∈ s[i - 1]?, isBlank c = true)

instance (s : List Char) : DecidablePred (StartsWord s) :=
  fun _ => inferInstanceAs (Decidable (_ ∧ _))

/-- A text starts its words where it does behind a blank. -/
theorem startsWord_cons_succ {before : Char} {s : List Char} {i : Nat} :
    StartsWord (before :: s) (i + 1) ↔
      (∃ c ∈ s[i]?, isBlank c = false) ∧ ∃ c ∈ (before :: s)[i]?, isBlank c = true := by
  rw [StartsWord, List.getElem?_cons_succ, Nat.add_sub_cancel]
  exact and_congr_right fun _ => or_iff_right (Nat.succ_ne_zero i)

theorem startsWord_iff_cons {before : Char} (hbefore : isBlank before = true) {s : List Char}
    {i : Nat} : StartsWord s i ↔ StartsWord (before :: s) (i + 1) := by
  rw [startsWord_cons_succ, StartsWord]
  refine and_congr_right fun _ => ?_
  cases i with
  | zero => exact iff_of_true (.inl rfl) ⟨before, rfl, hbefore⟩
  | succ i =>
    rw [List.getElem?_cons_succ, Nat.add_sub_cancel]
    exact or_iff_right (Nat.succ_ne_zero i)

theorem length_wordsBehind (before : Char) (s : List Char) :
    (wordsBehind before s).length =
      Nat.count (fun i => StartsWord (before :: s) (i + 1)) s.length := by
  induction s generalizing before with
  | nil => rw [wordsBehind_nil]; rfl
  | cons c s ih =>
    have hrest : ∀ i, StartsWord (before :: c :: s) (i + 1 + 1) ↔ StartsWord (c :: s) (i + 1) :=
      fun i => by rw [startsWord_cons_succ, startsWord_cons_succ]; rfl
    have hfirst : StartsWord (before :: c :: s) (0 + 1) ↔
        isBlank before = true ∧ isBlank c = false := by
      rw [startsWord_cons_succ]
      simp [and_comm]
    rw [wordsBehind_cons, List.length_cons, Nat.count_succ']
    simp only [hrest, hfirst, ← ih c]
    split_ifs <;> rfl

/-- **There are as many words as positions where a word starts.** -/
theorem length_words (s : List Char) : (words s).length = Nat.count (StartsWord s) s.length := by
  rw [words_eq_wordsBehind isBlank_space, length_wordsBehind]
  simp only [← startsWord_iff_cons isBlank_space]

/-! ### The longest runs -/

/-- `run` stands in a text as a run that cannot be made longer: it is not empty, no character of it
is blank, and on both sides it has a blank or an end of the text. -/
structure RunBetween (front run rest : List Char) : Prop where
  ne_nil : run ≠ []
  solid : ∀ c ∈ run, isBlank c = false
  left : ∀ c ∈ front.getLast?, isBlank c = true
  right : ∀ c ∈ rest.head?, isBlank c = true

/-- The longest runs of characters that are not blank. -/
def IsRun (s run : List Char) : Prop :=
  ∃ front rest, s = front ++ run ++ rest ∧ RunBetween front run rest

/-- What is in front of a run may be taken to stand behind a blank. -/
theorem runBetween_cons_iff {before : Char} (hbefore : isBlank before = true)
    {front run rest : List Char} :
    RunBetween (before :: front) run rest ↔ RunBetween front run rest := by
  have hleft : (∀ c ∈ (before :: front).getLast?, isBlank c = true) ↔
      ∀ c ∈ front.getLast?, isBlank c = true := by
    cases front with
    | nil => simp [hbefore]
    | cons d front => rw [List.getLast?_cons_cons]
  exact ⟨fun h => ⟨h.ne_nil, h.solid, hleft.1 h.left, h.right⟩,
    fun h => ⟨h.ne_nil, h.solid, hleft.2 h.left, h.right⟩⟩

theorem RunBetween.eq_takeWhile {front run rest : List Char} (h : RunBetween front run rest) :
    run = (run ++ rest).takeWhile (!isBlank ·) := by
  have hstop : rest.takeWhile (!isBlank ·) = [] := by
    cases rest with
    | nil => rfl
    | cons d rest =>
      refine List.takeWhile_cons_of_neg ?_
      rw [h.right d rfl]
      exact Bool.noConfusion
  rw [List.takeWhile_append_of_pos (by simpa using h.solid), hstop, List.append_nil]

theorem runBetween_takeWhile {before c : Char} (hbefore : isBlank before = true)
    (hc : isBlank c = false) (s : List Char) :
    RunBetween [before] (c :: s.takeWhile (!isBlank ·)) (s.dropWhile (!isBlank ·)) where
  ne_nil := List.cons_ne_nil _ _
  solid := by
    rintro d (_ | ⟨_, hd⟩)
    · exact hc
    · have hsolid := List.mem_takeWhile_imp hd
      rwa [Bool.not_eq_true'] at hsolid
  left := by
    rintro d ⟨⟩
    exact hbefore
  right := by
    intro d hd
    have hnot := List.head?_dropWhile_not (!isBlank ·) s
    rw [hd] at hnot
    simpa using hnot

/-- The first run behind a character begins with the text or later. -/
theorem exists_run_cons_iff {before c : Char} {s run : List Char} :
    (∃ front rest, c :: s = front ++ run ++ rest ∧ RunBetween (before :: front) run rest) ↔
      ((isBlank before = true ∧ isBlank c = false) ∧ run = c :: s.takeWhile (!isBlank ·)) ∨
        ∃ front rest, s = front ++ run ++ rest ∧ RunBetween (c :: front) run rest := by
  constructor
  · rintro ⟨front, rest, htext, hrun⟩
    cases front with
    | nil =>
      obtain ⟨d, tail, rfl⟩ := List.exists_cons_of_ne_nil hrun.ne_nil
      have heq := hrun.eq_takeWhile
      rw [List.nil_append, List.cons_append] at htext
      cases htext
      have hsolid := hrun.solid c List.mem_cons_self
      refine .inl ⟨⟨hrun.left before rfl, hsolid⟩, ?_⟩
      rw [List.cons_append, List.takeWhile_cons_of_pos (by rw [hsolid]; rfl)] at heq
      exact heq
    | cons d front =>
      cases htext
      refine .inr ⟨front, rest, rfl, hrun.ne_nil, hrun.solid, ?_, hrun.right⟩
      have hleft := hrun.left
      rwa [List.getLast?_cons_cons] at hleft
  · rintro (⟨⟨hbefore, hc⟩, rfl⟩ | ⟨front, rest, rfl, hrun⟩)
    · refine ⟨[], s.dropWhile (!isBlank ·), ?_, runBetween_takeWhile hbefore hc s⟩
      rw [List.nil_append, List.cons_append, List.takeWhile_append_dropWhile]
    · refine ⟨c :: front, rest, rfl, hrun.ne_nil, hrun.solid, ?_, hrun.right⟩
      rw [List.getLast?_cons_cons]
      exact hrun.left

theorem mem_wordsBehind_iff {before : Char} {s run : List Char} :
    run ∈ wordsBehind before s ↔
      ∃ front rest, s = front ++ run ++ rest ∧ RunBetween (before :: front) run rest := by
  induction s generalizing before with
  | nil =>
    rw [wordsBehind_nil]
    refine iff_of_false List.not_mem_nil ?_
    rintro ⟨front, rest, htext, hrun⟩
    exact hrun.ne_nil (List.append_eq_nil_iff.1 (List.append_eq_nil_iff.1 htext.symm).1).2
  | cons c s ih =>
    rw [exists_run_cons_iff, ← ih, wordsBehind_cons]
    split_ifs with hstart
    · rw [List.mem_cons, and_iff_right hstart]
    · rw [or_iff_right fun h => hstart h.1]

/-- **The words of a text are its longest runs of characters that are not blank.** -/
theorem mem_words_iff {s run : List Char} : run ∈ words s ↔ IsRun s run := by
  rw [words_eq_wordsBehind isBlank_space, mem_wordsBehind_iff, IsRun]
  simp only [runBetween_cons_iff isBlank_space]

end OneShot.Text
