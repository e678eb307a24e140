import OneShot.Proofs.Text.Analysis

/-!
# Texts joined by a blank

Two texts with a blank character between them have the words of both and no other: a run ends at the
blank, whatever the first text ends with and the second one begins with. So the counts of words and
of cased characters add up, for a blank is neither uppercase nor lowercase. The different words are
those of either text, a union of two sets, which may overlap.

Words are collected from the end of a text. What the induction keeps is that the words that have
been collected before stay behind those that come.

## Main definitions

* `TextAnalysis.differentWords` — the set of the words of a text

## Main results

* `Text.words_append_blank` — the words of two texts with a blank between them
* `TextAnalysis.uniqueWords_joined` — the different words are those of either text
* `TextAnalysis.ofText_joined` — all counts of two texts with a blank between them
-/

namespace OneShot

namespace Text

/-! ### Words -/

theorem addRun_append (run : List Char) (words words' : List (List Char)) :
    addRun run (words ++ words') = addRun run words ++ words' := by
  rw [addRun, addRun]
  split_ifs <;> rfl

/-- Words collected before stay behind the others. -/
theorem foldr_addChar_words (s : List Char) (behind : List (List Char)) :
    s.foldr addChar ([], behind) =
      ((s.foldr addChar ([], [])).1, (s.foldr addChar ([], [])).2 ++ behind) := by
  induction s with
  | nil => rfl
  | cons c s ih =>
    rw [List.foldr_cons, List.foldr_cons, ih, addChar, addChar]
    split_ifs
    · rw [addRun_append]
    · rfl

/-- **A blank separates words**, and has no other part in them. -/
theorem words_append_blank {w : Char} (hw : isBlank w = true) (s t : List Char) :
    words (s ++ w :: t) = words s ++ words t := by
  have hblank : (w :: t).foldr addChar ([], []) = ([], words t) := by
    rw [List.foldr_cons, addChar, if_pos hw]
    rfl
  rw [words, words, List.foldr_append, hblank, foldr_addChar_words]
  exact addRun_append _ _ _

/-! ### Cases -/

theorem isUppercase_of_isBlank {c : Char} (hc : isBlank c = true) : isUppercase c = false := by
  have happart : (blankRanges.all fun r => uppercaseRanges.all r.apart) = true := by
    decide +kernel
  exact CodeRange.covers_eq_false happart hc

theorem isLowercase_of_isBlank {c : Char} (hc : isBlank c = true) : isLowercase c = false := by
  have happart : (blankRanges.all fun r => lowercaseRanges.all r.apart) = true := by
    decide +kernel
  exact CodeRange.covers_eq_false happart hc

/-- A character without a property does not count. -/
theorem countP_append_cons {p : Char → Bool} {w : Char} (hw : p w = false) (s t : List Char) :
    (s ++ w :: t).countP p = s.countP p + t.countP p := by
  simp [List.countP_append, hw]

end Text

namespace TextAnalysis

/-! ### Counts -/

theorem toList_joined (s : String) (w : Char) (t : String) :
    (s.push w ++ t).toList = s.toList ++ w :: t.toList := by
  simp

/-- The different words of a text. -/
def differentWords (text : String) : Finset String :=
  ((Text.words text.toList).map String.ofList).toFinset

theorem uniqueWords_eq_card (text : String) :
    (ofText text).uniqueWords = (differentWords text).card :=
  (card_toFinset_eq_size _).symm

section Joined

variable {w : Char} (hw : Text.isBlank w = true) (s t : String)

include hw

theorem wordCount_joined :
    (ofText (s.push w ++ t)).wordCount = (ofText s).wordCount + (ofText t).wordCount := by
  change (Text.words (s.push w ++ t).toList).length = _
  rw [toList_joined, Text.words_append_blank hw, List.length_append]
  rfl

theorem uppercaseCount_joined :
    (ofText (s.push w ++ t)).uppercaseCount =
      (ofText s).uppercaseCount + (ofText t).uppercaseCount := by
  change (s.push w ++ t).toList.countP Text.isUppercase = _
  rw [toList_joined, Text.countP_append_cons (Text.isUppercase_of_isBlank hw)]
  rfl

theorem lowercaseCount_joined :
    (ofText (s.push w ++ t)).lowercaseCount =
      (ofText s).lowercaseCount + (ofText t).lowercaseCount := by
  simp only [lowercaseCount_ofText, toList_joined]
  exact Text.countP_append_cons (Text.isLowercase_of_isBlank hw) _ _

theorem differentWords_joined :
    differentWords (s.push w ++ t) = differentWords s ∪ differentWords t := by
  rw [differentWords, toList_joined, Text.words_append_blank hw, List.map_append,
    List.toFinset_append]
  rfl

/-- **The different words are those of either text.** -/
theorem uniqueWords_joined :
    (ofText (s.push w ++ t)).uniqueWords = (differentWords s ∪ differentWords t).card := by
  rw [uniqueWords_eq_card, differentWords_joined hw]

omit hw in
theorem characterCount_joined (w : Char) :
    (ofText (s.push w ++ t)).characterCount =
      (ofText s).characterCount + (ofText t).characterCount + 1 := by
  change (s.push w ++ t).toList.length = s.toList.length + t.toList.length + 1
  rw [toList_joined, List.length_append, List.length_cons, Nat.add_assoc]

/-- **Two texts with a blank between them.** The words and the cased characters are those of both,
there is one character more, and a word that is in both is counted once among the different words.
So it does not matter which text comes first. -/
theorem ofText_joined :
    (ofText (s.push w ++ t)).wordCount = (ofText s).wordCount + (ofText t).wordCount ∧
      (ofText (s.push w ++ t)).uppercaseCount =
        (ofText s).uppercaseCount + (ofText t).uppercaseCount ∧
      (ofText (s.push w ++ t)).lowercaseCount =
        (ofText s).lowercaseCount + (ofText t).lowercaseCount ∧
      (ofText (s.push w ++ t)).characterCount =
        (ofText s).characterCount + (ofText t).characterCount + 1 ∧
      max (ofText s).uniqueWords (ofText t).uniqueWords ≤ (ofText (s.push w ++ t)).uniqueWords ∧
      (ofText (s.push w ++ t)).uniqueWords ≤ (ofText s).uniqueWords + (ofText t).uniqueWords ∧
      ofText (s.push w ++ t) = ofText (t.push w ++ s) := by
  refine ⟨wordCount_joined hw s t, uppercaseCount_joined hw s t, lowercaseCount_joined hw s t,
    characterCount_joined s t w, ?_, ?_, ?_⟩
  · rw [uniqueWords_joined hw, uniqueWords_eq_card, uniqueWords_eq_card]
    exact max_le (Finset.card_le_card Finset.subset_union_left)
      (Finset.card_le_card Finset.subset_union_right)
  · rw [uniqueWords_joined hw, uniqueWords_eq_card, uniqueWords_eq_card]
    exact Finset.card_union_le _ _
  · ext
    · rw [characterCount_joined, characterCount_joined, Nat.add_comm (ofText s).characterCount]
    · rw [wordCount_joined hw, wordCount_joined hw, Nat.add_comm]
    · rw [uniqueWords_joined hw, uniqueWords_joined hw, Finset.union_comm]
    · rw [uppercaseCount_joined hw, uppercaseCount_joined hw, Nat.add_comm]
    · rw [lowercaseCount_joined hw, lowercaseCount_joined hw, Nat.add_comm]

end Joined

/-- An em space between texts that have a word in common and blanks at their ends: of the three
words at least two differ. -/
theorem ofText_joined_em_space :
    Text.isBlank '\u2003' = true ∧
      (ofText ("Été über ".push '\u2003' ++ " über")).wordCount = 3 ∧
      (ofText ("Été über ".push '\u2003' ++ " über")).characterCount = 15 ∧
      2 ≤ (ofText ("Été über ".push '\u2003' ++ " über")).uniqueWords ∧
      ofText ("Été über ".push '\u2003' ++ " über") =
        ofText (" über".push '\u2003' ++ "Été über ") := by
  have hblank : Text.isBlank '\u2003' = true := by decide
  obtain ⟨hwords, -, -, hchars, hleast, -, hcomm⟩ := ofText_joined hblank "Été über " " über"
  refine ⟨hblank, hwords.trans (by decide +kernel), hchars.trans (by decide +kernel), ?_, hcomm⟩
  refine Nat.le_trans ?_ hleast
  rw [uniqueWords_eq_card, uniqueWords_eq_card]
  decide +kernel

end TextAnalysis

end OneShot
