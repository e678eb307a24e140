import OneShot.Proofs.Text.CodeRange
import OneShot.Proofs.Text.Words
import OneShot.Text.Analysis

/-!
# Counts of a text

The counts of a text are those of its specification: its characters, the positions where a word
starts, its different longest runs of characters that are not blank, and its characters of either
case. No character is of both, so none is lost by looking at the uppercase characters first.

The counts are ordered. There are at most as many different words as words, two words take at least
three characters, and the characters of either case are at most all.

## Main results

* `TextAnalysis.ofText_le` — the counts of a text in order
* `TextAnalysis.ofText_counts` — the counts of a text are those of its specification
-/

namespace OneShot

/-- The size of a set made from a list is the number of different elements of the list. -/
theorem card_toFinset_eq_size (texts : List String) :
    texts.toFinset.card = (Std.HashSet.ofList texts).size := by
  have hmem : texts.toFinset = (Std.HashSet.ofList texts).toList.toFinset := by
    ext text
    rw [List.mem_toFinset, List.mem_toFinset, Std.HashSet.mem_toList, Std.HashSet.mem_ofList,
      List.contains_iff_mem]
  have hnodup : (Std.HashSet.ofList texts).toList.Nodup :=
    Std.HashSet.distinct_toList.imp beq_eq_false_iff_ne.1
  rw [hmem, List.toFinset_card_of_nodup hnodup, Std.HashSet.length_toList]

namespace TextAnalysis

/-- **The counts of a text are in order.** -/
theorem ofText_le (text : String) :
    (ofText text).uniqueWords ≤ (ofText text).wordCount ∧
      2 * (ofText text).wordCount ≤ (ofText text).characterCount + 1 ∧
      (ofText text).uppercaseCount + (ofText text).lowercaseCount ≤
        (ofText text).characterCount := by
  have hunique : (ofText text).uniqueWords ≤ ((Text.words text.toList).map String.ofList).length :=
    Std.HashSet.size_ofList_le
  rw [List.length_map] at hunique
  refine ⟨hunique, Text.two_mul_length_words_le _, ?_⟩
  -- A character is counted as lowercase only if it is not uppercase.
  have hlower : (ofText text).lowercaseCount ≤
      text.toList.countP fun c => decide ¬Text.isUppercase c = true := by
    refine List.countP_mono_left fun c _ hc => ?_
    rw [Bool.and_eq_true, Bool.not_eq_true'] at hc
    rw [decide_eq_true_iff, hc.1]
    exact Bool.false_ne_true
  calc (ofText text).uppercaseCount + (ofText text).lowercaseCount
      ≤ _ := Nat.add_le_add_left hlower _
    _ = (ofText text).characterCount := (List.length_eq_countP_add_countP _).symm

/-- A lowercase character is counted as one: it is not uppercase. -/
theorem lowercaseCount_ofText (text : String) :
    (ofText text).lowercaseCount = text.toList.countP Text.isLowercase := by
  refine List.countP_congr fun c _ => ?_
  rw [Bool.and_eq_true, and_iff_right_of_imp]
  intro hlower
  rw [Bool.not_eq_true', Bool.eq_false_iff]
  intro hupper
  rw [Text.isLowercase_of_isUppercase hupper] at hlower
  exact Bool.noConfusion hlower

/-- As many different words are counted as there are different runs. -/
theorem encard_isRun (text : String) :
    {run | Text.IsRun text.toList run}.encard = (ofText text).uniqueWords := by
  have hset : {run | Text.IsRun text.toList run} = ((Text.words text.toList).toFinset : Set _) := by
    ext run
    rw [Set.mem_ofPred_eq, List.coe_toFinset, Set.mem_ofPred_eq, Text.mem_words_iff]
  have hcard : (Text.words text.toList).toFinset.card = (ofText text).uniqueWords :=
    calc (Text.words text.toList).toFinset.card
        = ((Text.words text.toList).toFinset.image String.ofList).card :=
          (Finset.card_image_of_injective _ fun _ _ => String.ofList_inj.1).symm
      _ = ((Text.words text.toList).map String.ofList).toFinset.card :=
          congrArg Finset.card (Multiset.toFinset_map String.ofList ↑(Text.words text.toList)).symm
      _ = (ofText text).uniqueWords := card_toFinset_eq_size _
  rw [hset, Set.encard_coe_eq_coe_finsetCard, hcard]

/-- **The counts of a text are those of its specification.** -/
theorem ofText_counts (text : String) :
    (ofText text).characterCount = text.toList.length ∧
      (ofText text).wordCount = Nat.count (Text.StartsWord text.toList) text.toList.length ∧
      (ofText text).uniqueWords = {run | Text.IsRun text.toList run}.encard ∧
      (ofText text).uppercaseCount = text.toList.countP Text.isUppercase ∧
      (ofText text).lowercaseCount = text.toList.countP Text.isLowercase ∧
      (ofText text).uniqueWords ≤ (ofText text).wordCount ∧
      2 * (ofText text).wordCount ≤ (ofText text).characterCount + 1 ∧
      (ofText text).uppercaseCount + (ofText text).lowercaseCount ≤
        (ofText text).characterCount :=
  ⟨rfl, Text.length_words _, (encard_isRun text).symm, rfl, lowercaseCount_ofText text,
    ofText_le text⟩

end TextAnalysis

end OneShot
