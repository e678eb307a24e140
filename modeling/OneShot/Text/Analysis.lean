import OneShot.Text.Lowercase
import OneShot.Text.Uppercase
import OneShot.Text.Words
import Std.Data.HashSet

/-!
# Text statistics

Counts of characters, words and cased letters. A character is a Unicode scalar value, and two words
are the same when all their characters are.

## Main definitions

* `TextAnalysis` — the five counts
* `TextAnalysis.ofText` — the counts of a text
-/

namespace OneShot

/-- The counts of a text. -/
@[ext]
structure TextAnalysis where
  characterCount : Nat
  wordCount : Nat
  uniqueWords : Nat
  uppercaseCount : Nat
  lowercaseCount : Nat
deriving DecidableEq, Repr

/-- The counts of a text. A character that is uppercase is not counted as lowercase. -/
def TextAnalysis.ofText (text : String) : TextAnalysis :=
  let chars := text.toList
  let words := Text.words chars
  { characterCount := chars.length
    wordCount := words.length
    uniqueWords := (Std.HashSet.ofList (words.map String.ofList)).size
    uppercaseCount := chars.countP Text.isUppercase
    lowercaseCount := chars.countP fun c => !Text.isUppercase c && Text.isLowercase c }

end OneShot
