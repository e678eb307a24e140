import OneShot.Response.Basic

/-!
# Reading responses

How the answer to a request is read from the output of a helper, which need not be the one that is
described here. What is read depends on the request: each kind of response has a reader of its own.

In a summary the extremes may be `null` or left out. The counts of an analysis have to be integers
that are not negative.

## Main definitions

* `Summary.schema`, `TextAnalysis.schema` — the record formats
* `Summary.parse`, `TextAnalysis.parse`, `Response.parseGreeting`, `Response.parseCalculation` —
  the four kinds of responses
-/

namespace OneShot

open Json

namespace Summary

/-- The fields of a summary. -/
inductive Field where
  | sum
  | average
  | min
  | max
  | sorted
deriving DecidableEq

namespace Field

def name : Field → String
  | sum => "sum"
  | average => "average"
  | min => "min"
  | max => "max"
  | sorted => "sorted"

/-- What is read for a field; a field for an extreme may hold nothing. -/
abbrev Content : Field → Type
  | sum | average => Number
  | min | max => Option Number
  | sorted => List Number

end Field

/-- A value as a number that may be missing. -/
def optionalNumber : Value → Except Cause (Option Number)
  | .null => .ok none
  | value => (Number.ofValue value).map some

/-- Takes a number that may be `null`. -/
def readOptional (depth : Nat) (s : Bytes) : Except Fault (Option Number × Bytes) :=
  ((Value.reader depth).run s).bind fun (value, rest) =>
    match optionalNumber value with
    | .ok number => .ok (number, rest)
    | .error cause => .error (.float cause rest)

theorem length_readOptional_lt {depth : Nat} {s rest : Bytes} {number : Option Number}
    (h : readOptional depth s = .ok (number, rest)) : rest.length < s.length := by
  obtain ⟨⟨value, t⟩, ht, h⟩ := bind_eq_ok.1 h
  have := (Value.reader depth).shortens ht
  dsimp only at h
  split at h
  · cases h; exact this
  · simp at h

/-- The reader for each field. The record itself is one bracket deep. -/
def Field.reader : (f : Field) → Reader f.Content
  | sum | average => Number.reader (maxDepth - 1)
  | min | max => ⟨readOptional (maxDepth - 1), length_readOptional_lt⟩
  | sorted => Number.listReader (maxDepth - 2)

/-- A summary as a record. -/
def schema : Schema Summary where
  Field := Field
  fields := [.sum, .average, .min, .max, .sorted]
  name := Field.name
  Content := Field.Content
  content := Field.reader
  title := "struct ListSummary"
  build draft := do
    let sum ← require "sum" (draft .sum)
    let average ← require "average" (draft .average)
    let sorted ← require "sorted" (draft .sorted)
    .ok ⟨sum, average, (draft .min).getD none, (draft .max).getD none, sorted⟩

/-- The summary that an output writes. -/
def parse (output : Bytes) : Except Fault Summary := document schema.reader output

end Summary

namespace TextAnalysis

/-- The fields of an analysis. -/
inductive Field where
  | characterCount
  | wordCount
  | uniqueWords
  | uppercaseCount
  | lowercaseCount
deriving DecidableEq

def Field.name : Field → String
  | characterCount => "character_count"
  | wordCount => "word_count"
  | uniqueWords => "unique_words"
  | uppercaseCount => "uppercase_count"
  | lowercaseCount => "lowercase_count"

/-- An analysis as a record. -/
def schema : Schema TextAnalysis where
  Field := Field
  fields := [.characterCount, .wordCount, .uniqueWords, .uppercaseCount, .lowercaseCount]
  name := Field.name
  Content _ := Nat
  content _ := countReader
  title := "struct TextAnalysis"
  build draft := do
    let characterCount ← require "character_count" (draft .characterCount)
    let wordCount ← require "word_count" (draft .wordCount)
    let uniqueWords ← require "unique_words" (draft .uniqueWords)
    let uppercaseCount ← require "uppercase_count" (draft .uppercaseCount)
    let lowercaseCount ← require "lowercase_count" (draft .lowercaseCount)
    .ok ⟨characterCount, wordCount, uniqueWords, uppercaseCount, lowercaseCount⟩

/-- The analysis that an output writes. -/
def parse (output : Bytes) : Except Fault TextAnalysis := document schema.reader output

end TextAnalysis

namespace Response

/-- The greeting that an output writes. -/
def parseGreeting (output : Bytes) : Except Fault String := document textReader output

/-- The result of a calculation that an output writes. -/
def parseCalculation (output : Bytes) : Except Fault (Option Binary64) :=
  document optionalFloatReader output

end Response

end OneShot
