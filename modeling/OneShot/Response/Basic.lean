import OneShot.Number.Json
import OneShot.Summary
import OneShot.Text.Analysis

/-!
# Responses

What a request is answered with. A response is a JSON value: a string for a greeting, a number or
`null` for a calculation, and an object for a summary or an analysis, with the members in a fixed
order.

## Main definitions

* `Response` — the four kinds of answers
* `Response.toValue`, `Response.text` — a response as a JSON value and as a JSON text
-/

namespace OneShot

open Json

inductive Response where
  | greeting (text : String)
  | calculation (result : Option Binary64)
  | summary (contents : Summary)
  | analysis (contents : TextAnalysis)

/-- A value that may be missing; `null` stands for a missing one. -/
def Json.Value.ofOption {α : Type} (toValue : α → Value) : Option α → Value
  | none => .null
  | some a => toValue a

/-- A floating point number as a JSON value. -/
def Binary64.toValue (x : Binary64) : Value := .number (.float x)

/-- A count as a JSON value. -/
def Json.Value.ofNat (n : Nat) : Value := .number (.integer n)

/-- A summary as a JSON object. -/
def Summary.toValue (summary : Summary) : Value :=
  .object
    [("sum", summary.sum.toValue),
     ("average", summary.average.toValue),
     ("min", .ofOption Number.toValue summary.min),
     ("max", .ofOption Number.toValue summary.max),
     ("sorted", .array (summary.sorted.map Number.toValue))]

/-- An analysis as a JSON object. -/
def TextAnalysis.toValue (analysis : TextAnalysis) : Value :=
  .object
    [("character_count", .ofNat analysis.characterCount),
     ("word_count", .ofNat analysis.wordCount),
     ("unique_words", .ofNat analysis.uniqueWords),
     ("uppercase_count", .ofNat analysis.uppercaseCount),
     ("lowercase_count", .ofNat analysis.lowercaseCount)]

namespace Response

/-- A response as a JSON value. -/
def toValue : Response → Value
  | greeting text => .string text
  | calculation result => .ofOption Binary64.toValue result
  | summary contents => contents.toValue
  | analysis contents => contents.toValue

/-- A response as a JSON text. -/
def text (response : Response) : String := response.toValue.text

end Response

end OneShot
