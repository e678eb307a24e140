import OneShot.Number.Json
import OneShot.Number.Text

/-!
# Number lists as texts

The list argument: a JSON array all of whose elements are numbers. A text that is refused is told
why, and the reasons come in this order: it is not JSON, wherever the fault stands; it is not an
array; it has an element that is no number, of which the first one is named.

## Main definitions

* `NumberList.parse` — the numbers of a text
* `NumberList.write` — the text of a list of numbers
* `NumberList.Refusal` — why a text is refused
-/

namespace OneShot

open Json

namespace NumberList

/-- Why a text is no list of numbers. -/
inductive Refusal where
  /-- The input, which is not JSON, and its fault. -/
  | notJson (input : Bytes) (fault : Fault)
  | notArray (found : String)
  | notNumber (index : Nat) (found : String)

/-- What kind of value a value is. -/
def kind : Value → String
  | .null => "null"
  | .bool _ => "a boolean"
  | .number _ => "a number"
  | .string _ => "a string"
  | .array _ => "an array"
  | .object _ => "an object"

/-- The numbers that the items of a list are, the first of which has the given index. -/
def ofItems (index : Nat) : List Value → Except Refusal (List Number)
  | [] => .ok []
  | .number value :: rest => (ofItems (index + 1) rest).map (Number.ofNumeral value :: ·)
  | value :: _ => .error (.notNumber index (kind value))

/-- The numbers of a value. -/
def ofValue : Value → Except Refusal (List Number)
  | .array items => ofItems 0 items
  | value => .error (.notArray (kind value))

/-- The numbers of a text. -/
def parse (text : String) : Except Refusal (List Number) :=
  let input := Utf8.encode text
  ((Value.parse input).mapError (.notJson input)).bind ofValue

/-- A list of numbers as a text. -/
def write (numbers : List Number) : String :=
  String.ofList
    ('[' :: (writeSeries (numbers.map fun number => number.text.toList) ++ [']']))

/-- How it is told that a list is refused for the given reason. -/
def describe (reason : String) : String := "Invalid number list: " ++ reason

/-- The reason why a text is refused. -/
def Refusal.reason : Refusal → String
  | notJson input fault => "not valid JSON: " ++ fault.message input
  | notArray found => "expected a JSON array, found " ++ found
  | notNumber index found =>
    "element " ++ toString index ++ " is " ++ found ++ ", expected a number"

/-- How it is told that a text is refused. -/
def Refusal.message (refusal : Refusal) : String := describe refusal.reason

end NumberList

end OneShot
