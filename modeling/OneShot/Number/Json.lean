import OneShot.Json.Record
import OneShot.Number.Basic

/-!
# Numbers in JSON

A JSON number is an integer element if it is written as an integer and fits into 64 bits with a
sign; every other one is a floating point number. Anything but a number is refused, after it has
been read like any other value.

## Main definitions

* `Number.ofNumeral`, `Number.toValue` — from and to JSON numbers
* `Number.reader` — a number of either form
* `Number.listReader` — a list of numbers
-/

namespace OneShot

open Json

namespace Number

/-- The number that a JSON number stands for. -/
def ofNumeral : Numeral → Number
  | .integer i => if InRange i then .int (.ofInt i) else .float (.ofInt i)
  | .float x => .float x

/-- A number as a JSON number. -/
def toValue : Number → Value
  | .int value => .number (.integer value.toInt)
  | .float x => .number (.float x)

/-- A value as a number. -/
def ofValue : Value → Except Cause Number
  | .number value => .ok (ofNumeral value)
  | _ => .error .notNumber

/-- A value as a list of numbers. -/
def listOfValue : Value → Except Cause (List Number)
  | .array items => items.mapM ofValue
  | value => .error (value.unexpected "a sequence")

/-- Takes any value and what it is as a number. -/
def read (depth : Nat) (s : Bytes) : Except Fault (Number × Bytes) :=
  ((Value.reader depth).run s).bind fun (value, rest) =>
    match ofValue value with
    | .ok number => .ok (number, rest)
    | .error cause => .error (.float cause rest)

theorem length_read_lt {depth : Nat} {s rest : Bytes} {number : Number}
    (h : read depth s = .ok (number, rest)) : rest.length < s.length := by
  obtain ⟨⟨value, t⟩, ht, h⟩ := bind_eq_ok.1 h
  have := (Value.reader depth).shortens ht
  dsimp only at h
  split at h
  · cases h; exact this
  · simp at h

/-- Reads a number, in place of which a value of the given depth may stand. -/
def reader (depth : Nat) : Reader Number := ⟨read depth, length_read_lt⟩

/-- Takes a list of numbers, in place of which values of the given depth may stand. -/
def readList (depth : Nat) (s : Bytes) : Except Fault (List Number × Bytes) :=
  match skipSpace s with
  | [] => .error (.ahead .endInValue [])
  | b :: rest =>
    if b = byte '[' then
      (items .square (reader depth) rest).mapError (Fault.settle .square rest)
    else readTyped "a sequence" listOfValue (b :: rest)

theorem length_readList_lt {depth : Nat} {s rest : Bytes} {numbers : List Number}
    (h : readList depth s = .ok (numbers, rest)) : rest.length < s.length := by
  have hs := length_skipSpace_le s
  unfold readList at h
  split at h
  · simp at h
  · rename_i b r heq
    rw [heq] at hs
    simp only [List.length_cons] at hs
    split at h
    · have := length_items_le (mapError_eq_ok.1 h)
      omega
    · have := length_readTyped_lt h
      simp only [List.length_cons] at this
      omega

/-- Reads a list of numbers. -/
def listReader (depth : Nat) : Reader (List Number) := ⟨readList depth, length_readList_lt⟩

/-- The number that a text writes. -/
def parse (s : Bytes) : Except Fault Number := document (reader maxDepth) s

end Number

end OneShot
