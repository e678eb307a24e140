import OneShot.Json.Writer
import OneShot.Text.Shown

/-!
# Values of an expected type

Readers for values of which the type is known beforehand. A value of another type is a fault that
tells what was found and what was expected. A scalar of the wrong type is read to its end first, so
that faults inside it come first; a list or an object of the wrong type is not looked into.

## Main definitions

* `Value.describe` — how a value of the wrong type is told
* `asText`, `asFloat`, `asCount` — what a value is, taken as one of an expected type
* `scalarReader` — a reader of scalars of an expected type
-/

namespace OneShot.Json

/-- What a value is, in the words of a fault. -/
def Value.describe : Value → String
  | .null => "null"
  | .bool value => "boolean `" ++ toString value ++ "`"
  | .number (.integer value) => "integer `" ++ toString value ++ "`"
  | .number (.float value) => "floating point `" ++ String.ofList (writeFloat value) ++ "`"
  | .string value => "string " ++ String.ofList (Text.shown value)
  | .array _ => "sequence"
  | .object _ => "map"

/-- The fault of a value of another type than the expected one. -/
def Value.unexpected (value : Value) (expected : String) : Cause :=
  .wrongType value.describe expected

/-- A value as a text. -/
def asText : Value → Except Cause String
  | .string value => .ok value
  | value => .error (value.unexpected "a string")

/-- A value as a floating point number; integers are rounded to the nearest one. -/
def asFloat : Value → Except Cause Binary64
  | .number value => .ok value.toBinary64
  | value => .error (value.unexpected "f64")

/-- A value as a floating point number that may be missing. -/
def asOptionalFloat : Value → Except Cause (Option Binary64)
  | .null => .ok none
  | value => (asFloat value).map some

/-- A value as a count: an integer that is not negative. -/
def asCount : Value → Except Cause Nat
  | .number (.integer value) =>
    if 0 ≤ value then .ok value.toNat
    else .error (.wrongValue (Value.number (.integer value)).describe "usize")
  | value => .error (value.unexpected "usize")

/-- Takes a value without brackets and what it is as one of an expected type. -/
def readTyped {α : Type} (expected : String) (type : Value → Except Cause α) (s : Bytes) :
    Except Fault (α × Bytes) :=
  match skipSpace s with
  | [] => .error (.ahead .endInValue [])
  | b :: rest =>
    if b = byte '[' then .error (.taken ((Value.array []).unexpected expected) (b :: rest))
    else if b = byte '{' then .error (.taken ((Value.object []).unexpected expected) (b :: rest))
    else (readScalar b rest).bind fun (value, rest) =>
      match type value with
      | .ok a => .ok (a, rest)
      | .error cause => .error (.taken cause rest)

theorem length_readTyped_lt {α : Type} {expected : String} {type : Value → Except Cause α}
    {s rest : Bytes} {a : α} (h : readTyped expected type s = .ok (a, rest)) :
    rest.length < s.length := by
  have hs := length_skipSpace_le s
  unfold readTyped at h
  split at h
  · simp at h
  · rename_i b r heq
    rw [heq] at hs
    simp only [List.length_cons] at hs
    split at h
    · simp at h
    · split at h
      · simp at h
      · obtain ⟨⟨value, t⟩, ht, h⟩ := bind_eq_ok.1 h
        have := length_readScalar_le ht
        dsimp only at h
        split at h
        · cases h; omega
        · simp at h

/-- Reads a scalar of an expected type. -/
def scalarReader {α : Type} (expected : String) (type : Value → Except Cause α) : Reader α :=
  ⟨readTyped expected type, length_readTyped_lt⟩

def textReader : Reader String := scalarReader "a string" asText

def floatReader : Reader Binary64 := scalarReader "f64" asFloat

def optionalFloatReader : Reader (Option Binary64) := scalarReader "f64" asOptionalFloat

def countReader : Reader Nat := scalarReader "usize" asCount

end OneShot.Json
