import OneShot.Bytes

/-!
# Faults of JSON texts

What can be wrong with a JSON text, and where. A fault names its cause and the number of bytes that
are left behind its place; the line and the column are worked out when the fault is shown.

There are two habits of placing a fault. Where the reader has taken a byte before it finds out, the
place is behind that byte (`Fault.taken`); where it only looks ahead, the place is behind the byte
it looks at, or at the end of the input (`Fault.ahead`).

A fault in the contents of a record is found between the bytes of the record, and is placed only
where the reader leaves the record. Until then it is `floating`.

## Main definitions

* `Cause`, `Cause.kind`, `Cause.text` — what is wrong, of which kind that is, and how it is told
* `Fault` — a cause and its place
* `Fault.message` — how a fault of an input is told
-/

namespace OneShot.Json

/-- The kinds of faults. -/
inductive Kind where
  /-- The text ends too early. -/
  | truncated
  /-- The text is not JSON. -/
  | malformed
  /-- The text is JSON, but not of the form that is asked for. -/
  | mismatched
deriving DecidableEq, Repr

/-- What is wrong with a text. -/
inductive Cause where
  | endInValue
  | endInList
  | endInObject
  | endInString
  | expectedValue
  | expectedWord
  | expectedColon
  | expectedCommaOrBracket
  | expectedCommaOrBrace
  | trailingComma
  | trailingCharacters
  | keyNotString
  | tooDeep
  | invalidNumber
  | numberOutOfRange
  | invalidEscape
  | controlCharacter
  | loneSurrogate
  | endOfEscape
  | invalidUtf8
  /-- A value of another type than the expected one. -/
  | wrongType (found expected : String)
  /-- A value of the expected type that is out of its range. -/
  | wrongValue (found expected : String)
  /-- A record written as a list with too few elements. -/
  | wrongLength (count : Nat) (expected : String)
  | missingField (name : String)
  | duplicateField (name : String)
  /-- A value that should be a number of either form. -/
  | notNumber
  /-- A name that is none of those that may stand here. -/
  | unknownName (name : String)
deriving DecidableEq, Repr

namespace Cause

def kind : Cause → Kind
  | endInValue | endInList | endInObject | endInString => .truncated
  | wrongType _ _ | wrongValue _ _ | wrongLength _ _ | missingField _ | duplicateField _
  | notNumber | unknownName _ => .mismatched
  | _ => .malformed

/-- How a cause is told. -/
def text : Cause → String
  | endInValue => "EOF while parsing a value"
  | endInList => "EOF while parsing a list"
  | endInObject => "EOF while parsing an object"
  | endInString => "EOF while parsing a string"
  | expectedValue => "expected value"
  | expectedWord => "expected ident"
  | expectedColon => "expected `:`"
  | expectedCommaOrBracket => "expected `,` or `]`"
  | expectedCommaOrBrace => "expected `,` or `\x7d`"
  | trailingComma => "trailing comma"
  | trailingCharacters => "trailing characters"
  | keyNotString => "key must be a string"
  | tooDeep => "recursion limit exceeded"
  | invalidNumber => "invalid number"
  | numberOutOfRange => "number out of range"
  | invalidEscape => "invalid escape"
  | controlCharacter =>
    "control character (\\u0000-\\u001F) found while parsing a string"
  | loneSurrogate => "lone leading surrogate in hex escape"
  | endOfEscape => "unexpected end of hex escape"
  | invalidUtf8 => "invalid unicode code point"
  | wrongType found expected => "invalid type: " ++ found ++ ", expected " ++ expected
  | wrongValue found expected => "invalid value: " ++ found ++ ", expected " ++ expected
  | wrongLength count expected => "invalid length " ++ toString count ++ ", expected " ++ expected
  | missingField name => "missing field `" ++ name ++ "`"
  | duplicateField name => "duplicate field `" ++ name ++ "`"
  | notNumber => "data did not match any variant of untagged enum Number"
  | unknownName name => "unknown name `" ++ name ++ "`"

end Cause

/-- A cause and the number of bytes behind its place. -/
structure Fault where
  cause : Cause
  left : Nat
  /-- Whether the place is still to be moved to the end of the enclosing record. -/
  floating : Bool
deriving DecidableEq, Repr

namespace Fault

/-- A fault found after taking all bytes before `rest`. -/
def taken (cause : Cause) (rest : Bytes) : Fault := ⟨cause, rest.length, false⟩

/-- A fault found while looking at the first byte of `rest`, or at the end. -/
def ahead (cause : Cause) (rest : Bytes) : Fault := ⟨cause, rest.length - 1, false⟩

/-- A fault found before `rest` that is placed where the enclosing record ends. -/
def float (cause : Cause) (rest : Bytes) : Fault := ⟨cause, rest.length, true⟩

/-- The line of a place after the given bytes, counted from one. -/
def line (before : Bytes) : Nat := before.count (byte '\n') + 1

/-- The column of a place after the given bytes: how many of them stand on the last line. -/
def column (before : Bytes) : Nat := (before.reverse.takeWhile (· != byte '\n')).length

/-- How a fault in an input is told. -/
def message (input : Bytes) (fault : Fault) : String :=
  let before := input.take (input.length - fault.left)
  fault.cause.text ++ " at line " ++ toString (line before)
    ++ " column " ++ toString (column before)

end Fault

end OneShot.Json
