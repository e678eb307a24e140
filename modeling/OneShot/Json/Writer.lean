import OneShot.Decimal.Layout
import OneShot.Json.Value

/-!
# Writing JSON

Values as JSON texts, on one line and without any blanks. A floating point number is written with
the shortest digits that read back, of two equally near decimals the even one: without an exponent
from `10 ^ (-5)` up to `10 ^ 16`, and then always with a fraction, and with a signed exponent
outside.

JSON has no infinities and no NaNs; they are written as `null`.
-/

namespace OneShot.Json

/-- A finite floating point number. -/
def writeFloat (x : Binary64) : List Char :=
  let d := Decimal.shortest .toEven x.code
  x.sign ++ (if -5 ≤ d.order ∧ d.order < 16 then d.pointed else d.scientific)

/-- An integer. -/
def writeInteger (i : Int) : List Char :=
  (if i < 0 then ['-'] else []) ++ Nat.toDigits 10 i.natAbs

def Numeral.write : Numeral → List Char
  | integer value => writeInteger value
  | float x => if x.IsFinite then writeFloat x else "null".toList

/-- Texts with commas between them. -/
def writeSeries : List (List Char) → List Char
  | [] => []
  | [text] => text
  | text :: more => text ++ ',' :: writeSeries more

mutual

/-- A value as JSON text. -/
def Value.write : Value → List Char
  | .null => "null".toList
  | .bool true => "true".toList
  | .bool false => "false".toList
  | .number value => value.write
  | .string value => Quoted.write value
  | .array values => '[' :: (writeSeries (Value.writeItems values) ++ [']'])
  | .object members => '{' :: (writeSeries (Value.writeMembers members) ++ ['}'])

/-- The texts of the items of a list. -/
def Value.writeItems : List Value → List (List Char)
  | [] => []
  | value :: more => value.write :: Value.writeItems more

/-- The texts of the members of an object. -/
def Value.writeMembers : List (String × Value) → List (List Char)
  | [] => []
  | (key, value) :: more => (Quoted.write key ++ ':' :: value.write) :: Value.writeMembers more

end

/-- A value as JSON text. -/
def Value.text (value : Value) : String := String.ofList value.write

end OneShot.Json
