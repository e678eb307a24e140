import OneShot.Binary64.Arithmetic

/-!
# Numbers that remember their form

The lists this library summarises tell integers from floating point numbers: `3` and `3.0` are
different elements, and a result echoes the form its operands had. An integer is a 64-bit word, a
floating point number is a binary64 number of any kind.

## Main definitions

* `Number` — an integer or a floating point number
* `Number.toBinary64` — the value as a floating point number
* `Number.add` — addition that stays integral as long as it can
* `Number.sameValue` — equality that tells the two forms apart
-/

namespace OneShot

/-- A 64-bit integer or a binary64 number. -/
inductive Number where
  | int (value : Int64)
  | float (value : Binary64)
deriving DecidableEq

namespace Number

/-- The integers that an integer element can hold. -/
def InRange (i : Int) : Prop := -0x8000000000000000 ≤ i ∧ i < 0x8000000000000000

instance (i : Int) : Decidable (InRange i) := inferInstanceAs (Decidable (_ ∧ _))

theorem inRange_toInt (value : Int64) : InRange value.toInt := ⟨value.le_toInt, value.toInt_lt⟩

def isInteger : Number → Bool
  | .int _ => true
  | .float _ => false

/-- The floating point number nearest to a number; large integers lose precision. -/
def toBinary64 : Number → Binary64
  | .int value => .ofInt value.toInt
  | .float value => value

/-- Adds two numbers. Two integers give an integer if their sum is in range; otherwise both are
widened first and the result is a floating point number. -/
def add : Number → Number → Number
  | .int x, .int y =>
    let total := x.toInt + y.toInt
    if InRange total then .int (.ofInt total)
    else .float ((Binary64.ofInt x.toInt).add (.ofInt y.toInt))
  | x, y => .float (x.toBinary64.add y.toBinary64)

/-- Equality of numbers of one form; an integer never equals a floating point number. -/
def sameValue : Number → Number → Bool
  | .int x, .int y => x == y
  | .float x, .float y => x.sameValue y
  | _, _ => false

end Number

end OneShot
