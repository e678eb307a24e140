/-!
# Binary64 numbers

The numbers of IEEE 754 binary64, kept exactly: a sign and a magnitude code, where the code is the
exponent field followed by the fraction field, read as one natural number. The order of the codes
is then the order of the magnitudes, zero is code `0`, infinity is `infinityCode`, and every code
above that is a NaN.

Every finite magnitude is a whole number of units of `2 ^ (-1074)`, the least positive magnitude;
`magnitude` gives that number. All arithmetic in this library is done on units, in `Nat` and `Int`,
and rounded once, so that it can be reasoned about without floating point.

## Main definitions

* `Binary64` — sign and magnitude code
* `Binary64.IsNaN`, `IsInfinite`, `IsFinite` — the three classes, told apart by the code alone
* `Binary64.magnitude` — the units of a code
* `Binary64.units` — the signed units of a number
* `Binary64.whole`, `Binary64.part` — the integer part toward zero, and what it leaves
* `Binary64.totalOrder` — the order of all numbers, NaNs and both zeros included
-/

namespace OneShot

/-- How many codes have the same exponent field: one for each fraction, `2 ^ 52`. -/
def binadeSize : Nat := 0x10000000000000

/-- A binary64 number as a sign and a magnitude code of 63 bits. -/
@[ext]
structure Binary64 where
  /-- The sign bit. -/
  negative : Bool
  /-- The exponent and fraction fields, as one number. -/
  code : Nat
  code_lt : code < 0x8000000000000000
deriving DecidableEq

namespace Binary64

/-- The code of infinity: all ones in the exponent field and zeros in the fraction field. -/
def infinityCode : Nat := 2047 * binadeSize

/-- A NaN has a code above that of infinity. -/
def IsNaN (x : Binary64) : Prop := infinityCode < x.code

def IsInfinite (x : Binary64) : Prop := x.code = infinityCode

def IsFinite (x : Binary64) : Prop := x.code < infinityCode

instance (x : Binary64) : Decidable x.IsNaN := inferInstanceAs (Decidable (_ < _))
instance (x : Binary64) : Decidable x.IsInfinite := inferInstanceAs (Decidable (_ = _))
instance (x : Binary64) : Decidable x.IsFinite := inferInstanceAs (Decidable (_ < _))

/-! ### Particular numbers -/

def zero (negative : Bool) : Binary64 := ⟨negative, 0, by decide⟩

def infinity (negative : Bool) : Binary64 := ⟨negative, infinityCode, by decide⟩

/-- The quiet NaN with an empty payload; arithmetic that has no result gives this one. -/
def nan : Binary64 := ⟨false, infinityCode + binadeSize / 2, by decide⟩

def neg (x : Binary64) : Binary64 := { x with negative := !x.negative }

/-! ### The 64-bit interchange format -/

/-- The number with the given interchange bits: the sign on top, the code below it. -/
def ofBits (bits : UInt64) : Binary64 :=
  ⟨decide (0x8000000000000000 ≤ bits.toNat), bits.toNat % 0x8000000000000000,
    Nat.mod_lt _ (by decide)⟩

def toBits (x : Binary64) : UInt64 :=
  UInt64.ofNat ((if x.negative then 0x8000000000000000 else 0) + x.code)

/-! ### Units

Codes below `binadeSize` are subnormal: the code is the number of units. Above, the exponent field
says how often the 53-bit significand is doubled. -/

/-- The magnitude of a finite code in units of `2 ^ (-1074)`. Total: other codes are read by the
same rule. -/
def magnitude (code : Nat) : Nat :=
  if code < binadeSize then code
  else (binadeSize + code % binadeSize) * Nat.pow 2 (code / binadeSize - 1)

/-- One, in units. -/
def unitsPerOne : Nat := Nat.pow 2 1074

/-- The value of a finite number in units of `2 ^ (-1074)`. -/
def units (x : Binary64) : Int :=
  if x.negative then -(magnitude x.code : Int) else magnitude x.code

/-- The integer part of a finite number, toward zero. -/
def whole (x : Binary64) : Int := x.units.tdiv unitsPerOne

/-- What `whole` leaves of a finite number, in units; its sign is that of the number. -/
def part (x : Binary64) : Int := x.units.tmod unitsPerOne

/-! ### Comparison -/

/-- Equality of values: a NaN equals nothing, and the two zeros are equal. -/
def sameValue (x y : Binary64) : Bool :=
  decide (¬x.IsNaN ∧ ¬y.IsNaN) && (x == y || (x.code == 0 && y.code == 0))

/-- The rank of a number among all bit patterns: negative numbers by falling magnitude, then
positive numbers by rising magnitude, with `-0` right below `+0`. -/
def rank (x : Binary64) : Int := if x.negative then -(x.code : Int) - 1 else x.code

/-- The total order of bit patterns: negative NaNs, negative numbers, `-0`, `+0`, positive numbers,
positive NaNs. -/
def totalOrder (x y : Binary64) : Ordering := compare x.rank y.rank

end Binary64

end OneShot
