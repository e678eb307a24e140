import OneShot.Binary64.Arithmetic
import OneShot.Decimal.Nearest
import OneShot.Json.Reader

/-!
# Number literals

A number literal is read in two steps: first the digits of its parts, by the grammar of JSON, then
their value. The value is an integer if the literal has neither a fraction nor an exponent and fits
into 64 bits, signed or unsigned; every other literal is a floating point number.

Floating point values are computed quickly and not always to the nearest number: the digits go into
a 64-bit significand as long as they fit, the significand is rounded to binary64, and the result is
multiplied or divided by a rounded power of ten. So up to three roundings take place.

## Main definitions

* `Literal` — the digits of the parts of a literal
* `Literal.read` — the literal at the front of the input
* `Numeral` — the value of a literal
* `Literal.numeral` — the value of a literal, or that it is out of range
-/

namespace OneShot.Json

/-! ### Digits -/

/-- A decimal digit. -/
abbrev Digit := Fin 10

def digit? (b : UInt8) : Option Digit :=
  if h : byte '0' ≤ b ∧ b ≤ byte '9' then
    some ⟨b.toNat - 48, by
      have : b.toNat ≤ 57 := h.2
      omega⟩
  else none

/-- The digits at the front of the input, and the rest. -/
def takeDigits : Bytes → List Digit × Bytes
  | [] => ([], [])
  | b :: rest =>
    match digit? b with
    | some d => (d :: (takeDigits rest).1, (takeDigits rest).2)
    | none => ([], b :: rest)

theorem length_takeDigits_le (s : Bytes) : (takeDigits s).2.length ≤ s.length := by
  induction s with
  | nil => simp [takeDigits]
  | cons b rest ih =>
    unfold takeDigits
    split
    · exact Nat.le_succ_of_le ih
    · exact Nat.le_refl _

/-! ### The grammar of literals -/

/-- The exponent part of a literal. -/
structure Exponent where
  negative : Bool
  digits : List Digit
deriving DecidableEq, Repr

/-- The parts of a number literal. -/
structure Literal where
  negative : Bool
  /-- The digits before the point. -/
  whole : List Digit
  /-- The digits behind the point, if there is one. -/
  fraction : Option (List Digit)
  exponent : Option Exponent
deriving DecidableEq, Repr

namespace Literal

/-- Takes an optional minus sign. -/
def readSign (s : Bytes) : Bool × Bytes :=
  if s.head? = some (byte '-') then (true, s.tail) else (false, s)

/-- Takes the digits before the point: a zero alone, or digits that do not begin with one. -/
def readWhole (atEnd : Cause) (s : Bytes) : Except Fault (List Digit × Bytes) :=
  match s with
  | [] => .error (.taken atEnd [])
  | b :: rest =>
    match digit? b with
    | none => .error (.taken .invalidNumber rest)
    | some d =>
      let (more, behind) := takeDigits rest
      if d = 0 ∧ more ≠ [] then .error (.ahead .invalidNumber rest)
      else .ok (d :: more, behind)

/-- Takes a point and the digits behind it, if there is a point. -/
def readFraction (atEnd : Cause) (s : Bytes) : Except Fault (Option (List Digit) × Bytes) :=
  if s.head? = some (byte '.') then
    let (digits, behind) := takeDigits s.tail
    if digits ≠ [] then .ok (some digits, behind)
    else if behind = [] then .error (.ahead atEnd [])
    else .error (.ahead .invalidNumber behind)
  else .ok (none, s)

/-- Takes the sign of an exponent. -/
def readExponentSign (s : Bytes) : Bool × Bytes :=
  if s.head? = some (byte '-') then (true, s.tail)
  else if s.head? = some (byte '+') then (false, s.tail)
  else (false, s)

/-- Takes the exponent part, if there is one. -/
def readExponent (atEnd : Cause) (s : Bytes) : Except Fault (Option Exponent × Bytes) :=
  if s.head? = some (byte 'e') ∨ s.head? = some (byte 'E') then
    let (negative, s) := readExponentSign s.tail
    let (digits, behind) := takeDigits s
    if digits ≠ [] then .ok (some ⟨negative, digits⟩, behind)
    else if behind = [] then .error (.taken atEnd [])
    else .error (.taken .invalidNumber behind.tail)
  else .ok (none, s)

/-- Takes a literal from the front of the input. A literal that is broken off by the end of the
input is reported as `atEnd`. -/
def read (atEnd : Cause) (s : Bytes) : Except Fault (Literal × Bytes) :=
  let (negative, s) := readSign s
  (readWhole atEnd s).bind fun (whole, s) =>
  (readFraction atEnd s).bind fun (fraction, s) =>
  (readExponent atEnd s).bind fun (exponent, s) =>
  .ok (⟨negative, whole, fraction, exponent⟩, s)

theorem length_readSign_le (s : Bytes) : (readSign s).2.length ≤ s.length := by
  unfold readSign
  split <;> simp

theorem length_readWhole_lt {atEnd : Cause} {s rest : Bytes} {whole : List Digit}
    (h : readWhole atEnd s = .ok (whole, rest)) : rest.length < s.length := by
  unfold readWhole at h
  split at h
  · simp at h
  · rename_i b r
    split at h
    · simp at h
    · dsimp only at h
      split at h
      · simp at h
      · cases h
        exact Nat.lt_succ_of_le (length_takeDigits_le r)

theorem length_readFraction_le {atEnd : Cause} {s rest : Bytes} {fraction : Option (List Digit)}
    (h : readFraction atEnd s = .ok (fraction, rest)) : rest.length ≤ s.length := by
  unfold readFraction at h
  split at h
  · dsimp only at h
    split at h
    · cases h
      have := length_takeDigits_le s.tail
      simp only [List.length_tail] at this
      omega
    · split at h <;> simp at h
  · cases h; exact Nat.le_refl _

theorem length_readExponentSign_le (s : Bytes) : (readExponentSign s).2.length ≤ s.length := by
  unfold readExponentSign
  split
  · simp
  · split <;> simp

theorem length_readExponent_le {atEnd : Cause} {s rest : Bytes} {exponent : Option Exponent}
    (h : readExponent atEnd s = .ok (exponent, rest)) : rest.length ≤ s.length := by
  unfold readExponent at h
  split at h
  · dsimp only at h
    split at h
    · cases h
      have h1 := length_takeDigits_le (readExponentSign s.tail).2
      have h2 := length_readExponentSign_le s.tail
      simp only [List.length_tail] at h2
      omega
    · split at h <;> simp at h
  · cases h; exact Nat.le_refl _

theorem length_read_lt {atEnd : Cause} {s rest : Bytes} {literal : Literal}
    (h : read atEnd s = .ok (literal, rest)) : rest.length < s.length := by
  obtain ⟨⟨whole, s1⟩, h1, h⟩ := bind_eq_ok.1 h
  obtain ⟨⟨fraction, s2⟩, h2, h⟩ := bind_eq_ok.1 h
  obtain ⟨⟨exponent, s3⟩, h3, h⟩ := bind_eq_ok.1 h
  cases h
  have := length_readSign_le s
  have : s1.length < (readSign s).2.length := length_readWhole_lt h1
  have := length_readFraction_le h2
  have := length_readExponent_le h3
  omega

end Literal

/-! ### Values -/

/-- The value of a number literal. -/
inductive Numeral where
  /-- An integer from `-2 ^ 63` up to, not including, `2 ^ 64`. -/
  | integer (value : Int)
  | float (value : Binary64)
deriving DecidableEq

/-- The value as a floating point number. -/
def Numeral.toBinary64 : Numeral → Binary64
  | integer value => .ofInt value
  | float value => value

/-- Appends digits to a significand as long as it stays below `2 ^ 64`; the digits that do not fit
are left. -/
def absorb (significand : Nat) : List Digit → Nat × List Digit
  | [] => (significand, [])
  | d :: rest =>
    if significand * 10 + d.val < 0x10000000000000000 then absorb (significand * 10 + d.val) rest
    else (significand, d :: rest)

/-- The binary64 number nearest to a power of ten. -/
def powerOfTen (exponent : Nat) : Binary64 := .ofDecimal false ⟨1, exponent⟩

/-- `x * 10 ^ exponent` by repeated rounding, or nothing if that is out of range. An exponent below
`-308` is worked off in steps of `308`, so a number that falls to zero on the way stays there. -/
def scale (x : Binary64) (exponent : Int) : Option Binary64 :=
  if exponent.natAbs ≤ 308 then
    if 0 ≤ exponent then
      let scaled := x.mul (powerOfTen exponent.toNat)
      if scaled.IsInfinite then none else some scaled
    else some (x.div (powerOfTen exponent.natAbs))
  else if x.code = 0 then some x
  else if 0 < exponent then none
  else scale (x.div (powerOfTen 308)) (exponent + 308)
termination_by exponent.natAbs
decreasing_by omega

/-- The value of the digits of an exponent, after those that give `value`. An exponent that reaches
`2 ^ 31` is too large; then the number of digits behind the one that makes it so is given. -/
def exponentValue (value : Nat) : List Digit → Except Nat Nat
  | [] => .ok value
  | d :: rest =>
    if value * 10 + d.val < 0x80000000 then exponentValue (value * 10 + d.val) rest
    else .error rest.length

/-- Brings an exponent into the range of 32-bit integers. -/
def clampExponent (exponent : Int) : Int := max (-0x80000000) (min exponent 0x7FFFFFFF)

namespace Literal

/-- The significand of a literal and the power of ten that goes with it, the exponent part left
out: whole digits that do not fit raise the power, fraction digits that do fit lower it. -/
def significand (literal : Literal) : Nat × Int :=
  let (whole, dropped) := absorb 0 literal.whole
  let fraction := literal.fraction.getD []
  let (all, skipped) := absorb whole fraction
  (all, dropped.length - (fraction.length - skipped.length : Nat))

/-- Gives a magnitude the sign of the literal. -/
def signed (literal : Literal) (x : Binary64) : Binary64 := if literal.negative then x.neg else x

/-- The floating point value of a literal, computed from its significand and exponent. A literal
that is too large reports how many bytes of it stand behind the place where that becomes clear. -/
def float (literal : Literal) : Except Nat Binary64 :=
  let (significand, power) := literal.significand
  let scaled (exponent : Int) : Except Nat Binary64 :=
    match scale (.ofInt significand) exponent with
    | some x => .ok (literal.signed x)
    | none => .error 0
  match literal.exponent with
  | none => scaled power
  | some exponent =>
    match exponentValue 0 exponent.digits with
    | .ok value =>
      scaled (clampExponent (if exponent.negative then power - value else power + value))
    | .error behind =>
      if significand ≠ 0 ∧ ¬exponent.negative then .error behind
      else .ok (literal.signed (.zero false))

/-- Whether all digits of a literal without fraction and exponent fit into the significand. -/
def isInteger (literal : Literal) : Bool :=
  literal.fraction.isNone && literal.exponent.isNone && (absorb 0 literal.whole).2.isEmpty

/-- The value of a literal. Minus zero is the floating point number, and so is an integer below
`-2 ^ 63`. -/
def numeral (literal : Literal) : Except Nat Numeral :=
  let magnitude := (absorb 0 literal.whole).1
  if literal.isInteger then
    if ¬literal.negative then .ok (.integer magnitude)
    else if magnitude = 0 ∨ 0x8000000000000000 < magnitude then
      .ok (.float (Binary64.ofInt magnitude).neg)
    else .ok (.integer (-(magnitude : Int)))
  else literal.float.map .float

end Literal

end OneShot.Json
