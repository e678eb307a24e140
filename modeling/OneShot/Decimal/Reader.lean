import OneShot.Decimal.Nearest

/-!
# Reading a number from a word

A word is a number when it is, after an optional sign, one of `inf`, `infinity` and `nan` in any
case, or digits with at most one point among them and at least one digit, followed by an optional
exponent. Nothing else is allowed: no blanks, no separators, no digits outside ASCII. The number is
the nearest one, so a large exponent gives infinity and not an error.

## Main definitions

* `Binary64.ofText?` — the number that a word writes
-/

namespace OneShot.Binary64

/-- The sign in front of a word, and the word without it. -/
def splitSign : List Char → Bool × List Char
  | '-' :: rest => (true, rest)
  | '+' :: rest => (false, rest)
  | s => (false, s)

/-- The exponent part at the end of a number: nothing, or `e`, an optional sign and digits. -/
def exponent? : List Char → Option Int
  | [] => some 0
  | c :: rest =>
    if c.toLower = 'e' then
      let (negative, digits) := splitSign rest
      if digits ≠ [] ∧ digits.all Char.isDigit then
        let magnitude : Int := Nat.ofDigitChars 10 digits 0
        some (if negative then -magnitude else magnitude)
      else none
    else none

/-- The fraction digits behind the digits before the point, and what follows them. -/
def splitFraction : List Char → List Char × List Char
  | '.' :: rest => (rest.takeWhile Char.isDigit, rest.dropWhile Char.isDigit)
  | s => ([], s)

/-- The decimal that an unsigned word of digits writes. -/
def decimal? (s : List Char) : Option Decimal :=
  let whole := s.takeWhile Char.isDigit
  let (fraction, rest) := splitFraction (s.dropWhile Char.isDigit)
  if whole ++ fraction = [] then none
  else (exponent? rest).map fun e =>
    ⟨Nat.ofDigitChars 10 (whole ++ fraction) 0, e - fraction.length⟩

/-- The number that a word writes. -/
def ofText? (text : String) : Option Binary64 :=
  let (negative, word) := splitSign text.toList
  let lower := word.map Char.toLower
  if lower = "inf".toList ∨ lower = "infinity".toList then some (infinity negative)
  else if lower = "nan".toList then some (if negative then nan.neg else nan)
  else (decimal? word).map (ofDecimal negative)

end OneShot.Binary64
