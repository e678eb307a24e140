import OneShot.Proofs.Decimal.Layout
import OneShot.Proofs.Decimal.Shortest
import OneShot.Proofs.Json.Scaling

/-!
# Numbers in JSON

An integer of up to 64 bits is written as the literal of its digits, and comes back. A finite
floating point number is written as the literal of one of the two layouts of its shortest decimal.
Read again this literal has a value, `Binary64.float_jsonLiteral_isOk`: with a point there are few
whole digits, and no power of ten to multiply by; with an exponent the significand is the
coefficient of the shortest decimal, which is short enough and in range. The value need not be the
number that was written.

## Main definitions

* `Literal.ofInt`, `Binary64.jsonLiteral` — the literals of an integer and of a finite number

## Main results

* `Literal.numeral_ofInt` — integers come back
* `Binary64.write_jsonLiteral` — the literal of a finite number is what is written
* `Binary64.float_jsonLiteral_isOk` — it is never out of range
-/

namespace OneShot

open Json

/-! ### Integers -/

namespace Json.Literal

/-- The literal that is written for an integer. -/
def ofInt (i : Int) : Literal where
  negative := decide (i < 0)
  whole := digitsOf (Nat.toDigits 10 i.natAbs)
  fraction := none
  exponent := none

theorem isDigit_of_mem_toDigits (n : Nat) : ∀ c ∈ Nat.toDigits 10 n, c.isDigit := fun _ hc =>
  Nat.isDigit_of_mem_toDigits (by decide) (by decide) hc

theorem valueFrom_toDigits (n : Nat) : valueFrom 0 (digitsOf (Nat.toDigits 10 n)) = n :=
  (valueFrom_digitsOf (isDigit_of_mem_toDigits n) 0).trans Nat.ofDigitChars_ten_toDigits

theorem write_ofInt (i : Int) : (ofInt i).write = writeInteger i := by
  rw [write, ofInt, writeInteger]
  dsimp only
  rw [map_char_digitsOf (isDigit_of_mem_toDigits _), writeFraction, writeExponent, List.append_nil,
    List.append_nil]
  by_cases h : i < 0 <;> simp [h]

theorem ofInt_wellFormed (i : Int) : (ofInt i).WellFormed where
  whole := by
    obtain ⟨c, cs, hcs⟩ :=
      List.exists_cons_of_ne_nil (Nat.toDigits_ne_nil (n := i.natAbs) (b := 10))
    refine ⟨digitOf c, digitsOf cs, by rw [ofInt, hcs]; rfl, fun hc => ?_⟩
    have hdigit : c.isDigit := isDigit_of_mem_toDigits _ c (hcs ▸ List.mem_cons_self)
    have hzero : c = '0' := by rw [← char_digitOf hdigit, hc]; rfl
    have hnat : i.natAbs = 0 := by
      by_contra h
      exact Decimal.head_toDigits h c (by rw [hcs]; rfl) hzero
    rw [hnat] at hcs
    rw [← (List.cons.inj hcs).2]
    rfl
  fraction := nofun
  exponent := nofun

/-- **An integer comes back**, if it has at most 64 bits with its sign, or without one. -/
theorem numeral_ofInt {i : Int} (hlow : -0x8000000000000000 ≤ i) (hhigh : i < 0x10000000000000000) :
    (ofInt i).numeral = .ok (.integer i) := by
  have hvalue := valueFrom_toDigits i.natAbs
  have habsorb := @absorb_eq_of_lt 0 (digitsOf (Nat.toDigits 10 i.natAbs)) (by rw [hvalue]; omega)
  rw [hvalue] at habsorb
  have hinteger : (ofInt i).isInteger = true := by
    rw [isInteger, show (ofInt i).whole = digitsOf (Nat.toDigits 10 i.natAbs) from rfl, habsorb]
    rfl
  rw [numeral, show (ofInt i).whole = digitsOf (Nat.toDigits 10 i.natAbs) from rfl, habsorb]
  dsimp only
  rw [if_pos hinteger]
  by_cases h : i < 0
  · have hnegative : (ofInt i).negative = true := decide_eq_true h
    rw [if_neg (not_not.2 hnegative), if_neg (by omega)]
    congr 2
    omega
  · have hnegative : ¬(ofInt i).negative = true := by
      rw [ofInt, decide_eq_true_iff]
      exact h
    rw [if_pos hnegative]
    congr 2
    omega

end Json.Literal

/-! ### Floating point numbers -/

namespace Decimal

variable {negative : Bool} {d : Decimal}

/-- The digits of the coefficient are the digits of the literal. -/
theorem value_scientificLiteral (negative : Bool) (d : Decimal) :
    valueFrom 0 ((scientificLiteral negative d).whole ++
      (scientificLiteral negative d).fraction.getD []) = d.coefficient := by
  have hfraction : (scientificLiteral negative d).fraction.getD [] =
      digitsOf (d.digits.drop 1) := by
    rw [scientificLiteral]
    dsimp only
    split_ifs with hdrop
    · rw [hdrop]
      rfl
    · rfl
  rw [hfraction, scientificLiteral]
  dsimp only
  rw [digitsOf, digitsOf, ← List.map_append, List.take_append_drop]
  exact Literal.valueFrom_toDigits d.coefficient

theorem length_scientificLiteral (negative : Bool) (d : Decimal) :
    ((scientificLiteral negative d).fraction.getD []).length = d.digits.length - 1 := by
  rw [scientificLiteral]
  dsimp only
  split_ifs with hdrop
  · have := congrArg List.length hdrop
    rw [List.length_drop, List.length_nil] at this
    rw [Option.getD_none, List.length_nil, this]
  · rw [Option.getD_some, digitsOf, List.length_map, List.length_drop]

theorem significand_scientificLiteral (h : d.coefficient < 0x10000000000000000) :
    (scientificLiteral negative d).significand =
      (d.coefficient, -((d.digits.length - 1 : Nat) : Int)) := by
  have hvalue := value_scientificLiteral negative d
  rw [Literal.significand_eq (hvalue ▸ h), hvalue, length_scientificLiteral]

/-- Laid out with an exponent, a decimal is read as its coefficient and its exponent. -/
theorem float_scientificLiteral (hcoefficient : d.coefficient < 0x10000000000000000)
    (hexponent : d.exponent.natAbs < 0x80000000) (horder : d.order.natAbs < 0x80000000) :
    (scientificLiteral negative d).float = (scientificLiteral negative d).scaled d.exponent := by
  have hpos : 0 < d.digits.length := List.length_pos_iff.2 d.digits_ne_nil
  have horders : exponentValue 0 (digitsOf (Nat.toDigits 10 d.order.natAbs)) =
      .ok d.order.natAbs := by
    have hdigits := Literal.valueFrom_toDigits d.order.natAbs
    rw [exponentValue_eq_of_lt (by rwa [hdigits]), hdigits]
  have horder' : d.order = d.exponent + d.digits.length - 1 := rfl
  rw [Literal.float_eq_scaled_of_exponent rfl horders,
    significand_scientificLiteral hcoefficient]
  dsimp only
  congr 1
  rw [← clampExponent_eq hexponent]
  congr 1
  by_cases hneg : d.order < 0
  · rw [if_pos (decide_eq_true hneg)]
    omega
  · rw [if_neg (by rw [decide_eq_true_iff]; exact hneg)]
    omega

/-- Laid out with a point behind few digits, a decimal is read without multiplying. -/
theorem float_pointedLiteral_isOk (h : d.order < 16) :
    ∃ x, (pointedLiteral negative d).float = .ok x := by
  rw [Literal.float_eq_scaled rfl]
  refine Literal.scaled_isOk (scale_isSome_of_nonpos (Literal.significand_isFinite _)
    (Literal.power_nonpos ?_))
  have hlength : (digitsOf d.wholeDigits).length ≤ 16 := by
    rw [digitsOf, List.length_map]
    exact length_wholeDigits_le (n := 16) (by decide) h
  calc valueFrom 0 (digitsOf d.wholeDigits)
      < (0 + 1) * 10 ^ (digitsOf d.wholeDigits).length := valueFrom_lt _ _
    _ ≤ (0 + 1) * 10 ^ 16 :=
      Nat.mul_le_mul_left _ (Nat.pow_le_pow_right (by decide) hlength)
    _ < 0x10000000000000000 := by decide

end Decimal

namespace Binary64

/-- The literal that is written for a finite number. -/
def jsonLiteral (x : Binary64) : Literal :=
  let d := Decimal.shortest .toEven x.code
  if -5 ≤ d.order ∧ d.order < 16 then d.pointedLiteral x.negative
  else d.scientificLiteral x.negative

variable {x : Binary64}

theorem write_jsonLiteral (x : Binary64) : x.jsonLiteral.write = writeFloat x := by
  rw [jsonLiteral, writeFloat]
  split_ifs
  · exact Decimal.write_pointedLiteral
  · exact Decimal.write_scientificLiteral

/-- The shortest decimal of zero is zero with the exponent zero, and every other one has a
coefficient. -/
theorem shortest_coefficient_or_exponent (tie : Decimal.Tie) (hx : x.IsFinite) :
    (Decimal.shortest tie x.code).coefficient ≠ 0 ∨
      (Decimal.shortest tie x.code).exponent ≤ 0 := by
  by_cases hcode : x.code = 0
  · rw [hcode]
    exact .inr (Int.le_refl 0)
  · exact .inl (Decimal.shortest_coefficient_ne_zero tie hcode hx)

theorem jsonLiteral_wellFormed (hx : x.IsFinite) : x.jsonLiteral.WellFormed := by
  rw [jsonLiteral]
  split_ifs
  · exact Decimal.pointedLiteral_wellFormed (shortest_coefficient_or_exponent _ hx)
  · exact Decimal.scientificLiteral_wellFormed

theorem isInteger_jsonLiteral (x : Binary64) : x.jsonLiteral.isInteger = false := by
  rw [jsonLiteral]
  split_ifs
  · rfl
  · exact Bool.and_eq_false_iff.2 (.inl (Bool.and_eq_false_iff.2 (.inr rfl)))

/-- **What is written for a finite number is never out of range**, however large the number is. -/
theorem float_jsonLiteral_isOk (hx : x.IsFinite) : ∃ y, x.jsonLiteral.float = .ok y := by
  obtain ⟨hreads, hcoefficient, hexponent⟩ := Decimal.shortest_spec .toEven hx
  have hlast := Decimal.shortest_le_last_of_nonneg .toEven hx
  have hor := shortest_coefficient_or_exponent .toEven hx
  rw [jsonLiteral]
  generalize Decimal.shortest .toEven x.code = d at hreads hcoefficient hexponent hlast hor ⊢
  split_ifs with horder
  · exact Decimal.float_pointedLiteral_isOk horder.2
  · have hlarge : d.exponent ≤ 400 := by
      by_contra hlarge
      rw [codeOfDecimal, if_neg (hor.resolve_right (by omega)), if_pos (by omega)] at hreads
      exact absurd hx (by rw [IsFinite, ← hreads]; exact Nat.lt_irrefl _)
    have hlength : d.digits.length ≤ 18 :=
      (Nat.length_toDigits_le_iff (by decide) (by decide)).2
        (Nat.lt_of_le_of_lt hcoefficient (by decide))
    have horders : d.order = d.exponent + d.digits.length - 1 := rfl
    rw [Decimal.float_scientificLiteral (Nat.lt_of_le_of_lt hcoefficient (by decide)) (by omega)
      (by omega)]
    refine Literal.scaled_isOk ?_
    rcases le_or_gt d.exponent 0 with hneg | hpos
    · exact scale_isSome_of_nonpos (Literal.significand_isFinite _) hneg
    · rw [Decimal.significand_scientificLiteral (Nat.lt_of_le_of_lt hcoefficient (by decide)),
        ← Int.toNat_of_nonneg hpos.le]
      exact scale_isSome_of_le (hor.resolve_right (Int.not_le.2 hpos)) hcoefficient
        (hlast hpos.le)

end Binary64

end OneShot
