import OneShot.Proofs.Json.Numeral

/-!
# Literals that are read exactly

Of the three roundings of a value the first two are exact for a short literal: an integer up to
`2 ^ 53` and a power of ten up to `10 ^ 22` are binary64 numbers. What is left is one division, and
that rounds to the nearest number. So a short decimal that is laid out with a point is read as the
nearest number, `Decimal.float_pointedLiteral_of_isShort`.

All digits count that are laid out, also the zero behind the point of a whole number.

## Main definitions

* `Decimal.places` — the number of digits behind the point
* `Decimal.IsShort` — few digits, and few of them behind the point
* `Binary64.IsShort` — numbers that are written as short decimals

## Main results

* `Decimal.float_pointedLiteral_of_isShort` — a short decimal is read as the nearest number
* `Binary64.float_jsonLiteral_of_isShort` — a number with a short decimal comes back
-/

namespace OneShot

open Json Binary64

namespace Binary64

/-- Integers up to `2 ^ 53` are exact. -/
theorem magnitude_ofInt {n : Nat} (h : n ≤ 2 * binadeSize) :
    magnitude (ofInt n).code = n * unitsPerOne := by
  change magnitude (roundCode ((n : Int).natAbs * unitsPerOne) 1) = n * unitsPerOne
  have hrange : 2 * binadeSize * 2 ^ 1074 < magnitude infinityCode := by decide +kernel
  rw [Int.natAbs_natCast, unitsPerOne_eq]
  exact magnitude_roundCode h (Nat.lt_of_le_of_lt (Nat.mul_le_mul_right _ h) hrange)

/-- Powers of ten up to `10 ^ 22` are exact. -/
theorem magnitude_powerOfTen {n : Nat} (h : n ≤ 22) :
    magnitude (powerOfTen n).code = 10 ^ n * unitsPerOne := by
  have hall : ∀ n < 23, magnitude (powerOfTen n).code = 10 ^ n * unitsPerOne := by decide +kernel
  exact hall n (Nat.lt_succ_of_le h)

/-- The quotient of an exact integer and an exact power of ten is rounded once. -/
theorem scale_ofInt_neg {n k : Nat} (hn : n ≤ 2 * binadeSize) (hk : 0 < k) (hk' : k ≤ 22) :
    scale (.ofInt n) (-k) = some (ofDecimal false ⟨n, -k⟩) := by
  have hfinite : (ofInt n).IsFinite := ofNat_isFinite (hn.trans (by decide))
  have hpower : (powerOfTen k).IsFinite := powerOfTen_isFinite (hk'.trans (by decide))
  have hzero : (powerOfTen k).code ≠ 0 :=
    Nat.ne_of_gt (Nat.lt_of_lt_of_le (by decide) (oneCode_le_powerOfTen k))
  have hsign : signOf (ofInt n) (powerOfTen k) = false := by
    change (decide ((n : Int) < 0) != false) = false
    rw [decide_eq_false (Int.not_lt.2 (Int.natCast_nonneg n))]
    rfl
  have hcode : codeOfDecimal ⟨n, -k⟩ =
      roundCode (n * unitsPerOne * unitsPerOne) (10 ^ k * unitsPerOne) := by
    rw [codeOfDecimal_eq_roundCode _ (k := k) (by dsimp only; omega)]
    refine roundCode_congr (Nat.pow_pos (by decide))
      (Nat.mul_pos (Nat.pow_pos (by decide)) unitsPerOne_pos) ?_
    dsimp only
    rw [Int.add_left_neg, Int.toNat_zero, pow_zero, Nat.mul_one]
    generalize unitsPerOne = units
    ring
  rw [scale, if_pos (by omega), if_neg (by omega), Int.natAbs_neg, Int.natAbs_natCast,
    div_eq_ofRatio hfinite hpower hzero, magnitude_ofInt hn, magnitude_powerOfTen hk', hsign,
    ofRatio, ofDecimal, Option.some.injEq, Binary64.mk.injEq]
  exact ⟨rfl, hcode.symm⟩

end Binary64

namespace Decimal

variable {negative : Bool} {d : Decimal}

/-- The number of digits behind the point, of which there is always one. -/
def places (d : Decimal) : Nat := max 1 (-d.exponent).toNat

/-- All digits that are laid out make a number up to `2 ^ 53`, and at most 22 of them stand behind
the point. -/
def IsShort (d : Decimal) : Prop :=
  d.coefficient * 10 ^ (d.exponent + d.places).toNat ≤ 2 * binadeSize ∧ d.places ≤ 22

instance (d : Decimal) : Decidable d.IsShort := inferInstanceAs (Decidable (_ ∧ _))

theorem length_pointedFraction :
    (if d.fractionDigits = [] then ['0'] else d.fractionDigits).length = d.places := by
  rw [places]
  split_ifs with hfraction
  · rw [fractionDigits_eq_nil_iff] at hfraction
    rw [List.length_singleton]
    omega
  · rw [fractionDigits_eq_nil_iff] at hfraction
    rw [length_fractionDigits]
    omega

/-- The number that the digits make that are laid out with a point. -/
theorem ofDigitChars_pointed :
    Nat.ofDigitChars 10 (d.wholeDigits ++
        if d.fractionDigits = [] then ['0'] else d.fractionDigits) 0 =
      d.coefficient * 10 ^ (d.exponent + d.places).toNat := by
  have hplain := ofDigitChars_plain d
  rw [places]
  split_ifs with hfraction
  · rw [hfraction, List.append_nil] at hplain
    rw [fractionDigits_eq_nil_iff] at hfraction
    rw [← List.replicate_one, Nat.ofDigitChars_append, Nat.ofDigitChars_replicate_zero, hplain,
      Nat.mul_comm, Nat.mul_assoc, ← pow_add]
    congr 2
    omega
  · rw [fractionDigits_eq_nil_iff] at hfraction
    rw [hplain]
    congr 2
    omega

theorem significand_pointedLiteral (h : d.IsShort) :
    (pointedLiteral negative d).significand =
      (d.coefficient * 10 ^ (d.exponent + d.places).toNat, -(d.places : Int)) := by
  have hvalue : valueFrom 0 ((pointedLiteral negative d).whole ++
      (pointedLiteral negative d).fraction.getD []) =
        d.coefficient * 10 ^ (d.exponent + d.places).toNat := by
    rw [pointedLiteral, Option.getD_some, digitsOf, digitsOf, ← List.map_append,
      ← ofDigitChars_pointed]
    refine valueFrom_digitsOf (fun c hc => ?_) 0
    rcases List.mem_append.1 hc with hc | hc
    · exact isDigit_of_mem_wholeDigits c hc
    · exact isDigit_of_mem_pointedFraction c hc
  rw [Literal.significand_eq (hvalue.trans_lt (Nat.lt_of_le_of_lt h.1 (by decide))), hvalue,
    pointedLiteral, Option.getD_some, digitsOf, List.length_map, length_pointedFraction]

/-- **A short decimal is read as the nearest number.** -/
theorem float_pointedLiteral_of_isShort (h : d.IsShort) :
    (pointedLiteral negative d).float = .ok (.ofDecimal negative d) := by
  have hplaces : 0 < d.places := Nat.lt_of_lt_of_le Nat.one_pos (Nat.le_max_left _ _)
  have hvalue (sign : Bool) :
      ofDecimal sign ⟨d.coefficient * 10 ^ (d.exponent + d.places).toNat, -d.places⟩ =
        ofDecimal sign d := by
    rw [ofDecimal, ofDecimal, Binary64.mk.injEq]
    exact ⟨rfl, codeOfDecimal_expand d (by rw [places]; omega)⟩
  rw [Literal.float_eq_scaled rfl, Literal.scaled, significand_pointedLiteral h,
    scale_ofInt_neg h.1 hplaces h.2]
  cases negative
  · exact congrArg Except.ok (hvalue false)
  · exact congrArg Except.ok (hvalue true)

end Decimal

namespace Binary64

/-- The shortest decimal of the number is written with a point, and it is short. -/
def IsShort (x : Binary64) : Prop :=
  let d := Decimal.shortest .toEven x.code
  (-5 ≤ d.order ∧ d.order < 16) ∧ d.IsShort

instance (x : Binary64) : Decidable x.IsShort := inferInstanceAs (Decidable (_ ∧ _))

/-- **A number with a short decimal comes back.** -/
theorem float_jsonLiteral_of_isShort {x : Binary64} (hx : x.IsFinite) (h : x.IsShort) :
    x.jsonLiteral.float = .ok x := by
  have hcode : codeOfDecimal (Decimal.shortest .toEven x.code) = x.code :=
    (Decimal.shortest_spec .toEven hx).1
  rw [jsonLiteral, if_pos h.1, Decimal.float_pointedLiteral_of_isShort h.2]
  exact congrArg Except.ok (Binary64.ext rfl hcode)

end Binary64

end OneShot
