import OneShot.Decimal.Nearest
import OneShot.Proofs.Binary64.Arithmetic

/-!
# The nearest binary64 number

`codeOfDecimal` answers decimals far out of the range without computing anything. These answers are
the ones that rounding would give, `codeOfDecimal_eq`, so everything that is known of rounding
carries over; in particular the result depends on the value of the decimal alone, and not on how it
is split into a coefficient and an exponent.

To compare decimals with exponents of either sign, their powers of ten are put on a common
denominator `10 ^ k`.

## Main results

* `codeOfDecimal_eq_roundCode` — the description by rounding, on any common denominator
* `codeOfDecimal_trim` — trimming does not change the number
* `le_magnitude_of_codeOfDecimal_lt` — a decimal that rounds below a magnitude does not exceed it
-/

namespace OneShot.Binary64

/-- On a common denominator, the quotient of a decimal is its coefficient times a power of ten. -/
theorem roundCode_ratio (d : Decimal) {k : Nat} (hk : 0 ≤ d.exponent + k) :
    roundCode (d.ratio.1 * unitsPerOne) d.ratio.2 =
      roundCode (d.coefficient * 10 ^ (d.exponent + k).toNat * unitsPerOne) (10 ^ k) := by
  have hpow (n : Nat) : 0 < 10 ^ n := Nat.pow_pos (by decide)
  rw [Decimal.ratio]
  split_ifs with he
  · refine roundCode_congr Nat.one_pos (hpow k) ?_
    rw [Int.toNat_add he (Int.natCast_nonneg k), Int.toNat_natCast, pow_add, Nat.pow_eq]
    ring
  · refine roundCode_congr (hpow _) (hpow k) ?_
    have hsplit : k = (d.exponent + k).toNat + (-d.exponent).toNat := by omega
    dsimp only
    rw [Nat.pow_eq, show 10 ^ k = 10 ^ (d.exponent + k).toNat * 10 ^ (-d.exponent).toNat by
      rw [← pow_add, ← hsplit]]
    ring

/-- **The nearest number is the rounded quotient**, also where it is not computed. -/
theorem codeOfDecimal_eq (d : Decimal) :
    codeOfDecimal d = roundCode (d.ratio.1 * unitsPerOne) d.ratio.2 := by
  have hzero (den : Nat) (hden : 0 < den) : roundCode 0 den = 0 :=
    Nat.le_zero.1 (roundCode_le_of_le hden (by decide) (Nat.zero_le _))
  rw [codeOfDecimal]
  split_ifs with hc hlarge hsmall
  · rw [roundCode_ratio d (k := (-d.exponent).toNat) (by omega), hc, Nat.zero_mul, Nat.zero_mul,
      hzero _ (Nat.pow_pos (by decide))]
  · rw [roundCode_ratio d (k := 0) (by omega), pow_zero, roundCode_eq_infinityCode Nat.one_pos]
    have hrange : magnitude infinityCode ≤ 10 ^ 400 * unitsPerOne := by decide +kernel
    have hpow : 10 ^ 400 ≤ 10 ^ (d.exponent + (0 : Nat)).toNat :=
      Nat.pow_le_pow_right (by decide) (by omega)
    calc magnitude infinityCode * 1 ≤ 10 ^ 400 * unitsPerOne := (Nat.mul_one _).trans_le hrange
      _ ≤ 10 ^ (d.exponent + (0 : Nat)).toNat * unitsPerOne := Nat.mul_le_mul_right _ hpow
      _ ≤ d.coefficient * 10 ^ (d.exponent + (0 : Nat)).toNat * unitsPerOne :=
        Nat.mul_le_mul_right _ (Nat.le_mul_of_pos_left _ (Nat.pos_of_ne_zero hc))
  · have hpow (n : Nat) : 0 < 10 ^ n := Nat.pow_pos (by decide)
    rw [roundCode_ratio d (k := (-d.exponent).toNat) (by omega),
      show (d.exponent + (-d.exponent).toNat).toNat = 0 by omega, pow_zero, Nat.mul_one, eq_comm,
      ← Nat.le_zero, roundCode_le_iff (hpow _) (by decide)]
    have hrange : 2 * unitsPerOne ≤ 10 ^ 400 := by decide +kernel
    have hcoefficient : d.coefficient < 10 ^ (d.coefficient.log2 + 1) :=
      Nat.lt_of_lt_of_le Nat.lt_log2_self (Nat.pow_le_pow_left (by decide) _)
    left
    calc 2 * (d.coefficient * unitsPerOne) = d.coefficient * (2 * unitsPerOne) := by ring
      _ ≤ d.coefficient * 10 ^ 400 := Nat.mul_le_mul_left _ hrange
      _ < 10 ^ (d.coefficient.log2 + 1) * 10 ^ 400 :=
        Nat.mul_lt_mul_of_pos_right hcoefficient (hpow 400)
      _ = 10 ^ (d.coefficient.log2 + 1 + 400) := (pow_add ..).symm
      _ ≤ 10 ^ (-d.exponent).toNat := Nat.pow_le_pow_right (by decide) (by omega)
      _ = (magnitude 0 + magnitude (0 + 1)) * 10 ^ (-d.exponent).toNat := by
        rw [magnitude_of_le (Nat.zero_le _), magnitude_of_le (by decide), Nat.zero_add,
          Nat.zero_add, Nat.one_mul]
  · rfl

/-- The nearest number, on any common denominator. -/
theorem codeOfDecimal_eq_roundCode (d : Decimal) {k : Nat} (hk : 0 ≤ d.exponent + k) :
    codeOfDecimal d =
      roundCode (d.coefficient * 10 ^ (d.exponent + k).toNat * unitsPerOne) (10 ^ k) := by
  rw [codeOfDecimal_eq, roundCode_ratio d hk]

/-- Zeros behind the coefficient do not change the number. -/
theorem codeOfDecimal_expand (d : Decimal) {k : Nat} (hk : 0 ≤ d.exponent + k) :
    codeOfDecimal ⟨d.coefficient * 10 ^ (d.exponent + k).toNat, -k⟩ = codeOfDecimal d := by
  rw [codeOfDecimal_eq_roundCode _ (k := k) (by dsimp only; omega), codeOfDecimal_eq_roundCode d hk]
  dsimp only
  rw [Int.add_left_neg, Int.toNat_zero, pow_zero, Nat.mul_one]

/-- A decimal that rounds below a finite magnitude does not exceed it. -/
theorem le_magnitude_of_codeOfDecimal_lt {d : Decimal} {c k : Nat} (h : codeOfDecimal d < c)
    (hc : c < infinityCode) (hk : 0 ≤ d.exponent + k) :
    d.coefficient * 10 ^ (d.exponent + k).toNat * unitsPerOne ≤ magnitude c * 10 ^ k := by
  by_contra hlt
  have hle := le_roundCode_of_le (Nat.pow_pos (by decide)) hc (Nat.le_of_not_le hlt)
  rw [← codeOfDecimal_eq_roundCode d hk] at hle
  omega

end OneShot.Binary64

namespace OneShot.Decimal

open Binary64

/-- Trimming keeps what a decimal stands for. -/
theorem trimmed_spec (coefficient : Nat) (exponent : Int) :
    codeOfDecimal (trimmed coefficient exponent) = codeOfDecimal ⟨coefficient, exponent⟩ ∧
      (trimmed coefficient exponent).coefficient ≤ coefficient ∧
      exponent ≤ (trimmed coefficient exponent).exponent := by
  fun_induction trimmed coefficient exponent with
  | case1 coefficient exponent h ih =>
    obtain ⟨hcode, hcoefficient, hexponent⟩ := ih
    refine ⟨hcode.trans ?_, by omega, by omega⟩
    obtain ⟨n, rfl⟩ := Nat.dvd_of_mod_eq_zero h.2
    have hk : 0 ≤ exponent + (-exponent).toNat := by omega
    have hk' : 0 ≤ exponent + 1 + (-exponent).toNat := by omega
    rw [codeOfDecimal_eq_roundCode _ hk', codeOfDecimal_eq_roundCode _ hk]
    dsimp only
    rw [show (exponent + 1 + (-exponent).toNat).toNat = (exponent + (-exponent).toNat).toNat + 1 by
      omega, Nat.mul_div_cancel_left n (by decide), pow_succ', ← Nat.mul_assoc n,
      Nat.mul_comm n 10]
  | case2 => exact ⟨rfl, Nat.le_refl _, Int.le_refl _⟩

theorem codeOfDecimal_trim (d : Decimal) : codeOfDecimal d.trim = codeOfDecimal d :=
  (trimmed_spec _ _).1

theorem coefficient_trim_le (d : Decimal) : d.trim.coefficient ≤ d.coefficient :=
  (trimmed_spec _ _).2.1

theorem exponent_le_trim (d : Decimal) : d.exponent ≤ d.trim.exponent :=
  (trimmed_spec _ _).2.2

end OneShot.Decimal
