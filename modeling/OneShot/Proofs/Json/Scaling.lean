import OneShot.Proofs.Decimal.Nearest
import OneShot.Proofs.Json.Literal

/-!
# The values of number literals

When a literal has a value, and that the value is finite and has the sign of the literal. A literal
is out of range only if a power of ten with a positive exponent is to be multiplied, and then only
if the product is infinite; every other step of the computation gives a finite number.

## Main results

* `Literal.significand_eq` — the significand of a literal whose digits all fit
* `scale_isSome_of_nonpos`, `scale_isSome_of_le` — values in range
* `scale_isFinite`, `Literal.numeral_isFinite` — values are finite
* `Literal.float_negative` — the sign of a value
* `Literal.float_eq_of_digits` — the value of digits alone
-/

namespace OneShot.Json

open Binary64

/-! ### Significands -/

/-- As many digits make a number below that power of ten. -/
theorem valueFrom_lt (value : Nat) (ds : List Digit) :
    valueFrom value ds < (value + 1) * 10 ^ ds.length := by
  induction ds generalizing value with
  | nil => rw [List.length_nil, pow_zero, Nat.mul_one]; exact Nat.lt_succ_self value
  | cons d ds ih =>
    have hd : value * 10 + d.val + 1 ≤ (value + 1) * 10 := by omega
    calc valueFrom value (d :: ds) < (value * 10 + d.val + 1) * 10 ^ ds.length := ih _
      _ ≤ (value + 1) * 10 * 10 ^ ds.length := Nat.mul_le_mul_right _ hd
      _ = (value + 1) * 10 ^ (d :: ds).length := by
        rw [List.length_cons, pow_succ', Nat.mul_assoc]

/-- If all digits fit, the significand is the number that they write, and the power is that of the
last fraction digit. -/
theorem Literal.significand_eq {literal : Literal}
    (h : valueFrom 0 (literal.whole ++ literal.fraction.getD []) < 0x10000000000000000) :
    literal.significand = (valueFrom 0 (literal.whole ++ literal.fraction.getD []),
      -((literal.fraction.getD []).length : Int)) := by
  rw [valueFrom_append] at h ⊢
  rw [significand, absorb_eq_of_lt (Nat.lt_of_le_of_lt (le_valueFrom _ _) h)]
  dsimp only
  rw [absorb_eq_of_lt h]
  dsimp only
  rw [List.length_nil, Nat.sub_zero, Int.natCast_zero, Int.zero_sub]

/-! ### Powers of ten -/

theorem powerOfTen_code_mono {m n : Nat} (h : m ≤ n) :
    (powerOfTen m).code ≤ (powerOfTen n).code := by
  change codeOfDecimal ⟨1, m⟩ ≤ codeOfDecimal ⟨1, n⟩
  rw [codeOfDecimal_eq_roundCode _ (k := 0) (by dsimp only; omega),
    codeOfDecimal_eq_roundCode _ (k := 0) (by dsimp only; omega)]
  refine roundCode_mono (Nat.pow_pos (by decide)) (Nat.pow_pos (by decide)) ?_
  refine Nat.mul_le_mul_right _ (Nat.mul_le_mul_right _ (Nat.mul_le_mul_left _ ?_))
  exact Nat.pow_le_pow_right (by decide) (by dsimp only; omega)

theorem powerOfTen_isFinite {n : Nat} (h : n ≤ 308) : (powerOfTen n).IsFinite := by
  have hlast : (powerOfTen 308).IsFinite := by decide +kernel
  exact Nat.lt_of_le_of_lt (powerOfTen_code_mono h) hlast

theorem powerOfTen_zero_code : (powerOfTen 0).code = oneCode := by decide +kernel

theorem oneCode_le_powerOfTen (n : Nat) : oneCode ≤ (powerOfTen n).code := by
  rw [← powerOfTen_zero_code]
  exact powerOfTen_code_mono n.zero_le

/-! ### Scaling -/

theorem powerOfTen_div_isFinite {x : Binary64} (hx : x.IsFinite) {n : Nat} (h : n ≤ 308) :
    (x.div (powerOfTen n)).IsFinite :=
  div_isFinite hx (not_isNaN_of_isFinite (powerOfTen_isFinite h)) (oneCode_le_powerOfTen n)

theorem mul_powerOfTen_negative {x : Binary64} (hx : x.IsFinite) {n : Nat} (h : n ≤ 308) :
    (x.mul (powerOfTen n)).negative = x.negative := by
  rw [mul_eq_ofRatio hx (powerOfTen_isFinite h)]
  exact Bool.bne_false _

theorem div_powerOfTen_negative {x : Binary64} (hx : x.IsFinite) {n : Nat} (h : n ≤ 308) :
    (x.div (powerOfTen n)).negative = x.negative := by
  have hzero : (powerOfTen n).code ≠ 0 :=
    (Nat.lt_of_lt_of_le (by decide) (oneCode_le_powerOfTen n)).ne'
  rw [div_eq_ofRatio hx (powerOfTen_isFinite h) hzero]
  exact Bool.bne_false _

/-- Multiplication by one changes no magnitude. -/
theorem mul_powerOfTen_zero_code {x : Binary64} (hx : x.IsFinite) :
    (x.mul (powerOfTen 0)).code = x.code := by
  rw [mul_eq_ofRatio hx (powerOfTen_isFinite (by decide)), powerOfTen_zero_code,
    magnitude_oneCode]
  exact roundCode_magnitude unitsPerOne_pos hx

/-- Multiplication by one changes nothing. -/
theorem scale_zero {x : Binary64} (hx : x.IsFinite) : scale x 0 = some x := by
  have hcode := mul_powerOfTen_zero_code hx
  have hmul : x.mul (powerOfTen 0) = x :=
    Binary64.ext (mul_powerOfTen_negative hx (by decide)) hcode
  have hfinite : ¬(x.mul (powerOfTen 0)).IsInfinite := by
    rw [hmul]
    exact not_isInfinite_of_isFinite hx
  rw [scale, if_pos (by decide), if_pos (Int.le_refl 0)]
  change (if (x.mul (powerOfTen 0)).IsInfinite then none else some (x.mul (powerOfTen 0))) = some x
  rw [if_neg hfinite, hmul]

/-- Only a positive exponent can be out of range. -/
theorem scale_isSome_of_nonpos {x : Binary64} (hx : x.IsFinite) {e : Int} (h : e ≤ 0) :
    (scale x e).isSome := by
  fun_induction scale x e with
  | case1 x e hsmall hpos scaled hinf =>
    obtain rfl : e = 0 := by omega
    have hcode : scaled.code = x.code := mul_powerOfTen_zero_code hx
    rw [IsInfinite, hcode] at hinf
    exact absurd hinf (Nat.ne_of_lt hx)
  | case2 => rfl
  | case3 => rfl
  | case4 => rfl
  | case5 x e hlarge hzero hpos => omega
  | case6 x e hlarge hzero hpos ih => exact ih (powerOfTen_div_isFinite hx (by decide)) (by omega)

/-- A scaled number is finite. -/
theorem scale_isFinite {x y : Binary64} {e : Int} (hx : x.IsFinite) (h : scale x e = some y) :
    y.IsFinite := by
  fun_induction scale x e with
  | case1 => cases h
  | case2 x e hsmall hpos scaled hinf =>
    rw [← Option.some.inj h]
    have hscaled : scaled = ofRatio _ _ _ :=
      mul_eq_ofRatio hx (powerOfTen_isFinite (by omega : e.toNat ≤ 308))
    rw [hscaled] at hinf ⊢
    exact (ofRatio_isFinite_or_isInfinite _ _ _).resolve_right hinf
  | case3 x e hsmall hneg =>
    cases h
    exact powerOfTen_div_isFinite hx hsmall
  | case4 =>
    cases h
    exact hx
  | case5 => cases h
  | case6 x e hlarge hzero hpos ih => exact ih (powerOfTen_div_isFinite hx (by decide)) h

/-- A scaled number keeps its sign. -/
theorem scale_negative {x y : Binary64} {e : Int} (hx : x.IsFinite) (h : scale x e = some y) :
    y.negative = x.negative := by
  fun_induction scale x e with
  | case1 => cases h
  | case2 x e hsmall hpos scaled hinf =>
    rw [← Option.some.inj h]
    exact mul_powerOfTen_negative hx (by omega)
  | case3 x e hsmall hneg =>
    cases h
    exact div_powerOfTen_negative hx hsmall
  | case4 => cases h; rfl
  | case5 => cases h
  | case6 x e hlarge hzero hpos ih =>
    rw [ih (powerOfTen_div_isFinite hx (by decide)) h]
    exact div_powerOfTen_negative hx (by decide)

/-- The largest coefficient of at most seventeen digits that goes with a power of ten. -/
def largestCoefficient (n : Nat) : Nat :=
  min (10 ^ 17) (magnitude (infinityCode - 1) / (10 ^ n * unitsPerOne))

/-- With the largest coefficient the product is still in range. Below `10 ^ 292` the coefficient is
bounded by its digits alone; for the other powers it is checked one by one. -/
theorem mul_largestCoefficient_isFinite {n : Nat} (h : n ≤ 308) :
    ((Binary64.ofInt (largestCoefficient n)).mul (powerOfTen n)).IsFinite := by
  rcases Nat.lt_or_ge n 292 with hlt | hge
  · have hlast : ((Binary64.ofInt (10 ^ 17 : Nat)).mul (powerOfTen 291)).IsFinite := by
      decide +kernel
    refine Nat.lt_of_le_of_lt (mul_code_mono (ofNat_isFinite (by decide))
      (powerOfTen_isFinite (by decide)) (ofNat_code_mono ?_) ?_) hlast
    · exact Nat.min_le_left _ _
    · exact powerOfTen_code_mono (by omega)
  · have hall : ∀ i < 17, ((Binary64.ofInt (largestCoefficient (292 + i))).mul
        (powerOfTen (292 + i))).IsFinite := by
      decide +kernel
    have hi := hall (n - 292) (by omega)
    rwa [Nat.add_sub_cancel' hge] at hi

/-- A number that is in range, as a coefficient of at most seventeen digits and a power of ten, is
in range when it is computed with rounding. -/
theorem scale_isSome_of_le {c n : Nat} (hc : c ≠ 0) (hdigits : c ≤ 10 ^ 17)
    (h : c * 10 ^ n * unitsPerOne ≤ magnitude (infinityCode - 1)) :
    (scale (.ofInt c) n).isSome := by
  have hn : n ≤ 308 := by
    by_contra hlarge
    have hrange : magnitude (infinityCode - 1) < 10 ^ 309 * unitsPerOne := by decide +kernel
    have hpow : 10 ^ 309 ≤ c * 10 ^ n :=
      (Nat.pow_le_pow_right (by decide) (by omega)).trans
        (Nat.le_mul_of_pos_left _ (Nat.pos_of_ne_zero hc))
    exact Nat.not_lt.2 ((Nat.mul_le_mul_right _ hpow).trans h) hrange
  have hle : c ≤ largestCoefficient n := by
    refine Nat.le_min.2 ⟨hdigits, ?_⟩
    rw [Nat.le_div_iff_mul_le (Nat.mul_pos (Nat.pow_pos (by decide)) unitsPerOne_pos),
      ← Nat.mul_assoc]
    exact h
  have hfinite : (Binary64.ofInt (largestCoefficient n)).IsFinite :=
    ofNat_isFinite ((Nat.min_le_left _ _).trans (by decide))
  have hmul : ((Binary64.ofInt c).mul (powerOfTen n)).IsFinite :=
    Nat.lt_of_le_of_lt (mul_code_mono hfinite (powerOfTen_isFinite hn) (ofNat_code_mono hle)
      (Nat.le_refl _)) (mul_largestCoefficient_isFinite hn)
  rw [scale, if_pos (by omega), if_pos (Int.natCast_nonneg n)]
  dsimp only
  rw [Int.toNat_natCast, if_neg (not_isInfinite_of_isFinite hmul)]
  rfl

/-! ### Floating point values -/

namespace Literal

/-- Whole digits that all fit raise no power of ten. -/
theorem power_nonpos {literal : Literal} (h : valueFrom 0 literal.whole < 0x10000000000000000) :
    literal.significand.2 ≤ 0 := by
  rw [significand, absorb_eq_of_lt h]
  dsimp only
  rw [List.length_nil]
  omega

theorem significand_lt (literal : Literal) : literal.significand.1 < 0x10000000000000000 := by
  rw [significand]
  exact absorb_lt (absorb_lt (by decide) _) _

theorem significand_isFinite (literal : Literal) :
    (Binary64.ofInt literal.significand.1).IsFinite :=
  ofNat_isFinite literal.significand_lt.le

theorem signed_isFinite {literal : Literal} {x : Binary64} (h : x.IsFinite) :
    (literal.signed x).IsFinite := by
  rw [signed]
  split_ifs
  · exact h
  · exact h

/-- The value that a significand and a power of ten give. -/
def scaled (literal : Literal) (power : Int) : Except Nat Binary64 :=
  match scale (.ofInt literal.significand.1) power with
  | some x => .ok (literal.signed x)
  | none => .error 0

theorem scaled_isOk {literal : Literal} {power : Int}
    (h : (scale (.ofInt literal.significand.1) power).isSome) :
    ∃ x, literal.scaled power = .ok x := by
  obtain ⟨x, hx⟩ := Option.isSome_iff_exists.1 h
  exact ⟨_, by rw [scaled, hx]⟩

theorem scaled_isFinite {literal : Literal} {power : Int} {x : Binary64}
    (h : literal.scaled power = .ok x) : x.IsFinite := by
  rw [scaled] at h
  split at h
  · rename_i y hy
    cases h
    exact signed_isFinite (scale_isFinite literal.significand_isFinite hy)
  · cases h

/-- A magnitude gets the sign of the literal. -/
theorem signed_negative {literal : Literal} {x : Binary64} (h : x.negative = false) :
    (literal.signed x).negative = literal.negative := by
  rw [signed]
  cases literal.negative
  · exact h
  · exact congrArg not h

theorem scaled_negative {literal : Literal} {power : Int} {x : Binary64}
    (h : literal.scaled power = .ok x) : x.negative = literal.negative := by
  rw [scaled] at h
  split at h
  · rename_i y hy
    cases h
    exact signed_negative (scale_negative literal.significand_isFinite hy)
  · cases h

/-- The value of a literal without an exponent part. -/
theorem float_eq_scaled {literal : Literal} (h : literal.exponent = none) :
    literal.float = literal.scaled literal.significand.2 := by
  rw [float, h]
  rfl

/-- The value of a literal with an exponent part that is not too large. -/
theorem float_eq_scaled_of_exponent {literal : Literal} {exponent : Exponent} {value : Nat}
    (h : literal.exponent = some exponent) (hvalue : exponentValue 0 exponent.digits = .ok value) :
    literal.float = literal.scaled (clampExponent
      (if exponent.negative then literal.significand.2 - value
        else literal.significand.2 + value)) := by
  rw [float, h]
  dsimp only
  rw [hvalue]
  rfl

/-- A value is a scaled significand, or zero if the exponent is too large. -/
theorem scaled_or_zero_of_float {literal : Literal} {x : Binary64} (h : literal.float = .ok x) :
    (∃ power, literal.scaled power = .ok x) ∨ x = literal.signed (.zero false) := by
  cases hexponent : literal.exponent with
  | none =>
    rw [float_eq_scaled hexponent] at h
    exact .inl ⟨_, h⟩
  | some exponent =>
    cases hvalue : exponentValue 0 exponent.digits with
    | ok value =>
      rw [float_eq_scaled_of_exponent hexponent hvalue] at h
      exact .inl ⟨_, h⟩
    | error behind =>
      rw [float, hexponent] at h
      dsimp only at h
      rw [hvalue] at h
      dsimp only at h
      split_ifs at h
      cases h
      exact .inr rfl

/-- **The value of a literal is finite.** -/
theorem float_isFinite {literal : Literal} {x : Binary64} (h : literal.float = .ok x) :
    x.IsFinite := by
  obtain ⟨power, hscaled⟩ | rfl := scaled_or_zero_of_float h
  · exact scaled_isFinite hscaled
  · exact signed_isFinite (zero_isFinite false)

/-- **The value of a literal has its sign**, zeros included. -/
theorem float_negative {literal : Literal} {x : Binary64} (h : literal.float = .ok x) :
    x.negative = literal.negative := by
  obtain ⟨power, hscaled⟩ | rfl := scaled_or_zero_of_float h
  · exact scaled_negative hscaled
  · exact signed_negative rfl

theorem scaled_zero (literal : Literal) :
    literal.scaled 0 = .ok (literal.signed (.ofInt literal.significand.1)) := by
  rw [scaled, scale_zero literal.significand_isFinite]

/-- The value of a literal of digits alone, all of which fit. -/
theorem float_eq_of_digits {literal : Literal} (hfraction : literal.fraction = none)
    (hexponent : literal.exponent = none)
    (h : valueFrom 0 literal.whole < 0x10000000000000000) :
    literal.float = .ok (literal.signed (.ofInt (valueFrom 0 literal.whole))) := by
  have hsignificand : literal.significand = (valueFrom 0 literal.whole, 0) := by
    rw [significand, absorb_eq_of_lt h, hfraction]
    rfl
  rw [float_eq_scaled hexponent, congrArg Prod.snd hsignificand, scaled_zero, hsignificand]

end Literal

/-- Digits that write a number below `2 ^ 31` make an exponent. -/
theorem exponentValue_eq_of_lt {value : Nat} {ds : List Digit}
    (h : valueFrom value ds < 0x80000000) : exponentValue value ds = .ok (valueFrom value ds) := by
  induction ds generalizing value with
  | nil => rfl
  | cons d ds ih =>
    rw [valueFrom_cons] at h ⊢
    rw [exponentValue, if_pos (Nat.lt_of_le_of_lt (le_valueFrom _ ds) h), ih h]

theorem clampExponent_eq {e : Int} (h : e.natAbs < 0x80000000) : clampExponent e = e := by
  rw [clampExponent]
  omega

/-- What a number literal can stand for: an integer of 64 bits, or a finite number. -/
def Numeral.IsFinite : Numeral → Prop
  | .integer i => i.natAbs ≤ 0x10000000000000000
  | .float x => x.IsFinite

theorem Literal.numeral_isFinite {literal : Literal} {value : Numeral}
    (h : literal.numeral = .ok value) : value.IsFinite := by
  have hlt : (absorb 0 literal.whole).1 < 0x10000000000000000 := absorb_lt (by decide) _
  rw [numeral] at h
  generalize (absorb 0 literal.whole).1 = magnitude at h hlt
  split_ifs at h
  · cases h
    exact neg_isFinite.2 (ofNat_isFinite hlt.le)
  · cases h
    change (-(magnitude : Int)).natAbs ≤ 0x10000000000000000
    omega
  · cases h
    exact hlt.le
  · obtain ⟨x, hx, rfl⟩ := map_eq_ok.1 h
    exact float_isFinite hx

/-- A literal that is no integer is read as its floating point value. -/
theorem Literal.outcome_eq_float {literal : Literal} (h : literal.isInteger = false) :
    literal.outcome =
      (literal.float.mapError fun _ => Cause.numberOutOfRange).map Numeral.float := by
  rw [outcome, numeral, h, if_neg Bool.false_ne_true]
  cases literal.float <;> rfl

end OneShot.Json
