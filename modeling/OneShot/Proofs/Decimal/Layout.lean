import Mathlib.Algebra.Group.Nat.Defs
import OneShot.Decimal.Layout
import OneShot.Proofs.Json.Literal

/-!
# Layouts as literals

The layouts that show a point or an exponent write number literals, and well-formed ones. Laid out
with a point, the digits before the point and those behind it are the digits of the coefficient with
zeros around them; laid out with an exponent, they are exactly the digits of the coefficient.

## Main definitions

* `Decimal.pointedLiteral`, `Decimal.scientificLiteral` — the literals of the two layouts

## Main results

* `write_pointedLiteral`, `pointedLiteral_wellFormed` and the same for the other layout
* `length_wholeDigits_le` — how many digits stand before the point
-/

namespace OneShot.Decimal

open Json

/-! ### Digits -/

/-- A number begins with a zero only if it is zero. -/
theorem head_toDigits {n : Nat} (h : n ≠ 0) : ∀ c ∈ (Nat.toDigits 10 n).head?, c ≠ '0' := by
  induction n using Nat.strongRecOn with
  | ind n ih =>
    rw [Nat.toDigits_eq_if (by decide)]
    split_ifs with hlt
    · rintro _ ⟨⟩
      rwa [Ne, Nat.digitChar_eq_zero]
    · intro c hc
      rw [List.head?_append, Option.or_of_isSome (by simp)] at hc
      exact ih (n / 10) (by omega) (by omega) c hc

variable {d : Decimal}

theorem digits_ne_nil (d : Decimal) : d.digits ≠ [] := Nat.toDigits_ne_nil

theorem isDigit_of_mem_digits {c : Char} (h : c ∈ d.digits) : c.isDigit :=
  Nat.isDigit_of_mem_toDigits (by decide) (by decide) h

theorem isDigit_of_mem_wholeDigits : ∀ c ∈ d.wholeDigits, c.isDigit := by
  intro c hc
  rw [wholeDigits] at hc
  dsimp only at hc
  split_ifs at hc
  · rcases List.mem_append.1 hc with hc | hc
    · exact isDigit_of_mem_digits hc
    · rw [List.eq_of_mem_replicate hc]
      rfl
  · exact isDigit_of_mem_digits (List.mem_of_mem_take hc)
  · rw [List.mem_singleton.1 hc]
    rfl

theorem isDigit_of_mem_fractionDigits : ∀ c ∈ d.fractionDigits, c.isDigit := by
  intro c hc
  rw [fractionDigits] at hc
  dsimp only at hc
  split_ifs at hc
  · cases hc
  · exact isDigit_of_mem_digits (List.mem_of_mem_drop hc)
  · rcases List.mem_append.1 hc with hc | hc
    · rw [List.eq_of_mem_replicate hc]
      rfl
    · exact isDigit_of_mem_digits hc

/-- There is a fraction exactly if the exponent is negative. -/
theorem fractionDigits_eq_nil_iff : d.fractionDigits = [] ↔ 0 ≤ d.exponent := by
  have hpos : 0 < d.digits.length := List.length_pos_iff.2 d.digits_ne_nil
  rw [fractionDigits]
  dsimp only
  split_ifs with he hplaces
  · simp [he]
  · simp only [he, iff_false, ← List.length_eq_zero_iff, List.length_drop]
    omega
  · simp [he, d.digits_ne_nil]

/-- The digits before the point begin with a zero only if that is all of them. -/
theorem wholeDigits_shape (h : d.coefficient ≠ 0 ∨ d.exponent ≤ 0) :
    ∃ c cs, d.wholeDigits = c :: cs ∧ (c = '0' → cs = []) := by
  obtain ⟨c, cs, hcs⟩ := List.exists_cons_of_ne_nil d.digits_ne_nil
  have hzero : c = '0' → d.coefficient = 0 ∧ cs = [] := by
    intro hc
    by_cases h0 : d.coefficient = 0
    · have hdigits : d.digits = ['0'] := by rw [digits, h0]; rfl
      rw [hdigits] at hcs
      exact ⟨h0, (List.cons.inj hcs).2.symm⟩
    · refine absurd hc (head_toDigits h0 c ?_)
      rw [show Nat.toDigits 10 d.coefficient = c :: cs from hcs]
      rfl
  rw [wholeDigits, hcs]
  dsimp only
  split_ifs with he hplaces
  · refine ⟨c, cs ++ List.replicate d.exponent.toNat '0', rfl, fun hc => ?_⟩
    obtain ⟨h0, rfl⟩ := hzero hc
    have he0 : d.exponent.toNat = 0 := by omega
    rw [he0]
    rfl
  · obtain ⟨m, hm⟩ : ∃ m, (c :: cs).length - (-d.exponent).toNat = m + 1 :=
      Nat.exists_eq_succ_of_ne_zero (by omega)
    rw [hm, List.take_succ_cons]
    refine ⟨c, cs.take m, rfl, fun hc => ?_⟩
    rw [(hzero hc).2, List.take_nil]
  · exact ⟨'0', [], rfl, fun _ => rfl⟩

/-- There are as many digits before the point as the leading digit has places there, or one. -/
theorem length_wholeDigits_le {n : Nat} (hn : n ≠ 0) (h : d.order < n) :
    d.wholeDigits.length ≤ n := by
  rw [order] at h
  rw [wholeDigits]
  dsimp only
  split_ifs
  · rw [List.length_append, List.length_replicate]
    omega
  · rw [List.length_take]
    omega
  · exact Nat.one_le_iff_ne_zero.2 hn

theorem wholeDigits_ne_nil (d : Decimal) : d.wholeDigits ≠ [] := by
  have hpos : 0 < d.digits.length := List.length_pos_iff.2 d.digits_ne_nil
  rw [wholeDigits]
  dsimp only
  split_ifs
  · exact List.append_ne_nil_of_left_ne_nil d.digits_ne_nil _
  · rw [← List.length_pos_iff, List.length_take]
    omega
  · exact List.cons_ne_nil _ _

/-- There are as many digits behind the point as the exponent says. -/
theorem length_fractionDigits (d : Decimal) : d.fractionDigits.length = (-d.exponent).toNat := by
  rw [fractionDigits]
  dsimp only
  split_ifs
  · rw [List.length_nil]
    omega
  · rw [List.length_drop]
    omega
  · rw [List.length_append, List.length_replicate]
    omega

/-- The number that all digits make together. -/
theorem ofDigitChars_plain (d : Decimal) :
    Nat.ofDigitChars 10 (d.wholeDigits ++ d.fractionDigits) 0 =
      d.coefficient * 10 ^ d.exponent.toNat := by
  rw [wholeDigits, fractionDigits]
  dsimp only
  split_ifs with he
  · rw [List.append_nil, Nat.ofDigitChars_append, Nat.ofDigitChars_replicate_zero, digits,
      Nat.ofDigitChars_ten_toDigits, Nat.mul_comm]
  · rw [show d.exponent.toNat = 0 by omega, Nat.pow_zero, Nat.mul_one, List.take_append_drop]
    exact Nat.ofDigitChars_ten_toDigits
  · rw [show d.exponent.toNat = 0 by omega, Nat.pow_zero, Nat.mul_one, ← List.replicate_one,
      ← List.append_assoc, List.replicate_append_replicate, Nat.ofDigitChars_append,
      Nat.ofDigitChars_replicate_zero, Nat.mul_zero]
    exact Nat.ofDigitChars_ten_toDigits

/-! ### Literals -/

/-- The literal that is laid out with a point. -/
def pointedLiteral (negative : Bool) (d : Decimal) : Literal where
  negative := negative
  whole := digitsOf d.wholeDigits
  fraction := some (digitsOf (if d.fractionDigits = [] then ['0'] else d.fractionDigits))
  exponent := none

/-- The literal that is laid out with an exponent. -/
def scientificLiteral (negative : Bool) (d : Decimal) : Literal where
  negative := negative
  whole := digitsOf (d.digits.take 1)
  fraction := if d.digits.drop 1 = [] then none else some (digitsOf (d.digits.drop 1))
  exponent := some ⟨decide (d.order < 0), digitsOf (Nat.toDigits 10 d.order.natAbs)⟩

variable {negative : Bool}

theorem isDigit_of_mem_pointedFraction :
    ∀ c ∈ (if d.fractionDigits = [] then ['0'] else d.fractionDigits), c.isDigit := by
  intro c hc
  split_ifs at hc
  · rw [List.mem_singleton.1 hc]
    rfl
  · exact isDigit_of_mem_fractionDigits c hc

theorem write_pointedLiteral :
    (pointedLiteral negative d).write = (if negative then ['-'] else []) ++ d.pointed := by
  rw [Literal.write, pointedLiteral, pointed]
  dsimp only
  rw [map_char_digitsOf isDigit_of_mem_wholeDigits, Literal.writeFraction, Literal.writeExponent,
    map_char_digitsOf isDigit_of_mem_pointedFraction, List.append_nil]

theorem pointedLiteral_wellFormed (h : d.coefficient ≠ 0 ∨ d.exponent ≤ 0) :
    (pointedLiteral negative d).WellFormed where
  whole := by
    obtain ⟨c, cs, hcs, hzero⟩ := wholeDigits_shape h
    refine ⟨digitOf c, digitsOf cs, by rw [pointedLiteral, hcs]; rfl, fun hc => ?_⟩
    have hdigit : c.isDigit := isDigit_of_mem_wholeDigits c (hcs ▸ List.mem_cons_self)
    rw [hzero (by rw [← char_digitOf hdigit, hc]; rfl)]
    rfl
  fraction := by
    rw [pointedLiteral, Ne, Option.some.injEq, digitsOf, List.map_eq_nil_iff]
    split_ifs with hfraction
    · exact not_false
    · exact hfraction
  exponent := by rintro _ ⟨⟩

theorem write_scientificLiteral :
    (scientificLiteral negative d).write = (if negative then ['-'] else []) ++ d.scientific := by
  have htake : ∀ c ∈ d.digits.take 1, c.isDigit := fun c hc =>
    isDigit_of_mem_digits (List.mem_of_mem_take hc)
  have hdrop : ∀ c ∈ d.digits.drop 1, c.isDigit := fun c hc =>
    isDigit_of_mem_digits (List.mem_of_mem_drop hc)
  have horder : ∀ c ∈ Nat.toDigits 10 d.order.natAbs, c.isDigit := fun c hc =>
    Nat.isDigit_of_mem_toDigits (by decide) (by decide) hc
  have hfraction : Literal.writeFraction (scientificLiteral negative d).fraction =
      if d.digits.drop 1 = [] then [] else '.' :: d.digits.drop 1 := by
    rw [scientificLiteral]
    dsimp only
    split_ifs
    · rfl
    · rw [Literal.writeFraction, map_char_digitsOf hdrop]
  rw [Literal.write, hfraction, scientificLiteral, scientific]
  dsimp only
  rw [map_char_digitsOf htake, Literal.writeExponent]
  dsimp only
  rw [map_char_digitsOf horder]
  by_cases hneg : d.order < 0 <;> simp [hneg]

theorem scientificLiteral_wellFormed : (scientificLiteral negative d).WellFormed where
  whole := by
    obtain ⟨c, cs, hcs⟩ := List.exists_cons_of_ne_nil d.digits_ne_nil
    exact ⟨digitOf c, [], by rw [scientificLiteral, hcs]; rfl, fun _ => rfl⟩
  fraction := by
    rw [scientificLiteral]
    dsimp only
    split_ifs with hdrop
    · exact nofun
    · rw [Ne, Option.some.injEq, digitsOf, List.map_eq_nil_iff]
      exact hdrop
  exponent := by
    rintro _ ⟨⟩
    rw [Ne, digitsOf, List.map_eq_nil_iff]
    exact Nat.toDigits_ne_nil

end OneShot.Decimal
