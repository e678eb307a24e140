import OneShot.Decimal.Reader
import OneShot.Number.Text
import OneShot.Proofs.Decimal.Layout
import OneShot.Proofs.Decimal.Shortest

/-!
# Floating point arguments written and read

A floating point argument is written without an exponent, however many zeros that takes, and read
by rounding once. So what has to be shown is that the reader gets the decimal that was laid out,
`decimal?_plain`, with its coefficient and its exponent changed but not its value; that this decimal
rounds to the number again is what the shortest decimal is chosen for.

Infinities and NaNs are words of their own. The word of a NaN tells neither its sign nor its
payload.

## Main definitions

* `Binary64.reread` — what is read of the text of a number

## Main results

* `Binary64.decimal?_plain` — the reader on a layout without an exponent
* `Binary64.ofText?_text` — the text of a number reads back
-/

namespace OneShot.Binary64

open Json

/-! ### Signs -/

/-- A word that shows no sign itself is split off from the sign in front of it. -/
theorem splitSign_sign (x : Binary64) {word : List Char}
    (h : ∀ c ∈ word.head?, c ≠ '-' ∧ c ≠ '+') :
    splitSign (x.sign ++ word) = (x.negative, word) := by
  rw [sign]
  cases x.negative with
  | true => rfl
  | false =>
    cases word with
    | nil => rfl
    | cons c rest =>
      obtain ⟨hminus, hplus⟩ := h c rfl
      simp [splitSign, hminus, hplus]

/-! ### Digits -/

theorem takeWhile_isDigit {digits rest : List Char} (h : ∀ c ∈ digits, c.isDigit)
    (hrest : ∀ c ∈ rest.head?, c.isDigit = false) :
    (digits ++ rest).takeWhile Char.isDigit = digits ∧
      (digits ++ rest).dropWhile Char.isDigit = rest := by
  rw [List.takeWhile_append_of_pos h, List.dropWhile_append_of_pos h]
  cases rest with
  | nil => simp
  | cons c rest => simp [hrest c rfl]

/-- The digits behind the point, with the point, end the word. -/
theorem splitFraction_plain (d : Decimal) :
    d.plain.takeWhile Char.isDigit = d.wholeDigits ∧
      splitFraction (d.plain.dropWhile Char.isDigit) = (d.fractionDigits, []) := by
  have hwhole := @Decimal.isDigit_of_mem_wholeDigits d
  have hfraction := @Decimal.isDigit_of_mem_fractionDigits d
  rw [Decimal.plain]
  split_ifs with hnil
  · have hdigits := @takeWhile_isDigit d.wholeDigits [] hwhole nofun
    rw [List.append_nil] at hdigits
    rw [hdigits.1, hdigits.2, hnil]
    exact ⟨rfl, rfl⟩
  · have hdigits := @takeWhile_isDigit d.wholeDigits ('.' :: d.fractionDigits) hwhole
      (by rintro _ ⟨⟩; rfl)
    have hbehind := @takeWhile_isDigit d.fractionDigits [] hfraction nofun
    rw [List.append_nil] at hbehind
    rw [hdigits.1, hdigits.2, splitFraction, hbehind.1, hbehind.2]
    exact ⟨rfl, rfl⟩

/-- **A layout without an exponent is read as the number that its digits make**, over as many places
as stand behind the point. -/
theorem decimal?_plain (d : Decimal) :
    decimal? d.plain =
      some ⟨d.coefficient * 10 ^ d.exponent.toNat, -((-d.exponent).toNat : Int)⟩ := by
  have hne : d.wholeDigits ++ d.fractionDigits ≠ [] :=
    List.append_ne_nil_of_left_ne_nil d.wholeDigits_ne_nil _
  obtain ⟨hwhole, hfraction⟩ := splitFraction_plain d
  rw [decimal?, hwhole, hfraction]
  dsimp only
  rw [if_neg hne, exponent?, Option.map_some, Decimal.ofDigitChars_plain,
    Decimal.length_fractionDigits, Int.zero_sub]

/-- It is the decimal that was laid out. -/
theorem codeOfDecimal_plain (d : Decimal) :
    codeOfDecimal ⟨d.coefficient * 10 ^ d.exponent.toNat, -((-d.exponent).toNat : Int)⟩ =
      codeOfDecimal d := by
  have hexpand := codeOfDecimal_expand d (k := (-d.exponent).toNat) (by omega)
  rwa [show (d.exponent + (-d.exponent).toNat).toNat = d.exponent.toNat by omega] at hexpand

/-! ### Words -/

/-- The first character of a layout is a digit. -/
theorem exists_head_plain (d : Decimal) :
    ∃ c rest, d.plain = c :: rest ∧ c.isDigit := by
  obtain ⟨c, rest, hwhole⟩ := List.exists_cons_of_ne_nil d.wholeDigits_ne_nil
  have hdigit : c.isDigit := Decimal.isDigit_of_mem_wholeDigits c (hwhole ▸ List.mem_cons_self)
  rw [Decimal.plain, hwhole]
  split_ifs
  · exact ⟨c, rest, rfl, hdigit⟩
  · exact ⟨c, _, rfl, hdigit⟩

/-- A digit is neither a sign nor a letter. -/
theorem not_other_of_isDigit {c : Char} (h : c.isDigit) :
    c ≠ '-' ∧ c ≠ '+' ∧ c.toLower ≠ 'i' ∧ c.toLower ≠ 'n' := by
  have hall : ∀ d : Digit, d.char ≠ '-' ∧ d.char ≠ '+' ∧ d.char.toLower ≠ 'i' ∧
      d.char.toLower ≠ 'n' := by
    decide
  rw [← char_digitOf h]
  exact hall _

/-- A signed layout is read as the nearest number to the decimal. -/
theorem ofText?_plain (x : Binary64) (d : Decimal) :
    ofText? (String.ofList (x.sign ++ d.plain)) = some (ofDecimal x.negative d) := by
  obtain ⟨c, rest, hplain, hdigit⟩ := exists_head_plain d
  obtain ⟨hminus, hplus, hi, hn⟩ := not_other_of_isDigit hdigit
  have hsplit : splitSign (x.sign ++ d.plain) = (x.negative, d.plain) := by
    refine splitSign_sign x ?_
    rw [hplain]
    rintro _ ⟨⟩
    exact ⟨hminus, hplus⟩
  have hletter {letter : Char} {letters : List Char} (h : c.toLower ≠ letter) :
      d.plain.map Char.toLower ≠ letter :: letters := by
    rw [hplain, List.map_cons]
    intro heq
    exact h (List.cons.inj heq).1
  have hinf : ¬(d.plain.map Char.toLower = "inf".toList ∨
      d.plain.map Char.toLower = "infinity".toList) := not_or.2 ⟨hletter hi, hletter hi⟩
  have hnan : d.plain.map Char.toLower ≠ "nan".toList := hletter hn
  rw [ofText?, String.toList_ofList, hsplit]
  dsimp only
  rw [if_neg hinf, if_neg hnan, decimal?_plain, Option.map_some, ofDecimal, ofDecimal]
  simp only [codeOfDecimal_plain]

/-- A number is written without the zero character. -/
theorem zero_notMem_text (x : Binary64) : '\x00' ∉ x.text.toList := by
  have hsign : '\x00' ∉ x.sign := by
    rw [sign]
    split_ifs <;> decide
  have hdigit {cs : List Char} (h : ∀ c ∈ cs, c.isDigit) : '\x00' ∉ cs := fun hmem =>
    absurd (h _ hmem) (by decide)
  rw [text]
  split_ifs
  · decide
  · rw [String.toList_ofList, List.mem_append]
    exact not_or.2 ⟨hsign, by decide⟩
  · rw [String.toList_ofList, List.mem_append, Decimal.plain]
    refine not_or.2 ⟨hsign, ?_⟩
    have hwhole := hdigit (Decimal.shortest .upward x.code).isDigit_of_mem_wholeDigits
    have hfraction := hdigit (Decimal.shortest .upward x.code).isDigit_of_mem_fractionDigits
    split_ifs
    · exact hwhole
    · rw [List.mem_append, List.mem_cons]
      exact not_or.2 ⟨hwhole, not_or.2 ⟨by decide, hfraction⟩⟩

/-- What is read of the text of a number: the number, and for a NaN the one without a sign and a
payload. -/
def reread (x : Binary64) : Binary64 := if x.IsNaN then nan else x

theorem reread_eq_self {x : Binary64} (h : ¬x.IsNaN) : x.reread = x := if_neg h

theorem reread_isNaN_iff {x : Binary64} : x.reread.IsNaN ↔ x.IsNaN := by
  rw [reread]
  split_ifs with h
  · exact iff_of_true (by decide) h
  · rfl

/-- **The text of a number reads back.** -/
theorem ofText?_text (x : Binary64) : ofText? x.text = some x.reread := by
  rw [text, reread]
  split_ifs with hnan hinf
  · decide
  · have hx : infinity x.negative = x := Binary64.ext rfl hinf.symm
    have hsplit : splitSign (x.sign ++ "inf".toList) = (x.negative, "inf".toList) :=
      splitSign_sign x (by rintro _ ⟨⟩; decide)
    rw [ofText?, String.toList_ofList, hsplit]
    dsimp only
    rw [if_pos (.inl (by decide)), hx]
  · have hx : x.IsFinite := isFinite_of_not_isNaN_of_not_isInfinite hnan hinf
    have hcode : codeOfDecimal (Decimal.shortest .upward x.code) = x.code :=
      (Decimal.shortest_spec .upward hx).1
    rw [ofText?_plain, show ofDecimal x.negative _ = x from Binary64.ext rfl hcode]

end OneShot.Binary64
