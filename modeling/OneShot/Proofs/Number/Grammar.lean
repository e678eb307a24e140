import OneShot.Proofs.Json.Array
import OneShot.Proofs.Number.Decoders

/-!
# The grammar of the list argument

The list argument is an array of number literals with white space wherever two tokens meet, all of
which are in range, and nothing else. Each literal stands for one number: for an integer if it has
neither a fraction nor an exponent, its value fits into 64 bits with a sign, and it is not minus
zero; otherwise for the floating point number that is its value.

The value of an integer literal that does not fit is computed in several ways: digits that fit into
64 bits without a sign are kept as an integer and converted later, and the others go into a
significand. `Literal.ofNumeral_of_not_isInt64` says that this makes no difference.

## Main definitions

* `Json.Literal.IsInt64` — the literals of integers
* `Json.Literal.StandsFor` — the number for which a literal stands

## Main results

* `Json.Literal.standsFor_iff` — what the literal is read as
* `Number.reader_run_eq_ok_iff_literal` — where a number is read
* `NumberList.parse_eq_ok_iff_isArray` — the texts that are read, and the numbers of each of them
-/

namespace OneShot

open Json

/-! ### The numbers of literals -/

namespace Json.Literal

/-- The value of the digits before the point, with the sign. -/
def integer (literal : Literal) : Int :=
  if literal.negative then -(valueFrom 0 literal.whole : Int) else valueFrom 0 literal.whole

/-- The literals of integers of 64 bits. -/
structure IsInt64 (literal : Literal) : Prop where
  fraction : literal.fraction = none
  exponent : literal.exponent = none
  inRange : Number.InRange literal.integer
  /-- Minus zero is no integer. -/
  sign : literal.negative = true → literal.integer ≠ 0

/-- The number for which a literal stands; none if it is out of range. -/
inductive StandsFor (literal : Literal) : Number → Prop where
  | int {i : Int64} (h : literal.IsInt64) (value : i.toInt = literal.integer) :
      StandsFor literal (.int i)
  | float {x : Binary64} (h : ¬literal.IsInt64) (value : literal.float = .ok x) :
      StandsFor literal (.float x)

variable {literal : Literal} {number : Number}

theorem isInteger_iff : literal.isInteger = true ↔ literal.fraction = none ∧
    literal.exponent = none ∧ valueFrom 0 literal.whole < 0x10000000000000000 := by
  rw [isInteger, Bool.and_eq_true, Bool.and_eq_true, Option.isNone_iff_eq_none,
    Option.isNone_iff_eq_none, List.isEmpty_iff, absorb_eq_nil_iff (by decide), and_assoc]

theorem IsInt64.valueFrom_lt (h : literal.IsInt64) :
    valueFrom 0 literal.whole < 0x10000000000000000 := by
  have hrange := h.inRange
  rw [Number.InRange, integer] at hrange
  split_ifs at hrange <;> omega

theorem integer_of_negative (h : literal.negative = true) :
    literal.integer = -(valueFrom 0 literal.whole : Int) := by
  rw [integer, if_pos h]

theorem integer_of_not_negative (h : literal.negative = false) :
    literal.integer = valueFrom 0 literal.whole := by
  rw [integer, h, if_neg Bool.false_ne_true]

/-- A literal of an integer has its value. -/
theorem IsInt64.numeral_eq (h : literal.IsInt64) :
    literal.numeral = .ok (.integer literal.integer) := by
  have hlt := h.valueFrom_lt
  have hrange := h.inRange
  rw [numeral, absorb_eq_of_lt hlt, if_pos (isInteger_iff.2 ⟨h.fraction, h.exponent, hlt⟩)]
  dsimp only
  cases hnegative : literal.negative
  · rw [integer_of_not_negative hnegative, if_pos Bool.false_ne_true]
  · have hsign := h.sign hnegative
    rw [integer_of_negative hnegative] at hrange hsign ⊢
    rw [Number.InRange] at hrange
    have hsmall : ¬(valueFrom 0 literal.whole = 0 ∨
        0x8000000000000000 < valueFrom 0 literal.whole) := by
      omega
    rw [if_neg (not_not_intro rfl), if_neg hsmall]

/-- Every other literal has its floating point value, whether it is read as an integer or not. -/
theorem ofNumeral_of_not_isInt64 (h : ¬literal.IsInt64) :
    literal.numeral.map Number.ofNumeral = literal.float.map Number.float := by
  by_cases hinteger : literal.isInteger = true
  · obtain ⟨hfraction, hexponent, hlt⟩ := isInteger_iff.1 hinteger
    rw [numeral, if_pos hinteger, absorb_eq_of_lt hlt, float_eq_of_digits hfraction hexponent hlt]
    dsimp only
    cases hnegative : literal.negative
    · have hvalue := integer_of_not_negative hnegative
      have hrange : ¬Number.InRange (valueFrom 0 literal.whole) := by
        intro hrange
        refine h ⟨hfraction, hexponent, hvalue ▸ hrange, fun hsign => ?_⟩
        rw [hnegative] at hsign
        cases hsign
      have hnumber : Number.ofNumeral (.integer (valueFrom 0 literal.whole)) =
          .float (.ofInt (valueFrom 0 literal.whole)) := by
        rw [Number.ofNumeral, if_neg hrange]
      rw [if_pos Bool.false_ne_true, signed, hnegative, if_neg Bool.false_ne_true]
      exact congrArg Except.ok hnumber
    · have hvalue := integer_of_negative hnegative
      have hlarge : valueFrom 0 literal.whole = 0 ∨
          0x8000000000000000 < valueFrom 0 literal.whole := by
        by_contra hsmall
        refine h ⟨hfraction, hexponent, ?_, fun _ => ?_⟩
        · rw [hvalue, Number.InRange]
          omega
        · rw [hvalue]
          omega
      rw [if_neg (not_not_intro rfl), if_pos hlarge, signed, hnegative]
      rfl
  · rw [numeral, if_neg hinteger]
    cases literal.float <;> rfl

/-- **A literal is read as the number for which it stands.** -/
theorem standsFor_iff :
    literal.outcome.map Number.ofNumeral = .ok number ↔ literal.StandsFor number := by
  rw [map_eq_ok, outcome]
  simp only [mapError_eq_ok]
  rw [← map_eq_ok]
  by_cases h : literal.IsInt64
  · rw [h.numeral_eq]
    have hnumber : Number.ofNumeral (.integer literal.integer) = .int (.ofInt literal.integer) :=
      if_pos h.inRange
    have hvalue : (Int64.ofInt literal.integer).toInt = literal.integer :=
      Int64.toInt_ofInt_of_le h.inRange.1 h.inRange.2
    constructor
    · intro hread
      rw [← Except.ok.inj hread, hnumber]
      exact .int h hvalue
    · rintro (⟨-, hi⟩ | ⟨hnot, -⟩)
      · refine congrArg Except.ok ?_
        rw [hnumber, ← hi, Int64.ofInt_toInt]
      · exact absurd h hnot
  · rw [ofNumeral_of_not_isInt64 h, map_eq_ok]
    constructor
    · rintro ⟨x, hx, rfl⟩
      exact .float h hx
    · rintro (⟨hint, -⟩ | ⟨-, hx⟩)
      · exact absurd hint h
      · exact ⟨_, hx, rfl⟩

/-- Every literal stands for a number, unless it is out of range. -/
theorem exists_standsFor_iff :
    (∃ number, literal.StandsFor number) ↔ literal.outcome ≠ .error .numberOutOfRange := by
  simp only [← standsFor_iff]
  rw [outcome]
  cases literal.numeral with
  | error behind =>
    constructor
    · rintro ⟨_, h⟩
      cases h
    · intro h
      exact absurd rfl h
  | ok value =>
    constructor
    · intro _ h
      cases h
    · intro _
      exact ⟨_, rfl⟩

end Json.Literal

/-! ### Readers of numbers -/

namespace Number

variable {depth : Nat} {s rest : Bytes} {number : Number}

/-- **Where a number is read**, there is a literal. -/
theorem reader_run_eq_ok_iff_literal :
    (reader depth).run s = .ok (number, rest) ↔
      ∃ literal, Literal.reader.run s = .ok (literal, rest) ∧
        literal.outcome.map ofNumeral = .ok number := by
  rw [reader_run_eq_ok_iff depth]
  constructor
  · rintro ⟨_, hvalue, hnumber⟩
    obtain ⟨value, rfl, rfl⟩ := ofValue_eq_ok_iff.1 hnumber
    obtain ⟨b, t, hs, -, hread⟩ := Value.run_reader_eq_ok_number_iff.1 hvalue
    obtain ⟨literal, hliteral, houtcome⟩ := readNumeral_eq_ok_iff.1 hread
    rw [← hs] at hliteral
    exact ⟨literal, hliteral, map_eq_ok.2 ⟨value, houtcome, rfl⟩⟩
  · rintro ⟨literal, hliteral, hnumber⟩
    obtain ⟨value, houtcome, rfl⟩ := map_eq_ok.1 hnumber
    obtain ⟨b, t, hs, hb⟩ := Literal.exists_head_of_read hliteral
    refine ⟨.number value, Value.run_reader_eq_ok_number_iff.2 ⟨b, t, hs, hb, ?_⟩, rfl⟩
    rw [← hs]
    exact readNumeral_eq_ok_iff.2 ⟨literal, hliteral, houtcome⟩

end Number

/-! ### Lists -/

namespace NumberList

/-- The list argument is read by the literals of its items. -/
theorem parse_eq_ok_iff_literals {text : String} {numbers : List Number} :
    parse text = .ok numbers ↔ ∃ literals, IsArray Literal.IsText literals text.toList ∧
      literals.mapM (fun literal => literal.outcome.map Number.ofNumeral) = .ok numbers := by
  have hdocument : parse text = .ok numbers ↔
      document (Number.listReader 0) (Utf8.encode text) = .ok numbers := by
    rw [parse_eq_ok_iff, Number.document_listReader_eq_ok_iff (maxDepth - 1)]
    rfl
  rw [hdocument, document_eq_ok_iff]
  simp only [Number.listReader_run_eq_ok_iff,
    items_eq_ok_iff_mapM Number.reader_run_eq_ok_iff_literal]
  constructor
  · rintro ⟨rest, ⟨t, ht, literals, hliterals, hnumbers⟩, hrest⟩
    obtain ⟨cs, hcs, harray⟩ := Literal.reader_reads.array_iff.1 ⟨t, rest, ht, hliterals, hrest⟩
    rw [Utf8.encode_eq_ofChars_iff] at hcs
    rw [hcs]
    exact ⟨literals, harray, hnumbers⟩
  · rintro ⟨literals, harray, hnumbers⟩
    obtain ⟨t, rest, ht, hliterals, hrest⟩ := Literal.reader_reads.array_iff.2
      ⟨text.toList, Utf8.encode_eq_ofChars_iff.2 rfl, harray⟩
    exact ⟨rest, ⟨t, ht, literals, hliterals, hnumbers⟩, hrest⟩

/-- **The grammar of the list argument.** A text is read exactly if it is an array of literals none
of which is out of range, with white space wherever two tokens meet; and it is read as one number
for each literal, an integer exactly if the literal is that of an integer of 64 bits. -/
theorem parse_eq_ok_iff_isArray (text : String) :
    ((∃ numbers, parse text = .ok numbers) ↔
      ∃ literals, IsArray Literal.IsText literals text.toList ∧
        ∀ literal ∈ literals, literal.outcome ≠ .error .numberOutOfRange) ∧
      ∀ numbers, parse text = .ok numbers ↔
        ∃ literals, IsArray Literal.IsText literals text.toList ∧
          List.Forall₂ Literal.StandsFor literals numbers := by
  have hnumbers (numbers : List Number) : parse text = .ok numbers ↔
      ∃ literals, IsArray Literal.IsText literals text.toList ∧
        List.Forall₂ Literal.StandsFor literals numbers := by
    simp only [parse_eq_ok_iff_literals, mapM_eq_ok_iff_forall₂, Literal.standsFor_iff]
  refine ⟨?_, hnumbers⟩
  simp only [parse_eq_ok_iff_literals, ← Literal.exists_standsFor_iff, ← Literal.standsFor_iff,
    ← mapM_isOk_iff]
  constructor
  · rintro ⟨numbers, literals, harray, hread⟩
    exact ⟨literals, harray, numbers, hread⟩
  · rintro ⟨literals, harray, numbers, hread⟩
    exact ⟨numbers, literals, harray, hread⟩

/-- The bounds of the integers, minus zero, and the least integer beyond the bounds. -/
example : (parse " [ -9223372036854775808,\t-0 , 9223372036854775808]\n").toOption =
    some [.int (-0x8000000000000000), .float (.zero true), .float (.ofBits 0x43E0000000000000)] := by
  decide +kernel

end NumberList

end OneShot
