import OneShot.Proofs.Json.Grammar
import OneShot.Proofs.Json.Series

/-!
# Literals against the grammar

The other direction of what is said about written texts: whatever is read as a literal is spelled
out as the grammar has it, `Literal.exists_spelled_of_read`, and all spellings are read and not only
the one that is written, `Literal.read_spelled`. So the reader of literals is the grammar.

White space is looked at first, since it may stand wherever two tokens meet.

## Main results

* `exists_spaces`, `skipSpace_spaces` — white space
* `Literal.exists_spelled_of_read` — a literal that was read is well-formed and spelled out
* `Literal.read_spelled` — a well-formed literal that is spelled out is read
-/

namespace OneShot.Json

/-! ### White space -/

theorem isSpace_iff {b : UInt8} : isSpace b = true ↔ ∃ c ∈ [' ', '\t', '\n', '\r'], b = byte c := by
  simp only [isSpace, Bool.or_eq_true, beq_iff_eq, List.mem_cons, List.not_mem_nil, or_false,
    exists_eq_or_imp, exists_eq_left, or_assoc]

theorem IsSpaces.append {cs ds : List Char} (hcs : IsSpaces cs) (hds : IsSpaces ds) :
    IsSpaces (cs ++ ds) :=
  List.forall_mem_append.2 ⟨hcs, hds⟩

/-- The byte of a character of white space. -/
theorem ofChars_space {c : Char} (hc : c ∈ [' ', '\t', '\n', '\r']) (cs : List Char) :
    Utf8.ofChars (c :: cs) = byte c :: Utf8.ofChars cs := by
  have hcases : c = ' ' ∨ c = '\t' ∨ c = '\n' ∨ c = '\r' := by simpa using hc
  refine Utf8.ofChars_cons ?_ cs
  rcases hcases with rfl | rfl | rfl | rfl <;> decide

theorem skipSpace_spaces {cs : List Char} (h : IsSpaces cs) (s : Bytes) :
    skipSpace (Utf8.ofChars cs ++ s) = skipSpace s := by
  induction cs with
  | nil => rfl
  | cons c cs ih =>
    obtain ⟨hc, hcs⟩ := List.forall_mem_cons.1 h
    rw [ofChars_space hc, List.cons_append, skipSpace, List.dropWhile_cons_of_pos
      (isSpace_iff.2 ⟨c, hc, rfl⟩)]
    exact ih hcs

/-- What is skipped is white space. -/
theorem exists_spaces (s : Bytes) : ∃ cs, IsSpaces cs ∧ s = Utf8.ofChars cs ++ skipSpace s := by
  induction s with
  | nil => exact ⟨[], isSpaces_nil, rfl⟩
  | cons b s ih =>
    by_cases hb : isSpace b = true
    · obtain ⟨c, hc, rfl⟩ := isSpace_iff.1 hb
      obtain ⟨cs, hcs, hs⟩ := ih
      refine ⟨c :: cs, List.forall_mem_cons.2 ⟨hc, hcs⟩, ?_⟩
      rw [ofChars_space hc, List.cons_append, skipSpace, List.dropWhile_cons_of_pos hb]
      exact congrArg _ hs
    · exact ⟨[], isSpaces_nil, (Bracket.skipSpace_cons (Bool.not_eq_true _ ▸ hb) s).symm⟩

/-- White space may stand behind a value. -/
theorem stops_spaces {cs : List Char} (h : IsSpaces cs) {s : Bytes} (hs : Stops s) :
    Stops (Utf8.ofChars cs ++ s) := by
  cases cs with
  | nil => exact hs
  | cons c cs =>
    obtain ⟨hc, -⟩ := List.forall_mem_cons.1 h
    rw [ofChars_space hc]
    rintro _ ⟨⟩
    exact .inl (isSpace_iff.2 ⟨c, hc, rfl⟩)

/-- White space in front does not matter to what stands behind a value. -/
theorem Stops.of_skipSpace {s : Bytes} (h : Stops (skipSpace s)) : Stops s := by
  obtain ⟨gap, hgap, hs⟩ := exists_spaces s
  rw [hs]
  exact stops_spaces hgap h

/-! White space at the end of the input. -/

theorem skipSpace_ofChars_spaces {cs : List Char} (h : IsSpaces cs) :
    skipSpace (Utf8.ofChars cs) = [] := by
  rw [← List.append_nil (Utf8.ofChars cs), skipSpace_spaces h]
  rfl

theorem stops_ofChars_spaces {cs : List Char} (h : IsSpaces cs) : Stops (Utf8.ofChars cs) := by
  rw [← List.append_nil (Utf8.ofChars cs)]
  exact stops_spaces h stops_nil

/-! ### Literals that were read -/

theorem eq_byte_of_digit? {b : UInt8} {d : Digit} (h : digit? b = some d) : b = byte d.char := by
  rw [digit?] at h
  split at h
  · rename_i hrange
    have hval : b.toNat - 48 = d.val := congrArg Fin.val (Option.some.inj h)
    have hlow : 48 ≤ b.toNat := hrange.1
    rw [← UInt8.toNat_inj, Utf8.toNat_byte d.toNat_char_lt, d.toNat_char]
    omega
  · cases h

theorem ofChars_takeDigits (s : Bytes) :
    Utf8.ofChars ((takeDigits s).1.map Digit.char) ++ (takeDigits s).2 = s := by
  induction s with
  | nil => rfl
  | cons b s ih =>
    rw [takeDigits]
    split
    · rename_i d hd
      rw [List.map_cons, Utf8.ofChars_cons d.toNat_char_lt, List.cons_append,
        ← eq_byte_of_digit? hd]
      exact congrArg (b :: ·) ih
    · rfl

namespace Literal

variable {atEnd : Cause} {s rest : Bytes}

/-- A first byte and what stands behind it. -/
theorem eq_cons_of_head? {b : UInt8} (h : s.head? = some b) : s = b :: s.tail := by
  cases s with
  | nil => cases h
  | cons c s =>
    cases h
    rfl

theorem ofChars_readSign (s : Bytes) :
    Utf8.ofChars (if (readSign s).1 then ['-'] else []) ++ (readSign s).2 = s := by
  by_cases hsign : s.head? = some (byte '-')
  · rw [readSign, if_pos hsign]
    exact (eq_cons_of_head? hsign).symm
  · rw [readSign, if_neg hsign]
    rfl

theorem whole_of_readWhole {whole : List Digit} (h : readWhole atEnd s = .ok (whole, rest)) :
    (∃ d more, whole = d :: more ∧ (d = 0 → more = [])) ∧
      s = Utf8.ofChars (whole.map Digit.char) ++ rest := by
  cases s with
  | nil => cases h
  | cons b t =>
    rw [readWhole] at h
    split at h
    · cases h
    · rename_i d hd
      dsimp only at h
      split_ifs at h with hzero
      cases h
      refine ⟨⟨d, _, rfl, fun hd0 => by_contra fun hmore => hzero ⟨hd0, hmore⟩⟩, ?_⟩
      rw [List.map_cons, Utf8.ofChars_cons d.toNat_char_lt, List.cons_append, ofChars_takeDigits,
        ← eq_byte_of_digit? hd]

theorem fraction_of_readFraction {fraction : Option (List Digit)}
    (h : readFraction atEnd s = .ok (fraction, rest)) :
    fraction ≠ some [] ∧ s = Utf8.ofChars (writeFraction fraction) ++ rest := by
  rw [readFraction] at h
  split_ifs at h with hpoint
  · dsimp only at h
    split_ifs at h with hdigits
    cases h
    refine ⟨fun hnil => hdigits (Option.some.inj hnil), ?_⟩
    rw [writeFraction, Utf8.ofChars_cons (by decide), List.cons_append, ofChars_takeDigits]
    exact eq_cons_of_head? hpoint
  · cases h
    exact ⟨(Option.some_ne_none []).symm, rfl⟩

/-- The marks of an exponent part. -/
theorem eq_mark {mark : Char} (h : mark ∈ ['e', 'E']) : mark = 'e' ∨ mark = 'E' := by
  simpa using h

theorem ofChars_mark {mark : Char} (h : mark ∈ ['e', 'E']) (cs : List Char) :
    Utf8.ofChars (mark :: cs) = byte mark :: Utf8.ofChars cs := by
  refine Utf8.ofChars_cons ?_ cs
  rcases eq_mark h with rfl | rfl <;> decide

/-- The sign of an exponent, which may be left out. -/
theorem spelled_readExponentSign (s : Bytes) {mark : Char} (hmark : mark ∈ ['e', 'E'])
    (digits : List Digit) : ∃ sign : List Char,
      (Exponent.mk (readExponentSign s).1 digits).Spelled
        (mark :: (sign ++ digits.map Digit.char)) ∧
        Utf8.ofChars sign ++ (readExponentSign s).2 = s := by
  rw [readExponentSign]
  split_ifs with hminus hplus
  · exact ⟨['-'], .negative hmark digits, (eq_cons_of_head? hminus).symm⟩
  · exact ⟨['+'], .positive hmark digits, (eq_cons_of_head? hplus).symm⟩
  · exact ⟨[], .unsigned hmark digits, rfl⟩

theorem exponent_of_readExponent {exponent : Option Exponent}
    (h : readExponent atEnd s = .ok (exponent, rest)) :
    (exponent = none ∧ s = rest) ∨ ∃ e cs, exponent = some e ∧ e.digits ≠ [] ∧ e.Spelled cs ∧
      s = Utf8.ofChars cs ++ rest := by
  rw [readExponent] at h
  split_ifs at h with hmark
  · dsimp only at h
    split_ifs at h with hdigits
    cases h
    obtain ⟨mark, hmem, hs⟩ : ∃ mark ∈ ['e', 'E'], s = byte mark :: s.tail := by
      rcases hmark with hmark | hmark
      · exact ⟨'e', by decide, eq_cons_of_head? hmark⟩
      · exact ⟨'E', by decide, eq_cons_of_head? hmark⟩
    obtain ⟨sign, hspelled, hsign⟩ := spelled_readExponentSign s.tail hmem
      (takeDigits (readExponentSign s.tail).2).1
    refine .inr ⟨_, _, rfl, hdigits, hspelled, ?_⟩
    rw [ofChars_mark hmem, Utf8.ofChars_append, List.cons_append, List.append_assoc,
      ofChars_takeDigits, hsign]
    exact hs
  · cases h
    exact .inl ⟨rfl, rfl⟩

/-- The parts of a literal are read one after another. -/
theorem parts_of_read {negative : Bool} {whole : List Digit} {fraction : Option (List Digit)}
    {exponent : Option Exponent}
    (h : read atEnd s = .ok (⟨negative, whole, fraction, exponent⟩, rest)) :
    (readSign s).1 = negative ∧ ∃ s₁ s₂, readWhole atEnd (readSign s).2 = .ok (whole, s₁) ∧
      readFraction atEnd s₁ = .ok (fraction, s₂) ∧
        readExponent atEnd s₂ = .ok (exponent, rest) := by
  obtain ⟨⟨whole, s₁⟩, hwhole, h⟩ := bind_eq_ok.1 h
  obtain ⟨⟨fraction, s₂⟩, hfraction, h⟩ := bind_eq_ok.1 h
  obtain ⟨⟨exponent, s₃⟩, hexponent, h⟩ := bind_eq_ok.1 h
  cases h
  exact ⟨rfl, s₁, s₂, hwhole, hfraction, hexponent⟩

/-- **What is read is spelled out**, and well-formed. -/
theorem exists_spelled_of_read {literal : Literal} (h : read atEnd s = .ok (literal, rest)) :
    literal.WellFormed ∧ ∃ cs, literal.Spelled cs ∧ s = Utf8.ofChars cs ++ rest := by
  obtain ⟨negative, whole, fraction, exponent⟩ := literal
  obtain ⟨rfl, s₁, s₂, hwhole, hfraction, hexponent⟩ := parts_of_read h
  obtain ⟨hshape, hs⟩ := whole_of_readWhole hwhole
  obtain ⟨hnil, hs₁⟩ := fraction_of_readFraction hfraction
  have hmantissa :
      s = Utf8.ofChars (mantissa ⟨(readSign s).1, whole, fraction, exponent⟩) ++ s₂ := by
    rw [mantissa, Utf8.ofChars_append, Utf8.ofChars_append, List.append_assoc, List.append_assoc,
      ← hs₁, ← hs]
    exact (ofChars_readSign s).symm
  obtain ⟨rfl, rfl⟩ | ⟨e, cs, rfl, hdigits, hspelled, hs₂⟩ := exponent_of_readExponent hexponent
  · refine ⟨⟨hshape, hnil, ?_⟩, _, .plain rfl, hmantissa⟩
    rintro _ ⟨⟩
  · refine ⟨⟨hshape, hnil, ?_⟩, _, .scientific rfl hspelled, ?_⟩
    · rintro _ ⟨⟩
      exact hdigits
    · rw [Utf8.ofChars_append, List.append_assoc, ← hs₂]
      exact hmantissa

/-! ### Literals that are spelled out -/

/-- What is read begins with a minus sign or a digit. -/
theorem exists_head_of_read {literal : Literal} (h : read atEnd s = .ok (literal, rest)) :
    ∃ b t, s = b :: t ∧ startsNumber b = true := by
  by_cases hsign : s.head? = some (byte '-')
  · exact ⟨byte '-', s.tail, eq_cons_of_head? hsign, rfl⟩
  · have hunsigned : (readSign s).2 = s := by rw [readSign, if_neg hsign]
    obtain ⟨-, s₁, s₂, hwhole, -⟩ := parts_of_read h
    obtain ⟨⟨d, more, hmore, -⟩, hs⟩ := whole_of_readWhole hwhole
    rw [hunsigned, hmore, List.map_cons, Utf8.ofChars_cons d.toNat_char_lt] at hs
    refine ⟨byte d.char, _, hs, ?_⟩
    rw [startsNumber, digit?_char, Option.isSome_some, Bool.or_true]

theorem exists_mark_of_spelled {e : Exponent} {cs : List Char} (h : e.Spelled cs) :
    ∃ mark ∈ ['e', 'E'], ∃ more, Utf8.ofChars cs = byte mark :: more := by
  cases h with
  | negative hmark | positive hmark | unsigned hmark =>
    exact ⟨_, hmark, _, ofChars_mark hmark _⟩

theorem noMantissa_of_spelled {e : Exponent} {cs : List Char} (h : e.Spelled cs) (rest : Bytes) :
    NoMantissa (Utf8.ofChars cs ++ rest) := by
  obtain ⟨mark, hmark, more, hcs⟩ := exists_mark_of_spelled h
  rw [hcs]
  rintro _ ⟨⟩
  rcases eq_mark hmark with rfl | rfl <;> decide

theorem readExponent_spelled {e : Exponent} {cs : List Char} (hcs : e.Spelled cs)
    (hdigits : e.digits ≠ []) (h : Stops rest) :
    readExponent atEnd (Utf8.ofChars cs ++ rest) = .ok (some e, rest) := by
  cases hcs with
  | negative hmark digits =>
    rw [ofChars_mark hmark]
    refine readExponent_of_sign hmark hdigits ?_ h
    rw [Utf8.ofChars_cons (by decide)]
    rfl
  | positive hmark digits =>
    rw [ofChars_mark hmark]
    refine readExponent_of_sign hmark hdigits ?_ h
    rw [Utf8.ofChars_cons (by decide)]
    rfl
  | unsigned hmark digits =>
    rw [ofChars_mark hmark]
    refine readExponent_of_sign hmark hdigits ?_ h
    cases digits with
    | nil => exact absurd rfl hdigits
    | cons d digits =>
      have hminus : some (byte d.char) ≠ some (byte '-') :=
        fun hd => byte_char_ne d (by decide) (Option.some.inj hd)
      have hplus : some (byte d.char) ≠ some (byte '+') :=
        fun hd => byte_char_ne d (by decide) (Option.some.inj hd)
      rw [List.map_cons, Utf8.ofChars_cons d.toNat_char_lt]
      change readExponentSign (byte d.char :: _) = _
      rw [readExponentSign, List.head?_cons, if_neg hminus, if_neg hplus]
      rfl

/-- **What is spelled out is read**, if it is well-formed. -/
theorem read_spelled {literal : Literal} {cs : List Char} (hliteral : literal.WellFormed)
    (hcs : literal.Spelled cs) (h : Stops rest) :
    read atEnd (Utf8.ofChars cs ++ rest) = .ok (literal, rest) := by
  cases hcs with
  | plain hnone =>
    refine read_of_readExponent hliteral (noMantissa_of_stops h) ?_
    have hdigits : ∀ e ∈ (none : Option Exponent), e.digits ≠ [] := nofun
    rw [hnone]
    exact readExponent_write hdigits h
  | scientific hsome hcs =>
    rw [Utf8.ofChars_append, List.append_assoc]
    refine read_of_readExponent hliteral (noMantissa_of_spelled hcs rest) ?_
    rw [hsome]
    exact readExponent_spelled hcs (hliteral.exponent _ hsome) h

end Literal

/-- A number is read exactly if its literal is and is in range. -/
theorem readNumeral_eq_ok_iff {s rest : Bytes} {value : Numeral} :
    readNumeral s = .ok (value, rest) ↔
      ∃ literal, Literal.read .endInValue s = .ok (literal, rest) ∧
        literal.outcome = .ok value := by
  rw [readNumeral, bind_eq_ok]
  simp only [Literal.outcome, mapError_eq_ok]
  constructor
  · rintro ⟨⟨literal, t⟩, hread, h⟩
    dsimp only at h
    split at h
    · rename_i hvalue
      cases h
      exact ⟨literal, hread, hvalue⟩
    · cases h
  · rintro ⟨literal, hread, hvalue⟩
    refine ⟨(literal, rest), hread, ?_⟩
    dsimp only
    rw [hvalue]

end OneShot.Json
