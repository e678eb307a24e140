import Mathlib.Tactic.SplitIfs
import OneShot.Proofs.Json.Reader

/-!
# Number literals on written texts

A literal is a sequence of digits with a few marks between them. Written out and read again it gives
the same literal, `Literal.read_write`, if it is well-formed: every part that is there has a digit,
and the whole digits begin with a zero only if that is all of them. What the reader makes of its
value, a number or the fault that it is out of range, is left open here, `readNumeral_write`.

Digits are kept as numbers below ten by the reader and as characters by the writers; `digitsOf` goes
from the latter to the former.

## Main definitions

* `digitsOf`, `valueFrom` — the digits of characters, and the number that digits write
* `Literal.write`, `Literal.WellFormed` — a literal as characters
* `Literal.mantissa` — the characters in front of the exponent part

## Main results

* `absorb_eq_of_lt`, `absorb_lt` — significands
* `Literal.read_write`, `readNumeral_write` — what is read of a literal that was written
-/

namespace OneShot.Json

/-! ### Digits -/

def Digit.char (d : Digit) : Char := Nat.digitChar d.val

/-- The digit of a character from `0` to `9`. -/
def digitOf (c : Char) : Digit := ⟨(c.toNat - 48) % 10, Nat.mod_lt _ (by decide)⟩

def digitsOf (cs : List Char) : List Digit := cs.map digitOf

theorem Digit.toNat_char (d : Digit) : d.char.toNat = 48 + d.val :=
  Nat.toNat_digitChar_of_lt_ten d.isLt

theorem Digit.toNat_char_lt (d : Digit) : d.char.toNat < 0x80 := by
  rw [d.toNat_char]
  omega

theorem isDigit_iff {c : Char} : c.isDigit ↔ 48 ≤ c.toNat ∧ c.toNat ≤ 57 := by
  rw [Char.isDigit, Bool.and_eq_true, decide_eq_true_iff, decide_eq_true_iff]
  rfl

theorem digitOf_val {c : Char} (h : c.isDigit) : (digitOf c).val = c.toNat - 48 := by
  rw [isDigit_iff] at h
  exact Nat.mod_eq_of_lt (by omega)

theorem char_digitOf {c : Char} (h : c.isDigit) : (digitOf c).char = c := by
  have hval := digitOf_val h
  rw [isDigit_iff] at h
  rw [← Char.toNat_inj, Digit.toNat_char, hval]
  omega

theorem map_char_digitsOf {cs : List Char} (h : ∀ c ∈ cs, c.isDigit) :
    (digitsOf cs).map Digit.char = cs := by
  rw [digitsOf, List.map_map]
  exact (List.map_congr_left fun c hc => char_digitOf (h c hc)).trans (List.map_id cs)

theorem digit?_char (d : Digit) : digit? (byte d.char) = some d := by
  have hb : (byte d.char).toNat = 48 + d.val := by
    rw [Utf8.toNat_byte d.toNat_char_lt, d.toNat_char]
  have hrange : byte '0' ≤ byte d.char ∧ byte d.char ≤ byte '9' := by
    rw [UInt8.le_iff_toNat_le, UInt8.le_iff_toNat_le, hb]
    exact ⟨Nat.le_add_right 48 _, by change 48 + d.val ≤ 57; omega⟩
  rw [digit?, dif_pos hrange, Option.some.injEq, Fin.ext_iff]
  change (byte d.char).toNat - 48 = d.val
  omega

theorem byte_char_ne (d : Digit) {b : UInt8} (hb : digit? b = none) : byte d.char ≠ b := by
  rintro rfl
  rw [digit?_char] at hb
  cases hb

/-- Nothing that continues a sequence of digits. -/
def NoDigit (s : Bytes) : Prop := ∀ b ∈ s.head?, digit? b = none

theorem takeDigits_write (ds : List Digit) {rest : Bytes} (h : NoDigit rest) :
    takeDigits (Utf8.ofChars (ds.map Digit.char) ++ rest) = (ds, rest) := by
  induction ds with
  | nil =>
    cases rest with
    | nil => rfl
    | cons b rest => rw [List.map_nil, Utf8.ofChars_nil, List.nil_append, takeDigits, h b rfl]
  | cons d ds ih =>
    rw [List.map_cons, Utf8.ofChars_cons d.toNat_char_lt, List.cons_append, takeDigits,
      digit?_char, ih]

/-! ### The number that digits write -/

/-- The number that digits write behind those that write `value`. -/
def valueFrom (value : Nat) (ds : List Digit) : Nat :=
  ds.foldl (fun value d => value * 10 + d.val) value

theorem valueFrom_cons (value : Nat) (d : Digit) (ds : List Digit) :
    valueFrom value (d :: ds) = valueFrom (value * 10 + d.val) ds :=
  rfl

theorem valueFrom_append (value : Nat) (ds ds' : List Digit) :
    valueFrom value (ds ++ ds') = valueFrom (valueFrom value ds) ds' :=
  List.foldl_append

theorem le_valueFrom (value : Nat) (ds : List Digit) : value ≤ valueFrom value ds := by
  induction ds generalizing value with
  | nil => exact Nat.le_refl _
  | cons d ds ih =>
    rw [valueFrom_cons]
    exact Nat.le_trans (by omega) (ih _)

theorem valueFrom_digitsOf {cs : List Char} (h : ∀ c ∈ cs, c.isDigit) (value : Nat) :
    valueFrom value (digitsOf cs) = Nat.ofDigitChars 10 cs value := by
  induction cs generalizing value with
  | nil => rw [Nat.ofDigitChars_nil]; rfl
  | cons c cs ih =>
    rw [Nat.ofDigitChars_cons, ← ih fun d hd => h d (List.mem_cons_of_mem c hd)]
    change valueFrom (value * 10 + (digitOf c).val) (digitsOf cs) = _
    rw [digitOf_val (h c List.mem_cons_self), Nat.mul_comm]
    rfl

/-- Digits that write a number below `2 ^ 64` all go into the significand. -/
theorem absorb_eq_of_lt {value : Nat} {ds : List Digit}
    (h : valueFrom value ds < 0x10000000000000000) :
    absorb value ds = (valueFrom value ds, []) := by
  induction ds generalizing value with
  | nil => rfl
  | cons d ds ih =>
    rw [valueFrom_cons] at h ⊢
    rw [absorb, if_pos (Nat.lt_of_le_of_lt (le_valueFrom _ ds) h), ih h]

/-- A significand stays below `2 ^ 64`. -/
theorem absorb_lt {value : Nat} (h : value < 0x10000000000000000) (ds : List Digit) :
    (absorb value ds).1 < 0x10000000000000000 := by
  induction ds generalizing value with
  | nil => exact h
  | cons d ds ih =>
    rw [absorb]
    split_ifs with hd
    · exact ih hd
    · exact h

/-- All digits go into the significand exactly if they write a number below `2 ^ 64`. -/
theorem absorb_eq_nil_iff {value : Nat} (h : value < 0x10000000000000000) {ds : List Digit} :
    (absorb value ds).2 = [] ↔ valueFrom value ds < 0x10000000000000000 := by
  induction ds generalizing value with
  | nil => exact iff_of_true rfl h
  | cons d ds ih =>
    rw [absorb, valueFrom_cons]
    by_cases hd : value * 10 + d.val < 0x10000000000000000
    · rw [if_pos hd]
      exact ih hd
    · rw [if_neg hd]
      exact iff_of_false (List.cons_ne_nil d ds)
        (Nat.not_lt.2 (Nat.le_trans (Nat.not_lt.1 hd) (le_valueFrom _ ds)))

/-! ### Literals -/

namespace Literal

/-- The characters of a point and the digits behind it. -/
def writeFraction : Option (List Digit) → List Char
  | none => []
  | some digits => '.' :: digits.map Digit.char

/-- The characters of an exponent part, the sign of which is always shown. -/
def writeExponent : Option Exponent → List Char
  | none => []
  | some e => 'e' :: (if e.negative then '-' else '+') :: e.digits.map Digit.char

/-- The characters of a literal. -/
def write (literal : Literal) : List Char :=
  (if literal.negative then ['-'] else []) ++ (literal.whole.map Digit.char ++
    (writeFraction literal.fraction ++ writeExponent literal.exponent))

/-- What stands in front of the exponent part. -/
def mantissa (literal : Literal) : List Char :=
  (if literal.negative then ['-'] else []) ++
    (literal.whole.map Digit.char ++ writeFraction literal.fraction)

theorem write_eq_mantissa (literal : Literal) :
    literal.write = literal.mantissa ++ writeExponent literal.exponent := by
  rw [write, mantissa, List.append_assoc, List.append_assoc]

/-- Every part of a literal that is there has a digit, and only a zero alone begins with a zero. -/
structure WellFormed (literal : Literal) : Prop where
  whole : ∃ d more, literal.whole = d :: more ∧ (d = 0 → more = [])
  fraction : literal.fraction ≠ some []
  exponent : ∀ e ∈ literal.exponent, e.digits ≠ []

variable {atEnd : Cause} {rest : Bytes}

/-- What may stand behind a value does not continue a number. -/
theorem not_continues_of_stops (h : Stops rest) :
    ∀ b ∈ rest.head?, digit? b = none ∧ b ≠ byte '.' ∧ b ≠ byte 'e' ∧ b ≠ byte 'E' := by
  intro b hb
  obtain hspace | rfl | rfl | rfl := h b hb
  · simp only [isSpace, Bool.or_eq_true, beq_iff_eq] at hspace
    obtain ((rfl | rfl) | rfl) | rfl := hspace <;> decide
  all_goals decide

/-- An exponent part is read if its sign is. -/
theorem readExponent_of_sign {mark : Char} (hmark : mark ∈ ['e', 'E']) {e : Exponent}
    (hdigits : e.digits ≠ []) {s : Bytes}
    (hsign : readExponentSign s = (e.negative, Utf8.ofChars (e.digits.map Digit.char) ++ rest))
    (h : Stops rest) : readExponent atEnd (byte mark :: s) = .ok (some e, rest) := by
  have htake := takeDigits_write e.digits fun b hb => (not_continues_of_stops h b hb).1
  have hhead : (byte mark :: s).head? = some (byte 'e') ∨
      (byte mark :: s).head? = some (byte 'E') := by
    rcases List.mem_cons.1 hmark with rfl | hmark
    · exact .inl rfl
    · rw [List.mem_singleton.1 hmark]
      exact .inr rfl
  rw [readExponent, if_pos hhead, List.tail_cons, hsign]
  dsimp only
  rw [htake]
  exact if_pos hdigits

theorem readExponent_write {exponent : Option Exponent}
    (hexponent : ∀ e ∈ exponent, e.digits ≠ []) (h : Stops rest) :
    readExponent atEnd (Utf8.ofChars (writeExponent exponent) ++ rest) =
      .ok (exponent, rest) := by
  cases exponent with
  | none =>
    rw [writeExponent, Utf8.ofChars_nil, List.nil_append, readExponent, if_neg]
    rintro (hb | hb)
    · exact (not_continues_of_stops h _ hb).2.2.1 rfl
    · exact (not_continues_of_stops h _ hb).2.2.2 rfl
  | some e =>
    rw [writeExponent, Utf8.ofChars_cons (by decide), List.cons_append]
    refine readExponent_of_sign List.mem_cons_self (hexponent e rfl) ?_ h
    cases e.negative
    · rw [if_neg Bool.false_ne_true, Utf8.ofChars_cons (by decide)]
      rfl
    · rw [if_pos rfl, Utf8.ofChars_cons (by decide)]
      rfl

/-- Nothing that continues the digits of a number: neither a digit nor a point. -/
def NoMantissa (s : Bytes) : Prop := ∀ b ∈ s.head?, digit? b = none ∧ b ≠ byte '.'

theorem noMantissa_of_stops (h : Stops rest) : NoMantissa rest := fun b hb =>
  ⟨(not_continues_of_stops h b hb).1, (not_continues_of_stops h b hb).2.1⟩

/-- An exponent part is behind the digits. -/
theorem noMantissa_writeExponent (exponent : Option Exponent) (h : Stops rest) :
    NoMantissa (Utf8.ofChars (writeExponent exponent) ++ rest) := by
  cases exponent with
  | none => exact noMantissa_of_stops h
  | some e =>
    rw [writeExponent, Utf8.ofChars_cons (by decide)]
    rintro _ ⟨⟩
    decide

theorem noDigit_writeFraction (fraction : Option (List Digit)) {behind : Bytes}
    (h : NoMantissa behind) : NoDigit (Utf8.ofChars (writeFraction fraction) ++ behind) := by
  cases fraction with
  | none => exact fun b hb => (h b hb).1
  | some digits =>
    rw [writeFraction, Utf8.ofChars_cons (by decide)]
    rintro _ ⟨⟩
    decide

theorem readFraction_write {fraction : Option (List Digit)} (hfraction : fraction ≠ some [])
    {behind : Bytes} (h : NoMantissa behind) :
    readFraction atEnd (Utf8.ofChars (writeFraction fraction) ++ behind) =
      .ok (fraction, behind) := by
  cases fraction with
  | none =>
    rw [writeFraction, Utf8.ofChars_nil, List.nil_append]
    exact if_neg fun hb => (h _ hb).2 rfl
  | some digits =>
    rw [writeFraction, Utf8.ofChars_cons (by decide), List.cons_append, readFraction,
      List.head?_cons, if_pos rfl, List.tail_cons,
      takeDigits_write digits fun b hb => (h b hb).1]
    exact if_pos fun hdigits => hfraction (congrArg some hdigits)

theorem readWhole_write {whole : List Digit}
    (hwhole : ∃ d more, whole = d :: more ∧ (d = 0 → more = [])) {behind : Bytes}
    (h : NoDigit behind) :
    readWhole atEnd (Utf8.ofChars (whole.map Digit.char) ++ behind) = .ok (whole, behind) := by
  obtain ⟨d, more, rfl, hzero⟩ := hwhole
  rw [List.map_cons, Utf8.ofChars_cons d.toNat_char_lt, List.cons_append, readWhole, digit?_char]
  dsimp only
  rw [takeDigits_write more h]
  exact if_neg fun hd => hd.2 (hzero hd.1)

/-- A literal is read up to its exponent part as it is written. -/
theorem read_of_readExponent {literal : Literal} (hliteral : literal.WellFormed) {behind : Bytes}
    (h : NoMantissa behind) (hexponent : readExponent atEnd behind = .ok (literal.exponent, rest)) :
    read atEnd (Utf8.ofChars literal.mantissa ++ behind) = .ok (literal, rest) := by
  obtain ⟨d, more, hwhole, hzero⟩ := hliteral.whole
  have hsign : readSign (Utf8.ofChars literal.mantissa ++ behind) =
      (literal.negative, Utf8.ofChars (literal.whole.map Digit.char) ++
        (Utf8.ofChars (writeFraction literal.fraction) ++ behind)) := by
    rw [mantissa, Utf8.ofChars_append, Utf8.ofChars_append, List.append_assoc, List.append_assoc]
    cases literal.negative
    · rw [if_neg Bool.false_ne_true, Utf8.ofChars_nil, List.nil_append, readSign, if_neg]
      rw [hwhole, List.map_cons, Utf8.ofChars_cons d.toNat_char_lt]
      exact fun hd => byte_char_ne d (by decide) (Option.some.inj hd)
    · rw [if_pos rfl, Utf8.ofChars_cons (by decide)]
      rfl
  rw [read, hsign]
  dsimp only
  rw [readWhole_write hliteral.whole (noDigit_writeFraction _ h)]
  dsimp only [Except.bind]
  rw [readFraction_write hliteral.fraction h]
  dsimp only
  rw [hexponent]

/-- **A literal reads back.** -/
theorem read_write {literal : Literal} (hliteral : literal.WellFormed) (h : Stops rest) :
    read atEnd (Utf8.ofChars literal.write ++ rest) = .ok (literal, rest) := by
  rw [write_eq_mantissa, Utf8.ofChars_append, List.append_assoc]
  exact read_of_readExponent hliteral (noMantissa_writeExponent literal.exponent h)
    (readExponent_write hliteral.exponent h)

end Literal

/-- The value of a literal, or that it is out of range. -/
def Literal.outcome (literal : Literal) : Except Cause Numeral :=
  literal.numeral.mapError fun _ => .numberOutOfRange

theorem readNumeral_write {literal : Literal} (hliteral : literal.WellFormed) {rest : Bytes}
    (h : Stops rest) :
    Leaves (readNumeral (Utf8.ofChars literal.write ++ rest)) literal.outcome rest := by
  rw [readNumeral, Literal.read_write hliteral h, Literal.outcome]
  dsimp only [Except.bind]
  cases literal.numeral <;> rfl

end OneShot.Json
