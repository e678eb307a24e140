import OneShot.Proofs.Json.Numeral

/-!
# The grammar of JSON texts

What a JSON text is, said without readers: `IsText` derives a text from the texts of its parts, with
white space wherever two tokens meet. A number is spelled from a well-formed literal, where only the
exponent part leaves a choice, and a string is made of pieces, each of which stands for a character
or for half of one.

The writer of values leaves all white space out and escapes the control characters. So what it
writes is a JSON text, and has no control characters, whatever the value is: both follow from
`Value.write_induction`, which lists all forms that a written text can take.

## Main definitions

* `Literal.Spelled` — the spellings of a number
* `Quoted.Piece`, `Quoted.IsString` — the pieces of a string, and strings
* `IsText` — the JSON texts

## Main results

* `Value.write_induction` — what holds of every written text
* `Value.isText_write`, `Value.noControl_write` — a value is written as a JSON text, without control
  characters
-/

namespace OneShot.Json

/-! ### White space -/

/-- Some white space, or none. -/
def IsSpaces (cs : List Char) : Prop := ∀ c ∈ cs, c ∈ [' ', '\t', '\n', '\r']

theorem isSpaces_nil : IsSpaces [] := List.forall_mem_nil _

/-! ### Numbers -/

/-- The spellings of an exponent part: the mark in either case, and a plus sign may be left out. -/
inductive Exponent.Spelled : Exponent → List Char → Prop where
  | negative {mark : Char} (hmark : mark ∈ ['e', 'E']) (digits : List Digit) :
      Spelled ⟨true, digits⟩ (mark :: '-' :: digits.map Digit.char)
  | positive {mark : Char} (hmark : mark ∈ ['e', 'E']) (digits : List Digit) :
      Spelled ⟨false, digits⟩ (mark :: '+' :: digits.map Digit.char)
  | unsigned {mark : Char} (hmark : mark ∈ ['e', 'E']) (digits : List Digit) :
      Spelled ⟨false, digits⟩ (mark :: digits.map Digit.char)

namespace Literal

/-- The spellings of a literal. -/
inductive Spelled : Literal → List Char → Prop where
  | plain {literal : Literal} (h : literal.exponent = none) : Spelled literal literal.mantissa
  | scientific {literal : Literal} {exponent : Exponent} {cs : List Char}
      (h : literal.exponent = some exponent) (hcs : exponent.Spelled cs) :
      Spelled literal (literal.mantissa ++ cs)

/-- A literal is written in one of its spellings. -/
theorem spelled_write (literal : Literal) : literal.Spelled literal.write := by
  cases hexponent : literal.exponent with
  | none =>
    rw [write_eq_mantissa, hexponent, writeExponent, List.append_nil]
    exact .plain hexponent
  | some exponent =>
    rw [write_eq_mantissa, hexponent, writeExponent]
    refine .scientific hexponent ?_
    obtain ⟨negative, digits⟩ := exponent
    cases negative with
    | false => exact .positive List.mem_cons_self digits
    | true => exact .negative List.mem_cons_self digits

end Literal

/-! ### Strings -/

namespace Quoted

def IsHexDigit (c : Char) : Prop := c.isDigit ∨ c ∈ "abcdefABCDEF".toList

instance (c : Char) : Decidable (IsHexDigit c) := inferInstanceAs (Decidable (_ ∨ _))

/-- The pieces of a string: a character that needs no escape, a short escape, or an escape by
number. -/
inductive Piece : List Char → Prop where
  | plain {c : Char} (hcontrol : 0x20 ≤ c.toNat) (hquote : c ≠ '"') (hslash : c ≠ '\\') : Piece [c]
  | short {c : Char} (hc : c ∈ ['"', '\\', '/', 'b', 'f', 'n', 'r', 't']) : Piece ['\\', c]
  | number {a b c d : Char} (h : ∀ x ∈ [a, b, c, d], IsHexDigit x) : Piece ['\\', 'u', a, b, c, d]

/-- Pieces between quotation marks. -/
def IsString (cs : List Char) : Prop :=
  ∃ pieces : List (List Char), (∀ piece ∈ pieces, Piece piece) ∧
    cs = '"' :: (pieces.flatten ++ ['"'])

theorem isHexDigit_hexChar : ∀ n < 16, IsHexDigit (hexChar n) := by decide

/-- What is written for a control character. -/
theorem isHexDigit_control {n : Nat} (h : n < 0x20) :
    ∀ x ∈ ['0', '0', hexChar (n / 16), hexChar (n % 16)], IsHexDigit x := by
  have hzero : IsHexDigit '0' := by decide
  have hhigh : IsHexDigit (hexChar (n / 16)) := isHexDigit_hexChar _ (by omega)
  have hlow : IsHexDigit (hexChar (n % 16)) := isHexDigit_hexChar _ (Nat.mod_lt n (by decide))
  simp only [List.forall_mem_cons, hzero, hhigh, hlow, true_and]
  exact List.forall_mem_nil _

/-- A character is written as one piece. -/
theorem piece_writeChar (c : Char) : Piece (writeChar c) := by
  rw [writeChar]
  split_ifs with hquote hslash hb ht hn hf hr hcontrol
  · exact .short (by decide)
  · exact .short (by decide)
  · exact .short (by decide)
  · exact .short (by decide)
  · exact .short (by decide)
  · exact .short (by decide)
  · exact .short (by decide)
  · exact .number (isHexDigit_control hcontrol)
  · exact .plain (Nat.le_of_not_lt hcontrol) hquote hslash

theorem isString_write (text : String) : IsString (write text) := by
  refine ⟨text.toList.map writeChar, ?_, ?_⟩
  · intro piece hpiece
    obtain ⟨c, -, rfl⟩ := List.mem_map.1 hpiece
    exact piece_writeChar c
  · rw [write, List.flatMap_def]

end Quoted

/-! ### Texts -/

/-- A key of an object: a string with white space around it. -/
def IsKey (cs : List Char) : Prop :=
  ∃ before key after : List Char, IsSpaces before ∧ Quoted.IsString key ∧ IsSpaces after ∧
    cs = before ++ key ++ after

/-- The JSON texts: values with white space around them. -/
inductive IsText : List Char → Prop where
  | spaced {before cs after : List Char} (hbefore : IsSpaces before) (h : IsText cs)
      (hafter : IsSpaces after) : IsText (before ++ cs ++ after)
  | word {name : String} (h : name ∈ ["null", "true", "false"]) : IsText name.toList
  | number {literal : Literal} {cs : List Char} (hliteral : literal.WellFormed)
      (h : literal.Spelled cs) : IsText cs
  | string {cs : List Char} (h : Quoted.IsString cs) : IsText cs
  /-- An array. The gap matters only without items, since items bring their own white space. -/
  | array {gap : List Char} {items : List (List Char)} (hgap : IsSpaces gap)
      (h : ∀ item ∈ items, IsText item) : IsText ('[' :: (gap ++ (writeSeries items ++ [']'])))
  | object {gap : List Char} {members : List (List Char × List Char)} (hgap : IsSpaces gap)
      (hkey : ∀ member ∈ members, IsKey member.1) (h : ∀ member ∈ members, IsText member.2) :
      IsText ('{' :: (gap ++ (writeSeries (members.map fun member =>
        member.1 ++ ':' :: member.2) ++ ['}'])))

/-- No control characters, and so no line feed. -/
def NoControl (cs : List Char) : Prop := ∀ c ∈ cs, 0x20 ≤ c.toNat

-- Not left to inference, which may go through all characters instead of those of the text.
instance (cs : List Char) : Decidable (NoControl cs) :=
  List.decidableBAll (fun c : Char => 0x20 ≤ c.toNat) cs

/-! ### Written values -/

/-- The forms that a written text can take, as rules for a property of texts. -/
structure WrittenClosed (P : List Char → Prop) : Prop where
  word : ∀ name ∈ ["null", "true", "false"], P name.toList
  literal : ∀ literal : Literal, literal.WellFormed → P literal.write
  string : ∀ text : String, P (Quoted.write text)
  array : ∀ items : List (List Char), (∀ item ∈ items, P item) →
    P ('[' :: (writeSeries items ++ [']']))
  object : ∀ members : List (String × List Char), (∀ member ∈ members, P member.2) →
    P ('{' :: (writeSeries (members.map fun member => Quoted.write member.1 ++ ':' :: member.2) ++
      ['}']))

section Induction

variable {P : List Char → Prop}

/-- A number is written as a literal, or as `null`. -/
theorem Numeral.write_induction (h : WrittenClosed P) (value : Numeral) : P value.write := by
  cases value with
  | integer i =>
    rw [write, ← Literal.write_ofInt]
    exact h.literal _ (Literal.ofInt_wellFormed i)
  | float x =>
    rw [write]
    split_ifs with hx
    · rw [← Binary64.write_jsonLiteral]
      exact h.literal _ (Binary64.jsonLiteral_wellFormed hx)
    · exact h.word "null" (by decide)

namespace Value

mutual

/-- **What holds of every written text.** -/
theorem write_induction (h : WrittenClosed P) : ∀ value : Value, P value.write
  | .null => h.word "null" (by decide)
  | .bool true => h.word "true" (by decide)
  | .bool false => h.word "false" (by decide)
  | .number value => value.write_induction h
  | .string text => h.string text
  | .array values => h.array (writeItems values) (writeItems_induction h values)
  | .object members => by
    obtain ⟨texts, hwrite, htexts⟩ := writeMembers_induction h members
    rw [write, hwrite]
    exact h.object texts htexts

theorem writeItems_induction (h : WrittenClosed P) :
    ∀ values : List Value, ∀ item ∈ writeItems values, P item
  | [] => List.forall_mem_nil _
  | value :: more => List.forall_mem_cons.2 ⟨write_induction h value, writeItems_induction h more⟩

theorem writeMembers_induction (h : WrittenClosed P) : ∀ members : List (String × Value),
    ∃ texts : List (String × List Char),
      writeMembers members = (texts.map fun member => Quoted.write member.1 ++ ':' :: member.2) ∧
        ∀ member ∈ texts, P member.2
  | [] => ⟨[], rfl, List.forall_mem_nil _⟩
  | (key, value) :: more => by
    obtain ⟨texts, hwrite, htexts⟩ := writeMembers_induction h more
    refine ⟨(key, value.write) :: texts, ?_,
      List.forall_mem_cons.2 ⟨write_induction h value, htexts⟩⟩
    rw [writeMembers, hwrite, List.map_cons]

end

end Value

end Induction

/-! ### One text on one line -/

theorem isText_closed : WrittenClosed IsText where
  word _ h := .word h
  literal literal h := .number h literal.spelled_write
  string text := .string (Quoted.isString_write text)
  array _ h := .array isSpaces_nil h
  object members h := by
    have hkeys : ∀ member ∈ members.map fun member => (Quoted.write member.1, member.2),
        IsKey member.1 := by
      intro member hmember
      obtain ⟨m, -, rfl⟩ := List.mem_map.1 hmember
      refine ⟨[], Quoted.write m.1, [], isSpaces_nil, Quoted.isString_write m.1, isSpaces_nil, ?_⟩
      rw [List.append_nil, List.nil_append]
    have hobject := IsText.object isSpaces_nil hkeys fun member hmember => by
      obtain ⟨m, hm, rfl⟩ := List.mem_map.1 hmember
      exact h m hm
    rw [List.map_map] at hobject
    exact hobject

/-- **A value is written as a JSON text.** -/
theorem Value.isText_write (value : Value) : IsText value.write :=
  write_induction isText_closed value

section NoControl

variable {cs ds : List Char}

theorem NoControl.append (hcs : NoControl cs) (hds : NoControl ds) : NoControl (cs ++ ds) :=
  List.forall_mem_append.2 ⟨hcs, hds⟩

theorem NoControl.cons {c : Char} (hc : 0x20 ≤ c.toNat) (hcs : NoControl cs) :
    NoControl (c :: cs) :=
  List.forall_mem_cons.2 ⟨hc, hcs⟩

theorem noControl_nil : NoControl [] := List.forall_mem_nil _

theorem noControl_writeSeries {texts : List (List Char)} (h : ∀ text ∈ texts, NoControl text) :
    NoControl (writeSeries texts) := by
  induction texts with
  | nil => exact noControl_nil
  | cons text more ih =>
    obtain ⟨htext, hmore⟩ := List.forall_mem_cons.1 h
    cases more with
    | nil => exact htext
    | cons next more => exact htext.append (.cons (by decide) (ih hmore))

theorem noControl_digits (digits : List Digit) : NoControl (digits.map Digit.char) := by
  intro c hc
  obtain ⟨d, -, rfl⟩ := List.mem_map.1 hc
  rw [d.toNat_char]
  omega

theorem Literal.noControl_write (literal : Literal) : NoControl literal.write := by
  have hsign : NoControl (if literal.negative then ['-'] else []) := by
    cases literal.negative <;> decide
  have hfraction : NoControl (writeFraction literal.fraction) := by
    cases literal.fraction with
    | none => exact noControl_nil
    | some digits => exact .cons (by decide) (noControl_digits digits)
  have hexponent : NoControl (writeExponent literal.exponent) := by
    cases literal.exponent with
    | none => exact noControl_nil
    | some e =>
      refine .cons (by decide) (.cons ?_ (noControl_digits e.digits))
      cases e.negative <;> decide
  exact hsign.append ((noControl_digits literal.whole).append (hfraction.append hexponent))

theorem Quoted.Piece.noControl {piece : List Char} (h : Quoted.Piece piece) : NoControl piece := by
  have hhex {x : Char} (hx : IsHexDigit x) : 0x20 ≤ x.toNat := by
    rcases hx with hdigit | hletter
    · rw [isDigit_iff] at hdigit
      omega
    · have hletters : NoControl "abcdefABCDEF".toList := by decide
      exact hletters x hletter
  cases h with
  | plain hcontrol => exact .cons hcontrol noControl_nil
  | @short c hc =>
    have hshort : NoControl ['"', '\\', '/', 'b', 'f', 'n', 'r', 't'] := by decide
    exact .cons (by decide) (.cons (hshort c hc) noControl_nil)
  | number h => exact .cons (by decide) (.cons (by decide) fun x hx => hhex (h x hx))

theorem Quoted.noControl_write (text : String) : NoControl (Quoted.write text) := by
  obtain ⟨pieces, hpieces, hwrite⟩ := isString_write text
  have hflatten : NoControl pieces.flatten := by
    intro c hc
    obtain ⟨piece, hpiece, hmem⟩ := List.mem_flatten.1 hc
    exact (hpieces piece hpiece).noControl c hmem
  rw [hwrite]
  exact .cons (by decide) (hflatten.append (.cons (by decide) noControl_nil))

end NoControl

theorem noControl_closed : WrittenClosed NoControl where
  word := by decide
  literal literal _ := literal.noControl_write
  string := Quoted.noControl_write
  array _ h := .cons (by decide) ((noControl_writeSeries h).append (by decide))
  object members h := by
    refine .cons (by decide) (NoControl.append (noControl_writeSeries fun text htext => ?_)
      (by decide))
    obtain ⟨member, hmember, rfl⟩ := List.mem_map.1 htext
    exact (Quoted.noControl_write member.1).append (.cons (by decide) (h member hmember))

/-- **A value is written without control characters.** -/
theorem Value.noControl_write (value : Value) : NoControl value.write :=
  write_induction noControl_closed value

end OneShot.Json
