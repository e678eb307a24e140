import Mathlib.Tactic.SplitIfs
import OneShot.Proofs.Json.Reader

/-!
# Quoted strings against the grammar

A character can be spelled in several ways between quotation marks: as it is, by a short escape, or
by its number, which takes two escapes above U+FFFF. The reader of strings takes exactly the
spellings of a text, `Quoted.read_eq_ok_iff`. What is written for a text is one of them.

The escapes have one lemma for each function of the reader. The reader collects bytes, though, and
the spellings go by characters. Bytes that are neither a quotation mark nor a backslash are taken
one by one, so that the bytes of one character might seem to come from two places. They do not: all
bytes of a character but the first continue it, and what an escape stands for begins with a byte
that continues nothing.

## Main definitions

* `Quoted.CodePoint`, `Quoted.Escape` — the spellings of a code point and of an escaped character
* `Quoted.SpellsChar`, `Quoted.Spells` — the spellings of a character and of a text

## Main results

* `Quoted.readCodePoint_eq_ok_iff`, `Quoted.readEscape_eq_ok_iff` — escapes
* `Quoted.read_eq_ok_iff` — a string is read exactly if it is spelled out
* `Quoted.read_write` — a text reads back from its quoted form
-/

namespace OneShot.Json.Quoted

variable {read rest s bytes : Bytes}

/-! ### Hexadecimal digits -/

/-- A hexadecimal digit, in either case. -/
def HexDigit (n : Nat) (c : Char) : Prop := n < 16 ∧ (c = hexChar n ∨ c = (hexChar n).toUpper)

theorem HexDigit.lt {n : Nat} {c : Char} (h : HexDigit n c) : n < 16 := h.1

theorem hexDigit_hexChar {n : Nat} (h : n < 16) : HexDigit n (hexChar n) := ⟨h, .inl rfl⟩

/-- Both cases of a digit are ASCII and are read. -/
theorem hexDigit?_hexChar : ∀ n < 16,
    ((hexChar n).toNat < 0x80 ∧ hexDigit? (byte (hexChar n)) = some n) ∧
      ((hexChar n).toUpper.toNat < 0x80 ∧ hexDigit? (byte (hexChar n).toUpper) = some n) := by
  decide

theorem HexDigit.toNat_lt {n : Nat} {c : Char} (h : HexDigit n c) : c.toNat < 0x80 := by
  obtain ⟨hn, rfl | rfl⟩ := h
  · exact (hexDigit?_hexChar n hn).1.1
  · exact (hexDigit?_hexChar n hn).2.1

/-- No other byte is read as a digit. -/
theorem byte_of_hexDigit? : ∀ k < 256, ∀ n ∈ hexDigit? (UInt8.ofNat k),
    n < 16 ∧ (UInt8.ofNat k = byte (hexChar n) ∨ UInt8.ofNat k = byte (hexChar n).toUpper) := by
  decide +kernel

theorem hexDigit?_eq_some_iff {b : UInt8} {n : Nat} :
    hexDigit? b = some n ↔ ∃ c, HexDigit n c ∧ b = byte c := by
  constructor
  · intro h
    have hb := byte_of_hexDigit? b.toNat b.toNat_lt
    rw [UInt8.ofNat_toNat] at hb
    obtain ⟨hn, hbyte | hbyte⟩ := hb n h
    · exact ⟨_, ⟨hn, .inl rfl⟩, hbyte⟩
    · exact ⟨_, ⟨hn, .inr rfl⟩, hbyte⟩
  · rintro ⟨c, ⟨hn, rfl | rfl⟩, rfl⟩
    · exact (hexDigit?_hexChar n hn).1.2
    · exact (hexDigit?_hexChar n hn).2.2

/-- Four hexadecimal digits. -/
inductive HexNumber : Nat → List Char → Prop where
  | mk {a b c d : Nat} {ca cb cc cd : Char} (ha : HexDigit a ca) (hb : HexDigit b cb)
      (hc : HexDigit c cc) (hd : HexDigit d cd) :
      HexNumber (((a * 16 + b) * 16 + c) * 16 + d) [ca, cb, cc, cd]

theorem HexNumber.lt {n : Nat} {cs : List Char} (h : HexNumber n cs) : n < 0x10000 := by
  cases h with
  | mk ha hb hc hd =>
    have := ha.lt
    have := hb.lt
    have := hc.lt
    have := hd.lt
    omega

theorem hexValue?_eq_some_iff {a b c d : UInt8} {n : Nat} :
    hexValue? a b c d = some n ↔ ∃ cs, HexNumber n cs ∧ [a, b, c, d] = Utf8.ofChars cs := by
  simp only [hexValue?, Option.bind_eq_bind, Option.bind_eq_some_iff, Option.some.injEq,
    hexDigit?_eq_some_iff]
  constructor
  · rintro ⟨a, ⟨ca, ha, rfl⟩, b, ⟨cb, hb, rfl⟩, c, ⟨cc, hc, rfl⟩, d, ⟨cd, hd, rfl⟩, rfl⟩
    refine ⟨_, .mk ha hb hc hd, ?_⟩
    rw [Utf8.ofChars_cons ha.toNat_lt, Utf8.ofChars_cons hb.toNat_lt, Utf8.ofChars_cons hc.toNat_lt,
      Utf8.ofChars_cons hd.toNat_lt, Utf8.ofChars_nil]
  · rintro ⟨_, ⟨ha, hb, hc, hd⟩, heq⟩
    rw [Utf8.ofChars_cons ha.toNat_lt, Utf8.ofChars_cons hb.toNat_lt, Utf8.ofChars_cons hc.toNat_lt,
      Utf8.ofChars_cons hd.toNat_lt, Utf8.ofChars_nil] at heq
    cases heq
    exact ⟨_, ⟨_, ha, rfl⟩, _, ⟨_, hb, rfl⟩, _, ⟨_, hc, rfl⟩, _, ⟨_, hd, rfl⟩, rfl⟩

theorem readHex_eq_ok_iff {n : Nat} :
    readHex s = .ok (n, rest) ↔ ∃ cs, HexNumber n cs ∧ s = Utf8.ofChars cs ++ rest := by
  constructor
  · intro h
    unfold readHex at h
    split at h
    · rename_i a b c d t
      split at h
      · rename_i hvalue
        cases h
        obtain ⟨cs, hcs, hbytes⟩ := hexValue?_eq_some_iff.1 hvalue
        exact ⟨cs, hcs, by rw [← hbytes]; rfl⟩
      · cases h
    · cases h
  · rintro ⟨cs, hcs, rfl⟩
    obtain ⟨a, b, c, d, hbytes⟩ : ∃ a b c d, [a, b, c, d] = Utf8.ofChars cs := by
      cases hcs with
      | mk ha hb hc hd =>
        rw [Utf8.ofChars_cons ha.toNat_lt, Utf8.ofChars_cons hb.toNat_lt,
          Utf8.ofChars_cons hc.toNat_lt, Utf8.ofChars_cons hd.toNat_lt, Utf8.ofChars_nil]
        exact ⟨_, _, _, _, rfl⟩
    have hvalue := hexValue?_eq_some_iff.2 ⟨cs, hcs, hbytes⟩
    rw [← hbytes]
    change readHex (a :: b :: c :: d :: rest) = _
    rw [readHex, hvalue]

/-! ### Escapes -/

theorem isTrailing_iff {n : Nat} : isTrailing n = true ↔ 0xDC00 ≤ n ∧ n ≤ 0xDFFF := by
  rw [isTrailing, Bool.and_eq_true, decide_eq_true_iff, decide_eq_true_iff]

theorem isLeading_iff {n : Nat} : isLeading n = true ↔ 0xD800 ≤ n ∧ n ≤ 0xDBFF := by
  rw [isLeading, Bool.and_eq_true, decide_eq_true_iff, decide_eq_true_iff]

theorem readByte_eq_ok_iff {expected : UInt8} {cause : Cause} :
    readByte expected cause s = .ok rest ↔ s = expected :: rest := by
  cases s with
  | nil => constructor <;> intro h <;> cases h
  | cons b t => rw [readByte, ite_error_eq_ok_iff, Except.ok.injEq, List.cons.injEq]

/-- The numbers of a character behind `\u`: its code point, or two surrogates. -/
inductive CodePoint (c : Char) : List Char → Prop where
  | single {cs : List Char} (h : HexNumber c.toNat cs) : CodePoint c cs
  | pair {high low : Nat} {cs ds : List Char} (hhigh : HexNumber (0xD800 + high) cs)
      (hlow : HexNumber (0xDC00 + low) ds) (hlt : high < 0x400 ∧ low < 0x400)
      (hc : c.toNat = 0x10000 + high * 0x400 + low) : CodePoint c (cs ++ '\\' :: 'u' :: ds)

/-- A number that is no surrogate is the code point of a character. -/
theorem exists_char {n : Nat} (h : n < 0xD800 ∨ 0xDFFF < n ∧ n < 0x110000) :
    ∃ c : Char, c.toNat = n :=
  ⟨Char.ofNat n, Utf8.toNat_ofNat h⟩

/-- The bytes between two surrogates. -/
theorem ofChars_pair (cs ds : List Char) (rest : Bytes) :
    Utf8.ofChars (cs ++ '\\' :: 'u' :: ds) ++ rest =
      Utf8.ofChars cs ++ byte '\\' :: byte 'u' :: (Utf8.ofChars ds ++ rest) := by
  rw [Utf8.ofChars_append, Utf8.ofChars_cons (by decide), Utf8.ofChars_cons (by decide),
    List.append_assoc]
  rfl

theorem readCodePoint_eq_ok_iff {n : Nat} :
    readCodePoint s = .ok (n, rest) ↔
      ∃ c cs, c.toNat = n ∧ CodePoint c cs ∧ s = Utf8.ofChars cs ++ rest := by
  constructor
  · intro h
    obtain ⟨⟨m, t⟩, hm, hmore⟩ := bind_eq_ok.1 h
    obtain ⟨cs, hcs, hs⟩ := readHex_eq_ok_iff.1 hm
    have hlt := hcs.lt
    dsimp only at hmore
    split_ifs at hmore with htrail hlead
    · rw [isLeading_iff] at hlead
      obtain ⟨t₁, h₁, hmore₁⟩ := bind_eq_ok.1 hmore
      obtain ⟨t₂, h₂, hmore₂⟩ := bind_eq_ok.1 hmore₁
      obtain ⟨⟨l, t₃⟩, h₃, hmore₃⟩ := bind_eq_ok.1 hmore₂
      obtain ⟨ds, hds, rfl⟩ := readHex_eq_ok_iff.1 h₃
      rw [readByte_eq_ok_iff] at h₁ h₂
      dsimp only at hmore₃
      split_ifs at hmore₃ with hl
      rw [isTrailing_iff] at hl
      obtain ⟨rfl, rfl⟩ := Prod.mk.inj (Except.ok.inj hmore₃)
      have hpair : 0xDFFF < 0x10000 + (m - 0xD800) * 0x400 + (l - 0xDC00) ∧
          0x10000 + (m - 0xD800) * 0x400 + (l - 0xDC00) < 0x110000 := by
        omega
      obtain ⟨c, hc⟩ := exists_char (.inr hpair)
      rw [show m = 0xD800 + (m - 0xD800) by omega] at hcs
      rw [show l = 0xDC00 + (l - 0xDC00) by omega] at hds
      refine ⟨c, _, hc, .pair hcs hds (by omega) hc, ?_⟩
      rw [hs, h₁, h₂, ofChars_pair]
    · rw [isTrailing_iff] at htrail
      rw [isLeading_iff] at hlead
      cases hmore
      obtain ⟨c, rfl⟩ := exists_char (show n < 0xD800 ∨ 0xDFFF < n ∧ n < 0x110000 by omega)
      exact ⟨c, cs, rfl, .single hcs, hs⟩
  · rintro ⟨c, cs, rfl, hcs, rfl⟩
    cases hcs with
    | single h =>
      have hvalid : c.toNat < 0xD800 ∨ 0xDFFF < c.toNat ∧ c.toNat < 0x110000 := c.valid
      rw [readCodePoint, readHex_eq_ok_iff.2 ⟨cs, h, rfl⟩]
      dsimp only [Except.bind]
      rw [if_neg (by rw [isTrailing_iff]; omega), if_neg (by rw [isLeading_iff]; omega)]
    | @pair high low cs ds hhigh hlow hlt hc =>
      rw [readCodePoint, ofChars_pair, readHex_eq_ok_iff.2 ⟨cs, hhigh, rfl⟩]
      dsimp only [Except.bind]
      rw [if_neg (by rw [isTrailing_iff]; omega), if_pos (by rw [isLeading_iff]; omega),
        readByte_eq_ok_iff.2 rfl]
      dsimp only [Except.bind]
      rw [readByte_eq_ok_iff.2 rfl]
      dsimp only [Except.bind]
      rw [readHex_eq_ok_iff.2 ⟨ds, hlow, rfl⟩]
      dsimp only [Except.bind]
      rw [if_pos (by rw [isTrailing_iff]; omega), hc, Nat.add_sub_cancel_left,
        Nat.add_sub_cancel_left]

/-- The letters of the short escapes and the characters for which they stand. -/
def shortEscapes : List (Char × Char) :=
  [('"', '"'), ('\\', '\\'), ('/', '/'), ('b', '\x08'), ('f', '\x0C'), ('n', '\n'), ('r', '\r'),
    ('t', '\t')]

theorem shortEscape?_of_mem : ∀ p ∈ shortEscapes,
    (p.1.toNat < 0x80 ∧ p.2.toNat < 0x80) ∧ shortEscape? (byte p.1) = some (byte p.2) := by
  decide

theorem shortEscape?_eq_some {letter b : UInt8} (h : shortEscape? letter = some b) :
    ∃ p ∈ shortEscapes, letter = byte p.1 ∧ b = byte p.2 := by
  rw [shortEscape?] at h
  split_ifs at h with hself hb hf hn hr ht <;> cases h
  · obtain rfl | rfl | rfl := hself
    · exact ⟨('"', '"'), by decide, rfl, rfl⟩
    · exact ⟨('\\', '\\'), by decide, rfl, rfl⟩
    · exact ⟨('/', '/'), by decide, rfl, rfl⟩
  · exact ⟨('b', '\x08'), by decide, hb, rfl⟩
  · exact ⟨('f', '\x0C'), by decide, hf, rfl⟩
  · exact ⟨('n', '\n'), by decide, hn, rfl⟩
  · exact ⟨('r', '\r'), by decide, hr, rfl⟩
  · exact ⟨('t', '\t'), by decide, ht, rfl⟩

/-- What stands behind a backslash. -/
inductive Escape (c : Char) : List Char → Prop where
  | short {letter : Char} (h : (letter, c) ∈ shortEscapes) : Escape c [letter]
  | number {cs : List Char} (h : CodePoint c cs) : Escape c ('u' :: cs)

theorem readEscape_eq_ok_iff :
    readEscape s = .ok (bytes, rest) ↔
      ∃ c cs, bytes = String.utf8EncodeChar c ∧ Escape c cs ∧ s = Utf8.ofChars cs ++ rest := by
  constructor
  · intro h
    unfold readEscape at h
    split at h
    · cases h
    · rename_i letter t
      split at h
      · rename_i b hb
        cases h
        obtain ⟨p, hp, rfl, rfl⟩ := shortEscape?_eq_some hb
        obtain ⟨⟨hletter, hc⟩, -⟩ := shortEscape?_of_mem p hp
        refine ⟨p.2, [p.1], (Utf8.utf8EncodeChar_of_lt hc).symm, .short hp, ?_⟩
        rw [Utf8.ofChars_cons hletter, Utf8.ofChars_nil, List.singleton_append]
      · split_ifs at h with hu
        obtain ⟨⟨n, t'⟩, hn, heq⟩ := map_eq_ok.1 h
        cases heq
        obtain ⟨c, cs, rfl, hcs, rfl⟩ := readCodePoint_eq_ok_iff.1 hn
        refine ⟨c, 'u' :: cs, by rw [Char.ofNat_toNat], .number hcs, ?_⟩
        rw [Utf8.ofChars_cons (by decide), List.cons_append, hu]
  · rintro ⟨c, cs, rfl, hcs, rfl⟩
    cases hcs with
    | short h =>
      obtain ⟨⟨hletter, hc⟩, hshort⟩ := shortEscape?_of_mem _ h
      rw [Utf8.ofChars_cons hletter, Utf8.ofChars_nil, List.singleton_append, readEscape, hshort,
        Utf8.utf8EncodeChar_of_lt hc]
    | @number cs h =>
      rw [Utf8.ofChars_cons (by decide), List.cons_append, readEscape,
        show shortEscape? (byte 'u') = none by decide]
      dsimp only
      rw [if_pos rfl, readCodePoint_eq_ok_iff.2 ⟨c, cs, rfl, h, rfl⟩]
      change Except.ok (String.utf8EncodeChar (Char.ofNat c.toNat), rest) = _
      rw [Char.ofNat_toNat]

/-! ### Spellings -/

/-- The spellings of a character between quotation marks. -/
inductive CharSpelled (c : Char) : List Char → Prop where
  | plain (hcontrol : 0x20 ≤ c.toNat) (hquote : c ≠ '"') (hslash : c ≠ '\\') : CharSpelled c [c]
  | escaped {cs : List Char} (h : Escape c cs) : CharSpelled c ('\\' :: cs)

/-- The spellings of a text between quotation marks, character by character. -/
inductive Spelled : List Char → List Char → Prop where
  | nil : Spelled [] []
  | cons {c : Char} {text piece cs : List Char} (hc : CharSpelled c piece)
      (htext : Spelled text cs) : Spelled (c :: text) (piece ++ cs)

/-! ### Steps of the reader -/

theorem collect_quote (read rest : Bytes) :
    collect read (byte '"' :: rest) = .ok (read.reverse, rest) := by
  rw [collect]
  exact if_pos rfl

theorem collect_escape (h : readEscape s = .ok (bytes, rest)) :
    collect read (byte '\\' :: s) = collect (bytes.reverse ++ read) rest := by
  rw [collect, if_neg (by decide), if_pos rfl]
  split
  · rename_i hs
    rw [h] at hs
    cases hs
  · rename_i hs
    rw [h] at hs
    cases hs
    rfl

theorem collect_plain {b : UInt8} (h : 0x80 ≤ b.toNat ∨
      0x20 ≤ b.toNat ∧ b ≠ byte '"' ∧ b ≠ byte '\\') (rest : Bytes) :
    collect read (b :: rest) = collect (b :: read) rest := by
  have hquote : b ≠ byte '"' := by
    rintro rfl
    revert h
    decide
  have hslash : b ≠ byte '\\' := by
    rintro rfl
    revert h
    decide
  have hcontrol : ¬b < 0x20 := by
    rw [UInt8.lt_iff_toNat_lt]
    change ¬b.toNat < 32
    omega
  rw [collect, if_neg hquote, if_neg hslash, if_neg hcontrol]

theorem collect_plains {s : Bytes} (h : ∀ b ∈ s, 0x80 ≤ b.toNat) (rest : Bytes) :
    collect read (s ++ rest) = collect (s.reverse ++ read) rest := by
  induction s generalizing read with
  | nil => rfl
  | cons b s ih =>
    rw [List.cons_append, collect_plain (.inl (h b List.mem_cons_self)),
      ih fun c hc => h c (List.mem_cons_of_mem b hc), List.reverse_cons, List.append_assoc,
      List.singleton_append]

/-- A spelled character adds its bytes. -/
theorem collect_charSpelled {c : Char} {piece : List Char} (h : CharSpelled c piece)
    (rest : Bytes) :
    collect read (Utf8.ofChars piece ++ rest) =
      collect ((String.utf8EncodeChar c).reverse ++ read) rest := by
  cases h with
  | @escaped cs h =>
    rw [Utf8.ofChars_cons (by decide), List.cons_append]
    exact collect_escape (readEscape_eq_ok_iff.2 ⟨c, cs, rfl, h, rfl⟩)
  | plain hcontrol hquote hslash =>
    rw [Utf8.ofChars_singleton_append, Utf8.ofChars_nil, List.append_nil]
    by_cases hascii : c.toNat < 0x80
    · have hne {d : Char} (hd : d.toNat < 0x80) (hcd : c ≠ d) : byte c ≠ byte d := by
        intro h
        refine hcd (Char.toNat_inj.1 ?_)
        rw [← Utf8.toNat_byte hascii, h, Utf8.toNat_byte hd]
      rw [Utf8.utf8EncodeChar_of_lt hascii, List.singleton_append, List.reverse_singleton,
        List.singleton_append]
      refine collect_plain (.inr ⟨?_, hne (by decide) hquote, hne (by decide) hslash⟩) rest
      rw [Utf8.toNat_byte hascii]
      exact hcontrol
    · exact collect_plains (Utf8.le_toNat_of_mem_utf8EncodeChar (Nat.le_of_not_lt hascii)) rest

theorem collect_spelled {text cs : List Char} (h : Spelled text cs) (read rest : Bytes) :
    collect read (Utf8.ofChars cs ++ byte '"' :: rest) =
      .ok (read.reverse ++ Utf8.ofChars text, rest) := by
  induction h generalizing read with
  | nil =>
    rw [Utf8.ofChars_nil, List.append_nil]
    exact collect_quote read rest
  | cons hc _ ih =>
    rw [Utf8.ofChars_append, List.append_assoc, collect_charSpelled hc, ih,
      Utf8.ofChars_singleton_append, List.reverse_append, List.reverse_reverse, List.append_assoc]

/-! ### What has been collected -/

/-- The bytes collected up to the closing quotation mark, and what is left behind it. -/
inductive Collects : Bytes → Bytes → Bytes → Prop where
  | quote {rest : Bytes} : Collects (byte '"' :: rest) [] rest
  | escape {c : Char} {cs : List Char} {t more rest : Bytes} (h : Escape c cs)
      (behind : Collects t more rest) :
      Collects (byte '\\' :: (Utf8.ofChars cs ++ t)) (String.utf8EncodeChar c ++ more) rest
  | plain {b : UInt8} {t more rest : Bytes} (hcontrol : 0x20 ≤ b.toNat) (hquote : b ≠ byte '"')
      (hslash : b ≠ byte '\\') (behind : Collects t more rest) :
      Collects (b :: t) (b :: more) rest

theorem Collects.of_collect (h : collect read s = .ok (bytes, rest)) :
    ∃ more, bytes = read.reverse ++ more ∧ Collects s more rest := by
  fun_induction collect read s with
  | case1 | case3 | case5 => cases h
  | case2 read t =>
    cases h
    exact ⟨[], (List.append_nil _).symm, .quote⟩
  | case4 read t escaped t' hescape _ ih =>
    obtain ⟨more, hmore, hcollects⟩ := ih h
    obtain ⟨c, cs, rfl, hcs, rfl⟩ := readEscape_eq_ok_iff.1 hescape
    refine ⟨_, ?_, .escape hcs hcollects⟩
    rw [hmore, List.reverse_append, List.reverse_reverse, List.append_assoc]
  | case6 read b t hquote hslash hcontrol ih =>
    obtain ⟨more, hmore, hcollects⟩ := ih h
    refine ⟨b :: more, ?_, .plain ?_ hquote hslash hcollects⟩
    · rw [hmore, List.reverse_cons, List.append_assoc]
      rfl
    · rw [UInt8.lt_iff_toNat_lt] at hcontrol
      exact Nat.le_of_not_lt hcontrol

/-- Bytes that continue a character stand in the text as they are. -/
theorem Collects.of_continues {ks : Bytes} (hks : ∀ k ∈ ks, Utf8.Continues k) {more : Bytes}
    (h : Collects s (ks ++ more) rest) : ∃ t, s = ks ++ t ∧ Collects t more rest := by
  induction ks generalizing s with
  | nil => exact ⟨s, rfl, h⟩
  | cons k ks ih =>
    obtain ⟨hk, hks⟩ := List.forall_mem_cons.1 hks
    rw [List.cons_append] at h
    generalize hbytes : k :: (ks ++ more) = bytes at h
    cases h with
    | quote => cases hbytes
    | @escape c =>
      obtain ⟨first, ks', hc, hfirst, -⟩ := Utf8.exists_utf8EncodeChar_eq_cons c
      rw [hc] at hbytes
      obtain ⟨rfl, -⟩ := List.cons.inj hbytes
      exact absurd hk hfirst
    | plain _ _ _ hbehind =>
      cases hbytes
      obtain ⟨t, rfl, ht⟩ := ih hks hbehind
      exact ⟨t, rfl, ht⟩

/-- **Bytes that were collected and are those of a text are spelled out.** -/
theorem Collects.exists_spelled {text : List Char} (h : Collects s (Utf8.ofChars text) rest) :
    ∃ cs, Spelled text cs ∧ s = Utf8.ofChars cs ++ byte '"' :: rest := by
  induction text generalizing s with
  | nil =>
    generalize hbytes : Utf8.ofChars [] = bytes at h
    cases h with
    | quote => exact ⟨[], .nil, rfl⟩
    | escape =>
      exact absurd (List.append_eq_nil_iff.1 hbytes.symm).1 String.utf8EncodeChar_ne_nil
    | plain => cases hbytes
  | cons c text ih =>
    obtain ⟨first, ks, hc, hfirst, hks⟩ := Utf8.exists_utf8EncodeChar_eq_cons c
    generalize hbytes : Utf8.ofChars (c :: text) = bytes at h
    rw [Utf8.ofChars_singleton_append] at hbytes
    cases h with
    | quote =>
      rw [hc] at hbytes
      cases hbytes
    | escape hescape hbehind =>
      obtain ⟨rfl, rfl⟩ := Utf8.utf8EncodeChar_append_inj hbytes
      obtain ⟨cs, hcs, rfl⟩ := ih hbehind
      refine ⟨_, .cons (.escaped hescape) hcs, ?_⟩
      rw [Utf8.ofChars_append, Utf8.ofChars_cons (by decide), List.append_assoc]
      rfl
    | plain hcontrol hquote hslash hbehind =>
      rw [hc] at hbytes
      cases hbytes
      obtain ⟨t, rfl, ht⟩ := hbehind.of_continues hks
      obtain ⟨cs, hcs, rfl⟩ := ih ht
      refine ⟨c :: cs, .cons (.plain ?_ ?_ ?_) hcs, ?_⟩
      · refine Nat.le_of_not_lt fun hlt => ?_
        have hascii : c.toNat < 0x80 := by omega
        rw [Utf8.utf8EncodeChar_of_lt hascii] at hc
        cases hc
        rw [Utf8.toNat_byte hascii] at hcontrol
        exact absurd hlt (Nat.not_lt_of_le hcontrol)
      · rintro rfl
        cases hc
        exact hquote rfl
      · rintro rfl
        cases hc
        exact hslash rfl
      · rw [Utf8.ofChars_singleton_append, hc, List.append_assoc]
        rfl

/-! ### Whole strings -/

/-- **A string is read exactly if it is spelled out.** The opening quotation mark has been taken. -/
theorem read_eq_ok_iff {text : String} :
    Quoted.read s = .ok (text, rest) ↔
      ∃ cs, Spelled text.toList cs ∧ s = Utf8.ofChars cs ++ byte '"' :: rest := by
  constructor
  · intro h
    obtain ⟨⟨bytes, t⟩, hcollect, hdecode⟩ := bind_eq_ok.1 h
    obtain ⟨more, hmore, hcollects⟩ := Collects.of_collect hcollect
    dsimp only at hdecode
    split at hdecode
    · rename_i text' htext
      cases hdecode
      rw [List.reverse_nil, List.nil_append] at hmore
      rw [← hmore, Utf8.decode?_eq_some_iff.1 htext] at hcollects
      exact hcollects.exists_spelled
    · cases hdecode
  · rintro ⟨cs, hcs, rfl⟩
    rw [Quoted.read, collect_spelled hcs]
    dsimp only [Except.bind]
    rw [List.reverse_nil, List.nil_append,
      show Utf8.ofChars text.toList = Utf8.encode text from rfl, Utf8.decode?_encode]

/-- The bytes between the quotation marks. -/
theorem ofChars_quoted (inner : List Char) :
    Utf8.ofChars ('"' :: (inner ++ ['"'])) = byte '"' :: (Utf8.ofChars inner ++ [byte '"']) := by
  rw [Utf8.ofChars_cons (by decide), Utf8.ofChars_append]
  rfl

/-! ### Written strings -/

/-- What is written for a character is one of its spellings. -/
theorem charSpelled_writeChar (c : Char) : CharSpelled c (writeChar c) := by
  rw [writeChar]
  split_ifs with hquote hslash hb ht hn hf hr hcontrol
  · exact .escaped (.short (by rw [hquote]; decide))
  · exact .escaped (.short (by rw [hslash]; decide))
  · exact .escaped (.short (by rw [hb]; decide))
  · exact .escaped (.short (by rw [ht]; decide))
  · exact .escaped (.short (by rw [hn]; decide))
  · exact .escaped (.short (by rw [hf]; decide))
  · exact .escaped (.short (by rw [hr]; decide))
  · have hzero : HexDigit 0 '0' := hexDigit_hexChar (by decide)
    have hhigh : HexDigit (c.toNat / 16) (hexChar (c.toNat / 16)) := hexDigit_hexChar (by omega)
    have hlow : HexDigit (c.toNat % 16) (hexChar (c.toNat % 16)) := hexDigit_hexChar (by omega)
    have hnumber := HexNumber.mk hzero hzero hhigh hlow
    rw [show ((0 * 16 + 0) * 16 + c.toNat / 16) * 16 + c.toNat % 16 = c.toNat by omega] at hnumber
    exact .escaped (.number (.single hnumber))
  · exact .plain (Nat.le_of_not_lt hcontrol) hquote hslash

theorem spelled_flatMap_writeChar (text : List Char) : Spelled text (text.flatMap writeChar) := by
  induction text with
  | nil => exact .nil
  | cons c text ih =>
    rw [List.flatMap_cons]
    exact .cons (charSpelled_writeChar c) ih

/-- **A text reads back from its quoted form.** The opening quotation mark has been taken. -/
theorem read_write (text : String) (rest : Bytes) :
    Quoted.read (Utf8.ofChars (text.toList.flatMap writeChar) ++ byte '"' :: rest) =
      .ok (text, rest) :=
  read_eq_ok_iff.2 ⟨_, spelled_flatMap_writeChar text.toList, rfl⟩

end OneShot.Json.Quoted
