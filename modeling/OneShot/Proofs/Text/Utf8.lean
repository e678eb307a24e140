import Mathlib.Tactic.SplitIfs
import OneShot.Text.Utf8

/-!
# UTF-8 read and written

Reading takes a byte sequence apart from the front, and writing puts characters side by side. They
meet in one statement about a single piece, `piece_eq_scalar_iff`: the piece is a character exactly
if the bytes begin with what is written for it. That a byte sequence is text exactly if it is what
is written for that text, `decode?_eq_some_iff`, follows by induction on the pieces.

Also here: what is written for ASCII characters, byte by byte.
-/

namespace OneShot.Utf8

/-! ### Writing -/

theorem encode_append (s t : String) : encode (s ++ t) = encode s ++ encode t := by
  rw [encode, encode, encode, String.toList_append, List.flatMap_append]

/-- The bytes of some characters. -/
def ofChars (cs : List Char) : Bytes := cs.flatMap String.utf8EncodeChar

theorem encode_ofList (cs : List Char) : encode (String.ofList cs) = ofChars cs := by
  rw [encode, String.toList_ofList, ofChars]

theorem ofChars_nil : ofChars [] = [] := rfl

theorem ofChars_append (cs ds : List Char) : ofChars (cs ++ ds) = ofChars cs ++ ofChars ds :=
  List.flatMap_append

theorem ofChars_singleton_append (c : Char) (cs : List Char) :
    ofChars (c :: cs) = String.utf8EncodeChar c ++ ofChars cs :=
  List.flatMap_cons

theorem toNat_byte {c : Char} (h : c.toNat < 0x80) : (byte c).toNat = c.toNat := by
  rw [byte, Char.toUInt8, UInt32.toNat_toUInt8]
  exact Nat.mod_eq_of_lt (by change c.toNat < 256; omega)

/-- An ASCII character is one byte. -/
theorem utf8EncodeChar_of_lt {c : Char} (h : c.toNat < 0x80) :
    String.utf8EncodeChar c = [byte c] := by
  rw [String.utf8EncodeChar]
  exact if_pos (Nat.le_of_lt_succ h)

theorem ofChars_cons {c : Char} (h : c.toNat < 0x80) (cs : List Char) :
    ofChars (c :: cs) = byte c :: ofChars cs := by
  rw [ofChars_singleton_append, utf8EncodeChar_of_lt h, List.singleton_append]

/-- The bytes of a character beyond ASCII are all beyond ASCII. -/
theorem le_toNat_of_mem_utf8EncodeChar {c : Char} (hc : 0x80 ≤ c.toNat) :
    ∀ b ∈ String.utf8EncodeChar c, 0x80 ≤ b.toNat := by
  have hbyte {n : Nat} (hn : 0x80 ≤ n) (hn' : n < 256) : 0x80 ≤ (UInt8.ofNat n).toNat := by
    rw [UInt8.toNat_ofNat_of_lt' hn']
    exact hn
  change 0x80 ≤ c.val.toNat at hc
  rw [String.utf8EncodeChar, if_neg (by omega)]
  split_ifs
  · rw [List.forall_mem_cons, List.forall_mem_singleton]
    exact ⟨hbyte (by omega) (by omega), hbyte (by omega) (by omega)⟩
  · rw [List.forall_mem_cons, List.forall_mem_cons, List.forall_mem_singleton]
    exact ⟨hbyte (by omega) (by omega), hbyte (by omega) (by omega), hbyte (by omega) (by omega)⟩
  · rw [List.forall_mem_cons, List.forall_mem_cons, List.forall_mem_cons,
      List.forall_mem_singleton]
    exact ⟨hbyte (by omega) (by omega), hbyte (by omega) (by omega), hbyte (by omega) (by omega),
      hbyte (by omega) (by omega)⟩

/-- A byte that continues a character. -/
def Continues (b : UInt8) : Prop := 0x80 ≤ b.toNat ∧ b.toNat < 0xC0

theorem continues_ofNat {n : Nat} (h : n < 64) : Continues (UInt8.ofNat (n + 0x80)) := by
  have hlt : n + 0x80 < 256 := by omega
  rw [Continues, UInt8.toNat_ofNat_of_lt' hlt]
  omega

theorem not_continues_ofNat {n : Nat} (h : n < 0x80 ∨ 0xC0 ≤ n) (hlt : n < 256) :
    ¬Continues (UInt8.ofNat n) := by
  rw [Continues, UInt8.toNat_ofNat_of_lt' hlt]
  omega

/-- All bytes of a character but the first continue it. -/
theorem exists_utf8EncodeChar_eq_cons (c : Char) : ∃ first more,
    String.utf8EncodeChar c = first :: more ∧ ¬Continues first ∧ ∀ b ∈ more, Continues b := by
  have hv : c.val.toNat < 0xD800 ∨ 0xDFFF < c.val.toNat ∧ c.val.toNat < 0x110000 := c.valid
  rw [String.utf8EncodeChar]
  split_ifs <;> refine ⟨_, _, rfl, not_continues_ofNat (by omega) (by omega), ?_⟩
  · exact List.forall_mem_nil _
  · exact List.forall_mem_singleton.2 (continues_ofNat (by omega))
  · rw [List.forall_mem_cons, List.forall_mem_singleton]
    exact ⟨continues_ofNat (by omega), continues_ofNat (by omega)⟩
  · rw [List.forall_mem_cons, List.forall_mem_cons, List.forall_mem_singleton]
    exact ⟨continues_ofNat (by omega), continues_ofNat (by omega), continues_ofNat (by omega)⟩

/-- The zero character is the only one with a zero byte. -/
theorem zero_mem_utf8EncodeChar_iff {c : Char} :
    0 ∈ String.utf8EncodeChar c ↔ c = '\x00' := by
  by_cases hc : c.toNat < 0x80
  · rw [utf8EncodeChar_of_lt hc, List.mem_singleton]
    constructor
    · intro h
      have hzero : c.toNat = 0 := by rw [← toNat_byte hc, ← h]; rfl
      exact Char.toNat_inj.1 hzero
    · rintro rfl
      rfl
  · constructor
    · intro h
      exact absurd (le_toNat_of_mem_utf8EncodeChar (Nat.le_of_not_lt hc) 0 h) (by decide)
    · rintro rfl
      exact absurd (by decide) hc

theorem zero_mem_encode_iff {text : String} : 0 ∈ encode text ↔ '\x00' ∈ text.toList := by
  change 0 ∈ text.toList.flatMap String.utf8EncodeChar ↔ _
  rw [List.mem_flatMap]
  constructor
  · rintro ⟨c, hc, hzero⟩
    exact zero_mem_utf8EncodeChar_iff.1 hzero ▸ hc
  · intro h
    exact ⟨_, h, zero_mem_utf8EncodeChar_iff.2 rfl⟩

/-! Each width of a character, with its bytes given by their values. -/

theorem exists_byte {n : Nat} (h : n < 256) : ∃ b : UInt8, b.toNat = n :=
  ⟨UInt8.ofNat n, UInt8.toNat_ofNat_of_lt' h⟩

theorem ofNat_eq_byte {n : Nat} {b : UInt8} (h : b.toNat = n) : UInt8.ofNat n = b := by
  rw [← h, UInt8.ofNat_toNat]

theorem toNat_ofNat {n : Nat} (h : n < 0xD800 ∨ 0xDFFF < n ∧ n < 0x110000) :
    (Char.ofNat n).val.toNat = n := by
  rw [Char.ofNat, dif_pos h]
  rfl

section Widths

variable {n : Nat} {b₀ b₁ b₂ b₃ : UInt8}

theorem utf8EncodeChar_one (hn : n < 0x80) (h₀ : b₀.toNat = n) :
    String.utf8EncodeChar (Char.ofNat n) = [b₀] := by
  rw [String.utf8EncodeChar, toNat_ofNat (by omega)]
  simp only [if_pos (Nat.le_of_lt_succ hn), ofNat_eq_byte h₀]

theorem utf8EncodeChar_two (hn : 0x80 ≤ n ∧ n < 0x800) (h₀ : b₀.toNat = n / 64 + 0xC0)
    (h₁ : b₁.toNat = n % 64 + 0x80) : String.utf8EncodeChar (Char.ofNat n) = [b₀, b₁] := by
  rw [String.utf8EncodeChar, toNat_ofNat (by omega), if_neg (by omega), if_pos (by omega),
    ofNat_eq_byte (b := b₀) (by omega), ofNat_eq_byte (b := b₁) (by omega)]

theorem utf8EncodeChar_three (hn : 0x800 ≤ n ∧ n < 0x10000) (hs : n < 0xD800 ∨ 0xDFFF < n)
    (h₀ : b₀.toNat = n / 4096 + 0xE0) (h₁ : b₁.toNat = n / 64 % 64 + 0x80)
    (h₂ : b₂.toNat = n % 64 + 0x80) :
    String.utf8EncodeChar (Char.ofNat n) = [b₀, b₁, b₂] := by
  rw [String.utf8EncodeChar, toNat_ofNat (by omega), if_neg (by omega), if_neg (by omega),
    if_pos (by omega), ofNat_eq_byte (b := b₀) (by omega), ofNat_eq_byte (b := b₁) (by omega),
    ofNat_eq_byte (b := b₂) (by omega)]

theorem utf8EncodeChar_four (hn : 0x10000 ≤ n ∧ n < 0x110000)
    (h₀ : b₀.toNat = n / 262144 + 0xF0) (h₁ : b₁.toNat = n / 4096 % 64 + 0x80)
    (h₂ : b₂.toNat = n / 64 % 64 + 0x80) (h₃ : b₃.toNat = n % 64 + 0x80) :
    String.utf8EncodeChar (Char.ofNat n) = [b₀, b₁, b₂, b₃] := by
  rw [String.utf8EncodeChar, toNat_ofNat (by omega), if_neg (by omega), if_neg (by omega),
    if_neg (by omega), ofNat_eq_byte (b := b₀) (by omega), ofNat_eq_byte (b := b₁) (by omega),
    ofNat_eq_byte (b := b₂) (by omega), ofNat_eq_byte (b := b₃) (by omega)]

end Widths

/-! ### One piece -/

theorem continuation_zero {low high bits : Nat} {s behind : Bytes} {code : Nat} :
    continuation low high bits 0 s = (some code, behind) ↔
      ∃ b : UInt8, (low ≤ b.toNat ∧ b.toNat ≤ high) ∧ s = b :: behind ∧
        code = bits * 64 + b.toNat % 64 := by
  cases s with
  | nil => simp [continuation]
  | cons b rest =>
    rw [continuation]
    split_ifs with h
    · simp only [Prod.mk.injEq, Option.some.injEq, List.cons.injEq]
      constructor
      · rintro ⟨hc, hr⟩
        exact ⟨b, h, ⟨rfl, hr⟩, hc.symm⟩
      · rintro ⟨b', _, ⟨hb, hr⟩, hc⟩
        exact ⟨by rw [hb, hc], hr⟩
    · simp only [Prod.mk.injEq, reduceCtorEq, false_and, List.cons.injEq, false_iff]
      rintro ⟨b', hb', ⟨rfl, -⟩, -⟩
      exact h hb'

theorem continuation_succ {low high bits more : Nat} {s behind : Bytes} {code : Nat} :
    continuation low high bits (more + 1) s = (some code, behind) ↔
      ∃ (b : UInt8) (rest : Bytes), (low ≤ b.toNat ∧ b.toNat ≤ high) ∧ s = b :: rest ∧
        continuation 0x80 0xBF (bits * 64 + b.toNat % 64) more rest = (some code, behind) := by
  cases s with
  | nil => simp [continuation]
  | cons b rest =>
    rw [continuation]
    split_ifs with h
    · constructor
      · intro hc
        exact ⟨b, rest, h, rfl, hc⟩
      · rintro ⟨b', rest', _, heq, hc⟩
        cases heq
        exact hc
    · simp only [Prod.mk.injEq, reduceCtorEq, false_and, false_iff]
      rintro ⟨b', rest', hb', heq, -⟩
      cases heq
      exact h hb'

theorem eq_encode_of_piece {first : UInt8} {rest behind : Bytes} {c : Char}
    (h : piece first rest = (.scalar c, behind)) :
    first :: rest = String.utf8EncodeChar c ++ behind := by
  rw [piece] at h
  split_ifs at h with h0
  · cases h
    rw [utf8EncodeChar_one h0 rfl]
    rfl
  have hlt : first.toNat < 256 := first.toNat_lt
  rcases hb : continuationBounds first.toNat with _ | ⟨low, high, more⟩
  · rw [hb] at h
    cases h
  rw [hb] at h
  dsimp only at h
  rcases hk : continuation low high (firstBits first.toNat more) more rest with ⟨_ | code, t⟩
  · rw [hk] at h
    cases h
  rw [hk] at h
  cases h
  rw [continuationBounds] at hb
  split_ifs at hb <;> cases hb <;>
    simp only [continuation_succ, continuation_zero, firstBits] at hk
  · obtain ⟨b₁, h₁, rfl, rfl⟩ := hk
    rw [@utf8EncodeChar_two _ first b₁ (by omega) (by omega) (by omega)]
    rfl
  iterate 3
    obtain ⟨b₁, _, h₁, rfl, b₂, h₂, rfl, rfl⟩ := hk
    rw [@utf8EncodeChar_three _ first b₁ b₂ (by omega) (by omega) (by omega)
      (by omega) (by omega)]
    rfl
  all_goals
    obtain ⟨b₁, _, h₁, rfl, b₂, _, h₂, rfl, b₃, h₃, rfl, rfl⟩ := hk
    rw [@utf8EncodeChar_four _ first b₁ b₂ b₃ (by omega) (by omega)
      (by omega) (by omega) (by omega)]
    rfl

theorem piece_of_continuation {first : UInt8} (rest : Bytes) {low high more : Nat}
    {behind : Bytes} {code : Nat} (h0 : 0x80 ≤ first.toNat)
    (hb : continuationBounds first.toNat = some (low, high, more))
    (hk : continuation low high (firstBits first.toNat more) more rest = (some code, behind)) :
    piece first rest = (.scalar (Char.ofNat code), behind) := by
  rw [piece, if_neg (by omega), hb]
  dsimp only
  rw [hk]

theorem exists_piece_encode (c : Char) (behind : Bytes) :
    ∃ first rest, String.utf8EncodeChar c ++ behind = first :: rest ∧
      piece first rest = (.scalar c, behind) := by
  have hv : c.toNat < 0xD800 ∨ 0xDFFF < c.toNat ∧ c.toNat < 0x110000 := c.valid
  rw [← Char.ofNat_toNat c]
  generalize c.toNat = v at hv
  by_cases h1 : v < 0x80
  · obtain ⟨b₀, h₀⟩ := exists_byte (n := v) (by omega)
    rw [utf8EncodeChar_one h1 h₀]
    refine ⟨b₀, behind, rfl, ?_⟩
    rw [piece, if_pos (by omega), h₀]
  by_cases h2 : v < 0x800
  · obtain ⟨b₀, h₀⟩ := exists_byte (n := v / 64 + 0xC0) (by omega)
    obtain ⟨b₁, h₁⟩ := exists_byte (n := v % 64 + 0x80) (by omega)
    rw [utf8EncodeChar_two (by omega) h₀ h₁]
    have hb : continuationBounds b₀.toNat = some (0x80, 0xBF, 0) := by
      rw [continuationBounds, if_neg (by omega), if_pos (by omega)]
    refine ⟨b₀, b₁ :: behind, rfl, piece_of_continuation _ (by omega) hb ?_⟩
    rw [continuation_zero]
    refine ⟨b₁, by omega, rfl, ?_⟩
    rw [firstBits]
    omega
  by_cases h3 : v < 0x10000
  · obtain ⟨b₀, h₀⟩ := exists_byte (n := v / 4096 + 0xE0) (by omega)
    obtain ⟨b₁, h₁⟩ := exists_byte (n := v / 64 % 64 + 0x80) (by omega)
    obtain ⟨b₂, h₂⟩ := exists_byte (n := v % 64 + 0x80) (by omega)
    rw [utf8EncodeChar_three (by omega) (by omega) h₀ h₁ h₂]
    obtain ⟨low, high, hb, hlow, hhigh⟩ : ∃ low high,
        continuationBounds b₀.toNat = some (low, high, 1) ∧ low ≤ b₁.toNat ∧ b₁.toNat ≤ high := by
      rw [continuationBounds]
      split_ifs <;> first | omega | exact ⟨_, _, rfl, by omega, by omega⟩
    refine ⟨b₀, b₁ :: b₂ :: behind, rfl, piece_of_continuation _ (by omega) hb ?_⟩
    rw [continuation_succ]
    refine ⟨b₁, b₂ :: behind, ⟨hlow, hhigh⟩, rfl, continuation_zero.2 ⟨b₂, by omega, rfl, ?_⟩⟩
    rw [firstBits]
    omega
  · obtain ⟨b₀, h₀⟩ := exists_byte (n := v / 262144 + 0xF0) (by omega)
    obtain ⟨b₁, h₁⟩ := exists_byte (n := v / 4096 % 64 + 0x80) (by omega)
    obtain ⟨b₂, h₂⟩ := exists_byte (n := v / 64 % 64 + 0x80) (by omega)
    obtain ⟨b₃, h₃⟩ := exists_byte (n := v % 64 + 0x80) (by omega)
    rw [utf8EncodeChar_four (by omega) h₀ h₁ h₂ h₃]
    obtain ⟨low, high, hb, hlow, hhigh⟩ : ∃ low high,
        continuationBounds b₀.toNat = some (low, high, 2) ∧ low ≤ b₁.toNat ∧ b₁.toNat ≤ high := by
      rw [continuationBounds]
      split_ifs <;> first | omega | exact ⟨_, _, rfl, by omega, by omega⟩
    refine ⟨b₀, b₁ :: b₂ :: b₃ :: behind, rfl, piece_of_continuation _ (by omega) hb ?_⟩
    rw [continuation_succ]
    refine ⟨b₁, b₂ :: b₃ :: behind, ⟨hlow, hhigh⟩, rfl, continuation_succ.2
      ⟨b₂, b₃ :: behind, by omega, rfl, continuation_zero.2 ⟨b₃, by omega, rfl, ?_⟩⟩⟩
    rw [firstBits]
    all_goals omega

theorem piece_eq_scalar_iff {first : UInt8} {rest behind : Bytes} {c : Char} :
    piece first rest = (.scalar c, behind) ↔
      first :: rest = String.utf8EncodeChar c ++ behind := by
  refine ⟨eq_encode_of_piece, fun h => ?_⟩
  obtain ⟨first', rest', henc, hp⟩ := exists_piece_encode c behind
  rw [henc] at h
  cases h
  exact hp

/-- Where two characters begin a byte sequence they are the same one. -/
theorem utf8EncodeChar_append_inj {c d : Char} {s t : Bytes}
    (h : String.utf8EncodeChar c ++ s = String.utf8EncodeChar d ++ t) : c = d ∧ s = t := by
  obtain ⟨first, rest, henc, hpiece⟩ := exists_piece_encode c s
  have hpiece' : piece first rest = (.scalar d, t) := piece_eq_scalar_iff.2 (henc.symm.trans h)
  rw [hpiece] at hpiece'
  cases hpiece'
  exact ⟨rfl, rfl⟩

/-! ### Whole texts -/

theorem Piece.char?_eq_some_iff {p : Piece} {c : Char} : p.char? = some c ↔ p = .scalar c := by
  cases p <;> simp [char?]

theorem chars_pieces_eq_some_iff {s : Bytes} {cs : List Char} :
    ((pieces s).mapM fun (p : Piece × Nat) => p.1.char?) = some cs ↔
      s = cs.flatMap String.utf8EncodeChar := by
  fun_induction pieces s generalizing cs with
  | case1 => cases cs <;> simp [String.utf8EncodeChar_ne_nil]
  | case2 first rest next =>
    rename_i ih
    simp only [List.mapM_cons, Option.bind_eq_bind, Option.bind_eq_some_iff,
      Piece.char?_eq_some_iff, Option.pure_def, Option.some.injEq]
    constructor
    · rintro ⟨c, hc, cs', hcs, rfl⟩
      rw [List.flatMap_cons, ← ih.1 hcs, ← piece_eq_scalar_iff, ← hc]
    · intro h
      cases cs with
      | nil => cases h
      | cons c cs =>
        rw [List.flatMap_cons, ← piece_eq_scalar_iff] at h
        have hn : next = (.scalar c, cs.flatMap String.utf8EncodeChar) := h
        rw [hn] at ih ⊢
        exact ⟨c, rfl, cs, ih.2 rfl, rfl⟩

/-- **Bytes are text exactly if they are what is written for that text.** -/
theorem decode?_eq_some_iff {s : Bytes} {t : String} : decode? s = some t ↔ s = encode t := by
  rw [decode?, Option.map_eq_some_iff]
  constructor
  · rintro ⟨cs, hcs, rfl⟩
    rw [encode_ofList, ofChars, chars_pieces_eq_some_iff.1 hcs]
  · intro h
    exact ⟨t.toList, chars_pieces_eq_some_iff.2 h, String.ofList_toList⟩

@[simp] theorem decode?_encode (t : String) : decode? (encode t) = some t :=
  decode?_eq_some_iff.2 rfl

theorem encode_eq_ofChars_iff {t : String} {cs : List Char} :
    encode t = ofChars cs ↔ t.toList = cs := by
  rw [← encode_ofList]
  constructor
  · intro h
    have hdecode := congrArg decode? h
    rw [decode?_encode, decode?_encode] at hdecode
    rw [Option.some.inj hdecode, String.toList_ofList]
  · rintro rfl
    rw [String.ofList_toList]

theorem ofChars_inj {cs ds : List Char} : ofChars cs = ofChars ds ↔ cs = ds := by
  rw [← encode_ofList, encode_eq_ofChars_iff, String.toList_ofList]

theorem mapM_decode?_eq_some_iff {words : List Bytes} {texts : List String} :
    words.mapM decode? = some texts ↔ words = texts.map encode := by
  induction words generalizing texts with
  | nil => cases texts <;> simp
  | cons word words ih =>
    simp only [List.mapM_cons, Option.bind_eq_bind, Option.bind_eq_some_iff,
      decode?_eq_some_iff, ih, Option.pure_def, Option.some.injEq]
    constructor
    · rintro ⟨t, rfl, ts, rfl, rfl⟩
      rfl
    · intro h
      cases texts with
      | nil => cases h
      | cons t ts =>
        rw [List.map_cons, List.cons.injEq] at h
        exact ⟨t, h.1, ts, h.2, rfl⟩

end OneShot.Utf8
