import OneShot.Json.Reader
import OneShot.Text.Utf8

/-!
# Quoted strings

JSON strings, read and written. The reader begins behind the opening quotation mark and collects
the bytes that the string stands for; that these are UTF-8 is checked when the string is complete.
An escape stands for one character, and a character above U+FFFF is escaped as two surrogates.

Where the contents do not matter a string is only skipped, and then neither surrogates nor UTF-8
are looked at.

The writer escapes the quotation mark, the backslash and the control characters below U+0020, and
nothing else.

## Main definitions

* `Quoted.read`, `Quoted.skip` — the string at the front of the input, or only the input behind it
* `Quoted.write` — a string with its quotation marks
-/

namespace OneShot.Json.Quoted

/-! ### Escapes -/

/-- The byte that a letter behind a backslash stands for. -/
def shortEscape? (letter : UInt8) : Option UInt8 :=
  if letter = byte '"' ∨ letter = byte '\\' ∨ letter = byte '/' then some letter
  else if letter = byte 'b' then some 0x08
  else if letter = byte 'f' then some 0x0C
  else if letter = byte 'n' then some 0x0A
  else if letter = byte 'r' then some 0x0D
  else if letter = byte 't' then some 0x09
  else none

/-- The value of a hexadecimal digit. -/
def hexDigit? (b : UInt8) : Option Nat :=
  if byte '0' ≤ b ∧ b ≤ byte '9' then some (b.toNat - 48)
  else if byte 'A' ≤ b ∧ b ≤ byte 'F' then some (b.toNat - 55)
  else if byte 'a' ≤ b ∧ b ≤ byte 'f' then some (b.toNat - 87)
  else none

/-- The value of four hexadecimal digits. -/
def hexValue? (a b c d : UInt8) : Option Nat := do
  let a ← hexDigit? a
  let b ← hexDigit? b
  let c ← hexDigit? c
  let d ← hexDigit? d
  some (((a * 16 + b) * 16 + c) * 16 + d)

/-- Takes four hexadecimal digits. -/
def readHex (s : Bytes) : Except Fault (Nat × Bytes) :=
  match s with
  | a :: b :: c :: d :: rest =>
    match hexValue? a b c d with
    | some n => .ok (n, rest)
    | none => .error (.taken .invalidEscape rest)
  | _ => .error (.taken .endInString [])

/-- Takes one given byte; another one is reported as `cause`. -/
def readByte (expected : UInt8) (cause : Cause) (s : Bytes) : Except Fault Bytes :=
  match s with
  | [] => .error (.taken .endInString [])
  | b :: rest => if b = expected then .ok rest else .error (.taken cause rest)

def isLeading (n : Nat) : Bool := 0xD800 ≤ n && n ≤ 0xDBFF

def isTrailing (n : Nat) : Bool := 0xDC00 ≤ n && n ≤ 0xDFFF

/-- Takes the code point behind `\u`, which may need a second escape. -/
def readCodePoint (s : Bytes) : Except Fault (Nat × Bytes) :=
  (readHex s).bind fun (n, rest) =>
  if isTrailing n then .error (.taken .loneSurrogate rest)
  else if isLeading n then
    (readByte (byte '\\') .endOfEscape rest).bind fun rest =>
    (readByte (byte 'u') .endOfEscape rest).bind fun rest =>
    (readHex rest).bind fun (m, rest) =>
    if isTrailing m then .ok (0x10000 + (n - 0xD800) * 0x400 + (m - 0xDC00), rest)
    else .error (.taken .loneSurrogate rest)
  else .ok (n, rest)

/-- Takes what stands behind a backslash and gives the bytes it stands for. -/
def readEscape (s : Bytes) : Except Fault (Bytes × Bytes) :=
  match s with
  | [] => .error (.taken .endInString [])
  | letter :: rest =>
    match shortEscape? letter with
    | some b => .ok ([b], rest)
    | none =>
      if letter = byte 'u' then
        (readCodePoint rest).map fun p => (String.utf8EncodeChar (Char.ofNat p.1), p.2)
      else .error (.taken .invalidEscape rest)

/-- Takes what stands behind a backslash without looking at surrogates. -/
def skipEscape (s : Bytes) : Except Fault Bytes :=
  match s with
  | [] => .error (.taken .endInString [])
  | letter :: rest =>
    if (shortEscape? letter).isSome then .ok rest
    else if letter = byte 'u' then (readHex rest).map (·.2)
    else .error (.taken .invalidEscape rest)

theorem length_readHex_le {s rest : Bytes} {n : Nat} (h : readHex s = .ok (n, rest)) :
    rest.length ≤ s.length := by
  unfold readHex at h
  split at h
  · split at h
    · cases h; simp only [List.length_cons]; omega
    · simp at h
  · simp at h

theorem length_readByte_le {expected : UInt8} {cause : Cause} {s rest : Bytes}
    (h : readByte expected cause s = .ok rest) : rest.length ≤ s.length := by
  unfold readByte at h
  split at h
  · simp at h
  · split at h
    · cases h; exact Nat.le_succ _
    · simp at h

theorem length_readCodePoint_le {s rest : Bytes} {n : Nat}
    (h : readCodePoint s = .ok (n, rest)) : rest.length ≤ s.length := by
  obtain ⟨⟨n1, s1⟩, h1, h⟩ := bind_eq_ok.1 h
  have l1 := length_readHex_le h1
  dsimp only at h
  split at h
  · simp at h
  · split at h
    · obtain ⟨s2, h2, h⟩ := bind_eq_ok.1 h
      obtain ⟨s3, h3, h⟩ := bind_eq_ok.1 h
      obtain ⟨⟨n4, s4⟩, h4, h⟩ := bind_eq_ok.1 h
      have l2 := length_readByte_le h2
      have l3 := length_readByte_le h3
      have l4 := length_readHex_le h4
      dsimp only at h
      split at h
      · injection h with h
        injection h with _ h
        subst h
        omega
      · simp at h
    · cases h; exact l1

theorem length_readEscape_lt {s rest bytes : Bytes} (h : readEscape s = .ok (bytes, rest)) :
    rest.length < s.length := by
  unfold readEscape at h
  split at h
  · simp at h
  · split at h
    · cases h; exact Nat.lt_succ_self _
    · split at h
      · obtain ⟨⟨n, r⟩, hr, heq⟩ := map_eq_ok.1 h
        cases heq
        exact Nat.lt_succ_of_le (length_readCodePoint_le hr)
      · simp at h

theorem length_skipEscape_lt {s rest : Bytes} (h : skipEscape s = .ok rest) :
    rest.length < s.length := by
  unfold skipEscape at h
  split at h
  · simp at h
  · split at h
    · cases h; exact Nat.lt_succ_self _
    · split at h
      · obtain ⟨⟨n, r⟩, hr, heq⟩ := map_eq_ok.1 h
        cases heq
        exact Nat.lt_succ_of_le (length_readHex_le hr)
      · simp at h

/-! ### Reading -/

/-- Collects the bytes of a string up to the closing quotation mark, behind those in `read`, which
are kept last first. -/
def collect (read : Bytes) (s : Bytes) : Except Fault (Bytes × Bytes) :=
  match s with
  | [] => .error (.taken .endInString [])
  | b :: rest =>
    if b = byte '"' then .ok (read.reverse, rest)
    else if b = byte '\\' then
      match _h : readEscape rest with
      | .error fault => .error fault
      | .ok (bytes, rest') => collect (bytes.reverse ++ read) rest'
    else if b < 0x20 then .error (.taken .controlCharacter rest)
    else collect (b :: read) rest
termination_by s.length
decreasing_by
  · have := length_readEscape_lt _h
    simp only [List.length_cons]
    omega
  · simp

/-- Takes a string, the opening quotation mark of which has been taken. Ill-formed bytes are
reported before the bytes of the string that they spoil. -/
def read (s : Bytes) : Except Fault (String × Bytes) :=
  (collect [] s).bind fun (bytes, rest) =>
    match Utf8.decode? bytes with
    | some text => .ok (text, rest)
    | none =>
      .error ⟨.invalidUtf8, rest.length + (bytes.length - Utf8.validLength bytes), false⟩

/-- Takes a string without looking at what it stands for. -/
def skip (s : Bytes) : Except Fault Bytes :=
  match s with
  | [] => .error (.taken .endInString [])
  | b :: rest =>
    if b = byte '"' then .ok rest
    else if b = byte '\\' then
      match _h : skipEscape rest with
      | .error fault => .error fault
      | .ok rest' => skip rest'
    else if b < 0x20 then .error (.taken .controlCharacter s)
    else skip rest
termination_by s.length
decreasing_by
  · have := length_skipEscape_lt _h
    simp only [List.length_cons]
    omega
  · simp

theorem length_collect_lt {read s bytes rest : Bytes}
    (h : collect read s = .ok (bytes, rest)) : rest.length < s.length := by
  fun_induction collect read s with
  | case1 | case3 | case5 => simp at h
  | case2 => cases h; exact Nat.lt_succ_self _
  | case4 read rest' escaped rest'' he _ ih =>
    have := ih h
    have := length_readEscape_lt he
    simp only [List.length_cons]
    omega
  | case6 read b rest' _ _ _ ih =>
    have := ih h
    simp only [List.length_cons]
    omega

theorem length_read_lt {s rest : Bytes} {text : String} (h : read s = .ok (text, rest)) :
    rest.length < s.length := by
  obtain ⟨⟨bytes, r⟩, hc, h⟩ := bind_eq_ok.1 h
  have := length_collect_lt hc
  dsimp only at h
  split at h
  · cases h; exact this
  · simp at h

theorem length_skip_lt {s rest : Bytes} (h : skip s = .ok rest) : rest.length < s.length := by
  fun_induction skip s with
  | case1 | case3 | case5 => simp at h
  | case2 => cases h; exact Nat.lt_succ_self _
  | case4 rest' rest'' he _ ih =>
    have := ih h
    have := length_skipEscape_lt he
    simp only [List.length_cons]
    omega
  | case6 b rest' _ _ _ ih =>
    have := ih h
    simp only [List.length_cons]
    omega

/-! ### Writing -/

/-- A hexadecimal digit in lower case. -/
def hexChar (n : Nat) : Char := Nat.digitChar n

/-- A character as it is written between quotation marks. -/
def writeChar (c : Char) : List Char :=
  if c = '"' then ['\\', '"']
  else if c = '\\' then ['\\', '\\']
  else if c = '\x08' then ['\\', 'b']
  else if c = '\t' then ['\\', 't']
  else if c = '\n' then ['\\', 'n']
  else if c = '\x0C' then ['\\', 'f']
  else if c = '\r' then ['\\', 'r']
  else if c.toNat < 0x20 then
    ['\\', 'u', '0', '0', hexChar (c.toNat / 16), hexChar (c.toNat % 16)]
  else [c]

/-- A string with its quotation marks. -/
def write (text : String) : List Char :=
  '"' :: (text.toList.flatMap writeChar ++ ['"'])

end OneShot.Json.Quoted
