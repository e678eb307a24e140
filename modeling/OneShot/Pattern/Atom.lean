import OneShot.Pattern.Basic

/-!
# Atoms of patterns

The smallest parts of a pattern: characters, escapes, and the signs that stand for any character or
for an edge of the text.

## Main definitions

* `Atom` — the kinds of atoms
* `Atom.isSupported`, `Atom.isMember` — where a mode allows an atom
* `readEscape?`, `readAtom?` — an atom at the front of a text
-/

namespace OneShot.Pattern

/-- A smallest part of a pattern. -/
inductive Atom where
  /-- A character, which may be written as the number of a byte. -/
  | literal (char : Char) (asByte : Bool)
  /-- One of the classes with a name of one letter, or what is not in it. -/
  | shorthand (negated : Bool)
  /-- Any character. -/
  | any
  /-- The beginning or the end of a line or of the text. -/
  | edge
  /-- The beginning or the end of a word, or a place that is neither. -/
  | wordEdge
deriving DecidableEq, Repr

namespace Atom

/-- The first byte that is not a character by itself. -/
def asciiEnd : Nat := 0x80

/-- Whether an atom may stand in a pattern. A byte must not be a part of a character, and what is
not in a shorthand class may be one. -/
def isSupported (mode : Mode) : Atom → Bool
  | literal char asByte =>
    if mode.ofCharacters then !mode.folded else !asByte || char.toNat < asciiEnd
  | shorthand negated => !mode.ofCharacters && !negated
  | any => mode.ofCharacters
  | edge => true
  | wordEdge => !mode.ofCharacters

/-- Whether an atom may be a member of a class. A class of bytes holds ASCII characters only. -/
def isMember (mode : Mode) : Atom → Bool
  | literal char _ => if mode.ofCharacters then !mode.folded else char.toNat < asciiEnd
  | shorthand negated => !mode.ofCharacters && !negated
  | _ => false

end Atom

/-! ### Escapes -/

/-- The value of a hexadecimal digit. -/
def hexDigit? (c : Char) : Option Nat :=
  if c.isDigit then some (c.toNat - '0'.toNat)
  else if 'a' ≤ c.toLower ∧ c.toLower ≤ 'f' then some (c.toLower.toNat - 'a'.toNat + 10)
  else none

/-- The number of some hexadecimal digits behind those with the number `value`. -/
def readHex? (mode : Mode) : (digits value : Nat) → List Char → Option (Nat × List Char)
  | 0, value, text => some (value, text)
  | digits + 1, value, text =>
    match mode.skip text with
    | [] => none
    | c :: rest => (hexDigit? c).bind fun digit => readHex? mode digits (16 * value + digit) rest

/-- How many hexadecimal digits follow an escape letter. -/
def hexLength? : Char → Option Nat
  | 'x' => some 2
  | 'u' => some 4
  | 'U' => some 8
  | _ => none

/-- The control character with an escape letter. -/
def control? : Char → Option Char
  | 'a' => some '\x07'
  | 't' => some '\t'
  | 'n' => some '\n'
  | 'v' => some '\x0b'
  | 'f' => some '\x0c'
  | 'r' => some '\r'
  | _ => none

/-- Whether a character stands for itself behind a backslash: an ASCII sign other than the angle
brackets. -/
def isEscapable (c : Char) : Bool :=
  c.toNat < Atom.asciiEnd ∧ !c.isAlphanum ∧ c ≠ '<' ∧ c ≠ '>'

/-- What a letter or a sign behind a backslash stands for by itself. -/
def escape? (c : Char) : Option Atom :=
  if c = 'd' ∨ c = 's' ∨ c = 'w' then some (.shorthand false)
  else if c = 'D' ∨ c = 'S' ∨ c = 'W' then some (.shorthand true)
  else if c = 'A' ∨ c = 'z' then some .edge
  else if c = 'b' ∨ c = 'B' ∨ c = '<' ∨ c = '>' then some .wordEdge
  else if isEscapable c then some (.literal c false)
  else (control? c).map (.literal · false)

/-- The atom that a backslash begins. The backslash has been taken. -/
def readEscape? (mode : Mode) (text : List Char) : Option (Atom × List Char) :=
  match text with
  | [] => none
  | c :: rest =>
    match hexLength? c with
    | some digits =>
      (readHex? mode digits 0 rest).bind fun (code, rest) =>
        if code.isValidChar then some (.literal (Char.ofNat code) (c = 'x'), rest) else none
    | none => (escape? c).map (·, rest)

/-- The atom at the front of a text. -/
def readAtom? (mode : Mode) (text : List Char) : Option (Atom × List Char) :=
  match text with
  | [] => none
  | c :: rest =>
    if c = '\\' then readEscape? mode rest
    else if c = '.' then some (.any, rest)
    else if c = '^' ∨ c = '$' then some (.edge, rest)
    else some (.literal c false, rest)

/-- The atom at the front of a text in a class, where the signs stand for themselves. -/
def readMember? (mode : Mode) (text : List Char) : Option (Atom × List Char) :=
  match text with
  | [] => none
  | c :: rest => if c = '\\' then readEscape? mode rest else some (.literal c false, rest)

/-! ### Lengths -/

theorem length_readHex?_le {mode : Mode} {digits value code : Nat} {text rest : List Char}
    (h : readHex? mode digits value text = some (code, rest)) : rest.length ≤ text.length := by
  induction digits generalizing value text with
  | zero => cases h; exact Nat.le_refl _
  | succ digits ih =>
    have hs := mode.length_skip_le text
    unfold readHex? at h
    split at h
    · cases h
    · rename_i c t heq
      rw [heq] at hs
      obtain ⟨digit, _, h⟩ := Option.bind_eq_some_iff.1 h
      exact Nat.le_trans (ih h) (Nat.le_of_succ_le hs)

theorem length_readEscape?_lt {mode : Mode} {atom : Atom} {text rest : List Char}
    (h : readEscape? mode text = some (atom, rest)) : rest.length < text.length := by
  unfold readEscape? at h
  split at h
  · cases h
  · split at h
    · obtain ⟨⟨code, t⟩, ht, h⟩ := Option.bind_eq_some_iff.1 h
      dsimp only at h
      split at h
      · cases h; exact Nat.lt_succ_of_le (length_readHex?_le ht)
      · cases h
    · obtain ⟨_, _, h⟩ := Option.map_eq_some_iff.1 h
      cases h; exact Nat.lt_succ_self _

theorem length_readAtom?_lt {mode : Mode} {atom : Atom} {text rest : List Char}
    (h : readAtom? mode text = some (atom, rest)) : rest.length < text.length := by
  unfold readAtom? at h
  split at h
  · cases h
  · split at h
    · exact Nat.lt_succ_of_lt (length_readEscape?_lt h)
    · split at h
      · cases h; exact Nat.lt_succ_self _
      · split at h <;> cases h <;> exact Nat.lt_succ_self _

theorem length_readMember?_lt {mode : Mode} {atom : Atom} {text rest : List Char}
    (h : readMember? mode text = some (atom, rest)) : rest.length < text.length := by
  unfold readMember? at h
  split at h
  · cases h
  · split at h
    · exact Nat.lt_succ_of_lt (length_readEscape?_lt h)
    · cases h; exact Nat.lt_succ_self _

end OneShot.Pattern
