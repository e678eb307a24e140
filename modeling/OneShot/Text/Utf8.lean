import OneShot.Bytes

/-!
# UTF-8

Text as bytes and bytes as text. A byte sequence is taken apart into pieces from the front: a piece
is either a well-formed character or a longest part of one that is broken off by a wrong byte or by
the end. Everything else is a question about the pieces: the sequence is text if no piece is
broken, and text can be made of any sequence by putting U+FFFD for each broken piece.

## Main definitions

* `Utf8.encode` — the bytes of a text
* `Utf8.Piece`, `Utf8.pieces` — a byte sequence taken apart
* `Utf8.decode?` — the text of a well-formed byte sequence
* `Utf8.validLength` — how many bytes stand before the first broken piece
* `Utf8.decodeLossy` — the text of any byte sequence
-/

namespace OneShot.Utf8

/-- The bytes of a text. -/
def encode (text : String) : Bytes := text.toList.flatMap String.utf8EncodeChar

/-- A piece of a byte sequence. -/
inductive Piece where
  | scalar (c : Char)
  | broken
deriving DecidableEq, Repr

/-- Reads the bytes that continue a character: the next one within the given bounds, then
`more` others, each adding six bits to `bits`. Gives the code point, or nothing if a byte is out of
bounds or missing, and the bytes that are left. -/
def continuation (low high : Nat) (bits : Nat) : Nat → Bytes → Option Nat × Bytes
  | _, [] => (none, [])
  | more, b :: rest =>
    if low ≤ b.toNat ∧ b.toNat ≤ high then
      match more with
      | 0 => (some (bits * 64 + b.toNat % 64), rest)
      | more + 1 => continuation 0x80 0xBF (bits * 64 + b.toNat % 64) more rest
    else (none, b :: rest)

/-- What a first byte asks for: the bounds of the second byte, which rule out overlong forms,
surrogates and code points above U+10FFFF, and the number of bytes behind that. -/
def continuationBounds (first : Nat) : Option (Nat × Nat × Nat) :=
  if first < 0xC2 then none
  else if first < 0xE0 then some (0x80, 0xBF, 0)
  else if first = 0xE0 then some (0xA0, 0xBF, 1)
  else if first = 0xED then some (0x80, 0x9F, 1)
  else if first < 0xF0 then some (0x80, 0xBF, 1)
  else if first = 0xF0 then some (0x90, 0xBF, 2)
  else if first < 0xF4 then some (0x80, 0xBF, 2)
  else if first = 0xF4 then some (0x80, 0x8F, 2)
  else none

/-- The bits of a code point that its first byte holds when `more` bytes follow the second. -/
def firstBits (first more : Nat) : Nat :=
  match more with
  | 0 => first % 32
  | 1 => first % 16
  | _ => first % 8

/-- The piece that starts with the given byte, and the bytes behind it. -/
def piece (first : UInt8) (rest : Bytes) : Piece × Bytes :=
  if first.toNat < 0x80 then (.scalar (Char.ofNat first.toNat), rest)
  else match continuationBounds first.toNat with
    | none => (.broken, rest)
    | some (low, high, more) =>
      match continuation low high (firstBits first.toNat more) more rest with
      | (some code, rest) => (.scalar (Char.ofNat code), rest)
      | (none, rest) => (.broken, rest)

theorem continuation_length_le (low high bits more : Nat) (s : Bytes) :
    (continuation low high bits more s).2.length ≤ s.length := by
  induction s generalizing low high bits more with
  | nil => simp [continuation]
  | cons b rest ih =>
    rw [continuation.eq_def]
    dsimp only
    split
    · split
      · simp
      · exact Nat.le_succ_of_le (ih ..)
    · simp

theorem piece_length_le (first : UInt8) (rest : Bytes) :
    (piece first rest).2.length ≤ rest.length := by
  unfold piece
  split
  · exact Nat.le_refl _
  · split
    · exact Nat.le_refl _
    · rename_i low high more _
      have h := continuation_length_le low high (firstBits first.toNat more) more rest
      split <;> rename_i heq <;> rw [heq] at h <;> exact h

/-- The pieces of a byte sequence, each with the number of its bytes. -/
def pieces : Bytes → List (Piece × Nat)
  | [] => []
  | first :: rest =>
    let next := piece first rest
    (next.1, rest.length + 1 - next.2.length) :: pieces next.2
termination_by s => s.length
decreasing_by
  have := piece_length_le first rest
  simp only [List.length_cons]
  omega

/-- The character of a piece that has one. -/
def Piece.char? : Piece → Option Char
  | .scalar c => some c
  | .broken => none

/-- The text of a byte sequence in which no piece is broken. -/
def decode? (s : Bytes) : Option String :=
  ((pieces s).mapM fun (p : Piece × Nat) => p.1.char?).map String.ofList

/-- The number of bytes before the first broken piece. -/
def validLength (s : Bytes) : Nat :=
  ((pieces s).takeWhile fun (p : Piece × Nat) => p.1 != .broken).foldr (·.2 + ·) 0

/-- The text of a byte sequence with the replacement character for each broken piece. -/
def decodeLossy (s : Bytes) : String :=
  String.ofList ((pieces s).map fun (p : Piece × Nat) => p.1.char?.getD '\uFFFD')

end OneShot.Utf8
