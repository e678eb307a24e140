import OneShot.Text.Blank

/-!
# Patterns

A pattern is a regular expression as text. Nothing is matched against patterns here; they are read
only to tell the well-formed ones from the others.

How a pattern is read depends on a mode, which flags in the pattern change up to the end of the
group they stand in. A pattern speaks of characters, or of bytes when the flag `u` is turned off.
It must never match a part of a character, which restricts what it may say of bytes; and it is
matched without tables of the characters, which restricts what it may say of characters: the cases
of letters, shorthand classes and the edges of words are known for bytes only.

Of the tree that a pattern stands for only the depth matters, since it is limited.

## Main definitions

* `Mode`, `Mode.set` — the mode, and how flags change it
* `Mode.skip` — a text without the blanks in front of it that the mode ignores
* `depthOfSeries` — the depth of what consists of several parts
-/

namespace OneShot.Pattern

/-! ### Modes -/

/-- How a pattern is read. -/
structure Mode where
  /-- Whether blanks and comments between the parts of a pattern are ignored. -/
  spaced : Bool
  /-- Whether the pattern speaks of characters, not of bytes. -/
  ofCharacters : Bool
  /-- Whether the cases of letters are ignored. -/
  folded : Bool
deriving DecidableEq, Repr

namespace Mode

/-- The mode at the beginning of a pattern. -/
def initial : Mode := ⟨false, true, false⟩

/-- The letters of the flags. Besides those for the three parts of the mode they are those that
decide about line ends and greed, which do not matter to the reader. -/
def letters : List Char := ['x', 'u', 'i', 'm', 's', 'R', 'U']

/-- Whether a text is a list of flags: letters, none of them twice, and perhaps a hyphen in front
of those that are turned off, if there are any. -/
def areFlags (text : List Char) : Bool :=
  text.all (fun c => c = '-' ∨ c ∈ letters) ∧ text.eraseDups = text ∧ text.getLast? ≠ some '-'

/-- The mode behind flags. -/
def set (mode : Mode) (flags : List Char) : Mode :=
  let turned (letter : Char) (before : Bool) : Bool :=
    if letter ∈ flags then letter ∈ flags.takeWhile (· ≠ '-') else before
  ⟨turned 'x' mode.spaced, turned 'u' mode.ofCharacters, turned 'i' mode.folded⟩

/-! ### Blanks -/

/-- A text without the blanks and comments in front of it. A comment begins with a number sign and
ends with its line. -/
def skipSpace (inComment : Bool) : List Char → List Char
  | [] => []
  | c :: rest =>
    if inComment then skipSpace (c ≠ '\n') rest
    else if Text.isBlank c then skipSpace false rest
    else if c = '#' then skipSpace true rest
    else c :: rest

/-- A text without the blanks in front of it that the mode ignores. -/
def skip (mode : Mode) (text : List Char) : List Char :=
  if mode.spaced then skipSpace false text else text

theorem length_skipSpace_le (inComment : Bool) (text : List Char) :
    (skipSpace inComment text).length ≤ text.length := by
  induction text generalizing inComment with
  | nil => exact Nat.le_refl _
  | cons c rest ih =>
    unfold skipSpace
    split
    · exact Nat.le_succ_of_le (ih _)
    · split
      · exact Nat.le_succ_of_le (ih _)
      · split
        · exact Nat.le_succ_of_le (ih _)
        · exact Nat.le_refl _

theorem length_skip_le (mode : Mode) (text : List Char) :
    (mode.skip text).length ≤ text.length := by
  unfold skip
  split
  · exact length_skipSpace_le false text
  · exact Nat.le_refl _

end Mode

/-! ### Depth -/

/-- The depth of what consists of several parts. One part alone stands for itself. -/
def depthOfSeries : List Nat → Nat
  | [] => 0
  | [depth] => depth
  | depths => depths.foldl max 0 + 1

/-- The greatest depth of a pattern. -/
def maxDepth : Nat := 250

end OneShot.Pattern
