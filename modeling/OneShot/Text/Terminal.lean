/-!
# Text without terminal controls

A text for a terminal holds escape sequences, which set colours and the like. When such a text goes
to a stream that is no terminal, the sequences and all control characters are taken out, and the
rest is kept: all visible characters, and the white space that shapes the text.

A sequence begins with ESC. The character behind ESC decides of which kind it is: a control sequence
has parameters and ends with a letter or the like; a device string begins in the same way, but then
has a body; an operating system command and the other strings are bodies only. A body goes on until
another ESC or one of the few characters that end it.

White space inside a control sequence is kept. It also shows what follows it, up to the next
character that is taken out, although the sequence goes on.

## Main definitions

* `Terminal.State` — where in a sequence a text stands
* `Terminal.State.next`, `Terminal.State.shows` — what a character does to a state, and whether it
  is kept
* `Terminal.plain` — a text without its controls
-/

namespace OneShot.Text.Terminal

/-- How far the parameters of a sequence have been read. -/
inductive Stage where
  | entry
  | parameters
  | intermediates
  | ignored
deriving DecidableEq, Repr

/-- Where in a sequence a text stands. -/
inductive State where
  /-- Outside of sequences. -/
  | ground
  /-- Behind ESC. -/
  | escape
  /-- In a short sequence of which the last character is still to come. -/
  | short
  /-- In a control sequence. -/
  | control (stage : Stage)
  /-- In front of the body of a device string. -/
  | device (stage : Stage)
  /-- In an operating system command. -/
  | command
  /-- In the body of another string. -/
  | string
deriving DecidableEq, Repr

namespace State

/-- The state behind a character of a control sequence or of the parameters of a device string,
given how its stages and its end are told. -/
def parameter (stage : Stage) (state : Stage → State) (final : State) (code : Nat) : State :=
  if code < 0x20 ∨ 0x7F ≤ code then state stage
  else if 0x40 ≤ code then final
  else match stage with
    | .ignored => state .ignored
    | .entry => if code < 0x30 then state .intermediates else state .parameters
    | .parameters =>
      if code < 0x30 then state .intermediates
      else if code < 0x3C then state .parameters
      else state .ignored
    | .intermediates => if code < 0x30 then state .intermediates else state .ignored

/-- The state behind the character that follows ESC. -/
def kind (c : Char) : State :=
  if c.toNat < 0x20 ∨ 0x7F ≤ c.toNat then escape
  else if c.toNat < 0x30 then short
  else if c = '[' then control .entry
  else if c = ']' then command
  else if c = 'P' then device .entry
  else if c = 'X' ∨ c = '^' ∨ c = '_' then string
  else ground

/-- Whether the bytes of a character end the body of a string: the byte 9C does. -/
def endsString (c : Char) : Bool := (String.utf8EncodeChar c).any (· == 0x9C)

/-- The state behind a character. CAN and SUB break off every sequence, and ESC begins one. -/
def next (state : State) (c : Char) : State :=
  if c = '\x18' ∨ c = '\x1a' then ground
  else if c = '\x1b' then escape
  else match state with
    | ground => ground
    | escape => kind c
    | short => if 0x30 ≤ c.toNat ∧ c.toNat ≤ 0x7E then ground else short
    | control stage => parameter stage control ground c.toNat
    | device .ignored => if endsString c then ground else device .ignored
    | device stage => parameter stage device string c.toNat
    | command => if c = '\x07' then ground else command
    | string => if endsString c then ground else string

/-- Whether a character is kept. -/
def shows (state : State) (c : Char) : Bool :=
  match state with
  | ground =>
    c = '\t' ∨ c = '\n' ∨ c = '\x0c' ∨ c = '\r' ∨ (0x20 ≤ c.toNat ∧ c.toNat ≠ 0x7F)
  | escape | short | control _ => c = '\t' ∨ c = '\n' ∨ c = '\x0c' ∨ c = '\r'
  | device _ | command | string => false

end State

/-- The characters of a text that are kept, when the text begins in the given state and the
character before it was kept or not. -/
def strip (state : State) (kept : Bool) : List Char → List Char
  | [] => []
  | c :: rest =>
    if (if kept then State.ground else state).shows c then
      c :: strip (if 0x80 ≤ c.toNat then .ground else state) true rest
    else strip (state.next c) false rest

/-- A text without escape sequences and control characters. -/
def plain (text : String) : String := String.ofList (strip .ground false text.toList)

end OneShot.Text.Terminal
