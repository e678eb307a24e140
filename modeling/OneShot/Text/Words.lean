import OneShot.Text.Blank

/-!
# Words

The words of a text are its longest runs of characters that are not blank. The text is read from
its end: the run that is being collected grows at its front and is finished by a blank character.
-/

namespace OneShot.Text

/-- Puts a finished run in front of the words behind it; an empty run is no word. -/
def addRun (run : List Char) (words : List (List Char)) : List (List Char) :=
  if run = [] then words else run :: words

/-- One character in front of a run and the words behind it. -/
def addChar (c : Char) (state : List Char × List (List Char)) : List Char × List (List Char) :=
  if isBlank c then ([], addRun state.1 state.2) else (c :: state.1, state.2)

/-- The words of a text, in order. -/
def words (s : List Char) : List (List Char) :=
  let (run, rest) := s.foldr addChar ([], [])
  addRun run rest

end OneShot.Text
