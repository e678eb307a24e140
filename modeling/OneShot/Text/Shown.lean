import OneShot.Text.Invisible

/-!
# Text shown for inspection

A text between quotation marks in which every character can be told: quotation marks, backslashes,
NUL and the usual control characters as two-character escapes, and characters without a glyph of
their own by their code points.
-/

namespace OneShot.Text

/-- A code point in lower-case hexadecimal digits between braces. -/
def codePointEscape (c : Char) : List Char :=
  '\\' :: 'u' :: '{' :: (Nat.toDigits 16 c.toNat ++ ['}'])

/-- One character as it is shown. -/
def shownChar (c : Char) : List Char :=
  if c = '"' then ['\\', '"']
  else if c = '\\' then ['\\', '\\']
  else if c = '\n' then ['\\', 'n']
  else if c = '\r' then ['\\', 'r']
  else if c = '\t' then ['\\', 't']
  else if c.toNat = 0 then ['\\', '0']
  else if isInvisible c then codePointEscape c
  else [c]

/-- A text as it is shown. -/
def shown (text : String) : List Char :=
  '"' :: (text.toList.flatMap shownChar ++ ['"'])

end OneShot.Text
