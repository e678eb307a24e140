import OneShot.Text.CodeRange

/-!
# Blank characters

The characters with the property White_Space of Unicode 17. They separate words and are trimmed
from the ends of a text.
-/

namespace OneShot.Text

/-- The ranges of White_Space. -/
def blankRanges : List CodeRange :=
  [ ⟨0x9, 0xD, 1⟩, ⟨0x20, 0x20, 1⟩, ⟨0x85, 0x85, 1⟩, ⟨0xA0, 0xA0, 1⟩, ⟨0x1680, 0x1680, 1⟩,
    ⟨0x2000, 0x200A, 1⟩, ⟨0x2028, 0x2029, 1⟩, ⟨0x202F, 0x202F, 1⟩, ⟨0x205F, 0x205F, 1⟩,
    ⟨0x3000, 0x3000, 1⟩ ]

/-- Whether a character is blank. -/
def isBlank (c : Char) : Bool := CodeRange.covers blankRanges c

/-- A text without the blank characters at both ends. -/
def trim (text : String) : String :=
  String.ofList ((text.toList.dropWhile isBlank).reverse.dropWhile isBlank).reverse

end OneShot.Text
