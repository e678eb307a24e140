/-!
# Bytes

Arguments and the output of programs are sequences of bytes, which need not be text. Readers take
such a sequence from the front, so it is kept as a list.
-/

namespace OneShot

/-- A sequence of bytes. -/
abbrev Bytes := List UInt8

/-- The byte of an ASCII character. -/
def byte (c : Char) : UInt8 := c.toUInt8

end OneShot
