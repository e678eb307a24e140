import OneShot.Calculation
import OneShot.Json.Tag

/-!
# Operations in JSON

An operation is written in JSON as the tag that names it.
-/

namespace OneShot.Operation

open Json

/-- An operation as a JSON text. -/
def text (op : Operation) : String := (Value.string op.tag).text

/-- The operation that a text writes. -/
def parse (s : Bytes) : Except Fault Operation := document (tagReader ofTag?) s

end OneShot.Operation
