import OneShot.Binary64.Arithmetic

/-!
# Calculations

The operations on two floating point numbers and the tags that name them. A calculation has no
result when its tag names no operation, when it divides by zero, and when the value is not finite,
since a result has to be writable as a JSON number.

## Main definitions

* `Operation`, `Operation.tag`, `Operation.ofTag?` — the operations and their names
* `Operation.apply` — one operation on two operands
* `calculate` — the result for a tag
-/

namespace OneShot

inductive Operation where
  | add
  | subtract
  | multiply
  | divide
  | power
deriving DecidableEq, Repr

namespace Operation

def all : List Operation := [add, subtract, multiply, divide, power]

/-- The name of an operation. -/
def tag : Operation → String
  | add => "add"
  | subtract => "subtract"
  | multiply => "multiply"
  | divide => "divide"
  | power => "power"

/-- The operation with a given name. Names are case-sensitive. -/
def ofTag? (tag : String) : Option Operation := all.find? fun op => op.tag = tag

/-- The value of an operation, before it is asked whether it is finite. -/
def value (op : Operation) (x y : Binary64) : Binary64 :=
  match op with
  | add => x.add y
  | subtract => x.sub y
  | multiply => x.mul y
  | divide => x.div y
  | power => x.pow y

/-- The result of an operation: nothing for a division by either zero, and nothing for a value
that is not finite. -/
def apply (op : Operation) (x y : Binary64) : Option Binary64 :=
  if op = divide ∧ y.code = 0 then none
  else
    let result := op.value x y
    if result.IsFinite then some result else none

end Operation

/-- The result of the operation that a tag names. -/
def calculate (tag : String) (x y : Binary64) : Option Binary64 :=
  (Operation.ofTag? tag).bind fun op => op.apply x y

end OneShot
