import OneShot.Calculation
import OneShot.Greeting
import OneShot.Number.List
import OneShot.Response.Basic

/-!
# Requests

A request is a command with its operands. It has a response, unless it is about a list of numbers
that cannot be sorted. There are two notations for requests: a list of words, as on a command line,
and a JSON object with the name of the command and its operands.

## Main definitions

* `Command` — the four commands and their names
* `Request`, `Request.respond` — a command with its operands, and the response to it
* `Request.words` — a request as words
* `Request.toValue`, `Request.text` — a request as a JSON value and as a JSON text
* `Request.sameValue` — equality of requests, with floating point operands compared by value
-/

namespace OneShot

open Json

inductive Command where
  | greet
  | calculate
  | processList
  | analyzeText
deriving DecidableEq, Repr

namespace Command

def all : List Command := [greet, calculate, processList, analyzeText]

/-- The name of a command. -/
def name : Command → String
  | greet => "greet"
  | calculate => "calculate"
  | processList => "process_list"
  | analyzeText => "analyze_text"

/-- The command with a given name. -/
def ofName? (name : String) : Option Command := all.find? fun c => c.name = name

end Command

/-- A command with its operands. -/
inductive Request where
  | greet (name : String)
  | calculate (operation : String) (x y : Binary64)
  | processList (numbers : List Number)
  | analyzeText (text : String)
deriving DecidableEq

namespace Request

def command : Request → Command
  | greet _ => .greet
  | calculate _ _ _ => .calculate
  | processList _ => .processList
  | analyzeText _ => .analyzeText

/-- The response to a request, or nothing where sorting gives up. -/
def respond : Request → Option Response
  | greet name => some (.greeting (Greeting.greet name))
  | calculate operation x y => some (.calculation (OneShot.calculate operation x y))
  | processList numbers => (Summary.ofList numbers).map .summary
  | analyzeText text => some (.analysis (TextAnalysis.ofText text))

/-! ### Requests as words -/

/-- The operands as words. -/
def operands : Request → List String
  | greet name => [name]
  | calculate operation x y => [operation, x.text, y.text]
  | processList numbers => [NumberList.write numbers]
  | analyzeText text => [text]

/-- The name of the command and the operands. -/
def words (request : Request) : List String := request.command.name :: request.operands

/-! ### Requests in JSON -/

/-- The operands as the members of a JSON object. -/
def members : Request → List (String × Value)
  | greet name => [("name", .string name)]
  | calculate operation x y =>
    [("operation", .string operation), ("a", x.toValue), ("b", y.toValue)]
  | processList numbers => [("numbers", .array (numbers.map Number.toValue))]
  | analyzeText text => [("text", .string text)]

/-- A request as a JSON object. -/
def toValue (request : Request) : Value :=
  .object
    [("command", .string request.command.name),
     ("args", .object request.members)]

/-- A request as a JSON text. -/
def text (request : Request) : String := request.toValue.text

/-! ### Equality -/

/-- Equality of lists of numbers, element by element. -/
def sameNumbers : List Number → List Number → Bool
  | [], [] => true
  | x :: xs, y :: ys => x.sameValue y && sameNumbers xs ys
  | _, _ => false

/-- Equality of requests. Floating point operands are equal if their values are, so a request with
a NaN does not equal itself. -/
def sameValue : Request → Request → Bool
  | greet name, greet name' => name == name'
  | calculate operation x y, calculate operation' x' y' =>
    operation == operation' && x.sameValue x' && y.sameValue y'
  | processList numbers, processList numbers' => sameNumbers numbers numbers'
  | analyzeText text, analyzeText text' => text == text'
  | _, _ => false

end Request

end OneShot
