import OneShot.Decimal.Reader
import OneShot.Json.Writer
import OneShot.Pattern.Reader
import OneShot.Text.Alphanumeric
import OneShot.Text.Blank

/-!
# Log events

What a run reports about itself besides its result. Every event has a level and a target, and a
filter decides by these two which events are written. An event is written on a line, as text or as a
JSON object.

A filter is a list of directives, each of which sets the level of the targets that begin with a
given text, and may ask for events that have a certain field. Of the directives that apply to an
event the one with the longest text counts, then the one that asks for a field, and of several that
are alike the last one; an event to which none applies is silent.

Directives can also speak of spans, in brackets behind the target, and of fields with a certain
value, which only spans are asked for. A run has no spans, so these directives say nothing, but they
have to be well-formed.

## Main definitions

* `Log.Event`, `Log.Format` — events, and the formats of lines
* `Log.Filter.parse?`, `Log.Filter.admits` — the filter that a text describes, and what it admits
* `Log.Event.line` — an event as a line
-/

namespace OneShot.Log

/-- How important an event is. -/
inductive Level where
  | error
  | warn
  | info
  | debug
  | trace
deriving DecidableEq, Repr

namespace Level

/-- Levels are numbered from the most important one. -/
def rank : Level → Nat
  | error => 1
  | warn => 2
  | info => 3
  | debug => 4
  | trace => 5

def name : Level → String
  | error => "ERROR"
  | warn => "WARN"
  | info => "INFO"
  | debug => "DEBUG"
  | trace => "TRACE"

end Level

/-- Something that is reported. -/
structure Event where
  level : Level
  target : String
  message : String
deriving DecidableEq, Repr

/-- The formats of log lines. -/
inductive Format where
  | text
  | json
deriving DecidableEq, Repr

/-- The format with a given name. -/
def Format.ofName? (name : String) : Option Format :=
  if name = "text" then some .text
  else if name = "json" then some .json
  else none

/-! ### Filters -/

/-- A directive: the events of targets that begin with `target` are admitted up to the rank, if they
have the field that is asked for. -/
structure Directive where
  target : String
  field : Option String
  rank : Nat
deriving DecidableEq, Repr

abbrev Filter := List Directive

namespace Filter

/-! ### Reading filters -/

/-- The value of a number in decimal digits, before which a plus sign may stand. -/
def number? (word : List Char) : Option Nat :=
  let digits := if word.head? = some '+' then word.tail else word
  if digits ≠ [] ∧ digits.all Char.isDigit then some (Nat.ofDigitChars 10 digits 0) else none

/-- The rank that a word stands for: the name of a level in any case, or its number. -/
def rank? (word : List Char) : Option Nat :=
  match number? word with
  | some n => if n ≤ Level.trace.rank then some n else none
  | none =>
    match String.ofList (word.map Char.toLower) with
    | "off" => some 0
    | "error" => some Level.error.rank
    | "warn" => some Level.warn.rank
    | "info" => some Level.info.rank
    | "debug" => some Level.debug.rank
    | "trace" => some Level.trace.rank
    | _ => none

/-- The rank that is written behind an equals sign. With nothing there all events are admitted. -/
def rankBehind? (word : List Char) : Option Nat :=
  if word = [] then some Level.trace.rank else rank? word

/-- A character of a directive. The marks decide where the parts of the directive end, and the parts
hold the contents. -/
structure Cell where
  mark : Char
  content : Char
deriving DecidableEq, Repr

/-- The characters of a directive. The marks are its characters without the blanks around them, but
the contents are taken from its beginning: blanks in front push the contents out of place. -/
def cells (text : List Char) : List Cell :=
  List.zipWith Cell.mk (Text.trim (String.ofList text)).toList text

/-- What some cells hold. -/
def contents (cells : List Cell) : List Char := cells.map Cell.content

/-- Whether a field may be compared with a value: a number or a pattern. -/
def isFieldValue (value : List Char) : Bool :=
  (Binary64.ofText? (String.ofList value)).isSome || Pattern.isWellFormed value

/-- What stands in braces: the name of a field, perhaps with an equals sign and a value behind it. A
field with a value says nothing about events; otherwise its name is given. -/
def readField? (text : List Char) : Option (Option String) :=
  if text = [] then none
  else
    match text.dropWhile (· ≠ '=') with
    | [] => some (some (String.ofList text))
    | _ :: rest => if isFieldValue (rest.takeWhile (· ≠ '=')) then some none else none

/-- The end of a directive behind the closing bracket: nothing, or an equals sign and a level. What
the directive says about events is given, if it says anything. The text `beyond` stands behind all
cells. -/
def readEnd? (target : String) (field : Option String) (beyond : List Char) :
    List Cell → Option (Option Directive)
  | [] => some (field.map fun name => ⟨target, some name, Level.trace.rank⟩)
  | ⟨'=', _⟩ :: word =>
    (rankBehind? (contents word ++ beyond)).map fun rank =>
      field.map fun name => ⟨target, some name, rank⟩
  | _ => none

/-- A directive behind its opening bracket: the name of a span, then perhaps a field in braces. Only
a field with no span before it says something about events. -/
def readSpan? (target : String) (cells : List Cell) (beyond : List Char) :
    Option (Option Directive) :=
  let isInside (cell : Cell) : Bool := cell.mark ≠ ']' ∧ cell.mark ≠ '{'
  let isField (cell : Cell) : Bool := cell.mark ≠ '}'
  match cells.dropWhile isInside with
  | ⟨']', _⟩ :: rest => readEnd? target none beyond rest
  | ⟨'{', _⟩ :: rest =>
    match rest.dropWhile isField with
    | _ :: ⟨']', _⟩ :: behind =>
      (readField? (contents (rest.takeWhile isField))).bind fun field =>
        readEnd? target (if cells.takeWhile isInside = [] then field else none) beyond behind
    | _ => none
  | _ => none

/-- Whether a directive may begin with a character. -/
def mayBegin (c : Char) : Bool :=
  c = '[' ∨ c = '-' ∨ c = ':' ∨ c = '_' ∨ Text.isAlphanumeric c

/-- What a text between commas says about events, if it is a directive: a level for all targets, a
target with its level, a target alone, all events of which are admitted, or something about spans
and fields. -/
def directive? (text : List Char) : Option (Option Directive) :=
  let cells := cells text
  let beyond := text.drop cells.length
  let isTarget (cell : Cell) : Bool := cell.mark ≠ '=' ∧ cell.mark ≠ '['
  let target := String.ofList (contents (cells.takeWhile isTarget))
  if ∃ cell ∈ cells.head?, mayBegin cell.mark then
    match cells.dropWhile isTarget with
    | ⟨'=', _⟩ :: word =>
      (rankBehind? (contents word ++ beyond)).map fun rank => some ⟨target, none, rank⟩
    | _ :: rest => readSpan? target rest beyond
    | [] =>
      match rank? text with
      | some rank => some (some ⟨"", none, rank⟩)
      | none => some (some ⟨String.ofList text, none, Level.trace.rank⟩)
  else none

/-- The parts of a text between commas. -/
def splitCommas : List Char → List (List Char)
  | [] => [[]]
  | c :: rest =>
    match splitCommas rest with
    | [] => [[c]]
    | part :: more => if c = ',' then [] :: part :: more else (c :: part) :: more

/-- The filter that a text describes: directives with commas between them. -/
def parse? (text : String) : Option Filter :=
  (((splitCommas text.toList).filter (· ≠ [])).mapM directive?).map fun directives =>
    directives.filterMap id

/-- The filter of a run for which none is given, or one that cannot be read: warnings and errors. -/
def standard : Filter := [⟨"", none, Level.warn.rank⟩]

/-! ### Filtering -/

/-- The only field of an event. -/
def messageField : String := "message"

/-- Whether a directive applies to an event. -/
def applies (d : Directive) (event : Event) : Bool :=
  d.target.toList <+: event.target.toList && (d.field.isNone || d.field == some messageField)

/-- How narrow a directive is, by the length of its target first. -/
def narrowness (d : Directive) : Nat :=
  2 * d.target.length + (if d.field.isSome then 1 else 0)

/-- The directive that counts for an event: the last one of the narrowest that apply. -/
def find? (filter : Filter) (event : Event) : Option Directive :=
  filter.foldl
    (fun best d =>
      if applies d event then
        match best with
        | some b => if narrowness b ≤ narrowness d then some d else some b
        | none => some d
      else best)
    none

/-- Whether a filter admits an event. -/
def admits (filter : Filter) (event : Event) : Bool :=
  match find? filter event with
  | some d => event.level.rank ≤ d.rank
  | none => false

end Filter

/-! ### Lines -/

/-- A character of a message on a text line. Characters that control a terminal are shown. -/
def lineChar (c : Char) : List Char :=
  if c = '\x1b' ∨ c = '\x07' ∨ c = '\x08' ∨ c = '\x0c' ∨ c = '\x7f' then
    '\\' :: 'x' :: [Json.Quoted.hexChar (c.toNat / 16), Json.Quoted.hexChar (c.toNat % 16)]
  else if 0x80 ≤ c.toNat ∧ c.toNat ≤ 0x9f then
    '\\' :: 'u' :: '{' :: (Nat.toDigits 16 c.toNat ++ ['}'])
  else [c]

/-- An event as a line without its time. On text lines the level takes up five columns. -/
def Event.line (format : Format) (event : Event) : String :=
  match format with
  | .text =>
    String.ofList (List.replicate (5 - event.level.name.length) ' ') ++ event.level.name ++ " "
      ++ event.target ++ ": " ++ String.ofList (event.message.toList.flatMap lineChar)
  | .json =>
    (Json.Value.object
      [("level", .string event.level.name),
       ("fields", .object [("message", .string event.message)]),
       ("target", .string event.target)]).text

end OneShot.Log
