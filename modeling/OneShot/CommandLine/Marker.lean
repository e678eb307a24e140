import OneShot.Request.Basic

/-!
# The marker behind a command

Every word behind a command is an operand, whatever it looks like: `--help`, `-inf` and `--` are
good names and texts. To make this so, a marker `--` is put right behind the command before the
words are interpreted. The words in front of the command are left alone; the search for the command
goes past them and ends at the first word that is no option.

## Main definitions

* `Command.ofWord?` — the command that a word names
* `CommandLine.mark` — the words with the marker behind the command
-/

namespace OneShot

/-- Other spellings of a command on the command line. -/
def Command.aliases : Command → List String
  | greet | calculate => []
  | processList => ["process-list"]
  | analyzeText => ["analyze-text"]

/-- The command of which a word is the name or an alias. -/
def Command.ofWord? (word : Bytes) : Option Command :=
  all.find? fun c => (c.name :: c.aliases).any fun name => Utf8.encode name = word

namespace CommandLine

/-- The word behind which no word is an option. -/
def marker : Bytes := Utf8.encode "--"

/-- The option that takes a value. -/
def formatOption : Bytes := Utf8.encode "--log-format"

/-- Whether a word looks like an option. -/
def isOption (word : Bytes) : Bool := word.head? = some (byte '-')

/-- Puts the marker behind the command. -/
def mark : List Bytes → List Bytes
  | [] => []
  | [word] => if ¬isOption word ∧ (Command.ofWord? word).isSome then [word, marker] else [word]
  | word :: next :: rest =>
    if word = formatOption then word :: next :: mark rest
    else if isOption word then word :: mark (next :: rest)
    else if (Command.ofWord? word).isSome then word :: marker :: next :: rest
    else word :: next :: rest

end CommandLine

end OneShot
