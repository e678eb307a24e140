import OneShot.CommandLine.Marker
import OneShot.Decimal.Reader

/-!
# Invocations

What the words of a command line ask for. Options stand in front of the command and are taken from
left to right; the first word that asks for help or for the version, or that is wrong, decides.
Behind the command there are only operands, each of which has to be text.

The option `--log-format` takes a value, as the next word or behind `=`, and may be given once.
Which values are allowed, and whether there is an option for the version, is up to the program
(`Dialect`). A value behind `=` is checked at once. A value in a word of its own stays pending until
the next option, or the end, and is checked only then. So `help`, which is no option but a word that
decides, is obeyed whatever value is pending.

## Main definitions

* `Instruction` — a command with operands as they are given on a command line
* `Invocation` — what a command line asks for
* `CommandLine.parse?` — the invocation that words write, if they write one
* `Instruction.request` — the request of an instruction
-/

namespace OneShot

/-- A command with the operands of a command line. -/
inductive Instruction where
  | greet (name : Option String)
  | calculate (operation : String) (x y : Binary64)
  | processList (numbers : String)
  | analyzeText (text : String)
deriving DecidableEq

namespace Instruction

/-- A command with operands, if they are the right ones in number and kind. -/
def ofOperands? (command : Command) (operands : List String) : Option Instruction :=
  match command, operands with
  | .greet, [] => some (.greet none)
  | .greet, [name] => some (.greet (some name))
  | .calculate, [operation, x, y] => do
    let x ← Binary64.ofText? x
    let y ← Binary64.ofText? y
    some (.calculate operation x y)
  | .processList, [numbers] => some (.processList numbers)
  | .analyzeText, [text] => some (.analyzeText text)
  | _, _ => none

/-- The request of an instruction. A list of numbers that is none is refused. -/
def request : Instruction → Except NumberList.Refusal Request
  | greet name => .ok (.greet (name.getD Greeting.defaultName))
  | calculate operation x y => .ok (.calculate operation x y)
  | processList numbers => (NumberList.parse numbers).map .processList
  | analyzeText text => .ok (.analyzeText text)

end Instruction

/-- What help is about. -/
inductive Topic where
  | program
  | command (command : Command)
  | help
deriving DecidableEq

/-- What a command line asks for. -/
inductive Invocation where
  | help (topic : Topic)
  | version
  /-- The format given for log lines, and an instruction if there is a command. -/
  | run (format : Option String) (instruction : Option Instruction)
deriving DecidableEq

namespace CommandLine

/-- What programs may decide about their options. -/
structure Dialect where
  /-- The values that `--log-format` takes. -/
  isFormat : String → Bool
  /-- Whether `--version` and `-V` are options. -/
  hasVersion : Bool

/-- The word that asks for help about commands. -/
def helpWord : Bytes := Utf8.encode "help"

def isHelpOption (word : Bytes) : Bool :=
  word = Utf8.encode "--help" ∨ word.take 2 = Utf8.encode "-h"

def isVersionOption (word : Bytes) : Bool :=
  word = Utf8.encode "--version" ∨ word.take 2 = Utf8.encode "-V"

/-- The operands among the words behind a command: all words behind the marker, and those in front
of it unless one of them asks for help. -/
def operands? : List Bytes → Option (List Bytes)
  | [] => some []
  | word :: rest =>
    if word = marker then some rest
    else if isHelpOption word then none
    else (operands? rest).map (word :: ·)

/-- What the words behind `help` ask for: help about one command, about help itself, or about the
program. -/
def parseHelp? : List Bytes → Option Invocation
  | [] => some (.help .program)
  | [word] =>
    if word = helpWord then some (.help .help)
    else (Command.ofWord? word).map fun command => .help (.command command)
  | _ => none

/-! ### Options -/

/-- The value of the option `--log-format`, if it is allowed. -/
def formatValue? (dialect : Dialect) (value : Bytes) : Option String :=
  (Utf8.decode? value).filter dialect.isFormat

/-- What the options that have been read give. -/
structure Options where
  /-- The format, if one has been given and checked. -/
  format : Option String
  /-- A value for the format that is still to be checked. -/
  pending : Option Bytes
deriving DecidableEq

/-- No options. -/
def Options.empty : Options := ⟨none, none⟩

/-- Checks a format that is given, which has to be the first one. -/
def Options.give? (dialect : Dialect) (options : Options) (value : Bytes) : Option Options :=
  if options.format.isSome then none
  else (formatValue? dialect value).map fun format => ⟨some format, none⟩

/-- Checks the pending value. -/
def Options.settle? (dialect : Dialect) (options : Options) : Option Options :=
  match options.pending with
  | none => some options
  | some value => options.give? dialect value

/-- Whether a word can be the value of an option: a dash alone can, an option cannot. -/
def isValue (word : Bytes) : Bool := word = [byte '-'] ∨ ¬isOption word

/-! ### Command lines -/

/-- What a command with the words behind it asks for. -/
def parseCommand? (dialect : Dialect) (options : Options) (command : Command)
    (words : List Bytes) : Option Invocation :=
  match operands? words with
  | none => some (.help (.command command))
  | some operands => do
    let operands ← operands.mapM Utf8.decode?
    let instruction ← Instruction.ofOperands? command operands
    let options ← options.settle? dialect
    some (.run options.format (some instruction))

/-- What a command line without a command asks for. -/
def parseEnd? (dialect : Dialect) (options : Options) : Option Invocation :=
  (options.settle? dialect).map fun options => .run options.format none

/-- What words ask for when the given options have been read already. -/
def parseFrom? (dialect : Dialect) (options : Options) : List Bytes → Option Invocation
  | [] => parseEnd? dialect options
  | word :: rest =>
    if word = marker then (if rest = [] then parseEnd? dialect options else none)
    else if isHelpOption word then (options.settle? dialect).map fun _ => .help .program
    else if isVersionOption word then
      if dialect.hasVersion then (options.settle? dialect).map fun _ => .version else none
    else if word = formatOption then
      match rest with
      | [] => none
      | value :: rest =>
        if isValue value then
          (options.settle? dialect).bind fun options =>
            parseFrom? dialect { options with pending := some value } rest
        else none
    else if formatOption ++ [byte '='] <+: word then
      (options.settle? dialect).bind fun options =>
      (options.give? dialect (word.drop (formatOption.length + 1))).bind fun options =>
        parseFrom? dialect options rest
    else if isOption word then none
    else if word = helpWord then parseHelp? rest
    else (Command.ofWord? word).bind fun command => parseCommand? dialect options command rest

/-- What the words of a command line ask for; nothing if they are wrong. -/
def parse? (dialect : Dialect) (words : List Bytes) : Option Invocation :=
  parseFrom? dialect .empty (mark words)

end CommandLine

end OneShot
