import OneShot.CommandLine.Invocation
import OneShot.Text.Terminal

/-!
# Help texts

The texts that answer a request for help, and the version. In a help text the names of the options
are set in bold, for a terminal; standard output is taken for a plain stream, so the escape
sequences are removed again.

The help about the program also shows the value that the environment gives to the log format. Every
further line of that value is indented like the explanation it stands in. Escape sequences and
control characters in it are removed as well, and one that is left open takes away what follows it.
-/

namespace OneShot.CommandLine

/-- Lines of text, each ended by a line feed. -/
def lines (texts : List String) : String := String.join (texts.map (· ++ "\n"))

/-- The name and the version of the program. -/
def versionText : String := lines ["polyhelper 0.1.0"]

/-- What a command does. -/
def about : Command → String
  | .greet => "Print a greeting as a JSON string"
  | .calculate => "Apply add, subtract, multiply, divide or power to two numbers"
  | .processList => "Summarize a JSON array of numbers"
  | .analyzeText => "Count characters, words and cased letters"

/-- What the help command does. -/
def aboutHelp : String := "Print this message or the help of the given subcommand(s)"

/-- The operands of a command, as they stand behind its name. -/
def operandNames : Command → String
  | .greet => "[NAME]"
  | .calculate => "<OPERATION> <A> <B>"
  | .processList => "<NUMBERS>"
  | .analyzeText => "<TEXT>"

/-- A line for each operand of a command. -/
def operandLines : Command → List String
  | .greet => ["  [NAME]  Name to greet (default: World)"]
  | .calculate =>
    ["  <OPERATION>  Operation tag; unknown tags print null",
     "  <A>          ",
     "  <B>          "]
  | .processList => ["  <NUMBERS>  JSON-encoded list, e.g. '[3, 1, 2]'"]
  | .analyzeText => ["  <TEXT>  "]

/-- A text in bold on a terminal. -/
def bold (text : String) : String := "\x1b[1m" ++ text ++ "\x1b[0m"

/-- The line about an option without a value. -/
def flagLine (short long explanation : String) : String :=
  "  " ++ bold short ++ ", " ++ bold long ++ explanation

/-- A text in the second column of the program's options, where every line is indented. -/
def indented (text : String) : String :=
  String.ofList (text.toList.flatMap fun c =>
    if c = '\n' then '\n' :: List.replicate 33 ' ' else [c])

/-- What is said about the option for the log format, with the value of the environment. -/
def aboutFormat (format : Option String) : String :=
  "Format of log lines written to stderr [env: POLYHELPER_LOG_FORMAT=" ++ format.getD ""
    ++ "] [default: text] [possible values: text, json]"

/-- The help about the program, with the log format of the environment. -/
def programHelp (format : Option String) : List String :=
  ["Stateless helper functions that print one JSON result",
   "",
   "Usage: polyhelper [OPTIONS] [COMMAND]",
   "",
   "Commands:",
   "  greet         " ++ about .greet,
   "  calculate     " ++ about .calculate,
   "  process_list  " ++ about .processList,
   "  analyze_text  " ++ about .analyzeText,
   "  help          " ++ aboutHelp,
   "",
   "Options:",
   "      " ++ bold "--log-format" ++ " <LOG_FORMAT>  " ++ indented (aboutFormat format),
   flagLine "-h" "--help" "                     Print help",
   flagLine "-V" "--version" "                  Print version"]

/-- The help about a command. -/
def commandHelp (command : Command) : List String :=
  [about command,
   "",
   "Usage: polyhelper " ++ command.name ++ " " ++ operandNames command,
   "",
   "Arguments:"]
  ++ operandLines command
  ++ ["",
      "Options:",
      flagLine "-h" "--help" "  Print help"]

/-- The help about the help command. -/
def helpHelp : List String :=
  [aboutHelp,
   "",
   "Usage: polyhelper help [COMMAND]...",
   "",
   "Arguments:",
   "  [COMMAND]...  Print help for the subcommand(s)"]

/-- The lines of the help about a topic. -/
def helpLines (format : Option String) : Topic → List String
  | .program => programHelp format
  | .command command => commandHelp command
  | .help => helpHelp

/-- The help about a topic, as plain text. -/
def helpText (format : Option String) (topic : Topic) : String :=
  Text.Terminal.plain (lines (helpLines format topic))

end OneShot.CommandLine
