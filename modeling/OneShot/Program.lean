import OneShot.CommandLine.Help
import OneShot.Log

/-!
# The program

One run of the program: it takes the words of its command line and a few settings of its
environment, and leaves an exit status, the text of its standard output and of its standard error
stream, and log events. A run ends in one of four ways.

* Status `0`: help, the version, the banner that a run without a command prints, or the response to
  a request, on one line.
* Status `1`: the list of numbers is refused; the error stream tells why.
* Status `2`: the command line is wrong, or the environment asks for an unknown log format.
* Status `101`: the run breaks off, because sorting a list of numbers gives up.

Nothing is printed on standard output unless the status is `0`.

## Main definitions

* `Environment`, `Outcome` — what a run takes and what it leaves
* `Program.run` — a run
-/

namespace OneShot

/-- The settings that the environment makes. -/
structure Environment where
  /-- The format of log lines, unless an option gives one. -/
  format : Option String
  /-- The filter of log events. -/
  filter : Option String
deriving DecidableEq, Repr

/-- The environment that sets nothing. -/
def Environment.empty : Environment := ⟨none, none⟩

/-- What a run leaves. -/
structure Outcome where
  status : Nat
  stdout : String
  /-- The text on the error stream, the log lines left out. -/
  stderr : String
  format : Log.Format
  events : List Log.Event
deriving DecidableEq, Repr

namespace Program

/-- What a run without a command prints, so that callers can check that the program runs. -/
def banner : String := "Python helper module loaded"

/-- Log formats are given by their names, and the version can be asked for. -/
def dialect : CommandLine.Dialect where
  isFormat name := (Log.Format.ofName? name).isSome
  hasVersion := true

/-- A run that prints a text and has nothing to report. -/
def printed (format : Log.Format) (text : String) : Outcome := ⟨0, text, "", format, []⟩

/-- A run with a wrong command line or environment. What it writes on the error stream is no part
of this description. -/
def misused : Outcome := ⟨2, "", "", .text, []⟩

/-- A run with a list of numbers that is refused. -/
def refused (format : Log.Format) (message : String) : Outcome :=
  ⟨1, "",
    "Error: process_list expects a JSON array of numbers\n\nCaused by:\n    " ++ message ++ "\n",
    format, []⟩

/-- What is reported about a calculation: that there is no operation of the given name. -/
def operationEvents : Request → List Log.Event
  | .calculate operation _ _ =>
    if (Operation.ofTag? operation).isSome then []
    else [⟨.debug, "polyhelper_core::ops::calculate", "Unknown operation: " ++ operation⟩]
  | _ => []

/-- What is reported about a request before there is a response. -/
def requestEvents (request : Request) : List Log.Event :=
  [⟨.info, "polyhelper::handler", "Handling " ++ request.command.name⟩,
   ⟨.debug, "polyhelper_core::protocol", "Dispatching " ++ request.command.name⟩]
  ++ operationEvents request

/-- What is reported about a request and its response. -/
def events (request : Request) (response : String) : List Log.Event :=
  requestEvents request ++ [⟨.debug, "polyhelper", "Sending: " ++ response⟩]

/-- A run that answers a request by a response. -/
def answered (format : Log.Format) (filter : Log.Filter) (request : Request) (response : Response) :
    Outcome :=
  ⟨0, response.text ++ "\n", "", format, (events request response.text).filter filter.admits⟩

/-- A run that breaks off while it looks for the response to a request. What it writes on the error
stream then is no part of this description. -/
def brokenOff (format : Log.Format) (filter : Log.Filter) (request : Request) : Outcome :=
  ⟨101, "", "", format, (requestEvents request).filter filter.admits⟩

/-- A run with a request. -/
def answer (format : Log.Format) (filter : Log.Filter) (request : Request) : Outcome :=
  match request.respond with
  | some response => answered format filter request response
  | none => brokenOff format filter request

/-- The filter of a run. -/
def filter (env : Environment) : Log.Filter :=
  (env.filter.bind Log.Filter.parse?).getD Log.Filter.standard

/-- The log format of a run: that of the option, or that of the environment, or text. -/
def format? (env : Environment) (option : Option String) : Option Log.Format :=
  match option, env.format with
  | some name, _ => Log.Format.ofName? name
  | none, some name => Log.Format.ofName? name
  | none, none => some .text

/-- A run with an instruction. -/
def follow (format : Log.Format) (filter : Log.Filter) (instruction : Instruction) : Outcome :=
  match instruction.request with
  | .ok request => answer format filter request
  | .error refusal => refused format refusal.message

/-- A run of the program. -/
def run (env : Environment) (words : List Bytes) : Outcome :=
  match CommandLine.parse? dialect words with
  | none => misused
  | some (.help topic) => printed .text (CommandLine.helpText env.format topic)
  | some .version => printed .text CommandLine.versionText
  | some (.run option instruction) =>
    match format? env option with
    | none => misused
    | some format =>
      match instruction with
      | none => printed format (banner ++ "\n")
      | some instruction => follow format (filter env) instruction

end Program

end OneShot
