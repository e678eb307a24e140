import OneShot.Program
import OneShot.Request.Reader
import OneShot.Response.Reader

/-!
# Clients

A client answers requests by running a helper: it starts the helper with some leading words and the
words of the request, waits for it, and reads the response from its output. Any program that follows
the same convention will do as a helper; `Helper.program` is the one that is described in
`OneShot.Program`.

A call fails if the helper cannot be started, if it ends with a status other than zero or by a
signal, and if its output is not the JSON text of a response of the right kind.

## Main definitions

* `Helper`, `Ending` — programs to be run, and how a run ends
* `Client` — a helper and the words in front of every request
* `CallError`, `CallError.message` — why a call fails, and how that is told
* `Client.call`, `Client.banner` — a request, and a run without any command
* `Client.greet`, `Client.calculate`, `Client.processList`, `Client.analyzeText` — the four calls
-/

namespace OneShot

open Json

/-- Why a helper cannot be started. -/
inductive StartFailure where
  | notFound
  | notPermitted
  /-- A word that holds a zero byte, which no argument of a program may. -/
  | zeroByte
deriving DecidableEq, Repr

def StartFailure.text : StartFailure → String
  | notFound => "No such file or directory (os error 2)"
  | notPermitted => "Permission denied (os error 13)"
  | zeroByte => "nul byte found in provided data"

/-- How a run of a helper ends: with a status, which is missing if a signal ended it, and with what
it has written. -/
structure Ending where
  status : Option Int
  stdout : Bytes
  stderr : Bytes
deriving DecidableEq, Repr

/-- A program that can be run with words. -/
structure Helper where
  /-- The name it is started by. -/
  name : Bytes
  run : List Bytes → Except StartFailure Ending

namespace Helper

/-- The program of this library, started by its name in an empty environment. -/
def program : Helper where
  name := Utf8.encode "polyhelper"
  run words :=
    let outcome := Program.run .empty words
    .ok ⟨some outcome.status, Utf8.encode outcome.stdout, Utf8.encode outcome.stderr⟩

end Helper

/-- A helper and the words that stand in front of every request. -/
structure Client where
  helper : Helper
  leading : List Bytes

/-- Why a call fails. -/
inductive CallError where
  | notStarted (program : String) (failure : StartFailure)
  /-- The helper ended with another status than zero, or by a signal. -/
  | failed (status : Option Int) (stderr : String)
  /-- The output of the helper, and its fault. -/
  | undecodable (output : Bytes) (fault : Fault)
deriving DecidableEq, Repr

namespace CallError

/-- How a status is told. -/
def describeStatus : Option Int → String
  | some status => "status " ++ toString status
  | none => "no status (terminated by signal)"

/-- How it is told why a call fails. -/
def message : CallError → String
  | notStarted program failure =>
    "Failed to start helper '" ++ program ++ "': " ++ failure.text
  | failed status stderr => "Helper exited with " ++ describeStatus status ++ ": " ++ stderr
  | undecodable output fault => "Failed to decode helper output: " ++ fault.message output

end CallError

namespace Client

/-- The output of the helper when it is run with the given words. -/
def output (client : Client) (words : List String) : Except CallError Bytes :=
  let words := client.leading ++ words.map Utf8.encode
  let ending :=
    if (client.helper.name :: words).any fun word => word.contains 0 then .error .zeroByte
    else client.helper.run words
  match ending with
  | .error failure => .error (.notStarted (Utf8.decodeLossy client.helper.name) failure)
  | .ok ending =>
    if ending.status = some 0 then .ok ending.stdout
    else .error (.failed ending.status (Text.trim (Utf8.decodeLossy ending.stderr)))

/-- What a reader makes of the helper's answer to a request. -/
def call {α : Type} (client : Client) (read : Bytes → Except Fault α) (request : Request) :
    Except CallError α :=
  (client.output request.words).bind fun output =>
    (read output).mapError (.undecodable output)

/-- What the helper prints when it is run without a command. -/
def banner (client : Client) : Except CallError String :=
  (client.output []).map fun output => Text.trim (Utf8.decodeLossy output)

def greet (client : Client) (name : String) : Except CallError String :=
  client.call Response.parseGreeting (.greet name)

def calculate (client : Client) (operation : String) (x y : Binary64) :
    Except CallError (Option Binary64) :=
  client.call Response.parseCalculation (.calculate operation x y)

def processList (client : Client) (numbers : List Number) : Except CallError Summary :=
  client.call Summary.parse (.processList numbers)

def analyzeText (client : Client) (text : String) : Except CallError TextAnalysis :=
  client.call TextAnalysis.parse (.analyzeText text)

end Client

end OneShot
