import OneShot.Proofs.CommandLine.Grammar
import OneShot.Proofs.Decimal.Reader

/-!
# Requests as words

The words of a request are a command and its operands, with no option in front of them. Such a
command line is accepted whatever the operands look like, so all that matters is what is read of
each operand. A text is taken as it is. A floating point number comes back, but all NaNs come back
as one. A list of numbers is a JSON text, and may come back changed or not at all.

## Main definitions

* `Environment.IsValid` — the environments in which the program can run
* `Program.Asks` — what a command line without options asks for
* `Request.reread` — what is read of the words of a request

## Main results

* `Request.asks_words` — the words of a request ask for what is read of them
* `Request.asks_words_calculate` — the operands of a calculation come back
* `Program.Asks.run_eq` — a run is one with the request that its words ask for
-/

namespace OneShot

/-! ### What words ask for -/

/-- The environment asks for no log format, or for one that exists. -/
def Environment.IsValid (env : Environment) : Prop :=
  ∀ name ∈ env.format, (Log.Format.ofName? name).isSome

instance (env : Environment) : Decidable env.IsValid :=
  inferInstanceAs (Decidable (∀ name ∈ env.format, (Log.Format.ofName? name).isSome))

/-- The words are a command line that gives no log format, and the operands on it make a request, or
are refused. -/
def Program.Asks (words : List Bytes) (asked : Except NumberList.Refusal Request) : Prop :=
  ∃ instruction, CommandLine.parse? Program.dialect words = some (.run none (some instruction)) ∧
    instruction.request = asked

/-- The program runs with the request, in any valid environment. -/
theorem Program.Asks.run_eq {words : List Bytes} {request : Request}
    (h : Program.Asks words (.ok request)) {env : Environment} (henv : env.IsValid) :
    Program.run env words = Program.answer env.logFormat (Program.filter env) request := by
  obtain ⟨instruction, hparse, hrequest⟩ := h
  have haccepts : Program.Accepts env words env.logFormat instruction :=
    ⟨none, hparse, Program.format?_of_front henv .nothing⟩
  rw [haccepts.run_eq, Program.follow, hrequest]

/-! ### The words of a request -/

theorem Command.spelled_name (command : Command) : command.Spelled command.name := by
  cases command with
  | greet => exact .greet
  | calculate => exact .calculate
  | processList => exact .processList
  | analyzeText => exact .analyzeText

/-- A command and the texts that it takes are a whole command line. -/
theorem Program.asks_of_takes {command : Command} {texts : List String} {instruction : Instruction}
    (h : Instruction.Takes command texts instruction) :
    Program.Asks ((command.name :: texts).map Utf8.encode) instruction.request := by
  refine ⟨instruction, CommandLine.parse?_eq_run_iff.2 ⟨[], _, .nothing, ?_, rfl⟩, rfl⟩
  exact ⟨command, command.name, texts, command.spelled_name, h, rfl⟩

namespace Request

/-- What is read of the words of a request. -/
def reread : Request → Except NumberList.Refusal Request
  | greet name => .ok (.greet name)
  | calculate operation x y => .ok (.calculate operation x.reread y.reread)
  | processList numbers => (NumberList.parse (NumberList.write numbers)).map .processList
  | analyzeText text => .ok (.analyzeText text)

/-- **The words of a request ask for what is read of them**, also when its operands look like
options. -/
theorem asks_words (request : Request) :
    Program.Asks (request.words.map Utf8.encode) request.reread := by
  cases request with
  | greet name => exact Program.asks_of_takes (.somebody name)
  | calculate operation x y =>
    exact Program.asks_of_takes (.calculate operation x.ofText?_text y.ofText?_text)
  | processList numbers => exact Program.asks_of_takes (.processList (NumberList.write numbers))
  | analyzeText text => exact Program.asks_of_takes (.analyzeText text)

/-- Words that look like options. -/
example : (Request.calculate "--help" (.infinity true) (.zero true)).words =
    ["calculate", "--help", "-inf", "-0"] := by
  decide +kernel

/-- **The operands of a calculation come back.** The program is asked for the same operation, and
each number is the same bit by bit, if it is not a NaN that comes back as a NaN. -/
theorem asks_words_calculate (operation : String) (x y : Binary64) :
    ∃ x' y', Program.Asks ((Request.calculate operation x y).words.map Utf8.encode)
        (.ok (.calculate operation x' y')) ∧
      (x' = x ∨ x.IsNaN ∧ x'.IsNaN) ∧ (y' = y ∨ y.IsNaN ∧ y'.IsNaN) := by
  have hsame (z : Binary64) : z.reread = z ∨ z.IsNaN ∧ z.reread.IsNaN := by
    by_cases hz : z.IsNaN
    · exact .inr ⟨hz, Binary64.reread_isNaN_iff.2 hz⟩
    · exact .inl (Binary64.reread_eq_self hz)
  exact ⟨x.reread, y.reread, asks_words (.calculate operation x y), hsame x, hsame y⟩

end Request

end OneShot
