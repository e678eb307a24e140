import Mathlib.Tactic.SplitIfs
import OneShot.Program
import OneShot.Proofs.Text.Utf8

/-!
# The grammar of command lines

A command line is scanned twice: once to put the marker behind the command, and once to interpret
the marked words. The two scanners have to agree on which word is the command. What they accept
together is a small grammar, `Program.accepts_iff`: perhaps one option for the log format, then a
spelling of a command, then the operands of that command, which are text and may look like anything.

The grammar is stated by relations of its own (`Front`, `Command.Spelled`, `Instruction.Takes`),
which know nothing of markers, of pending values or of words that ask for help.

## Main results

* `CommandLine.parseFrom?_mark_eq_run_iff` — what the first words of an accepted command line are
* `Program.Accepts.run_eq` — a run follows the instruction that is accepted
* `Program.accepts_iff` — the command lines that are accepted
-/

namespace OneShot

/-! ### The relations -/

/-- The words that name a command. -/
inductive Command.Spelled : Command → String → Prop where
  | greet : Spelled .greet "greet"
  | calculate : Spelled .calculate "calculate"
  | processList : Spelled .processList "process_list"
  | processListDashed : Spelled .processList "process-list"
  | analyzeText : Spelled .analyzeText "analyze_text"
  | analyzeTextDashed : Spelled .analyzeText "analyze-text"

/-- The texts that a command takes, and the instruction that it makes of them. Each field is the
text in its place, or the number that this text writes. -/
inductive Instruction.Takes : Command → List String → Instruction → Prop where
  | nobody : Takes .greet [] (.greet none)
  | somebody (name : String) : Takes .greet [name] (.greet (some name))
  | calculate (operation : String) {x y : String} {a b : Binary64}
      (hx : Binary64.ofText? x = some a) (hy : Binary64.ofText? y = some b) :
      Takes .calculate [operation, x, y] (.calculate operation a b)
  | processList (numbers : String) : Takes .processList [numbers] (.processList numbers)
  | analyzeText (text : String) : Takes .analyzeText [text] (.analyzeText text)

/-- Words that give a command and its operands. -/
def Instruction.Written (instruction : Instruction) (words : List Bytes) : Prop :=
  ∃ command name texts, Command.Spelled command name ∧ Instruction.Takes command texts instruction ∧
    words = Utf8.encode name :: texts.map Utf8.encode

/-- What may stand in front of a command, and the name of the log format that it gives: nothing, or
one option, with its value in a word of its own or behind an equals sign. -/
inductive CommandLine.Front : List Bytes → Option String → Prop where
  | nothing : Front [] none
  | apart {name : String} (h : (Log.Format.ofName? name).isSome) :
      Front [Utf8.encode "--log-format", Utf8.encode name] (some name)
  | joined {name : String} (h : (Log.Format.ofName? name).isSome) :
      Front [Utf8.encode ("--log-format=" ++ name)] (some name)

/-- A command line asks for an instruction, with log lines in a format. -/
def Program.Accepts (env : Environment) (words : List Bytes) (format : Log.Format)
    (instruction : Instruction) : Prop :=
  ∃ option, CommandLine.parse? Program.dialect words = some (.run option (some instruction)) ∧
    Program.format? env option = some format

/-- The log format that the environment asks for; text, if it asks for none. -/
def Environment.logFormat (env : Environment) : Log.Format :=
  (env.format.bind Log.Format.ofName?).getD .text

/-- The program does what the command line asks for. -/
theorem Program.Accepts.run_eq {env : Environment} {words : List Bytes} {format : Log.Format}
    {instruction : Instruction} (h : Program.Accepts env words format instruction) :
    Program.run env words = Program.follow format (Program.filter env) instruction := by
  obtain ⟨option, hparse, hformat⟩ := h
  rw [Program.run, hparse]
  dsimp only
  rw [hformat]

/-! ### Commands and operands -/

namespace CommandLine

theorem ofWord?_eq_some_iff {word : Bytes} {command : Command} :
    Command.ofWord? word = some command ↔
      ∃ name, command.Spelled name ∧ word = Utf8.encode name := by
  constructor
  · intro h
    rw [Command.ofWord?] at h
    have hsome := List.find?_some h
    obtain ⟨name, hname, heq⟩ := List.any_eq_true.1 hsome
    refine ⟨name, ?_, (of_decide_eq_true heq : _ = _).symm⟩
    cases command <;>
      simp only [Command.name, Command.aliases, List.mem_cons, List.not_mem_nil, or_false] at hname
    · exact hname ▸ .greet
    · exact hname ▸ .calculate
    · exact hname.elim (· ▸ .processList) (· ▸ .processListDashed)
    · exact hname.elim (· ▸ .analyzeText) (· ▸ .analyzeTextDashed)
  · rintro ⟨name, hname, rfl⟩
    cases hname <;> decide +kernel

theorem ofOperands?_eq_some_iff {command : Command} {texts : List String}
    {instruction : Instruction} :
    Instruction.ofOperands? command texts = some instruction ↔
      Instruction.Takes command texts instruction := by
  constructor
  · intro h
    rw [Instruction.ofOperands?.eq_def] at h
    split at h
    · cases h
      exact .nobody
    · cases h
      exact .somebody _
    · simp only [Option.bind_eq_bind, Option.bind_eq_some_iff, Option.some.injEq] at h
      obtain ⟨a, ha, b, hb, rfl⟩ := h
      exact .calculate _ ha hb
    · cases h
      exact .processList _
    · cases h
      exact .analyzeText _
    · cases h
  · rintro (_ | _ | ⟨operation, hx, hy⟩ | _ | _)
    · rfl
    · rfl
    · rw [Instruction.ofOperands?, hx, hy]
      rfl
    · rfl
    · rfl

/-- A word that names a command is neither an option nor the word that asks for help. -/
theorem not_isOption_of_ofWord? {word : Bytes} {command : Command}
    (h : Command.ofWord? word = some command) : isOption word = false ∧ word ≠ helpWord := by
  obtain ⟨name, hname, rfl⟩ := ofWord?_eq_some_iff.1 h
  cases hname <;> decide +kernel

theorem parseCommand?_marker_eq_run_iff {dialect : Dialect} {options : Options}
    {command : Command} {words : List Bytes} {option : Option String} {instruction : Instruction} :
    parseCommand? dialect options command (marker :: words) =
        some (.run option (some instruction)) ↔
      (∃ texts, words = texts.map Utf8.encode ∧ Instruction.Takes command texts instruction) ∧
        (options.settle? dialect).map Options.format = some option := by
  rw [parseCommand?, operands?, if_pos rfl]
  simp only [Option.bind_eq_bind, Option.bind_eq_some_iff, Option.some.injEq,
    Invocation.run.injEq, Option.map_eq_some_iff, ofOperands?_eq_some_iff,
    Utf8.mapM_decode?_eq_some_iff]
  constructor
  · rintro ⟨texts, hwords, instruction, htakes, options', hsettle, rfl, rfl⟩
    exact ⟨⟨texts, hwords, htakes⟩, options', hsettle, rfl⟩
  · rintro ⟨⟨texts, hwords, htakes⟩, options', hsettle, rfl⟩
    exact ⟨texts, hwords, instruction, htakes, options', hsettle, rfl, rfl⟩

/-! ### The marked words -/

theorem mark_of_isOption {word : Bytes} (hword : word ≠ formatOption) (h : isOption word = true)
    (rest : List Bytes) : mark (word :: rest) = word :: mark rest := by
  cases rest with
  | nil => simp [mark, h]
  | cons next rest => rw [mark, if_neg hword, if_pos h]

theorem mark_of_command {word : Bytes} {command : Command}
    (h : Command.ofWord? word = some command) (rest : List Bytes) :
    mark (word :: rest) = word :: marker :: rest := by
  have hno := (not_isOption_of_ofWord? h).1
  have hformat : word ≠ formatOption := by
    rintro rfl
    exact absurd hno (by decide +kernel)
  cases rest with
  | nil => simp [mark, h, hno]
  | cons next rest => simp [mark, h, hno, hformat]

theorem mark_of_not_command {word : Bytes} (hoption : isOption word = false)
    (h : Command.ofWord? word = none) (rest : List Bytes) :
    mark (word :: rest) = word :: rest := by
  have hformat : word ≠ formatOption := by
    rintro rfl
    exact absurd hoption (by decide +kernel)
  cases rest with
  | nil => simp [mark, h]
  | cons next rest => simp [mark, h, hoption, hformat]

theorem parseHelp?_ne_run (words : List Bytes) (option : Option String)
    (instruction : Option Instruction) : parseHelp? words ≠ some (.run option instruction) := by
  intro h
  rw [parseHelp?.eq_def] at h
  split at h
  · cases h
  · split_ifs at h
    · cases h
    · rw [Option.map_eq_some_iff] at h
      obtain ⟨command, -, hrun⟩ := h
      cases hrun
  · cases h

section Parse

variable {dialect : Dialect} {options : Options} {option : Option String}
  {instruction : Instruction}

theorem parseEnd?_ne_run : parseEnd? dialect options ≠ some (.run option (some instruction)) := by
  intro h
  rw [parseEnd?, Option.map_eq_some_iff] at h
  obtain ⟨options', -, hrun⟩ := h
  cases hrun

theorem parseFrom?_of_not_isOption {word : Bytes} (h : isOption word = false)
    (rest : List Bytes) :
    parseFrom? dialect options (word :: rest) =
      if word = helpWord then parseHelp? rest
      else (Command.ofWord? word).bind fun command =>
        parseCommand? dialect options command rest := by
  have hdash (s : Bytes) : word ≠ byte '-' :: s := by
    rintro rfl
    cases h
  have htake (s : Bytes) : word.take 2 ≠ byte '-' :: s := by
    intro ht
    cases word with
    | nil => cases ht
    | cons b word => exact hdash word (by rw [List.take_succ_cons] at ht; cases ht; rfl)
  have hmarker : word ≠ marker := hdash _
  have hhelp : isHelpOption word = false := decide_eq_false (not_or.2 ⟨hdash _, htake _⟩)
  have hversion : isVersionOption word = false := decide_eq_false (not_or.2 ⟨hdash _, htake _⟩)
  have hformat : word ≠ formatOption := hdash _
  have hjoined : ¬formatOption ++ [byte '='] <+: word := by
    rintro ⟨value, hvalue⟩
    exact hdash _ hvalue.symm
  rw [parseFrom?.eq_def]
  dsimp only
  rw [if_neg hmarker, hhelp, if_neg Bool.false_ne_true, hversion,
    if_neg Bool.false_ne_true, if_neg hformat, if_neg hjoined, h, if_neg Bool.false_ne_true]

theorem parseFrom?_apart (value : Bytes) (rest : List Bytes) :
    parseFrom? dialect options (formatOption :: value :: rest) =
      if isValue value then
        (options.settle? dialect).bind fun options =>
          parseFrom? dialect { options with pending := some value } rest
      else none := by
  rw [parseFrom?, if_neg (by decide +kernel), if_neg (by decide +kernel),
    if_neg (by decide +kernel), if_pos rfl]

theorem parseFrom?_joined (value : Bytes) (rest : List Bytes) :
    parseFrom? dialect options ((formatOption ++ byte '=' :: value) :: rest) =
      (options.settle? dialect).bind fun options =>
      (options.give? dialect value).bind fun options => parseFrom? dialect options rest := by
  have hliteral : formatOption = [45, 45, 108, 111, 103, 45, 102, 111, 114, 109, 97, 116] := by
    decide +kernel
  have hmarker : formatOption ++ byte '=' :: value ≠ marker := by
    rw [hliteral, show marker = [45, 45] by decide +kernel]
    simp
  have hhelp : isHelpOption (formatOption ++ byte '=' :: value) = false := by
    rw [isHelpOption, hliteral, show Utf8.encode "--help" = [45, 45, 104, 101, 108, 112] by
      decide +kernel, show Utf8.encode "-h" = [45, 104] by decide +kernel]
    simp
  have hversion : isVersionOption (formatOption ++ byte '=' :: value) = false := by
    rw [isVersionOption, hliteral, show Utf8.encode "--version" =
      [45, 45, 118, 101, 114, 115, 105, 111, 110] by decide +kernel,
      show Utf8.encode "-V" = [45, 86] by decide +kernel]
    simp
  have hformat : formatOption ++ byte '=' :: value ≠ formatOption := by simp
  have hjoined : formatOption ++ [byte '='] <+: formatOption ++ byte '=' :: value :=
    ⟨value, by simp⟩
  have hdrop : (formatOption ++ byte '=' :: value).drop (formatOption.length + 1) = value := by
    rw [hliteral]
    rfl
  rw [parseFrom?.eq_def]
  dsimp only
  rw [if_neg hmarker, hhelp, if_neg Bool.false_ne_true, hversion,
    if_neg Bool.false_ne_true, if_neg hformat, if_pos hjoined, hdrop]

/-- What comes first on a command line that is accepted: the command, or the option with its value
in the next word, or the option with its value behind an equals sign. -/
theorem parseFrom?_mark_eq_run_iff {words : List Bytes} :
    parseFrom? dialect options (mark words) = some (.run option (some instruction)) ↔
      (∃ command word rest, words = word :: rest ∧ Command.ofWord? word = some command ∧
        parseCommand? dialect options command (marker :: rest) =
          some (.run option (some instruction))) ∨
      (∃ value rest options', words = formatOption :: value :: rest ∧ isValue value = true ∧
        options.settle? dialect = some options' ∧
        parseFrom? dialect { options' with pending := some value } (mark rest) =
          some (.run option (some instruction))) ∨
      (∃ value rest options' options'', words = (formatOption ++ byte '=' :: value) :: rest ∧
        options.settle? dialect = some options' ∧ options'.give? dialect value = some options'' ∧
        parseFrom? dialect options'' (mark rest) = some (.run option (some instruction))) := by
  constructor
  · intro h
    cases words with
    | nil => exact absurd h parseEnd?_ne_run
    | cons word rest =>
      by_cases hoption : isOption word = true
      · by_cases hformat : word = formatOption
        · subst hformat
          cases rest with
          | nil =>
            rw [show mark [formatOption] = [formatOption] by decide +kernel, parseFrom?,
              if_neg (by decide +kernel), if_neg (by decide +kernel), if_neg (by decide +kernel),
              if_pos rfl] at h
            cases h
          | cons value rest =>
            rw [mark, if_pos rfl, parseFrom?_apart] at h
            split_ifs at h with hvalue
            obtain ⟨options', hsettle, hrun⟩ := Option.bind_eq_some_iff.1 h
            exact .inr (.inl ⟨value, rest, options', rfl, hvalue, hsettle, hrun⟩)
        · rw [mark_of_isOption hformat hoption, parseFrom?.eq_def] at h
          dsimp only at h
          split_ifs at h with hmarker hrest hhelp hversion hhas hjoined
          · exact absurd h parseEnd?_ne_run
          · obtain ⟨options', -, hrun⟩ := Option.map_eq_some_iff.1 h
            cases hrun
          · obtain ⟨options', -, hrun⟩ := Option.map_eq_some_iff.1 h
            cases hrun
          · obtain ⟨value, rfl⟩ := hjoined
            obtain ⟨options', hsettle, hrun⟩ := Option.bind_eq_some_iff.1 h
            obtain ⟨options'', hgive, hrun⟩ := Option.bind_eq_some_iff.1 hrun
            rw [List.append_assoc] at hgive ⊢
            exact .inr (.inr ⟨value, rest, options', options'', rfl, hsettle, hgive, hrun⟩)
      · rw [Bool.not_eq_true] at hoption
        cases hcommand : Command.ofWord? word with
        | none =>
          rw [mark_of_not_command hoption hcommand, parseFrom?_of_not_isOption hoption,
            hcommand] at h
          split_ifs at h
          · exact absurd h (parseHelp?_ne_run _ _ _)
          · cases h
        | some command =>
          rw [mark_of_command hcommand, parseFrom?_of_not_isOption hoption,
            if_neg (not_isOption_of_ofWord? hcommand).2, hcommand, Option.bind_some] at h
          exact .inl ⟨command, word, rest, rfl, hcommand, h⟩
  · rintro (⟨command, word, rest, rfl, hcommand, h⟩ |
      ⟨value, rest, options', rfl, hvalue, hsettle, h⟩ |
      ⟨value, rest, options', options'', rfl, hsettle, hgive, h⟩)
    · obtain ⟨hoption, hhelp⟩ := not_isOption_of_ofWord? hcommand
      rw [mark_of_command hcommand, parseFrom?_of_not_isOption hoption, if_neg hhelp,
        hcommand, Option.bind_some, h]
    · rw [mark, if_pos rfl, parseFrom?_apart, if_pos hvalue, hsettle, Option.bind_some, h]
    · rw [mark_of_isOption (by simp) rfl, parseFrom?_joined, hsettle,
        Option.bind_some, hgive, Option.bind_some, h]

theorem formatValue?_eq_some_iff {value : Bytes} {name : String} :
    formatValue? dialect value = some name ↔
      value = Utf8.encode name ∧ dialect.isFormat name = true := by
  rw [formatValue?, Option.filter_eq_some_iff, Utf8.decode?_eq_some_iff]

theorem give?_of_format {value : Bytes} (h : options.format.isSome) :
    options.give? dialect value = none :=
  if_pos h

theorem give?_of_no_format {value : Bytes} (h : options.format = none) :
    options.give? dialect value =
      (formatValue? dialect value).map fun format => ⟨some format, none⟩ := by
  rw [Options.give?, h]
  rfl

theorem settle?_pending (value : Bytes) :
    Options.settle? dialect { options with pending := some value } =
      Options.give? dialect { options with pending := some value } value :=
  rfl

/-- Options that cannot be settled are refused, whatever follows them. -/
theorem parseFrom?_mark_ne_run (h : options.settle? dialect = none) (words : List Bytes) :
    parseFrom? dialect options (mark words) ≠ some (.run option (some instruction)) := by
  rw [Ne, parseFrom?_mark_eq_run_iff, h]
  rintro (⟨_, _, _, _, _, hrun⟩ | ⟨_, _, _, _, _, hsettle, _⟩ | ⟨_, _, _, _, _, hsettle, _⟩)
  · rw [parseCommand?_marker_eq_run_iff, h] at hrun
    cases hrun.2
  · cases hsettle
  · cases hsettle

/-- Once a format is given, only a command can follow. -/
theorem parseFrom?_mark_eq_run_of_format {settled : Options} {name : String}
    (hsettle : options.settle? dialect = some settled) (hname : settled.format = some name)
    {words : List Bytes} :
    parseFrom? dialect options (mark words) = some (.run option (some instruction)) ↔
      option = some name ∧ instruction.Written words := by
  have hsome : settled.format.isSome := by rw [hname]; rfl
  rw [parseFrom?_mark_eq_run_iff, hsettle]
  constructor
  · rintro (⟨command, word, rest, rfl, hcommand, hrun⟩ |
      ⟨value, rest, options', -, -, hoptions', hrun⟩ |
      ⟨value, rest, options', options'', -, hoptions', hoptions'', -⟩)
    · rw [parseCommand?_marker_eq_run_iff, hsettle] at hrun
      obtain ⟨⟨texts, rfl, htakes⟩, hformat⟩ := hrun
      obtain ⟨name', hspelled, rfl⟩ := ofWord?_eq_some_iff.1 hcommand
      refine ⟨?_, command, name', texts, hspelled, htakes, rfl⟩
      rw [← hname, ← Option.some.inj hformat]
    · cases hoptions'
      refine absurd hrun (parseFrom?_mark_ne_run ?_ rest)
      rw [settle?_pending]
      exact give?_of_format hsome
    · cases hoptions'
      rw [give?_of_format hsome] at hoptions''
      cases hoptions''
  · rintro ⟨rfl, command, name', texts, hspelled, htakes, rfl⟩
    refine .inl ⟨command, _, _, rfl, ofWord?_eq_some_iff.2 ⟨name', hspelled, rfl⟩, ?_⟩
    rw [parseCommand?_marker_eq_run_iff, hsettle, Option.map_some, hname]
    exact ⟨⟨texts, rfl, htakes⟩, rfl⟩

end Parse

theorem encode_joined (name : String) :
    Utf8.encode ("--log-format=" ++ name) = formatOption ++ byte '=' :: Utf8.encode name := by
  rw [Utf8.encode_append, show Utf8.encode "--log-format=" = formatOption ++ [byte '='] by
    decide +kernel, List.append_assoc]
  rfl

/-- The name of a format does not look like an option. -/
theorem isValue_of_format {name : String} (h : (Log.Format.ofName? name).isSome) :
    isValue (Utf8.encode name) = true := by
  rw [Log.Format.ofName?] at h
  split_ifs at h with htext hjson
  · rw [htext]
    decide +kernel
  · rw [hjson]
    decide +kernel
  · cases h

/-- The command lines with a command: its words, behind an option that may be there. -/
theorem parse?_eq_run_iff {words : List Bytes} {option : Option String}
    {instruction : Instruction} :
    parse? Program.dialect words = some (.run option (some instruction)) ↔
      ∃ front behind, Front front option ∧ instruction.Written behind ∧
        words = front ++ behind := by
  rw [parse?, parseFrom?_mark_eq_run_iff]
  constructor
  · rintro (⟨command, word, rest, rfl, hcommand, hrun⟩ |
      ⟨value, rest, options', rfl, -, hsettle, hrun⟩ |
      ⟨value, rest, options', options'', rfl, hsettle, hgive, hrun⟩)
    · rw [parseCommand?_marker_eq_run_iff] at hrun
      obtain ⟨⟨texts, rfl, htakes⟩, hformat⟩ := hrun
      cases hformat
      obtain ⟨name, hspelled, rfl⟩ := ofWord?_eq_some_iff.1 hcommand
      exact ⟨[], _, .nothing, ⟨command, name, texts, hspelled, htakes, rfl⟩, rfl⟩
    · cases hsettle
      cases hvalue : formatValue? Program.dialect value with
      | none =>
        refine absurd hrun (parseFrom?_mark_ne_run ?_ rest)
        rw [settle?_pending, give?_of_no_format rfl, hvalue, Option.map_none]
      | some name =>
        rw [parseFrom?_mark_eq_run_of_format (by
          rw [settle?_pending, give?_of_no_format rfl, hvalue, Option.map_some]) rfl] at hrun
        obtain ⟨rfl, hname⟩ := formatValue?_eq_some_iff.1 hvalue
        obtain ⟨rfl, hwritten⟩ := hrun
        exact ⟨_, rest, .apart hname, hwritten, rfl⟩
    · cases hsettle
      rw [give?_of_no_format rfl, Option.map_eq_some_iff] at hgive
      obtain ⟨name, hvalue, rfl⟩ := hgive
      rw [parseFrom?_mark_eq_run_of_format rfl rfl] at hrun
      obtain ⟨rfl, hname⟩ := formatValue?_eq_some_iff.1 hvalue
      obtain ⟨rfl, hwritten⟩ := hrun
      exact ⟨_, rest, .joined hname, hwritten, by rw [encode_joined]; rfl⟩
  · rintro ⟨_, behind, (_ | ⟨hname⟩ | ⟨hname⟩), hwritten, rfl⟩
    · obtain ⟨command, name, texts, hspelled, htakes, rfl⟩ := hwritten
      refine .inl ⟨command, _, _, rfl, ofWord?_eq_some_iff.2 ⟨name, hspelled, rfl⟩, ?_⟩
      rw [parseCommand?_marker_eq_run_iff]
      exact ⟨⟨texts, rfl, htakes⟩, rfl⟩
    · have hvalue := (@formatValue?_eq_some_iff Program.dialect _ _).2 ⟨rfl, hname⟩
      refine .inr (.inl ⟨_, behind, .empty, rfl, isValue_of_format hname, rfl, ?_⟩)
      rw [parseFrom?_mark_eq_run_of_format (by
        rw [settle?_pending, give?_of_no_format rfl, hvalue, Option.map_some]) rfl]
      exact ⟨rfl, hwritten⟩
    · have hvalue := (@formatValue?_eq_some_iff Program.dialect _ _).2 ⟨rfl, hname⟩
      refine .inr (.inr ⟨_, behind, .empty, _, by rw [encode_joined]; rfl, rfl, by
        rw [give?_of_no_format rfl, hvalue, Option.map_some], ?_⟩)
      rw [parseFrom?_mark_eq_run_of_format rfl rfl]
      exact ⟨rfl, hwritten⟩

end CommandLine

namespace Program

/-- The log format is that of the option in front of the command, or else that of the
environment. -/
theorem format?_of_front {env : Environment}
    (henv : ∀ name ∈ env.format, (Log.Format.ofName? name).isSome) {front : List Bytes}
    {option : Option String} (hfront : CommandLine.Front front option) :
    format? env option = some ((option.bind Log.Format.ofName?).getD env.logFormat) := by
  have hgetD {x : Option Log.Format} (h : x.isSome) (y : Log.Format) : x = some (x.getD y) := by
    obtain ⟨z, rfl⟩ := Option.isSome_iff_exists.1 h
    rfl
  cases hfront with
  | nothing =>
    rw [format?.eq_def, Environment.logFormat]
    cases hformat : env.format with
    | none => rfl
    | some name => exact hgetD (henv name hformat) _
  | apart h => exact hgetD h _
  | joined h => exact hgetD h _

/-- **The command lines that are accepted.** If the environment asks for no log format, or for one
that exists, then a command line is accepted exactly if it is perhaps one option for the log format,
then a spelling of a command, then texts which that command takes; and then the instruction is made
of these texts, whatever they look like. -/
theorem accepts_iff {env : Environment}
    (henv : ∀ name ∈ env.format, (Log.Format.ofName? name).isSome) {words : List Bytes}
    {format : Log.Format} {instruction : Instruction} :
    Accepts env words format instruction ↔
      ∃ front option command name texts, CommandLine.Front front option ∧
        Command.Spelled command name ∧ Instruction.Takes command texts instruction ∧
        words = front ++ Utf8.encode name :: texts.map Utf8.encode ∧
        format = (option.bind Log.Format.ofName?).getD env.logFormat := by
  constructor
  · rintro ⟨option, hparse, hformat⟩
    obtain ⟨front, behind, hfront, ⟨command, name, texts, hspelled, htakes, rfl⟩, rfl⟩ :=
      CommandLine.parse?_eq_run_iff.1 hparse
    rw [format?_of_front henv hfront] at hformat
    exact ⟨front, option, command, name, texts, hfront, hspelled, htakes, rfl,
      (Option.some.inj hformat).symm⟩
  · rintro ⟨front, option, command, name, texts, hfront, hspelled, htakes, rfl, rfl⟩
    refine ⟨option, ?_, format?_of_front henv hfront⟩
    exact CommandLine.parse?_eq_run_iff.2
      ⟨front, _, hfront, ⟨command, name, texts, hspelled, htakes, rfl⟩, rfl⟩

/-- A word that looks like an option is a name like any other, behind the command. -/
theorem accepts_help_behind_command :
    (∀ name ∈ some "json", (Log.Format.ofName? name).isSome) ∧
      Accepts ⟨some "json", none⟩ [Utf8.encode "greet", Utf8.encode "--help"] .json
        (.greet (some "--help")) := by
  have henv : ∀ name ∈ some "json", (Log.Format.ofName? name).isSome := by
    rintro _ ⟨⟩
    rfl
  exact ⟨henv, (@accepts_iff ⟨some "json", none⟩ henv _ _ _).2
    ⟨[], none, .greet, "greet", ["--help"], .nothing, .greet, .somebody "--help", rfl, rfl⟩⟩

end Program

end OneShot
