import OneShot.Client
import OneShot.Proofs.Request.Words
import OneShot.Proofs.Response.Calculation

/-!
# Calls of the program

A client of the program sends a request as words and reads the response from the line that the
program prints. Between the two stands everything else: the marker behind the command, the reading
of the operands, the printed JSON text. `Client.call_eq` takes all this in one step: if no word
holds a zero byte, a call is the reader applied to the line that answers the request that is read of
the words, as long as there is an answer.

Texts survive it all, and so greetings and analyses are those of the text that was given. The
operands of a calculation survive as well, but the result is read by a reader of numbers that rounds
more than once, and what comes out is the result only if this does no harm.

All this holds in every valid environment: one that asks for no log format, or for one that exists.

## Main definitions

* `Helper.programIn`, `Client.ofProgram` — the program in an environment, and its client

## Main results

* `Client.call_eq` — a call, as a whole
* `Client.text_calls` — greetings and analyses are those of the text
* `Client.calculate_eq_iff` — when the result of a calculation comes back
-/

namespace OneShot

open Json

/-! ### Calls -/

/-- How a run of the program ends, seen from outside. -/
def Outcome.ending (outcome : Outcome) : Ending :=
  ⟨some outcome.status, Utf8.encode outcome.stdout, Utf8.encode outcome.stderr⟩

/-- The program, started in an environment. -/
def Helper.programIn (env : Environment) : Helper where
  name := Helper.program.name
  run words := .ok (Program.run env words).ending

namespace Client

/-- The client of the program, with no words in front of its requests. -/
def ofProgram (env : Environment) : Client := ⟨Helper.programIn env, []⟩

theorem ofProgram_empty : ofProgram .empty = ⟨Helper.program, []⟩ := rfl

variable {env : Environment} {request request' : Request} {response : Response}

/-- The words of a request can be given to a program. -/
def Sendable (request : Request) : Prop := ∀ word ∈ request.words, '\x00' ∉ word.toList

/-- What a helper prints that is started and ends with the status zero. -/
theorem output_of_run {client : Client} {words : List String} {ending : Ending}
    (hzero : ∀ word ∈ client.helper.name :: (client.leading ++ words.map Utf8.encode), 0 ∉ word)
    (hrun : client.helper.run (client.leading ++ words.map Utf8.encode) = .ok ending)
    (hstatus : ending.status = some 0) : client.output words = .ok ending.stdout := by
  have hany : ¬((client.helper.name :: (client.leading ++ words.map Utf8.encode)).any
      fun word => word.contains 0) = true := by
    rw [List.any_eq_true]
    rintro ⟨word, hword, hmem⟩
    exact hzero word hword (List.contains_iff_mem.1 hmem)
  rw [output, if_neg hany, hrun]
  exact if_pos hstatus

/-- What the program prints when it is sent a request that has a response. -/
theorem output_eq (henv : env.IsValid) (hsend : Sendable request)
    (hread : request.reread = .ok request') (hrespond : request'.respond = some response) :
    (ofProgram env).output request.words = .ok (Utf8.encode (response.text ++ "\n")) := by
  have hasks : Program.Asks (request.words.map Utf8.encode) (.ok request') :=
    hread ▸ request.asks_words
  have hanswer : Program.run env (request.words.map Utf8.encode) =
      Program.answered env.logFormat (Program.filter env) request' response := by
    rw [hasks.run_eq henv, Program.answer, hrespond]
  have hrun : (ofProgram env).helper.run
      ((ofProgram env).leading ++ request.words.map Utf8.encode) =
        .ok (Program.answered env.logFormat (Program.filter env) request' response).ending :=
    congrArg (fun outcome : Outcome => (.ok outcome.ending : Except StartFailure Ending)) hanswer
  have hname : 0 ∉ Utf8.encode "polyhelper" := by decide +kernel
  have hwords : ∀ word ∈ request.words.map Utf8.encode, 0 ∉ word := by
    intro word hword
    obtain ⟨text, htext, rfl⟩ := List.mem_map.1 hword
    exact mt Utf8.zero_mem_encode_iff.1 (hsend text htext)
  have hzero : ∀ word ∈ (ofProgram env).helper.name ::
      ((ofProgram env).leading ++ request.words.map Utf8.encode), 0 ∉ word :=
    List.forall_mem_cons.2 ⟨hname, hwords⟩
  exact output_of_run hzero hrun rfl

/-- **A call, as a whole.** It is the reader applied to the line that answers the request that is
read of the words. -/
theorem call_eq {α : Type} {read : Bytes → Except Fault α} {a : α}
    (henv : env.IsValid) (hsend : Sendable request) (hread : request.reread = .ok request')
    (hrespond : request'.respond = some response)
    (h : read (Utf8.encode (response.text ++ "\n")) = .ok a) :
    (ofProgram env).call read request = .ok a := by
  rw [call, output_eq henv hsend hread hrespond]
  dsimp only [Except.bind]
  rw [h]
  rfl

theorem sendable_of_operands (h : ∀ text ∈ request.operands, '\x00' ∉ text.toList) :
    Sendable request := by
  refine List.forall_mem_cons.2 ⟨?_, h⟩
  cases request.command <;> decide

/-! ### Texts -/

/-- **Texts come through.** The program answers a greeting and an analysis of any text without the
zero character, and its client returns the greeting and the analysis of this very text. The counts
are sent as integers of 64 bits, which is no restriction for a text that fits into a memory. -/
theorem text_calls (henv : env.IsValid) {text : String} (h : '\x00' ∉ text.toList) :
    (Program.run env ((Request.greet text).words.map Utf8.encode)).status = 0 ∧
      (ofProgram env).greet text = .ok ("Hello from Python, " ++ text ++ "!") ∧
      (Program.run env ((Request.analyzeText text).words.map Utf8.encode)).status = 0 ∧
      (text.length < 0x10000000000000000 →
        (ofProgram env).analyzeText text = .ok (TextAnalysis.ofText text)) := by
  have hgreet : Sendable (.greet text) := sendable_of_operands (List.forall_mem_singleton.2 h)
  have hanalyze : Sendable (.analyzeText text) :=
    sendable_of_operands (List.forall_mem_singleton.2 h)
  refine ⟨?_, ?_, ?_, fun hlength => ?_⟩
  · rw [Program.Asks.run_eq (Request.greet text).asks_words henv]
    rfl
  · exact call_eq henv hgreet rfl rfl (Response.parseGreeting_line (Greeting.greet text))
  · rw [Program.Asks.run_eq (Request.analyzeText text).asks_words henv]
    rfl
  · refine call_eq henv hanalyze rfl rfl (TextAnalysis.parse_line fun f => ?_)
    exact Nat.lt_of_le_of_lt (TextAnalysis.count_ofText_le text f) hlength

/-- A text that looks like an option, with a quotation mark, a control character and a character
beyond ASCII, in an environment that asks for log lines in JSON. -/
theorem text_calls_option :
    Environment.IsValid ⟨some "json", none⟩ ∧
      '\x00' ∉ "--help \"\n\x1b é".toList ∧
      (ofProgram ⟨some "json", none⟩).greet "--help \"\n\x1b é" =
        .ok "Hello from Python, --help \"\n\x1b é!" ∧
      (ofProgram ⟨some "json", none⟩).analyzeText "--help \"\n\x1b é" =
        .ok (TextAnalysis.ofText "--help \"\n\x1b é") := by
  have henv : Environment.IsValid ⟨some "json", none⟩ := by decide
  have htext : '\x00' ∉ "--help \"\n\x1b é".toList := by decide
  obtain ⟨-, hgreet, -, hanalyze⟩ := text_calls henv htext
  exact ⟨henv, htext, hgreet, hanalyze (by decide)⟩

/-! ### Results -/

/-- A result that is read as the value of its literal comes back if this is its own value. -/
theorem eq_iff_of_rel {computed result : Option Binary64}
    (h : Option.Rel (fun z w => z.jsonLiteral.float = .ok w) computed result) :
    result = computed ↔ ∀ z ∈ computed, z.jsonLiteral.float = .ok z := by
  cases h with
  | none => exact iff_of_true rfl nofun
  | @some z w hz =>
    constructor
    · rintro ⟨⟩ _ ⟨⟩
      exact hz
    · intro hself
      rw [hself z rfl] at hz
      cases hz
      rfl

section Calculate

variable {operation : String} {x y : Binary64}

/-- What the client returns for a calculation: no result for none, and for a result the value of its
literal. -/
theorem exists_calculate_eq (henv : env.IsValid) (h : '\x00' ∉ operation.toList)
    (hx : ¬x.IsNaN) (hy : ¬y.IsNaN) :
    ∃ result, (ofProgram env).calculate operation x y = .ok result ∧
      Option.Rel (fun z w => z.jsonLiteral.float = .ok w) (OneShot.calculate operation x y)
        result := by
  have hsend : Sendable (.calculate operation x y) := by
    refine sendable_of_operands (List.forall_mem_cons.2 ⟨h, ?_⟩)
    exact List.forall_mem_cons.2
      ⟨x.zero_notMem_text, List.forall_mem_singleton.2 y.zero_notMem_text⟩
  have hread : (Request.calculate operation x y).reread = .ok (.calculate operation x y) := by
    rw [Request.reread, Binary64.reread_eq_self hx, Binary64.reread_eq_self hy]
  obtain ⟨result, hparse, hrel⟩ :=
    Response.exists_parseCalculation_line fun z => @isFinite_of_mem_calculate operation x y z
  exact ⟨result, call_eq henv hsend hread rfl hparse, hrel⟩

/-- **The results that come back.** A calculation never fails, and the client returns no result
exactly if there is none. The result that it returns is the one that was computed, bit by bit,
exactly if the quick computation of the value of its literal gives it again. -/
theorem calculate_eq_iff (henv : env.IsValid) (h : '\x00' ∉ operation.toList)
    (hx : ¬x.IsNaN) (hy : ¬y.IsNaN) :
    ∃ result, (ofProgram env).calculate operation x y = .ok result ∧
      (result = none ↔ OneShot.calculate operation x y = none) ∧
      (result = OneShot.calculate operation x y ↔
        ∀ z ∈ OneShot.calculate operation x y, z.jsonLiteral.float = .ok z) := by
  obtain ⟨result, hresult, hrel⟩ := exists_calculate_eq henv h hx hy
  refine ⟨result, hresult, ?_, eq_iff_of_rel hrel⟩
  generalize OneShot.calculate operation x y = computed at hrel ⊢
  cases hrel with
  | none => exact Iff.rfl
  | some => exact iff_of_false nofun nofun

/-- One half and one quarter. -/
theorem calculate_add_quarter :
    Environment.empty.IsValid ∧ '\x00' ∉ "add".toList ∧
      ¬(Binary64.ofBits 0x3FE0000000000000).IsNaN ∧ ¬(Binary64.ofBits 0x3FD0000000000000).IsNaN ∧
      (ofProgram .empty).calculate "add" (.ofBits 0x3FE0000000000000)
        (.ofBits 0x3FD0000000000000) = .ok (some (.ofBits 0x3FE8000000000000)) := by
  have henv : Environment.empty.IsValid := by decide
  have hadd : '\x00' ∉ "add".toList := by decide
  have hx : ¬(Binary64.ofBits 0x3FE0000000000000).IsNaN := by decide
  have hy : ¬(Binary64.ofBits 0x3FD0000000000000).IsNaN := by decide
  have hsum : OneShot.calculate "add" (.ofBits 0x3FE0000000000000) (.ofBits 0x3FD0000000000000) =
      some (.ofBits 0x3FE8000000000000) := by
    decide +kernel
  have hself : (Binary64.ofBits 0x3FE8000000000000).jsonLiteral.float =
      .ok (.ofBits 0x3FE8000000000000) := by
    decide +kernel
  obtain ⟨result, hresult, -, heq⟩ := calculate_eq_iff henv hadd hx hy
  rw [hsum] at heq
  refine ⟨henv, hadd, hx, hy, hresult.trans (congrArg Except.ok (heq.2 ?_))⟩
  rintro _ ⟨⟩
  exact hself

/-- The largest odd number that is exact, with zero added to it. The client returns the number
below. -/
theorem calculate_ne :
    OneShot.calculate "add" (.ofBits 0x433FFFFFFFFFFFFF) (.zero false) =
        some (.ofBits 0x433FFFFFFFFFFFFF) ∧
      (Client.mk .program []).calculate "add" (.ofBits 0x433FFFFFFFFFFFFF) (.zero false) =
        .ok (some (.ofBits 0x433FFFFFFFFFFFFE)) ∧
      (Client.mk .program []).calculate "add" (.ofBits 0x433FFFFFFFFFFFFF) (.zero false) ≠
        .ok (OneShot.calculate "add" (.ofBits 0x433FFFFFFFFFFFFF) (.zero false)) := by
  have hsum : OneShot.calculate "add" (.ofBits 0x433FFFFFFFFFFFFF) (.zero false) =
      some (.ofBits 0x433FFFFFFFFFFFFF) := by
    decide +kernel
  have hvalue : (Binary64.ofBits 0x433FFFFFFFFFFFFF).jsonLiteral.float =
      .ok (.ofBits 0x433FFFFFFFFFFFFE) := by
    decide +kernel
  obtain ⟨result, hresult, hrel⟩ := @exists_calculate_eq .empty "add"
    (.ofBits 0x433FFFFFFFFFFFFF) (.zero false) nofun (by decide) (by decide) (by decide)
  have hread : result = some (.ofBits 0x433FFFFFFFFFFFFE) := by
    rw [hsum] at hrel
    cases hrel with
    | some hw =>
      rw [hvalue] at hw
      cases hw
      rfl
  rw [ofProgram_empty, hread] at hresult
  refine ⟨hsum, hresult, fun hself => ?_⟩
  rw [hsum] at hself
  exact absurd (hself.symm.trans hresult) (by decide +kernel)

/-- Results with short decimals come back. -/
theorem calculate_of_isShort (henv : env.IsValid) (h : '\x00' ∉ operation.toList)
    (hx : ¬x.IsNaN) (hy : ¬y.IsNaN)
    (hshort : ∀ z ∈ OneShot.calculate operation x y, z.IsShort) :
    (ofProgram env).calculate operation x y = .ok (OneShot.calculate operation x y) := by
  obtain ⟨result, hresult, hrel⟩ := exists_calculate_eq henv h hx hy
  refine hresult.trans (congrArg Except.ok ((eq_iff_of_rel hrel).2 fun z hz => ?_))
  exact Binary64.float_jsonLiteral_of_isShort (isFinite_of_mem_calculate hz) (hshort z hz)

end Calculate

end Client

end OneShot
