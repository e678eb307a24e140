import OneShot.Proofs.Client
import OneShot.Proofs.Json.Extension
import OneShot.Proofs.Response.Order

/-!
# One value per output

A client takes the whole output of a helper for one value. Whatever the helper, an output from which
a call has its result may have white space added around it, and it becomes undecodable with anything
else on further lines, `Client.calls_takeOneValue`: no line behind the result is ever lost without
notice. It does not matter what kind of output it is; all readers of responses are `Reader.IsLocal`.

## Main definitions

* `Client.Receives` — the output of a helper that ended well
* `Client.TakesOneValue` — how a call deals with outputs that go on

## Main results

* `Client.calls_takeOneValue` — the four calls
-/

namespace OneShot

open Json

namespace Client

/-- The helper answers a request with this output and ends well. -/
def Receives (client : Client) (request : Request) (output : Bytes) : Prop :=
  client.output request.words = .ok output

/-- If a call has a result from some output, it has the same result with white space around the
output, and with anything else on further lines the output cannot be decoded. -/
def TakesOneValue {α : Type} (request : Request) (call : Client → Except CallError α) : Prop :=
  ∀ (client client' : Client) (output : Bytes) (a : α),
    client.Receives request output → call client = .ok a →
      (∀ before after : Bytes, (∀ b ∈ before, isSpace b = true) → (∀ b ∈ after, isSpace b = true) →
        client'.Receives request (before ++ (output ++ after)) → call client' = .ok a) ∧
      ∀ more : Bytes, (∃ b ∈ more, isSpace b = false) →
        client'.Receives request (output ++ byte '\n' :: more) →
          ∃ fault, call client' = .error (.undecodable (output ++ byte '\n' :: more) fault)

/-- What a call makes of an output. -/
theorem call_eq_mapError {α : Type} {client : Client} {request : Request} {output : Bytes}
    (h : client.Receives request output) (read : Bytes → Except Fault α) :
    client.call read request = (read output).mapError (.undecodable output) := by
  rw [call, show client.output request.words = .ok output from h]
  rfl

theorem call_takesOneValue {α : Type} {r : Reader α} (hr : r.IsLocal) (request : Request) :
    TakesOneValue request fun client => client.call (document r) request := by
  intro client client' output a houtput ha
  dsimp only at ha
  rw [call_eq_mapError houtput, mapError_eq_ok] at ha
  refine ⟨fun before after hbefore hafter houtput' => ?_, fun more hmore houtput' => ?_⟩
  · dsimp only
    rw [call_eq_mapError houtput', hr.document_spaces ha hbefore hafter]
    rfl
  · obtain ⟨fault, hfault⟩ := hr.document_line ha hmore
    refine ⟨fault, ?_⟩
    dsimp only
    rw [call_eq_mapError houtput', hfault]
    rfl

/-- **Every call takes exactly one value.** -/
theorem calls_takeOneValue :
    (∀ name, TakesOneValue (.greet name) fun client => client.greet name) ∧
    (∀ operation x y, TakesOneValue (.calculate operation x y)
      fun client => client.calculate operation x y) ∧
    (∀ numbers, TakesOneValue (.processList numbers) fun client => client.processList numbers) ∧
    ∀ text, TakesOneValue (.analyzeText text) fun client => client.analyzeText text :=
  ⟨fun _ => call_takesOneValue (textReader_types 0).isLocal _,
    fun _ _ _ => call_takesOneValue (optionalFloatReader_types 0).isLocal _,
    fun _ => call_takesOneValue Summary.schema_regular.isLocal _,
    fun _ => call_takesOneValue TextAnalysis.schema_regular.isLocal _⟩

/-- The client of a helper that prints the same whatever it is asked. -/
def printing (output : Bytes) : Client := ⟨⟨[], fun _ => .ok ⟨some 0, output, []⟩⟩, []⟩

theorem printing_receives (request : Request) (h : ∀ word ∈ request.words, 0 ∉ Utf8.encode word)
    (output : Bytes) : (printing output).Receives request output := by
  have hrun : (printing output).helper.run ((printing output).leading ++
      request.words.map Utf8.encode) = .ok ⟨some 0, output, []⟩ := rfl
  have hzero : ∀ word ∈ request.words.map Utf8.encode, 0 ∉ word := by
    rintro _ hword
    obtain ⟨word, hmem, rfl⟩ := List.mem_map.1 hword
    exact h word hmem
  refine output_of_run ?_ hrun rfl
  exact List.forall_mem_cons.2 ⟨List.not_mem_nil, hzero⟩

/-- The bytes of a summary with a member that is skipped and holds a byte that is no text. -/
def summaryOfOne : Bytes :=
  Utf8.encode "\x7b\"sum\":1,\"unit\":\"" ++
    0xFF :: Utf8.encode "\",\"average\":1,\"sorted\":[1]\x7d"

/-- A greeting with white space around it, the result of a calculation with a further line, and a
summary with both. -/
theorem calls_takeOneValue_printing :
    (printing (Utf8.encode "\t\"a\" \n")).greet "b" = .ok "a" ∧
      (∃ fault, (printing (Utf8.encode "null\n \n0")).calculate "add" (.zero false) (.zero false) =
        .error (.undecodable (Utf8.encode "null\n \n0") fault)) ∧
      (printing (summaryOfOne ++ [byte '\n'])).processList [.int 1] =
        .ok ⟨.int 1, .int 1, none, none, [.int 1]⟩ ∧
      ∃ fault, (printing (summaryOfOne ++ byte '\n' :: summaryOfOne)).processList [.int 1] =
        .error (.undecodable (summaryOfOne ++ byte '\n' :: summaryOfOne) fault) := by
  obtain ⟨hgreet, hcalculate, hsummary, -⟩ := calls_takeOneValue
  have hgreeting : (printing (Utf8.encode "\"a\"")).greet "b" = .ok "a" := by decide +kernel
  have hnull : (printing (Utf8.encode "null")).calculate "add" (.zero false) (.zero false) =
      .ok none := by
    decide +kernel
  have hone : (printing summaryOfOne).processList [.int 1] =
      .ok ⟨.int 1, .int 1, none, none, [.int 1]⟩ := by
    decide +kernel
  have hb := printing_receives (.greet "b") (by decide)
  have hadd := printing_receives (.calculate "add" (.zero false) (.zero false)) (by decide +kernel)
  have hlist := printing_receives (.processList [.int 1]) (by decide +kernel)
  refine ⟨?_, ?_, ?_, ?_⟩
  · exact (hgreet "b" _ _ _ _ (hb _) hgreeting).1 [byte '\t'] [byte ' ', byte '\n']
      (List.forall_mem_singleton.2 rfl)
      (List.forall_mem_cons.2 ⟨rfl, List.forall_mem_singleton.2 rfl⟩) (hb _)
  · exact (hcalculate "add" _ _ _ _ _ _ (hadd _) hnull).2 (Utf8.encode " \n0")
      ⟨byte '0', by decide, by decide⟩ (hadd _)
  · exact (hsummary [.int 1] _ _ _ _ (hlist _) hone).1 [] [byte '\n'] nofun
      (List.forall_mem_singleton.2 rfl) (hlist _)
  · exact (hsummary [.int 1] _ _ _ _ (hlist _) hone).2 summaryOfOne
      ⟨byte '1', by decide, by decide⟩ (hlist _)

end Client

end OneShot
