import OneShot.Json.Record
import OneShot.Json.Tag
import OneShot.Request.Basic

/-!
# Reading requests

A request in JSON is an object with the members `command` and `args`, or a list of the two. In an
object the command is any tag, in a list it is a name. Members of other names are skipped. The
operands are always an object, a record that depends on the command.

The members may come in either order. If the command is known first, the operands are read by the
format of its record right away. If the operands come first, they are read as any value, and what
they mean is settled when the command is known.

## Main definitions

* `Command.schema` — the operands of each command as a record
* `Schema.ofValue` — a record from a value that has been read already
* `Request.reader`, `Request.parse` — a request, and the request that a text writes
-/

namespace OneShot

open Json

/-! ### Operands -/

/-- A record format whose contents can also be taken from values that have been read already. -/
structure Json.ValueSchema (α : Type) extends Schema α where
  ofContent : (f : Field) → Value → Except Cause (Content f)

namespace Json.ValueSchema

variable {α : Type}

/-- Enters the members of an object into a draft. -/
def enter (schema : ValueSchema α) (draft : schema.Draft) :
    List (String × Value) → Except Cause schema.Draft
  | [] => .ok draft
  | (key, value) :: more =>
    match schema.field? key with
    | some f =>
      if (draft f).isSome then .error (.duplicateField key)
      else (schema.ofContent f value).bind fun content => schema.enter (draft.set f content) more
    | none => schema.enter draft more

/-- The record that a value is. -/
def ofValue (schema : ValueSchema α) : Value → Except Cause α
  | .object members => (schema.enter schema.blank members).bind schema.build
  | value => .error (value.unexpected schema.title)

/-- Takes a record that is written as an object. -/
def read (schema : ValueSchema α) (s : Bytes) : Except Fault (α × Bytes) :=
  match skipSpace s with
  | [] => .error (.ahead .endInValue [])
  | b :: rest =>
    if b = byte '{' then schema.readObject rest
    else readTyped schema.title schema.ofValue (b :: rest)

theorem length_read_lt {schema : ValueSchema α} {s rest : Bytes} {a : α}
    (h : schema.read s = .ok (a, rest)) : rest.length < s.length := by
  have hs := length_skipSpace_le s
  unfold read at h
  split at h
  · simp at h
  · rename_i b r heq
    rw [heq] at hs
    simp only [List.length_cons] at hs
    split at h
    · have := Schema.length_readObject_le h
      omega
    · have := length_readTyped_lt h
      simp only [List.length_cons] at this
      omega

end Json.ValueSchema

namespace Request

/-- The format of a record with a single field. -/
def singleField {α : Type} (name : String) (content : Reader α)
    (ofContent : Value → Except Cause α) (build : α → Request) : ValueSchema Request where
  Field := Unit
  fields := [()]
  name _ := name
  Content _ := α
  content _ := content
  title := "an object"
  build draft := (require name (draft ())).map build
  ofContent _ := ofContent

/-- The operands of a calculation. -/
inductive CalculateField where
  | operation
  | x
  | y
deriving DecidableEq

namespace CalculateField

def name : CalculateField → String
  | operation => "operation"
  | x => "a"
  | y => "b"

abbrev Content : CalculateField → Type
  | operation => String
  | x | y => Binary64

def reader : (f : CalculateField) → Reader f.Content
  | operation => textReader
  | x | y => floatReader

def ofValue : (f : CalculateField) → Value → Except Cause f.Content
  | operation => asText
  | x | y => asFloat

end CalculateField

/-- The format of the operands of a calculation. -/
def calculateSchema : ValueSchema Request where
  Field := CalculateField
  fields := [.operation, .x, .y]
  name := CalculateField.name
  Content := CalculateField.Content
  content := CalculateField.reader
  title := "an object"
  build draft := do
    let operation ← require "operation" (draft .operation)
    let x ← require "a" (draft .x)
    let y ← require "b" (draft .y)
    .ok (.calculate operation x y)
  ofContent := CalculateField.ofValue

end Request

/-- The format of the operands of a command. In the list of numbers three brackets are open. -/
def Command.schema : Command → ValueSchema Request
  | greet => Request.singleField "name" textReader asText .greet
  | calculate => Request.calculateSchema
  | processList =>
    Request.singleField "numbers" (Number.listReader (maxDepth - 3)) Number.listOfValue .processList
  | analyzeText => Request.singleField "text" textReader asText .analyzeText

namespace Request

/-! ### Requests -/

/-- What is known of a request while its members are read. -/
inductive Draft where
  | empty
  | named (command : Command)
  | buffered (operands : Value)
  | complete (request : Request)

/-- Takes the command of a request, and settles what operands that have been read before mean. -/
def readCommand (draft : Draft) (s : Bytes) : Except Fault (Draft × Bytes) :=
  let command (s : Bytes) := (readColon s).bind (readTag Command.ofName?)
  match draft with
  | .empty => (command s).map fun p => (.named p.1, p.2)
  | .buffered operands => (command s).bind fun (command, s) =>
    match command.schema.ofValue operands with
    | .ok request => .ok (.complete request, s)
    | .error cause => .error (.float cause s)
  | .named _ | .complete _ => .error (.float (.duplicateField "command") s)

/-- Takes the operands of a request: by the format of the command if that is known, and otherwise
as any value. -/
def readOperands (draft : Draft) (s : Bytes) : Except Fault (Draft × Bytes) :=
  match draft with
  | .empty => (readColon s).bind fun s =>
    ((Value.reader (maxDepth - 1)).run s).map fun p => (.buffered p.1, p.2)
  | .named command => (readColon s).bind fun s =>
    (command.schema.read s).map fun p => (.complete p.1, p.2)
  | .buffered _ | .complete _ => .error (.float (.duplicateField "args") s)

/-- Takes a member of a request. -/
def readMember (draft : Draft) (s : Bytes) : Except Fault (Draft × Bytes) :=
  (Quoted.read s).bind fun (key, s) =>
    if key = "command" then readCommand draft s
    else if key = "args" then readOperands draft s
    else (readColon s).bind fun s => (skipValue s).map fun s => (draft, s)

/-- The request, when all its members are known. -/
def Draft.build : Draft → Except Cause Request
  | empty => .error (.missingField "command")
  | named _ => .error (.missingField "args")
  | buffered _ => .error (.missingField "command")
  | complete request => .ok request

theorem length_readCommand_lt {draft draft' : Draft} {s rest : Bytes}
    (h : readCommand draft s = .ok (draft', rest)) : rest.length < s.length := by
  unfold readCommand at h
  dsimp only at h
  split at h
  · obtain ⟨⟨command, t⟩, ht, heq⟩ := map_eq_ok.1 h
    obtain ⟨s1, h1, h2⟩ := bind_eq_ok.1 ht
    cases heq
    have := length_readColon_le h1
    have := length_readTag_lt h2
    show t.length < s.length
    omega
  · obtain ⟨⟨command, t⟩, ht, h⟩ := bind_eq_ok.1 h
    obtain ⟨s1, h1, h2⟩ := bind_eq_ok.1 ht
    have := length_readColon_le h1
    have := length_readTag_lt h2
    dsimp only at h
    split at h
    · cases h; omega
    · simp at h
  · simp at h
  · simp at h

theorem length_readOperands_lt {draft draft' : Draft} {s rest : Bytes}
    (h : readOperands draft s = .ok (draft', rest)) : rest.length < s.length := by
  unfold readOperands at h
  split at h
  · obtain ⟨s1, h1, h⟩ := bind_eq_ok.1 h
    obtain ⟨⟨value, t⟩, ht, heq⟩ := map_eq_ok.1 h
    cases heq
    have := length_readColon_le h1
    have := (Value.reader _).shortens ht
    show t.length < s.length
    omega
  · obtain ⟨s1, h1, h⟩ := bind_eq_ok.1 h
    obtain ⟨⟨request, t⟩, ht, heq⟩ := map_eq_ok.1 h
    cases heq
    have := length_readColon_le h1
    have := ValueSchema.length_read_lt ht
    show t.length < s.length
    omega
  · simp at h
  · simp at h

theorem length_readMember_lt {draft draft' : Draft} {s rest : Bytes}
    (h : readMember draft s = .ok (draft', rest)) : rest.length < s.length := by
  obtain ⟨⟨key, s1⟩, h1, h⟩ := bind_eq_ok.1 h
  have := Quoted.length_read_lt h1
  dsimp only at h
  split at h
  · have := length_readCommand_lt h
    omega
  · split at h
    · have := length_readOperands_lt h
      omega
    · obtain ⟨s2, h2, h⟩ := bind_eq_ok.1 h
      obtain ⟨s3, h3, heq⟩ := map_eq_ok.1 h
      cases heq
      have := length_readColon_le h2
      have := length_skipFrom_lt h3
      omega

/-- Reads a member into a draft. -/
def memberReader (draft : Draft) : Reader Draft := ⟨readMember draft, length_readMember_lt⟩

/-- Takes a request written as an object, behind the opening brace. -/
def readObject (s : Bytes) : Except Fault (Request × Bytes) :=
  ((series .brace memberReader .empty s).mapError (Fault.settle .brace s)).bind fun (draft, rest) =>
    match draft.build with
    | .ok request => .ok (request, rest)
    | .error cause => .error (.taken cause rest)

/-- What stands in front of the given element of a list, of which there are two. -/
def readTurn (turn : Except Fault Turn) (count : Nat) : Except Fault Bytes :=
  turn.bind fun
    | .close rest => .error (.taken (.wrongLength count "a list of two elements") rest)
    | .item rest => .ok rest

/-- Takes a request written as a list, behind the opening bracket. The command is given by its name
alone here. -/
def readList (s : Bytes) : Except Fault (Request × Bytes) :=
  (readTurn (Bracket.square.first s) 0).bind fun s =>
  (readName Command.ofName? s).bind fun (command, s) =>
  (readTurn (Bracket.square.next s) 1).bind fun s =>
  (command.schema.read s).bind fun (request, s) =>
  (Schema.closeList s).map fun s => (request, s)

/-- Takes a request. -/
def read (s : Bytes) : Except Fault (Request × Bytes) :=
  match skipSpace s with
  | [] => .error (.ahead .endInValue [])
  | b :: rest =>
    if b = byte '{' then readObject rest
    else if b = byte '[' then readList rest
    else readTyped "a request" (fun value => .error (value.unexpected "a request")) (b :: rest)

theorem length_readObject_le {s rest : Bytes} {request : Request}
    (h : readObject s = .ok (request, rest)) : rest.length ≤ s.length := by
  obtain ⟨⟨draft, t⟩, ht, h⟩ := bind_eq_ok.1 h
  have := length_series_le (mapError_eq_ok.1 ht)
  dsimp only at h
  split at h
  · cases h; exact this
  · simp at h

theorem readTurn_eq_ok {turn : Except Fault Turn} {count : Nat} {rest : Bytes}
    (h : readTurn turn count = .ok rest) : turn = .ok (.item rest) := by
  obtain ⟨t, rfl, ht⟩ := bind_eq_ok.1 h
  cases t with
  | close r => simp at ht
  | item r => cases ht; rfl

theorem length_readList_le {s rest : Bytes} {request : Request}
    (h : readList s = .ok (request, rest)) : rest.length ≤ s.length := by
  obtain ⟨s1, h1, h⟩ := bind_eq_ok.1 h
  obtain ⟨⟨command, s2⟩, h2, h⟩ := bind_eq_ok.1 h
  obtain ⟨s3, h3, h⟩ := bind_eq_ok.1 h
  obtain ⟨⟨request', s4⟩, h4, h⟩ := bind_eq_ok.1 h
  obtain ⟨s5, h5, heq⟩ := map_eq_ok.1 h
  cases heq
  have l1 : s1.length ≤ s.length := Bracket.length_first_le (readTurn_eq_ok h1)
  have l2 := length_readName_lt h2
  have l3 : s3.length < s2.length := Bracket.length_next_lt (readTurn_eq_ok h3)
  have l4 := ValueSchema.length_read_lt h4
  have l5 := Schema.length_closeList_le h5
  omega

theorem length_read_lt {s rest : Bytes} {request : Request}
    (h : read s = .ok (request, rest)) : rest.length < s.length := by
  have hs := length_skipSpace_le s
  unfold read at h
  split at h
  · simp at h
  · rename_i b r heq
    rw [heq] at hs
    simp only [List.length_cons] at hs
    split at h
    · have := length_readObject_le h
      omega
    · split at h
      · have := length_readList_le h
        omega
      · have := length_readTyped_lt h
        simp only [List.length_cons] at this
        omega

/-- Reads a request. -/
def reader : Reader Request := ⟨read, length_read_lt⟩

/-- The request that a text writes. -/
def parse (s : Bytes) : Except Fault Request := document reader s

end Request

end OneShot
