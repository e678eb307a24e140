import OneShot.Proofs.Json.Written
import OneShot.Proofs.Request.Operands

/-!
# Requests written and read in JSON

A request can be laid out in three ways: as an object with the command in front of the operands, as
an object with the operands in front, and as a list of the two. All of them are read as the request
that was written, but for its floating point numbers, each of which becomes what is read of its own
text.

The operands as they stand in the text can be read as a value, `reader_gives_members`, and all
commands can take them from that value, `ofValue_members`. So they can be taken when they were put
aside, and by `ValueSchema.read_of_value` they can be read right away.

## Main definitions

* `Request.floats`, `Request.mapFloats` — the floating point operands
* `Request.argsFirst`, `Request.asList` — the layouts besides `Request.toValue`

## Main results

* `Request.parse_layouts` — what is read of the layouts of a request
-/

namespace OneShot

open Json

/-! ### Elements -/

theorem Binary64.reread_toValue {x : Binary64} (hx : x.IsFinite) :
    x.toValue.reread = x.rereadJson.toValue :=
  if_pos hx

namespace Number

/-- The floating point number that an element is, if it is one. -/
def floats : Number → List Binary64
  | int _ => []
  | float x => [x]

/-- Changes an element that is a floating point number. -/
def mapFloat (f : Binary64 → Binary64) : Number → Number
  | int value => int value
  | float x => float (f x)

theorem fits_toValue (number : Number) (depth : Nat) : number.toValue.Fits depth := by
  cases number with
  | int value =>
    obtain ⟨hlow, hhigh⟩ := inRange_toInt value
    exact .integer hlow (Int.lt_trans hhigh (by decide))
  | float x => exact .float

theorem reread_toValue {number : Number} (h : ∀ x ∈ number.floats, x.IsFinite) :
    number.toValue.reread = (number.mapFloat Binary64.rereadJson).toValue := by
  cases number with
  | int value => rfl
  | float x => exact Binary64.reread_toValue (h x (List.mem_singleton_self x))

theorem ofValue_toValue (number : Number) : ofValue number.toValue = .ok number := by
  cases number with
  | int value =>
    change Except.ok (ofNumeral (.integer value.toInt)) = _
    rw [ofNumeral, if_pos (inRange_toInt value), Int64.ofInt_toInt]
  | float x => rfl

theorem listOfValue_toValue (numbers : List Number) :
    listOfValue (.array (numbers.map toValue)) = .ok numbers := by
  rw [listOfValue]
  induction numbers with
  | nil => rfl
  | cons number numbers ih =>
    rw [List.map_cons, mapM_cons_eq_ok_iff]
    exact ⟨number, numbers, ofValue_toValue number, ih, rfl⟩

end Number

theorem Command.ofName?_name (command : Command) : ofName? command.name = some command := by
  cases command <;> decide

namespace Request

/-! ### Operands -/

/-- The floating point numbers among the operands. -/
def floats : Request → List Binary64
  | greet _ => []
  | calculate _ x y => [x, y]
  | processList numbers => numbers.flatMap Number.floats
  | analyzeText _ => []

/-- Changes the floating point numbers among the operands. -/
def mapFloats (f : Binary64 → Binary64) : Request → Request
  | greet name => greet name
  | calculate operation x y => calculate operation (f x) (f y)
  | processList numbers => processList (numbers.map (Number.mapFloat f))
  | analyzeText text => analyzeText text

theorem command_mapFloats (f : Binary64 → Binary64) (request : Request) :
    (request.mapFloats f).command = request.command := by
  cases request <;> rfl

/-! ### Layouts -/

/-- A request as an object with the operands in front of the command. -/
def argsFirst (request : Request) : Value :=
  .object
    [("args", .object request.members),
     ("command", .string request.command.name)]

/-- A request as a list of the command and the operands. -/
def asList (request : Request) : Value :=
  .array [.string request.command.name, .object request.members]

/-! ### What is read of the operands -/

/-- In the operands at most two brackets are open. -/
theorem fits_members (request : Request) (depth : Nat) :
    (Value.object request.members).Fits (depth + 2) := by
  refine .object ?_
  cases request with
  | greet name => exact List.forall_mem_singleton.2 .string
  | calculate operation x y =>
    exact List.forall_mem_cons.2 ⟨.string, List.forall_mem_cons.2 ⟨.float,
      List.forall_mem_singleton.2 .float⟩⟩
  | processList numbers =>
    refine List.forall_mem_singleton.2 (.array ?_)
    intro value hvalue
    obtain ⟨number, -, rfl⟩ := List.mem_map.1 hvalue
    exact number.fits_toValue depth
  | analyzeText text => exact List.forall_mem_singleton.2 .string

variable {request : Request}

/-- What is read of the operands are the operands of the request that is read. -/
theorem reread_members (h : ∀ x ∈ request.floats, x.IsFinite) :
    (Value.object request.members).reread =
      .object (request.mapFloats Binary64.rereadJson).members := by
  cases request with
  | greet name => rfl
  | calculate operation x y =>
    have hx : x.IsFinite := h x List.mem_cons_self
    have hy : y.IsFinite := h y (List.mem_cons_of_mem x (List.mem_singleton_self y))
    rw [members, Value.reread, Value.rereadMembers_eq_map, List.map_cons, List.map_cons,
      List.map_cons, Binary64.reread_toValue hx, Binary64.reread_toValue hy]
    rfl
  | processList numbers =>
    have hnumbers : numbers.map (Value.reread ∘ Number.toValue) =
        numbers.map (Number.toValue ∘ Number.mapFloat Binary64.rereadJson) :=
      List.map_congr_left fun number hmem =>
        Number.reread_toValue fun x hx => h x (List.mem_flatMap.2 ⟨number, hmem, hx⟩)
    rw [members, Value.reread, Value.rereadMembers_eq_map, List.map_singleton, Value.reread,
      Value.rereadItems_eq_map, List.map_map, hnumbers, mapFloats, members, List.map_map]
  | analyzeText text => rfl

theorem reader_gives_members (h : ∀ x ∈ request.floats, x.IsFinite) (depth : Nat) :
    (Value.reader (depth + 2)).Gives (Utf8.ofChars (Value.object request.members).write)
      (.ok (.object (request.mapFloats Binary64.rereadJson).members)) := by
  rw [← reread_members h]
  exact Value.reader_gives_write (request.fits_members depth)

/-- **Every command takes its operands** from the value that they make up. -/
theorem ofValue_members (request : Request) :
    request.command.schema.ofValue (.object request.members) = .ok request := by
  cases request with
  | greet name => rfl
  | calculate operation x y => rfl
  | processList numbers =>
    change ((Number.listOfValue (.array (numbers.map Number.toValue))).bind _).bind _ = _
    rw [Number.listOfValue_toValue]
    rfl
  | analyzeText text => rfl

theorem ofValue_reread (request : Request) :
    request.command.schema.ofValue (.object (request.mapFloats Binary64.rereadJson).members) =
      .ok (request.mapFloats Binary64.rereadJson) := by
  have hvalue := ofValue_members (request.mapFloats Binary64.rereadJson)
  rwa [command_mapFloats] at hvalue

/-- The operands read right away. -/
theorem schema_read_members (h : ∀ x ∈ request.floats, x.IsFinite) {rest : Bytes}
    (hrest : Stops rest) :
    request.command.schema.read (Utf8.ofChars (Value.object request.members).write ++ rest) =
      .ok (request.mapFloats Binary64.rereadJson, rest) :=
  ValueSchema.read_of_value (request.command.schema_follows 0)
    (leaves_ok_iff.1 (reader_gives_members h 0 rest hrest)) request.ofValue_reread

/-! ### Members of a request -/

section Members

variable {draft : Draft} {text : List Char}

theorem run_memberReader_command (rest : Bytes) :
    (memberReader draft).run (memberBytes "command" text ++ rest) =
      readCommand draft (byte ':' :: (Utf8.ofChars text ++ rest)) := by
  change readMember draft _ = _
  rw [readMember, Quoted.read_memberBytes]
  rfl

theorem run_memberReader_args (rest : Bytes) :
    (memberReader draft).run (memberBytes "args" text ++ rest) =
      readOperands draft (byte ':' :: (Utf8.ofChars text ++ rest)) := by
  change readMember draft _ = _
  rw [readMember, Quoted.read_memberBytes]
  rfl

end Members

theorem command_gives (command : Command) :
    (memberReader .empty).Gives (memberBytes "command" (Value.string command.name).write)
      (.ok (.named command)) := by
  intro rest _
  rw [run_memberReader_command, readCommand, leaves_ok_iff]
  dsimp only
  rw [readColon_cons]
  dsimp only [Except.bind]
  rw [Value.write, readTag_write command.ofName?_name]
  rfl

theorem args_gives_named (h : ∀ x ∈ request.floats, x.IsFinite) :
    (memberReader (.named request.command)).Gives
      (memberBytes "args" (Value.object request.members).write)
      (.ok (.complete (request.mapFloats Binary64.rereadJson))) := by
  intro rest hrest
  rw [run_memberReader_args, readOperands, leaves_ok_iff, readColon_cons]
  dsimp only [Except.bind]
  rw [schema_read_members h hrest]
  rfl

theorem args_gives (h : ∀ x ∈ request.floats, x.IsFinite) :
    (memberReader .empty).Gives (memberBytes "args" (Value.object request.members).write)
      (.ok (.buffered (.object (request.mapFloats Binary64.rereadJson).members))) := by
  intro rest hrest
  have hvalue := leaves_ok_iff.1 (reader_gives_members h (maxDepth - 3) rest hrest)
  rw [run_memberReader_args, readOperands, leaves_ok_iff, readColon_cons]
  dsimp only [Except.bind]
  rw [show maxDepth - 1 = maxDepth - 3 + 2 from rfl, hvalue]
  rfl

theorem command_gives_buffered (request : Request) :
    (memberReader (.buffered (.object (request.mapFloats Binary64.rereadJson).members))).Gives
      (memberBytes "command" (Value.string request.command.name).write)
      (.ok (.complete (request.mapFloats Binary64.rereadJson))) := by
  intro rest _
  rw [run_memberReader_command, readCommand, leaves_ok_iff]
  dsimp only
  rw [readColon_cons]
  dsimp only [Except.bind]
  rw [Value.write, readTag_write request.command.ofName?_name]
  dsimp only
  rw [request.ofValue_reread]

/-! ### Whole requests -/

theorem run_reader_brace (s : Bytes) : reader.run (byte '{' :: s) = readObject s := by
  change read (byte '{' :: s) = _
  rw [read, Bracket.skipSpace_cons (by decide)]
  exact if_pos rfl

theorem run_reader_square (s : Bytes) : reader.run (byte '[' :: s) = readList s := by
  change read (byte '[' :: s) = _
  rw [read, Bracket.skipSpace_cons (by decide)]
  dsimp only
  rw [if_neg (by decide), if_pos rfl]

/-- A request written as an object with two members. -/
theorem reader_gives_pair {member member' : String × Value} {draft : Draft}
    {result : Request}
    (h : (memberReader .empty).Gives (memberBytes member.1 member.2.write) (.ok draft))
    (h' : (memberReader draft).Gives (memberBytes member'.1 member'.2.write)
      (.ok (.complete result))) :
    reader.Gives (Utf8.ofChars (Value.object [member, member']).write) (.ok result) := by
  intro rest _
  have hseries := @series_pair _ .brace memberReader _ _ _ _ _ trivial trivial h h' rest
  rw [Value.ofChars_write_object, leaves_ok_iff, run_reader_brace, readObject, Bracket.series,
    List.flatMap_singleton, List.append_assoc, List.cons_append, hseries]
  rfl

theorem toValue_gives (h : ∀ x ∈ request.floats, x.IsFinite) :
    reader.Gives (Utf8.ofChars request.toValue.write)
      (.ok (request.mapFloats Binary64.rereadJson)) :=
  reader_gives_pair (command_gives request.command) (args_gives_named h)

theorem argsFirst_gives (h : ∀ x ∈ request.floats, x.IsFinite) :
    reader.Gives (Utf8.ofChars request.argsFirst.write)
      (.ok (request.mapFloats Binary64.rereadJson)) :=
  reader_gives_pair (args_gives h) request.command_gives_buffered

theorem asList_gives (h : ∀ x ∈ request.floats, x.IsFinite) :
    reader.Gives (Utf8.ofChars request.asList.write)
      (.ok (request.mapFloats Binary64.rereadJson)) := by
  intro rest _
  rw [asList, Value.ofChars_write_array, leaves_ok_iff, run_reader_square, readList,
    Bracket.series, List.flatMap_singleton, List.append_assoc,
    Bracket.first_item (Value.admits_write _)]
  dsimp only [readTurn, Except.bind]
  rw [Value.write, List.cons_append,
    readName_write request.command.ofName?_name (stops_comma _)]
  dsimp only [Except.bind]
  rw [Bracket.next_item (Value.admits_write _)]
  dsimp only [readTurn, Except.bind]
  rw [schema_read_members h (stops_closing .square rest)]
  rfl

/-- **What is read of the layouts of a request.** If its floating point numbers are finite, then the
text of each of them can be read, and a request that is laid out in any of the three ways is read as
the same request with these numbers in their place. -/
theorem parse_layouts (h : ∀ x ∈ request.floats, x.IsFinite) :
    (∀ x ∈ request.floats,
      document floatReader (Utf8.encode x.toValue.text) = .ok x.rereadJson) ∧
      ∀ layout ∈ [request.toValue, request.argsFirst, request.asList],
        parse (Utf8.encode layout.text) = .ok (request.mapFloats Binary64.rereadJson) := by
  have hparse {layout : Value} (hlayout : reader.Gives (Utf8.ofChars layout.write)
      (.ok (request.mapFloats Binary64.rereadJson))) :
      parse (Utf8.encode layout.text) = .ok (request.mapFloats Binary64.rereadJson) := by
    have hdocument := document_gives hlayout stops_nil rfl
    rw [List.append_nil, ← Utf8.encode_ofList] at hdocument
    exact (eq_ok_iff_of_mapError hdocument).2 rfl
  refine ⟨fun x hx => x.document_floatReader (h x hx), ?_⟩
  exact List.forall_mem_cons.2 ⟨hparse (toValue_gives h), List.forall_mem_cons.2
    ⟨hparse (argsFirst_gives h), List.forall_mem_singleton.2 (hparse (asList_gives h))⟩⟩

/-- A list of an integer and a short fraction, behind which the command comes. -/
theorem parse_layouts_one_half :
    (∀ x ∈ (processList [.int 1, .float (.ofBits 0x3FE0000000000000)]).floats, x.IsFinite) ∧
      parse (Utf8.encode
        "\x7b\"args\":\x7b\"numbers\":[1,0.5]\x7d,\"command\":\"process_list\"\x7d") =
        .ok (processList [.int 1, .float (.ofBits 0x3FE0000000000000)]) := by
  have hfinite : ∀ x ∈ (processList [.int 1, .float (.ofBits 0x3FE0000000000000)]).floats,
      x.IsFinite := by
    decide +kernel
  have htext : (processList [.int 1, .float (.ofBits 0x3FE0000000000000)]).argsFirst.text =
      "\x7b\"args\":\x7b\"numbers\":[1,0.5]\x7d,\"command\":\"process_list\"\x7d" := by
    decide +kernel
  have hreread : (Binary64.ofBits 0x3FE0000000000000).rereadJson = .ofBits 0x3FE0000000000000 := by
    decide +kernel
  have hparse := (parse_layouts hfinite).2 _ (List.mem_cons_of_mem _ List.mem_cons_self)
  rw [htext, mapFloats, List.map_cons, List.map_singleton, Number.mapFloat, Number.mapFloat,
    hreread] at hparse
  exact ⟨hfinite, hparse⟩

end Request

end OneShot
