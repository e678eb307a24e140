import OneShot.Proofs.Request.Json

/-!
# The order of the members of a request

A request is read member by member, and the operands are read in another way when they come first:
they are put aside as a value, which is the narrower way. A member that is skipped when the command
is known may hold a number that is out of range, a string that is no text, or more brackets than a
value may have; none of this can be put aside. So a request whose operands come first can be put the
other way round, `parse_commandFirst`, but not always back.

The two members are any JSON texts, and each of them is taken as a whole or not at all. What is
known of them is therefore the same in either order.

## Main definitions

* `pairBytes` — two members as they stand behind the opening brace

## Main results

* `exists_of_argsFirst` — what is known when a request with its operands first was read
* `parse_commandFirst` — such a request can be read the other way round
-/

namespace OneShot

open Json

namespace Request

variable {draft draft' : Draft} {value : Value} {command : Command} {request : Request}
  {first second args name : List Char} {key key' : String} {tail t : Bytes}

/-! ### Members -/

/-- Operands that come first are put aside. -/
theorem run_args_iff :
    (memberReader .empty).run (memberBytes "args" args ++ tail) = .ok (draft, t) ↔
      ∃ value, (Value.reader (maxDepth - 1)).run (Utf8.ofChars args ++ tail) = .ok (value, t) ∧
        .buffered value = draft := by
  rw [run_memberReader_args, readOperands, readColon_cons]
  dsimp only [Except.bind]
  rw [map_eq_ok]
  constructor
  · rintro ⟨⟨value, t⟩, hvalue, heq⟩
    cases heq
    exact ⟨value, hvalue, rfl⟩
  · rintro ⟨value, hvalue, rfl⟩
    exact ⟨_, hvalue, rfl⟩

/-- With the command it is settled what operands mean that were put aside. -/
theorem run_command_buffered_iff :
    (memberReader (.buffered value)).run (memberBytes "command" name ++ tail) = .ok (draft, t) ↔
      ∃ command, (tagReader Command.ofName?).run (Utf8.ofChars name ++ tail) = .ok (command, t) ∧
        ∃ request, command.schema.ofValue value = .ok request ∧ .complete request = draft := by
  rw [run_memberReader_command, readCommand]
  dsimp only
  rw [readColon_cons]
  change (readTag Command.ofName? _).bind _ = _ ↔ _
  rw [bind_eq_ok]
  constructor
  · rintro ⟨⟨command, t⟩, hcommand, h⟩
    dsimp only at h
    split at h
    · rename_i request hrequest
      cases h
      exact ⟨command, hcommand, request, hrequest, rfl⟩
    · cases h
  · rintro ⟨command, hcommand, request, hrequest, rfl⟩
    refine ⟨(command, t), hcommand, ?_⟩
    dsimp only
    rw [hrequest]

theorem args_allOrNothing (h : IsText args) :
    (memberReader .empty).AllOrNothing (memberBytes "args" args) :=
  (Value.reader_allOrNothing h).of_run fun _ _ _ => run_args_iff

theorem command_allOrNothing (h : IsText name) :
    (memberReader (.buffered value)).AllOrNothing (memberBytes "command" name) :=
  ((tagReader_types Command.ofName? 0).allOrNothing h).of_run fun _ _ _ => run_command_buffered_iff

/-- A command that comes first. -/
theorem command_covers (h : (tagReader Command.ofName?).Covers (Utf8.ofChars name) command) :
    (memberReader .empty).Covers (memberBytes "command" name) (.named command) := by
  refine h.of_run fun tail t hread => ?_
  rw [run_memberReader_command, readCommand]
  dsimp only
  rw [readColon_cons]
  exact map_eq_ok.2 ⟨_, hread, rfl⟩

/-- Operands that can be taken from a value are read right away if the command is known. -/
theorem args_covers (h : (Value.reader (maxDepth - 1)).Covers (Utf8.ofChars args) value)
    (hrequest : command.schema.ofValue value = .ok request) :
    (memberReader (.named command)).Covers (memberBytes "args" args) (.complete request) := by
  refine h.of_run fun tail t hread => ?_
  have hfollows := command.schema_follows (maxDepth - 3)
  rw [run_memberReader_args, readOperands, readColon_cons]
  exact map_eq_ok.2 ⟨_, ValueSchema.read_of_value hfollows hread hrequest, rfl⟩

/-! ### Two members -/

/-- Two members as they stand behind the opening brace, up to the closing one. -/
def pairBytes (key key' : String) (first second : List Char) : Bytes :=
  Bracket.brace.lead ++ memberBytes key first ++
    byte ',' :: (Bracket.brace.lead ++ memberBytes key' second ++ [Bracket.brace.closing])

theorem next_member (key : String) (text : List Char) (rest : Bytes) :
    Bracket.brace.next (byte ',' :: (Bracket.brace.lead ++ memberBytes key text ++ rest)) =
      .ok (.item (memberBytes key text ++ rest)) := by
  have hadmits : Bracket.brace.Admits (memberBytes key text) := trivial
  exact Bracket.next_item hadmits rest

theorem series_pairBytes (key key' : String) (first second : List Char) :
    series .brace memberReader draft (pairBytes key key' first second) =
      seriesFrom .brace memberReader draft (memberBytes key first ++
        byte ',' :: (Bracket.brace.lead ++ memberBytes key' second ++
          [Bracket.brace.closing])) := by
  have hadmits : Bracket.brace.Admits (memberBytes key first) := trivial
  rw [series_eq, pairBytes, Bracket.first_item hadmits]
  rfl

/-- What is known when a request with its operands first was read: the value of the operands, the
command, and that they go together. -/
theorem exists_of_argsFirst (hargs : IsText args) (hname : IsText name) {rest : Bytes}
    (h : readObject (pairBytes "args" "command" args name) = .ok (request, rest)) :
    ∃ value command, (Value.reader (maxDepth - 1)).Covers (Utf8.ofChars args) value ∧
      (tagReader Command.ofName?).Covers (Utf8.ofChars name) command ∧
        command.schema.ofValue value = .ok request := by
  obtain ⟨⟨draft, t⟩, hseries, hbuild⟩ := bind_eq_ok.1 h
  rw [mapError_eq_ok, series_pairBytes, (args_allOrNothing hargs).seriesFrom_eq_ok_iff
    (next_member _ _ _)] at hseries
  obtain ⟨draft', hfirst, hsecond⟩ := hseries
  obtain ⟨value, hvalue, rfl⟩ := ((Value.reader_allOrNothing hargs).covers_iff_of_run
    fun _ _ _ => run_args_iff).1 hfirst
  rw [seriesBehind, (command_allOrNothing hname).seriesFrom_eq_ok_iff
    (Bracket.next_close .brace [])] at hsecond
  obtain ⟨draft'', hcommand, hclose⟩ := hsecond
  obtain ⟨command, hname, request', hrequest, rfl⟩ :=
    (((tagReader_types Command.ofName? 0).allOrNothing hname).covers_iff_of_run
      fun _ _ _ => run_command_buffered_iff).1 hcommand
  cases hclose
  cases hbuild
  exact ⟨value, command, hvalue, hname, hrequest⟩

/-- The command and the operands that go with it, read in this order. -/
theorem readObject_commandFirst
    (hname : (tagReader Command.ofName?).Covers (Utf8.ofChars name) command)
    (hvalue : (Value.reader (maxDepth - 1)).Covers (Utf8.ofChars args) value)
    (hrequest : command.schema.ofValue value = .ok request) :
    readObject (pairBytes "command" "args" name args) = .ok (request, []) := by
  rw [readObject, series_pairBytes, (command_covers hname).seriesFrom_eq
    (next_member _ _ _), seriesBehind,
    (args_covers hvalue hrequest).seriesFrom_eq (Bracket.next_close .brace [])]
  rfl

/-! ### Requests -/

theorem parse_pairBytes (s : Bytes) :
    parse (byte '{' :: s) = (readObject s).bind finish := by
  rw [parse, document, run_reader_brace]

theorem encode_argsFirst (args command : String) :
    Utf8.encode ("\x7b\"args\":" ++ args ++ ",\"command\":" ++ command ++ "\x7d") =
      byte '{' :: pairBytes "args" "command" args.toList command.toList := by
  have hargs : Utf8.encode args = Utf8.ofChars args.toList := Utf8.encode_eq_ofChars_iff.2 rfl
  have hcommand : Utf8.encode command = Utf8.ofChars command.toList :=
    Utf8.encode_eq_ofChars_iff.2 rfl
  simp only [Utf8.encode_append, hargs, hcommand, List.append_assoc]
  rfl

theorem encode_commandFirst (args command : String) :
    Utf8.encode ("\x7b\"command\":" ++ command ++ ",\"args\":" ++ args ++ "\x7d") =
      byte '{' :: pairBytes "command" "args" command.toList args.toList := by
  have hargs : Utf8.encode args = Utf8.ofChars args.toList := Utf8.encode_eq_ofChars_iff.2 rfl
  have hcommand : Utf8.encode command = Utf8.ofChars command.toList :=
    Utf8.encode_eq_ofChars_iff.2 rfl
  simp only [Utf8.encode_append, hargs, hcommand, List.append_assoc]
  rfl

/-- **A request that is read with its operands first is read with its command first**, as the same
request. The command and the operands may be any JSON texts, and the members of the operands may
have any names and occur any number of times. -/
theorem parse_commandFirst {args command : String} (hargs : IsText args.toList)
    (hcommand : IsText command.toList)
    (h : parse (Utf8.encode ("\x7b\"args\":" ++ args ++ ",\"command\":" ++ command ++ "\x7d")) =
      .ok request) :
    parse (Utf8.encode ("\x7b\"command\":" ++ command ++ ",\"args\":" ++ args ++ "\x7d")) =
      .ok request := by
  rw [encode_argsFirst, parse_pairBytes] at h
  obtain ⟨⟨request', rest⟩, hread, hfinish⟩ := bind_eq_ok.1 h
  obtain ⟨value, command, hvalue, hname, hrequest⟩ := exists_of_argsFirst hargs hcommand hread
  rw [encode_commandFirst, parse_pairBytes, readObject_commandFirst hname hvalue hrequest]
  rw [finish] at hfinish
  split at hfinish
  · cases hfinish
    rfl
  · cases hfinish

/-- Operands with a member that is skipped, and a command that is written as an object. -/
theorem parse_commandFirst_skipped :
    IsText "\x7b\"unit\":[null,-5],\"text\":\"a\"\x7d".toList ∧
      IsText "\x7b\"analyze_text\":null\x7d".toList ∧
      parse (Utf8.encode ("\x7b\"args\":" ++ "\x7b\"unit\":[null,-5],\"text\":\"a\"\x7d" ++
        ",\"command\":" ++ "\x7b\"analyze_text\":null\x7d" ++ "\x7d")) = .ok (.analyzeText "a") ∧
      parse (Utf8.encode ("\x7b\"command\":" ++ "\x7b\"analyze_text\":null\x7d" ++ ",\"args\":" ++
        "\x7b\"unit\":[null,-5],\"text\":\"a\"\x7d" ++ "\x7d")) = .ok (.analyzeText "a") := by
  have hargs := Value.isText_write (.object [("unit", .array [.null, .number (.integer (-5))]),
    ("text", .string "a")])
  have hcommand := Value.isText_write (.object [("analyze_text", .null)])
  have hdecode : parse (Utf8.encode ("\x7b\"args\":" ++
      "\x7b\"unit\":[null,-5],\"text\":\"a\"\x7d" ++ ",\"command\":" ++
      "\x7b\"analyze_text\":null\x7d" ++ "\x7d")) = .ok (.analyzeText "a") := by
    decide +kernel
  exact ⟨hargs, hcommand, hdecode, parse_commandFirst hargs hcommand hdecode⟩

end Request

end OneShot
