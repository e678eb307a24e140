import OneShot.Proofs.Json.Array

/-!
# Values against the grammar

The texts of a value, said without readers: `Value.IsText` follows the value, and the number of
brackets that may be open goes down where one is opened. A number may be spelled as any literal that
is in range and has its value, and a string in any way that spells its characters. The reader of
values takes exactly these texts, `Value.reader_reads`, so a whole input is read as a value exactly
if it is one of the texts of the value with white space around it, `Value.parse_eq_ok_iff`.

The induction is on the depth. What is shown of a value uses the values between its brackets only
through `Reader.Reads`.

The texts of values are JSON texts, but not all JSON texts are: one may open too many brackets, hold
a number that is out of range, or escape a surrogate that is not one of a pair.

## Main definitions

* `Quoted.IsText` — the texts of a string
* `IsMember` — the texts of a member of an object, given those of its value
* `Value.IsText`, `Value.WrittenAs` — the texts of a value, and those with white space around it

## Main results

* `Reader.Reads.member_takes` — members are read exactly if they are spelled out
* `Value.reader_reads` — values are read exactly if they are spelled out
* `Value.parse_eq_ok_iff` — a whole input
* `Value.IsText.isText` — the texts of a value are JSON texts
-/

namespace OneShot.Json

/-! ### Texts -/

/-- The texts of a string. -/
def Quoted.IsText (text : String) (cs : List Char) : Prop :=
  ∃ inner, Quoted.Spelled text.toList inner ∧ cs = '"' :: (inner ++ ['"'])

/-- The texts of a member of an object, given those of its value. -/
def IsMember (Spells : Value → List Char → Prop) (member : String × Value) (cs : List Char) :
    Prop :=
  ∃ key before after value, Quoted.IsText member.1 key ∧ IsSpaces before ∧ IsSpaces after ∧
    Spells member.2 value ∧ cs = key ++ (before ++ ':' :: (after ++ value))

/-- The texts of a value in which at most `depth` brackets are open at the same time. -/
def Value.IsText : (depth : Nat) → Value → List Char → Prop
  | _, .null, cs => cs = "null".toList
  | _, .bool true, cs => cs = "true".toList
  | _, .bool false, cs => cs = "false".toList
  | _, .number value, cs => ∃ literal, Literal.IsText literal cs ∧ literal.outcome = .ok value
  | _, .string text, cs => Quoted.IsText text cs
  | 0, .array _, _ => False
  | 0, .object _, _ => False
  | depth + 1, .array values, cs => Bracket.square.IsSeries (Value.IsText depth) values cs
  | depth + 1, .object members, cs =>
    Bracket.brace.IsSeries (IsMember (Value.IsText depth)) members cs

/-- The texts of a value as a whole input. -/
def Value.WrittenAs (value : Value) (text : String) : Prop :=
  Spaced (Value.IsText maxDepth value) text.toList

/-! ### Members -/

theorem readColon_eq_ok_iff {s rest : Bytes} :
    readColon s = .ok rest ↔ skipSpace s = byte ':' :: rest := by
  rw [readColon]
  cases skipSpace s with
  | nil => constructor <;> intro h <;> cases h
  | cons b t =>
    dsimp only
    rw [ite_error_eq_ok_iff, Except.ok.injEq, List.cons.injEq]

/-- A member is a key, a colon and a value. The quotation mark of the key has been taken. -/
theorem readMember_eq_ok_iff {value : Reader Value} {s rest : Bytes} {key : String} {v : Value} :
    readMember value s = .ok ((key, v), rest) ↔ ∃ inner before t,
      Quoted.Spelled key.toList inner ∧ IsSpaces before ∧ value.run t = .ok (v, rest) ∧
        s = Utf8.ofChars inner ++ byte '"' :: (Utf8.ofChars before ++ byte ':' :: t) := by
  constructor
  · intro h
    obtain ⟨⟨key, s₁⟩, hkey, h₁⟩ := bind_eq_ok.1 h
    obtain ⟨t, hcolon, h₂⟩ := bind_eq_ok.1 h₁
    obtain ⟨⟨v, s₂⟩, hv, heq⟩ := map_eq_ok.1 h₂
    cases heq
    obtain ⟨inner, hinner, rfl⟩ := Quoted.read_eq_ok_iff.1 hkey
    obtain ⟨before, hbefore, hs₁⟩ := exists_spaces s₁
    rw [readColon_eq_ok_iff.1 hcolon] at hs₁
    exact ⟨inner, before, t, hinner, hbefore, hv, by rw [← hs₁]⟩
  · rintro ⟨inner, before, t, hinner, hbefore, hv, rfl⟩
    refine bind_eq_ok.2 ⟨_, Quoted.read_eq_ok_iff.2 ⟨inner, hinner, rfl⟩,
      bind_eq_ok.2 ⟨t, readColon_eq_ok_iff.2 ?_, map_eq_ok.2 ⟨_, hv, rfl⟩⟩⟩
    rw [skipSpace_spaces hbefore]
    exact Bracket.skipSpace_cons (by rfl) t

/-- The bytes of a member, in which the quotation mark with which it begins stands apart. -/
theorem ofChars_member (inner before after value : List Char) :
    Utf8.ofChars ('"' :: (inner ++ ['"']) ++ (before ++ ':' :: (after ++ value))) =
      Bracket.brace.lead ++ (Utf8.ofChars inner ++ byte '"' :: (Utf8.ofChars before ++
        byte ':' :: (Utf8.ofChars after ++ Utf8.ofChars value))) := by
  rw [Utf8.ofChars_append, Quoted.ofChars_quoted, Utf8.ofChars_append,
    Utf8.ofChars_cons (by decide), Utf8.ofChars_append, List.cons_append, List.append_assoc]
  rfl

/-- **Members are read exactly if they are spelled out.** -/
theorem Reader.Reads.member_takes {value : Reader Value} {Spells : Value → List Char → Prop}
    (hvalue : value.Reads Spells) : Bracket.brace.Takes (memberReader value) (IsMember Spells) where
  exists_spelled := by
    rintro s ⟨key, v⟩ rest h
    obtain ⟨inner, before, t, hinner, hbefore, hv, rfl⟩ := readMember_eq_ok_iff.1 h
    obtain ⟨after, cs, hafter, hcs, rfl⟩ := hvalue.exists_spelled hv
    refine ⟨[], _, isSpaces_nil, ⟨_, before, after, cs, ⟨inner, hinner, rfl⟩, hbefore, hafter, hcs,
      rfl⟩, ?_⟩
    rw [ofChars_member]
    simp only [List.append_assoc, List.cons_append]
    rfl
  gives := by
    rintro ⟨key, v⟩ _ ⟨_, before, after, cs, ⟨inner, hinner, rfl⟩, hbefore, hafter, hcs, rfl⟩
    refine ⟨_, ofChars_member inner before after cs, trivial, fun rest hrest => ?_⟩
    have hrun := leaves_ok_iff.1 (hvalue.gives hcs rest hrest)
    rw [← hvalue.skips hafter] at hrun
    refine leaves_ok_iff.2 (readMember_eq_ok_iff.2 ⟨inner, before, _, hinner, hbefore, hrun, ?_⟩)
    simp only [List.append_assoc, List.cons_append]

/-! ### Scalars -/

theorem readWord_eq_ok_iff {word s rest : Bytes} :
    readWord word s = .ok rest ↔ s = word ++ rest := by
  induction word generalizing s with
  | nil => exact ⟨fun h => Except.ok.inj h, fun h => congrArg Except.ok h⟩
  | cons expected word ih =>
    cases s with
    | nil => constructor <;> intro h <;> cases h
    | cons b s => rw [readWord, ite_error_eq_ok_iff, ih, List.cons_append, List.cons.injEq]

namespace Value

variable {depth : Nat} {value : Value} {s rest : Bytes} {cs : List Char}

/-- A scalar that was read is spelled out. -/
theorem exists_isText_of_readScalar {b : UInt8} (h : readScalar b s = .ok (value, rest)) :
    ∃ cs, IsText depth value cs ∧ b :: s = Utf8.ofChars cs ++ rest := by
  rw [readScalar] at h
  split_ifs at h with hn ht hf hnumber hquote
  · obtain ⟨t, hword, heq⟩ := map_eq_ok.1 h
    cases heq
    rw [readWord_eq_ok_iff.1 hword, hn]
    exact ⟨"null".toList, by rw [IsText], rfl⟩
  · obtain ⟨t, hword, heq⟩ := map_eq_ok.1 h
    cases heq
    rw [readWord_eq_ok_iff.1 hword, ht]
    exact ⟨"true".toList, by rw [IsText], rfl⟩
  · obtain ⟨t, hword, heq⟩ := map_eq_ok.1 h
    cases heq
    rw [readWord_eq_ok_iff.1 hword, hf]
    exact ⟨"false".toList, by rw [IsText], rfl⟩
  · obtain ⟨⟨value, t⟩, hread, heq⟩ := map_eq_ok.1 h
    cases heq
    obtain ⟨literal, hliteral, houtcome⟩ := readNumeral_eq_ok_iff.1 hread
    obtain ⟨hwell, cs, hcs, hs⟩ := Literal.exists_spelled_of_read hliteral
    refine ⟨cs, ?_, hs⟩
    rw [IsText]
    exact ⟨literal, ⟨hwell, hcs⟩, houtcome⟩
  · obtain ⟨⟨text, t⟩, hread, heq⟩ := map_eq_ok.1 h
    cases heq
    obtain ⟨inner, hinner, rfl⟩ := Quoted.read_eq_ok_iff.1 hread
    refine ⟨'"' :: (inner ++ ['"']), ?_, ?_⟩
    · rw [IsText]
      exact ⟨inner, hinner, rfl⟩
    · rw [Quoted.ofChars_quoted, hquote, List.cons_append, List.append_assoc]
      rfl

/-- A scalar that is spelled out begins like one and is read. -/
theorem exists_readScalar (hscalar : value.IsScalar) (h : IsText depth value cs) :
    ∃ b t, Utf8.ofChars cs = b :: t ∧
      (isSpace b = false ∧ b ≠ byte '[' ∧ b ≠ byte '{' ∧ b ≠ byte ']') ∧
        ∀ rest, Stops rest → readScalar b (t ++ rest) = .ok (value, rest) := by
  cases value with
  | null =>
    rw [IsText] at h
    subst h
    exact ⟨byte 'n', Utf8.ofChars "ull".toList, by decide, by decide, fun rest _ => rfl⟩
  | bool value =>
    cases value with
    | true =>
      rw [IsText] at h
      subst h
      exact ⟨byte 't', Utf8.ofChars "rue".toList, by decide, by decide, fun rest _ => rfl⟩
    | false =>
      rw [IsText] at h
      subst h
      exact ⟨byte 'f', Utf8.ofChars "alse".toList, by decide, by decide, fun rest _ => rfl⟩
  | number value =>
    rw [IsText] at h
    obtain ⟨literal, hcs, houtcome⟩ := h
    obtain ⟨b, t, hbt, hb⟩ := hcs.exists_head
    obtain ⟨hspace, hsquare, hbrace, hclose, -⟩ := not_starts_other hb
    refine ⟨b, t, hbt, ⟨hspace, hsquare, hbrace, hclose⟩, fun rest hrest => ?_⟩
    have hread := readNumeral_eq_ok_iff.2
      ⟨literal, Literal.read_spelled hcs.1 hcs.2 hrest, houtcome⟩
    rw [hbt] at hread
    exact readScalar_eq_ok_number_iff.2 ⟨hb, hread⟩
  | string text =>
    rw [IsText] at h
    obtain ⟨inner, hinner, rfl⟩ := h
    refine ⟨byte '"', _, Quoted.ofChars_quoted inner, by decide, fun rest _ => ?_⟩
    rw [List.append_assoc]
    exact map_eq_ok.2 ⟨_, Quoted.read_eq_ok_iff.2 ⟨inner, hinner, rfl⟩, rfl⟩
  | array | object => exact hscalar.elim

/-! ### Values -/

/-- Brackets may be opened only down to the bound. -/
theorem exists_succ_of_run (hscalar : ¬value.IsScalar)
    (h : (reader depth).run s = .ok (value, rest)) : ∃ inner, depth = inner + 1 := by
  cases depth with
  | succ inner => exact ⟨inner, rfl⟩
  | zero =>
    change readValue none s = _ at h
    obtain ⟨b, t, -, ⟨-, _, _, ⟨⟩, -⟩ | ⟨-, _, _, ⟨⟩, -⟩ | ⟨-, -, hread⟩⟩ := readValue_eq_ok_iff.1 h
    exact absurd (isScalar_of_readScalar hread) hscalar

theorem exists_succ_of_isText (hscalar : ¬value.IsScalar) (h : IsText depth value cs) :
    ∃ inner, depth = inner + 1 := by
  cases depth with
  | succ inner => exact ⟨inner, rfl⟩
  | zero =>
    cases value with
    | array | object =>
      rw [IsText] at h
      exact h.elim
    | null | bool | number | string => exact absurd trivial hscalar

section Layer

variable (ih : ∀ inner, depth = inner + 1 → (reader inner).Reads (IsText inner))

include ih

/-- A value that was read is spelled out, if those between its brackets are. -/
theorem exists_isText (h : (reader depth).run s = .ok (value, rest)) :
    ∃ cs, IsText depth value cs ∧ skipSpace s = Utf8.ofChars cs ++ rest := by
  by_cases hscalar : value.IsScalar
  · obtain ⟨b, t, hs, -, -, hread⟩ := (run_reader_eq_ok_iff_of_isScalar hscalar).1 h
    rw [hs]
    exact exists_isText_of_readScalar hread
  obtain ⟨inner, rfl⟩ := exists_succ_of_run hscalar h
  cases value with
  | array values =>
    obtain ⟨cs, hcs, hs⟩ :=
      (ih inner rfl).takes.series_iff.1 (run_reader_eq_ok_array_iff.1 h)
    refine ⟨cs, ?_, hs⟩
    rw [IsText]
    exact hcs
  | object members =>
    obtain ⟨cs, hcs, hs⟩ :=
      (ih inner rfl).member_takes.series_iff.1 (run_reader_eq_ok_object_iff.1 h)
    refine ⟨cs, ?_, hs⟩
    rw [IsText]
    exact hcs
  | null | bool | number | string => exact absurd trivial hscalar

/-- A value that is spelled out begins with neither white space nor a closing bracket, and is
read. -/
theorem admits_and_gives (h : IsText depth value cs) :
    Bracket.square.Admits (Utf8.ofChars cs) ∧
      (reader depth).Gives (Utf8.ofChars cs) (.ok value) := by
  by_cases hscalar : value.IsScalar
  · obtain ⟨b, t, hbt, ⟨hspace, hsquare, hbrace, hclose⟩, hread⟩ := exists_readScalar hscalar h
    refine ⟨⟨b, t, hbt, hspace, hclose⟩, fun rest hrest => leaves_ok_iff.2 ?_⟩
    rw [hbt, List.cons_append, run_reader_cons hspace hsquare hbrace]
    exact hread rest hrest
  obtain ⟨inner, rfl⟩ := exists_succ_of_isText hscalar h
  cases value with
  | array values =>
    rw [IsText] at h
    obtain ⟨t, ht⟩ := h.exists_head
    refine ⟨⟨byte '[', t, ht, by decide, by decide⟩, fun rest _ => leaves_ok_iff.2 ?_⟩
    rw [run_reader_eq_ok_array_iff, h.skipSpace_eq]
    exact (ih inner rfl).takes.series_iff.2 ⟨cs, h, rfl⟩
  | object members =>
    rw [IsText] at h
    obtain ⟨t, ht⟩ := h.exists_head
    refine ⟨⟨byte '{', t, ht, by decide, by decide⟩, fun rest _ => leaves_ok_iff.2 ?_⟩
    rw [run_reader_eq_ok_object_iff, h.skipSpace_eq]
    exact (ih inner rfl).member_takes.series_iff.2 ⟨cs, h, rfl⟩
  | null | bool | number | string => exact absurd trivial hscalar

theorem reads_of_inner : (reader depth).Reads (IsText depth) where
  skips hgap s := by
    obtain ⟨inner, hrun⟩ := exists_run_reader depth
    rw [hrun, readValue, readValue, skipSpace_spaces hgap]
  exists_spelled := by
    intro s value rest h
    obtain ⟨before, hbefore, hs⟩ := exists_spaces s
    obtain ⟨cs, hcs, hread⟩ := exists_isText ih h
    rw [hread] at hs
    exact ⟨before, cs, hbefore, hcs, hs⟩
  admits h := (admits_and_gives ih h).1
  gives h := (admits_and_gives ih h).2

end Layer

/-- **Values are read exactly if they are spelled out.** -/
theorem reader_reads (depth : Nat) : (reader depth).Reads (IsText depth) := by
  induction depth with
  | zero => exact reads_of_inner nofun
  | succ depth ih =>
    refine reads_of_inner ?_
    rintro _ ⟨⟩
    exact ih

/-- **A text is read as a value exactly if it is one of the texts of the value.** -/
theorem parse_eq_ok_iff {text : String} :
    Value.parse (Utf8.encode text) = .ok value ↔ value.WrittenAs text := by
  rw [Value.parse, (reader_reads maxDepth).document_iff]
  simp only [Utf8.encode_eq_ofChars_iff, exists_eq_left', WrittenAs]

/-- A text is that of one value at most. -/
theorem WrittenAs.unique {value' : Value} {text : String} (h : value.WrittenAs text)
    (h' : value'.WrittenAs text) : value = value' := by
  rw [← parse_eq_ok_iff] at h h'
  exact Except.ok.inj (h.symm.trans h')

end Value

/-! ### Texts of values are JSON texts -/

namespace Quoted

theorem isHexDigit_toUpper : ∀ n < 16, IsHexDigit (hexChar n).toUpper := by decide

theorem HexDigit.isHexDigit {n : Nat} {c : Char} (h : HexDigit n c) : IsHexDigit c := by
  obtain ⟨hn, rfl | rfl⟩ := h
  · exact isHexDigit_hexChar n hn
  · exact isHexDigit_toUpper n hn

theorem HexNumber.piece {n : Nat} {cs : List Char} (h : HexNumber n cs) :
    Piece ('\\' :: 'u' :: cs) := by
  cases h with
  | mk ha hb hc hd =>
    refine .number ?_
    simp only [List.forall_mem_cons, ha.isHexDigit, hb.isHexDigit, hc.isHexDigit, hd.isHexDigit,
      true_and]
    exact List.forall_mem_nil _

/-- A spelled character is made of pieces, two of them if it is escaped by two surrogates. -/
theorem CharSpelled.exists_pieces {c : Char} {cs : List Char} (h : CharSpelled c cs) :
    ∃ pieces : List (List Char), (∀ piece ∈ pieces, Piece piece) ∧ cs = pieces.flatten := by
  cases h with
  | plain hcontrol hquote hslash =>
    exact ⟨[[c]], List.forall_mem_singleton.2 (.plain hcontrol hquote hslash), rfl⟩
  | escaped h =>
    cases h with
    | short h =>
      have hletter : ∀ p ∈ shortEscapes, p.1 ∈ ['"', '\\', '/', 'b', 'f', 'n', 'r', 't'] := by decide
      exact ⟨[_], List.forall_mem_singleton.2 (.short (hletter _ h)), rfl⟩
    | number h =>
      cases h with
      | single h => exact ⟨[_], List.forall_mem_singleton.2 h.piece, (List.append_nil _).symm⟩
      | pair hhigh hlow =>
        refine ⟨[_, _], List.forall_mem_cons.2 ⟨hhigh.piece,
          List.forall_mem_singleton.2 hlow.piece⟩, ?_⟩
        simp

theorem Spelled.exists_pieces {text cs : List Char} (h : Spelled text cs) :
    ∃ pieces : List (List Char), (∀ piece ∈ pieces, Piece piece) ∧ cs = pieces.flatten := by
  induction h with
  | nil => exact ⟨[], List.forall_mem_nil _, rfl⟩
  | cons hc _ ih =>
    obtain ⟨pieces, hpieces, rfl⟩ := hc.exists_pieces
    obtain ⟨more, hmore, rfl⟩ := ih
    exact ⟨pieces ++ more, List.forall_mem_append.2 ⟨hpieces, hmore⟩, List.flatten_append.symm⟩

theorem IsText.isString {text : String} {cs : List Char} (h : IsText text cs) : IsString cs := by
  obtain ⟨inner, hinner, rfl⟩ := h
  obtain ⟨pieces, hpieces, rfl⟩ := hinner.exists_pieces
  exact ⟨pieces, hpieces, rfl⟩

end Quoted

section Members

variable {Spells : Value → List Char → Prop} (hvalue : ∀ value cs, Spells value cs → IsText cs)

include hvalue

/-- A member falls into its key and its value, to which the white space around them belongs. -/
theorem exists_key_value {member : String × Value} {cs : List Char}
    (h : Spaced (IsMember Spells member) cs) :
    ∃ key value, IsKey key ∧ IsText value ∧ cs = key ++ ':' :: value := by
  obtain ⟨before, _, after, hbefore, ⟨key, gap, gap', value, hkey, hgap, hgap', hspelled, rfl⟩,
    hafter, rfl⟩ := h
  refine ⟨before ++ key ++ gap, gap' ++ value ++ after,
    ⟨before, key, gap, hbefore, hkey.isString, hgap, rfl⟩,
    .spaced hgap' (hvalue _ _ hspelled) hafter, ?_⟩
  simp only [List.append_assoc, List.cons_append]

theorem exists_keys_values {members : List (String × Value)} {items : List (List Char)}
    (h : List.Forall₂ (fun member => Spaced (IsMember Spells member)) members items) :
    ∃ texts : List (List Char × List Char), (∀ text ∈ texts, IsKey text.1) ∧
      (∀ text ∈ texts, IsText text.2) ∧ items = texts.map fun text => text.1 ++ ':' :: text.2 := by
  induction h with
  | nil => exact ⟨[], List.forall_mem_nil _, List.forall_mem_nil _, rfl⟩
  | cons hmember _ ih =>
    obtain ⟨key, value, hkey, htext, rfl⟩ := exists_key_value hvalue hmember
    obtain ⟨texts, hkeys, htexts, rfl⟩ := ih
    exact ⟨(key, value) :: texts, List.forall_mem_cons.2 ⟨hkey, hkeys⟩,
      List.forall_mem_cons.2 ⟨htext, htexts⟩, rfl⟩

end Members

namespace Value

variable {depth : Nat} {value : Value} {cs : List Char}

theorem IsText.isText_of_isScalar (h : IsText depth value cs) (hscalar : value.IsScalar) :
    Json.IsText cs := by
  cases value with
  | null =>
    rw [IsText] at h
    subst h
    exact .word (by decide)
  | bool value =>
    cases value <;> rw [IsText] at h <;> subst h <;> exact .word (by decide)
  | number value =>
    rw [IsText] at h
    obtain ⟨literal, hcs, -⟩ := h
    exact .number hcs.1 hcs.2
  | string text =>
    rw [IsText] at h
    exact .string h.isString
  | array | object => exact hscalar.elim

/-- **The texts of a value are JSON texts.** -/
theorem IsText.isText (h : IsText depth value cs) : Json.IsText cs := by
  induction depth generalizing value cs with
  | zero =>
    by_cases hscalar : value.IsScalar
    · exact h.isText_of_isScalar hscalar
    · obtain ⟨_, ⟨⟩⟩ := exists_succ_of_isText hscalar h
  | succ depth ih =>
    cases value with
    | array values =>
      rw [IsText] at h
      exact h.isText_of_square fun _ _ => ih
    | object members =>
      rw [IsText] at h
      obtain ⟨gap, items, hgap, hitems, rfl⟩ := h
      obtain ⟨texts, hkeys, htexts, rfl⟩ := exists_keys_values (fun _ _ => ih) hitems
      exact .object hgap hkeys htexts
    | null | bool | number | string => exact h.isText_of_isScalar trivial

end Value

end OneShot.Json
