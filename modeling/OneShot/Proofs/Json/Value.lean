import OneShot.Proofs.Json.Quoted
import OneShot.Proofs.Json.Scaling

/-!
# Values on written texts

What the reader of values makes of literals, of `null` and of arrays that were written. The bound on
the depth matters only where a bracket is opened.

The writers put commas between texts of characters, and readers see the bytes of a series;
`ofChars_writeSeries` goes from one to the other. A member of an object is met behind the quotation
mark of its key, so `memberBytes` leaves that out.
-/

namespace OneShot.Json

/-! ### Series that were written -/

theorem ofChars_writeSeries {β : Type} {bracket : Bracket} {text : β → List Char}
    {body : β → Bytes} (h : ∀ b, Utf8.ofChars (text b) = bracket.lead ++ body b) (bs : List β) :
    Utf8.ofChars (writeSeries (bs.map text)) = bracket.series body bs := by
  induction bs with
  | nil => rfl
  | cons b bs ih =>
    cases bs with
    | nil =>
      rw [Bracket.series, List.flatMap_nil, List.append_nil, ← h]
      rfl
    | cons c cs =>
      rw [List.map_cons, List.map_cons, writeSeries, Utf8.ofChars_append,
        Utf8.ofChars_cons (by decide), ← List.map_cons, ih, h, Bracket.series, Bracket.series,
        List.flatMap_cons, List.cons_append]
      exact List.cons_ne_nil _ _

/-- The bytes of a member behind the quotation mark with which it begins. -/
def memberBytes (key : String) (text : List Char) : Bytes :=
  Utf8.ofChars (key.toList.flatMap Quoted.writeChar) ++
    byte '"' :: byte ':' :: Utf8.ofChars text

theorem ofChars_writeMember (key : String) (text : List Char) :
    Utf8.ofChars (Quoted.write key ++ ':' :: text) =
      Bracket.brace.lead ++ memberBytes key text := by
  rw [Quoted.write, List.cons_append, Utf8.ofChars_cons (by decide), List.append_assoc,
    Utf8.ofChars_append, List.singleton_append, Utf8.ofChars_cons (by decide),
    Utf8.ofChars_cons (by decide)]
  rfl

/-- The key of a member is read, and the colon behind it is left. -/
theorem Quoted.read_memberBytes (key : String) (text : List Char) (rest : Bytes) :
    Quoted.read (memberBytes key text ++ rest) =
      .ok (key, byte ':' :: (Utf8.ofChars text ++ rest)) := by
  rw [memberBytes, List.append_assoc, List.cons_append, List.cons_append, Quoted.read_write]

theorem readColon_cons (s : Bytes) : readColon (byte ':' :: s) = .ok s := rfl

namespace Value

theorem writeItems_eq_map (values : List Value) : writeItems values = values.map write := by
  induction values with
  | nil => rfl
  | cons value values ih => rw [writeItems, ih, List.map_cons]

theorem writeMembers_eq_map (members : List (String × Value)) :
    writeMembers members = members.map fun member =>
      Quoted.write member.1 ++ ':' :: member.2.write := by
  induction members with
  | nil => rfl
  | cons member members ih => rw [writeMembers, ih, List.map_cons]

theorem ofChars_write_array (items : List Value) (rest : Bytes) :
    Utf8.ofChars (Value.array items).write ++ rest =
      byte '[' :: (Bracket.square.series (fun value => Utf8.ofChars value.write) items ++
        Bracket.square.closing :: rest) := by
  rw [write, writeItems_eq_map, Utf8.ofChars_cons (by decide), Utf8.ofChars_append,
    ofChars_writeSeries (show ∀ value : Value, Utf8.ofChars value.write =
      Bracket.square.lead ++ Utf8.ofChars value.write from fun _ => rfl),
    List.cons_append, List.append_assoc]
  rfl

theorem ofChars_write_object (members : List (String × Value)) (rest : Bytes) :
    Utf8.ofChars (Value.object members).write ++ rest =
      byte '{' :: (Bracket.brace.series
        (fun member => memberBytes member.1 member.2.write) members ++
          Bracket.brace.closing :: rest) := by
  rw [write, writeMembers_eq_map, Utf8.ofChars_cons (by decide), Utf8.ofChars_append,
    ofChars_writeSeries fun member : String × Value =>
      ofChars_writeMember member.1 member.2.write,
    List.cons_append, List.append_assoc]
  rfl

end Value

/-! ### Scalars -/

/-- The text begins like a scalar: with neither white space nor a bracket. -/
def BeginsScalar (s : Bytes) : Prop :=
  ∃ b t, s = b :: t ∧ isSpace b = false ∧ b ≠ byte '[' ∧ b ≠ byte '{' ∧ b ≠ byte ']'

/-- So it may be an item of an array. -/
theorem BeginsScalar.admits {s : Bytes} (h : BeginsScalar s) : Bracket.square.Admits s := by
  obtain ⟨b, t, rfl, hspace, -, -, hclose⟩ := h
  exact ⟨b, t, rfl, hspace, hclose⟩

/-- A byte with which a number starts. -/
theorem not_starts_other {b : UInt8} (h : startsNumber b = true) :
    isSpace b = false ∧ b ≠ byte '[' ∧ b ≠ byte '{' ∧ b ≠ byte ']' ∧ b ≠ byte 'n' ∧
      b ≠ byte 't' ∧ b ≠ byte 'f' := by
  have hne (c : UInt8) (hc : startsNumber c = false) : b ≠ c := by
    rintro rfl
    rw [h] at hc
    cases hc
  refine ⟨?_, hne _ (by decide), hne _ (by decide), hne _ (by decide), hne _ (by decide),
    hne _ (by decide), hne _ (by decide)⟩
  simp only [isSpace, Bool.or_eq_false_iff, beq_eq_false_iff_ne]
  exact ⟨⟨⟨hne _ (by decide), hne _ (by decide)⟩, hne _ (by decide)⟩, hne _ (by decide)⟩

/-- A literal begins with a minus sign or a digit. -/
theorem Literal.exists_head_write {literal : Literal} (h : literal.WellFormed) :
    ∃ b s, Utf8.ofChars literal.write = b :: s ∧ startsNumber b = true := by
  obtain ⟨d, more, hwhole, -⟩ := h.whole
  rw [Literal.write, hwhole]
  cases literal.negative
  · refine ⟨byte d.char, _, Utf8.ofChars_cons d.toNat_char_lt _, ?_⟩
    rw [startsNumber, digit?_char, Option.isSome_some, Bool.or_true]
  · exact ⟨byte '-', _, Utf8.ofChars_cons (by decide) _, rfl⟩

theorem Literal.beginsScalar_write {literal : Literal} (h : literal.WellFormed) :
    BeginsScalar (Utf8.ofChars literal.write) := by
  obtain ⟨b, s, hbs, hb⟩ := literal.exists_head_write h
  obtain ⟨hspace, hsquare, hbrace, hclose, -⟩ := not_starts_other hb
  exact ⟨b, s, hbs, hspace, hsquare, hbrace, hclose⟩

theorem beginsScalar_null : BeginsScalar (Utf8.ofChars "null".toList) :=
  ⟨byte 'n', Utf8.ofChars "ull".toList, by decide, by decide, by decide, by decide, by decide⟩

namespace Value

theorem exists_run_reader (depth : Nat) :
    ∃ inner, (Value.reader depth).run = readValue inner := by
  cases depth with
  | zero => exact ⟨none, rfl⟩
  | succ depth => exact ⟨some (Value.reader depth), rfl⟩

/-- A text that begins like a scalar is read as one, whatever the depth. -/
theorem run_reader_cons {b : UInt8} (hspace : isSpace b = false) (hsquare : b ≠ byte '[')
    (hbrace : b ≠ byte '{') (s : Bytes) (depth : Nat) :
    (Value.reader depth).run (b :: s) = readScalar b s := by
  obtain ⟨inner, hrun⟩ := exists_run_reader depth
  rw [hrun, readValue, Bracket.skipSpace_cons hspace]
  dsimp only
  rw [if_neg hsquare, if_neg hbrace]

theorem literal_gives {literal : Literal} (h : literal.WellFormed) (depth : Nat) :
    (Value.reader depth).Gives (Utf8.ofChars literal.write)
      (literal.outcome.map Value.number) := by
  intro rest hrest
  obtain ⟨b, s, hbs, hb⟩ := literal.exists_head_write h
  obtain ⟨hspace, hsquare, hbrace, -, hn, ht, hf⟩ := not_starts_other hb
  have hread := readNumeral_write h hrest
  rw [hbs] at hread ⊢
  rw [List.cons_append, run_reader_cons hspace hsquare hbrace, readScalar, if_neg hn, if_neg ht,
    if_neg hf, if_pos hb]
  exact hread.map Value.number

theorem null_gives (depth : Nat) :
    (Value.reader depth).Gives (Utf8.ofChars "null".toList) (.ok .null) := by
  intro rest _
  obtain ⟨inner, hrun⟩ := exists_run_reader depth
  rw [hrun]
  rfl

/-- The items of an array are read one bracket deeper. -/
theorem array_gives {β : Type} {body : β → Bytes} {f : β → Except Cause Value} {bs : List β}
    {depth : Nat} (hbody : ∀ b ∈ bs, Bracket.square.Admits (body b))
    (hitem : ∀ b ∈ bs, (Value.reader depth).Gives (body b) (f b)) :
    (Value.reader (depth + 1)).Gives
      (byte '[' :: (Bracket.square.series body bs ++ [Bracket.square.closing]))
      ((bs.mapM f).map Value.array) := by
  intro rest _
  have hitems := items_gives hbody hitem rest
  rw [List.cons_append, List.append_assoc]
  exact hitems.map Value.array

/-! ### Numbers in values -/

/-- A number that was read is an integer of 64 bits or finite. -/
theorem isFinite_of_readNumeral {s rest : Bytes} {value : Numeral}
    (h : readNumeral s = .ok (value, rest)) : value.IsFinite := by
  obtain ⟨⟨literal, r⟩, -, h⟩ := bind_eq_ok.1 h
  dsimp only at h
  split at h
  · rename_i value' hvalue
    cases h
    exact Literal.numeral_isFinite hvalue
  · cases h

/-- A number is finite, and so are the numbers that are items of an array. -/
def NumbersFinite : Value → Prop
  | .number value => value.IsFinite
  | .array items => ∀ value, .number value ∈ items → value.IsFinite
  | _ => True

theorem numbersFinite_of_readScalar {b : UInt8} {s rest : Bytes} {value : Value}
    (h : readScalar b s = .ok (value, rest)) : value.NumbersFinite := by
  rw [readScalar] at h
  split_ifs at h
  all_goals
    obtain ⟨p, hp, heq⟩ := map_eq_ok.1 h
    cases heq
    first | exact trivial | exact isFinite_of_readNumeral hp

theorem numbersFinite_of_readValue {inner : Option (Reader Value)} {s rest : Bytes} {value : Value}
    (hinner : ∀ r ∈ inner, ∀ {s v rest}, r.run s = .ok (v, rest) → NumbersFinite v)
    (h : readValue inner s = .ok (value, rest)) : value.NumbersFinite := by
  rw [readValue] at h
  split at h
  · cases h
  · split_ifs at h
    · cases inner with
      | none => cases h
      | some reader =>
        obtain ⟨⟨items, r⟩, hitems, heq⟩ := map_eq_ok.1 h
        cases heq
        intro value hmem
        exact forall_of_items (fun hrun => hinner reader rfl hrun) hitems _ hmem
    · cases inner with
      | none => cases h
      | some reader =>
        obtain ⟨p, -, heq⟩ := map_eq_ok.1 h
        cases heq
        exact trivial
    · exact numbersFinite_of_readScalar h

theorem numbersFinite_of_reader {depth : Nat} {s rest : Bytes} {value : Value}
    (h : (Value.reader depth).run s = .ok (value, rest)) : value.NumbersFinite := by
  induction depth generalizing s rest value with
  | zero =>
    change readValue none s = _ at h
    refine numbersFinite_of_readValue ?_ h
    rintro _ ⟨⟩
  | succ depth ih =>
    change readValue (some (Value.reader depth)) s = _ at h
    refine numbersFinite_of_readValue ?_ h
    rintro _ ⟨⟩ s v rest hrun
    exact ih hrun

/-- The numbers of a text are integers of 64 bits or finite. -/
theorem numbersFinite_of_parse {s : Bytes} {value : Value} (h : Value.parse s = .ok value) :
    value.NumbersFinite := by
  obtain ⟨⟨v, rest⟩, hread, hfinish⟩ := bind_eq_ok.1 h
  rw [finish] at hfinish
  split at hfinish
  · cases hfinish
    exact numbersFinite_of_reader hread
  · cases hfinish

end Value

end OneShot.Json
