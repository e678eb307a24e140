import OneShot.Json.Tag
import OneShot.Proofs.Json.Numeral
import OneShot.Proofs.Json.Value

/-!
# Scalars of an expected type on written texts

A reader that expects a type takes a scalar just as the reader of values does, and only then asks
what the value is as one of that type. So what is known of the reader of values carries over to all
texts that begin like a scalar, `scalarReader_gives`. Texts and counts come back, and so does what a
name stands for.

## Main results

* `scalarReader_gives` — what a reader that expects a type makes of a scalar
* `textReader_gives`, `countReader_gives` — texts and counts come back
* `readName_write`, `readTag_write` — names come back, alone and as tags
-/

namespace OneShot.Json

/-! ### Texts -/

theorem Quoted.ofChars_write (text : String) :
    Utf8.ofChars (Quoted.write text) =
      byte '"' :: (Utf8.ofChars (text.toList.flatMap writeChar) ++ [byte '"']) :=
  ofChars_quoted _

theorem Quoted.beginsScalar_write (text : String) :
    BeginsScalar (Utf8.ofChars (Quoted.write text)) :=
  ⟨byte '"', _, Quoted.ofChars_write text, by decide, by decide, by decide, by decide⟩

theorem Value.string_gives (text : String) (depth : Nat) :
    (Value.reader depth).Gives (Utf8.ofChars (Quoted.write text)) (.ok (.string text)) := by
  intro rest _
  rw [Quoted.ofChars_write, List.cons_append,
    run_reader_cons (by decide) (by decide) (by decide), readScalar, if_neg (by decide),
    if_neg (by decide), if_neg (by decide), if_neg (by decide), if_pos rfl, List.append_assoc,
    List.singleton_append, Quoted.read_write]
  rfl

/-! ### Readers -/

/-- **A scalar is read and then taken as one of the expected type.** -/
theorem scalarReader_gives {α : Type} {expected : String} {type : Value → Except Cause α}
    {s : Bytes} {result : Except Cause Value} (hs : BeginsScalar s) {depth : Nat}
    (h : (Value.reader depth).Gives s result) :
    (scalarReader expected type).Gives s (result.bind type) := by
  intro rest hrest
  obtain ⟨b, t, rfl, hspace, hsquare, hbrace, -⟩ := hs
  have hread := h rest hrest
  rw [List.cons_append, Value.run_reader_cons hspace hsquare hbrace] at hread
  change Leaves (readTyped expected type (b :: t ++ rest)) _ rest
  rw [readTyped, List.cons_append, Bracket.skipSpace_cons hspace]
  dsimp only
  rw [if_neg hsquare, if_neg hbrace]
  refine hread.bind fun value _ => ?_
  dsimp only
  cases type value <;> rfl

theorem textReader_gives (text : String) :
    textReader.Gives (Utf8.ofChars (Quoted.write text)) (.ok text) :=
  scalarReader_gives (Quoted.beginsScalar_write text) (Value.string_gives text 0)

/-- A count comes back if it has at most 64 bits. -/
theorem countReader_gives {n : Nat} (h : n < 0x10000000000000000) :
    countReader.Gives (Utf8.ofChars (writeInteger n)) (.ok n) := by
  have hwellFormed := Literal.ofInt_wellFormed n
  have hcount : asCount (.number (.integer n)) = .ok n := by
    rw [asCount, if_pos (Int.natCast_nonneg n), Int.toNat_natCast]
  have hgives : countReader.Gives (Utf8.ofChars (Literal.ofInt n).write) _ :=
    scalarReader_gives (Literal.beginsScalar_write hwellFormed) (Value.literal_gives hwellFormed 0)
  rw [Literal.write_ofInt, Literal.outcome, Literal.numeral_ofInt (by omega) (by omega)] at hgives
  rw [← hcount]
  exact hgives

/-! ### Names -/

section Names

variable {α : Type} {ofName? : String → Option α} {name : String} {a : α}

theorem readTag_write (h : ofName? name = some a) (rest : Bytes) :
    readTag ofName? (Utf8.ofChars (Quoted.write name) ++ rest) = .ok (a, rest) := by
  rw [Quoted.ofChars_write, List.cons_append, List.append_assoc, List.singleton_append, readTag,
    Bracket.skipSpace_cons (by decide)]
  dsimp only
  rw [if_pos rfl, Quoted.read_write]
  dsimp only [Except.bind]
  rw [named, h]

theorem readName_write (h : ofName? name = some a) {rest : Bytes} (hrest : Stops rest) :
    readName ofName? (Utf8.ofChars (Quoted.write name) ++ rest) = .ok (a, rest) := by
  have htext : (scalarReader "a name" asText).Gives (Utf8.ofChars (Quoted.write name)) (.ok name) :=
    scalarReader_gives (Quoted.beginsScalar_write name) (Value.string_gives name 0)
  have hread : readTyped "a name" asText (Utf8.ofChars (Quoted.write name) ++ rest) =
      .ok (name, rest) :=
    leaves_ok_iff.1 (htext rest hrest)
  rw [readName, hread]
  dsimp only [Except.bind]
  rw [named, h]

end Names

end OneShot.Json
