import OneShot.Json.Record
import OneShot.Proofs.Json.Value

/-!
# Records on written texts

A record that is written as an object with given fields is read field by field into a draft, and
built from the draft. What comes of it is known if it is known what the reader of each field makes
of the text of that field, `Schema.reader_gives`; the places where faults are reported do not
matter.

## Main definitions

* `Schema.writeObject` — an object with given fields
* `Schema.enter` — a field entered into a draft

## Main results

* `Schema.reader_gives` — what is read of an object that was written
* `Schema.foldlM_enter_bind` — a new field is entered before the others
-/

namespace OneShot.Json

/-- Settling a fault gives it a place and keeps its cause. -/
theorem Fault.cause_settle (bracket : Bracket) (s : Bytes) (fault : Fault) :
    (Fault.settle bracket s fault).cause = fault.cause := by
  rw [settle]
  split_ifs
  · dsimp only
    split_ifs <;> rfl
  · rfl

namespace Schema

variable {α : Type} {schema : Schema α}

/-- The member of an object that gives a field a text. -/
def writeMember (schema : Schema α) (text : schema.Field → List Char) (f : schema.Field) :
    List Char :=
  Quoted.write (schema.name f) ++ ':' :: text f

/-- An object with the given fields. -/
def writeObject (schema : Schema α) (text : schema.Field → List Char)
    (fields : List schema.Field) : List Char :=
  '{' :: (writeSeries (fields.map (schema.writeMember text)) ++ ['}'])

/-- Enters what is read of a field into a draft that does not have it. -/
def enter (schema : Schema α) (result : (f : schema.Field) → Except Cause (schema.Content f))
    (draft : schema.Draft) (f : schema.Field) : Except Cause schema.Draft :=
  if (draft f).isSome then .error (.duplicateField (schema.name f))
  else (result f).map (draft.set f)

/-- A field that is new to a draft is entered, and the others after it. -/
theorem foldlM_enter_bind {β : Type}
    {result : (f : schema.Field) → Except Cause (schema.Content f)} {f : schema.Field}
    {fields : List schema.Field} {draft : schema.Draft} (hnew : draft f = none)
    (build : schema.Draft → Except Cause β) :
    ((f :: fields).foldlM (schema.enter result) draft).bind build =
      result f >>= fun content =>
        (fields.foldlM (schema.enter result) (draft.set f content)).bind build := by
  rw [List.foldlM_cons, enter, hnew, Option.isSome_none, if_neg Bool.false_ne_true]
  cases result f <;> rfl

/-- The bytes of a member behind the quotation mark with which it begins. -/
def memberBytes (schema : Schema α) (text : schema.Field → List Char) (f : schema.Field) : Bytes :=
  Utf8.ofChars ((schema.name f).toList.flatMap Quoted.writeChar) ++
    byte '"' :: byte ':' :: Utf8.ofChars (text f)

theorem ofChars_writeMember (text : schema.Field → List Char) (f : schema.Field) :
    Utf8.ofChars (schema.writeMember text f) =
      Bracket.brace.lead ++ schema.memberBytes text f :=
  Json.ofChars_writeMember (schema.name f) (text f)

theorem memberReader_gives {text : schema.Field → List Char}
    {result : (f : schema.Field) → Except Cause (schema.Content f)} {f : schema.Field}
    (hname : schema.field? (schema.name f) = some f)
    (hcontent : (schema.content f).Gives (Utf8.ofChars (text f)) (result f))
    (draft : schema.Draft) :
    (schema.memberReader draft).Gives (schema.memberBytes text f)
      (schema.enter result draft f) := by
  intro rest hrest
  change Leaves (schema.readMember draft (Json.memberBytes (schema.name f) (text f) ++ rest)) _ rest
  rw [readMember, Quoted.read_memberBytes]
  dsimp only [Except.bind]
  rw [hname]
  dsimp only
  rw [enter]
  split_ifs
  · rfl
  · exact (hcontent rest hrest).map (draft.set f)

theorem complete_leaves (draft : schema.Draft) (rest : Bytes) :
    Leaves (schema.complete (draft, rest)) (schema.build draft) rest := by
  rw [complete]
  cases schema.build draft <;> rfl

/-- **What is read of an object that was written.** The fields are entered into a draft in their
order, and the record is built from the draft. -/
theorem reader_gives {text : schema.Field → List Char}
    {result : (f : schema.Field) → Except Cause (schema.Content f)} {fields : List schema.Field}
    (hname : ∀ f ∈ fields, schema.field? (schema.name f) = some f)
    (hcontent : ∀ f ∈ fields, (schema.content f).Gives (Utf8.ofChars (text f)) (result f)) :
    schema.reader.Gives (Utf8.ofChars (schema.writeObject text fields))
      ((fields.foldlM (schema.enter result) schema.blank).bind schema.build) := by
  intro rest _
  have hseries : Leaves (series .brace schema.memberReader schema.blank
      (Bracket.brace.series (schema.memberBytes text) fields ++ Bracket.brace.closing :: rest))
      (fields.foldlM (schema.enter result) schema.blank) rest :=
    series_gives (fun f _ => show Bracket.brace.Admits (schema.memberBytes text f) from trivial)
      (fun draft f hf => memberReader_gives (hname f hf) (hcontent f hf) draft) schema.blank rest
  have hwrite : Utf8.ofChars (schema.writeObject text fields) ++ rest =
      byte '{' :: (Bracket.brace.series (schema.memberBytes text) fields ++
        Bracket.brace.closing :: rest) := by
    rw [writeObject, Utf8.ofChars_cons (by decide), Utf8.ofChars_append,
      ofChars_writeSeries (ofChars_writeMember text), List.cons_append, List.append_assoc]
    rfl
  rw [hwrite]
  change Leaves (schema.readObject _) _ rest
  exact (hseries.mapError (Fault.cause_settle _ _)).bind
    fun draft _ => complete_leaves draft rest

end Schema

end OneShot.Json
