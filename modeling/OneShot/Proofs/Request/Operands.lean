import OneShot.Proofs.Json.Whole
import OneShot.Proofs.Number.Decoders
import OneShot.Request.Reader

/-!
# Operands put aside

When the operands of a request come before its command they are put aside as a value, and the record
is taken from this value later. When the command is known, the operands are read right away.
Whatever can be taken from a value can also be read right away, with the same result: a record
follows its fields in this, `ValueSchema.read_of_value`, and a field follows if its reader does.

A value that was put aside has been read with a bound on its depth and on its numbers, and its
strings are text. The readers of fields take at least as much, and other members are only skipped,
so the statements go in one direction only.

## Main definitions

* `Reader.Follows` — a reader takes what can be taken from a value
* `ValueSchema.Follows` — so do the readers of all fields of a record

## Main results

* `ValueSchema.read_of_value` — a record that is taken from a value can be read right away
* `Command.schema_follows` — the operands of all commands can
-/

namespace OneShot

open Json

namespace Json

/-- What can be taken from a value is taken by the reader right away. -/
def Reader.Follows {α : Type} (reader : Reader α) (type : Value → Except Cause α)
    (depth : Nat) : Prop :=
  ∀ {s rest : Bytes} {value : Value} {a : α}, (Value.reader depth).run s = .ok (value, rest) →
    type value = .ok a → reader.run s = .ok (a, rest)

/-- A reader that asks what a value is follows. -/
theorem Reader.Types.follows {α : Type} {reader : Reader α} {type : Value → Except Cause α}
    {depth : Nat} (h : reader.Types type depth) : reader.Follows type depth :=
  fun hvalue ha => (h _ _ _).2 ⟨_, hvalue, ha⟩

end Json

theorem Number.listReader_follows (depth depth' : Nat) :
    (listReader depth).Follows listOfValue (depth' + 1) := by
  intro s rest value numbers hvalue hnumbers
  obtain ⟨values, rfl, hnumbers⟩ := listOfValue_eq_ok_iff.1 hnumbers
  exact (listReader_run_eq_ok_iff_mapM depth').2 ⟨values, hvalue, hnumbers⟩

namespace Json.ValueSchema

variable {α : Type} {schema : ValueSchema α} {depth : Nat} {draft draft' : schema.Draft}
  {s rest : Bytes} {members : List (String × Value)}

/-- What can be taken from the values of the fields is read right away. -/
def Follows (schema : ValueSchema α) (depth : Nat) : Prop :=
  ∀ f, (schema.content f).Follows (schema.ofContent f) depth

/-- A member that was put aside can be read right away, or skipped if it gives no field. White space
behind it may be left by one and taken by the other. -/
theorem memberReader_of_enter (hfollows : schema.Follows depth) {key : String} {value : Value}
    (hmember : (memberReader (Value.reader depth)).run s = .ok ((key, value), rest))
    (hrest : Stops rest) (henter : schema.enter draft ((key, value) :: members) = .ok draft') :
    ∃ draft'' t, (schema.memberReader draft).run s = .ok (draft'', t) ∧
      skipSpace t = skipSpace rest ∧ schema.enter draft'' members = .ok draft' := by
  obtain ⟨⟨key', t⟩, hkey, hmember⟩ := bind_eq_ok.1 hmember
  obtain ⟨u, hcolon, hmember⟩ := bind_eq_ok.1 hmember
  obtain ⟨⟨value', v⟩, hvalue, heq⟩ := map_eq_ok.1 hmember
  cases heq
  rw [enter] at henter
  change ∃ _ _, schema.readMember draft s = _ ∧ _
  rw [Schema.readMember, hkey]
  dsimp only [Except.bind]
  cases hf : schema.field? key with
  | some f =>
    rw [hf] at henter
    dsimp only at henter ⊢
    split_ifs at henter ⊢ with hnew
    obtain ⟨content, hcontent, henter⟩ := bind_eq_ok.1 henter
    refine ⟨draft.set f content, rest, ?_, rfl, henter⟩
    rw [hcolon]
    dsimp only
    rw [hfollows f hvalue hcontent]
    rfl
  | none =>
    rw [hf] at henter
    obtain ⟨w, hskip, hw⟩ := Value.skipValue_of_run hvalue hrest
    refine ⟨draft, w, ?_, hw, henter⟩
    rw [hcolon]
    dsimp only
    rw [hskip]
    rfl

/-- So can all members, one after another. -/
theorem seriesFrom_of_itemsAt (hfollows : schema.Follows depth)
    (h : ItemsAt .brace (memberReader (Value.reader depth)) s members rest)
    (henter : schema.enter draft members = .ok draft') :
    seriesFrom .brace schema.memberReader draft s = .ok (draft', rest) := by
  induction h generalizing draft with
  | last run next =>
    obtain ⟨draft'', t, hrun, ht, henter⟩ :=
      memberReader_of_enter hfollows run (Bracket.stops_of_next next) henter
    cases henter
    rw [seriesFrom_eq, hrun]
    dsimp only [Except.bind]
    rw [Bracket.next_congr ht, next]
  | more run next _ ih =>
    obtain ⟨draft'', t, hrun, ht, henter⟩ :=
      memberReader_of_enter hfollows run (Bracket.stops_of_next next) henter
    rw [seriesFrom_eq, hrun]
    dsimp only [Except.bind]
    rw [Bracket.next_congr ht, next]
    exact ih henter

theorem series_of_items (hfollows : schema.Follows depth)
    (h : items .brace (memberReader (Value.reader depth)) s = .ok (members, rest))
    (henter : schema.enter schema.blank members = .ok draft') :
    series .brace schema.memberReader schema.blank s = .ok (draft', rest) := by
  rcases items_eq_ok_iff.1 h with ⟨hfirst, rfl⟩ | ⟨t, hfirst, hitems⟩
  · cases henter
    rw [series, hfirst]
    rfl
  · rw [series, hfirst]
    exact seriesFrom_of_itemsAt hfollows hitems henter

/-- **A record that is taken from a value can be read right away**, if the value was read from the
same bytes. Members that are no fields are skipped, whatever their values are. -/
theorem read_of_value (hfollows : schema.Follows depth) {value : Value}
    (hvalue : (Value.reader (depth + 1)).run s = .ok (value, rest)) {a : α}
    (h : schema.ofValue value = .ok a) : schema.read s = .ok (a, rest) := by
  obtain ⟨members, rfl⟩ : ∃ members, value = .object members := by
    cases value with
    | object members => exact ⟨members, rfl⟩
    | null | bool | number | string | array => cases h
  obtain ⟨t, hs, hitems⟩ := Value.run_reader_eq_ok_object_iff.1 hvalue
  obtain ⟨draft, henter, hbuild⟩ := bind_eq_ok.1 h
  rw [read, hs]
  dsimp only
  rw [if_pos rfl, Schema.readObject, series_of_items hfollows hitems henter]
  change schema.complete (draft, rest) = _
  rw [Schema.complete, hbuild]

end Json.ValueSchema

/-! ### Commands -/

/-- A record with a single field. -/
theorem Request.singleField_follows {α : Type} {name : String} {content : Reader α}
    {ofContent : Value → Except Cause α} {build : α → Request} {depth : Nat}
    (h : content.Follows ofContent depth) :
    (singleField name content ofContent build).Follows depth :=
  fun _ => h

/-- **The operands of every command can be read right away** if they can be taken from a value. -/
theorem Command.schema_follows (command : Command) (depth : Nat) :
    command.schema.Follows (depth + 1) := by
  cases command with
  | greet => exact Request.singleField_follows ((textReader_types _).follows)
  | calculate =>
    intro f
    cases f with
    | operation => exact (textReader_types _).follows
    | x | y => exact (floatReader_types _).follows
  | processList => exact Request.singleField_follows (Number.listReader_follows _ depth)
  | analyzeText => exact Request.singleField_follows ((textReader_types _).follows)

end OneShot
