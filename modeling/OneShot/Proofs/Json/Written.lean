import OneShot.Proofs.Json.Grammar
import OneShot.Proofs.Json.Typed
import OneShot.Proofs.Number.Json

/-!
# Whole values written and read

A value that was written is read as a value of the same shape, bracket by bracket and key by key.
Only floating point numbers may change: a finite one comes back as what is read of its own text, and
there is `null` in place of an infinity or a NaN. There are two conditions, which the values of this
library meet: an integer has at most 64 bits, and not too many brackets are open at the same time.

## Main definitions

* `Binary64.rereadJson` — what is read of the JSON text of a floating point number
* `Value.Fits` — the values that can be read with a bound on the depth
* `Value.reread` — what is read of a value that was written

## Main results

* `Binary64.document_floatReader` — the JSON text of a finite number can always be read
* `Value.reader_gives_write` — what is read of a value that was written
-/

namespace OneShot

open Json

/-! ### Floating point numbers -/

namespace Binary64

/-- What is read of the JSON text of a number, if that can be read. -/
def rereadJson (x : Binary64) : Binary64 :=
  match document floatReader (Utf8.encode (Value.number (.float x)).text) with
  | .ok y => y
  | .error _ => x

variable {x : Binary64}

theorem exists_value_gives_float (hx : x.IsFinite) : ∃ y, ∀ depth, (Value.reader depth).Gives
    (Utf8.ofChars (Value.number (.float x)).write) (.ok (.number (.float y))) := by
  obtain ⟨y, hy⟩ := x.float_jsonLiteral_isOk hx
  refine ⟨y, fun depth => ?_⟩
  have hgives := Number.value_gives (.float x) depth
  rw [Number.rereadValue, if_pos hx, hy] at hgives
  exact hgives

theorem exists_document_floatReader (hx : x.IsFinite) :
    ∃ y, document floatReader (Utf8.encode (Value.number (.float x)).text) = .ok y ∧
      ∀ depth, (Value.reader depth).Gives (Utf8.ofChars (Value.number (.float x)).write)
        (.ok (.number (.float y))) := by
  obtain ⟨y, hy⟩ := exists_value_gives_float hx
  refine ⟨y, ?_, hy⟩
  have hfloat : floatReader.Gives (Utf8.ofChars (Value.number (.float x)).write) (.ok y) :=
    scalarReader_gives (Number.beginsScalar_write (.float x)) (hy 0)
  have hdocument := document_gives hfloat stops_nil rfl
  rw [List.append_nil, ← Utf8.encode_ofList] at hdocument
  exact (eq_ok_iff_of_mapError hdocument).2 rfl

/-- **The JSON text of a finite number can be read.** -/
theorem document_floatReader (hx : x.IsFinite) :
    document floatReader (Utf8.encode (Value.number (.float x)).text) = .ok x.rereadJson := by
  obtain ⟨y, hy, -⟩ := exists_document_floatReader hx
  rw [rereadJson, hy]

theorem value_gives_rereadJson (hx : x.IsFinite) (depth : Nat) :
    (Value.reader depth).Gives (Utf8.ofChars (Value.number (.float x)).write)
      (.ok (.number (.float x.rereadJson))) := by
  obtain ⟨y, hy, hgives⟩ := exists_document_floatReader hx
  rw [rereadJson, hy]
  exact hgives depth

end Binary64

namespace Json

/-! ### Arrays and objects -/

namespace Value

/-- A text of an item that was written begins with neither white space nor a closing bracket. -/
theorem admits_write (value : Value) : Bracket.square.Admits (Utf8.ofChars value.write) := by
  refine write_induction (P := fun cs => Bracket.square.Admits (Utf8.ofChars cs)) ?_ value
  refine ⟨?_, fun literal h => (Literal.beginsScalar_write h).admits,
    fun text => (Quoted.beginsScalar_write text).admits, fun items _ => ?_, fun members _ => ?_⟩
  · intro name hname
    simp only [List.mem_cons, List.not_mem_nil, or_false] at hname
    rcases hname with rfl | rfl | rfl
    · exact ⟨byte 'n', _, rfl, rfl, by decide⟩
    · exact ⟨byte 't', _, rfl, rfl, by decide⟩
    · exact ⟨byte 'f', _, rfl, rfl, by decide⟩
  · exact ⟨byte '[', _, Utf8.ofChars_cons (by decide) _, rfl, by decide⟩
  · exact ⟨byte '{', _, Utf8.ofChars_cons (by decide) _, rfl, by decide⟩

theorem memberReader_gives {value : Reader Value} {key : String} {text : List Char}
    {result : Value} (h : value.Gives (Utf8.ofChars text) (.ok result)) :
    (memberReader value).Gives (memberBytes key text) (.ok (key, result)) := by
  intro rest hrest
  change Leaves (readMember value (memberBytes key text ++ rest)) _ rest
  rw [readMember, Quoted.read_memberBytes]
  exact (h rest hrest).map (Prod.mk key)

variable {depth : Nat} {f : Value → Value}

/-- An array whose items can be read. -/
theorem array_gives_map {items : List Value}
    (h : ∀ value ∈ items,
      (reader depth).Gives (Utf8.ofChars value.write) (.ok (f value))) :
    (reader (depth + 1)).Gives (Utf8.ofChars (Value.array items).write)
      (.ok (.array (items.map f))) := by
  intro rest _
  have hitems := items_gives (fun value _ => value.admits_write) h rest
  rw [show items.mapM (fun value => Except.ok (f value)) = .ok (items.map f) from
    List.mapM_pure] at hitems
  rw [ofChars_write_array]
  exact hitems.map Value.array

/-- An object whose members can be read. -/
theorem object_gives_map {members : List (String × Value)}
    (h : ∀ member ∈ members,
      (reader depth).Gives (Utf8.ofChars member.2.write) (.ok (f member.2))) :
    (reader (depth + 1)).Gives (Utf8.ofChars (Value.object members).write)
      (.ok (.object (members.map fun member => (member.1, f member.2)))) := by
  intro rest _
  have hmembers := items_gives
    (fun (member : String × Value) (_ : member ∈ members) =>
      show Bracket.brace.Admits (memberBytes member.1 member.2.write) from trivial)
    (fun member hmem => memberReader_gives (h member hmem)) rest
  rw [show (members.mapM fun member => Except.ok (member.1, f member.2)) =
      .ok (members.map fun member => (member.1, f member.2)) from List.mapM_pure] at hmembers
  rw [ofChars_write_object]
  exact hmembers.map Value.object

/-! ### Whole values -/

/-- The values that can be read back when at most `depth` brackets may be open inside each other:
the integers in them have at most 64 bits. -/
inductive Fits : Nat → Value → Prop
  | null {depth : Nat} : Fits depth .null
  | bool {depth : Nat} {value : Bool} : Fits depth (.bool value)
  | integer {depth : Nat} {value : Int} (hlow : -0x8000000000000000 ≤ value)
      (hhigh : value < 0x10000000000000000) : Fits depth (.number (.integer value))
  | float {depth : Nat} {x : Binary64} : Fits depth (.number (.float x))
  | string {depth : Nat} {text : String} : Fits depth (.string text)
  | array {depth : Nat} {items : List Value} (h : ∀ value ∈ items, Fits depth value) :
      Fits (depth + 1) (.array items)
  | object {depth : Nat} {members : List (String × Value)}
      (h : ∀ member ∈ members, Fits depth member.2) : Fits (depth + 1) (.object members)

mutual

/-- What is read of a value that was written. -/
def reread : Value → Value
  | .number (.float x) => if x.IsFinite then .number (.float x.rereadJson) else .null
  | .array items => .array (rereadItems items)
  | .object members => .object (rereadMembers members)
  | .null => .null
  | .bool value => .bool value
  | .number (.integer value) => .number (.integer value)
  | .string text => .string text

/-- What is read of the items of an array. -/
def rereadItems : List Value → List Value
  | [] => []
  | value :: more => value.reread :: rereadItems more

/-- What is read of the members of an object. -/
def rereadMembers : List (String × Value) → List (String × Value)
  | [] => []
  | (key, value) :: more => (key, value.reread) :: rereadMembers more

end

theorem rereadItems_eq_map (items : List Value) : rereadItems items = items.map Value.reread := by
  induction items with
  | nil => rfl
  | cons value items ih => rw [rereadItems, ih, List.map_cons]

theorem rereadMembers_eq_map (members : List (String × Value)) :
    rereadMembers members = members.map fun member => (member.1, member.2.reread) := by
  induction members with
  | nil => rfl
  | cons member members ih => rw [rereadMembers, ih, List.map_cons]

theorem bool_gives (value : Bool) (depth : Nat) :
    (reader depth).Gives (Utf8.ofChars (Value.bool value).write) (.ok (.bool value)) := by
  intro rest _
  obtain ⟨inner, hrun⟩ := exists_run_reader depth
  rw [hrun]
  cases value <;> rfl

theorem integer_gives {value : Int} (hlow : -0x8000000000000000 ≤ value)
    (hhigh : value < 0x10000000000000000) (depth : Nat) :
    (reader depth).Gives (Utf8.ofChars (Value.number (.integer value)).write)
      (.ok (.number (.integer value))) := by
  have hgives := literal_gives (Literal.ofInt_wellFormed value) depth
  rw [Literal.write_ofInt, Literal.outcome, Literal.numeral_ofInt hlow hhigh] at hgives
  rw [write, Numeral.write]
  exact hgives

/-- **What is read of a value that was written**: a value of the same shape, with each floating
point number as it is read on its own. -/
theorem reader_gives_write {value : Value} (h : value.Fits depth) :
    (reader depth).Gives (Utf8.ofChars value.write) (.ok value.reread) := by
  induction h with
  | null => exact null_gives _
  | bool => exact bool_gives _ _
  | integer hlow hhigh => exact integer_gives hlow hhigh _
  | @float depth x =>
    rw [Value.reread]
    split_ifs with hx
    · exact x.value_gives_rereadJson hx depth
    · rw [write, Numeral.write, if_neg hx]
      exact null_gives depth
  | string => exact string_gives _ _
  | array _ ih =>
    rw [Value.reread, rereadItems_eq_map]
    exact array_gives_map ih
  | object _ ih =>
    rw [Value.reread, rereadMembers_eq_map]
    exact object_gives_map ih

end Value

end Json

end OneShot
