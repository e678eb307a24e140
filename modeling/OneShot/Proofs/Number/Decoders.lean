import OneShot.Number.List
import OneShot.Proofs.Json.Series
import Mathlib.Tactic.TFAE

/-!
# The decoders of lists of numbers

There are two ways to a list of numbers. The list argument is read as one value, and its items are
classified afterwards. In a request or a response every item is read on its own, right where it
stands, unless the whole list has been put aside as a value because it came too early. All of them
take the same texts for the same numbers.

What could tell them apart are the bound on the depth of an item and the order in which the forms
of a number are tried. The bound matters only to lists and objects, and those are no numbers,
`reader_run_eq_ok_iff`. An integer is tried first in every case, `ofValue_eq_firstForm`.

## Main definitions

* `Json.asInt64` — what a value is, taken as an integer of 64 bits with a sign
* `Number.firstForm` — the first form of a number that a value has

## Main results

* `Number.ofValue_eq_firstForm` — a value is a number of the first form that it has
* `NumberList.parse_decoders_tfae` — the decoders agree
-/

namespace OneShot

open Json

/-- A value as an integer of 64 bits with a sign. -/
def Json.asInt64 : Value → Except Cause Int64
  | .number (.integer value) =>
    if Number.InRange value then .ok (.ofInt value)
    else .error (.wrongValue (Value.number (.integer value)).describe "i64")
  | value => .error (value.unexpected "i64")

namespace Number

/-- The first form of a number that a value has: an integer, or else a floating point number. -/
def firstForm (value : Value) : Except Cause Number :=
  match asInt64 value with
  | .ok i => .ok (.int i)
  | .error _ =>
    match asFloat value with
    | .ok x => .ok (.float x)
    | .error _ => .error .notNumber

theorem ofValue_eq_firstForm : ofValue = firstForm := by
  funext value
  cases value with
  | number value =>
    cases value with
    | integer i =>
      rw [ofValue, firstForm, ofNumeral, asInt64]
      split_ifs <;> rfl
    | float x => rfl
  | null | bool | string | array | object => rfl

theorem ofValue_eq_ok_iff {value : Value} {number : Number} :
    ofValue value = .ok number ↔
      ∃ numeral, value = .number numeral ∧ ofNumeral numeral = number := by
  cases value with
  | number numeral =>
    constructor
    · intro h
      cases h
      exact ⟨numeral, rfl, rfl⟩
    · rintro ⟨_, ⟨⟩, rfl⟩
      rfl
  | null | bool | string | array | object => exact ⟨nofun, nofun⟩

variable {depth : Nat} {s rest : Bytes} {number : Number} {numbers : List Number}

/-- The bound on the depth has no part in reading a number. -/
theorem reader_run_eq_ok_iff (depth' : Nat) :
    (reader depth).run s = .ok (number, rest) ↔
      ∃ value, (Value.reader depth').run s = .ok (value, rest) ∧ ofValue value = .ok number := by
  have hread : (reader depth).run s = .ok (number, rest) ↔
      ∃ value, (Value.reader depth).run s = .ok (value, rest) ∧ ofValue value = .ok number := by
    change Number.read depth s = _ ↔ _
    rw [Number.read, bind_eq_ok]
    constructor
    · rintro ⟨⟨value, t⟩, hvalue, h⟩
      dsimp only at h
      split at h
      · rename_i heq
        cases h
        exact ⟨value, hvalue, heq⟩
      · cases h
    · rintro ⟨value, hvalue, heq⟩
      refine ⟨(value, rest), hvalue, ?_⟩
      dsimp only
      rw [heq]
  rw [hread]
  refine exists_congr fun value => and_congr_left fun hnumber => ?_
  obtain ⟨numeral, rfl, -⟩ := ofValue_eq_ok_iff.1 hnumber
  rw [Value.run_reader_eq_ok_number_iff, Value.run_reader_eq_ok_number_iff]

/-- No scalar is a list. -/
theorem readTyped_listOfValue_ne_ok :
    readTyped "a sequence" listOfValue s ≠ .ok (numbers, rest) := by
  intro h
  rw [readTyped] at h
  split at h
  · cases h
  · split_ifs at h
    obtain ⟨⟨value, t⟩, hvalue, h⟩ := bind_eq_ok.1 h
    dsimp only at h
    split at h
    · rename_i hlist
      cases value with
      | array items => exact isScalar_of_readScalar hvalue
      | null | bool | number | string | object => cases hlist
    · cases h

theorem listReader_run_eq_ok_iff :
    (listReader depth).run s = .ok (numbers, rest) ↔
      ∃ t, skipSpace s = byte '[' :: t ∧ items .square (reader depth) t = .ok (numbers, rest) := by
  change readList depth s = _ ↔ _
  rw [readList]
  cases skipSpace s with
  | nil => exact ⟨nofun, nofun⟩
  | cons b t =>
    dsimp only
    constructor
    · intro h
      split_ifs at h with hsquare
      · exact ⟨t, congrArg (· :: t) hsquare, mapError_eq_ok.1 h⟩
      · exact absurd h readTyped_listOfValue_ne_ok
    · rintro ⟨_, ⟨⟩, hitems⟩
      rw [if_pos rfl]
      exact mapError_eq_ok.2 hitems

/-- **A list read item by item** is an array all of whose items are numbers. -/
theorem listReader_run_eq_ok_iff_mapM (depth' : Nat) :
    (listReader depth).run s = .ok (numbers, rest) ↔
      ∃ values, (Value.reader (depth' + 1)).run s = .ok (.array values, rest) ∧
        values.mapM ofValue = .ok numbers := by
  simp only [listReader_run_eq_ok_iff, Value.run_reader_eq_ok_array_iff,
    items_eq_ok_iff_mapM (reader_run_eq_ok_iff depth')]
  constructor
  · rintro ⟨t, ht, values, hvalues, hnumbers⟩
    exact ⟨values, ⟨t, ht, hvalues⟩, hnumbers⟩
  · rintro ⟨values, ⟨t, ht, hvalues⟩, hnumbers⟩
    exact ⟨t, ht, values, hvalues, hnumbers⟩

theorem listOfValue_eq_ok_iff {value : Value} :
    listOfValue value = .ok numbers ↔
      ∃ values, value = .array values ∧ values.mapM ofValue = .ok numbers := by
  cases value with
  | array values =>
    constructor
    · intro h
      exact ⟨values, rfl, h⟩
    · rintro ⟨_, ⟨⟩, h⟩
      exact h
  | null | bool | number | string | object => exact ⟨nofun, nofun⟩

/-- A whole input that is a list of numbers. -/
theorem document_listReader_eq_ok_iff (depth' : Nat) :
    document (listReader depth) s = .ok numbers ↔
      ∃ values, document (Value.reader (depth' + 1)) s = .ok (.array values) ∧
        values.mapM ofValue = .ok numbers := by
  simp only [document_eq_ok_iff, listReader_run_eq_ok_iff_mapM depth']
  constructor
  · rintro ⟨rest, ⟨values, hread, hnumbers⟩, hrest⟩
    exact ⟨values, ⟨rest, hread, hrest⟩, hnumbers⟩
  · rintro ⟨values, ⟨rest, hread, hrest⟩, hnumbers⟩
    exact ⟨rest, ⟨values, hread, hnumbers⟩, hrest⟩

end Number

namespace NumberList

/-- The items of the list argument are classified like the items of any other list. -/
theorem ofItems_eq_ok_iff {index : Nat} {values : List Value} {numbers : List Number} :
    ofItems index values = .ok numbers ↔ values.mapM Number.ofValue = .ok numbers := by
  induction values generalizing index numbers with
  | nil =>
    rw [ofItems]
    exact ⟨fun h => by cases h; rfl, fun h => by cases h; rfl⟩
  | cons value values ih =>
    rw [mapM_cons_eq_ok_iff]
    cases value with
    | number numeral =>
      rw [ofItems, map_eq_ok]
      constructor
      · rintro ⟨numbers', h, rfl⟩
        exact ⟨_, numbers', rfl, ih.1 h, rfl⟩
      · rintro ⟨_, numbers', ⟨⟩, h, rfl⟩
        exact ⟨numbers', ih.2 h, rfl⟩
    | null | bool | string | array | object =>
      constructor
      · exact nofun
      · rintro ⟨_, _, h, -⟩
        cases h

theorem parse_eq_ok_iff {text : String} {numbers : List Number} :
    parse text = .ok numbers ↔
      ∃ values, Value.parse (Utf8.encode text) = .ok (.array values) ∧
        values.mapM Number.ofValue = .ok numbers := by
  rw [parse, bind_eq_ok]
  simp only [mapError_eq_ok]
  constructor
  · rintro ⟨value, hvalue, h⟩
    cases value with
    | array values => exact ⟨values, hvalue, ofItems_eq_ok_iff.1 h⟩
    | null | bool | number | string | object => cases h
  · rintro ⟨values, hvalues, h⟩
    exact ⟨.array values, hvalues, ofItems_eq_ok_iff.2 h⟩

/-- **The decoders of lists of numbers agree**: a text is the same list to all of them, with the
same forms and the same bits. It is the list argument; it is read item by item; it is put aside as a
value and taken as a list later; it is an array whose items are numbers of the first form that each
of them has. The bound on the depth may be any. -/
theorem parse_decoders_tfae (text : String) (numbers : List Number) (depth : Nat) :
    List.TFAE [
      parse text = .ok numbers,
      document (Number.listReader depth) (Utf8.encode text) = .ok numbers,
      ∃ value, document (Value.reader (depth + 1)) (Utf8.encode text) = .ok value ∧
        Number.listOfValue value = .ok numbers,
      ∃ values, document (Value.reader (depth + 1)) (Utf8.encode text) = .ok (.array values) ∧
        values.mapM Number.firstForm = .ok numbers] := by
  tfae_have 1 ↔ 2 := by
    rw [parse_eq_ok_iff, Number.document_listReader_eq_ok_iff (maxDepth - 1)]
    rfl
  tfae_have 2 ↔ 4 := by
    rw [← Number.ofValue_eq_firstForm]
    exact Number.document_listReader_eq_ok_iff depth
  tfae_have 3 ↔ 4 := by
    simp only [← Number.ofValue_eq_firstForm, Number.listOfValue_eq_ok_iff]
    constructor
    · rintro ⟨_, hvalue, values, rfl, h⟩
      exact ⟨values, hvalue, h⟩
    · rintro ⟨values, hvalues, h⟩
      exact ⟨_, hvalues, values, rfl, h⟩
  tfae_finish

end NumberList

end OneShot
