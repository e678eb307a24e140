import OneShot.Number.Json
import OneShot.Proofs.Json.Numeral
import OneShot.Proofs.Json.Record
import OneShot.Proofs.Json.Sequence

/-!
# Numbers in JSON written and read

What the readers of numbers make of what is written for a number. An integer comes back. A finite
floating point number comes back as the value of its literal, which is never out of range. For an
infinity or a NaN there is `null`, which is no number; where a number may be missing it is read as
one that is.

## Main definitions

* `Number.IsFinite` — neither an infinity nor a NaN
* `Number.rereadValue`, `Number.reply` — what is read of a number that was written, as a value and
  where a number has to stand

## Main results

* `Number.value_gives` — the value that is read of a number
* `Number.reader_gives`, `Number.listReader_gives` — the readers of numbers and of lists
* `Number.reply_isOk_iff` — exactly the finite numbers are read as numbers
-/

namespace OneShot

open Json

namespace Number

/-- Integers are finite, and floating point numbers if their values are. -/
def IsFinite : Number → Prop
  | .int _ => True
  | .float x => x.IsFinite

instance : (number : Number) → Decidable number.IsFinite
  | .int _ => inferInstanceAs (Decidable True)
  | .float x => inferInstanceAs (Decidable x.IsFinite)

theorem IsFinite.toBinary64_isFinite {number : Number} (h : number.IsFinite) :
    number.toBinary64.IsFinite := by
  cases number with
  | int value =>
    refine Binary64.ofInt_isFinite ?_
    have hrange := inRange_toInt value
    rw [InRange] at hrange
    omega
  | float x => exact h

/-- What is read of a number that was written. -/
def rereadValue : Number → Except Cause Value
  | .int value => .ok (.number (.integer value.toInt))
  | .float x =>
    if x.IsFinite then
      (x.jsonLiteral.float.mapError fun _ => Cause.numberOutOfRange).map fun y => .number (.float y)
    else .ok .null

/-! ### Readers -/

theorem value_gives (number : Number) (depth : Nat) :
    (Value.reader depth).Gives (Utf8.ofChars number.toValue.write) number.rereadValue := by
  cases number with
  | int value =>
    have hrange := inRange_toInt value
    have hgives := Value.literal_gives (Literal.ofInt_wellFormed value.toInt) depth
    rw [Literal.write_ofInt, Literal.outcome,
      Literal.numeral_ofInt hrange.1 (Int.lt_trans hrange.2 (by decide))] at hgives
    rw [toValue, Value.write, Numeral.write]
    exact hgives
  | float x =>
    rw [toValue, Value.write, Numeral.write, rereadValue]
    split_ifs with hx
    · have hgives := Value.literal_gives (Binary64.jsonLiteral_wellFormed hx) depth
      rw [Binary64.write_jsonLiteral, Literal.outcome_eq_float x.isInteger_jsonLiteral] at hgives
      cases hfloat : x.jsonLiteral.float with
      | error behind =>
        rw [hfloat] at hgives
        exact hgives
      | ok y =>
        rw [hfloat] at hgives
        exact hgives
    · exact Value.null_gives depth

/-- What is read of a number where a number has to stand. -/
def reply (number : Number) : Except Cause Number := number.rereadValue.bind ofValue

theorem reader_gives (number : Number) (depth : Nat) :
    (Number.reader depth).Gives (Utf8.ofChars number.toValue.write) number.reply :=
  fun rest hrest => (value_gives number depth rest hrest).bind fun value _ => by
    dsimp only
    cases ofValue value <;> rfl

/-- A number begins with a minus sign or a digit, and `null` with a letter. -/
theorem beginsScalar_write (number : Number) :
    BeginsScalar (Utf8.ofChars number.toValue.write) := by
  cases number with
  | int value =>
    rw [toValue, Value.write, Numeral.write, ← Literal.write_ofInt]
    exact Literal.beginsScalar_write (Literal.ofInt_wellFormed value.toInt)
  | float x =>
    rw [toValue, Value.write, Numeral.write]
    split_ifs with hx
    · rw [← Binary64.write_jsonLiteral]
      exact Literal.beginsScalar_write (Binary64.jsonLiteral_wellFormed hx)
    · exact beginsScalar_null

theorem listReader_gives (numbers : List Number) (depth : Nat) :
    (Number.listReader depth).Gives
      (Utf8.ofChars (Value.array (numbers.map toValue)).write) (numbers.mapM reply) := by
  intro rest _
  have hitems := items_gives (fun number _ => (beginsScalar_write number).admits)
    (fun number (_ : number ∈ numbers) => reader_gives number depth) rest
  rw [Value.ofChars_write_array, Bracket.series_map]
  exact hitems.mapError (Fault.cause_settle _ _)

/-! ### Which numbers are read -/

theorem rereadValue_eq_ok_number {number : Number} (h : number.IsFinite) :
    ∃ value, number.rereadValue = .ok (.number value) := by
  cases number with
  | int value => exact ⟨_, rfl⟩
  | float x =>
    obtain ⟨y, hy⟩ := x.float_jsonLiteral_isOk h
    exact ⟨.float y, by rw [rereadValue, if_pos (show x.IsFinite from h), hy]; rfl⟩

theorem rereadValue_eq_null {number : Number} (h : ¬number.IsFinite) :
    number.rereadValue = .ok .null := by
  cases number with
  | int value => exact absurd trivial h
  | float x => exact if_neg h

/-- Exactly the finite numbers are read as numbers. -/
theorem reply_isOk_iff {number : Number} : (∃ n, number.reply = .ok n) ↔ number.IsFinite := by
  constructor
  · rintro ⟨n, hn⟩
    by_contra h
    rw [reply, rereadValue_eq_null h] at hn
    cases hn
  · intro h
    obtain ⟨value, hvalue⟩ := rereadValue_eq_ok_number h
    exact ⟨ofNumeral value, by rw [reply, hvalue]; rfl⟩

/-- A list is read if all its numbers are. -/
theorem mapM_reply_isOk_iff {numbers : List Number} :
    (∃ read, numbers.mapM reply = .ok read) ↔ ∀ number ∈ numbers, number.IsFinite := by
  simp only [mapM_isOk_iff, reply_isOk_iff]

end Number

end OneShot
