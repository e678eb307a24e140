import OneShot.Proofs.Json.Series
import OneShot.Proofs.Number.List
import OneShot.Request.Basic

/-!
# What a list argument keeps

The list argument of a request says of every element which form it has and, if it is an integer,
which one; of a floating point number the digits are shown, but what is read need not be the same
number. So a list that is read back has the same shape: the forms, the integers and the signs, zeros
included. It is read back unless an element is not finite, when the text is not JSON, or out of
range, which only the digits of a very large number can be.

## Main definitions

* `Number.SameShape` — what two elements have in common if one is read of the text of the other

## Main results

* `Number.sameShape_of_outcome` — the shape of one element
* `NumberList.parse_words_processList` — the shape of a list argument
-/

namespace OneShot

open Json

/-! ### Elements -/

namespace Number

/-- The same form, the same integer, and the same sign of a floating point number; the second one
is finite. -/
inductive SameShape : Number → Number → Prop where
  | int (value : Int64) : SameShape (.int value) (.int value)
  | float {x y : Binary64} (finite : y.IsFinite) (sign : y.negative = x.negative) :
      SameShape (.float x) (.float y)

variable {number : Number} {value : Numeral}

theorem isFinite_of_outcome (h : number.outcome = .ok value) : number.IsFinite := by
  by_contra hfinite
  rw [outcome, if_neg hfinite] at h
  split_ifs at h

/-- **An element that is read back keeps its shape.** -/
theorem sameShape_of_outcome (h : number.outcome = .ok value) :
    SameShape number (ofNumeral value) := by
  have hreread : number.reread = .ok (ofNumeral value) := by
    rw [outcome, if_pos (isFinite_of_outcome h)] at h
    rw [reread, h]
    rfl
  cases number with
  | int i =>
    rw [← Except.ok.inj ((reread_int i).symm.trans hreread)]
    exact .int i
  | float x =>
    rw [reread_float] at hreread
    obtain ⟨y, hy, hvalue⟩ := map_eq_ok.1 hreread
    rw [mapError_eq_ok] at hy
    rw [← hvalue]
    exact .float (Literal.float_isFinite hy) (Literal.float_negative hy)

/-- A finite element is refused only because it is out of range. -/
theorem cause_of_outcome {cause : Cause} (hfinite : number.IsFinite)
    (h : number.outcome = .error cause) : cause = .numberOutOfRange := by
  rw [outcome, if_pos hfinite, Literal.outcome] at h
  cases hvalue : number.literal.numeral with
  | error behind =>
    rw [hvalue] at h
    cases h
    rfl
  | ok value =>
    rw [hvalue] at h
    cases h

end Number

/-! ### Lists -/

namespace NumberList

/-- **The shape of a list argument.** If an element is an infinity or a NaN, the text that is
written for the list is refused, since it is not JSON. If all of them are finite, the text is read
as a list of the same shape, or refused because a number is out of range. -/
theorem parse_words_processList (numbers : List Number) :
    ∃ text, (Request.processList numbers).words = ["process_list", text] ∧
      ((∃ number ∈ numbers, ¬number.IsFinite) →
        ∃ fault, parse text = .error (.notJson (Utf8.encode text) fault)) ∧
      ((∀ number ∈ numbers, number.IsFinite) →
        (∃ fault, parse text = .error (.notJson (Utf8.encode text) fault) ∧
          fault.cause = .numberOutOfRange) ∨
        ∃ read, parse text = .ok read ∧ List.Forall₂ Number.SameShape numbers read) := by
  refine ⟨write numbers, rfl, ?_⟩
  obtain ⟨values, hvalues, hparse⟩ | ⟨fault, hfault, hparse⟩ := parse_write_cases numbers
  · constructor
    · rintro ⟨number, hmem, hnumber⟩
      obtain ⟨value, houtcome⟩ := mapM_isOk_iff.1 ⟨values, hvalues⟩ number hmem
      exact absurd (Number.isFinite_of_outcome houtcome) hnumber
    · intro _
      refine .inr ⟨values.map Number.ofNumeral, hparse, List.forall₂_map_right_iff.2 ?_⟩
      exact (mapM_eq_ok_iff_forall₂.1 hvalues).imp fun _ _ h => Number.sameShape_of_outcome h
  · constructor
    · intro _
      exact ⟨fault, hparse⟩
    · intro hfinite
      obtain ⟨number, hmem, houtcome⟩ := exists_of_mapM_eq_error hfault
      exact .inl ⟨fault, hparse, Number.cause_of_outcome (hfinite number hmem) houtcome⟩

/-- A list with an infinity, and a list with the least integer and minus zero. -/
theorem parse_words_processList_infinity_zero :
    ((∃ number ∈ [Number.int 1, .float (.infinity true)], ¬number.IsFinite) ∧
      ∃ text fault, (Request.processList [.int 1, .float (.infinity true)]).words =
        ["process_list", text] ∧ parse text = .error (.notJson (Utf8.encode text) fault)) ∧
    ((∀ number ∈ [Number.int (-0x8000000000000000), .float (.zero true)], number.IsFinite) ∧
      ∃ text, (Request.processList [.int (-0x8000000000000000), .float (.zero true)]).words =
          ["process_list", text] ∧
        ((∃ fault, parse text = .error (.notJson (Utf8.encode text) fault) ∧
          fault.cause = .numberOutOfRange) ∨
        ∃ read, parse text = .ok read ∧ List.Forall₂ Number.SameShape
          [.int (-0x8000000000000000), .float (.zero true)] read)) := by
  have hinfinite : ∃ number ∈ [Number.int 1, .float (.infinity true)], ¬number.IsFinite := by
    decide +kernel
  have hfinite : ∀ number ∈ [Number.int (-0x8000000000000000), .float (.zero true)],
      number.IsFinite := by
    decide +kernel
  obtain ⟨text, hwords, hrefused, -⟩ :=
    parse_words_processList [.int 1, .float (.infinity true)]
  obtain ⟨fault, hfault⟩ := hrefused hinfinite
  obtain ⟨text', hwords', -, hread⟩ :=
    parse_words_processList [.int (-0x8000000000000000), .float (.zero true)]
  exact ⟨⟨hinfinite, text, fault, hwords, hfault⟩, hfinite, text', hwords', hread hfinite⟩

end NumberList

end OneShot
