import OneShot.Program
import OneShot.Proofs.Number.List
import OneShot.Proofs.Summary
import OneShot.Response.Reader

/-!
# Summaries printed and read

A summary is printed as an object of five members on one line, and `Summary.parse_line` says what is
read of this line, as a whole. A sum or an average that is not finite is printed as `null`, where
the reader of summaries needs a number; an extreme may be missing, so there the `null` is read as
such.

For the summary of a list that was read, all but the sum is finite as soon as the sum is. If the
list cannot be sorted nothing is printed, and of nothing no summary is read. So the lists that can
be sorted and have a finite sum are those whose summaries can be read,
`Summary.parse_stdout_isOk_iff`; and there are lists of finite numbers whose sum is infinite.

## Main definitions

* `Summary.reply` — what is read of a summary that was printed

## Main results

* `Summary.parse_line` — what is read of the line of a summary
* `Summary.parse_line_isOk_iff` — the summaries whose lines can be read
* `Summary.parse_stdout_isOk_iff` — the lists whose summaries can be read
-/

namespace OneShot

open Json

/-! ### Numbers that may be missing -/

namespace Number

/-- What is read of a number that may be missing, as a value. -/
def rereadOptional : Option Number → Except Cause Value
  | none => .ok .null
  | some number => number.rereadValue

/-- What is read of it where a number may be missing. -/
def optionalReply (number : Option Number) : Except Cause (Option Number) :=
  (rereadOptional number).bind Summary.optionalNumber

theorem optionalValue_gives (number : Option Number) (depth : Nat) :
    (Value.reader depth).Gives (Utf8.ofChars (Value.ofOption toValue number).write)
      (rereadOptional number) := by
  cases number with
  | none => exact Value.null_gives depth
  | some number => exact value_gives number depth

/-- Where a number may be missing every number can be read: one that is not finite is missed. -/
theorem optionalReply_isOk (number : Option Number) :
    ∃ read, optionalReply number = .ok read := by
  cases number with
  | none => exact ⟨none, rfl⟩
  | some number =>
    by_cases h : number.IsFinite
    · obtain ⟨value, hvalue⟩ := rereadValue_eq_ok_number h
      exact ⟨some (.ofNumeral value), by rw [optionalReply, rereadOptional, hvalue]; rfl⟩
    · exact ⟨none, by rw [optionalReply, rereadOptional, rereadValue_eq_null h]; rfl⟩

end Number

namespace Summary

/-! ### The fields of a summary -/

/-- The text that is printed for a field. -/
def fieldText (summary : Summary) : Field → List Char
  | .sum => summary.sum.toValue.write
  | .average => summary.average.toValue.write
  | .min => (Value.ofOption Number.toValue summary.min).write
  | .max => (Value.ofOption Number.toValue summary.max).write
  | .sorted => (Value.array (summary.sorted.map Number.toValue)).write

/-- What is read of a field. -/
def fieldReply (summary : Summary) : (f : Field) → Except Cause f.Content
  | .sum => summary.sum.reply
  | .average => summary.average.reply
  | .min => Number.optionalReply summary.min
  | .max => Number.optionalReply summary.max
  | .sorted => summary.sorted.mapM Number.reply

theorem write_toValue (summary : Summary) :
    summary.toValue.write = schema.writeObject summary.fieldText schema.fields := rfl

theorem optional_gives (number : Option Number) :
    (Field.reader .min).Gives (Utf8.ofChars (Value.ofOption Number.toValue number).write)
      (Number.optionalReply number) :=
  fun rest hrest => (Number.optionalValue_gives number _ rest hrest).bind fun value _ => by
    dsimp only
    cases optionalNumber value <;> rfl

theorem field_gives (summary : Summary) (f : Field) :
    f.reader.Gives (Utf8.ofChars (summary.fieldText f)) (summary.fieldReply f) := by
  cases f with
  | sum => exact Number.reader_gives _ _
  | average => exact Number.reader_gives _ _
  | min => exact optional_gives _
  | max => exact optional_gives _
  | sorted => exact Number.listReader_gives _ _

/-! ### Whole summaries -/

/-- What is read of a summary that was printed. -/
def reply (summary : Summary) : Except Cause Summary := do
  let sum ← summary.sum.reply
  let average ← summary.average.reply
  let min ← Number.optionalReply summary.min
  let max ← Number.optionalReply summary.max
  let sorted ← summary.sorted.mapM Number.reply
  .ok ⟨sum, average, min, max, sorted⟩

/-- The fields of a summary are read one after another, and the first that cannot be read is the
one that counts. -/
theorem foldlM_enter_eq_reply (summary : Summary) :
    (schema.fields.foldlM (schema.enter summary.fieldReply) schema.blank).bind schema.build =
      summary.reply := by
  rw [reply]
  refine (Schema.foldlM_enter_bind rfl _).trans (bind_congr fun sum => ?_)
  refine (Schema.foldlM_enter_bind rfl _).trans (bind_congr fun average => ?_)
  refine (Schema.foldlM_enter_bind rfl _).trans (bind_congr fun min => ?_)
  refine (Schema.foldlM_enter_bind rfl _).trans (bind_congr fun max => ?_)
  refine (Schema.foldlM_enter_bind rfl _).trans (bind_congr fun sorted => ?_)
  rfl

theorem parse_line (summary : Summary) :
    (Summary.parse (Utf8.encode (summary.toValue.text ++ "\n"))).mapError Fault.cause =
      summary.reply := by
  have hgives : schema.reader.Gives (Utf8.ofChars (schema.writeObject summary.fieldText
      schema.fields)) _ :=
    Schema.reader_gives (fun f _ => by cases f <;> rfl) fun f _ => field_gives summary f
  rw [foldlM_enter_eq_reply, ← write_toValue] at hgives
  exact document_line hgives

/-- **The summaries whose lines can be read**: those with a finite sum, a finite average, and finite
numbers in the sorted list. -/
theorem parse_line_isOk_iff (summary : Summary) :
    (∃ read, Summary.parse (Utf8.encode (summary.toValue.text ++ "\n")) = .ok read) ↔
      summary.sum.IsFinite ∧ summary.average.IsFinite ∧
        ∀ number ∈ summary.sorted, number.IsFinite := by
  simp only [eq_ok_iff_of_mapError (parse_line summary)]
  rw [← Number.reply_isOk_iff, ← Number.reply_isOk_iff, ← Number.mapM_reply_isOk_iff]
  constructor
  · rintro ⟨read, hread⟩
    obtain ⟨sum, hsum, hread⟩ := bind_eq_ok.1 hread
    obtain ⟨average, haverage, hread⟩ := bind_eq_ok.1 hread
    obtain ⟨min, -, hread⟩ := bind_eq_ok.1 hread
    obtain ⟨max, -, hread⟩ := bind_eq_ok.1 hread
    obtain ⟨sorted, hsorted, -⟩ := bind_eq_ok.1 hread
    exact ⟨⟨sum, hsum⟩, ⟨average, haverage⟩, ⟨sorted, hsorted⟩⟩
  · rintro ⟨⟨sum, hsum⟩, ⟨average, haverage⟩, ⟨sorted, hsorted⟩⟩
    obtain ⟨min, hmin⟩ := Number.optionalReply_isOk summary.min
    obtain ⟨max, hmax⟩ := Number.optionalReply_isOk summary.max
    exact ⟨⟨sum, average, min, max, sorted⟩, by
      rw [reply, hsum, haverage, hmin, hmax, hsorted]
      rfl⟩

/-! ### Lists that were read -/

theorem ofSorted_line_isOk_iff {numbers sorted : List Number}
    (h : ∀ number ∈ numbers, number.IsFinite) (hsort : sort numbers = some sorted) :
    (∃ read, Summary.parse (Utf8.encode ((ofSorted numbers sorted).toValue.text ++ "\n")) =
      .ok read) ↔ (total numbers).IsFinite := by
  rw [parse_line_isOk_iff]
  constructor
  · rintro ⟨hsum, -, -⟩
    exact hsum
  · intro hsum
    refine ⟨hsum, mean_isFinite hsum, fun number hmem => ?_⟩
    exact h number ((sort_perm hsort).mem_iff.1 hmem)

/-- What is printed for a list: the line of its summary, or nothing. -/
theorem stdout_processList {text : String} {numbers : List Number}
    (h : NumberList.parse text = .ok numbers) (format : Log.Format) (filter : Log.Filter) :
    (Program.follow format filter (.processList text)).stdout =
      (sort numbers).elim "" fun sorted => (ofSorted numbers sorted).toValue.text ++ "\n" := by
  rw [Program.follow, Instruction.request, h]
  change (Program.answer format filter (.processList numbers)).stdout = _
  rw [Program.answer, Request.respond, ofList]
  cases sort numbers <;> rfl

/-- No summary is read of nothing. -/
theorem not_parse_empty : ¬∃ summary, Summary.parse (Utf8.encode "") = .ok summary := by
  rintro ⟨summary, hsummary⟩
  cases hsummary

/-- **The lists whose summaries can be read.** What the program prints for a list that it has read
is the line of a summary exactly if the list can be sorted and its sum is finite. -/
theorem parse_stdout_isOk_iff {text : String} {numbers : List Number}
    (h : NumberList.parse text = .ok numbers) (format : Log.Format) (filter : Log.Filter) :
    (∃ summary, Summary.parse
        (Utf8.encode (Program.follow format filter (.processList text)).stdout) = .ok summary) ↔
      (∃ sorted, sort numbers = some sorted) ∧ (total numbers).IsFinite := by
  rw [stdout_processList h]
  cases hsort : sort numbers with
  | none => exact iff_of_false not_parse_empty nofun
  | some sorted =>
    rw [Option.elim_some, ofSorted_line_isOk_iff (NumberList.isFinite_of_parse h) hsort]
    exact (and_iff_right ⟨sorted, rfl⟩).symm

/-- The summary of a short list can be read. -/
theorem parse_stdout_one_half :
    NumberList.parse (NumberList.write [.int 1, .float (.ofBits 0x3FE0000000000000)]) =
        .ok [.int 1, .float (.ofBits 0x3FE0000000000000)] ∧
      ∃ summary, Summary.parse (Utf8.encode (Program.follow .text Log.Filter.standard
        (.processList (NumberList.write [.int 1, .float (.ofBits 0x3FE0000000000000)]))).stdout) =
          .ok summary := by
  have hread : NumberList.parse (NumberList.write [.int 1, .float (.ofBits 0x3FE0000000000000)]) =
      .ok [.int 1, .float (.ofBits 0x3FE0000000000000)] := by
    refine NumberList.parse_write_of_isShort (by decide +kernel) fun x hmem => ?_
    rcases List.mem_cons.1 hmem with hx | hx
    · cases hx
    · cases List.mem_singleton.1 hx
      decide +kernel
  exact ⟨hread, (parse_stdout_isOk_iff hread .text Log.Filter.standard).2
    ⟨⟨_, rfl⟩, by decide +kernel⟩⟩

/-- Twice `1e308`, both numbers in range and their sum not. -/
theorem not_parse_stdout :
    NumberList.parse (NumberList.write
        [.float (.ofBits 0x7FE1CCF385EBC8A0), .float (.ofBits 0x7FE1CCF385EBC8A0)]) =
        .ok [.float (.ofBits 0x7FE1CCF385EBC8A0), .float (.ofBits 0x7FE1CCF385EBC8A0)] ∧
      ¬∃ summary, Summary.parse (Utf8.encode (Program.follow .text Log.Filter.standard
        (.processList (NumberList.write
          [.float (.ofBits 0x7FE1CCF385EBC8A0), .float (.ofBits 0x7FE1CCF385EBC8A0)]))).stdout) =
          .ok summary := by
  have hfinite : ∀ number ∈ [Number.float (.ofBits 0x7FE1CCF385EBC8A0),
      .float (.ofBits 0x7FE1CCF385EBC8A0)], number.IsFinite := by
    decide +kernel
  have hvalue : (Binary64.ofBits 0x7FE1CCF385EBC8A0).listLiteral.float =
      .ok (.ofBits 0x7FE1CCF385EBC8A0) := by
    decide +kernel
  have hread : NumberList.parse (NumberList.write
      [.float (.ofBits 0x7FE1CCF385EBC8A0), .float (.ofBits 0x7FE1CCF385EBC8A0)]) =
      .ok [.float (.ofBits 0x7FE1CCF385EBC8A0), .float (.ofBits 0x7FE1CCF385EBC8A0)] := by
    rw [NumberList.parse_write_eq_ok_iff hfinite, List.mapM_cons, List.mapM_cons,
      Number.reread_float, hvalue]
    rfl
  refine ⟨hread, ?_⟩
  rw [stdout_processList hread, sort_of_length_le (by decide), Option.elim_some,
    ofSorted_line_isOk_iff hfinite (sort_of_length_le (by decide))]
  decide +kernel

end Summary

end OneShot
