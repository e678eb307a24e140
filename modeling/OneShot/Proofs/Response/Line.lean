import OneShot.Proofs.Json.Typed
import OneShot.Proofs.Response.Summary
import OneShot.Proofs.Text.Analysis

/-!
# Responses printed and read

What is read of the line of a response, for the three kinds of responses that are not summaries. A
greeting comes back, whatever characters it has, and so does an analysis as long as its counts have
at most 64 bits. The result of a calculation comes back as the value of its literal, which is close
to the result but need not be equal to it.

## Main definitions

* `TextAnalysis.count` — the count for a field
* `Response.calculationReply` — what is read of the result of a calculation

## Main results

* `Response.parseGreeting_line` — a greeting comes back
* `Response.parseCalculation_line`, `Response.exists_parseCalculation_line` — what is read of the
  result of a calculation
* `TextAnalysis.parse_line` — an analysis comes back
-/

namespace OneShot

open Json

/-! ### Greetings -/

theorem Response.parseGreeting_line (text : String) :
    parseGreeting (Utf8.encode ((greeting text).text ++ "\n")) = .ok text :=
  (eq_ok_iff_of_mapError (@document_line _ _ (.string text) _ (textReader_gives text))).2 rfl

/-! ### Calculations -/

namespace Number

theorem beginsScalar_optional (number : Option Number) :
    BeginsScalar (Utf8.ofChars (Value.ofOption toValue number).write) := by
  cases number with
  | none => exact beginsScalar_null
  | some number => exact beginsScalar_write number

end Number

namespace Response

/-- What is read of the result of a calculation. -/
def calculationReply (result : Option Binary64) : Except Cause (Option Binary64) :=
  (Number.rereadOptional (result.map Number.float)).bind asOptionalFloat

theorem calculation_toValue (result : Option Binary64) :
    (calculation result).toValue = Value.ofOption Number.toValue (result.map Number.float) := by
  cases result <;> rfl

theorem calculation_gives (result : Option Binary64) : optionalFloatReader.Gives
    (Utf8.ofChars (calculation result).toValue.write) (calculationReply result) := by
  rw [calculation_toValue]
  exact scalarReader_gives (Number.beginsScalar_optional _) (Number.optionalValue_gives _ 0)

theorem parseCalculation_line (result : Option Binary64) :
    (parseCalculation (Utf8.encode ((calculation result).text ++ "\n"))).mapError Fault.cause =
      calculationReply result :=
  document_line (calculation_gives result)

/-- A finite result is read as the value of its literal. -/
theorem calculationReply_some {x y : Binary64} (hx : x.IsFinite) (h : x.jsonLiteral.float = .ok y) :
    calculationReply (some x) = .ok (some y) := by
  rw [calculationReply, Option.map_some, Number.rereadOptional, Number.rereadValue, if_pos hx, h]
  rfl

/-- **Every finite result can be read**: no result as none, and a result as the value of its
literal. -/
theorem exists_parseCalculation_line {result : Option Binary64} (h : ∀ x ∈ result, x.IsFinite) :
    ∃ read, parseCalculation (Utf8.encode ((calculation result).text ++ "\n")) = .ok read ∧
      Option.Rel (fun x y => x.jsonLiteral.float = .ok y) result read := by
  have hline {read : Option Binary64} := @eq_ok_iff_of_mapError _ _ _ _ _ _
    (parseCalculation_line result) read
  cases result with
  | none => exact ⟨none, hline.2 rfl, .none⟩
  | some x =>
    have hx : x.IsFinite := h x rfl
    obtain ⟨y, hy⟩ := x.float_jsonLiteral_isOk hx
    exact ⟨some y, hline.2 (calculationReply_some hx hy), .some hy⟩

end Response

/-! ### Analyses -/

namespace TextAnalysis

/-- The count for a field. -/
def count (analysis : TextAnalysis) : Field → Nat
  | .characterCount => analysis.characterCount
  | .wordCount => analysis.wordCount
  | .uniqueWords => analysis.uniqueWords
  | .uppercaseCount => analysis.uppercaseCount
  | .lowercaseCount => analysis.lowercaseCount

/-- The text that is printed for a field. -/
def fieldText (analysis : TextAnalysis) (f : Field) : List Char := writeInteger (analysis.count f)

/-- What is read of a field that was printed. -/
def fieldReply (analysis : TextAnalysis) (f : Field) : Except Cause Nat := .ok (analysis.count f)

theorem write_toValue (analysis : TextAnalysis) :
    analysis.toValue.write = schema.writeObject analysis.fieldText schema.fields := rfl

theorem field_gives {analysis : TextAnalysis} {f : Field}
    (h : analysis.count f < 0x10000000000000000) :
    countReader.Gives (Utf8.ofChars (analysis.fieldText f)) (analysis.fieldReply f) :=
  countReader_gives h

theorem foldlM_enter_eq_self (analysis : TextAnalysis) :
    (schema.fields.foldlM (schema.enter analysis.fieldReply) schema.blank).bind schema.build =
      .ok analysis := rfl

/-- **An analysis comes back**, if its counts have at most 64 bits. -/
theorem parse_line {analysis : TextAnalysis}
    (h : ∀ f, analysis.count f < 0x10000000000000000) :
    parse (Utf8.encode (analysis.toValue.text ++ "\n")) = .ok analysis := by
  have hgives : schema.reader.Gives
      (Utf8.ofChars (schema.writeObject analysis.fieldText schema.fields)) _ :=
    Schema.reader_gives (fun f _ => by cases f <;> rfl) fun f _ => field_gives (h f)
  rw [foldlM_enter_eq_self, ← write_toValue] at hgives
  exact (eq_ok_iff_of_mapError (document_line hgives)).2 rfl

/-- No count exceeds the number of characters. -/
theorem count_ofText_le (text : String) (f : Field) : (ofText text).count f ≤ text.length := by
  obtain ⟨hunique, hwords, hcases⟩ := ofText_le text
  have hlength : (ofText text).characterCount = text.length := String.length_toList
  cases f <;> dsimp only [count] <;> omega

end TextAnalysis

end OneShot
