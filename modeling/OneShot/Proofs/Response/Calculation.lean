import OneShot.Proofs.Json.Spelling
import OneShot.Proofs.Response.Line

/-!
# Results that are told from no result

A calculation without a result is printed as `null`, and `null` is also what is written for a
floating point number that is not finite. The two never meet, since every result is finite: the text
is `null` exactly if there is no result, `Response.calculation_null_iff`.

What is printed for a result is read as a result again, with the sign that it had. The reader rounds
more than once, so the number may be another one; but it is finite, however large the result is.

## Main results

* `isFinite_of_mem_calculate` — a result is finite
* `Response.parseCalculation_spaces` — what is read of a result that was printed
* `Response.calculation_null_iff` — `null` stands for no result and for nothing else
-/

namespace OneShot

open Json

/-- Every result is finite. -/
theorem isFinite_of_mem_calculate {operation : String} {x y z : Binary64}
    (h : z ∈ calculate operation x y) : z.IsFinite := by
  obtain ⟨op, -, happly⟩ := Option.bind_eq_some_iff.1 h
  rw [Operation.apply] at happly
  dsimp only at happly
  split_ifs at happly with _ hfinite
  cases happly
  exact hfinite

/-- What is written for a number begins with its sign. -/
theorem Binary64.jsonLiteral_negative (x : Binary64) : x.jsonLiteral.negative = x.negative := by
  rw [jsonLiteral]
  split_ifs <;> rfl

namespace Response

/-- White space behind a result does not matter to its reader. -/
theorem parseCalculation_spaces (result : Option Binary64) {gap : List Char}
    (hgap : IsSpaces gap) :
    (parseCalculation (Utf8.encode ((calculation result).text ++ String.ofList gap))).mapError
      Fault.cause = calculationReply result := by
  rw [Utf8.encode_append, Utf8.encode_ofList, text, Value.text, Utf8.encode_ofList]
  exact document_gives (calculation_gives result) (stops_ofChars_spaces hgap)
    (skipSpace_ofChars_spaces hgap)

/-- A finite result is read as a finite result of the same sign. -/
theorem exists_calculationReply {x : Binary64} (hx : x.IsFinite) :
    ∃ y, calculationReply (some x) = .ok (some y) ∧ y.IsFinite ∧ y.negative = x.negative := by
  obtain ⟨y, hy⟩ := x.float_jsonLiteral_isOk hx
  refine ⟨y, calculationReply_some hx hy, Literal.float_isFinite hy, ?_⟩
  rw [Literal.float_negative hy, x.jsonLiteral_negative]

/-- A finite result is not printed like a missing one, since it is read as something else. -/
theorem calculation_text_ne_null {x : Binary64} (hx : x.IsFinite) :
    (calculation (some x)).text ≠ "null" := by
  intro htext
  have hnull : (calculation (some x)).text = (calculation none).text := htext
  obtain ⟨y, hy, -⟩ := exists_calculationReply hx
  have hread := parseCalculation_spaces (some x) isSpaces_nil
  rw [hnull, parseCalculation_spaces none isSpaces_nil, hy] at hread
  cases hread

/-- **`null` stands for no result and for nothing else.** The text that is printed for a calculation
is `null` exactly if there is no result; a result is finite, and its text, with any white space
behind it, is read as a finite result of the same sign. -/
theorem calculation_null_iff (operation : String) (x y : Binary64) :
    ((calculation (calculate operation x y)).text = "null" ↔ calculate operation x y = none) ∧
      ∀ z, calculate operation x y = some z → z.IsFinite ∧
        ∃ w, w.IsFinite ∧ w.negative = z.negative ∧ ∀ gap, IsSpaces gap →
          parseCalculation (Utf8.encode
            ((calculation (calculate operation x y)).text ++ String.ofList gap)) =
              .ok (some w) := by
  constructor
  · constructor
    · intro htext
      cases hresult : calculate operation x y with
      | none => rfl
      | some z =>
        rw [hresult] at htext
        exact absurd htext (calculation_text_ne_null (isFinite_of_mem_calculate hresult))
    · intro hnone
      rw [hnone]
      rfl
  · intro z hz
    have hfinite : z.IsFinite := isFinite_of_mem_calculate hz
    obtain ⟨w, hreply, hw, hsign⟩ := exists_calculationReply hfinite
    refine ⟨hfinite, w, hw, hsign, fun gap hgap => ?_⟩
    rw [hz]
    exact (eq_ok_iff_of_mapError (parseCalculation_spaces (some z) hgap)).2 hreply

/-- The negative number of the greatest magnitude, on a line. It is read as a neighbour of itself,
or as itself, but not as an infinity. -/
theorem calculation_null_iff_least :
    calculate "add" (.ofBits 0xFFEFFFFFFFFFFFFF) (.zero false) =
        some (.ofBits 0xFFEFFFFFFFFFFFFF) ∧
      IsSpaces ['\n'] ∧
      ∃ w, w.IsFinite ∧ w.negative = true ∧ parseCalculation (Utf8.encode
        ((calculation (calculate "add" (.ofBits 0xFFEFFFFFFFFFFFFF) (.zero false))).text ++
          String.ofList ['\n'])) = .ok (some w) := by
  have hsum : calculate "add" (.ofBits 0xFFEFFFFFFFFFFFFF) (.zero false) =
      some (.ofBits 0xFFEFFFFFFFFFFFFF) := by
    decide +kernel
  have hline : IsSpaces ['\n'] := List.forall_mem_singleton.2 (by decide)
  obtain ⟨-, hread⟩ := calculation_null_iff "add" (.ofBits 0xFFEFFFFFFFFFFFFF) (.zero false)
  obtain ⟨-, w, hw, hsign, hparse⟩ := hread _ hsum
  exact ⟨hsum, hline, w, hw, hsign, hparse _ hline⟩

end Response

end OneShot
