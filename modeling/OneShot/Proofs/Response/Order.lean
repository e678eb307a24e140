import Mathlib.Logic.Function.Basic
import OneShot.Proofs.Json.Members
import OneShot.Proofs.Number.Decoders
import OneShot.Response.Reader

/-!
# Responses in any order

A helper need not be the program that is described here, so it may write the members of a summary or
an analysis in any order, among other members and with any white space. The client reads the same
from all such texts, `Response.parse_presented`. An extreme that is left out is read like one that
is `null`.

## Main results

* `Summary.schema_regular`, `TextAnalysis.schema_regular` — fields may be in any order
* `Summary.ofText?_null_iff` — extremes that are left out
* `Response.parse_presented` — what is read depends only on what the members are given
-/

namespace OneShot

open Json

/-! ### Types of contents -/

theorem Number.reader_types (depth : Nat) : (reader depth).Types ofValue depth := fun _ _ _ =>
  reader_run_eq_ok_iff depth

theorem Number.listReader_types (depth : Nat) :
    (listReader depth).Types listOfValue (depth + 1) := by
  intro s rest numbers
  rw [listReader_run_eq_ok_iff_mapM depth]
  simp only [listOfValue_eq_ok_iff]
  constructor
  · rintro ⟨values, hread, hnumbers⟩
    exact ⟨_, hread, values, rfl, hnumbers⟩
  · rintro ⟨_, hread, values, rfl, hnumbers⟩
    exact ⟨values, hread, hnumbers⟩

namespace Summary

/-- The reader of an extreme takes any value and asks for a number or `null`. -/
theorem minReader_types : (Field.reader .min).Types optionalNumber (maxDepth - 1) := by
  intro s rest number
  change readOptional (maxDepth - 1) s = _ ↔ _
  rw [readOptional, bind_eq_ok]
  constructor
  · rintro ⟨⟨value, t⟩, hvalue, h⟩
    dsimp only at h
    split at h
    · rename_i heq
      cases h
      exact ⟨value, hvalue, heq⟩
    · cases h
  · rintro ⟨value, hvalue, heq⟩
    refine ⟨(value, rest), hvalue, ?_⟩
    dsimp only
    rw [heq]

theorem schema_regular : schema.Regular where
  nodup := by decide
  field?_name f := by cases f <;> rfl
  asksValues f := by
    cases f with
    | sum | average => exact ⟨_, _, Number.reader_types _⟩
    | min | max => exact ⟨_, _, minReader_types⟩
    | sorted => exact ⟨_, _, Number.listReader_types _⟩

/-- An extreme may be left out instead of being `null`. -/
theorem ofText?_null_iff {given : Field → Option (List Char)} {f : Field}
    (hf : f ∈ [Field.min, Field.max]) (hmissing : given f = none) {cs cs' : List Char}
    (hcs : schema.Presents given cs)
    (hcs' : schema.Presents (Function.update given f (some "null".toList)) cs')
    {summary : Summary} :
    schema.reader.ofText? cs = some summary ↔ schema.reader.ofText? cs' = some summary := by
  rcases List.mem_cons.1 hf with rfl | hf
  · have hnull : (schema.content Field.min).ofText? "null".toList = some none :=
      show (Field.reader .min).ofText? _ = _ by decide +kernel
    refine schema_regular.ofText?_missing_iff hnull (fun {draft} hdraft => ?_) hmissing hcs hcs'
    change draft .min = none at hdraft
    simp only [schema, hdraft]
    rfl
  · cases List.mem_singleton.1 hf
    have hnull : (schema.content Field.max).ofText? "null".toList = some none :=
      show (Field.reader .max).ofText? _ = _ by decide +kernel
    refine schema_regular.ofText?_missing_iff hnull (fun {draft} hdraft => ?_) hmissing hcs hcs'
    change draft .max = none at hdraft
    simp only [schema, hdraft]
    rfl

theorem parse_eq_ok_iff {text : String} {summary : Summary} :
    parse (Utf8.encode text) = .ok summary ↔ schema.reader.ofText? text.toList = some summary := by
  rw [Reader.ofText?_eq_some_iff, Utf8.encode_eq_ofChars_iff.2 rfl]
  rfl

end Summary

namespace TextAnalysis

theorem schema_regular : schema.Regular where
  nodup := by decide
  field?_name f := by cases f <;> rfl
  asksValues _ := ⟨_, 0, countReader_types 0⟩

theorem parse_eq_ok_iff {text : String} {analysis : TextAnalysis} :
    parse (Utf8.encode text) = .ok analysis ↔
      schema.reader.ofText? text.toList = some analysis := by
  rw [Reader.ofText?_eq_some_iff, Utf8.encode_eq_ofChars_iff.2 rfl]
  rfl

end TextAnalysis

/-! ### Responses -/

/-- **Responses may have their members in any order.** A summary or an analysis is read from one of
the objects that give its members some texts exactly if it is read from all of them: the members may
stand in any order, with any white space between tokens, and among any members of other names. It is
read exactly if it is built of what is read of the texts of its members, each on its own. An extreme
that is left out is read like one that is `null`. -/
theorem Response.parse_presented :
    (∀ (given : Summary.Field → Option (List Char)) (text : String) (summary : Summary),
      Summary.schema.Presents given text.toList →
        (Summary.parse (Utf8.encode text) = .ok summary ↔
          ∀ text' : String, Summary.schema.Presents given text'.toList →
            Summary.parse (Utf8.encode text') = .ok summary) ∧
        (Summary.parse (Utf8.encode text) = .ok summary ↔ ∃ draft,
          Summary.schema.Holds given draft ∧ Summary.schema.build draft = .ok summary)) ∧
    (∀ (given : TextAnalysis.Field → Option (List Char)) (text : String) (analysis : TextAnalysis),
      TextAnalysis.schema.Presents given text.toList →
        (TextAnalysis.parse (Utf8.encode text) = .ok analysis ↔
          ∀ text' : String, TextAnalysis.schema.Presents given text'.toList →
            TextAnalysis.parse (Utf8.encode text') = .ok analysis) ∧
        (TextAnalysis.parse (Utf8.encode text) = .ok analysis ↔ ∃ draft,
          TextAnalysis.schema.Holds given draft ∧
            TextAnalysis.schema.build draft = .ok analysis)) ∧
    ∀ (given : Summary.Field → Option (List Char)) (f : Summary.Field) (text text' : String)
      (summary : Summary), f ∈ [Summary.Field.min, Summary.Field.max] → given f = none →
        Summary.schema.Presents given text.toList →
        Summary.schema.Presents (Function.update given f (some "null".toList)) text'.toList →
          (Summary.parse (Utf8.encode text) = .ok summary ↔
            Summary.parse (Utf8.encode text') = .ok summary) := by
  refine ⟨fun given text summary htext => ?_, fun given text analysis htext => ?_,
    fun given f text text' summary hf hmissing htext htext' => ?_⟩
  · simp only [Summary.parse_eq_ok_iff]
    refine ⟨⟨fun h text' htext' => ?_, fun h => h text htext⟩,
      Summary.schema_regular.ofText?_eq_some_iff htext⟩
    rw [← Summary.schema_regular.ofText?_congr htext htext', h]
  · simp only [TextAnalysis.parse_eq_ok_iff]
    refine ⟨⟨fun h text' htext' => ?_, fun h => h text htext⟩,
      TextAnalysis.schema_regular.ofText?_eq_some_iff htext⟩
    rw [← TextAnalysis.schema_regular.ofText?_congr htext htext', h]
  · rw [Summary.parse_eq_ok_iff, Summary.parse_eq_ok_iff]
    exact Summary.ofText?_null_iff hf hmissing htext htext'

/-! ### An example -/

namespace Summary

/-- The texts of a summary of two numbers, the least of which is left out. -/
def textsOfTwo : Field → Option (List Char)
  | .sum => some "4".toList
  | .average => some "2".toList
  | .min => none
  | .max => some "3".toList
  | .sorted => some "[1,3]".toList

theorem isText_textsOfTwo : ∀ f, ∀ text ∈ textsOfTwo f, IsText text
  | .sum, _, rfl => Value.isText_write (.number (.integer 4))
  | .average, _, rfl => Value.isText_write (.number (.integer 2))
  | .max, _, rfl => Value.isText_write (.number (.integer 3))
  | .sorted, _, rfl => Value.isText_write (.array [.number (.integer 1), .number (.integer 3)])

theorem presents_two : schema.Presents textsOfTwo
    "\x7b\"sum\":4,\"average\":2,\"max\":3,\"sorted\":[1,3]\x7d".toList :=
  Schema.presents_of_perm _ [] isText_textsOfTwo nofun (List.Perm.refl _)
    ⟨[], _, [], isSpaces_nil, ⟨[], isSpaces_nil, rfl⟩, isSpaces_nil, rfl⟩

/-- In another order, with white space, and with a member that has another name. -/
theorem presents_two_mixed : schema.Presents textsOfTwo
    (" \x7b\n\"sorted\":[1,3],\"unit\":\x7b\"sum\":[]\x7d,\"max\":3," ++
      "\"average\":2,\"sum\":4\x7d\n").toList := by
  have hspace : IsSpaces [' '] := List.forall_mem_singleton.2 (by decide)
  have hline : IsSpaces ['\n'] := List.forall_mem_singleton.2 (by decide)
  have hunit : schema.IsOther ("\"unit\"".toList, "\x7b\"sum\":[]\x7d".toList) :=
    ⟨⟨"unit", ⟨[], _, [], isSpaces_nil, Quoted.isText_write "unit", isSpaces_nil, rfl⟩, by decide⟩,
      Value.isText_write (.object [("sum", .array [])])⟩
  refine Schema.presents_of_perm [("\"sorted\"".toList, "[1,3]".toList),
    ("\"unit\"".toList, "\x7b\"sum\":[]\x7d".toList), ("\"max\"".toList, "3".toList),
    ("\"average\"".toList, "2".toList), ("\"sum\"".toList, "4".toList)] _
    isText_textsOfTwo (List.forall_mem_singleton.2 hunit) (by decide) ?_
  exact ⟨[' '], _, ['\n'], hspace, ⟨['\n'], hline, rfl⟩, hline, rfl⟩

theorem presents_two_null :
    schema.Presents (Function.update textsOfTwo .min (some "null".toList))
      "\x7b\"sum\":4,\"average\":2,\"min\":null,\"max\":3,\"sorted\":[1,3]\x7d".toList := by
  refine Schema.presents_of_perm _ [] ?_ nofun (List.Perm.refl _)
    ⟨[], _, [], isSpaces_nil, ⟨[], isSpaces_nil, rfl⟩, isSpaces_nil, rfl⟩
  refine (Function.forall_update_iff _ fun _ given => ∀ text ∈ given, IsText text).2
    ⟨?_, fun f _ => isText_textsOfTwo f⟩
  rintro _ ⟨⟩
  exact Value.isText_write .null

end Summary

/-- An analysis all of whose counts are two, with its members in any order. -/
theorem TextAnalysis.presents_twos {fields : List TextAnalysis.Field}
    (h : fields.Perm schema.fields) {cs : List Char}
    (hcs : Schema.IsObjectText (fields.map fun f => schema.writtenMember (f, "2".toList)) cs) :
    schema.Presents (fun _ => some "2".toList) cs := by
  refine Schema.presents_of_perm _ [] ?_ nofun (h.map _) hcs
  rintro f _ ⟨⟩
  exact Value.isText_write (.number (.integer 2))

/-- A summary with its members in order, in another order, and with a `null`; and an analysis with
its members in order and the other way round. -/
theorem Response.parse_presented_two :
    Summary.parse (Utf8.encode
        "\x7b\"sum\":4,\"average\":2,\"max\":3,\"sorted\":[1,3]\x7d") =
        .ok ⟨.int 4, .int 2, none, some (.int 3), [.int 1, .int 3]⟩ ∧
      Summary.parse (Utf8.encode (" \x7b\n\"sorted\":[1,3],\"unit\":\x7b\"sum\":[]\x7d," ++
        "\"max\":3,\"average\":2,\"sum\":4\x7d\n")) =
        .ok ⟨.int 4, .int 2, none, some (.int 3), [.int 1, .int 3]⟩ ∧
      Summary.parse (Utf8.encode
        "\x7b\"sum\":4,\"average\":2,\"min\":null,\"max\":3,\"sorted\":[1,3]\x7d") =
        .ok ⟨.int 4, .int 2, none, some (.int 3), [.int 1, .int 3]⟩ ∧
      TextAnalysis.parse (Utf8.encode ("\x7b\"lowercase_count\":2,\"uppercase_count\":2," ++
        "\"unique_words\":2,\"word_count\":2,\"character_count\":2\x7d")) =
        .ok ⟨2, 2, 2, 2, 2⟩ := by
  obtain ⟨hsummary, hanalysis, hmissing⟩ := parse_presented
  have hread : Summary.parse (Utf8.encode
      "\x7b\"sum\":4,\"average\":2,\"max\":3,\"sorted\":[1,3]\x7d") =
        .ok ⟨.int 4, .int 2, none, some (.int 3), [.int 1, .int 3]⟩ := by
    decide +kernel
  have hordered : TextAnalysis.schema.Presents (fun _ => some "2".toList)
      ("\x7b\"character_count\":2,\"word_count\":2,\"unique_words\":2," ++
        "\"uppercase_count\":2,\"lowercase_count\":2\x7d").toList :=
    TextAnalysis.presents_twos (List.Perm.refl _)
      ⟨[], _, [], isSpaces_nil, ⟨[], isSpaces_nil, rfl⟩, isSpaces_nil, rfl⟩
  have hreversed : TextAnalysis.schema.Presents (fun _ => some "2".toList)
      ("\x7b\"lowercase_count\":2,\"uppercase_count\":2,\"unique_words\":2," ++
        "\"word_count\":2,\"character_count\":2\x7d").toList :=
    TextAnalysis.presents_twos (List.reverse_perm _)
      ⟨[], _, [], isSpaces_nil, ⟨[], isSpaces_nil, rfl⟩, isSpaces_nil, rfl⟩
  exact ⟨hread, (hsummary _ _ _ Summary.presents_two).1.1 hread _ Summary.presents_two_mixed,
    (hmissing _ .min _ _ _ (by decide) rfl Summary.presents_two Summary.presents_two_null).1 hread,
    (hanalysis _ _ _ hordered).1.1 (by decide +kernel) _ hreversed⟩

end OneShot
