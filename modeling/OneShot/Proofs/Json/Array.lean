import OneShot.Proofs.Json.Bracket

/-!
# Arrays against the grammar

What holds of items holds of lists. `Reader.Reads` is all that is asked of a reader: that it takes
white space and then a text that spells what it gives. Such texts may be items of an array, and a
list of them is read exactly if it is spelled as an array, `Reader.Reads.array_iff`, whatever the
items are. The reader of literals is one such reader.

## Main definitions

* `IsArray` — the texts of an array, given those of its items
* `Reader.Reads` — a reader takes the texts that spell something, and no others
* `Literal.reader` — the literal of a number, without its value

## Main results

* `Reader.Reads.document_iff` — a whole input is read exactly if it is spelled out
* `Reader.Reads.array_iff` — arrays are read exactly if they are spelled out
* `Literal.reader_reads` — the reader of literals
-/

namespace OneShot.Json

/-- The texts of an array, given those of its items. The gap matters only without items, since
items bring their own white space. -/
def IsArray {α : Type} (Spells : α → List Char → Prop) (as : List α) : List Char → Prop :=
  Spaced fun cs => ∃ (gap : List Char) (items : List (List Char)), IsSpaces gap ∧
    List.Forall₂ (fun a => Spaced (Spells a)) as items ∧
      cs = '[' :: (gap ++ (writeSeries items ++ [']']))

/-- A reader takes the texts that spell something, and no others, with white space in front. Such
texts may stand in an array. -/
structure Reader.Reads {α : Type} (r : Reader α) (Spells : α → List Char → Prop) : Prop where
  skips : ∀ {gap}, IsSpaces gap → ∀ s, r.run (Utf8.ofChars gap ++ s) = r.run s
  exists_spelled : ∀ {s a rest}, r.run s = .ok (a, rest) → ∃ before cs, IsSpaces before ∧
    Spells a cs ∧ s = Utf8.ofChars before ++ (Utf8.ofChars cs ++ rest)
  admits : ∀ {a cs}, Spells a cs → Bracket.square.Admits (Utf8.ofChars cs)
  gives : ∀ {a cs}, Spells a cs → r.Gives (Utf8.ofChars cs) (.ok a)

namespace Reader.Reads

variable {α : Type} {r : Reader α} {Spells : α → List Char → Prop} {s : Bytes} {a : α}
  {as : List α} (hr : r.Reads Spells)

include hr

theorem takes : Bracket.square.Takes r Spells where
  exists_spelled := hr.exists_spelled
  gives h := ⟨_, rfl, hr.admits h, hr.gives h⟩

/-- **A whole input is read exactly if it is spelled out.** -/
theorem document_iff :
    document r s = .ok a ↔ ∃ cs, s = Utf8.ofChars cs ∧ Spaced (Spells a) cs := by
  rw [document_eq_ok_iff]
  constructor
  · rintro ⟨rest, hrun, hrest⟩
    obtain ⟨before, cs, hbefore, hcs, hs⟩ := hr.exists_spelled hrun
    exact exists_spaced hbefore hcs hs hrest
  · rintro ⟨_, rfl, before, inner, after, hbefore, hinner, hafter, rfl⟩
    refine ⟨Utf8.ofChars after, ?_, skipSpace_ofChars_spaces hafter⟩
    rw [Utf8.ofChars_append, hr.skips hbefore, Utf8.ofChars_append]
    exact leaves_ok_iff.1 (hr.gives hinner _ (stops_ofChars_spaces hafter))

/-- **Arrays are read exactly if they are spelled out.** -/
theorem array_iff :
    (∃ t rest, skipSpace s = byte '[' :: t ∧ Json.items .square r t = .ok (as, rest) ∧
        skipSpace rest = []) ↔ ∃ cs, s = Utf8.ofChars cs ∧ IsArray Spells as cs := by
  constructor
  · rintro ⟨t, rest, hs, hitems, hrest⟩
    obtain ⟨cs, hcs, ht⟩ := hr.takes.series_iff.1 ⟨t, hs, hitems⟩
    obtain ⟨before, hbefore, hspaces⟩ := exists_spaces s
    rw [ht] at hspaces
    exact exists_spaced hbefore hcs hspaces hrest
  · rintro ⟨cs, rfl, before, inner, after, hbefore, hinner, hafter, rfl⟩
    have hseries : Bracket.square.IsSeries Spells as inner := hinner
    obtain ⟨t, ht, hitems⟩ := hr.takes.series_iff.2 ⟨inner, hseries, rfl⟩
    refine ⟨t, Utf8.ofChars after, ?_, hitems, skipSpace_ofChars_spaces hafter⟩
    rw [Utf8.ofChars_append, skipSpace_spaces hbefore, Utf8.ofChars_append,
      hseries.skipSpace_eq, ht]
    rfl

end Reader.Reads

/-! ### Arrays of literals -/

namespace Literal

/-- Reads a literal, but not its value. -/
def reader : Reader Literal where
  run s := read .endInValue (skipSpace s)
  shortens h := Nat.lt_of_lt_of_le (length_read_lt h) (length_skipSpace_le _)

/-- The texts of a literal that may be read. -/
def IsText (literal : Literal) (cs : List Char) : Prop := literal.WellFormed ∧ literal.Spelled cs

/-- The text of a literal begins with a minus sign or a digit. -/
theorem IsText.exists_head {literal : Literal} {cs : List Char} (h : literal.IsText cs) :
    ∃ b t, Utf8.ofChars cs = b :: t ∧ startsNumber b = true := by
  have hread : read .endInValue (Utf8.ofChars cs ++ []) = .ok (literal, []) :=
    read_spelled h.1 h.2 stops_nil
  rw [List.append_nil] at hread
  exact exists_head_of_read hread

/-- **Literals are read exactly if they are spelled out.** -/
theorem reader_reads : reader.Reads IsText where
  skips hgap s := congrArg (read .endInValue) (skipSpace_spaces hgap s)
  exists_spelled := by
    intro s literal rest h
    obtain ⟨before, hbefore, hs⟩ := exists_spaces s
    obtain ⟨hliteral, cs, hcs, hread⟩ := exists_spelled_of_read h
    refine ⟨before, cs, hbefore, ⟨hliteral, hcs⟩, ?_⟩
    rw [← hread]
    exact hs
  admits := by
    intro literal cs h
    obtain ⟨b, t, hbt, hb⟩ := h.exists_head
    obtain ⟨hspace, -, -, hclose, -⟩ := not_starts_other hb
    exact ⟨b, t, hbt, hspace, hclose⟩
  gives := by
    rintro literal cs ⟨hliteral, hcs⟩ rest hrest
    have hread : read .endInValue (Utf8.ofChars cs ++ rest) = .ok (literal, rest) :=
      read_spelled hliteral hcs hrest
    obtain ⟨b, t, hbt, hb⟩ := exists_head_of_read hread
    refine leaves_ok_iff.2 ?_
    change read .endInValue (skipSpace _) = _
    rw [hbt, Bracket.skipSpace_cons (not_starts_other hb).1, ← hbt]
    exact hread

end Literal

end OneShot.Json
