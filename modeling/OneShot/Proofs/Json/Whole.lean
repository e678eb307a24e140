import OneShot.Json.Tag
import OneShot.Proofs.Json.Skip
import OneShot.Proofs.Json.ValueText

/-!
# JSON texts are taken as a whole

A reader of values that begins at a JSON text takes the whole of it, but for white space at its end,
or it does not come to a value behind which another token may stand. It cannot stop halfway, since
skipping the text and skipping the value that was taken lead to the same place. So what stands
behind a text does not matter to what is read of it: this is `Reader.AllOrNothing`, and
`Reader.Covers` is what is read then.

Most readers take values and only ask what they are; `Reader.Types` says so, and what is known of
the reader of values carries over to all of them.

## Main definitions

* `Reader.Covers`, `Reader.AllOrNothing` — bytes are taken as a whole, or nothing comes of them
* `Reader.Settles` — what comes of bytes that are taken as a whole or not at all
* `EndsSolid` — a text at the end of which there is no white space
* `Reader.Types` — a reader takes the values that are of a type
* `asTag` — what a value is, taken as a tag
* `seriesBehind` — the items of a series from a turn on

## Main results

* `Value.reader_allOrNothing` — texts from which values are read
* `Reader.Types.allOrNothing` — texts from which anything else is read
* `scalarReader_types`, `tagReader_types` — readers that ask what a value is
* `Reader.AllOrNothing.seriesFrom_eq_ok_iff` — a series of items that are taken as a whole
-/

namespace OneShot.Json

/-! ### Bytes that are taken as a whole -/

theorem stops_of_skipSpace {s : Bytes} (h : skipSpace s = []) : Stops s := by
  refine .of_skipSpace ?_
  rw [h]
  exact stops_nil

namespace Reader

variable {α β : Type} {r : Reader α} {r' : Reader β} {s s' : Bytes} {a : α} {b : β}

/-- A reader takes these bytes, whatever stands behind them. White space behind them may be left. -/
def Covers (r : Reader α) (s : Bytes) (a : α) : Prop :=
  ∀ tail, Stops tail → ∃ t, r.run (s ++ tail) = .ok (a, t) ∧ skipSpace t = skipSpace tail

/-- Whatever a reader makes of these bytes, it takes them as a whole. -/
def AllOrNothing (r : Reader α) (s : Bytes) : Prop :=
  ∀ tail t a, Stops tail → Stops t → r.run (s ++ tail) = .ok (a, t) →
    r.Covers s a ∧ skipSpace t = skipSpace tail

theorem Covers.document (h : r.Covers s a) : document r s = .ok a := by
  obtain ⟨t, hrun, ht⟩ := h [] stops_nil
  rw [List.append_nil] at hrun
  exact document_eq_ok_iff.2 ⟨t, hrun, ht⟩

/-- What is read of bytes in front of others is what they are as a whole input. -/
theorem AllOrNothing.covers_iff (h : r.AllOrNothing s) :
    r.Covers s a ↔ Json.document r s = .ok a := by
  refine ⟨Covers.document, fun hdocument => ?_⟩
  obtain ⟨t, hrun, ht⟩ := document_eq_ok_iff.1 hdocument
  rw [← List.append_nil s] at hrun
  exact (h _ _ _ stops_nil (stops_of_skipSpace ht) hrun).1

/-- A reader that comes to a result whenever another one does. -/
theorem Covers.of_run (h : r'.Covers s' b)
    (hrun : ∀ tail t, r'.run (s' ++ tail) = .ok (b, t) → r.run (s ++ tail) = .ok (a, t)) :
    r.Covers s a := by
  intro tail htail
  obtain ⟨t, ht, hskip⟩ := h tail htail
  exact ⟨t, hrun tail t ht, hskip⟩

section OfRun

variable {Makes : β → α → Prop}
  (hrun : ∀ tail t a, r.run (s ++ tail) = .ok (a, t) ↔
    ∃ b, r'.run (s' ++ tail) = .ok (b, t) ∧ Makes b a)

include hrun

/-- A reader that makes something else of what another one takes. -/
theorem AllOrNothing.of_run (h : r'.AllOrNothing s') : r.AllOrNothing s := by
  intro tail t a htail ht hread
  obtain ⟨b, hb, hmakes⟩ := (hrun _ _ _).1 hread
  obtain ⟨hcovers, hskip⟩ := h _ _ _ htail ht hb
  exact ⟨hcovers.of_run fun _ _ hb => (hrun _ _ _).2 ⟨b, hb, hmakes⟩, hskip⟩

theorem AllOrNothing.covers_iff_of_run (h : r'.AllOrNothing s') :
    r.Covers s a ↔ ∃ b, r'.Covers s' b ∧ Makes b a := by
  constructor
  · intro ha
    obtain ⟨t, hread, ht⟩ := ha [] stops_nil
    obtain ⟨b, hb, hmakes⟩ := (hrun _ _ _).1 hread
    exact ⟨b, (h _ _ _ stops_nil (stops_of_skipSpace ht) hb).1, hmakes⟩
  · rintro ⟨b, hb, hmakes⟩
    exact hb.of_run fun _ _ hb => (hrun _ _ _).2 ⟨b, hb, hmakes⟩

end OfRun

/-! Where the result is known. -/

/-- What a reader makes of these bytes: it takes them as a whole, for the given result, or not at
all. -/
structure Settles (r : Reader α) (s : Bytes) (result : Option α) : Prop where
  allOrNothing : r.AllOrNothing s
  covers_iff : ∀ a, r.Covers s a ↔ result = some a

variable {result : Option β}

theorem Settles.of_map {f : β → α} (h : r'.Settles s' result)
    (hrun : ∀ tail, r.run (s ++ tail) = (r'.run (s' ++ tail)).map fun p => (f p.1, p.2)) :
    r.Settles s (result.map f) := by
  have hmakes (tail t : Bytes) (a : α) :
      r.run (s ++ tail) = .ok (a, t) ↔ ∃ b, r'.run (s' ++ tail) = .ok (b, t) ∧ f b = a := by
    rw [hrun, map_eq_ok]
    constructor
    · rintro ⟨⟨b, t⟩, hb, heq⟩
      cases heq
      exact ⟨b, hb, rfl⟩
    · rintro ⟨b, hb, rfl⟩
      exact ⟨_, hb, rfl⟩
  refine ⟨h.allOrNothing.of_run hmakes, fun a => ?_⟩
  rw [h.allOrNothing.covers_iff_of_run hmakes, Option.map_eq_some_iff]
  simp only [h.covers_iff]

/-- A reader that does the same as another one. -/
theorem Settles.congr {r' : Reader α} {result : Option α} (h : r'.Settles s' result)
    (hrun : ∀ tail, r.run (s ++ tail) = r'.run (s' ++ tail)) : r.Settles s result := by
  have hmap := h.of_map (f := id) fun tail => (hrun tail).trans (by
    cases r'.run (s' ++ tail) <;> rfl)
  rwa [Option.map_id] at hmap

/-- Bytes that are refused, whatever stands behind them. -/
theorem settles_none (h : ∀ tail p, r.run (s ++ tail) ≠ .ok p) : r.Settles s none where
  allOrNothing tail t a _ _ hrun := absurd hrun (h tail (a, t))
  covers_iff a := by
    refine iff_of_false (fun hcovers => ?_) nofun
    obtain ⟨t, hrun, -⟩ := hcovers [] stops_nil
    exact h [] (a, t) hrun

end Reader

/-! ### The end of a text -/

/-- The text is not empty, and its last character is no white space. -/
def EndsSolid (cs : List Char) : Prop :=
  ∃ front c, cs = front ++ [c] ∧ c ∉ [' ', '\t', '\n', '\r']

theorem EndsSolid.append_left {ds : List Char} (h : EndsSolid ds) (cs : List Char) :
    EndsSolid (cs ++ ds) := by
  obtain ⟨front, c, rfl, hc⟩ := h
  exact ⟨cs ++ front, c, (List.append_assoc cs front [c]).symm, hc⟩

theorem EndsSolid.cons {cs : List Char} (h : EndsSolid cs) (c : Char) : EndsSolid (c :: cs) :=
  h.append_left [c]

/-- It does not end in white space. -/
theorem EndsSolid.eq_nil_of_append {cs ds gap : List Char} (h : EndsSolid cs)
    (heq : cs = ds ++ gap) (hgap : IsSpaces gap) : gap = [] := by
  obtain ⟨front, c, rfl, hc⟩ := h
  rcases List.eq_nil_or_concat gap with rfl | ⟨gap', d, rfl⟩
  · rfl
  · rw [List.concat_eq_append, ← List.append_assoc] at heq
    obtain ⟨-, hcd⟩ := List.append_inj' heq rfl
    cases hcd
    exact absurd (hgap c (by simp)) hc

theorem endsSolid_digits {digits : List Digit} (h : digits ≠ []) :
    EndsSolid (digits.map Digit.char) := by
  rcases List.eq_nil_or_concat digits with rfl | ⟨front, d, rfl⟩
  · exact absurd rfl h
  · refine ⟨front.map Digit.char, d.char, by simp, ?_⟩
    have hd := d.toNat_char
    intro hspace
    have hlow : ([' ', '\t', '\n', '\r'].all fun c => c.toNat < 48) = true := by decide
    have := of_decide_eq_true (List.all_eq_true.1 hlow _ hspace)
    omega

theorem Literal.endsSolid_mantissa {literal : Literal} (h : literal.WellFormed) :
    EndsSolid literal.mantissa := by
  refine EndsSolid.append_left ?_ _
  cases hfraction : literal.fraction with
  | none =>
    obtain ⟨d, more, hwhole, -⟩ := h.whole
    rw [writeFraction, List.append_nil, hwhole]
    exact endsSolid_digits (List.cons_ne_nil d more)
  | some digits =>
    refine EndsSolid.append_left (EndsSolid.cons (endsSolid_digits ?_) '.') _
    rintro rfl
    exact h.fraction hfraction

theorem Literal.IsText.endsSolid {literal : Literal} {cs : List Char} (h : literal.IsText cs) :
    EndsSolid cs := by
  obtain ⟨hliteral, hcs⟩ := h
  cases hcs with
  | plain => exact endsSolid_mantissa hliteral
  | scientific hexponent hcs =>
    have hdigits := endsSolid_digits (hliteral.exponent _ hexponent)
    refine EndsSolid.append_left ?_ _
    cases hcs with
    | negative | positive => exact (hdigits.cons _).cons _
    | unsigned => exact hdigits.cons _

theorem Bracket.IsSeries.endsSolid {α : Type} {bracket : Bracket} {Spells : α → List Char → Prop}
    {as : List α} {cs : List Char} (h : bracket.IsSeries Spells as cs) : EndsSolid cs := by
  obtain ⟨gap, items, -, -, rfl⟩ := h
  have hcloser : bracket.closer ∉ [' ', '\t', '\n', '\r'] := by cases bracket <;> decide
  exact EndsSolid.cons (EndsSolid.append_left ⟨writeSeries items, _, rfl, hcloser⟩ gap) _

/-- No text of a value ends in white space. -/
theorem Value.IsText.endsSolid {depth : Nat} {value : Value} {cs : List Char}
    (h : IsText depth value cs) : EndsSolid cs := by
  cases value with
  | null =>
    rw [IsText] at h
    exact ⟨"nul".toList, 'l', h, by decide⟩
  | bool value =>
    cases value <;> rw [IsText] at h
    · exact ⟨"fals".toList, 'e', h, by decide⟩
    · exact ⟨"tru".toList, 'e', h, by decide⟩
  | number value =>
    rw [IsText] at h
    obtain ⟨literal, hcs, -⟩ := h
    exact hcs.endsSolid
  | string text =>
    rw [IsText] at h
    obtain ⟨inner, -, rfl⟩ := h
    exact ⟨'"' :: inner, '"', rfl, by decide⟩
  | array values =>
    cases depth with
    | zero => rw [IsText] at h; exact h.elim
    | succ depth => rw [IsText] at h; exact h.endsSolid
  | object members =>
    cases depth with
    | zero => rw [IsText] at h; exact h.elim
    | succ depth => rw [IsText] at h; exact h.endsSolid

/-! ### Texts from which a value is read -/

/-- A text that ends where another one with white space around it does is that text, with less white
space. -/
theorem spaced_of_append_eq {P : List Char → Prop} {cs before inner after gap : List Char}
    (heq : cs ++ gap = before ++ (inner ++ after)) (hgap : IsSpaces gap)
    (hbefore : IsSpaces before) (hinner : P inner) (hsolid : EndsSolid inner)
    (hafter : IsSpaces after) : Spaced P cs := by
  rw [← List.append_assoc] at heq
  rcases List.append_eq_append_iff.1 heq with ⟨more, hmore, rfl⟩ | ⟨less, rfl, rfl⟩
  · have hnil : more = [] := (hsolid.append_left before).eq_nil_of_append hmore
      (List.forall_mem_append.1 hgap).1
    rw [hnil, List.append_nil] at hmore
    exact ⟨before, inner, [], hbefore, hinner, isSpaces_nil, by rw [List.append_nil, hmore]⟩
  · exact ⟨before, inner, less, hbefore, hinner, (List.forall_mem_append.1 hafter).1,
      List.append_assoc before inner less⟩

namespace Value

variable {depth : Nat} {value : Value} {cs : List Char} {tail t : Bytes}

/-- What is read as a value can be skipped, and only white space behind it may be taken as well. -/
theorem skipValue_of_run {s : Bytes} (h : (reader depth).run s = .ok (value, t)) (ht : Stops t) :
    ∃ u, skipValue s = .ok u ∧ skipSpace u = skipSpace t := by
  obtain ⟨before, inner, hbefore, hinner, rfl⟩ := (reader_reads depth).exists_spelled h
  have hspaced : Json.IsText (before ++ inner ++ []) := .spaced hbefore hinner.isText isSpaces_nil
  have hskip := hspaced.skipValue_eq ht
  rwa [List.append_nil, Utf8.ofChars_append, List.append_assoc] at hskip

/-- A text from which a value is read is a text of this value, and the reader leaves at most white
space of it. -/
theorem spaced_of_run (hcs : Json.IsText cs) (htail : Stops tail) (ht : Stops t)
    (h : (reader depth).run (Utf8.ofChars cs ++ tail) = .ok (value, t)) :
    Spaced (IsText depth value) cs ∧ skipSpace t = skipSpace tail := by
  obtain ⟨before, inner, hbefore, hinner, heq⟩ := (reader_reads depth).exists_spelled h
  have hskip : skipSpace t = skipSpace tail := by
    obtain ⟨u, hu, hbehind⟩ := hcs.skipValue_eq htail
    obtain ⟨u', hu', hbehind'⟩ := skipValue_of_run h ht
    rw [hu] at hu'
    cases hu'
    exact hbehind'.symm.trans hbehind
  refine ⟨?_, hskip⟩
  obtain ⟨gap, hgap, htail⟩ := exists_spaces tail
  obtain ⟨after, hafter, ht⟩ := exists_spaces t
  have hchars : cs ++ gap = before ++ (inner ++ after) := by
    rw [← Utf8.ofChars_inj]
    have hbytes : Utf8.ofChars (cs ++ gap) ++ skipSpace tail =
        Utf8.ofChars (before ++ (inner ++ after)) ++ skipSpace tail := by
      simp only [Utf8.ofChars_append, List.append_assoc]
      rw [← htail, heq, ← hskip, ← ht]
    exact List.append_cancel_right hbytes
  exact spaced_of_append_eq hchars hgap hbefore hinner hinner.endsSolid hafter

/-- A text of a value, with white space around it, is read as this value. -/
theorem covers_of_spaced (h : Spaced (IsText depth value) cs) :
    (reader depth).Covers (Utf8.ofChars cs) value := by
  obtain ⟨before, inner, after, hbefore, hinner, hafter, rfl⟩ := h
  intro tail htail
  refine ⟨Utf8.ofChars after ++ tail, ?_, skipSpace_spaces hafter tail⟩
  rw [Utf8.ofChars_append, Utf8.ofChars_append, List.append_assoc, List.append_assoc,
    (reader_reads depth).skips hbefore]
  exact leaves_ok_iff.1 ((reader_reads depth).gives hinner _ (stops_spaces hafter htail))

/-- **A JSON text is read as a value as a whole or not at all.** -/
theorem reader_allOrNothing (hcs : Json.IsText cs) :
    (reader depth).AllOrNothing (Utf8.ofChars cs) := by
  intro tail t value htail ht h
  obtain ⟨hspaced, hskip⟩ := spaced_of_run hcs htail ht h
  exact ⟨covers_of_spaced hspaced, hskip⟩

end Value

/-! ### Readers that ask what a value is -/

/-- A reader takes the values that are of a type. -/
def Reader.Types {α : Type} (r : Reader α) (type : Value → Except Cause α) (depth : Nat) : Prop :=
  ∀ s rest a, r.run s = .ok (a, rest) ↔
    ∃ value, (Value.reader depth).run s = .ok (value, rest) ∧ type value = .ok a

namespace Reader.Types

variable {α : Type} {r : Reader α} {type : Value → Except Cause α} {depth : Nat} {a : α}
  {cs before after : List Char} (hr : r.Types type depth)

include hr

/-- **A JSON text is read as a whole or not at all**, whatever type is asked for. -/
theorem allOrNothing (hcs : IsText cs) : r.AllOrNothing (Utf8.ofChars cs) :=
  (Value.reader_allOrNothing hcs).of_run fun _ _ _ => hr _ _ _

/-- White space around a text does not matter. -/
theorem covers_spaces_iff (hcs : IsText cs) (hbefore : IsSpaces before) (hafter : IsSpaces after) :
    r.Covers (Utf8.ofChars (before ++ (cs ++ after))) a ↔ r.Covers (Utf8.ofChars cs) a := by
  have hrun {s rest : Bytes} : r.run (Utf8.ofChars before ++ s) = .ok (a, rest) ↔
      r.run s = .ok (a, rest) := by
    rw [hr, hr, (Value.reader_reads depth).skips hbefore]
  rw [Utf8.ofChars_append, Utf8.ofChars_append]
  constructor
  · intro h
    obtain ⟨t, hread, ht⟩ := h [] stops_nil
    rw [List.append_assoc, hrun, List.append_assoc] at hread
    refine (hr.allOrNothing hcs _ _ _ ?_ (stops_of_skipSpace ht) hread).1
    exact stops_spaces hafter stops_nil
  · intro h tail htail
    obtain ⟨t, hread, ht⟩ := h _ (stops_spaces hafter htail)
    refine ⟨t, ?_, ht.trans (skipSpace_spaces hafter tail)⟩
    rw [List.append_assoc, hrun, List.append_assoc]
    exact hread

end Reader.Types

/-- The reader of values does not ask anything. -/
theorem Value.reader_types (depth : Nat) : (reader depth).Types .ok depth := by
  intro s rest value
  simp only [Except.ok.injEq, exists_eq_right]

/-- The reader of a scalar takes any scalar, and then asks for its type. -/
theorem scalarReader_types {α : Type} {expected : String} {type : Value → Except Cause α}
    (htype : ∀ {value a}, type value = .ok a → value.IsScalar) (depth : Nat) :
    (scalarReader expected type).Types type depth := by
  intro s rest a
  change readTyped expected type s = _ ↔ _
  rw [readTyped]
  constructor
  · intro h
    split at h
    · cases h
    · rename_i b t hs
      split_ifs at h with hsquare hbrace
      obtain ⟨⟨value, u⟩, hscalar, h⟩ := bind_eq_ok.1 h
      dsimp only at h
      split at h
      · rename_i ha
        cases h
        exact ⟨value, (Value.run_reader_eq_ok_iff_of_isScalar (htype ha)).2
          ⟨b, t, hs, hsquare, hbrace, hscalar⟩, ha⟩
      · cases h
  · rintro ⟨value, hvalue, ha⟩
    obtain ⟨b, t, hs, hsquare, hbrace, hscalar⟩ :=
      (Value.run_reader_eq_ok_iff_of_isScalar (htype ha)).1 hvalue
    rw [hs]
    dsimp only
    rw [if_neg hsquare, if_neg hbrace, hscalar]
    dsimp only [Except.bind]
    rw [ha]

theorem textReader_types (depth : Nat) : textReader.Types asText depth := by
  refine scalarReader_types (fun {value _} h => ?_) depth
  cases value with
  | array | object => cases h
  | null | bool | number | string => exact trivial

theorem floatReader_types (depth : Nat) : floatReader.Types asFloat depth := by
  refine scalarReader_types (fun {value _} h => ?_) depth
  cases value with
  | array | object => cases h
  | null | bool | number | string => exact trivial

theorem optionalFloatReader_types (depth : Nat) :
    optionalFloatReader.Types asOptionalFloat depth := by
  refine scalarReader_types (fun {value _} h => ?_) depth
  cases value with
  | array | object => cases h
  | null | bool | number | string => exact trivial

theorem countReader_types (depth : Nat) : countReader.Types asCount depth := by
  refine scalarReader_types (fun {value _} h => ?_) depth
  cases value with
  | array | object => cases h
  | null | bool | number | string => exact trivial

/-! ### Tags -/

section Tags

variable {α : Type} {ofName? : String → Option α} {s rest : Bytes} {a : α} {depth : Nat}

/-- What a value is, taken as a tag: a name, or an object with the name as its only key. -/
def asTag (ofName? : String → Option α) : Value → Except Cause α
  | .string name => (ofName? name).elim (.error (.unknownName name)) .ok
  | .object [(name, .null)] => (ofName? name).elim (.error (.unknownName name)) .ok
  | _ => .error .expectedValue

theorem elim_eq_ok_iff {o : Option α} {cause : Cause} :
    o.elim (.error cause) Except.ok = .ok a ↔ o = some a := by
  cases o with
  | none => exact ⟨nofun, nofun⟩
  | some b => exact ⟨fun h => by cases h; rfl, fun h => by cases h; rfl⟩

theorem named_eq_ok_iff {name : String} {t : Bytes} :
    named ofName? (name, t) = .ok (a, rest) ↔ ofName? name = some a ∧ t = rest := by
  rw [named]
  dsimp only
  cases ofName? name with
  | none => exact ⟨nofun, nofun⟩
  | some b =>
    constructor
    · intro h
      cases h
      exact ⟨rfl, rfl⟩
    · rintro ⟨⟨⟩, rfl⟩
      rfl

/-- The value of the only key of a tag. -/
theorem readNull_types (depth : Nat) : (scalarReader "unit" asNull).Types asNull depth := by
  refine scalarReader_types (fun {value _} h => ?_) depth
  cases value with
  | array | object => cases h
  | null | bool | number | string => exact trivial

theorem closeTag_eq_ok_iff : closeTag s = .ok rest ↔ skipSpace s = byte '}' :: rest := by
  rw [closeTag]
  cases skipSpace s with
  | nil => exact ⟨nofun, nofun⟩
  | cons b t =>
    dsimp only
    rw [ite_error_eq_ok_iff, Except.ok.injEq, List.cons.injEq]

/-- The only member of an object, up to the brace. -/
theorem items_singleton_iff {key : String} {value : Value} {r : Reader Value} :
    items .brace (memberReader r) s = .ok ([(key, value)], rest) ↔ ∃ t u v w,
      skipSpace s = byte '"' :: t ∧ Quoted.read t = .ok (key, u) ∧ readColon u = .ok v ∧
        r.run v = .ok (value, w) ∧ skipSpace w = byte '}' :: rest := by
  rw [items_eq_ok_iff]
  constructor
  · rintro (⟨-, ⟨⟩⟩ | ⟨t, hfirst, hitems⟩)
    obtain ⟨hrun, hnext⟩ | ⟨-, -, hmore⟩ := hitems
    · obtain ⟨⟨key, u⟩, hkey, hrun⟩ := bind_eq_ok.1 hrun
      obtain ⟨v, hcolon, hrun⟩ := bind_eq_ok.1 hrun
      obtain ⟨⟨value, w⟩, hvalue, heq⟩ := map_eq_ok.1 hrun
      cases heq
      exact ⟨t, u, v, _, Bracket.skipSpace_of_first_item hfirst, hkey, hcolon, hvalue,
        Bracket.skipSpace_of_next_close hnext⟩
    · cases hmore
  · rintro ⟨t, u, v, w, hs, hkey, hcolon, hvalue, hw⟩
    refine .inr ⟨t, ?_, .last (bind_eq_ok.2 ⟨_, hkey, bind_eq_ok.2 ⟨v, hcolon,
      map_eq_ok.2 ⟨_, hvalue, rfl⟩⟩⟩) ?_⟩
    · rw [Bracket.first, hs]
      exact if_neg (by decide)
    · rw [Bracket.next, hw]
      exact if_pos rfl

theorem readTagObject_eq_ok_iff :
    readTagObject ofName? s = .ok (a, rest) ↔ ∃ name, ofName? name = some a ∧
      items .brace (memberReader (Value.reader depth)) s = .ok ([(name, .null)], rest) := by
  simp only [items_singleton_iff]
  rw [readTagObject]
  constructor
  · intro h
    split at h
    · cases h
    · rename_i b t hs
      split_ifs at h with hb
      obtain ⟨⟨a', u⟩, hname, h⟩ := bind_eq_ok.1 h
      obtain ⟨v, hcolon, h⟩ := bind_eq_ok.1 h
      obtain ⟨⟨_, w⟩, hnull, h⟩ := bind_eq_ok.1 h
      obtain ⟨_, hclose, heq⟩ := map_eq_ok.1 h
      cases heq
      obtain ⟨⟨name, u'⟩, hkey, hnamed⟩ := bind_eq_ok.1 hname
      obtain ⟨htag, rfl⟩ := named_eq_ok_iff.1 hnamed
      obtain ⟨value, hvalue, hunit⟩ := (readNull_types depth _ _ _).1 hnull
      cases value with
      | null => exact ⟨name, htag, t, _, v, w, by rw [hs, hb], hkey, hcolon, hvalue,
          closeTag_eq_ok_iff.1 hclose⟩
      | bool | number | string | array | object => cases hunit
  · rintro ⟨name, hname, t, u, v, w, hs, hkey, hcolon, hvalue, hw⟩
    rw [hs]
    dsimp only
    rw [if_pos rfl]
    exact bind_eq_ok.2 ⟨(a, u), bind_eq_ok.2 ⟨_, hkey, named_eq_ok_iff.2 ⟨hname, rfl⟩⟩,
      bind_eq_ok.2 ⟨v, hcolon, bind_eq_ok.2 ⟨_, (readNull_types depth _ _ _).2 ⟨_, hvalue, rfl⟩,
        map_eq_ok.2 ⟨_, closeTag_eq_ok_iff.2 hw, rfl⟩⟩⟩⟩

/-- **Tags are read as values**, of either form. -/
theorem tagReader_types (ofName? : String → Option α) (depth : Nat) :
    (tagReader ofName?).Types (asTag ofName?) (depth + 1) := by
  intro s rest a
  change readTag ofName? s = _ ↔ _
  rw [readTag]
  constructor
  · intro h
    split at h
    · cases h
    · rename_i b t hs
      split_ifs at h with hquote hbrace
      · obtain ⟨⟨name, u⟩, hread, hnamed⟩ := bind_eq_ok.1 h
        obtain ⟨hname, rfl⟩ := named_eq_ok_iff.1 hnamed
        have hscalar : (Value.string name).IsScalar := trivial
        refine ⟨.string name, (Value.run_reader_eq_ok_iff_of_isScalar hscalar).2
          ⟨b, t, hs, ?_⟩, elim_eq_ok_iff.2 hname⟩
        rw [hquote]
        exact ⟨by decide, by decide, map_eq_ok.2 ⟨_, hread, rfl⟩⟩
      · obtain ⟨name, hname, hitems⟩ := readTagObject_eq_ok_iff.1 h
        rw [hbrace] at hs
        exact ⟨.object [(name, .null)], Value.run_reader_eq_ok_object_iff.2 ⟨t, hs, hitems⟩,
          elim_eq_ok_iff.2 hname⟩
  · rintro ⟨value, hvalue, ha⟩
    rw [asTag.eq_def] at ha
    split at ha
    · rename_i name
      have hscalar : (Value.string name).IsScalar := trivial
      obtain ⟨b, t, hs, -, -, hscalar⟩ := (Value.run_reader_eq_ok_iff_of_isScalar hscalar).1 hvalue
      rw [readScalar] at hscalar
      split_ifs at hscalar with _ _ _ _ hquote
      all_goals
        obtain ⟨p, hread, heq⟩ := map_eq_ok.1 hscalar
        cases heq
      rw [hs]
      dsimp only
      rw [if_pos hquote]
      exact bind_eq_ok.2 ⟨_, hread, named_eq_ok_iff.2 ⟨elim_eq_ok_iff.1 ha, rfl⟩⟩
    · obtain ⟨t, hs, hitems⟩ := Value.run_reader_eq_ok_object_iff.1 hvalue
      rw [hs]
      dsimp only
      rw [if_neg (by decide), if_pos rfl]
      exact readTagObject_eq_ok_iff.2 ⟨_, elim_eq_ok_iff.1 ha, hitems⟩
    · cases ha

end Tags

/-! ### Series of items -/

section Series

variable {σ : Type} {bracket : Bracket} {item : σ → Reader σ} {state state' : σ} {s tail : Bytes}
  {turn : Turn}

/-- The items from a turn on. -/
def seriesBehind (bracket : Bracket) (item : σ → Reader σ) (state : σ) :
    Turn → Except Fault (σ × Bytes)
  | .close rest => .ok (state, rest)
  | .item rest => seriesFrom bracket item state rest

theorem series_eq (s : Bytes) :
    series bracket item state s = (bracket.first s).bind (seriesBehind bracket item state) := by
  rw [series]
  congr 1

/-- An item that is taken as a whole. -/
theorem Reader.Covers.seriesFrom_eq (h : (item state).Covers s state')
    (hnext : bracket.next tail = .ok turn) :
    seriesFrom bracket item state (s ++ tail) = seriesBehind bracket item state' turn := by
  obtain ⟨t, hrun, ht⟩ := h tail (Bracket.stops_of_next hnext)
  rw [Json.seriesFrom_eq, hrun]
  dsimp only [Except.bind]
  rw [Bracket.next_congr ht, hnext]
  cases turn <;> rfl

/-- **One turn of the loop**, if the item is taken as a whole or not at all. -/
theorem Reader.AllOrNothing.seriesFrom_eq_ok_iff (h : (item state).AllOrNothing s)
    (hnext : bracket.next tail = .ok turn) {p : σ × Bytes} :
    seriesFrom bracket item state (s ++ tail) = .ok p ↔
      ∃ state', (item state).Covers s state' ∧ seriesBehind bracket item state' turn = .ok p := by
  constructor
  · intro hseries
    have hread := hseries
    rw [Json.seriesFrom_eq] at hread
    obtain ⟨⟨state', t⟩, hrun, hread⟩ := bind_eq_ok.1 hread
    obtain ⟨turn', hnext', -⟩ := bind_eq_ok.1 hread
    obtain ⟨hcovers, -⟩ :=
      h _ _ _ (Bracket.stops_of_next hnext) (Bracket.stops_of_next hnext') hrun
    exact ⟨state', hcovers, (hcovers.seriesFrom_eq hnext).symm.trans hseries⟩
  · rintro ⟨state', hcovers, hbehind⟩
    rw [hcovers.seriesFrom_eq hnext, hbehind]

end Series

end OneShot.Json
