import Mathlib.Data.List.TakeWhile
import OneShot.Proofs.Json.Members

/-!
# Inputs that go on

A reader does not look beyond the end of what it takes, apart from the byte that ends a number. So
it takes the same from an input that goes on, if this byte is still one that may stand behind a
value: this is `Reader.GoesOn`. A whole input that is read is then still read with white space
around it, and it is refused with anything else behind it.

The strings of a member that is skipped need not be text, so this cannot be told from the texts of
the grammar; the loops are followed through instead. What stands behind their brackets does not
matter to them at all.

## Main definitions

* `Turn.append` — a turn of an input that goes on
* `Reader.GoesOn`, `Reader.IsLocal` — what a reader takes does not depend on what stands behind, or
  around it

## Main results

* `skipFrom_append` — a value that is skipped
* `Reader.Types.isLocal`, `Schema.reader_isLocal` — readers of values and of records
* `Reader.IsLocal.document_spaces` — white space around a whole input
* `Reader.IsLocal.document_line` — anything else on a further line
-/

namespace OneShot.Json

section Append

variable {s t rest : Bytes} (tail : Bytes)

/-! ### Tokens -/

theorem readColon_append (h : readColon s = .ok rest) :
    readColon (s ++ tail) = .ok (rest ++ tail) :=
  readColon_eq_ok_iff.2 (skipSpace_append (readColon_eq_ok_iff.1 h) tail)

theorem readWord_append {word : Bytes} (h : readWord word s = .ok rest) :
    readWord word (s ++ tail) = .ok (rest ++ tail) := by
  rw [readWord_eq_ok_iff] at h ⊢
  rw [h, List.append_assoc]

theorem Literal.read_append {atEnd : Cause} {literal : Literal}
    (h : Literal.read atEnd s = .ok (literal, rest)) (htail : Stops (rest ++ tail)) :
    Literal.read atEnd (s ++ tail) = .ok (literal, rest ++ tail) := by
  obtain ⟨hliteral, cs, hcs, rfl⟩ := Literal.exists_spelled_of_read h
  rw [List.append_assoc]
  exact Literal.read_spelled hliteral hcs htail

namespace Quoted

theorem read_append {text : String} (h : read s = .ok (text, rest)) :
    read (s ++ tail) = .ok (text, rest ++ tail) := by
  obtain ⟨inner, hinner, rfl⟩ := read_eq_ok_iff.1 h
  exact read_eq_ok_iff.2 ⟨inner, hinner, by rw [List.append_assoc, List.cons_append]⟩

theorem skipEscape_append (h : skipEscape s = .ok rest) :
    skipEscape (s ++ tail) = .ok (rest ++ tail) := by
  cases s with
  | nil => cases h
  | cons letter s =>
    rw [List.cons_append]
    simp only [skipEscape] at h ⊢
    split_ifs at h ⊢ with hshort hnumber
    · cases h
      rfl
    · obtain ⟨⟨n, u⟩, hhex, rfl⟩ := map_eq_ok.1 h
      obtain ⟨cs, hcs, rfl⟩ := readHex_eq_ok_iff.1 hhex
      have hlonger := readHex_eq_ok_iff.2 ⟨cs, hcs, List.append_assoc _ u tail⟩
      exact map_eq_ok.2 ⟨(n, u ++ tail), hlonger, rfl⟩

theorem skip_append (h : skip s = .ok rest) : skip (s ++ tail) = .ok (rest ++ tail) := by
  fun_induction skip s with
  | case1 | case3 | case5 => cases h
  | case2 =>
    cases h
    exact skip_quote _
  | case4 s t hescape _ ih =>
    rw [List.cons_append, skip_escape (skipEscape_append tail hescape)]
    exact ih h
  | case6 b s hquote hslash hcontrol ih =>
    rw [List.cons_append, skip, if_neg hquote, if_neg hslash, if_neg hcontrol]
    exact ih h

end Quoted

/-! ### Turns -/

/-- A turn of an input that goes on. -/
def Turn.append : Turn → Bytes → Turn
  | close rest, tail => close (rest ++ tail)
  | item rest, tail => item (rest ++ tail)

namespace Bracket

variable {bracket : Bracket} {turn : Turn}

theorem begin_append (h : bracket.begin s = .ok turn) :
    bracket.begin (s ++ tail) = .ok (turn.append tail) := by
  obtain ⟨t, rfl, rfl⟩ := eq_of_begin h
  rw [List.append_assoc]
  cases bracket <;> rfl

theorem first_append (h : bracket.first s = .ok turn) :
    bracket.first (s ++ tail) = .ok (turn.append tail) := by
  rw [first] at h ⊢
  split at h
  · cases h
  · rename_i b u hs
    rw [skipSpace_append hs tail]
    dsimp only
    split_ifs at h ⊢ with hclose
    · cases h
      rfl
    · exact begin_append tail h

/-- Behind a comma there has to be something of the item: a closing bracket could follow else. -/
theorem next_append (h : bracket.next s = .ok turn) (hitem : turn ≠ .item []) :
    bracket.next (s ++ tail) = .ok (turn.append tail) := by
  rw [next] at h ⊢
  split at h
  · cases h
  · rename_i b u hs
    rw [skipSpace_append hs tail]
    dsimp only at h ⊢
    split_ifs at h with hclose hcomma hhead
    · cases h
      exact if_pos hclose
    · rw [if_neg hclose, if_pos hcomma]
      cases hbehind : skipSpace u with
      | nil =>
        rw [hbehind] at h
        obtain ⟨t, rfl, hlead⟩ := eq_of_begin h
        obtain ⟨-, rfl⟩ := List.nil_eq_append_iff.1 hlead
        exact absurd rfl hitem
      | cons c v =>
        rw [hbehind] at h hhead
        rw [skipSpace_append hbehind tail]
        exact (if_neg hhead).trans (begin_append tail h)

end Bracket

/-! ### Values that are skipped -/

section Skip

/-- What is left of an input that goes on, with the same beside it. -/
theorem map_append {β : Type} {x y : Except Fault Bytes} {b c : β}
    (hxy : ∀ {u}, x = .ok u → y = .ok (u ++ tail)) (h : x.map (b, ·) = .ok (c, rest)) :
    y.map (b, ·) = .ok (c, rest ++ tail) := by
  obtain ⟨u, hx, heq⟩ := map_eq_ok.1 h
  cases heq
  exact map_eq_ok.2 ⟨_, hxy hx, rfl⟩

variable {bracket : Bracket} {stack stack' outer : List Bracket} {opened : Option Bracket}

theorem skipKey_append (h : skipKey bracket s = .ok rest) :
    skipKey bracket (s ++ tail) = .ok (rest ++ tail) := by
  cases bracket with
  | square =>
    cases h
    rfl
  | brace =>
    simp only [skipKey] at h ⊢
    split at h
    · cases h
    · rename_i b u hs
      rw [skipSpace_append hs tail]
      dsimp only
      split_ifs at h with hquote
      obtain ⟨v, hskip, hcolon⟩ := bind_eq_ok.1 h
      rw [if_pos hquote]
      exact bind_eq_ok.2 ⟨_, Quoted.skip_append tail hskip, readColon_append tail hcolon⟩

theorem skipBetween_append (h : skipBetween stack s = .ok (stack', rest)) :
    skipBetween stack (s ++ tail) = .ok (stack', rest ++ tail) := by
  induction stack generalizing s with
  | nil =>
    cases h
    rfl
  | cons bracket outer ih =>
    rw [skipBetween] at h ⊢
    split at h
    · cases h
    · rename_i b u hs
      rw [skipSpace_append hs tail]
      dsimp only
      split_ifs at h ⊢ with hclose hcomma
      · exact ih h
      · exact map_append tail (skipKey_append tail) h

theorem skipOpened_append (h : skipOpened bracket outer s = .ok (stack, rest)) :
    skipOpened bracket outer (s ++ tail) = .ok (stack, rest ++ tail) := by
  rw [skipOpened] at h ⊢
  split at h
  · cases h
  · rename_i b u hs
    rw [skipSpace_append hs tail]
    dsimp only
    split_ifs at h ⊢ with hclose
    · exact skipBetween_append tail h
    · exact map_append tail (skipKey_append tail) h

/-- Inside brackets a value is followed by what may stand behind one. -/
theorem stops_of_skipBetween (h : skipBetween (bracket :: outer) s = .ok (stack, rest)) :
    Stops s := by
  refine .of_skipSpace ?_
  rw [skipBetween] at h
  split at h
  · cases h
  · rename_i b u hu
    rw [hu]
    split_ifs at h with hclose hcomma
    · rw [hclose]
      exact stops_closing bracket u
    · rw [hcomma]
      exact stops_comma u

theorem skipHead_append (h : skipHead s = .ok (opened, rest))
    (htail : opened = none → Stops (rest ++ tail)) :
    skipHead (s ++ tail) = .ok (opened, rest ++ tail) := by
  rw [skipHead] at h ⊢
  split at h
  · cases h
  · rename_i b u hs
    rw [skipSpace_append hs tail]
    dsimp only
    split_ifs at h ⊢
    · cases h
      rfl
    · cases h
      rfl
    · exact map_append tail (readWord_append tail) h
    · exact map_append tail (readWord_append tail) h
    · exact map_append tail (readWord_append tail) h
    · obtain ⟨⟨literal, v⟩, hread, heq⟩ := map_eq_ok.1 h
      cases heq
      exact map_eq_ok.2 ⟨_, Literal.read_append tail hread (htail rfl), rfl⟩
    · exact map_append tail (Quoted.skip_append tail) h

theorem skipStep_append (h : skipStep stack s = .ok (stack', rest))
    (htail : stack' = [] → Stops (rest ++ tail)) :
    skipStep stack (s ++ tail) = .ok (stack', rest ++ tail) := by
  obtain ⟨⟨opened, t⟩, hhead, h⟩ := bind_eq_ok.1 h
  cases opened with
  | some bracket =>
    exact bind_eq_ok.2 ⟨_, skipHead_append tail hhead nofun, skipOpened_append tail h⟩
  | none =>
    have hbetween := skipBetween_append tail h
    refine bind_eq_ok.2 ⟨_, skipHead_append tail hhead fun _ => ?_, hbetween⟩
    cases stack with
    | nil =>
      cases h
      exact htail rfl
    | cons bracket outer => exact stops_of_skipBetween hbetween

/-- **A value is skipped** in the same way if the input goes on. -/
theorem skipFrom_append (h : skipFrom stack s = .ok rest) (htail : Stops (rest ++ tail)) :
    skipFrom stack (s ++ tail) = .ok (rest ++ tail) := by
  fun_induction skipFrom stack s with
  | case1 => cases h
  | case2 stack s t hstep =>
    cases h
    rw [skipFrom_eq, skipStep_append tail hstep fun _ => htail]
    rfl
  | case3 stack s bracket outer t hstep ih =>
    rw [skipFrom_eq, skipStep_append tail hstep fun hnil => absurd hnil (List.cons_ne_nil _ _)]
    exact ih h

end Skip

end Append

/-! ### Readers -/

/-- A reader takes the same from an input that goes on, if what it leaves may still stand behind a
value. -/
def Reader.GoesOn {α : Type} (r : Reader α) : Prop :=
  ∀ s a rest tail, r.run s = .ok (a, rest) → Stops (rest ++ tail) →
    r.run (s ++ tail) = .ok (a, rest ++ tail)

/-- What a reader takes does not depend on what stands around it: white space in front is skipped,
and the input may go on behind. -/
structure Reader.IsLocal {α : Type} (r : Reader α) : Prop where
  run_skipSpace_iff : ∀ s p, r.run (skipSpace s) = .ok p ↔ r.run s = .ok p
  goesOn : r.GoesOn

theorem Reader.Reads.isLocal {α : Type} {r : Reader α} {Spells : α → List Char → Prop}
    (hr : r.Reads Spells) : r.IsLocal where
  run_skipSpace_iff s p := by
    obtain ⟨gap, hgap, hs⟩ := exists_spaces s
    rw [← hr.skips hgap (skipSpace s), ← hs]
  goesOn s a rest tail h htail := by
    obtain ⟨before, cs, hbefore, hcs, rfl⟩ := hr.exists_spelled h
    rw [List.append_assoc, List.append_assoc, hr.skips hbefore]
    exact leaves_ok_iff.1 (hr.gives hcs _ htail)

/-- **Readers that ask what a value is** take the same from an input that goes on. -/
theorem Reader.Types.isLocal {α : Type} {r : Reader α} {type : Value → Except Cause α}
    {depth : Nat} (hr : r.Types type depth) : r.IsLocal where
  run_skipSpace_iff s p := by
    obtain ⟨a, rest⟩ := p
    rw [hr, hr]
    simp only [(Value.reader_reads depth).isLocal.run_skipSpace_iff]
  goesOn s a rest tail h htail := by
    obtain ⟨value, hvalue, ha⟩ := (hr _ _ _).1 h
    have hlonger := (Value.reader_reads depth).isLocal.goesOn _ _ _ _ hvalue htail
    exact (hr _ _ _).2 ⟨value, hlonger, ha⟩

/-! ### Series -/

section Series

variable {σ : Type} {bracket : Bracket} {item : σ → Reader σ} {state state' : σ} {s rest : Bytes}
  (hitem : ∀ state, (item state).GoesOn) (tail : Bytes)

include hitem

/-- **Items are read** in the same way if the input goes on behind the closing bracket. -/
theorem seriesFrom_append (h : seriesFrom bracket item state s = .ok (state', rest)) :
    seriesFrom bracket item state (s ++ tail) = .ok (state', rest ++ tail) := by
  fun_induction seriesFrom bracket item state s with
  | case1 | case2 => cases h
  | case3 state s state'' t hrun rest' hnext =>
    cases h
    have hnext' := Bracket.next_append tail hnext (by rintro ⟨⟩)
    rw [seriesFrom_eq, hitem _ _ _ _ _ hrun (Bracket.stops_of_next hnext')]
    dsimp only [Except.bind]
    rw [hnext']
    rfl
  | case4 state s state'' t hrun rest' hnext ih =>
    have hne : Turn.item rest' ≠ .item [] := by
      rintro ⟨⟩
      exact absurd (length_seriesFrom_lt h) (Nat.not_lt_zero _)
    have hnext' := Bracket.next_append tail hnext hne
    rw [seriesFrom_eq, hitem _ _ _ _ _ hrun (Bracket.stops_of_next hnext')]
    dsimp only [Except.bind]
    rw [hnext']
    exact ih h

theorem series_append (h : series bracket item state s = .ok (state', rest)) :
    series bracket item state (s ++ tail) = .ok (state', rest ++ tail) := by
  rw [series_eq] at h ⊢
  obtain ⟨turn, hfirst, h⟩ := bind_eq_ok.1 h
  rw [Bracket.first_append tail hfirst]
  cases turn with
  | close t =>
    cases h
    rfl
  | item t => exact seriesFrom_append hitem tail h

end Series

/-! ### Records -/

namespace Schema

variable {α : Type} {schema : Schema α} {draft draft' : schema.Draft} {s rest : Bytes}
  (hcontent : ∀ f, (schema.content f).IsLocal) (tail : Bytes)

include hcontent

omit tail in
theorem memberReader_goesOn (draft : schema.Draft) : (schema.memberReader draft).GoesOn := by
  intro s draft' rest tail h htail
  change schema.readMember draft s = _ at h
  change schema.readMember draft (s ++ tail) = _
  obtain ⟨⟨key, t⟩, hkey, h⟩ := bind_eq_ok.1 h
  refine bind_eq_ok.2 ⟨_, Quoted.read_append tail hkey, ?_⟩
  dsimp only at h ⊢
  cases hfield : schema.field? key with
  | none =>
    simp only [hfield] at h ⊢
    obtain ⟨u, hcolon, h⟩ := bind_eq_ok.1 h
    obtain ⟨v, hskip, heq⟩ := map_eq_ok.1 h
    cases heq
    exact bind_eq_ok.2 ⟨_, readColon_append tail hcolon,
      map_eq_ok.2 ⟨_, skipFrom_append tail hskip htail, rfl⟩⟩
  | some f =>
    simp only [hfield] at h ⊢
    split_ifs at h ⊢
    obtain ⟨u, hcolon, h⟩ := bind_eq_ok.1 h
    obtain ⟨⟨content, v⟩, hread, heq⟩ := map_eq_ok.1 h
    cases heq
    exact bind_eq_ok.2 ⟨_, readColon_append tail hcolon,
      map_eq_ok.2 ⟨_, (hcontent f).goesOn _ _ _ tail hread htail, rfl⟩⟩

theorem readObject_append {a : α} (h : schema.readObject s = .ok (a, rest)) :
    schema.readObject (s ++ tail) = .ok (a, rest ++ tail) := by
  obtain ⟨⟨draft, t⟩, hseries, hbuild⟩ := bind_eq_ok.1 h
  obtain ⟨ha, rfl⟩ := complete_eq_ok_iff.1 hbuild
  have hlonger := series_append (memberReader_goesOn hcontent) tail (mapError_eq_ok.1 hseries)
  exact bind_eq_ok.2 ⟨_, mapError_eq_ok.2 hlonger, complete_eq_ok_iff.2 ⟨ha, rfl⟩⟩

omit hcontent in
/-- Behind a field stands another one or what ends the list. -/
theorem stops_of_readFields {count : Nat} {fields : List schema.Field}
    (h : schema.readFields (count + 1) draft fields s = .ok (draft', rest)) (hrest : Stops rest) :
    Stops s := by
  cases fields with
  | nil =>
    cases h
    exact hrest
  | cons f more =>
    obtain ⟨turn, hturn, -⟩ := bind_eq_ok.1 h
    exact Bracket.stops_of_next hturn

theorem readFields_append {count : Nat} {fields : List schema.Field}
    (h : schema.readFields count draft fields s = .ok (draft', rest))
    (htail : Stops (rest ++ tail)) :
    schema.readFields count draft fields (s ++ tail) = .ok (draft', rest ++ tail) := by
  induction fields generalizing count draft s with
  | nil =>
    cases h
    rfl
  | cons f more ih =>
    obtain ⟨turn, hturn, h⟩ := bind_eq_ok.1 h
    cases turn with
    | close t => cases h
    | item t =>
      obtain ⟨⟨content, u⟩, hread, h⟩ := bind_eq_ok.1 h
      have hmore := ih h
      have hne : Turn.item t ≠ .item [] := by
        rintro ⟨⟩
        exact absurd ((schema.content f).shortens hread) (Nat.not_lt_zero _)
      have hturn' : (if count = 0 then Bracket.square.first (s ++ tail)
          else Bracket.square.next (s ++ tail)) = .ok (.item (t ++ tail)) := by
        split_ifs at hturn ⊢
        · exact Bracket.first_append tail hturn
        · exact Bracket.next_append tail hturn hne
      exact bind_eq_ok.2 ⟨_, hturn', bind_eq_ok.2 ⟨_,
        (hcontent f).goesOn _ _ _ tail hread (stops_of_readFields hmore htail), hmore⟩⟩

omit hcontent in
theorem closeList_eq_ok_iff : closeList s = .ok rest ↔ skipSpace s = byte ']' :: rest := by
  rw [closeList]
  cases skipSpace s with
  | nil => exact ⟨nofun, nofun⟩
  | cons b t =>
    dsimp only
    split_ifs with hclose hcomma
    · rw [hclose, Except.ok.injEq, List.cons.injEq, and_iff_right rfl]
    · exact ⟨nofun, fun h => absurd (List.cons.inj h).1 hclose⟩
    · exact ⟨nofun, fun h => absurd (List.cons.inj h).1 hclose⟩

theorem readList_append {a : α} (h : schema.readList s = .ok (a, rest)) :
    schema.readList (s ++ tail) = .ok (a, rest ++ tail) := by
  obtain ⟨⟨draft, t⟩, hfields, h⟩ := bind_eq_ok.1 h
  obtain ⟨u, hclose, hbuild⟩ := bind_eq_ok.1 h
  obtain ⟨ha, rfl⟩ := complete_eq_ok_iff.1 hbuild
  have hclose' := skipSpace_append (closeList_eq_ok_iff.1 hclose) tail
  have hstops : Stops (t ++ tail) := .of_skipSpace (by
    rw [hclose']
    exact stops_closing .square _)
  exact bind_eq_ok.2 ⟨_, mapError_eq_ok.2
    (readFields_append hcontent tail (mapError_eq_ok.1 hfields) hstops),
    bind_eq_ok.2 ⟨_, closeList_eq_ok_iff.2 hclose', complete_eq_ok_iff.2 ⟨ha, rfl⟩⟩⟩

omit hcontent in
/-- No scalar is a record. -/
theorem readTyped_unexpected_ne_ok {a : α} :
    readTyped schema.title (fun value => .error (value.unexpected schema.title)) s ≠
      .ok (a, rest) := by
  intro h
  have htypes : (scalarReader schema.title fun value =>
      (.error (value.unexpected schema.title) : Except Cause α)).Types _ 0 :=
    scalarReader_types (fun h => by cases h) 0
  obtain ⟨_, -, hvalue⟩ := (htypes _ _ _).1 h
  cases hvalue

/-- **Records are read** in the same way from an input that goes on. -/
theorem reader_isLocal : schema.reader.IsLocal where
  run_skipSpace_iff s p := by
    change schema.read (skipSpace s) = _ ↔ schema.read s = _
    rw [read, read, skipSpace_skipSpace]
  goesOn s a rest tail h _ := by
    change schema.read s = _ at h
    change schema.read (s ++ tail) = _
    rw [read] at h ⊢
    split at h
    · cases h
    · rename_i b t hs
      rw [skipSpace_append hs tail]
      dsimp only
      split_ifs at h ⊢
      · exact readList_append hcontent tail h
      · exact readObject_append hcontent tail h
      · exact absurd h readTyped_unexpected_ne_ok

omit hcontent in
theorem Regular.isLocal (hschema : schema.Regular) : schema.reader.IsLocal :=
  reader_isLocal fun f => by
    obtain ⟨_, _, htypes⟩ := hschema.asksValues f
    exact htypes.isLocal

end Schema

/-! ### Whole inputs -/

section Document

variable {α : Type} {r : Reader α} {s : Bytes} {a : α}

/-- What is skipped as a whole is white space. -/
theorem exists_eq_spaces (h : ∀ b ∈ s, isSpace b = true) :
    ∃ gap, IsSpaces gap ∧ s = Utf8.ofChars gap := by
  obtain ⟨gap, hgap, hs⟩ := exists_spaces s
  have hnil : skipSpace s = [] := List.dropWhile_eq_nil_iff.2 h
  rw [hnil, List.append_nil] at hs
  exact ⟨gap, hgap, hs⟩

/-- **White space around a whole input** does not change what is read of it. -/
theorem Reader.IsLocal.document_spaces (hr : r.IsLocal) (h : document r s = .ok a)
    {before after : Bytes} (hbefore : ∀ b ∈ before, isSpace b = true)
    (hafter : ∀ b ∈ after, isSpace b = true) :
    document r (before ++ (s ++ after)) = .ok a := by
  obtain ⟨front, hfront, rfl⟩ := exists_eq_spaces hbefore
  obtain ⟨back, hback, rfl⟩ := exists_eq_spaces hafter
  obtain ⟨rest, hrun, hrest⟩ := document_eq_ok_iff.1 h
  obtain ⟨gap, hgap, rfl⟩ := exists_eq_spaces (List.dropWhile_eq_nil_iff.1 hrest)
  refine document_eq_ok_iff.2 ⟨Utf8.ofChars gap ++ Utf8.ofChars back, ?_, ?_⟩
  · rw [← hr.run_skipSpace_iff, skipSpace_spaces hfront, hr.run_skipSpace_iff]
    exact hr.goesOn _ _ _ _ hrun (stops_spaces hgap (stops_ofChars_spaces hback))
  · rw [skipSpace_spaces hgap, skipSpace_ofChars_spaces hback]

/-- **A whole input is refused with anything but white space on further lines.** -/
theorem Reader.IsLocal.document_line (hr : r.IsLocal) (h : document r s = .ok a) {more : Bytes}
    (hmore : ∃ b ∈ more, isSpace b = false) :
    ∃ fault, document r (s ++ byte '\n' :: more) = .error fault := by
  obtain ⟨rest, hrun, hrest⟩ := document_eq_ok_iff.1 h
  have hline : Stops (byte '\n' :: more) := by
    rintro _ ⟨⟩
    exact .inl rfl
  have hstops : Stops (rest ++ byte '\n' :: more) := by
    obtain ⟨gap, hgap, rfl⟩ := exists_eq_spaces (List.dropWhile_eq_nil_iff.1 hrest)
    exact stops_spaces hgap hline
  have hlonger := hr.goesOn _ _ _ _ hrun hstops
  cases hdocument : document r (s ++ byte '\n' :: more) with
  | error fault => exact ⟨fault, rfl⟩
  | ok b =>
    obtain ⟨rest', hrun', hrest'⟩ := document_eq_ok_iff.1 hdocument
    rw [hlonger] at hrun'
    cases hrun'
    obtain ⟨c, hc, hnot⟩ := hmore
    have hspace := List.dropWhile_eq_nil_iff.1 hrest' c
      (List.mem_append_right _ (List.mem_cons_of_mem _ hc))
    rw [hnot] at hspace
    cases hspace

end Document

end OneShot.Json
