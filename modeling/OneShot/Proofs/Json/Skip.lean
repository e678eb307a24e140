import OneShot.Json.Skip
import OneShot.Proofs.Json.Bracket

/-!
# JSON texts are skipped

A value that nobody asks for is skipped by a loop over a stack of open brackets. The loop takes
every JSON text and no more of the input, apart from white space, `IsText.skipValue_eq`. It takes
numbers that are out of range, escapes of surrogates that make no pair, and brackets to any depth,
so nothing is asked of the text but its grammar.

The induction is on the derivation of the text, for any stack: what is skipped of a text is followed
by what the stack asks for, `skipBehind`. An item between brackets is a value with a key in front or
without one, and `Bracket.HoldsSkipped` is what is needed of either.

## Main definitions

* `skipBehind` — what is taken behind a value, given the stack
* `IsSkipped` — a text is taken as a value, whatever the stack
* `Bracket.HoldsSkipped` — an item whose value is such a text

## Main results

* `Quoted.skip_of_isString` — strings are skipped
* `IsText.isSkipped`, `IsText.skipValue_eq` — JSON texts are skipped
-/

namespace OneShot.Json

/-! ### White space in front -/

theorem skipSpace_skipSpace (s : Bytes) : skipSpace (skipSpace s) = skipSpace s := by
  obtain ⟨gap, hgap, hs⟩ := exists_spaces s
  rw [← skipSpace_spaces hgap (skipSpace s), ← hs]

theorem isSpace_of_skipSpace {s t : Bytes} {b : UInt8} (h : skipSpace s = b :: t) :
    isSpace b = false := by
  have hnot := List.head?_dropWhile_not isSpace s
  rw [show s.dropWhile isSpace = b :: t from h] at hnot
  simpa using hnot

/-- What stands behind the first byte that is no white space does not matter to it. -/
theorem skipSpace_append {s t : Bytes} {b : UInt8} (h : skipSpace s = b :: t) (behind : Bytes) :
    skipSpace (s ++ behind) = b :: (t ++ behind) := by
  obtain ⟨gap, hgap, hs⟩ := exists_spaces s
  rw [hs, h, List.append_assoc, skipSpace_spaces hgap, List.cons_append,
    Bracket.skipSpace_cons (isSpace_of_skipSpace h)]

/-! ### Strings -/

namespace Quoted

theorem skip_quote (rest : Bytes) : skip (byte '"' :: rest) = .ok rest := by
  rw [skip]
  exact if_pos rfl

theorem skip_escape {s rest : Bytes} (h : skipEscape s = .ok rest) :
    skip (byte '\\' :: s) = skip rest := by
  rw [skip, if_neg (by decide), if_pos rfl]
  split
  · rename_i hs
    rw [h] at hs
    cases hs
  · rename_i hs
    rw [h] at hs
    cases hs
    rfl

theorem skip_plain {b : UInt8} (h : 0x20 ≤ b.toNat) (hquote : b ≠ byte '"')
    (hslash : b ≠ byte '\\') (rest : Bytes) : skip (b :: rest) = skip rest := by
  have hcontrol : ¬b < 0x20 := by
    rw [UInt8.lt_iff_toNat_lt]
    exact Nat.not_lt_of_le h
  rw [skip, if_neg hquote, if_neg hslash, if_neg hcontrol]

/-- Bytes beyond ASCII are skipped one by one, whatever character they belong to. -/
theorem skip_plains {s : Bytes} (h : ∀ b ∈ s, 0x80 ≤ b.toNat) (rest : Bytes) :
    skip (s ++ rest) = skip rest := by
  induction s with
  | nil => rfl
  | cons b s ih =>
    obtain ⟨hb, hs⟩ := List.forall_mem_cons.1 h
    have hquote : b ≠ byte '"' := by
      rintro rfl
      exact absurd hb (by decide)
    have hslash : b ≠ byte '\\' := by
      rintro rfl
      exact absurd hb (by decide)
    rw [List.cons_append, skip_plain (Nat.le_trans (by decide) hb) hquote hslash, ih hs]

theorem exists_hexDigit {c : Char} (h : IsHexDigit c) : ∃ n, HexDigit n c := by
  have hletters : ("abcdefABCDEF".toList.all fun c =>
      decide (∃ n < (16 : Nat), c = hexChar n ∨ c = (hexChar n).toUpper)) = true := by
    decide
  have hdigits : ∀ k < 10, Char.ofNat (48 + k) = hexChar k := by decide
  rcases h with hdigit | hletter
  · rw [isDigit_iff] at hdigit
    have hchar := hdigits (c.toNat - 48) (by omega)
    rw [show 48 + (c.toNat - 48) = c.toNat by omega, Char.ofNat_toNat] at hchar
    exact ⟨c.toNat - 48, by omega, .inl hchar⟩
  · obtain ⟨n, hn, hc⟩ := of_decide_eq_true (List.all_eq_true.1 hletters c hletter)
    exact ⟨n, hn, hc⟩

theorem skip_piece {piece : List Char} (h : Piece piece) (rest : Bytes) :
    skip (Utf8.ofChars piece ++ rest) = skip rest := by
  cases h with
  | @plain c hcontrol hquote hslash =>
    rw [Utf8.ofChars_singleton_append, Utf8.ofChars_nil, List.append_nil]
    by_cases hascii : c.toNat < 0x80
    · have hne {d : Char} (hd : d.toNat < 0x80) (hcd : c ≠ d) : byte c ≠ byte d := by
        intro h
        refine hcd (Char.toNat_inj.1 ?_)
        rw [← Utf8.toNat_byte hascii, h, Utf8.toNat_byte hd]
      rw [Utf8.utf8EncodeChar_of_lt hascii, List.singleton_append]
      refine skip_plain ?_ (hne (by decide) hquote) (hne (by decide) hslash) rest
      rw [Utf8.toNat_byte hascii]
      exact hcontrol
    · exact skip_plains (Utf8.le_toNat_of_mem_utf8EncodeChar (Nat.le_of_not_lt hascii)) rest
  | @short c hc =>
    have hshort : (['"', '\\', '/', 'b', 'f', 'n', 'r', 't'].all fun c =>
        c.toNat < 0x80 ∧ (shortEscape? (byte c)).isSome) = true := by
      decide
    obtain ⟨hascii, hsome⟩ := of_decide_eq_true (List.all_eq_true.1 hshort c hc)
    rw [Utf8.ofChars_cons (by decide), Utf8.ofChars_cons hascii, Utf8.ofChars_nil,
      List.cons_append, List.singleton_append]
    refine skip_escape ?_
    rw [skipEscape, if_pos hsome]
  | @number a b c d h =>
    simp only [List.forall_mem_cons] at h
    obtain ⟨ha, hb, hc, hd, -⟩ := h
    obtain ⟨na, hna⟩ := exists_hexDigit ha
    obtain ⟨nb, hnb⟩ := exists_hexDigit hb
    obtain ⟨nc, hnc⟩ := exists_hexDigit hc
    obtain ⟨nd, hnd⟩ := exists_hexDigit hd
    have hread : readHex (Utf8.ofChars [a, b, c, d] ++ rest) = .ok (_, rest) :=
      readHex_eq_ok_iff.2 ⟨[a, b, c, d], .mk hna hnb hnc hnd, rfl⟩
    rw [Utf8.ofChars_cons (by decide), Utf8.ofChars_cons (by decide), List.cons_append,
      List.cons_append]
    refine skip_escape ?_
    rw [skipEscape, if_neg (by decide), if_pos rfl, hread]
    rfl

/-- **Strings are skipped**, whatever their escapes stand for. -/
theorem skip_of_isString {cs : List Char} (h : IsString cs) (rest : Bytes) :
    ∃ s, Utf8.ofChars cs ++ rest = byte '"' :: s ∧ skip s = .ok rest := by
  obtain ⟨pieces, hpieces, rfl⟩ := h
  refine ⟨Utf8.ofChars pieces.flatten ++ byte '"' :: rest, ?_, ?_⟩
  · rw [ofChars_quoted, List.cons_append, List.append_assoc]
    rfl
  · induction pieces with
    | nil => exact skip_quote rest
    | cons piece pieces ih =>
      obtain ⟨hpiece, hpieces⟩ := List.forall_mem_cons.1 hpieces
      rw [List.flatten_cons, Utf8.ofChars_append, List.append_assoc, skip_piece hpiece]
      exact ih hpieces

end Quoted

/-! ### Steps of the loop -/

/-- What is taken when these brackets are open and everything in front of the next value has been
taken. -/
def skipOpen : List Bracket × Bytes → Except Fault Bytes
  | ([], rest) => .ok rest
  | (bracket :: outer, rest) => skipFrom (bracket :: outer) rest

/-- What is taken behind a value inside the brackets of a stack. -/
def skipBehind (stack : List Bracket) (s : Bytes) : Except Fault Bytes :=
  (skipBetween stack s).bind skipOpen

section Steps

variable {bracket : Bracket} {stack outer : List Bracket} {s t rest : Bytes}

theorem skipFrom_eq (stack : List Bracket) (s : Bytes) :
    skipFrom stack s = (skipStep stack s).bind skipOpen := by
  rw [skipFrom]
  split <;> rename_i hstep <;> rw [hstep] <;> rfl

theorem skipFrom_of_scalar (h : skipHead s = .ok (none, rest)) :
    skipFrom stack s = skipBehind stack rest := by
  rw [skipFrom_eq, skipStep, h]
  rfl

theorem skipFrom_of_opened (h : skipHead s = .ok (some bracket, rest)) :
    skipFrom stack s = (skipOpened bracket stack rest).bind skipOpen := by
  rw [skipFrom_eq, skipStep, h]
  rfl

/-- White space in front of a value does not matter. -/
theorem skipFrom_congr (h : skipSpace s = skipSpace t) : skipFrom stack s = skipFrom stack t := by
  rw [skipFrom_eq, skipFrom_eq, skipStep, skipStep, skipHead, skipHead, h]

/-- Behind the last item its bracket is closed. -/
theorem skipBehind_close (h : skipSpace s = bracket.closing :: rest) :
    skipBehind (bracket :: outer) s = skipBehind outer rest := by
  rw [skipBehind, skipBetween, h]
  dsimp only
  rw [if_pos rfl]
  rfl

/-- Behind another item the next one is taken, less its key. -/
theorem skipBehind_comma (h : skipSpace s = byte ',' :: rest) :
    skipBehind (bracket :: outer) s =
      (skipKey bracket rest).bind (skipFrom (bracket :: outer)) := by
  have hcomma : byte ',' ≠ bracket.closing := by cases bracket <;> decide
  rw [skipBehind, skipBetween, h]
  dsimp only
  rw [if_neg hcomma, if_pos rfl]
  cases skipKey bracket rest <;> rfl

theorem skipOpened_close (h : skipSpace s = bracket.closing :: rest) :
    (skipOpened bracket outer s).bind skipOpen = skipBehind outer rest := by
  rw [skipOpened, h]
  dsimp only
  rw [if_pos rfl]
  rfl

theorem skipOpened_item {b : UInt8} (h : skipSpace s = b :: rest) (hb : b ≠ bracket.closing) :
    (skipOpened bracket outer s).bind skipOpen =
      (skipKey bracket (b :: rest)).bind (skipFrom (bracket :: outer)) := by
  rw [skipOpened, h]
  dsimp only
  rw [if_neg hb]
  cases skipKey bracket (b :: rest) <;> rfl

end Steps

/-! ### Items -/

/-- A text is taken as a value, whatever the stack, and only white space behind it may be left to
what follows. -/
def IsSkipped (cs : List Char) : Prop :=
  ∀ stack rest, Stops rest → ∃ t, skipSpace t = skipSpace rest ∧
    skipFrom stack (Utf8.ofChars cs ++ rest) = skipBehind stack t

/-- A value does not begin with a closing bracket. -/
theorem IsSkipped.exists_head {cs : List Char} (h : IsSkipped cs) (s : Bytes) :
    ∃ b t, skipSpace (Utf8.ofChars cs ++ s) = b :: t ∧ b ≠ byte ']' := by
  obtain ⟨t, -, hskip⟩ := h [] [] stops_nil
  rw [List.append_nil] at hskip
  have hok : skipFrom [] (Utf8.ofChars cs) = .ok t := hskip
  rw [skipFrom_eq, skipStep] at hok
  obtain ⟨_, hstep, _⟩ := bind_eq_ok.1 hok
  obtain ⟨_, hhead, _⟩ := bind_eq_ok.1 hstep
  rw [skipHead] at hhead
  split at hhead
  · cases hhead
  · rename_i b u hb
    refine ⟨b, u ++ s, skipSpace_append hb s, ?_⟩
    rintro rfl
    rw [if_neg (by decide), if_neg (by decide), if_neg (by decide), if_neg (by decide),
      if_neg (by decide), if_neg (by decide), if_neg (by decide)] at hhead
    cases hhead

/-- An item between brackets that holds a value, which stands behind the key if there is one. -/
structure Bracket.HoldsSkipped (bracket : Bracket) (item value : List Char) : Prop where
  exists_head : ∀ s, ∃ b t, skipSpace (Utf8.ofChars item ++ s) = b :: t ∧ b ≠ bracket.closing
  skipKey_eq : ∀ {s u}, skipSpace u = skipSpace (Utf8.ofChars item ++ s) → ∃ v,
    skipKey bracket u = .ok v ∧ skipSpace v = skipSpace (Utf8.ofChars value ++ s)
  isSkipped : IsSkipped value

/-- An item of a list is a value. -/
theorem IsSkipped.holds {cs : List Char} (h : IsSkipped cs) :
    Bracket.square.HoldsSkipped cs cs where
  exists_head := h.exists_head
  skipKey_eq hu := ⟨_, rfl, hu⟩
  isSkipped := h

/-- A member of an object is a key and a value. -/
theorem IsSkipped.holds_of_isKey {key cs : List Char} (hkey : IsKey key) (h : IsSkipped cs) :
    Bracket.brace.HoldsSkipped (key ++ ':' :: cs) cs := by
  obtain ⟨before, name, after, hbefore, hname, hafter, rfl⟩ := hkey
  have hmember (s : Bytes) : ∃ t,
      skipSpace (Utf8.ofChars (before ++ name ++ after ++ ':' :: cs) ++ s) = byte '"' :: t ∧
      Quoted.skip t =
        .ok (Utf8.ofChars after ++ byte ':' :: (Utf8.ofChars cs ++ s)) := by
    obtain ⟨t, ht, hskip⟩ := Quoted.skip_of_isString hname
      (Utf8.ofChars after ++ byte ':' :: (Utf8.ofChars cs ++ s))
    refine ⟨t, ?_, hskip⟩
    have hbytes : Utf8.ofChars (before ++ name ++ after ++ ':' :: cs) ++ s =
        Utf8.ofChars before ++ byte '"' :: t := by
      rw [← ht]
      simp only [Utf8.ofChars_append, Utf8.ofChars_cons (show (':').toNat < 0x80 by decide),
        List.append_assoc, List.cons_append]
    rw [hbytes, skipSpace_spaces hbefore]
    exact Bracket.skipSpace_cons (by decide) t
  refine ⟨fun s => ?_, fun {s u} hu => ?_, h⟩
  · obtain ⟨t, ht, -⟩ := hmember s
    exact ⟨_, t, ht, by decide⟩
  · obtain ⟨t, ht, hskip⟩ := hmember s
    refine ⟨Utf8.ofChars cs ++ s, ?_, rfl⟩
    rw [skipKey, hu, ht]
    dsimp only
    rw [if_pos rfl, hskip]
    change readColon _ = _
    rw [readColon, skipSpace_spaces hafter, Bracket.skipSpace_cons (by decide)]
    exact if_pos rfl

/-- **Items are skipped one after another**, from the key of the first one on. -/
theorem skipFrom_items {bracket : Bracket} {items : List (List Char)} {rest : Bytes}
    {outer : List Bracket} :
    ∀ {item : List Char}, (∀ i ∈ item :: items, ∃ value, bracket.HoldsSkipped i value) →
      ∀ {u : Bytes}, skipSpace u =
          skipSpace (Utf8.ofChars (writeSeries (item :: items) ++ [bracket.closer]) ++ rest) →
        (skipKey bracket u).bind (skipFrom (bracket :: outer)) = skipBehind outer rest := by
  induction items with
  | nil =>
    intro item h u hu
    obtain ⟨value, hvalue⟩ := h item List.mem_cons_self
    rw [Bracket.ofChars_closer] at hu
    obtain ⟨v, hkey, hv⟩ := hvalue.skipKey_eq hu
    obtain ⟨t, ht, hskip⟩ := hvalue.isSkipped (bracket :: outer) _ (stops_closing bracket rest)
    rw [Bracket.skipSpace_cons bracket.isSpace_closing] at ht
    calc (skipKey bracket u).bind (skipFrom (bracket :: outer))
        = skipFrom (bracket :: outer) v := by rw [hkey]; rfl
      _ = skipBehind (bracket :: outer) t := by rw [skipFrom_congr hv, hskip]
      _ = skipBehind outer rest := skipBehind_close ht
  | cons item' items ih =>
    intro item h u hu
    obtain ⟨value, hvalue⟩ := h item List.mem_cons_self
    rw [Bracket.ofChars_series_cons] at hu
    obtain ⟨v, hkey, hv⟩ := hvalue.skipKey_eq hu
    obtain ⟨t, ht, hskip⟩ := hvalue.isSkipped (bracket :: outer) _ (stops_comma _)
    rw [Bracket.skipSpace_cons (by decide)] at ht
    calc (skipKey bracket u).bind (skipFrom (bracket :: outer))
        = skipFrom (bracket :: outer) v := by rw [hkey]; rfl
      _ = skipBehind (bracket :: outer) t := by rw [skipFrom_congr hv, hskip]
      _ = _ := skipBehind_comma ht
      _ = skipBehind outer rest := ih (fun i hi => h i (List.mem_cons_of_mem item hi)) rfl

/-! ### Texts -/

/-- What is taken as a head leaves nothing to white space. -/
theorem isSkipped_of_skipHead {cs : List Char}
    (h : ∀ rest, Stops rest → skipHead (Utf8.ofChars cs ++ rest) = .ok (none, rest)) :
    IsSkipped cs :=
  fun _ rest hrest => ⟨rest, rfl, skipFrom_of_scalar (h rest hrest)⟩

theorem isSkipped_series (bracket : Bracket) {gap : List Char} {items : List (List Char)}
    (hgap : IsSpaces gap) (h : ∀ item ∈ items, ∃ value, bracket.HoldsSkipped item value) :
    IsSkipped (bracket.opener :: (gap ++ (writeSeries items ++ [bracket.closer]))) := by
  intro stack rest _
  refine ⟨rest, rfl, ?_⟩
  have hhead (s : Bytes) : skipHead (byte bracket.opener :: s) = .ok (some bracket, s) := by
    cases bracket <;> rfl
  rw [Bracket.ofChars_opener, skipFrom_of_opened (hhead _)]
  cases items with
  | nil =>
    refine skipOpened_close ?_
    rw [skipSpace_spaces hgap, Bracket.ofChars_closer]
    exact Bracket.skipSpace_cons bracket.isSpace_closing rest
  | cons item items =>
    obtain ⟨value, hvalue⟩ := h item List.mem_cons_self
    obtain ⟨b, t, hbt, hb⟩ : ∃ b t, skipSpace (Utf8.ofChars gap ++
        (Utf8.ofChars (writeSeries (item :: items) ++ [bracket.closer]) ++ rest)) = b :: t ∧
          b ≠ bracket.closing := by
      rw [skipSpace_spaces hgap]
      cases items with
      | nil =>
        rw [Bracket.ofChars_closer]
        exact hvalue.exists_head _
      | cons item' items =>
        rw [Bracket.ofChars_series_cons]
        exact hvalue.exists_head _
    rw [skipOpened_item hbt hb]
    refine skipFrom_items h ?_
    rw [← hbt, skipSpace_skipSpace, skipSpace_spaces hgap]

/-- **JSON texts are skipped**, whatever brackets are open around them. -/
theorem IsText.isSkipped {cs : List Char} (h : IsText cs) : IsSkipped cs := by
  induction h with
  | @spaced before cs after hbefore _ hafter ih =>
    intro stack rest hrest
    obtain ⟨t, ht, hskip⟩ := ih stack _ (stops_spaces hafter hrest)
    refine ⟨t, ht.trans (skipSpace_spaces hafter rest), ?_⟩
    rw [← hskip]
    refine skipFrom_congr ?_
    rw [Utf8.ofChars_append, Utf8.ofChars_append, List.append_assoc, List.append_assoc,
      skipSpace_spaces hbefore]
  | @word name hname =>
    have hcases : name = "null" ∨ name = "true" ∨ name = "false" := by simpa using hname
    rcases hcases with rfl | rfl | rfl <;> exact isSkipped_of_skipHead fun rest _ => rfl
  | @number literal cs hliteral hcs =>
    refine isSkipped_of_skipHead fun rest hrest => ?_
    have hread : Literal.read .invalidNumber (Utf8.ofChars cs ++ rest) = .ok (literal, rest) :=
      Literal.read_spelled hliteral hcs hrest
    obtain ⟨b, t, hbt, hb⟩ := Literal.exists_head_of_read hread
    obtain ⟨hspace, hsquare, hbrace, -, hn, ht, hf⟩ := not_starts_other hb
    rw [skipHead, hbt, Bracket.skipSpace_cons hspace]
    dsimp only
    rw [if_neg hsquare, if_neg hbrace, if_neg hn, if_neg ht, if_neg hf, if_pos hb, ← hbt, hread]
    rfl
  | string hstring =>
    refine isSkipped_of_skipHead fun rest _ => ?_
    obtain ⟨s, hs, hskip⟩ := Quoted.skip_of_isString hstring rest
    rw [skipHead, hs, Bracket.skipSpace_cons (by decide)]
    dsimp only
    rw [if_neg (by decide), if_neg (by decide), if_neg (by decide), if_neg (by decide),
      if_neg (by decide), if_neg (by decide), if_pos rfl, hskip]
    rfl
  | array hgap _ ih => exact isSkipped_series .square hgap fun item hitem =>
      ⟨item, (ih item hitem).holds⟩
  | object hgap hkey _ ih =>
    refine isSkipped_series .brace hgap fun item hitem => ?_
    obtain ⟨member, hmember, rfl⟩ := List.mem_map.1 hitem
    exact ⟨member.2, (ih member hmember).holds_of_isKey (hkey member hmember)⟩

/-- **A JSON text is taken as a value**, and at most white space of it is left. -/
theorem IsText.skipValue_eq {cs : List Char} (h : IsText cs) {rest : Bytes} (hrest : Stops rest) :
    ∃ t, skipValue (Utf8.ofChars cs ++ rest) = .ok t ∧ skipSpace t = skipSpace rest := by
  obtain ⟨t, ht, hskip⟩ := h.isSkipped [] rest hrest
  exact ⟨t, hskip, ht⟩

end OneShot.Json
