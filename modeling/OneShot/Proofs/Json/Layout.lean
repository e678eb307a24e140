import OneShot.Proofs.Json.Whole

/-!
# Texts between brackets

What is read of an array or of an object is made up of what its items are as texts of their own:
each item is taken as a whole or not at all, so what stands around it does not matter. A series is
therefore a fold over the texts of its items, `Bracket.series_texts_iff`, for any reader that goes
from state to state, and the values of an array or an object are those of its items.

A turn takes the white space in front of an item, and in an object the quotation mark of the key;
`Bracket.Begins` is what a turn leaves of an item.

## Main definitions

* `Reader.ofText?` — what a reader makes of a text that is the whole input
* `Bracket.Begins` — an item as a turn leaves it
* `Bracket.Enters` — what a reader of items makes of the text of an item, given the state
* `MemberAt` — a member as a turn leaves it

## Main results

* `Bracket.series_texts_iff`, `Bracket.items_texts_iff` — a series of texts
* `IsKey.exists_body` — what is read of a key
* `Value.ofText?_array_iff`, `Value.ofText?_object_iff` — values from those of their items
-/

namespace OneShot.Json

/-! ### Whole texts -/

section OfText

variable {α : Type} {r : Reader α} {cs : List Char} {a : α}

/-- What a reader makes of a text that is the whole input. -/
def Reader.ofText? (r : Reader α) (cs : List Char) : Option α :=
  (document r (Utf8.ofChars cs)).toOption

theorem Reader.ofText?_eq_some_iff :
    r.ofText? cs = some a ↔ document r (Utf8.ofChars cs) = .ok a := by
  rw [ofText?]
  cases document r (Utf8.ofChars cs) with
  | error fault => exact ⟨nofun, nofun⟩
  | ok b => exact ⟨fun h => by cases h; rfl, fun h => by cases h; rfl⟩

/-- A text is what it is as a whole input, whatever stands behind it. -/
theorem Reader.Types.settles {type : Value → Except Cause α} {depth : Nat}
    (hr : r.Types type depth) (hcs : IsText cs) :
    r.Settles (Utf8.ofChars cs) (r.ofText? cs) where
  allOrNothing := hr.allOrNothing hcs
  covers_iff a := by rw [(hr.allOrNothing hcs).covers_iff, ofText?_eq_some_iff]

/-- What is read of a text is what its value is. -/
theorem Reader.Types.ofText?_eq_some_iff {type : Value → Except Cause α} {depth : Nat}
    (hr : r.Types type depth) :
    r.ofText? cs = some a ↔
      ∃ value, (Value.reader depth).ofText? cs = some value ∧ type value = .ok a := by
  simp only [Reader.ofText?_eq_some_iff, document_eq_ok_iff, hr _ _ _]
  constructor
  · rintro ⟨rest, ⟨value, hvalue, ha⟩, hrest⟩
    exact ⟨value, ⟨rest, hvalue, hrest⟩, ha⟩
  · rintro ⟨value, ⟨rest, hvalue, hrest⟩, ha⟩
    exact ⟨rest, ⟨value, hvalue, ha⟩, hrest⟩

theorem Reader.Types.ofText?_spaces_iff {type : Value → Except Cause α} {depth : Nat}
    (hr : r.Types type depth) (hcs : IsText cs) {before after : List Char}
    (hbefore : IsSpaces before) (hafter : IsSpaces after) :
    r.ofText? (before ++ (cs ++ after)) = some a ↔ r.ofText? cs = some a := by
  have hspaced : IsText (before ++ (cs ++ after)) := by
    rw [← List.append_assoc]
    exact .spaced hbefore hcs hafter
  rw [← (hr.settles hspaced).covers_iff, hr.covers_spaces_iff hcs hbefore hafter,
    (hr.settles hcs).covers_iff]

end OfText

/-! ### What a turn leaves -/

namespace Bracket

variable {bracket : Bracket} {s body : Bytes}

/-- What a turn leaves of an item that consists of the given bytes. -/
structure Begins (bracket : Bracket) (s body : Bytes) : Prop where
  exists_gap : ∃ gap, IsSpaces gap ∧ s = Utf8.ofChars gap ++ (bracket.lead ++ body)
  admits : bracket.Admits body

theorem Begins.first_eq (h : bracket.Begins s body) (rest : Bytes) :
    bracket.first (s ++ rest) = .ok (.item (body ++ rest)) := by
  obtain ⟨gap, hgap, rfl⟩ := h.exists_gap
  rw [List.append_assoc, first_spaces hgap, first_item h.admits]

theorem Begins.next_eq (h : bracket.Begins s body) (rest : Bytes) :
    bracket.next (byte ',' :: (s ++ rest)) = .ok (.item (body ++ rest)) := by
  obtain ⟨gap, hgap, rfl⟩ := h.exists_gap
  rw [List.append_assoc, next_comma_spaces hgap, next_item h.admits]

end Bracket

theorem IsText.begins {cs : List Char} (h : IsText cs) :
    Bracket.square.Begins (Utf8.ofChars cs) (skipSpace (Utf8.ofChars cs)) where
  exists_gap := exists_spaces _
  admits := by
    obtain ⟨b, t, hbt, hb⟩ := h.isSkipped.exists_head []
    rw [List.append_nil] at hbt
    exact ⟨b, t, hbt, isSpace_of_skipSpace hbt, hb⟩

/-! ### Series -/

section Series

variable {σ β : Type} {bracket : Bracket} {item : σ → Reader σ} {step : σ → β → Option σ}
  {text : β → List Char} {gap : List Char} {bs : List β}

/-- What a reader of items makes of the bytes of an item, given the state. -/
def Bracket.Enters (bracket : Bracket) (item : σ → Reader σ) (step : σ → Option σ) (s : Bytes) :
    Prop :=
  ∃ body, bracket.Begins s body ∧ ∀ state, (item state).Settles body (step state)

/-- The items from the first one on, and the turn in front of them. -/
theorem exists_seriesFrom_texts_iff :
    ∀ {b : β}, (∀ c ∈ b :: bs, bracket.Enters item (step · c) (Utf8.ofChars (text c))) →
      ∀ rest : Bytes, ∃ t,
        let s := Utf8.ofChars (writeSeries ((b :: bs).map text) ++ [bracket.closer]) ++ rest
        bracket.first s = .ok (.item t) ∧ bracket.next (byte ',' :: s) = .ok (.item t) ∧
          ∀ {state p}, seriesFrom bracket item state t = .ok p ↔
            ∃ state', (b :: bs).foldlM step state = some state' ∧ (state', rest) = p := by
  induction bs with
  | nil =>
    intro b h rest
    obtain ⟨body, hbegins, hitem⟩ := h b List.mem_cons_self
    refine ⟨body ++ bracket.closing :: rest, ?_⟩
    rw [List.map_singleton, Bracket.ofChars_closer]
    refine ⟨hbegins.first_eq _, hbegins.next_eq _, fun {state p} => ?_⟩
    rw [(hitem state).allOrNothing.seriesFrom_eq_ok_iff (Bracket.next_close bracket rest)]
    simp only [(hitem state).covers_iff, seriesBehind, Except.ok.injEq, List.foldlM_cons,
      List.foldlM_nil, Option.bind_eq_bind, Option.pure_def, Option.bind_fun_some]
  | cons c bs ih =>
    intro b h rest
    obtain ⟨body, hbegins, hitem⟩ := h b List.mem_cons_self
    obtain ⟨u, -, hnext, hmore⟩ := ih (fun d hd => h d (List.mem_cons_of_mem b hd)) rest
    refine ⟨body ++ byte ',' :: (Utf8.ofChars (writeSeries ((c :: bs).map text) ++
      [bracket.closer]) ++ rest), ?_⟩
    rw [List.map_cons, List.map_cons, Bracket.ofChars_series_cons, ← List.map_cons]
    refine ⟨hbegins.first_eq _, hbegins.next_eq _, fun {state p} => ?_⟩
    rw [(hitem state).allOrNothing.seriesFrom_eq_ok_iff hnext, List.foldlM_cons]
    simp only [(hitem state).covers_iff, seriesBehind, hmore, Option.bind_eq_bind,
      Option.bind_eq_some_iff]
    constructor
    · rintro ⟨state', hstep, state'', hfold, rfl⟩
      exact ⟨state'', ⟨state', hstep, hfold⟩, rfl⟩
    · rintro ⟨state'', ⟨state', hstep, hfold⟩, rfl⟩
      exact ⟨state', hstep, state'', hfold, rfl⟩

/-- **A series is a fold over the texts of its items.** -/
theorem Bracket.series_texts_iff (hgap : IsSpaces gap)
    (h : ∀ b ∈ bs, bracket.Enters item (step · b) (Utf8.ofChars (text b))) {state : σ}
    {rest : Bytes} {p : σ × Bytes} :
    Json.series bracket item state (Utf8.ofChars gap ++
        (Utf8.ofChars (writeSeries (bs.map text) ++ [bracket.closer]) ++ rest)) = .ok p ↔
      ∃ state', bs.foldlM step state = some state' ∧ (state', rest) = p := by
  rw [series_eq, first_spaces hgap]
  cases bs with
  | nil =>
    rw [List.map_nil, ofChars_closer]
    change (bracket.first (bracket.closing :: rest)).bind _ = _ ↔ _
    rw [first_close]
    simp [Except.bind, seriesBehind]
  | cons b bs =>
    obtain ⟨t, hfirst, -, hmore⟩ := exists_seriesFrom_texts_iff h rest
    rw [hfirst]
    exact hmore

end Series

/-! ### Items of a list -/

section Items

variable {α β : Type} {bracket : Bracket} {r : Reader α} {f : β → Option α}
  {text : β → List Char} {gap : List Char} {bs : List β}

theorem foldlM_cons_eq_some_iff {read read' : List α} :
    bs.foldlM (fun read b => (f b).map (· :: read)) read = some read' ↔
      ∃ as, List.Forall₂ (fun b a => f b = some a) bs as ∧ as.reverse ++ read = read' := by
  induction bs generalizing read with
  | nil =>
    constructor
    · intro h
      cases h
      exact ⟨[], .nil, rfl⟩
    · rintro ⟨_, ⟨⟩, rfl⟩
      rfl
  | cons b bs ih =>
    rw [List.foldlM_cons, Option.bind_eq_bind, Option.bind_eq_some_iff]
    constructor
    · rintro ⟨_, hb, h⟩
      obtain ⟨a, ha, rfl⟩ := Option.map_eq_some_iff.1 hb
      obtain ⟨as, has, rfl⟩ := ih.1 h
      exact ⟨a :: as, .cons ha has, by rw [List.reverse_cons, List.append_assoc]; rfl⟩
    · rintro ⟨_, _ | ⟨ha, has⟩, rfl⟩
      refine ⟨_, Option.map_eq_some_iff.2 ⟨_, ha, rfl⟩, ih.2 ⟨_, has, ?_⟩⟩
      rw [List.reverse_cons, List.append_assoc]
      rfl

/-- **A list of items is read item by item.** -/
theorem Bracket.items_texts_iff (hgap : IsSpaces gap)
    (h : ∀ b ∈ bs, ∃ body, bracket.Begins (Utf8.ofChars (text b)) body ∧ r.Settles body (f b))
    {rest : Bytes} {p : List α × Bytes} :
    Json.items bracket r (Utf8.ofChars gap ++
        (Utf8.ofChars (writeSeries (bs.map text) ++ [bracket.closer]) ++ rest)) = .ok p ↔
      ∃ as, List.Forall₂ (fun b a => f b = some a) bs as ∧ (as, rest) = p := by
  have henters : ∀ b ∈ bs, bracket.Enters (fun read => r.map (· :: read))
      (fun read => (f b).map (· :: read)) (Utf8.ofChars (text b)) := by
    intro b hb
    obtain ⟨body, hbegins, hsettles⟩ := h b hb
    exact ⟨body, hbegins, fun read => hsettles.of_map fun _ => rfl⟩
  have hseries {p : List α × Bytes} : Json.series bracket (fun read => r.map (· :: read)) []
      (Utf8.ofChars gap ++ (Utf8.ofChars (writeSeries (bs.map text) ++ [bracket.closer]) ++
        rest)) = .ok p ↔
        ∃ read, bs.foldlM (fun read b => (f b).map (· :: read)) [] = some read ∧ (read, rest) = p :=
    series_texts_iff hgap henters
  rw [Json.items, map_eq_ok]
  simp only [hseries, foldlM_cons_eq_some_iff]
  constructor
  · rintro ⟨_, ⟨_, ⟨as, has, rfl⟩, rfl⟩, rfl⟩
    exact ⟨as, has, by rw [List.append_nil, List.reverse_reverse]⟩
  · rintro ⟨as, has, rfl⟩
    exact ⟨_, ⟨_, ⟨as, has, rfl⟩, rfl⟩, by rw [List.append_nil, List.reverse_reverse]⟩

/-- A series of items as a whole input. -/
theorem Reader.ofText?_series_iff {γ : Type} {r' : Reader γ} {make : List α → γ}
    (hgap : IsSpaces gap)
    (h : ∀ b ∈ bs, ∃ body, bracket.Begins (Utf8.ofChars (text b)) body ∧ r.Settles body (f b))
    (hrun : ∀ s, r'.run (byte bracket.opener :: s) =
      (items bracket r s).map fun p => (make p.1, p.2)) (value : γ) :
    r'.ofText? (bracket.opener :: (gap ++ (writeSeries (bs.map text) ++ [bracket.closer]))) =
        some value ↔
      ∃ as, List.Forall₂ (fun b a => f b = some a) bs as ∧ make as = value := by
  have hbytes := Bracket.ofChars_opener bracket gap
    (writeSeries (bs.map text) ++ [bracket.closer]) []
  rw [List.append_nil] at hbytes
  rw [ofText?_eq_some_iff, document_eq_ok_iff, hbytes]
  simp only [hrun, map_eq_ok, Bracket.items_texts_iff hgap h]
  constructor
  · rintro ⟨_, ⟨_, ⟨as, has, rfl⟩, heq⟩, -⟩
    cases heq
    exact ⟨as, has, rfl⟩
  · rintro ⟨as, has, rfl⟩
    exact ⟨[], ⟨_, ⟨as, has, rfl⟩, rfl⟩, rfl⟩

end Items

/-! ### Keys -/

/-- What is read of a string, whatever it is made of: nothing if it is no text. -/
theorem Quoted.read_of_isString {cs : List Char} (h : IsString cs) :
    ∃ body, Utf8.ofChars cs = byte '"' :: body ∧ ∀ {s rest : Bytes} {text : String},
      Quoted.read (body ++ s) = .ok (text, rest) ↔ Quoted.IsText text cs ∧ s = rest := by
  obtain ⟨body, hbody, -⟩ := skip_of_isString h []
  rw [List.append_nil] at hbody
  refine ⟨body, hbody, fun {s rest text} => ?_⟩
  obtain ⟨_, heq, hskip⟩ := skip_of_isString h s
  rw [hbody] at heq
  cases heq
  rw [read_eq_ok_iff]
  constructor
  · rintro ⟨inner, hinner, hs⟩
    have hquoted : IsText text ('"' :: (inner ++ ['"'])) := ⟨inner, hinner, rfl⟩
    obtain ⟨_, heq', hskip'⟩ := skip_of_isString hquoted.isString rest
    rw [ofChars_quoted, List.cons_append, List.append_assoc, List.singleton_append, ← hs] at heq'
    cases heq'
    have hrest : s = rest := Except.ok.inj (hskip.symm.trans hskip')
    refine ⟨?_, hrest⟩
    rw [hrest, ← List.singleton_append, ← List.append_assoc] at hs
    have hchars : Utf8.ofChars cs = Utf8.ofChars ('"' :: (inner ++ ['"'])) := by
      rw [hbody, ofChars_quoted, List.append_cancel_right hs]
    rwa [Utf8.ofChars_inj.1 hchars]
  · rintro ⟨⟨inner, hinner, rfl⟩, rfl⟩
    rw [ofChars_quoted] at hbody
    cases hbody
    exact ⟨inner, hinner, by rw [List.append_assoc]; rfl⟩

/-- A key is read like any other string, with white space around it. -/
theorem textReader_ofText?_iff {before name after : List Char} (hbefore : IsSpaces before)
    (hname : Quoted.IsString name) (hafter : IsSpaces after) {text : String} :
    textReader.ofText? (before ++ (name ++ after)) = some text ↔ Quoted.IsText text name := by
  obtain ⟨body, hbody, hread⟩ := Quoted.read_of_isString hname
  have hrun {rest : Bytes} : textReader.run (Utf8.ofChars (before ++ (name ++ after))) =
      .ok (text, rest) ↔ Quoted.IsText text name ∧ Utf8.ofChars after = rest := by
    rw [← hread, Utf8.ofChars_append, Utf8.ofChars_append, hbody]
    change readTyped _ _ _ = _ ↔ _
    rw [readTyped, skipSpace_spaces hbefore, List.cons_append, Bracket.skipSpace_cons (by decide)]
    dsimp only
    rw [if_neg (by decide), if_neg (by decide)]
    change ((Quoted.read _).map _).bind _ = _ ↔ _
    cases Quoted.read (body ++ Utf8.ofChars after) with
    | error fault => constructor <;> rintro ⟨⟩
    | ok p => exact Iff.rfl
  rw [Reader.ofText?_eq_some_iff, document_eq_ok_iff]
  simp only [hrun]
  constructor
  · rintro ⟨_, ⟨htext, -⟩, -⟩
    exact htext
  · intro htext
    exact ⟨_, ⟨htext, rfl⟩, skipSpace_ofChars_spaces hafter⟩

/-- A member as a turn leaves it: its key is read as the text that it is on its own, if it is one,
and its value stands behind the colon. -/
structure MemberAt (body : Bytes) (key value : List Char) : Prop where
  begins : Bracket.brace.Begins (Utf8.ofChars (key ++ ':' :: value)) body
  read_ne_ok : textReader.ofText? key = none → ∀ tail p, Quoted.read (body ++ tail) ≠ .ok p
  read_eq_ok : ∀ {name}, textReader.ofText? key = some name → ∀ tail, ∃ s,
    Quoted.read (body ++ tail) = .ok (name, s) ∧ readColon s = .ok (Utf8.ofChars value ++ tail)

/-- **What is read of a key**, and where the value behind it begins. -/
theorem IsKey.exists_body {key : List Char} (hkey : IsKey key) (value : List Char) :
    ∃ body, MemberAt body key value := by
  obtain ⟨before, string, after, hbefore, hstring, hafter, rfl⟩ := hkey
  obtain ⟨body, hbody, hread⟩ := Quoted.read_of_isString hstring
  have htail (tail : Bytes) :
      body ++ (Utf8.ofChars after ++ byte ':' :: Utf8.ofChars value) ++ tail =
        body ++ (Utf8.ofChars after ++ byte ':' :: (Utf8.ofChars value ++ tail)) := by
    simp only [List.append_assoc, List.cons_append]
  refine ⟨body ++ (Utf8.ofChars after ++ byte ':' :: Utf8.ofChars value),
    ⟨⟨before, hbefore, ?_⟩, trivial⟩, fun hnone tail => ?_, fun {name} hname tail => ?_⟩
  · simp only [Utf8.ofChars_append, Utf8.ofChars_cons (show (':').toNat < 0x80 by decide),
      List.append_assoc]
    rw [hbody]
    rfl
  · rintro ⟨name, rest⟩ hquoted
    rw [htail, hread, ← textReader_ofText?_iff hbefore hstring hafter, ← List.append_assoc,
      hnone] at hquoted
    cases hquoted.1
  · rw [List.append_assoc, textReader_ofText?_iff hbefore hstring hafter] at hname
    rw [htail]
    refine ⟨_, hread.2 ⟨hname, rfl⟩, ?_⟩
    rw [readColon, skipSpace_spaces hafter, Bracket.skipSpace_cons (by decide)]
    exact if_pos rfl

/-- A member whose key is no text is refused, whatever is made of other keys. -/
theorem MemberAt.settles_none {α : Type} {r : Reader α} {body : Bytes} {key value : List Char}
    (h : MemberAt body key value) (hkey : textReader.ofText? key = none)
    {behind : String × Bytes → Except Fault (α × Bytes)}
    (hrun : ∀ s, r.run s = (Quoted.read s).bind behind) : r.Settles body none := by
  refine Reader.settles_none fun tail p hread => ?_
  rw [hrun] at hread
  obtain ⟨q, hquoted, -⟩ := bind_eq_ok.1 hread
  exact h.read_ne_ok hkey tail q hquoted

/-! ### Values -/

namespace Value

variable {depth : Nat} {value : Value}

theorem run_skipSpace (s tail : Bytes) :
    (reader depth).run (skipSpace s ++ tail) = (reader depth).run (s ++ tail) := by
  obtain ⟨gap, hgap, hs⟩ := exists_spaces s
  rw [← (reader_reads depth).skips hgap, ← List.append_assoc, ← hs]

theorem run_reader_array (s : Bytes) : (reader (depth + 1)).run (byte '[' :: s) =
    (items .square (reader depth) s).map fun p => (.array p.1, p.2) := by
  change readValue (some (reader depth)) (byte '[' :: s) = _
  rw [readValue, Bracket.skipSpace_cons (by decide)]
  exact if_pos rfl

theorem run_reader_object (s : Bytes) : (reader (depth + 1)).run (byte '{' :: s) =
    (items .brace (memberReader (reader depth)) s).map fun p => (.object p.1, p.2) := by
  change readValue (some (reader depth)) (byte '{' :: s) = _
  rw [readValue, Bracket.skipSpace_cons (by decide)]
  rfl

section Brackets

variable {gap : List Char}

/-- No bracket may be opened without depth. -/
theorem ofText?_array_zero (cs : List Char) : (reader 0).ofText? ('[' :: cs) = none := by
  rw [Reader.ofText?, Utf8.ofChars_cons (by decide)]
  rfl

theorem ofText?_object_zero (cs : List Char) : (reader 0).ofText? ('{' :: cs) = none := by
  rw [Reader.ofText?, Utf8.ofChars_cons (by decide)]
  rfl

/-- **The value of the text of an array.** -/
theorem ofText?_array_iff {items : List (List Char)} (hgap : IsSpaces gap)
    (h : ∀ item ∈ items, Json.IsText item) :
    (reader (depth + 1)).ofText? ('[' :: (gap ++ (writeSeries items ++ [']']))) = some value ↔
      ∃ values, List.Forall₂ (fun item value => (reader depth).ofText? item = some value)
        items values ∧ .array values = value := by
  have hitems : ∀ item ∈ items, ∃ body, Bracket.square.Begins (Utf8.ofChars (id item)) body ∧
      (reader depth).Settles body ((reader depth).ofText? item) := fun item hitem =>
    ⟨_, (h item hitem).begins,
      ((reader_types depth).settles (h item hitem)).congr (run_skipSpace (Utf8.ofChars item))⟩
  have hvalue := Reader.ofText?_series_iff hgap hitems run_reader_array value
  rwa [List.map_id] at hvalue

/-- What a key and a value are as a member. -/
def memberOfText? (depth : Nat) (member : List Char × List Char) : Option (String × Value) :=
  (textReader.ofText? member.1).bind fun name => ((reader depth).ofText? member.2).map (name, ·)

theorem exists_body_member {member : List Char × List Char} (hkey : IsKey member.1)
    (hvalue : Json.IsText member.2) :
    ∃ body, Bracket.brace.Begins (Utf8.ofChars (member.1 ++ ':' :: member.2)) body ∧
      (memberReader (reader depth)).Settles body (memberOfText? depth member) := by
  obtain ⟨body, hbody⟩ := hkey.exists_body member.2
  refine ⟨body, hbody.begins, ?_⟩
  rw [memberOfText?]
  cases hname : textReader.ofText? member.1 with
  | none => exact hbody.settles_none hname fun _ => rfl
  | some name =>
    refine ((reader_types depth).settles hvalue).of_map fun tail => ?_
    obtain ⟨s, hquoted, hcolon⟩ := hbody.read_eq_ok hname tail
    change (Quoted.read (body ++ tail)).bind _ = _
    rw [hquoted]
    change (readColon s).bind _ = _
    rw [hcolon]
    rfl

/-- **The value of the text of an object.** -/
theorem ofText?_object_iff {members : List (List Char × List Char)} (hgap : IsSpaces gap)
    (hkey : ∀ member ∈ members, IsKey member.1)
    (h : ∀ member ∈ members, Json.IsText member.2) :
    (reader (depth + 1)).ofText? ('{' :: (gap ++ (writeSeries (members.map fun member =>
        member.1 ++ ':' :: member.2) ++ ['}']))) = some value ↔
      ∃ values, List.Forall₂ (fun member m => memberOfText? depth member = some m)
        members values ∧ .object values = value :=
  Reader.ofText?_series_iff hgap
    (fun member hmember => exists_body_member (hkey member hmember) (h member hmember))
    run_reader_object value

end Brackets

end Value

end OneShot.Json
