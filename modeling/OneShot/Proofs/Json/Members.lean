import Mathlib.Logic.Function.Basic
import OneShot.Json.Record
import OneShot.Proofs.Json.Spacing

/-!
# Records in any order

A record that is written as an object may have its fields in any order and among any other members.
What is read of it is a fold over the texts of its members, `Schema.ofText?_object_iff`: a field is
entered into the draft if the draft does not have it, and another member changes nothing. Two steps
of this fold commute, so the order of the members does not matter, and white space between tokens
does not matter to any step. What is left is a draft in which each field holds what is read of the
text that it is given, `Schema.Regular.ofText?_eq_some_iff`.

## Main definitions

* `Schema.enterField`, `Schema.enterMember` — the text of a field or a member entered into a draft
* `Schema.Presents` — the texts of the objects that give the fields of a record
* `Schema.Holds` — each field of a draft holds what is read of its text
* `Schema.Regular` — records to which this applies

## Main results

* `Schema.ofText?_object_iff` — what is read of an object is a fold over its members
* `Schema.Regular.ofText?_eq_some_iff` — it depends only on what the fields are given
-/

namespace OneShot.Json

/-- Steps that commute lead to the same state in any order. -/
theorem foldlM_perm {σ β : Type} {step : σ → β → Option σ}
    (hcomm : ∀ state b c, (step state b).bind (step · c) = (step state c).bind (step · b))
    {bs cs : List β} (h : bs.Perm cs) (state : σ) :
    bs.foldlM step state = cs.foldlM step state := by
  induction h generalizing state with
  | nil => rfl
  | cons b _ ih => simp only [List.foldlM_cons, ih]
  | swap b c bs =>
    simp only [List.foldlM_cons, Option.bind_eq_bind, ← Option.bind_assoc]
    rw [hcomm]
  | trans _ _ ih ih' => exact (ih state).trans (ih' state)

/-- A reader that always takes these bytes comes to nothing else. -/
theorem Reader.Covers.settles {α : Type} {r : Reader α} {s : Bytes} {a : α} (h : r.Covers s a) :
    r.Settles s (some a) where
  allOrNothing tail t b htail _ hrun := by
    obtain ⟨u, hread, hu⟩ := h tail htail
    rw [hrun] at hread
    cases hread
    exact ⟨h, hu⟩
  covers_iff b := by
    constructor
    · intro hb
      obtain ⟨t, hrun, -⟩ := hb [] stops_nil
      obtain ⟨u, hread, -⟩ := h [] stops_nil
      rw [hrun] at hread
      cases hread
      rfl
    · rintro ⟨⟩
      exact h

/-- A string is written as one of its texts. -/
theorem Quoted.isText_write (text : String) : IsText text (write text) :=
  ⟨_, spelled_flatMap_writeChar text.toList, rfl⟩

namespace Schema

variable {α : Type} {schema : Schema α}

/-! ### Drafts -/

namespace Draft

variable {draft : schema.Draft} {f g : schema.Field}

theorem set_self (draft : schema.Draft) (f : schema.Field) (content : schema.Content f) :
    draft.set f content f = some content :=
  dif_pos rfl

theorem set_of_ne (h : f ≠ g) (content : schema.Content f) : draft.set f content g = draft g :=
  dif_neg h

theorem set_comm (h : f ≠ g) (content : schema.Content f) (content' : schema.Content g) :
    (draft.set f content).set g content' = (draft.set g content').set f content := by
  funext k
  by_cases hf : f = k
  · subst hf
    rw [set_of_ne h.symm, set_self, set_self]
  · by_cases hg : g = k
    · subst hg
      rw [set_self, set_of_ne h, set_self]
    · rw [set_of_ne hg, set_of_ne hf, set_of_ne hf, set_of_ne hg]

end Draft

/-! ### Members -/

/-- Enters the text of a field into a draft that does not have it. -/
def enterField (schema : Schema α) (draft : schema.Draft) (given : schema.Field × List Char) :
    Option schema.Draft :=
  if (draft given.1).isSome then none
  else ((schema.content given.1).ofText? given.2).map (draft.set given.1)

/-- Enters a member, which consists of the text of its key and that of its value. -/
def enterMember (schema : Schema α) (draft : schema.Draft) (member : List Char × List Char) :
    Option schema.Draft :=
  (textReader.ofText? member.1).bind fun name =>
    match schema.field? name with
    | some f => schema.enterField draft (f, member.2)
    | none => some draft

theorem enterField_eq_some_iff {draft draft' : schema.Draft} {f : schema.Field} {cs : List Char} :
    schema.enterField draft (f, cs) = some draft' ↔
      draft f = none ∧ ∃ content, (schema.content f).ofText? cs = some content ∧
        draft.set f content = draft' := by
  rw [enterField]
  cases hf : draft f with
  | none =>
    rw [Option.isSome_none, if_neg Bool.false_ne_true, Option.map_eq_some_iff]
    exact (and_iff_right rfl).symm
  | some content => exact ⟨nofun, nofun⟩

/-- Two fields are entered in either order, and the same field is not entered twice. -/
theorem enterField_comm (draft : schema.Draft) (given given' : schema.Field × List Char) :
    (schema.enterField draft given).bind (schema.enterField · given') =
      (schema.enterField draft given').bind (schema.enterField · given) := by
  have hswap {given given' : schema.Field × List Char} {result : schema.Draft}
      (h : (schema.enterField draft given).bind (schema.enterField · given') = some result) :
      (schema.enterField draft given').bind (schema.enterField · given) = some result := by
    obtain ⟨f, cs⟩ := given
    obtain ⟨g, ds⟩ := given'
    obtain ⟨draft', hf, hg⟩ := Option.bind_eq_some_iff.1 h
    obtain ⟨hnew, content, hcontent, rfl⟩ := enterField_eq_some_iff.1 hf
    obtain ⟨hnew', content', hcontent', rfl⟩ := enterField_eq_some_iff.1 hg
    have hne : f ≠ g := by
      rintro rfl
      rw [Draft.set_self] at hnew'
      cases hnew'
    rw [Draft.set_of_ne hne] at hnew'
    refine Option.bind_eq_some_iff.2 ⟨_, enterField_eq_some_iff.2 ⟨hnew', content', hcontent', rfl⟩,
      enterField_eq_some_iff.2 ⟨?_, content, hcontent, (Draft.set_comm hne content content').symm⟩⟩
    rw [Draft.set_of_ne hne.symm, hnew]
  exact Option.ext fun result => ⟨hswap, hswap⟩

theorem enterMember_comm (draft : schema.Draft) (member member' : List Char × List Char) :
    (schema.enterMember draft member).bind (schema.enterMember · member') =
      (schema.enterMember draft member').bind (schema.enterMember · member) := by
  simp only [enterMember]
  cases textReader.ofText? member.1 with
  | none => simp
  | some name =>
    cases textReader.ofText? member'.1 with
    | none => simp
    | some name' =>
      simp only [Option.bind_some]
      cases schema.field? name with
      | none => simp
      | some f =>
        cases schema.field? name' with
        | none => simp
        | some g => exact enterField_comm draft (f, member.2) (g, member'.2)

/-! ### Objects -/

/-- The contents of all fields are values of some type. -/
def AsksValues (schema : Schema α) : Prop :=
  ∀ f, ∃ type depth, (schema.content f).Types type depth

/-- What is read of a member, its key being known. -/
theorem run_memberReader (schema : Schema α) {member : List Char × List Char} {body : Bytes}
    (hbody : MemberAt body member.1 member.2) {name : String}
    (hname : textReader.ofText? member.1 = some name) (draft : schema.Draft) (tail : Bytes) :
    ∃ s, readColon s = .ok (Utf8.ofChars member.2 ++ tail) ∧
      (schema.memberReader draft).run (body ++ tail) =
        match schema.field? name with
        | some f =>
          if (draft f).isSome then .error (.float (.duplicateField name) s)
          else ((schema.content f).run (Utf8.ofChars member.2 ++ tail)).map
            fun p => (draft.set f p.1, p.2)
        | none => (skipValue (Utf8.ofChars member.2 ++ tail)).map (draft, ·) := by
  obtain ⟨s, hquoted, hcolon⟩ := hbody.read_eq_ok hname tail
  refine ⟨s, hcolon, ?_⟩
  change (Quoted.read (body ++ tail)).bind _ = _
  rw [hquoted]
  change (match schema.field? name with | some f => _ | none => (readColon s).bind _) = _
  rw [hcolon]
  rfl

/-- A member is entered as its key and its value tell. -/
theorem memberReader_enters (hasks : schema.AsksValues) {member : List Char × List Char}
    (hkey : IsKey member.1) (hvalue : IsText member.2) :
    Bracket.brace.Enters schema.memberReader (schema.enterMember · member)
      (Utf8.ofChars (member.1 ++ ':' :: member.2)) := by
  obtain ⟨body, hbody⟩ := hkey.exists_body member.2
  refine ⟨body, hbody.begins, fun draft => ?_⟩
  simp only [enterMember]
  cases hname : textReader.ofText? member.1 with
  | none => exact hbody.settles_none hname fun _ => rfl
  | some name =>
    have hrun (tail : Bytes) := schema.run_memberReader hbody hname draft tail
    simp only [Option.bind_some]
    cases hfield : schema.field? name with
    | none =>
      simp only [hfield] at hrun
      refine Reader.Covers.settles fun tail htail => ?_
      obtain ⟨t, hskip, ht⟩ := hvalue.skipValue_eq htail
      obtain ⟨s, -, hread⟩ := hrun tail
      exact ⟨t, by rw [hread, hskip]; rfl, ht⟩
    | some f =>
      simp only [hfield] at hrun
      dsimp only
      rw [enterField]
      dsimp only
      split_ifs with hgiven
      · simp only [if_pos hgiven] at hrun
        refine Reader.settles_none fun tail p h => ?_
        obtain ⟨s, -, hread⟩ := hrun tail
        rw [hread] at h
        cases h
      · simp only [if_neg hgiven] at hrun
        obtain ⟨type, depth, htypes⟩ := hasks f
        refine (htypes.settles hvalue).of_map fun tail => ?_
        obtain ⟨s, -, hread⟩ := hrun tail
        exact hread

theorem complete_eq_ok_iff {draft : schema.Draft} {a : α} {rest rest' : Bytes} :
    schema.complete (draft, rest) = .ok (a, rest') ↔ schema.build draft = .ok a ∧ rest = rest' := by
  rw [complete]
  cases schema.build draft with
  | error cause => exact ⟨nofun, nofun⟩
  | ok b =>
    constructor
    · intro h
      cases h
      exact ⟨rfl, rfl⟩
    · rintro ⟨⟨⟩, rfl⟩
      rfl

/-- A record that is written as an object. -/
theorem run_reader_brace {s t : Bytes} (hs : skipSpace s = byte '{' :: t) {a : α} {rest : Bytes} :
    schema.reader.run s = .ok (a, rest) ↔ ∃ draft,
      series .brace schema.memberReader schema.blank t = .ok (draft, rest) ∧
        schema.build draft = .ok a := by
  change schema.read s = _ ↔ _
  rw [read, hs]
  dsimp only
  rw [if_neg (by decide), if_pos rfl, readObject, bind_eq_ok]
  simp only [mapError_eq_ok, Prod.exists, complete_eq_ok_iff]
  constructor
  · rintro ⟨draft, _, hseries, hbuild, rfl⟩
    exact ⟨draft, hseries, hbuild⟩
  · rintro ⟨draft, hseries, hbuild⟩
    exact ⟨draft, rest, hseries, hbuild, rfl⟩

/-- An object with these members, with white space around it. -/
def IsObjectText (members : List (List Char × List Char)) : List Char → Prop :=
  Spaced fun cs => ∃ gap, IsSpaces gap ∧ cs = '{' :: (gap ++ (writeSeries (members.map fun member =>
    member.1 ++ ':' :: member.2) ++ ['}']))

theorem skipSpace_object {before : List Char} (hbefore : IsSpaces before)
    (gap items after : List Char) :
    skipSpace (Utf8.ofChars (before ++ ('{' :: (gap ++ items) ++ after))) =
      byte '{' :: (Utf8.ofChars gap ++ (Utf8.ofChars items ++ Utf8.ofChars after)) := by
  rw [Utf8.ofChars_append, skipSpace_spaces hbefore, Utf8.ofChars_append,
    show '{' = Bracket.brace.opener from rfl, Bracket.ofChars_opener]
  exact Bracket.skipSpace_cons (by decide) _

/-- **What is read of an object is a fold over its members.** -/
theorem ofText?_object_iff (hasks : schema.AsksValues) {members : List (List Char × List Char)}
    {cs : List Char} (hkey : ∀ member ∈ members, IsKey member.1)
    (hvalue : ∀ member ∈ members, IsText member.2) (hcs : IsObjectText members cs) {a : α} :
    schema.reader.ofText? cs = some a ↔ ∃ draft,
      members.foldlM schema.enterMember schema.blank = some draft ∧ schema.build draft = .ok a := by
  obtain ⟨before, _, after, hbefore, ⟨gap, hgap, rfl⟩, hafter, rfl⟩ := hcs
  have henters : ∀ member ∈ members, Bracket.brace.Enters schema.memberReader
      (schema.enterMember · member) (Utf8.ofChars (member.1 ++ ':' :: member.2)) :=
    fun member hmember => memberReader_enters hasks (hkey member hmember) (hvalue member hmember)
  have hseries {p : schema.Draft × Bytes} : series .brace schema.memberReader schema.blank
      (Utf8.ofChars gap ++ (Utf8.ofChars (writeSeries (members.map fun member =>
        member.1 ++ ':' :: member.2) ++ ['}']) ++ Utf8.ofChars after)) = .ok p ↔ ∃ draft,
          members.foldlM schema.enterMember schema.blank = some draft ∧
            (draft, Utf8.ofChars after) = p :=
    Bracket.series_texts_iff hgap henters
  rw [Reader.ofText?_eq_some_iff, document_eq_ok_iff]
  simp only [run_reader_brace (skipSpace_object hbefore gap _ after), hseries]
  constructor
  · rintro ⟨_, ⟨draft, ⟨draft', hdraft, heq⟩, hbuild⟩, -⟩
    cases heq
    exact ⟨draft, hdraft, hbuild⟩
  · rintro ⟨draft, hdraft, hbuild⟩
    exact ⟨_, ⟨draft, ⟨draft, hdraft, rfl⟩, hbuild⟩, skipSpace_ofChars_spaces hafter⟩

/-! ### What the fields are given -/

/-- The fields that are given a text, with their texts. -/
def givenFields (schema : Schema α) (given : schema.Field → Option (List Char)) :
    List (schema.Field × List Char) :=
  schema.fields.filterMap fun f => (given f).map (f, ·)

/-- A member that gives a field its text, up to white space between tokens. -/
def IsMember (schema : Schema α) (field : schema.Field × List Char)
    (member : List Char × List Char) : Prop :=
  Spaced (Quoted.IsText (schema.name field.1)) member.1 ∧ Respaced field.2 member.2

/-- A member that is no field, with any value. -/
def IsOther (schema : Schema α) (member : List Char × List Char) : Prop :=
  (∃ name, Spaced (Quoted.IsText name) member.1 ∧ ∀ f ∈ schema.fields, schema.name f ≠ name) ∧
    IsText member.2

/-- The texts of the objects that give fields these texts and no others: each of them once, in any
order, with any white space between tokens, and among any members that are no fields. -/
def Presents (schema : Schema α) (given : schema.Field → Option (List Char)) (cs : List Char) :
    Prop :=
  ∃ fields others members, List.Forall₂ schema.IsMember (schema.givenFields given) fields ∧
    (∀ member ∈ others, schema.IsOther member) ∧ members.Perm (fields ++ others) ∧
      IsObjectText members cs

/-- Each field of the draft holds what is read of the text that it is given. -/
def Holds (schema : Schema α) (given : schema.Field → Option (List Char)) (draft : schema.Draft) :
    Prop :=
  ∀ f, Option.Rel (fun cs content => (schema.content f).ofText? cs = some content) (given f)
    (draft f)

/-- All fields are listed, once and with names of their own, and their contents are values. -/
structure Regular (schema : Schema α) : Prop where
  nodup : schema.fields.Nodup
  field?_name : ∀ f, schema.field? (schema.name f) = some f
  asksValues : schema.AsksValues

section Presented

variable {given : schema.Field → Option (List Char)} {field : schema.Field × List Char}
  {member : List Char × List Char} {draft : schema.Draft}

theorem isKey_of_spaced {name : String} {key : List Char} (h : Spaced (Quoted.IsText name) key) :
    IsKey key := by
  obtain ⟨before, string, after, hbefore, hstring, hafter, rfl⟩ := h
  exact ⟨before, string, after, hbefore, hstring.isString, hafter,
    (List.append_assoc before _ _).symm⟩

theorem textReader_ofText?_of_spaced {name : String} {key : List Char}
    (h : Spaced (Quoted.IsText name) key) : textReader.ofText? key = some name := by
  obtain ⟨before, string, after, hbefore, hstring, hafter, rfl⟩ := h
  exact (textReader_ofText?_iff hbefore hstring.isString hafter).2 hstring

/-- A member that is no field does not change the draft. -/
theorem IsOther.enterMember_eq (h : schema.IsOther member) :
    schema.enterMember draft member = some draft := by
  obtain ⟨⟨name, hname, hother⟩, -⟩ := h
  have hnone : schema.field? name = none :=
    List.find?_eq_none.2 fun f hf => by simpa using hother f hf
  simp only [enterMember, textReader_ofText?_of_spaced hname, Option.bind_some, hnone]

/-- A member that is a field is entered as such. -/
theorem Regular.enterMember_eq (hschema : schema.Regular) (h : schema.IsMember field member) :
    schema.enterMember draft member = schema.enterField draft field := by
  obtain ⟨type, depth, htypes⟩ := hschema.asksValues field.1
  simp only [enterMember, textReader_ofText?_of_spaced h.1, Option.bind_some,
    hschema.field?_name, enterField, h.2.ofText?_eq htypes]

theorem foldlM_others {others : List (List Char × List Char)}
    (h : ∀ member ∈ others, schema.IsOther member) :
    others.foldlM schema.enterMember draft = some draft := by
  induction others with
  | nil => rfl
  | cons member others ih =>
    obtain ⟨hmember, hothers⟩ := List.forall_mem_cons.1 h
    rw [List.foldlM_cons, hmember.enterMember_eq]
    exact ih hothers

theorem isText_of_members {fields : List (schema.Field × List Char)}
    {members : List (List Char × List Char)} (h : List.Forall₂ schema.IsMember fields members) :
    ∀ member ∈ members, IsKey member.1 ∧ IsText member.2 := by
  induction h with
  | nil => nofun
  | cons hmember _ ih =>
    exact List.forall_mem_cons.2 ⟨⟨isKey_of_spaced hmember.1, hmember.2.symm.isText⟩, ih⟩

theorem Regular.foldlM_members (hschema : schema.Regular)
    {fields : List (schema.Field × List Char)} {members : List (List Char × List Char)}
    (h : List.Forall₂ schema.IsMember fields members) (draft : schema.Draft) :
    members.foldlM schema.enterMember draft = fields.foldlM schema.enterField draft := by
  induction h generalizing draft with
  | nil => rfl
  | cons hmember _ ih =>
    rw [List.foldlM_cons, List.foldlM_cons, hschema.enterMember_eq hmember]
    exact bind_congr ih

/-- Fields that are new to a draft and different from each other are entered one by one. -/
theorem foldlM_enterField_iff {fields : List (schema.Field × List Char)}
    (hne : fields.Pairwise fun p q => p.1 ≠ q.1) {draft draft' : schema.Draft}
    (hnew : ∀ p ∈ fields, draft p.1 = none) :
    fields.foldlM schema.enterField draft = some draft' ↔
      (∀ p ∈ fields, ∃ content, (schema.content p.1).ofText? p.2 = some content ∧
        draft' p.1 = some content) ∧ ∀ f, (∀ p ∈ fields, p.1 ≠ f) → draft' f = draft f := by
  induction fields generalizing draft with
  | nil =>
    constructor
    · intro h
      cases h
      exact ⟨nofun, fun _ _ => rfl⟩
    · rintro ⟨-, h⟩
      exact congrArg some (funext fun f => (h f nofun).symm)
  | cons field fields ih =>
    obtain ⟨f, cs⟩ := field
    obtain ⟨hhead, hne⟩ := List.pairwise_cons.1 hne
    obtain ⟨hnewf, hnew⟩ := List.forall_mem_cons.1 hnew
    have hset (content : schema.Content f) : ∀ p ∈ fields, draft.set f content p.1 = none :=
      fun p hp => (Draft.set_of_ne (hhead p hp) content).trans (hnew p hp)
    rw [List.foldlM_cons, Option.bind_eq_bind, Option.bind_eq_some_iff]
    simp only [enterField_eq_some_iff, List.forall_mem_cons]
    constructor
    · rintro ⟨_, ⟨-, content, hcontent, rfl⟩, hfold⟩
      obtain ⟨hfields, hothers⟩ := (ih hne (hset content)).1 hfold
      refine ⟨⟨⟨content, hcontent, ?_⟩, hfields⟩, fun g hg => ?_⟩
      · rw [hothers f fun p hp => (hhead p hp).symm, Draft.set_self]
      · rw [hothers g hg.2, Draft.set_of_ne hg.1]
    · rintro ⟨⟨⟨content, hcontent, hf⟩, hfields⟩, hothers⟩
      refine ⟨_, ⟨hnewf, content, hcontent, rfl⟩,
        (ih hne (hset content)).2 ⟨hfields, fun g hg => ?_⟩⟩
      by_cases hfg : f = g
      · subst hfg
        rw [hf, Draft.set_self]
      · rw [hothers g ⟨hfg, hg⟩, Draft.set_of_ne hfg]

/-! What a draft holds. -/

theorem Holds.eq_none {f : schema.Field} (h : schema.Holds given draft) (hf : given f = none) :
    draft f = none := by
  have hrel := h f
  rw [hf] at hrel
  cases hdraft : draft f with
  | none => rfl
  | some content => rw [hdraft] at hrel; cases hrel

theorem Holds.ofText?_eq {f : schema.Field} {text : List Char} (h : schema.Holds given draft)
    (hf : given f = some text) :
    ∃ content, (schema.content f).ofText? text = some content ∧ draft f = some content := by
  have hrel := h f
  rw [hf] at hrel
  cases hdraft : draft f with
  | none => rw [hdraft] at hrel; cases hrel
  | some content =>
    rw [hdraft] at hrel
    cases hrel with
    | some hcontent => exact ⟨content, hcontent, rfl⟩

theorem Regular.foldlM_givenFields_iff (hschema : schema.Regular) :
    (schema.givenFields given).foldlM schema.enterField schema.blank = some draft ↔
      schema.Holds given draft := by
  have hmem {f : schema.Field} {cs : List Char} :
      (f, cs) ∈ schema.givenFields given ↔ given f = some cs := by
    have hf : f ∈ schema.fields := List.mem_of_find?_eq_some (hschema.field?_name f)
    simp only [givenFields, List.mem_filterMap, Option.map_eq_some_iff, Prod.mk.injEq]
    constructor
    · rintro ⟨_, -, _, hgiven, rfl, rfl⟩
      exact hgiven
    · intro hgiven
      exact ⟨f, hf, cs, hgiven, rfl, rfl⟩
  have hne : (schema.givenFields given).Pairwise fun p q => p.1 ≠ q.1 := by
    refine List.pairwise_filterMap.2 (hschema.nodup.imp fun {f g} hfg p hp q hq => ?_)
    obtain ⟨_, -, rfl⟩ := Option.map_eq_some_iff.1 hp
    obtain ⟨_, -, rfl⟩ := Option.map_eq_some_iff.1 hq
    exact hfg
  rw [foldlM_enterField_iff hne fun _ _ => rfl]
  constructor
  · rintro ⟨hfields, hothers⟩ f
    cases hgiven : given f with
    | none =>
      have hf : draft f = none := hothers f fun p hp hpf => by
        subst hpf
        rw [hmem.1 hp] at hgiven
        cases hgiven
      rw [hf]
      exact .none
    | some cs =>
      obtain ⟨content, hcontent, hf⟩ := hfields (f, cs) (hmem.2 hgiven)
      rw [hf]
      exact .some hcontent
  · intro hholds
    refine ⟨fun ⟨f, cs⟩ hp => hholds.ofText?_eq (hmem.1 hp), fun f hf => hholds.eq_none ?_⟩
    refine Option.eq_none_iff_forall_ne_some.2 fun cs hgiven => ?_
    exact hf (f, cs) (hmem.2 hgiven) rfl

/-- **What is read of an object depends only on what its fields are given.** -/
theorem Regular.ofText?_eq_some_iff (hschema : schema.Regular) {cs : List Char}
    (hcs : schema.Presents given cs) {a : α} :
    schema.reader.ofText? cs = some a ↔
      ∃ draft, schema.Holds given draft ∧ schema.build draft = .ok a := by
  obtain ⟨fields, others, members, hfields, hothers, hperm, hmembers⟩ := hcs
  have hfold : members.foldlM schema.enterMember schema.blank =
      (schema.givenFields given).foldlM schema.enterField schema.blank := by
    rw [foldlM_perm enterMember_comm hperm, List.foldlM_append, hschema.foldlM_members hfields]
    exact (bind_congr fun draft => foldlM_others hothers).trans (Option.bind_fun_some _)
  have hmember : ∀ member ∈ members, IsKey member.1 ∧ IsText member.2 := by
    intro member hmem
    rcases List.mem_append.1 (hperm.mem_iff.1 hmem) with hmem | hmem
    · exact isText_of_members hfields member hmem
    · obtain ⟨⟨name, hname, -⟩, hvalue⟩ := hothers member hmem
      exact ⟨isKey_of_spaced hname, hvalue⟩
  rw [ofText?_object_iff hschema.asksValues (fun member hmem => (hmember member hmem).1)
    (fun member hmem => (hmember member hmem).2) hmembers, hfold]
  simp only [hschema.foldlM_givenFields_iff]

/-- Objects that give the fields the same are read alike. -/
theorem Regular.ofText?_congr (hschema : schema.Regular) {cs cs' : List Char}
    (hcs : schema.Presents given cs) (hcs' : schema.Presents given cs') :
    schema.reader.ofText? cs = schema.reader.ofText? cs' := by
  refine Option.ext fun a => ?_
  rw [hschema.ofText?_eq_some_iff hcs, hschema.ofText?_eq_some_iff hcs']

/-! A field that is given a text besides. -/

section Missing

variable {f : schema.Field} {text : List Char} {content : schema.Content f}

theorem Holds.set (h : schema.Holds given draft)
    (hcontent : (schema.content f).ofText? text = some content) :
    schema.Holds (Function.update given f (some text)) (draft.set f content) := by
  intro g
  by_cases hfg : f = g
  · subst hfg
    rw [Function.update_self, Draft.set_self]
    exact .some hcontent
  · rw [Function.update_of_ne (Ne.symm hfg), Draft.set_of_ne hfg]
    exact h g

/-- What holds a text for a field holds the others without it. -/
theorem Holds.exists_set (hf : given f = none)
    (h : schema.Holds (Function.update given f (some text)) draft) :
    ∃ content before, (schema.content f).ofText? text = some content ∧
      schema.Holds given before ∧ before.set f content = draft := by
  obtain ⟨content, hcontent, hdraft⟩ := h.ofText?_eq (Function.update_self f _ given)
  refine ⟨content, Function.update draft f none, hcontent, fun g => ?_, funext fun g => ?_⟩
  · by_cases hfg : g = f
    · subst hfg
      rw [hf, Function.update_self]
      exact .none
    · have hrel := h g
      rw [Function.update_of_ne hfg] at hrel ⊢
      exact hrel
  · by_cases hfg : f = g
    · subst hfg
      rw [Draft.set_self, hdraft]
    · rw [Draft.set_of_ne hfg, Function.update_of_ne (Ne.symm hfg)]

/-- **A field that may be left out.** If a record is built without the field as it is with the
contents that a text stands for, it may be left out in place of the text. -/
theorem Regular.ofText?_missing_iff (hschema : schema.Regular)
    (hcontent : (schema.content f).ofText? text = some content)
    (hbuild : ∀ {draft : schema.Draft}, draft f = none →
      schema.build (draft.set f content) = schema.build draft)
    (hf : given f = none) {cs cs' : List Char} (hcs : schema.Presents given cs)
    (hcs' : schema.Presents (Function.update given f (some text)) cs') {a : α} :
    schema.reader.ofText? cs = some a ↔ schema.reader.ofText? cs' = some a := by
  rw [hschema.ofText?_eq_some_iff hcs, hschema.ofText?_eq_some_iff hcs']
  constructor
  · rintro ⟨draft, hholds, ha⟩
    exact ⟨_, hholds.set hcontent, (hbuild (hholds.eq_none hf)).trans ha⟩
  · rintro ⟨_, hholds, ha⟩
    obtain ⟨content', draft, hcontent', hbefore, rfl⟩ := hholds.exists_set hf
    rw [hcontent] at hcontent'
    cases hcontent'
    exact ⟨draft, hbefore, (hbuild (hbefore.eq_none hf)).symm.trans ha⟩

end Missing

/-! ### Written objects -/

/-- A member that gives a field its text, written without white space. -/
def writtenMember (schema : Schema α) (field : schema.Field × List Char) :
    List Char × List Char :=
  (Quoted.write (schema.name field.1), field.2)

theorem isMember_writtenMember (h : IsText field.2) :
    schema.IsMember field (schema.writtenMember field) :=
  ⟨⟨[], _, [], isSpaces_nil, Quoted.isText_write _, isSpaces_nil, (List.append_nil _).symm⟩,
    h.respaced⟩

/-- Fields that are written among other members. -/
theorem presents_of_perm (members others : List (List Char × List Char)) {cs : List Char}
    (htext : ∀ f, ∀ text ∈ given f, IsText text)
    (hothers : ∀ member ∈ others, schema.IsOther member)
    (hperm : members.Perm ((schema.givenFields given).map schema.writtenMember ++ others))
    (hcs : IsObjectText members cs) : schema.Presents given cs := by
  refine ⟨_, others, members, List.forall₂_map_right_iff.2 (List.forall₂_same.2 ?_), hothers, hperm,
    hcs⟩
  intro field hfield
  obtain ⟨f, -, hf⟩ := List.mem_filterMap.1 hfield
  obtain ⟨text, htexts, rfl⟩ := Option.map_eq_some_iff.1 hf
  exact isMember_writtenMember (htext f text htexts)

end Presented

end Schema

end OneShot.Json
