import OneShot.Json.Skip
import OneShot.Json.Typed

/-!
# Records

A record is a fixed set of named fields, each with a type of its own. It is written as an object
with the fields in any order, where members of other names are skipped, or as a list of all fields
in their order. Each field may be given only once.

What has been read of a record is a draft: for each field its contents, if they have been read. The
record is built from the draft when the closing bracket has been taken, and it is then that missing
fields are found.

## Main definitions

* `Schema` — the fields of a record, their readers, and what is built of them
* `Schema.Draft`, `Schema.Draft.set` — what has been read
* `Schema.readObject`, `Schema.readList` — the two notations
* `Schema.reader` — a record in either of them
* `Fault.settle` — the place of a fault in the contents of a record
-/

namespace OneShot.Json

/-- The contents of a field, which has to be there. -/
def require {α : Type} (name : String) : Option α → Except Cause α
  | some content => .ok content
  | none => .error (.missingField name)

/-- The format of a record from which an `α` is built. -/
structure Schema (α : Type) where
  Field : Type
  [decEq : DecidableEq Field]
  /-- All fields, in their order. -/
  fields : List Field
  /-- The name of each field. -/
  name : Field → String
  /-- The type of the contents of each field. -/
  Content : Field → Type
  content : (f : Field) → Reader (Content f)
  /-- What the record is called in faults. -/
  title : String
  build : ((f : Field) → Option (Content f)) → Except Cause α

attribute [instance] Schema.decEq

namespace Schema

variable {α : Type}

/-- What has been read of a record. -/
abbrev Draft (schema : Schema α) : Type := (f : schema.Field) → Option (schema.Content f)

/-- The draft before anything has been read. -/
def blank (schema : Schema α) : schema.Draft := fun _ => none

/-- Enters the contents of a field. -/
def Draft.set {schema : Schema α} (draft : schema.Draft) (f : schema.Field)
    (content : schema.Content f) : schema.Draft :=
  fun g => if h : f = g then some (h ▸ content) else draft g

/-- The field with a given name. -/
def field? (schema : Schema α) (name : String) : Option schema.Field :=
  schema.fields.find? fun f => schema.name f = name

end Schema

/-- The place of a fault found in the contents of a record or a list whose contents begin with `s`:
behind the closing bracket if that is what follows, and behind a comma in a list. -/
def Fault.settle (bracket : Bracket) (s : Bytes) (fault : Fault) : Fault :=
  if fault.floating then
    let rest := skipSpace (s.drop (s.length - fault.left))
    if rest.head? = some bracket.closing then .taken fault.cause rest.tail
    else if bracket = .square ∧ rest.head? = some (byte ',') then
      .taken fault.cause (skipSpace rest.tail)
    else .taken fault.cause rest
  else fault

namespace Schema

variable {α : Type}

/-- Takes a member of the object: a field that has not been given yet, or one to be skipped. -/
def readMember (schema : Schema α) (draft : schema.Draft) (s : Bytes) :
    Except Fault (schema.Draft × Bytes) :=
  (Quoted.read s).bind fun (key, s) =>
    match schema.field? key with
    | some f =>
      if (draft f).isSome then .error (.float (.duplicateField key) s)
      else (readColon s).bind fun s =>
        ((schema.content f).run s).map fun (content, s) => (draft.set f content, s)
    | none => (readColon s).bind fun s => (skipValue s).map fun s => (draft, s)

theorem length_readMember_lt {schema : Schema α} {draft draft' : schema.Draft} {s rest : Bytes}
    (h : schema.readMember draft s = .ok (draft', rest)) : rest.length < s.length := by
  obtain ⟨⟨key, s1⟩, h1, h⟩ := bind_eq_ok.1 h
  have := Quoted.length_read_lt h1
  dsimp only at h
  split at h
  · split at h
    · simp at h
    · obtain ⟨s2, h2, h⟩ := bind_eq_ok.1 h
      obtain ⟨⟨content, s3⟩, h3, heq⟩ := map_eq_ok.1 h
      cases heq
      have := length_readColon_le h2
      have := (schema.content _).shortens h3
      show s3.length < s.length
      omega
  · obtain ⟨s2, h2, h⟩ := bind_eq_ok.1 h
    obtain ⟨s3, h3, heq⟩ := map_eq_ok.1 h
    cases heq
    have := length_readColon_le h2
    have := length_skipFrom_lt h3
    omega

/-- Reads a member into a draft. -/
def memberReader (schema : Schema α) (draft : schema.Draft) : Reader schema.Draft :=
  ⟨schema.readMember draft, length_readMember_lt⟩

/-- Builds the record when its closing bracket has been taken. -/
def complete (schema : Schema α) (p : schema.Draft × Bytes) : Except Fault (α × Bytes) :=
  match schema.build p.1 with
  | .ok a => .ok (a, p.2)
  | .error cause => .error (.taken cause p.2)

/-- Takes a record written as an object, behind the opening brace. -/
def readObject (schema : Schema α) (s : Bytes) : Except Fault (α × Bytes) :=
  ((series .brace schema.memberReader schema.blank s).mapError (Fault.settle .brace s)).bind
    schema.complete

/-- The fault of a list that ends after `count` elements. -/
def tooShort (schema : Schema α) (count : Nat) : Cause :=
  .wrongLength count (schema.title ++ " with " ++ toString schema.fields.length ++ " elements")

/-- Takes fields in their order, `count` elements having been taken. -/
def readFields (schema : Schema α) (count : Nat) (draft : schema.Draft) :
    List schema.Field → Bytes → Except Fault (schema.Draft × Bytes)
  | [], s => .ok (draft, s)
  | f :: more, s =>
    (if count = 0 then Bracket.square.first s else Bracket.square.next s).bind fun
      | .close rest => .error (.taken (schema.tooShort count) rest)
      | .item rest =>
        ((schema.content f).run rest).bind fun (content, rest) =>
          schema.readFields (count + 1) (draft.set f content) more rest

/-- Takes the closing bracket of a list that has all its elements. -/
def closeList (s : Bytes) : Except Fault Bytes :=
  match skipSpace s with
  | [] => .error (.ahead .endInList [])
  | b :: rest =>
    if b = byte ']' then .ok rest
    else if b = byte ',' then
      let behind := skipSpace rest
      .error (.ahead (if behind.head? = some (byte ']') then .trailingComma else .trailingCharacters)
        behind)
    else .error (.ahead .trailingCharacters (b :: rest))

/-- Takes a record written as a list, behind the opening bracket. -/
def readList (schema : Schema α) (s : Bytes) : Except Fault (α × Bytes) :=
  ((schema.readFields 0 schema.blank schema.fields s).mapError (Fault.settle .square s)).bind
    fun (draft, s) => (closeList s).bind fun s => schema.complete (draft, s)

theorem rest_eq_of_complete {schema : Schema α} {p : schema.Draft × Bytes} {a : α} {rest : Bytes}
    (h : schema.complete p = .ok (a, rest)) : rest = p.2 := by
  unfold complete at h
  split at h
  · cases h; rfl
  · simp at h

theorem length_readObject_le {schema : Schema α} {s rest : Bytes} {a : α}
    (h : schema.readObject s = .ok (a, rest)) : rest.length ≤ s.length := by
  obtain ⟨⟨draft, t⟩, ht, h⟩ := bind_eq_ok.1 h
  have := length_series_le (mapError_eq_ok.1 ht)
  rw [rest_eq_of_complete h]
  exact this

theorem length_readFields_le {schema : Schema α} {fields : List schema.Field} {count : Nat}
    {draft draft' : schema.Draft} {s rest : Bytes}
    (h : schema.readFields count draft fields s = .ok (draft', rest)) :
    rest.length ≤ s.length := by
  induction fields generalizing count draft s with
  | nil => cases h; exact Nat.le_refl _
  | cons f more ih =>
    obtain ⟨turn, hturn, h⟩ := bind_eq_ok.1 h
    have hle : turn.rest.length ≤ s.length := by
      split at hturn
      · exact Bracket.length_first_le hturn
      · exact Nat.le_of_lt (Bracket.length_next_lt hturn)
    cases turn with
    | close r => simp at h
    | item r =>
      obtain ⟨⟨content, t⟩, ht, h⟩ := bind_eq_ok.1 h
      have := (schema.content f).shortens ht
      have := ih h
      simp only [Turn.rest] at hle
      omega

theorem length_closeList_le {s rest : Bytes} (h : closeList s = .ok rest) :
    rest.length ≤ s.length := by
  have hs := length_skipSpace_le s
  unfold closeList at h
  split at h
  · simp at h
  · rename_i b r heq
    rw [heq] at hs
    simp only [List.length_cons] at hs
    split at h
    · cases h; omega
    · split at h <;> simp at h

theorem length_readList_le {schema : Schema α} {s rest : Bytes} {a : α}
    (h : schema.readList s = .ok (a, rest)) : rest.length ≤ s.length := by
  obtain ⟨⟨draft, t⟩, ht, h⟩ := bind_eq_ok.1 h
  obtain ⟨t', ht', h⟩ := bind_eq_ok.1 h
  have := length_readFields_le (mapError_eq_ok.1 ht)
  have := length_closeList_le ht'
  rw [rest_eq_of_complete h]
  exact Nat.le_trans ‹_› ‹_›

/-- Takes a record in either notation. -/
def read (schema : Schema α) (s : Bytes) : Except Fault (α × Bytes) :=
  match skipSpace s with
  | [] => .error (.ahead .endInValue [])
  | b :: rest =>
    if b = byte '[' then schema.readList rest
    else if b = byte '{' then schema.readObject rest
    else readTyped schema.title (fun value => .error (value.unexpected schema.title)) (b :: rest)

theorem length_read_lt {schema : Schema α} {s rest : Bytes} {a : α}
    (h : schema.read s = .ok (a, rest)) : rest.length < s.length := by
  have hs := length_skipSpace_le s
  unfold read at h
  split at h
  · simp at h
  · rename_i b r heq
    rw [heq] at hs
    simp only [List.length_cons] at hs
    split at h
    · have := length_readList_le h
      omega
    · split at h
      · have := length_readObject_le h
        omega
      · have := length_readTyped_lt h
        simp only [List.length_cons] at this
        omega

/-- Reads a record in either notation. -/
def reader (schema : Schema α) : Reader α := ⟨schema.read, length_read_lt⟩

end Schema

end OneShot.Json
