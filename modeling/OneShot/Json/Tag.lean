import OneShot.Json.Typed

/-!
# Tags

A tag is one of a fixed set of names. It is written as a string, or as an object with the tag as its
only key and `null` as the value of that.

Where only the name will do it is read like any text: anything else is a value of the wrong type. A
tag may be two things, so a value that is neither is no tag at all.

## Main definitions

* `readName` — a name alone
* `readTag` — a tag in either notation
-/

namespace OneShot.Json

/-- The tag that a name stands for, when the name has just been taken. -/
def named {α : Type} (ofName? : String → Option α) (p : String × Bytes) :
    Except Fault (α × Bytes) :=
  match ofName? p.1 with
  | some a => .ok (a, p.2)
  | none => .error (.taken (.unknownName p.1) p.2)

/-- Takes a name. -/
def readName {α : Type} (ofName? : String → Option α) (s : Bytes) : Except Fault (α × Bytes) :=
  (readTyped "a name" asText s).bind (named ofName?)

/-- A value as nothing. -/
def asNull : Value → Except Cause Unit
  | .null => .ok ()
  | value => .error (value.unexpected "unit")

/-- Takes the brace behind the only member of an object. -/
def closeTag (s : Bytes) : Except Fault Bytes :=
  match skipSpace s with
  | [] => .error (.ahead .endInObject [])
  | b :: rest => if b = byte '}' then .ok rest else .error (.taken .expectedValue (b :: rest))

/-- Takes a tag written as an object, behind the opening brace. -/
def readTagObject {α : Type} (ofName? : String → Option α) (s : Bytes) :
    Except Fault (α × Bytes) :=
  match skipSpace s with
  | [] => .error (.ahead .endInObject [])
  | b :: rest =>
    if b = byte '"' then
      ((Quoted.read rest).bind (named ofName?)).bind fun (a, s) =>
      (readColon s).bind fun s =>
      (readTyped "unit" asNull s).bind fun (_, s) =>
      (closeTag s).map fun s => (a, s)
    else .error (.ahead .keyNotString (b :: rest))

/-- Takes a tag. -/
def readTag {α : Type} (ofName? : String → Option α) (s : Bytes) : Except Fault (α × Bytes) :=
  match skipSpace s with
  | [] => .error (.ahead .endInValue [])
  | b :: rest =>
    if b = byte '"' then (Quoted.read rest).bind (named ofName?)
    else if b = byte '{' then readTagObject ofName? rest
    else .error (.ahead .expectedValue (b :: rest))

section Length

variable {α : Type} {ofName? : String → Option α}

theorem rest_eq_of_named {p : String × Bytes} {a : α} {rest : Bytes}
    (h : named ofName? p = .ok (a, rest)) : rest = p.2 := by
  unfold named at h
  split at h
  · cases h; rfl
  · simp at h

theorem length_readName_lt {s rest : Bytes} {a : α}
    (h : readName ofName? s = .ok (a, rest)) : rest.length < s.length := by
  obtain ⟨⟨name, t⟩, ht, h⟩ := bind_eq_ok.1 h
  have := length_readTyped_lt ht
  rw [rest_eq_of_named h]
  exact this

theorem length_closeTag_le {s rest : Bytes} (h : closeTag s = .ok rest) :
    rest.length ≤ s.length := by
  have hs := length_skipSpace_le s
  unfold closeTag at h
  split at h
  · simp at h
  · rename_i b r heq
    rw [heq] at hs
    simp only [List.length_cons] at hs
    split at h
    · cases h; omega
    · simp at h

theorem length_readTagObject_le {s rest : Bytes} {a : α}
    (h : readTagObject ofName? s = .ok (a, rest)) : rest.length ≤ s.length := by
  have hs := length_skipSpace_le s
  unfold readTagObject at h
  split at h
  · simp at h
  · rename_i b r heq
    rw [heq] at hs
    simp only [List.length_cons] at hs
    split at h
    · obtain ⟨⟨a', s1⟩, h1, h⟩ := bind_eq_ok.1 h
      obtain ⟨s2, h2, h⟩ := bind_eq_ok.1 h
      obtain ⟨⟨_, s3⟩, h3, h⟩ := bind_eq_ok.1 h
      obtain ⟨s4, h4, heq⟩ := map_eq_ok.1 h
      obtain ⟨⟨name, s0⟩, h0, h1⟩ := bind_eq_ok.1 h1
      cases heq
      have : s1 = s0 := rest_eq_of_named h1
      subst this
      have := Quoted.length_read_lt h0
      have := length_readColon_le h2
      have := length_readTyped_lt h3
      have := length_closeTag_le h4
      omega
    · simp at h

theorem length_readTag_lt {s rest : Bytes} {a : α}
    (h : readTag ofName? s = .ok (a, rest)) : rest.length < s.length := by
  have hs := length_skipSpace_le s
  unfold readTag at h
  split at h
  · simp at h
  · rename_i b r heq
    rw [heq] at hs
    simp only [List.length_cons] at hs
    split at h
    · obtain ⟨⟨name, t⟩, ht, h⟩ := bind_eq_ok.1 h
      have := Quoted.length_read_lt ht
      rw [rest_eq_of_named h]
      dsimp only
      omega
    · split at h
      · have := length_readTagObject_le h
        omega
      · simp at h

end Length

/-- Reads a tag. -/
def tagReader {α : Type} (ofName? : String → Option α) : Reader α :=
  ⟨readTag ofName?, length_readTag_lt⟩

end OneShot.Json
