import OneShot.Json.Literal
import OneShot.Json.Quoted

/-!
# JSON values

JSON values and the reader that builds them. Members of an object are kept in the order of the text,
and a key that occurs twice is kept twice. A text may open at most `maxDepth` brackets inside each
other.

## Main definitions

* `Value` — the values
* `Value.reader` — the value at the front of the input, with a bound on its depth
* `document` — a reader applied to an input that it has to use up
-/

namespace OneShot.Json

/-- A JSON value. -/
inductive Value where
  | null
  | bool (value : Bool)
  | number (value : Numeral)
  | string (value : String)
  | array (items : List Value)
  | object (members : List (String × Value))

/-- How many brackets may be open at the same time. -/
def maxDepth : Nat := 127

/-! ### Scalars -/

/-- Takes the given bytes, the rest of a word whose first letter has been taken. -/
def readWord : Bytes → Bytes → Except Fault Bytes
  | [], s => .ok s
  | _ :: _, [] => .error (.taken .endInValue [])
  | expected :: more, b :: rest =>
    if b = expected then readWord more rest else .error (.taken .expectedWord rest)

/-- Takes a number. -/
def readNumeral (s : Bytes) : Except Fault (Numeral × Bytes) :=
  (Literal.read .endInValue s).bind fun (literal, rest) =>
    match literal.numeral with
    | .ok value => .ok (value, rest)
    | .error behind => .error ⟨.numberOutOfRange, rest.length + behind, false⟩

/-- Whether a value that begins with this byte is a number. -/
def startsNumber (b : UInt8) : Bool := b == byte '-' || (digit? b).isSome

/-- Takes a value without brackets that begins with the given byte. -/
def readScalar (b : UInt8) (rest : Bytes) : Except Fault (Value × Bytes) :=
  if b = byte 'n' then (readWord (Utf8.encode "ull") rest).map (.null, ·)
  else if b = byte 't' then (readWord (Utf8.encode "rue") rest).map (.bool true, ·)
  else if b = byte 'f' then (readWord (Utf8.encode "alse") rest).map (.bool false, ·)
  else if startsNumber b then (readNumeral (b :: rest)).map fun p => (.number p.1, p.2)
  else if b = byte '"' then (Quoted.read rest).map fun p => (.string p.1, p.2)
  else .error (.ahead .expectedValue (b :: rest))

theorem length_readWord_le {expected s rest : Bytes} (h : readWord expected s = .ok rest) :
    rest.length ≤ s.length := by
  induction expected generalizing s with
  | nil => cases h; exact Nat.le_refl _
  | cons e more ih =>
    cases s with
    | nil => simp [readWord] at h
    | cons b r =>
      unfold readWord at h
      split at h
      · exact Nat.le_succ_of_le (ih h)
      · simp at h

theorem length_readNumeral_lt {s rest : Bytes} {value : Numeral}
    (h : readNumeral s = .ok (value, rest)) : rest.length < s.length := by
  obtain ⟨⟨literal, r⟩, hr, h⟩ := bind_eq_ok.1 h
  dsimp only at h
  split at h
  · cases h; exact Literal.length_read_lt hr
  · simp at h

theorem length_readScalar_le {b : UInt8} {s rest : Bytes} {value : Value}
    (h : readScalar b s = .ok (value, rest)) : rest.length ≤ s.length := by
  unfold readScalar at h
  split at h
  · obtain ⟨r, hr, heq⟩ := map_eq_ok.1 h
    cases heq
    exact length_readWord_le hr
  · split at h
    · obtain ⟨r, hr, heq⟩ := map_eq_ok.1 h
      cases heq
      exact length_readWord_le hr
    · split at h
      · obtain ⟨r, hr, heq⟩ := map_eq_ok.1 h
        cases heq
        exact length_readWord_le hr
      · split at h
        · obtain ⟨⟨n, r⟩, hr, heq⟩ := map_eq_ok.1 h
          cases heq
          exact Nat.le_of_lt_succ (length_readNumeral_lt hr)
        · split at h
          · obtain ⟨⟨n, r⟩, hr, heq⟩ := map_eq_ok.1 h
            cases heq
            exact Nat.le_of_lt (Quoted.length_read_lt hr)
          · simp at h

/-! ### Members of objects -/

/-- Takes the colon behind a key. -/
def readColon (s : Bytes) : Except Fault Bytes :=
  match skipSpace s with
  | [] => .error (.ahead .endInObject [])
  | b :: rest => if b = byte ':' then .ok rest else .error (.ahead .expectedColon (b :: rest))

theorem length_readColon_le {s rest : Bytes} (h : readColon s = .ok rest) :
    rest.length ≤ s.length := by
  have hs := length_skipSpace_le s
  unfold readColon at h
  split at h
  · simp at h
  · rename_i b r heq
    rw [heq] at hs
    split at h
    · cases h
      simp only [List.length_cons] at hs
      omega
    · simp at h

/-- Takes a member of an object, the opening quotation mark of which has been taken. -/
def readMember (value : Reader Value) (s : Bytes) : Except Fault ((String × Value) × Bytes) :=
  (Quoted.read s).bind fun (key, s) =>
  (readColon s).bind fun s =>
  (value.run s).map fun (value, s) => ((key, value), s)

/-- Reads a member of an object. -/
def memberReader (value : Reader Value) : Reader (String × Value) where
  run := readMember value
  shortens h := by
    obtain ⟨⟨key, s1⟩, h1, h⟩ := bind_eq_ok.1 h
    obtain ⟨s2, h2, h⟩ := bind_eq_ok.1 h
    obtain ⟨⟨v, s3⟩, h3, heq⟩ := map_eq_ok.1 h
    cases heq
    have := Quoted.length_read_lt h1
    have := length_readColon_le h2
    have := value.shortens h3
    omega

/-! ### Values -/

/-- Takes a value, with `inner` for the values between brackets; without it no bracket may be
opened. -/
def readValue (inner : Option (Reader Value)) (s : Bytes) : Except Fault (Value × Bytes) :=
  match skipSpace s with
  | [] => .error (.ahead .endInValue [])
  | b :: rest =>
    if b = byte '[' then
      match inner with
      | none => .error (.ahead .tooDeep (b :: rest))
      | some value => (items .square value rest).map fun p => (.array p.1, p.2)
    else if b = byte '{' then
      match inner with
      | none => .error (.ahead .tooDeep (b :: rest))
      | some value =>
        (items .brace (memberReader value) rest).map fun p => (.object p.1, p.2)
    else readScalar b rest

theorem length_readValue_lt {inner : Option (Reader Value)} {s rest : Bytes} {value : Value}
    (h : readValue inner s = .ok (value, rest)) : rest.length < s.length := by
  have hs := length_skipSpace_le s
  unfold readValue at h
  split at h
  · simp at h
  · rename_i b r heq
    rw [heq] at hs
    simp only [List.length_cons] at hs
    split at h
    · split at h
      · simp at h
      · obtain ⟨⟨n, t⟩, hr, heq⟩ := map_eq_ok.1 h
        cases heq
        have := length_items_le hr
        show t.length < s.length
        omega
    · split at h
      · split at h
        · simp at h
        · obtain ⟨⟨n, t⟩, hr, heq⟩ := map_eq_ok.1 h
          cases heq
          have := length_items_le hr
          show t.length < s.length
          omega
      · have := length_readScalar_le h
        omega

/-- Reads a value that opens at most `depth` brackets inside each other. -/
def Value.reader : (depth : Nat) → Reader Value
  | 0 => ⟨readValue none, length_readValue_lt⟩
  | depth + 1 => ⟨readValue (some (Value.reader depth)), length_readValue_lt⟩

/-! ### Whole texts -/

/-- Checks that only white space is left. -/
def finish {α : Type} (p : α × Bytes) : Except Fault α :=
  match skipSpace p.2 with
  | [] => .ok p.1
  | rest => .error (.ahead .trailingCharacters rest)

/-- What a reader makes of a whole input. -/
def document {α : Type} (reader : Reader α) (s : Bytes) : Except Fault α :=
  (reader.run s).bind finish

/-- The value that a text writes. -/
def Value.parse (s : Bytes) : Except Fault Value := document (reader maxDepth) s

end OneShot.Json
