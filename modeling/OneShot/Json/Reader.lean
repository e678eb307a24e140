import OneShot.Json.Fault

/-!
# Readers

A reader takes something from the front of a byte sequence and hands back the rest, or reports a
fault. Every reader takes at least one byte; the type says so, and this is why the loop over the
items between two brackets ends.

A list and an object have the same skeleton: an opening bracket, items with commas between them, a
closing bracket. What stands between two items is read by `Bracket.first` and `Bracket.next`, for
both kinds of bracket, and `series` is the one loop over it.

## Main definitions

* `Reader` — a function that takes bytes from the front, at least one
* `skipSpace` — the input behind JSON's white space
* `Bracket`, `Turn` — what may stand before an item
* `series` — the items up to the closing bracket, folded into a state
-/

namespace OneShot.Json

/-! ### Sequencing -/

theorem bind_eq_ok {ε α β : Type} {x : Except ε α} {f : α → Except ε β} {b : β} :
    x.bind f = .ok b ↔ ∃ a, x = .ok a ∧ f a = .ok b := by
  cases x <;> simp [Except.bind]

theorem map_eq_ok {ε α β : Type} {x : Except ε α} {f : α → β} {b : β} :
    x.map f = .ok b ↔ ∃ a, x = .ok a ∧ f a = b := by
  cases x <;> simp [Except.map]

theorem mapError_eq_ok {ε ε' β : Type} {x : Except ε β} {f : ε → ε'} {b : β} :
    x.mapError f = .ok b ↔ x = .ok b := by
  cases x with
  | error e => constructor <;> intro h <;> cases h
  | ok a => constructor <;> intro h <;> cases h <;> rfl

/-- Takes a value of type `α` from the front of the input, and at least one byte. -/
structure Reader (α : Type) where
  run : Bytes → Except Fault (α × Bytes)
  shortens : ∀ {s a rest}, run s = .ok (a, rest) → rest.length < s.length

/-- Changes what is read. -/
def Reader.map {α β : Type} (f : α → β) (r : Reader α) : Reader β where
  run s := (r.run s).map fun p => (f p.1, p.2)
  shortens h := by
    obtain ⟨⟨a, t⟩, hr, heq⟩ := map_eq_ok.1 h
    cases heq
    exact r.shortens hr

/-! ### White space -/

/-- White space of JSON: space, tab, line feed and carriage return. -/
def isSpace (b : UInt8) : Bool :=
  b == byte ' ' || b == byte '\t' || b == byte '\n' || b == byte '\r'

/-- The input behind leading white space. -/
def skipSpace (s : Bytes) : Bytes := s.dropWhile isSpace

theorem length_skipSpace_le (s : Bytes) : (skipSpace s).length ≤ s.length :=
  (List.dropWhile_sublist _).length_le

/-! ### Brackets and what stands between items -/

/-- The two pairs of brackets. -/
inductive Bracket where
  | square
  | brace
deriving DecidableEq, Repr

/-- What stands in front of an item. -/
inductive Turn where
  /-- The closing bracket; the input behind it is left. -/
  | close (rest : Bytes)
  /-- An item. In an object the opening quotation mark of its key has been taken. -/
  | item (rest : Bytes)

/-- The input that a turn leaves. -/
def Turn.rest : Turn → Bytes
  | close rest => rest
  | item rest => rest

namespace Bracket

def closing : Bracket → UInt8
  | square => byte ']'
  | brace => byte '}'

/-- The fault of a text that ends between the brackets. -/
def endCause : Bracket → Cause
  | square => .endInList
  | brace => .endInObject

/-- The fault of an item that is followed neither by a comma nor by the closing bracket. -/
def commaCause : Bracket → Cause
  | square => .expectedCommaOrBracket
  | brace => .expectedCommaOrBrace

/-- The beginning of an item, with no closing bracket in sight: anything in a list, a key in an
object. -/
def begin : Bracket → Bytes → Except Fault Turn
  | square, s => .ok (.item s)
  | brace, s =>
    match s with
    | [] => .error (.ahead .endInValue s)
    | b :: rest => if b = byte '"' then .ok (.item rest) else .error (.ahead .keyNotString s)

/-- What follows the opening bracket. -/
def first (bracket : Bracket) (s : Bytes) : Except Fault Turn :=
  match skipSpace s with
  | [] => .error (.ahead bracket.endCause [])
  | b :: rest =>
    if b = bracket.closing then .ok (.close rest) else bracket.begin (b :: rest)

/-- What follows an item: the closing bracket, or a comma and another item. -/
def next (bracket : Bracket) (s : Bytes) : Except Fault Turn :=
  match skipSpace s with
  | [] => .error (.ahead bracket.endCause [])
  | b :: rest =>
    if b = bracket.closing then .ok (.close rest)
    else if b = byte ',' then
      let behind := skipSpace rest
      if behind.head? = some bracket.closing then .error (.ahead .trailingComma behind)
      else bracket.begin behind
    else .error (.ahead bracket.commaCause (b :: rest))

theorem length_begin_le {bracket : Bracket} {s : Bytes} {turn : Turn}
    (h : bracket.begin s = .ok turn) : turn.rest.length ≤ s.length := by
  cases bracket with
  | square => cases h; exact Nat.le_refl _
  | brace =>
    cases s with
    | nil => simp [begin] at h
    | cons b rest =>
      simp only [begin] at h
      split at h
      · cases h; simp [Turn.rest]
      · simp at h

theorem length_first_le {bracket : Bracket} {s : Bytes} {turn : Turn}
    (h : bracket.first s = .ok turn) : turn.rest.length ≤ s.length := by
  have hs := length_skipSpace_le s
  unfold first at h
  split at h
  · simp at h
  · rename_i b rest heq
    rw [heq] at hs
    simp only [List.length_cons] at hs
    split at h
    · cases h; simp only [Turn.rest]; omega
    · have := length_begin_le h; simp only [List.length_cons] at this; omega

theorem length_next_lt {bracket : Bracket} {s : Bytes} {turn : Turn}
    (h : bracket.next s = .ok turn) : turn.rest.length < s.length := by
  have hs := length_skipSpace_le s
  unfold next at h
  split at h
  · simp at h
  · rename_i b rest heq
    rw [heq] at hs
    simp only [List.length_cons] at hs
    split at h
    · cases h; simp only [Turn.rest]; omega
    · split at h
      · dsimp only at h
        split at h
        · simp at h
        · have := length_begin_le h
          have := length_skipSpace_le rest
          omega
      · simp at h

end Bracket

/-! ### Series of items -/

/-- Reads items, the first of which starts right here, up to the closing bracket. Each item changes
a state, and what is read of an item may depend on the state. -/
def seriesFrom {σ : Type} (bracket : Bracket) (item : σ → Reader σ) (state : σ) (s : Bytes) :
    Except Fault (σ × Bytes) :=
  match _h : (item state).run s with
  | .error fault => .error fault
  | .ok (state', rest) =>
    match _hn : bracket.next rest with
    | .error fault => .error fault
    | .ok (.close rest') => .ok (state', rest')
    | .ok (.item rest') => seriesFrom bracket item state' rest'
termination_by s.length
decreasing_by
  have := (item state).shortens _h
  have := Bracket.length_next_lt _hn
  simp only [Turn.rest] at this
  omega

theorem length_seriesFrom_lt {σ : Type} {bracket : Bracket} {item : σ → Reader σ} {state : σ}
    {s : Bytes} {state' : σ} {rest : Bytes}
    (h : seriesFrom bracket item state s = .ok (state', rest)) : rest.length < s.length := by
  fun_induction seriesFrom bracket item state s with
  | case1 | case2 => simp at h
  | case3 state s state'' rest' hrun rest'' hn =>
    cases h
    have := (item state).shortens hrun
    have := Bracket.length_next_lt hn
    simp only [Turn.rest] at this
    omega
  | case4 state s state'' rest' hrun rest'' hn ih =>
    have := ih h
    have := (item state).shortens hrun
    have := Bracket.length_next_lt hn
    simp only [Turn.rest] at this
    omega

/-- Reads the items behind an opening bracket up to the closing one. -/
def series {σ : Type} (bracket : Bracket) (item : σ → Reader σ) (state : σ) (s : Bytes) :
    Except Fault (σ × Bytes) :=
  (bracket.first s).bind fun
    | .close rest => .ok (state, rest)
    | .item rest => seriesFrom bracket item state rest

theorem length_series_le {σ : Type} {bracket : Bracket} {item : σ → Reader σ} {state : σ}
    {s : Bytes} {state' : σ} {rest : Bytes}
    (h : series bracket item state s = .ok (state', rest)) : rest.length ≤ s.length := by
  obtain ⟨turn, hf, ht⟩ := bind_eq_ok.1 h
  have hle := Bracket.length_first_le hf
  cases turn with
  | close r => cases ht; exact hle
  | item r =>
    have := length_seriesFrom_lt ht
    simp only [Turn.rest] at hle
    omega

/-- Reads the items behind an opening bracket into a list. -/
def items {α : Type} (bracket : Bracket) (item : Reader α) (s : Bytes) :
    Except Fault (List α × Bytes) :=
  (series bracket (fun read => item.map (· :: read)) [] s).map fun p => (p.1.reverse, p.2)

theorem length_items_le {α : Type} {bracket : Bracket} {item : Reader α} {s : Bytes}
    {as : List α} {rest : Bytes} (h : items bracket item s = .ok (as, rest)) :
    rest.length ≤ s.length := by
  obtain ⟨⟨read, r⟩, hs, heq⟩ := map_eq_ok.1 h
  cases heq
  exact length_series_le hs

end OneShot.Json
