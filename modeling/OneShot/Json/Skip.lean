import OneShot.Json.Value

/-!
# Skipping values

The values of members that nobody asks for are skipped. A skipped value has to have the shape of
JSON, but its numbers may be out of range, its strings need not be text, and it may nest to any
depth: which brackets are open is kept on a stack.

## Main definitions

* `skipFrom` — the input behind a value and all brackets on a stack
* `skipValue` — the input behind a value
-/

namespace OneShot.Json

/-- Takes a scalar or an opening bracket. -/
def skipHead (s : Bytes) : Except Fault (Option Bracket × Bytes) :=
  match skipSpace s with
  | [] => .error (.ahead .endInValue [])
  | b :: rest =>
    if b = byte '[' then .ok (some .square, rest)
    else if b = byte '{' then .ok (some .brace, rest)
    else if b = byte 'n' then (readWord (Utf8.encode "ull") rest).map (none, ·)
    else if b = byte 't' then (readWord (Utf8.encode "rue") rest).map (none, ·)
    else if b = byte 'f' then (readWord (Utf8.encode "alse") rest).map (none, ·)
    else if startsNumber b then
      (Literal.read .invalidNumber (b :: rest)).map fun p => (none, p.2)
    else if b = byte '"' then (Quoted.skip rest).map (none, ·)
    else .error (.ahead .expectedValue (b :: rest))

/-- Takes what stands between the comma or the opening bracket and the next value: nothing in a
list, a key and a colon in an object. -/
def skipKey (bracket : Bracket) (s : Bytes) : Except Fault Bytes :=
  match bracket with
  | .square => .ok s
  | .brace =>
    match skipSpace s with
    | [] => .error (.ahead .endInObject [])
    | b :: rest =>
      if b = byte '"' then (Quoted.skip rest).bind readColon
      else .error (.ahead .keyNotString (b :: rest))

/-- Takes what stands between two values: closing brackets, and a comma unless all brackets are
closed. The brackets that stay open are given. -/
def skipBetween : List Bracket → Bytes → Except Fault (List Bracket × Bytes)
  | [], s => .ok ([], s)
  | bracket :: outer, s =>
    match skipSpace s with
    | [] => .error (.ahead bracket.endCause [])
    | b :: rest =>
      if b = bracket.closing then skipBetween outer rest
      else if b = byte ',' then (skipKey bracket rest).map (bracket :: outer, ·)
      else .error (.ahead bracket.commaCause (b :: rest))

/-- Takes what stands between an opening bracket and the next value. -/
def skipOpened (bracket : Bracket) (outer : List Bracket) (s : Bytes) :
    Except Fault (List Bracket × Bytes) :=
  match skipSpace s with
  | [] => .error (.ahead bracket.endCause [])
  | b :: rest =>
    if b = bracket.closing then skipBetween outer rest
    else (skipKey bracket (b :: rest)).map (bracket :: outer, ·)

theorem length_skipHead_lt {s rest : Bytes} {opened : Option Bracket}
    (h : skipHead s = .ok (opened, rest)) : rest.length < s.length := by
  have hs := length_skipSpace_le s
  unfold skipHead at h
  split at h
  · simp at h
  · rename_i b r heq
    rw [heq] at hs
    simp only [List.length_cons] at hs
    split at h
    · cases h; omega
    · split at h
      · cases h; omega
      · split at h
        · obtain ⟨t, ht, heq⟩ := map_eq_ok.1 h
          cases heq
          have := length_readWord_le ht
          omega
        · split at h
          · obtain ⟨t, ht, heq⟩ := map_eq_ok.1 h
            cases heq
            have := length_readWord_le ht
            omega
          · split at h
            · obtain ⟨t, ht, heq⟩ := map_eq_ok.1 h
              cases heq
              have := length_readWord_le ht
              omega
            · split at h
              · obtain ⟨⟨l, t⟩, ht, heq⟩ := map_eq_ok.1 h
                cases heq
                have := Literal.length_read_lt ht
                simp only [List.length_cons] at this
                show t.length < s.length
                omega
              · split at h
                · obtain ⟨t, ht, heq⟩ := map_eq_ok.1 h
                  cases heq
                  have := Quoted.length_skip_lt ht
                  omega
                · simp at h

theorem length_skipKey_le {bracket : Bracket} {s rest : Bytes}
    (h : skipKey bracket s = .ok rest) : rest.length ≤ s.length := by
  have hs := length_skipSpace_le s
  unfold skipKey at h
  split at h
  · cases h; exact Nat.le_refl _
  · split at h
    · simp at h
    · rename_i b r heq
      rw [heq] at hs
      simp only [List.length_cons] at hs
      split at h
      · obtain ⟨t, ht, hc⟩ := bind_eq_ok.1 h
        have := Quoted.length_skip_lt ht
        have := length_readColon_le hc
        omega
      · simp at h

theorem length_skipBetween_le {stack stack' : List Bracket} {s rest : Bytes}
    (h : skipBetween stack s = .ok (stack', rest)) : rest.length ≤ s.length := by
  induction stack generalizing s with
  | nil => cases h; exact Nat.le_refl _
  | cons bracket outer ih =>
    have hs := length_skipSpace_le s
    unfold skipBetween at h
    split at h
    · simp at h
    · rename_i b r heq
      rw [heq] at hs
      simp only [List.length_cons] at hs
      split at h
      · have := ih h
        omega
      · split at h
        · obtain ⟨t, ht, heq⟩ := map_eq_ok.1 h
          cases heq
          have := length_skipKey_le ht
          omega
        · simp at h

theorem length_skipOpened_le {bracket : Bracket} {outer stack : List Bracket} {s rest : Bytes}
    (h : skipOpened bracket outer s = .ok (stack, rest)) : rest.length ≤ s.length := by
  have hs := length_skipSpace_le s
  unfold skipOpened at h
  split at h
  · simp at h
  · rename_i b r heq
    rw [heq] at hs
    simp only [List.length_cons] at hs
    split at h
    · have := length_skipBetween_le h
      omega
    · obtain ⟨t, ht, heq⟩ := map_eq_ok.1 h
      cases heq
      have := length_skipKey_le ht
      simp only [List.length_cons] at this
      omega

/-- Takes one scalar or opening bracket and what stands between it and the next value. -/
def skipStep (stack : List Bracket) (s : Bytes) : Except Fault (List Bracket × Bytes) :=
  (skipHead s).bind fun
    | (some bracket, rest) => skipOpened bracket stack rest
    | (none, rest) => skipBetween stack rest

theorem length_skipStep_lt {stack stack' : List Bracket} {s rest : Bytes}
    (h : skipStep stack s = .ok (stack', rest)) : rest.length < s.length := by
  obtain ⟨⟨opened, r⟩, hr, h⟩ := bind_eq_ok.1 h
  have := length_skipHead_lt hr
  cases opened with
  | some bracket =>
    have := length_skipOpened_le h
    omega
  | none =>
    have := length_skipBetween_le h
    omega

/-- Takes a value and everything up to the closing bracket of the outermost bracket on the
stack. -/
def skipFrom (stack : List Bracket) (s : Bytes) : Except Fault Bytes :=
  match _h : skipStep stack s with
  | .error fault => .error fault
  | .ok ([], rest) => .ok rest
  | .ok (bracket :: outer, rest) => skipFrom (bracket :: outer) rest
termination_by s.length
decreasing_by exact length_skipStep_lt _h

/-- Takes a value without looking at what it is. -/
def skipValue (s : Bytes) : Except Fault Bytes := skipFrom [] s

theorem length_skipFrom_lt {stack : List Bracket} {s rest : Bytes}
    (h : skipFrom stack s = .ok rest) : rest.length < s.length := by
  fun_induction skipFrom stack s with
  | case1 => simp at h
  | case2 stack s rest' hs => cases h; exact length_skipStep_lt hs
  | case3 stack s bracket outer rest' hs ih =>
    have := ih h
    have := length_skipStep_lt hs
    omega

end OneShot.Json
