import OneShot.Pattern.Atom

/-!
# Classes of characters

A class stands in brackets and holds characters, ranges of them, classes with a name, and other
classes, to any depth: the classes that are open are kept on a stack. Two classes can be joined by
an operator, which is written as a sign twice. The operators are read from left to right, and what
stands between two of them may be empty.

The signs of the notation stand for themselves where they would make no sense: a hyphen at either
end of a class, and a closing bracket at its beginning.

## Main definitions

* `CharClass.Open` — what is known of a class whose closing bracket is still to come
* `CharClass.step?` — one member, bracket or operator
* `CharClass.read?` — a class behind its opening bracket
-/

namespace OneShot.Pattern.CharClass

/-- A class whose closing bracket is still to come. -/
structure Open where
  /-- The depth of what stands before the last operator. -/
  operand : Option Nat
  /-- The depths of the members behind the last operator. -/
  members : List Nat
  /-- Whether there was nothing yet but hyphens. -/
  atStart : Bool
deriving DecidableEq, Repr

namespace Open

/-- A class behind its opening bracket. -/
def empty : Open := ⟨none, [], true⟩

/-- A class with another member. -/
def add (c : Open) (depth : Nat) : Open := ⟨c.operand, depth :: c.members, false⟩

/-- The depth of what stands in a class so far. -/
def depth (c : Open) : Nat :=
  match c.operand with
  | none => depthOfSeries c.members
  | some operand => max operand (depthOfSeries c.members) + 1

/-- A class behind an operator, whose first operand is all that stands before it. -/
def operator (c : Open) : Open := ⟨some c.depth, [], false⟩

end Open

/-! ### Members -/

/-- The names of the ASCII classes. -/
def names : List String :=
  [ "alnum", "alpha", "ascii", "blank", "cntrl", "digit", "graph", "lower", "print", "punct",
    "space", "upper", "word", "xdigit" ]

/-- Whether a caret stands in front of a text, and the text without it. -/
def splitCaret : List Char → Bool × List Char
  | '^' :: rest => (true, rest)
  | text => (false, text)

/-- A class with a name, and whether a caret negates it. The opening bracket has been taken; the
name stands between colons. -/
def readNamed? (text : List Char) : Option (Bool × List Char) :=
  match text with
  | ':' :: text =>
    let (negated, text) := splitCaret text
    match text.dropWhile (· ≠ ':') with
    | ':' :: ']' :: rest =>
      if String.ofList (text.takeWhile (· ≠ ':')) ∈ names then some (negated, rest) else none
    | _ => none
  | _ => none

/-- Whether a class with a name may be a member of a class. -/
def isNamedMember (mode : Mode) (negated : Bool) : Bool :=
  if mode.ofCharacters then !mode.folded else !negated

/-- The next character that counts behind a hyphen. A comment in between is not passed over: the
first character in it counts. -/
def peek (mode : Mode) (text : List Char) : Option Char :=
  if mode.spaced then
    match text.dropWhile Text.isBlank with
    | '#' :: rest => (rest.dropWhile Text.isBlank).head?
    | rest => rest.head?
  else text.head?

/-- The rest behind a character or a range. A hyphen before the closing bracket and a hyphen that
is part of an operator do not make a range. -/
def readRange? (mode : Mode) (text : List Char) : Option (List Char) :=
  (readMember? mode text).bind fun (first, behind) =>
    if !first.isMember mode then none
    else
      match mode.skip behind with
      | '-' :: rest =>
        if peek mode rest = some ']' ∨ peek mode rest = some '-' then some ('-' :: rest)
        else
          (readMember? mode (mode.skip rest)).bind fun (last, rest) =>
            match first, last with
            | .literal a _, .literal b _ =>
              if a ≤ b ∧ last.isMember mode then some rest else none
            | _, _ => none
      | rest => some rest

/-! ### Reading -/

/-- The rest behind the opening bracket and the caret that negates a class. What is not in a class
of bytes may be a part of a character, so such a class cannot be negated. -/
def begin? (mode : Mode) (text : List Char) : Option (List Char) :=
  let (negated, rest) := splitCaret (mode.skip text)
  if negated ∧ !mode.ofCharacters then none else some rest

/-- Where a step leads. -/
inductive Turn where
  /-- There are open classes, the innermost one apart. -/
  | inside (current : Open) (outer : List Open)
  /-- The outermost class is closed; its depth is known. -/
  | closed (depth : Nat)
deriving DecidableEq, Repr

/-- Closes the innermost class, which becomes a member of the one around it. -/
def close (current : Open) : List Open → Turn
  | [] => .closed (current.depth + 1)
  | next :: outer => .inside (next.add (current.depth + 1)) outer

/-- Takes one member, bracket or operator. -/
def step? (mode : Mode) (current : Open) (outer : List Open) (text : List Char) :
    Option (Turn × List Char) :=
  match mode.skip text with
  | [] => none
  | c :: rest =>
    if current.atStart ∧ (c = '-' ∨ c = ']' ∧ current.members = []) then
      if (Atom.literal c false).isMember mode then
        some (.inside { current.add 0 with atStart := c = '-' } outer, rest)
      else none
    else if c = ']' then some (close current outer, rest)
    else if c = '[' then
      match readNamed? rest with
      | some (negated, rest) =>
        if isNamedMember mode negated then some (.inside (current.add 0) outer, rest) else none
      | none =>
        (begin? mode rest).map (.inside .empty ({ current with atStart := false } :: outer), ·)
    else if (c = '&' ∨ c = '-' ∨ c = '~') ∧ rest.head? = some c then
      some (.inside current.operator outer, rest.tail)
    else (readRange? mode (c :: rest)).map (.inside (current.add 0) outer, ·)

/-! ### Lengths -/

theorem length_splitCaret_le (text : List Char) : (splitCaret text).2.length ≤ text.length := by
  unfold splitCaret
  split
  · exact Nat.le_succ _
  · exact Nat.le_refl _

theorem length_readNamed?_lt {text rest : List Char} {negated : Bool}
    (h : readNamed? text = some (negated, rest)) : rest.length < text.length := by
  unfold readNamed? at h
  split at h
  · rename_i t
    have hs := length_splitCaret_le t
    have hd : ((splitCaret t).2.dropWhile (· ≠ ':')).length ≤ (splitCaret t).2.length :=
      (List.dropWhile_sublist _).length_le
    dsimp only at h
    split at h
    · rename_i r heq
      rw [heq] at hd
      split at h
      · cases h
        simp only [List.length_cons] at hd ⊢
        omega
      · cases h
    · cases h
  · cases h

theorem length_readRange?_lt {mode : Mode} {text rest : List Char}
    (h : readRange? mode text = some rest) : rest.length < text.length := by
  obtain ⟨⟨first, behind⟩, hf, h⟩ := Option.bind_eq_some_iff.1 h
  have lf := length_readMember?_lt hf
  have ls := mode.length_skip_le behind
  dsimp only at h
  split at h
  · cases h
  · split at h
    · rename_i r heq
      rw [heq] at ls
      simp only [List.length_cons] at ls
      split at h
      · cases h
        simp only [List.length_cons]
        omega
      · obtain ⟨⟨last, t⟩, hl, h⟩ := Option.bind_eq_some_iff.1 h
        have ll := length_readMember?_lt hl
        have lr := mode.length_skip_le r
        dsimp only at h
        split at h
        · split at h
          · cases h; omega
          · cases h
        · cases h
    · cases h; omega

theorem length_begin?_le {mode : Mode} {text rest : List Char}
    (h : begin? mode text = some rest) : rest.length ≤ text.length := by
  have hs := length_splitCaret_le (mode.skip text)
  have ls := mode.length_skip_le text
  unfold begin? at h
  dsimp only at h
  split at h
  · cases h
  · cases h; omega

theorem length_step?_lt {mode : Mode} {current : Open} {outer : List Open} {turn : Turn}
    {text rest : List Char} (h : step? mode current outer text = some (turn, rest)) :
    rest.length < text.length := by
  have hs := mode.length_skip_le text
  unfold step? at h
  split at h
  · cases h
  · rename_i c t heq
    rw [heq] at hs
    simp only [List.length_cons] at hs
    split at h
    · split at h
      · cases h; omega
      · cases h
    · split at h
      · cases h; omega
      · split at h
        · split at h
          · rename_i hn
            have := length_readNamed?_lt hn
            split at h
            · cases h; omega
            · cases h
          · obtain ⟨r, hr, h⟩ := Option.map_eq_some_iff.1 h
            cases h
            have := length_begin?_le hr
            omega
        · split at h
          · cases h
            simp only [List.length_tail]
            omega
          · obtain ⟨r, hr, h⟩ := Option.map_eq_some_iff.1 h
            cases h
            have := length_readRange?_lt hr
            simp only [List.length_cons] at this
            omega

/-! ### The whole class -/

/-- The depth of the outermost of some open classes, and the rest behind its closing bracket. -/
def readFrom? (mode : Mode) (current : Open) (outer : List Open) (text : List Char) :
    Option (Nat × List Char) :=
  match _h : step? mode current outer text with
  | none => none
  | some (.closed depth, rest) => some (depth, rest)
  | some (.inside current outer, rest) => readFrom? mode current outer rest
termination_by text.length
decreasing_by exact length_step?_lt _h

theorem length_readFrom?_lt {mode : Mode} {current : Open} {outer : List Open} {depth : Nat}
    {text rest : List Char} (h : readFrom? mode current outer text = some (depth, rest)) :
    rest.length < text.length := by
  fun_induction readFrom? mode current outer text with
  | case1 => cases h
  | case2 => cases h; exact length_step?_lt ‹_›
  | case3 _ _ _ _ _ _ hs ih => exact Nat.lt_trans (ih h) (length_step?_lt hs)

/-- The depth of a class and the rest behind it. The opening bracket has been taken. -/
def read? (mode : Mode) (text : List Char) : Option (Nat × List Char) :=
  (begin? mode text).bind (readFrom? mode .empty [])

theorem length_read?_lt {mode : Mode} {depth : Nat} {text rest : List Char}
    (h : read? mode text = some (depth, rest)) : rest.length < text.length := by
  obtain ⟨t, ht, h⟩ := Option.bind_eq_some_iff.1 h
  exact Nat.lt_of_lt_of_le (length_readFrom?_lt h) (length_begin?_le ht)

end OneShot.Pattern.CharClass
