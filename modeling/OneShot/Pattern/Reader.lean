import OneShot.Pattern.CharClass
import OneShot.Text.Alphanumeric

/-!
# Reading patterns

A pattern is a sequence of atoms, classes and groups in parentheses, some of them repeated, with
bars between alternatives. Groups nest to any depth; those that are open are kept on a stack.

Flags have the form of a group. Alone they change the mode up to the end of the group around them,
and in front of a colon up to the end of their own.

## Main definitions

* `Opening`, `readOpening?` — what an opening parenthesis begins
* `State`, `State.step?` — what is known in the middle of a pattern, and how one part changes it
* `isWellFormed` — whether a text is a pattern
-/

namespace OneShot.Pattern

/-! ### Openings -/

/-- What an opening parenthesis begins. -/
inductive Opening where
  /-- Flags that stand alone, and the mode they set. -/
  | flags (mode : Mode)
  /-- A group with a mode of its own, and perhaps a name. -/
  | group (mode : Mode) (name : Option (List Char))
deriving DecidableEq, Repr

/-- Whether a text may be the name of a group. -/
def isName (text : List Char) : Bool :=
  match text with
  | [] => false
  | c :: rest =>
    (c = '_' ∨ Text.isAlphabetic c) ∧
      rest.all fun c => c = '_' ∨ c = '.' ∨ c = '[' ∨ c = ']' ∨ Text.isAlphanumeric c

/-- A group behind the angle bracket in front of its name. -/
def readNamedGroup? (mode : Mode) (text : List Char) : Option (Opening × List Char) :=
  let name := text.takeWhile (· ≠ '>')
  match text.dropWhile (· ≠ '>') with
  | [] => none
  | _ :: rest => if isName name then some (.group mode (some name), rest) else none

/-- Flags behind the question mark in front of them, and the parenthesis or colon that ends them. -/
def readFlags? (mode : Mode) (text : List Char) : Option (Opening × List Char) :=
  let isFlag (c : Char) : Bool := c ≠ ':' ∧ c ≠ ')'
  let flags := text.takeWhile isFlag
  match text.dropWhile isFlag with
  | [] => none
  | c :: rest =>
    if !Mode.areFlags flags then none
    else if c = ':' then some (.group (mode.set flags) none, rest)
    else if flags = [] then none
    else some (.flags (mode.set flags), rest)

/-- What an opening parenthesis begins, which has been taken. -/
def readOpening? (mode : Mode) (text : List Char) : Option (Opening × List Char) :=
  match mode.skip text with
  | '?' :: 'P' :: '<' :: rest => readNamedGroup? mode rest
  | '?' :: '<' :: rest => readNamedGroup? mode rest
  | '?' :: rest => readFlags? mode rest
  | rest => some (.group mode none, rest)

/-! ### Groups -/

/-- A group whose closing parenthesis is still to come, or the whole pattern. -/
structure Group where
  /-- The mode behind the group. -/
  modeBehind : Mode
  /-- The depths of the alternatives before the last bar. -/
  branches : List Nat
  /-- The depths of the parts behind the last bar, last first. Flags are parts that have no depth
  and cannot be repeated. -/
  parts : List (Option Nat)
deriving DecidableEq, Repr

namespace Group

/-- A group behind its opening parenthesis. -/
def empty (modeBehind : Mode) : Group := ⟨modeBehind, [], []⟩

/-- A group with another part. -/
def add (group : Group) (part : Option Nat) : Group := { group with parts := part :: group.parts }

/-- The depth of the alternative behind the last bar. -/
def branch (group : Group) : Nat := depthOfSeries (group.parts.map (·.getD 0))

/-- The depth of all alternatives. -/
def depth (group : Group) : Nat := depthOfSeries (group.branch :: group.branches)

/-- A group behind another bar. -/
def bar (group : Group) : Group := ⟨group.modeBehind, group.branch :: group.branches, []⟩

/-- A group whose last part is repeated. -/
def repeated? (group : Group) : Option Group :=
  match group.parts with
  | some depth :: parts => some { group with parts := some (depth + 1) :: parts }
  | _ => none

end Group

/-! ### States -/

/-- What is known in the middle of a pattern. -/
structure State where
  mode : Mode
  /-- The names of the groups so far. -/
  names : List (List Char)
  /-- The innermost group that is open. -/
  current : Group
  /-- The groups around it. -/
  outer : List Group
deriving DecidableEq, Repr

namespace State

/-- The state at the beginning of a pattern. -/
def initial : State := ⟨.initial, [], .empty .initial, []⟩

/-- The state behind an atom or a class. -/
def add (state : State) (depth : Nat) : State :=
  { state with current := state.current.add (some depth) }

/-- The state behind an opening. Two groups cannot have the same name. -/
def opened? (state : State) : Opening → Option State
  | .flags mode => some { state with mode := mode, current := state.current.add none }
  | .group mode name =>
    if ∃ n ∈ name, n ∈ state.names then none
    else
      some ⟨mode, name.toList ++ state.names, .empty state.mode, state.current :: state.outer⟩

/-- The state behind a closing parenthesis. -/
def closed? (state : State) : Option State :=
  match state.outer with
  | [] => none
  | group :: outer =>
    some ⟨state.current.modeBehind, state.names, group.add (some (state.current.depth + 1)), outer⟩

/-- Takes one part of a pattern. The question mark behind a sign of repetition, which makes it
reluctant, goes with it. Repetition between given bounds is not known. -/
def step? (state : State) (text : List Char) : Option (State × List Char) :=
  match state.mode.skip text with
  | [] => none
  | c :: rest =>
    if c = '(' then
      (readOpening? state.mode rest).bind fun (opening, rest) =>
        (state.opened? opening).map (·, rest)
    else if c = ')' then state.closed?.map (·, rest)
    else if c = '|' then some ({ state with current := state.current.bar }, rest)
    else if c = '[' then
      (CharClass.read? state.mode rest).map fun (depth, rest) => (state.add depth, rest)
    else if c = '?' ∨ c = '*' ∨ c = '+' then
      state.current.repeated?.map fun group =>
        ({ state with current := group }, if rest.head? = some '?' then rest.tail else rest)
    else if c = '{' then none
    else
      (readAtom? state.mode (c :: rest)).bind fun (atom, rest) =>
        if atom.isSupported state.mode then some (state.add 0, rest) else none

/-- Whether a pattern may end: no group is open, and the whole is not too deep. -/
def mayEnd (state : State) : Bool := state.outer = [] ∧ state.current.depth ≤ maxDepth

end State

/-! ### Lengths -/

theorem length_readNamedGroup?_le {mode : Mode} {opening : Opening} {text rest : List Char}
    (h : readNamedGroup? mode text = some (opening, rest)) : rest.length ≤ text.length := by
  have hd : (text.dropWhile (· ≠ '>')).length ≤ text.length :=
    (List.dropWhile_sublist _).length_le
  unfold readNamedGroup? at h
  dsimp only at h
  split at h
  · cases h
  · rename_i heq
    rw [heq] at hd
    split at h
    · cases h; exact Nat.le_of_succ_le hd
    · cases h

theorem length_readFlags?_le {mode : Mode} {opening : Opening} {text rest : List Char}
    (h : readFlags? mode text = some (opening, rest)) : rest.length ≤ text.length := by
  have hd : (text.dropWhile fun c => c ≠ ':' ∧ c ≠ ')').length ≤ text.length :=
    (List.dropWhile_sublist _).length_le
  unfold readFlags? at h
  dsimp only at h
  split at h
  · cases h
  · rename_i heq
    rw [heq] at hd
    split at h
    · cases h
    · split at h
      · cases h; exact Nat.le_of_succ_le hd
      · split at h
        · cases h
        · cases h; exact Nat.le_of_succ_le hd

theorem length_readOpening?_le {mode : Mode} {opening : Opening} {text rest : List Char}
    (h : readOpening? mode text = some (opening, rest)) : rest.length ≤ text.length := by
  have hs := mode.length_skip_le text
  unfold readOpening? at h
  split at h
  · rename_i heq
    rw [heq] at hs
    have := length_readNamedGroup?_le h
    simp only [List.length_cons] at hs
    omega
  · rename_i heq
    rw [heq] at hs
    have := length_readNamedGroup?_le h
    simp only [List.length_cons] at hs
    omega
  · rename_i heq
    rw [heq] at hs
    have := length_readFlags?_le h
    simp only [List.length_cons] at hs
    omega
  · cases h; exact hs

theorem State.length_step?_lt {state state' : State} {text rest : List Char}
    (h : state.step? text = some (state', rest)) : rest.length < text.length := by
  have hs := state.mode.length_skip_le text
  unfold State.step? at h
  split at h
  · cases h
  · rename_i c t heq
    rw [heq] at hs
    simp only [List.length_cons] at hs
    split at h
    · obtain ⟨⟨opening, r⟩, hr, h⟩ := Option.bind_eq_some_iff.1 h
      obtain ⟨_, _, h⟩ := Option.map_eq_some_iff.1 h
      cases h
      have := length_readOpening?_le hr
      omega
    · split at h
      · obtain ⟨_, _, h⟩ := Option.map_eq_some_iff.1 h
        cases h; omega
      · split at h
        · cases h; omega
        · split at h
          · obtain ⟨⟨depth, r⟩, hr, h⟩ := Option.map_eq_some_iff.1 h
            cases h
            have := CharClass.length_read?_lt hr
            omega
          · split at h
            · obtain ⟨_, _, h⟩ := Option.map_eq_some_iff.1 h
              cases h
              split
              · simp only [List.length_tail]; omega
              · omega
            · split at h
              · cases h
              · obtain ⟨⟨atom, r⟩, hr, h⟩ := Option.bind_eq_some_iff.1 h
                have := length_readAtom?_lt hr
                dsimp only at h
                split at h
                · cases h
                  simp only [List.length_cons] at this
                  omega
                · cases h

/-! ### The whole pattern -/

/-- Whether a text completes a pattern that has been read up to a state. -/
def State.isCompletedBy (state : State) (text : List Char) : Bool :=
  if state.mode.skip text = [] then state.mayEnd
  else
    match _h : state.step? text with
    | none => false
    | some (state, rest) => state.isCompletedBy rest
termination_by text.length
decreasing_by exact State.length_step?_lt _h

/-- Whether a text is a pattern. -/
def isWellFormed (text : List Char) : Bool := State.initial.isCompletedBy text

end OneShot.Pattern
