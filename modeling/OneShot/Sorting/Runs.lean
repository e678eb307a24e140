import OneShot.Sorting.Short

/-!
# Sorting by runs

A list is cut into runs, and neighbouring runs are joined until one is left. Which of them are
joined first is decided by a tree over the positions in the list: the point between two runs has a
depth in this tree, and runs are joined at deep points first.

A run is what the list has in order, if that is long enough. Otherwise a run is made: here, by
sorting 32 elements. So all runs are in order as soon as they are cut.

## Main definitions

* `naturalRun` — the beginning of a list that is in order, one way or the other
* `cutRuns` — the runs of a list
* `joinRuns` — neighbouring runs joined, in the order of the tree
* `sortByRuns` — both together, for runs of any kind
* `sortEagerly` — the sort with runs that are in order
-/

namespace OneShot.Sorting

variable {α ρ : Type}

/-! ### Runs -/

/-- What goes on from an element: the longest beginning of a list in which each element follows the
one before, and the remaining list. -/
def streak (follows : α → α → Bool) : α → List α → List α × List α
  | _, [] => ([], [])
  | x, y :: rest =>
    if follows x y then
      let (run, rest) := streak follows y rest
      (y :: run, rest)
    else ([], y :: rest)

/-- The longest beginning of a list that rises or strictly falls, in rising order, and the remaining
list. -/
def naturalRun (less : α → α → Bool) : List α → List α × List α
  | x :: y :: rest =>
    if less y x then
      let (run, rest) := streak (flip less) x (y :: rest)
      ((x :: run).reverse, rest)
    else
      let (run, rest) := streak (fun x y => !less y x) x (y :: rest)
      (x :: run, rest)
  | xs => (xs, [])

/-- The length from which on a natural run is long enough, for a list of a given length: half of the
list, or 64, or about the square root of the length. -/
def enough (length : Nat) : Nat :=
  if length ≤ 4096 then min (length - length / 2) 64
  else
    let bits := (1 + length.log2) / 2
    (Nat.pow 2 bits + length / Nat.pow 2 bits) / 2

/-- Cuts a list into runs, one run after another, up to a number of runs. -/
def cutRuns (next : List α → Option (ρ × List α)) : Nat → List α → Option (List ρ)
  | _, [] => some []
  | 0, _ => some []
  | n + 1, xs => do
    let (run, rest) ← next xs
    let runs ← cutRuns next n rest
    return run :: runs

/-! ### The tree -/

/-- The scale by which positions in a list of a given length become numbers of 62 bits. -/
def scale (length : Nat) : Nat := (Nat.pow 2 62 + length - 1) / length

/-- The depth of the point between two neighbouring runs, which begin at `start` and `middle` and
end at `stop`: the number of leading bits of 64 in which the middles of both runs agree. -/
def depth (scale start middle stop : Nat) : Nat :=
  let bits := (scale * (start + middle)) ^^^ (scale * (middle + stop))
  if bits = 0 then 64 else 63 - bits.log2

section Tree

variable (join : ρ → ρ → Option ρ) (size : ρ → Nat)

/-- Joins a run with those that wait on its left, as long as the points between them are as deep as
the point on its right. -/
def collapse (depth : Nat) : List (ρ × Nat) → ρ → Option (List (ρ × Nat) × ρ)
  | (left, d) :: waiting, right =>
    if depth ≤ d then do
      collapse depth waiting (← join left right)
    else some ((left, d) :: waiting, right)
  | [], right => some ([], right)

/-- Joins runs. Those on the left of `last` wait, each with the depth of the point on its right, and
`last` begins at `start`. -/
def joinRuns (scale : Nat) : List (ρ × Nat) → Nat → ρ → List ρ → Option ρ
  | waiting, _, last, [] => (collapse join 0 waiting last).map (·.2)
  | waiting, start, last, next :: rest => do
    let middle := start + size last
    let depth := depth scale start middle (middle + size next)
    let (waiting, last) ← collapse join depth waiting last
    joinRuns scale ((last, depth) :: waiting) middle next rest

end Tree

/-- Cuts a list into runs, joins them, and makes a list of the run that is left. -/
def sortByRuns (next : List α → Option (ρ × List α)) (join : ρ → ρ → Option ρ) (size : ρ → Nat)
    (finish : ρ → Option (List α)) (xs : List α) : Option (List α) := do
  match ← cutRuns next xs.length xs with
  | [] => return []
  | run :: runs => finish (← joinRuns join size (scale xs.length) [] 0 run runs)

/-! ### Runs in order -/

variable (less : α → α → Bool)

/-- A run that is in order: a natural one, if it is long enough, or else a short one. -/
def eagerRun (enough : Nat) (xs : List α) : Option (List α × List α) :=
  let (run, rest) := naturalRun less xs
  if enough ≤ run.length then some (run, rest)
  else (sortShort less (xs.take 32)).map fun run => (run, xs.drop 32)

/-- Sorts a list by runs that are in order. -/
def sortEagerly (xs : List α) : Option (List α) :=
  sortByRuns (eagerRun less (enough xs.length)) (fun xs ys => some (merge less xs ys)) List.length
    some xs

end OneShot.Sorting
