import Mathlib.Tactic.SplitIfs
import OneShot.Json.Writer
import OneShot.Proofs.Text.Utf8

/-!
# Readers on written texts

What a reader makes of bytes that were written for it. `Reader.Gives` says that a reader takes
exactly these bytes, whatever stands behind them, and comes to a given result: either what is read,
or the cause of the fault. The result is given as a whole, because a text that was written need not
read back: it may hold a number that is out of range.

A series of items is read item by item, so its result is the monadic fold of the results of the
items, `series_gives`; and the first item that is refused is the one that counts.

## Main definitions

* `Stops` — what may stand behind a value
* `Reader.Gives` — the result of a reader on given bytes
* `Bracket.series` — items as they stand between two brackets

## Main results

* `series_gives`, `items_gives` — the results on series
* `document_gives`, `document_line` — the result on a whole input, and on the line of a value
-/

namespace OneShot.Json

/-! ### Results of readers -/

/-- Renaming the faults does not change what is read. -/
theorem eq_ok_iff_of_mapError {ε ε' α : Type} {x : Except ε α} {f : ε → ε'} {y : Except ε' α}
    (h : x.mapError f = y) {a : α} : x = .ok a ↔ y = .ok a := by
  rw [← h, mapError_eq_ok]

/-- Where everything but one case is a fault. -/
theorem ite_error_eq_ok_iff {ε α : Type} {p : Prop} [Decidable p] {x : Except ε α} {error : ε}
    {a : α} : (if p then x else .error error) = .ok a ↔ p ∧ x = .ok a := by
  split_ifs with hp
  · rw [and_iff_right hp]
  · constructor
    · intro h
      cases h
    · intro h
      exact absurd h.1 hp

/-- What stands behind a value: nothing, white space, a comma or a closing bracket. -/
def Stops (s : Bytes) : Prop :=
  ∀ b ∈ s.head?, isSpace b = true ∨ b = byte ',' ∨ b = byte ']' ∨ b = byte '}'

theorem stops_nil : Stops [] := by
  rintro _ ⟨⟩

theorem stops_comma (s : Bytes) : Stops (byte ',' :: s) := by
  rintro _ ⟨⟩
  exact .inr (.inl rfl)

theorem stops_closing (bracket : Bracket) (s : Bytes) : Stops (bracket.closing :: s) := by
  rintro _ ⟨⟩
  cases bracket
  · exact .inr (.inr (.inl rfl))
  · exact .inr (.inr (.inr rfl))

theorem stops_newline : Stops [byte '\n'] := by
  rintro _ ⟨⟩
  exact .inl rfl

/-- A result that leaves the given rest behind, as it comes out of a reader. -/
def Leaves {α : Type} (read : Except Fault (α × Bytes)) (result : Except Cause α) (rest : Bytes) :
    Prop :=
  read.mapError Fault.cause = result.map (·, rest)

theorem leaves_ok_iff {α : Type} {read : Except Fault (α × Bytes)} {a : α} {rest : Bytes} :
    Leaves read (.ok a) rest ↔ read = .ok (a, rest) := by
  cases read with
  | error fault => exact ⟨nofun, nofun⟩
  | ok p => exact ⟨fun h => by cases h; rfl, fun h => by cases h; rfl⟩

theorem leaves_error_iff {α : Type} {read : Except Fault (α × Bytes)} {cause : Cause}
    {rest : Bytes} :
    Leaves read (.error cause) rest ↔ ∃ fault, read = .error fault ∧ fault.cause = cause := by
  cases read with
  | error fault =>
    constructor
    · intro h
      cases h
      exact ⟨fault, rfl, rfl⟩
    · rintro ⟨_, ⟨⟩, rfl⟩
      rfl
  | ok p => exact ⟨nofun, nofun⟩

theorem Leaves.bind {α β : Type} {read : Except Fault (α × Bytes)} {result : Except Cause α}
    {rest rest' : Bytes} {f : α × Bytes → Except Fault (β × Bytes)} {g : α → Except Cause β}
    (h : Leaves read result rest) (hf : ∀ a, result = .ok a → Leaves (f (a, rest)) (g a) rest') :
    Leaves (read.bind f) (result.bind g) rest' := by
  cases result with
  | error cause =>
    obtain ⟨fault, rfl, rfl⟩ := leaves_error_iff.1 h
    rfl
  | ok a =>
    rw [leaves_ok_iff.1 h]
    exact hf a rfl

theorem Leaves.map {α β : Type} {read : Except Fault (α × Bytes)} {result : Except Cause α}
    {rest : Bytes} (h : Leaves read result rest) (f : α → β) :
    Leaves (read.map fun p => (f p.1, p.2)) (result.map f) rest := by
  cases result with
  | error cause =>
    obtain ⟨fault, rfl, rfl⟩ := leaves_error_iff.1 h
    rfl
  | ok a =>
    rw [leaves_ok_iff.1 h]
    rfl

/-- Placing a fault elsewhere does not change its cause. -/
theorem Leaves.mapError {α : Type} {read : Except Fault (α × Bytes)} {result : Except Cause α}
    {rest : Bytes} (h : Leaves read result rest) {place : Fault → Fault}
    (hplace : ∀ fault, (place fault).cause = fault.cause) :
    Leaves (read.mapError place) result rest := by
  cases result with
  | error cause =>
    obtain ⟨fault, rfl, rfl⟩ := leaves_error_iff.1 h
    exact leaves_error_iff.2 ⟨place fault, rfl, hplace fault⟩
  | ok a =>
    rw [leaves_ok_iff.1 h]
    rfl

/-- What a reader makes of the bytes `s`: it takes them, and no more, whatever stands behind. -/
def Reader.Gives {α : Type} (r : Reader α) (s : Bytes) (result : Except Cause α) : Prop :=
  ∀ rest, Stops rest → Leaves (r.run (s ++ rest)) result rest

theorem Reader.Gives.map {α β : Type} {r : Reader α} {s : Bytes} {result : Except Cause α}
    (h : r.Gives s result) (f : α → β) : (r.map f).Gives s (result.map f) :=
  fun rest hrest => (h rest hrest).map f

/-! ### What stands between brackets -/

namespace Bracket

/-- What is taken of an item before the item is read. -/
def lead : Bracket → Bytes
  | square => []
  | brace => [byte '"']

/-- The bytes of an item that may stand behind an opening bracket or a comma. -/
def Admits : Bracket → Bytes → Prop
  | square, s => ∃ b rest, s = b :: rest ∧ isSpace b = false ∧ b ≠ byte ']'
  | brace, _ => True

/-- The items of a list as they stand between brackets. -/
def series {β : Type} (bracket : Bracket) (body : β → Bytes) : List β → Bytes
  | [] => []
  | b :: more =>
    bracket.lead ++ body b ++ more.flatMap fun b => byte ',' :: (bracket.lead ++ body b)

theorem series_map {β γ : Type} (bracket : Bracket) (body : γ → Bytes) (f : β → γ) (bs : List β) :
    bracket.series body (bs.map f) = bracket.series (fun b => body (f b)) bs := by
  cases bs with
  | nil => rfl
  | cons b more => rw [List.map_cons, series, series, List.flatMap_map]

theorem skipSpace_cons {b : UInt8} (h : isSpace b = false) (s : Bytes) :
    skipSpace (b :: s) = b :: s := by
  rw [skipSpace, List.dropWhile_cons_of_neg (by rw [h]; exact Bool.false_ne_true)]

/-- The first byte of an item is neither white space nor a closing bracket. -/
theorem exists_head_of_admits {bracket : Bracket} {s : Bytes} (h : bracket.Admits s)
    (rest : Bytes) :
    ∃ b t, bracket.lead ++ s ++ rest = b :: t ∧ isSpace b = false ∧ b ≠ bracket.closing ∧
      bracket.begin (b :: t) = .ok (.item (s ++ rest)) := by
  cases bracket with
  | square =>
    obtain ⟨b, t, rfl, hspace, hclose⟩ := h
    exact ⟨b, t ++ rest, rfl, hspace, hclose, rfl⟩
  | brace => exact ⟨byte '"', s ++ rest, rfl, rfl, by decide, rfl⟩

theorem first_item {bracket : Bracket} {s : Bytes} (h : bracket.Admits s) (rest : Bytes) :
    bracket.first (bracket.lead ++ s ++ rest) = .ok (.item (s ++ rest)) := by
  obtain ⟨b, t, hbt, hspace, hclose, hbegin⟩ := exists_head_of_admits h rest
  rw [first, hbt, skipSpace_cons hspace]
  dsimp only
  rw [if_neg hclose, hbegin]

theorem next_item {bracket : Bracket} {s : Bytes} (h : bracket.Admits s) (rest : Bytes) :
    bracket.next (byte ',' :: (bracket.lead ++ s ++ rest)) = .ok (.item (s ++ rest)) := by
  obtain ⟨b, t, hbt, hspace, hclose, hbegin⟩ := exists_head_of_admits h rest
  rw [next, skipSpace_cons (by rfl)]
  dsimp only
  rw [if_neg (by cases bracket <;> decide), if_pos rfl, hbt, skipSpace_cons hspace,
    if_neg (by rw [List.head?_cons]; exact fun h => hclose (Option.some.inj h)), hbegin]

theorem isSpace_closing (bracket : Bracket) : isSpace bracket.closing = false := by
  cases bracket <;> rfl

theorem first_close (bracket : Bracket) (rest : Bytes) :
    bracket.first (bracket.closing :: rest) = .ok (.close rest) := by
  rw [first, skipSpace_cons bracket.isSpace_closing]
  exact if_pos rfl

theorem next_close (bracket : Bracket) (rest : Bytes) :
    bracket.next (bracket.closing :: rest) = .ok (.close rest) := by
  rw [next, skipSpace_cons bracket.isSpace_closing]
  exact if_pos rfl

end Bracket

/-! ### Series of items -/

section Series

variable {σ β : Type} {bracket : Bracket} {item : σ → Reader σ} {body : β → Bytes}
  {step : σ → β → Except Cause σ}

/-- One turn of the loop over the items. -/
theorem seriesFrom_eq (state : σ) (s : Bytes) :
    seriesFrom bracket item state s =
      ((item state).run s).bind fun p => (bracket.next p.2).bind fun
        | .close rest => .ok (p.1, rest)
        | .item rest => seriesFrom bracket item p.1 rest := by
  rw [seriesFrom]
  split
  · rename_i hrun
    rw [hrun]
    rfl
  · rename_i hrun
    rw [hrun]
    dsimp only [Except.bind]
    split <;> rename_i hnext <;> rw [hnext]

theorem seriesFrom_gives {bs : List β} {b : β}
    (hbody : ∀ c ∈ bs, bracket.Admits (body c))
    (hitem : ∀ state, ∀ c ∈ b :: bs, (item state).Gives (body c) (step state c)) (state : σ)
    (rest : Bytes) :
    Leaves (seriesFrom bracket item state
        (body b ++ ((bs.flatMap fun c => byte ',' :: (bracket.lead ++ body c)) ++
          bracket.closing :: rest)))
      ((b :: bs).foldlM step state) rest := by
  induction bs generalizing b state with
  | nil =>
    have hb := hitem state b List.mem_cons_self _ (stops_closing bracket rest)
    rw [seriesFrom_eq, List.foldlM_cons]
    refine hb.bind fun state' _ => ?_
    rw [Bracket.next_close]
    rfl
  | cons c cs ih =>
    have hb := hitem state b List.mem_cons_self _ (stops_comma (bracket.lead ++ body c ++
      ((cs.flatMap fun c => byte ',' :: (bracket.lead ++ body c)) ++ bracket.closing :: rest)))
    rw [seriesFrom_eq, List.foldlM_cons, List.flatMap_cons, List.cons_append, List.cons_append,
      List.append_assoc]
    refine hb.bind fun state' _ => ?_
    rw [Bracket.next_item (hbody c List.mem_cons_self)]
    exact ih (fun d hd => hbody d (List.mem_cons_of_mem c hd))
      (fun state d hd => hitem state d (List.mem_cons_of_mem b hd)) state'

/-- **A series is read item by item.** -/
theorem series_gives {bs : List β} (hbody : ∀ b ∈ bs, bracket.Admits (body b))
    (hitem : ∀ state, ∀ b ∈ bs, (item state).Gives (body b) (step state b)) (state : σ)
    (rest : Bytes) :
    Leaves (series bracket item state (bracket.series body bs ++ bracket.closing :: rest))
      (bs.foldlM step state) rest := by
  cases bs with
  | nil =>
    rw [Bracket.series, List.nil_append, series, Bracket.first_close]
    rfl
  | cons b bs =>
    rw [Bracket.series, series, List.append_assoc,
      Bracket.first_item (hbody b List.mem_cons_self)]
    exact seriesFrom_gives (fun c hc => hbody c (List.mem_cons_of_mem b hc)) hitem state rest

/-- Two items, the second of which is read in the state in which the first leaves off. -/
theorem series_pair {s t : Bytes} {state state' state'' : σ} (hs : bracket.Admits s)
    (ht : bracket.Admits t) (h : (item state).Gives s (.ok state'))
    (h' : (item state').Gives t (.ok state'')) (rest : Bytes) :
    series bracket item state
        (bracket.lead ++ s ++ byte ',' :: (bracket.lead ++ t ++ bracket.closing :: rest)) =
      .ok (state'', rest) := by
  have hfirst := leaves_ok_iff.1 (h _ (stops_comma (bracket.lead ++ t ++
    bracket.closing :: rest)))
  have hsecond := leaves_ok_iff.1 (h' _ (stops_closing bracket rest))
  rw [series, Bracket.first_item hs]
  dsimp only [Except.bind]
  rw [seriesFrom_eq, hfirst]
  dsimp only [Except.bind]
  rw [Bracket.next_item ht]
  dsimp only
  rw [seriesFrom_eq, hsecond]
  dsimp only [Except.bind]
  rw [Bracket.next_close]

end Series

section Items

variable {α β : Type} {bracket : Bracket} {item : Reader α} {body : β → Bytes}
  {f : β → Except Cause α}

theorem foldlM_cons_eq_mapM (bs : List β) (read : List α) :
    (bs.foldlM (fun read b => (f b).map (· :: read)) read).map List.reverse =
      (bs.mapM f).map (read.reverse ++ ·) := by
  induction bs generalizing read with
  | nil => simp [Except.map, pure, Except.pure]
  | cons b bs ih =>
    rw [List.foldlM_cons, List.mapM_cons]
    cases hb : f b with
    | error cause => rfl
    | ok a =>
      refine (ih (a :: read)).trans ?_
      cases bs.mapM f with
      | error cause => rfl
      | ok as =>
        change Except.ok ((a :: read).reverse ++ as) = Except.ok (read.reverse ++ a :: as)
        rw [List.reverse_cons, List.append_assoc]
        rfl

/-- The items of a list, each of which is read on its own. -/
theorem items_gives {bs : List β} (hbody : ∀ b ∈ bs, bracket.Admits (body b))
    (hitem : ∀ b ∈ bs, item.Gives (body b) (f b)) (rest : Bytes) :
    Leaves (items bracket item (bracket.series body bs ++ bracket.closing :: rest))
      (bs.mapM f) rest := by
  have hseries := series_gives hbody (fun read b hb => (hitem b hb).map (· :: read)) [] rest
  have hmap := hseries.map List.reverse
  rw [foldlM_cons_eq_mapM] at hmap
  cases hresult : bs.mapM f with
  | error cause =>
    rw [hresult] at hmap
    exact hmap
  | ok as =>
    rw [hresult] at hmap
    exact hmap

end Items

/-! ### Invariants of series -/

section Invariant

variable {σ : Type} {bracket : Bracket} {item : σ → Reader σ} {P : σ → Prop}

/-- What every item keeps, whatever the bytes, a series keeps. -/
theorem seriesFrom_keeps
    (hitem : ∀ {state s state' rest}, P state → (item state).run s = .ok (state', rest) → P state')
    {state state' : σ} {s rest : Bytes} (hstate : P state)
    (h : seriesFrom bracket item state s = .ok (state', rest)) : P state' := by
  fun_induction seriesFrom bracket item state s with
  | case1 | case2 => cases h
  | case3 state s state'' rest' hrun rest'' hn =>
    cases h
    exact hitem hstate hrun
  | case4 state s state'' rest' hrun rest'' hn ih => exact ih (hitem hstate hrun) h

theorem series_keeps
    (hitem : ∀ {state s state' rest}, P state → (item state).run s = .ok (state', rest) → P state')
    {state state' : σ} {s rest : Bytes} (hstate : P state)
    (h : series bracket item state s = .ok (state', rest)) : P state' := by
  obtain ⟨turn, -, hturn⟩ := bind_eq_ok.1 h
  cases turn with
  | close r =>
    cases hturn
    exact hstate
  | item r => exact seriesFrom_keeps hitem hstate hturn

/-- Every item of a list has what the reader of items makes sure of. -/
theorem forall_of_items {α : Type} {item : Reader α} {Q : α → Prop}
    (hitem : ∀ {s a rest}, item.run s = .ok (a, rest) → Q a) {s rest : Bytes} {as : List α}
    (h : items bracket item s = .ok (as, rest)) : ∀ a ∈ as, Q a := by
  obtain ⟨⟨read, r⟩, hseries, heq⟩ := map_eq_ok.1 h
  cases heq
  have hread : ∀ a ∈ read, Q a := by
    refine series_keeps (P := fun read => ∀ a ∈ read, Q a) ?_ (List.forall_mem_nil Q) hseries
    intro read s read' rest hread hrun
    obtain ⟨⟨a, r⟩, ha, heq⟩ := map_eq_ok.1 hrun
    cases heq
    exact List.forall_mem_cons.2 ⟨hitem ha, hread⟩
  exact fun a ha => hread a (List.mem_reverse.1 ha)

end Invariant

/-! ### Whole inputs -/

/-- A whole input, which may end with a line feed. -/
theorem document_gives {α : Type} {reader : Reader α} {s : Bytes} {result : Except Cause α}
    (h : reader.Gives s result) {rest : Bytes} (hstops : Stops rest)
    (hrest : skipSpace rest = []) :
    (document reader (s ++ rest)).mapError Fault.cause = result := by
  have hrun := h rest hstops
  rw [document]
  cases result with
  | error cause =>
    obtain ⟨fault, heq, rfl⟩ := leaves_error_iff.1 hrun
    rw [heq]
    rfl
  | ok a =>
    rw [leaves_ok_iff.1 hrun]
    dsimp only [Except.bind]
    rw [finish, hrest]
    rfl

/-- A value on a line of its own. -/
theorem document_line {α : Type} {reader : Reader α} {value : Value} {result : Except Cause α}
    (h : reader.Gives (Utf8.ofChars value.write) result) :
    (document reader (Utf8.encode (value.text ++ "\n"))).mapError Fault.cause = result := by
  have hline : Utf8.encode (value.text ++ "\n") = Utf8.ofChars value.write ++ [byte '\n'] := by
    rw [Utf8.encode_append, Value.text, Utf8.encode_ofList]
    rfl
  rw [hline]
  exact document_gives h stops_newline rfl

end OneShot.Json
