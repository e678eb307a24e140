import OneShot.Proofs.Json.Sequence
import OneShot.Proofs.Json.Value

/-!
# What stands between two brackets

When a series of items is read with success, its text falls into items, each of which is read with
success, and turns between them. `ItemsAt` says so as a relation, without the state that the loop
carries along. Two readers of items are compared through it: if one takes what the other takes and
makes something else of it, then so do the readers of the lists, `items_eq_ok_iff_mapM`.

The reader of values comes to a value of each form in one way, and the bound on the depth has no
part in a scalar.

## Main definitions

* `ItemsAt` — the items up to the closing bracket
* `Value.IsScalar` — the values without brackets

## Main results

* `items_eq_ok_iff` — a list is read exactly if its items stand there
* `items_eq_ok_iff_mapM` — lists read by two readers that take the same bytes
* `Value.run_reader_eq_ok_number_iff`, `Value.run_reader_eq_ok_array_iff`,
  `Value.run_reader_eq_ok_object_iff` — where a number, an array or an object is read
* `document_eq_ok_iff` — a whole input
-/

namespace OneShot.Json

/-! ### Items -/

/-- The items up to the closing bracket, the first of which begins right here, and what is left
behind the bracket. -/
inductive ItemsAt {α : Type} (bracket : Bracket) (item : Reader α) :
    Bytes → List α → Bytes → Prop
  | last {s t rest : Bytes} {a : α} (run : item.run s = .ok (a, t))
      (next : bracket.next t = .ok (.close rest)) : ItemsAt bracket item s [a] rest
  | more {s t u rest : Bytes} {a : α} {as : List α} (run : item.run s = .ok (a, t))
      (next : bracket.next t = .ok (.item u)) (behind : ItemsAt bracket item u as rest) :
      ItemsAt bracket item s (a :: as) rest

section Items

variable {α β : Type} {bracket : Bracket} {item : Reader α} {item' : Reader β}
  {s rest : Bytes} {as : List α} {bs : List β}

theorem run_map_cons {read : List α} {a : α} {t : Bytes} (h : item.run s = .ok (a, t)) :
    (item.map (· :: read)).run s = .ok (a :: read, t) := by
  change (item.run s).map _ = _
  rw [h]
  rfl

theorem ItemsAt.of_seriesFrom {read read' : List α}
    (h : seriesFrom bracket (fun read => item.map (· :: read)) read s = .ok (read', rest)) :
    ∃ as, ItemsAt bracket item s as rest ∧ read' = as.reverse ++ read := by
  fun_induction seriesFrom bracket (fun read => item.map (· :: read)) read s with
  | case1 | case2 => cases h
  | case3 read s read'' t hrun rest' hnext =>
    obtain ⟨⟨a, t'⟩, ha, heq⟩ := map_eq_ok.1 hrun
    cases heq
    cases h
    exact ⟨[a], .last ha hnext, rfl⟩
  | case4 read s read'' t hrun u hnext ih =>
    obtain ⟨⟨a, t'⟩, ha, heq⟩ := map_eq_ok.1 hrun
    cases heq
    obtain ⟨as, has, rfl⟩ := ih h
    exact ⟨a :: as, .more ha hnext has, by rw [List.reverse_cons, List.append_assoc]; rfl⟩

theorem ItemsAt.seriesFrom_eq (h : ItemsAt bracket item s as rest) (read : List α) :
    seriesFrom bracket (fun read => item.map (· :: read)) read s =
      .ok (as.reverse ++ read, rest) := by
  induction h generalizing read with
  | last run next =>
    rw [Json.seriesFrom_eq, run_map_cons run]
    dsimp only [Except.bind]
    rw [next]
    rfl
  | more run next _ ih =>
    rw [Json.seriesFrom_eq, run_map_cons run]
    dsimp only [Except.bind]
    rw [next]
    dsimp only
    rw [ih, List.reverse_cons, List.append_assoc]
    rfl

/-- **A list is read exactly if its items stand there.** -/
theorem items_eq_ok_iff :
    items bracket item s = .ok (as, rest) ↔
      (bracket.first s = .ok (.close rest) ∧ as = []) ∨
        ∃ t, bracket.first s = .ok (.item t) ∧ ItemsAt bracket item t as rest := by
  constructor
  · intro h
    obtain ⟨⟨read, r⟩, hseries, heq⟩ := map_eq_ok.1 h
    cases heq
    obtain ⟨turn, hfirst, hturn⟩ := bind_eq_ok.1 hseries
    cases turn with
    | close r' =>
      cases hturn
      exact .inl ⟨hfirst, rfl⟩
    | item t =>
      obtain ⟨as, has, rfl⟩ := ItemsAt.of_seriesFrom hturn
      rw [List.append_nil, List.reverse_reverse]
      exact .inr ⟨t, hfirst, has⟩
  · rintro (⟨hfirst, rfl⟩ | ⟨t, hfirst, has⟩)
    · rw [items, series, hfirst]
      rfl
    · refine map_eq_ok.2 ⟨(as.reverse ++ [], rest), ?_, ?_⟩
      · rw [series, hfirst]
        exact has.seriesFrom_eq []
      · rw [List.append_nil, List.reverse_reverse]

/-! ### Two readers of the same items -/

section TwoReaders

variable {ε : Type} {f : α → Except ε β}
  (h : ∀ {s b rest}, item'.run s = .ok (b, rest) ↔ ∃ a, item.run s = .ok (a, rest) ∧ f a = .ok b)

include h

theorem itemsAt_iff_mapM :
    ItemsAt bracket item' s bs rest ↔
      ∃ as, ItemsAt bracket item s as rest ∧ as.mapM f = .ok bs := by
  constructor
  · intro hbs
    induction hbs with
    | last run next =>
      obtain ⟨a, ha, hb⟩ := h.1 run
      exact ⟨[a], .last ha next, mapM_cons_eq_ok_iff.2 ⟨_, [], hb, rfl, rfl⟩⟩
    | more run next _ ih =>
      obtain ⟨a, ha, hb⟩ := h.1 run
      obtain ⟨as, has, hbs⟩ := ih
      exact ⟨a :: as, .more ha next has, mapM_cons_eq_ok_iff.2 ⟨_, _, hb, hbs, rfl⟩⟩
  · rintro ⟨as, has, hbs⟩
    induction has generalizing bs with
    | last run next =>
      obtain ⟨b, bs', hb, hnil, rfl⟩ := mapM_cons_eq_ok_iff.1 hbs
      cases hnil
      exact .last (h.2 ⟨_, run, hb⟩) next
    | more run next _ ih =>
      obtain ⟨b, bs', hb, hbs', rfl⟩ := mapM_cons_eq_ok_iff.1 hbs
      exact .more (h.2 ⟨_, run, hb⟩) next (ih hbs')

/-- **Two readers of lists**, one of which makes something else of the items that the other
takes. -/
theorem items_eq_ok_iff_mapM :
    items bracket item' s = .ok (bs, rest) ↔
      ∃ as, items bracket item s = .ok (as, rest) ∧ as.mapM f = .ok bs := by
  simp only [items_eq_ok_iff, itemsAt_iff_mapM h]
  constructor
  · rintro (⟨hfirst, rfl⟩ | ⟨t, hfirst, as, has, hbs⟩)
    · exact ⟨[], .inl ⟨hfirst, rfl⟩, rfl⟩
    · exact ⟨as, .inr ⟨t, hfirst, has⟩, hbs⟩
  · rintro ⟨as, ⟨hfirst, rfl⟩ | ⟨t, hfirst, has⟩, hbs⟩
    · cases hbs
      exact .inl ⟨hfirst, rfl⟩
    · exact .inr ⟨t, hfirst, as, has, hbs⟩

end TwoReaders

end Items

/-! ### Values -/

/-- Neither an array nor an object. -/
def Value.IsScalar : Value → Prop
  | .array _ => False
  | .object _ => False
  | _ => True

theorem isScalar_of_readScalar {b : UInt8} {s rest : Bytes} {value : Value}
    (h : readScalar b s = .ok (value, rest)) : value.IsScalar := by
  rw [readScalar] at h
  split_ifs at h
  all_goals
    obtain ⟨p, hp, heq⟩ := map_eq_ok.1 h
    cases heq
    exact trivial

theorem readScalar_eq_ok_number_iff {b : UInt8} {s rest : Bytes} {value : Numeral} :
    readScalar b s = .ok (.number value, rest) ↔
      startsNumber b = true ∧ readNumeral (b :: s) = .ok (value, rest) := by
  constructor
  · intro h
    rw [readScalar] at h
    split_ifs at h with hn ht hf hb hquote
    all_goals
      obtain ⟨p, hp, heq⟩ := map_eq_ok.1 h
      cases heq
    exact ⟨hb, hp⟩
  · rintro ⟨hb, hread⟩
    obtain ⟨-, -, -, -, hn, ht, hf⟩ := not_starts_other hb
    rw [readScalar, if_neg hn, if_neg ht, if_neg hf, if_pos hb, hread]
    rfl

/-- **The forms of a value**: an array, an object or a scalar, by the first byte. -/
theorem readValue_eq_ok_iff {inner : Option (Reader Value)} {s rest : Bytes} {value : Value} :
    readValue inner s = .ok (value, rest) ↔ ∃ b t, skipSpace s = b :: t ∧
      ((b = byte '[' ∧ ∃ item values, inner = some item ∧
          items .square item t = .ok (values, rest) ∧ .array values = value) ∨
        (b = byte '{' ∧ ∃ item members, inner = some item ∧
          items .brace (memberReader item) t = .ok (members, rest) ∧ .object members = value) ∨
        b ≠ byte '[' ∧ b ≠ byte '{' ∧ readScalar b t = .ok (value, rest)) := by
  rw [readValue]
  cases skipSpace s with
  | nil =>
    constructor
    · intro h
      cases h
    · rintro ⟨_, _, ⟨⟩, -⟩
  | cons b t =>
    dsimp only
    constructor
    · intro h
      refine ⟨b, t, rfl, ?_⟩
      split_ifs at h with hsquare hbrace
      · cases inner with
        | none => cases h
        | some item =>
          obtain ⟨⟨values, r⟩, hvalues, heq⟩ := map_eq_ok.1 h
          cases heq
          exact .inl ⟨hsquare, item, values, rfl, hvalues, rfl⟩
      · cases inner with
        | none => cases h
        | some item =>
          obtain ⟨⟨members, r⟩, hmembers, heq⟩ := map_eq_ok.1 h
          cases heq
          exact .inr (.inl ⟨hbrace, item, members, rfl, hmembers, rfl⟩)
      · exact .inr (.inr ⟨hsquare, hbrace, h⟩)
    · rintro ⟨_, _, ⟨⟩, ⟨rfl, item, values, rfl, hvalues, rfl⟩ |
        ⟨rfl, item, members, rfl, hmembers, rfl⟩ | ⟨hsquare, hbrace, hscalar⟩⟩
      · rw [if_pos rfl]
        exact map_eq_ok.2 ⟨_, hvalues, rfl⟩
      · rw [if_neg (by decide), if_pos rfl]
        exact map_eq_ok.2 ⟨_, hmembers, rfl⟩
      · rw [if_neg hsquare, if_neg hbrace, hscalar]

namespace Value

variable {depth : Nat} {s rest : Bytes}

/-- Where a scalar is read, whatever the bound on the depth. -/
theorem run_reader_eq_ok_iff_of_isScalar {value : Value} (h : value.IsScalar) :
    (reader depth).run s = .ok (value, rest) ↔ ∃ b t, skipSpace s = b :: t ∧
      b ≠ byte '[' ∧ b ≠ byte '{' ∧ readScalar b t = .ok (value, rest) := by
  obtain ⟨inner, hrun⟩ := exists_run_reader depth
  rw [hrun, readValue_eq_ok_iff]
  constructor
  · rintro ⟨b, t, hs, ⟨-, _, _, -, -, rfl⟩ | ⟨-, _, _, -, -, rfl⟩ | hscalar⟩
    · exact h.elim
    · exact h.elim
    · exact ⟨b, t, hs, hscalar⟩
  · rintro ⟨b, t, hs, hscalar⟩
    exact ⟨b, t, hs, .inr (.inr hscalar)⟩

/-- **Where a number is read.** -/
theorem run_reader_eq_ok_number_iff {value : Numeral} :
    (reader depth).run s = .ok (.number value, rest) ↔ ∃ b t, skipSpace s = b :: t ∧
      startsNumber b = true ∧ readNumeral (b :: t) = .ok (value, rest) := by
  have hscalar : (number value).IsScalar := trivial
  rw [run_reader_eq_ok_iff_of_isScalar hscalar]
  simp only [readScalar_eq_ok_number_iff]
  constructor
  · rintro ⟨b, t, hs, -, -, hread⟩
    exact ⟨b, t, hs, hread⟩
  · rintro ⟨b, t, hs, hread⟩
    obtain ⟨-, hsquare, hbrace, -⟩ := not_starts_other hread.1
    exact ⟨b, t, hs, hsquare, hbrace, hread⟩

/-- **Where an array is read.** -/
theorem run_reader_eq_ok_array_iff {values : List Value} :
    (reader (depth + 1)).run s = .ok (.array values, rest) ↔
      ∃ t, skipSpace s = byte '[' :: t ∧
        items .square (reader depth) t = .ok (values, rest) := by
  change readValue (some (reader depth)) s = _ ↔ _
  rw [readValue_eq_ok_iff]
  constructor
  · rintro ⟨b, t, hs, ⟨rfl, _, _, ⟨⟩, hvalues, ⟨⟩⟩ | ⟨-, _, _, -, -, ⟨⟩⟩ | ⟨-, -, hscalar⟩⟩
    · exact ⟨t, hs, hvalues⟩
    · exact (isScalar_of_readScalar hscalar).elim
  · rintro ⟨t, hs, hvalues⟩
    exact ⟨_, t, hs, .inl ⟨rfl, _, _, rfl, hvalues, rfl⟩⟩

/-- **Where an object is read.** -/
theorem run_reader_eq_ok_object_iff {members : List (String × Value)} :
    (reader (depth + 1)).run s = .ok (.object members, rest) ↔
      ∃ t, skipSpace s = byte '{' :: t ∧
        items .brace (memberReader (reader depth)) t = .ok (members, rest) := by
  change readValue (some (reader depth)) s = _ ↔ _
  rw [readValue_eq_ok_iff]
  constructor
  · rintro ⟨b, t, hs, ⟨-, _, _, -, -, ⟨⟩⟩ | ⟨rfl, _, _, ⟨⟩, hmembers, ⟨⟩⟩ | ⟨-, -, hscalar⟩⟩
    · exact ⟨t, hs, hmembers⟩
    · exact (isScalar_of_readScalar hscalar).elim
  · rintro ⟨t, hs, hmembers⟩
    exact ⟨_, t, hs, .inr (.inl ⟨rfl, _, _, rfl, hmembers, rfl⟩)⟩

end Value

/-! ### Whole inputs -/

/-- A whole input is read exactly if only white space is left. -/
theorem document_eq_ok_iff {α : Type} {reader : Reader α} {s : Bytes} {a : α} :
    document reader s = .ok a ↔ ∃ rest, reader.run s = .ok (a, rest) ∧ skipSpace rest = [] := by
  rw [document, bind_eq_ok]
  constructor
  · rintro ⟨⟨a', rest⟩, hrun, hfinish⟩
    rw [finish] at hfinish
    split at hfinish
    · rename_i hrest
      cases hfinish
      exact ⟨rest, hrun, hrest⟩
    · cases hfinish
  · rintro ⟨rest, hrun, hrest⟩
    refine ⟨(a, rest), hrun, ?_⟩
    rw [finish, hrest]

end OneShot.Json
