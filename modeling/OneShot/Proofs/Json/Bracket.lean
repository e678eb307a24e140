import OneShot.Proofs.Json.Spelling

/-!
# Series against the grammar

What holds of items holds of what stands between two brackets. `Bracket.Takes` is all that is asked
of a reader of items: that it takes white space and then a text that spells what it gives, less what
has been taken of the item before. From this it follows that a series is read exactly if it is
spelled as such texts with commas between them, `Bracket.Takes.series_iff`, whatever the items are
and for either kind of bracket.

White space between two items belongs to one of them, so an item is taken together with what stands
around it, and the induction on the items lets some white space stand before the first one.

## Main definitions

* `Spaced` — a text with white space around it
* `Bracket.IsSeries` — the texts of a series with its brackets, given those of its items
* `Bracket.Takes` — a reader takes the items that spell something, and no others

## Main results

* `Bracket.Takes.items_iff` — the items up to the closing bracket
* `Bracket.Takes.series_iff` — a series with its brackets
-/

namespace OneShot.Json

namespace Bracket

variable {bracket : Bracket} {s t rest : Bytes}

/-! ### What stands between items -/

theorem eq_of_begin {turn : Turn} (h : bracket.begin s = .ok turn) :
    ∃ t, turn = .item t ∧ s = bracket.lead ++ t := by
  cases bracket with
  | square =>
    cases h
    exact ⟨s, rfl, rfl⟩
  | brace =>
    cases s with
    | nil => cases h
    | cons b t =>
      rw [begin] at h
      split_ifs at h with hb
      cases h
      exact ⟨t, rfl, by rw [hb]; rfl⟩

theorem skipSpace_of_first_close (h : bracket.first s = .ok (.close rest)) :
    skipSpace s = bracket.closing :: rest := by
  rw [first] at h
  split at h
  · cases h
  · rename_i b t hs
    split_ifs at h with hb
    · cases h
      rw [hs, hb]
    · obtain ⟨_, ⟨⟩, -⟩ := eq_of_begin h

theorem skipSpace_of_first_item (h : bracket.first s = .ok (.item t)) :
    skipSpace s = bracket.lead ++ t := by
  rw [first] at h
  split at h
  · cases h
  · rename_i b u hs
    split_ifs at h with hb
    · cases h
    · obtain ⟨_, ⟨⟩, hbegin⟩ := eq_of_begin h
      rw [hs, hbegin]

theorem skipSpace_of_next_close (h : bracket.next s = .ok (.close rest)) :
    skipSpace s = bracket.closing :: rest := by
  rw [next] at h
  split at h
  · cases h
  · rename_i b t hs
    dsimp only at h
    split_ifs at h with hclose hcomma hhead
    · cases h
      rw [hs, hclose]
    · obtain ⟨_, ⟨⟩, -⟩ := eq_of_begin h

theorem skipSpace_of_next_item (h : bracket.next s = .ok (.item t)) :
    ∃ u, skipSpace s = byte ',' :: u ∧ skipSpace u = bracket.lead ++ t := by
  rw [next] at h
  split at h
  · cases h
  · rename_i b u hs
    dsimp only at h
    split_ifs at h with hclose hcomma hhead
    · cases h
    · obtain ⟨_, ⟨⟩, hbegin⟩ := eq_of_begin h
      exact ⟨u, by rw [hs, hcomma], hbegin⟩

/-- Behind an item stands what may stand behind a value. -/
theorem stops_of_next {turn : Turn} (h : bracket.next s = .ok turn) : Stops s := by
  refine .of_skipSpace ?_
  cases turn with
  | close rest =>
    rw [skipSpace_of_next_close h]
    exact stops_closing bracket rest
  | item t =>
    obtain ⟨u, hcomma, -⟩ := skipSpace_of_next_item h
    rw [hcomma]
    exact stops_comma u

/-- White space does not matter to what stands in front of an item. -/
theorem next_congr (h : skipSpace s = skipSpace t) : bracket.next s = bracket.next t := by
  rw [next, next, h]

theorem first_spaces {gap : List Char} (h : IsSpaces gap) (s : Bytes) :
    bracket.first (Utf8.ofChars gap ++ s) = bracket.first s := by
  rw [first, first, skipSpace_spaces h]

theorem next_spaces {gap : List Char} (h : IsSpaces gap) (s : Bytes) :
    bracket.next (Utf8.ofChars gap ++ s) = bracket.next s := by
  rw [next, next, skipSpace_spaces h]

theorem next_comma_spaces {gap : List Char} (h : IsSpaces gap) (s : Bytes) :
    bracket.next (byte ',' :: (Utf8.ofChars gap ++ s)) = bracket.next (byte ',' :: s) := by
  rw [next, next, skipSpace_cons (by rfl), skipSpace_cons (by rfl)]
  dsimp only
  have hcomma : byte ',' ≠ bracket.closing := by cases bracket <;> decide
  rw [if_neg hcomma, if_neg hcomma, if_pos rfl, if_pos rfl, skipSpace_spaces h]

end Bracket

/-! ### Texts of series -/

/-- With white space around it. -/
def Spaced (P : List Char → Prop) (cs : List Char) : Prop :=
  ∃ before inner after : List Char, IsSpaces before ∧ P inner ∧ IsSpaces after ∧
    cs = before ++ (inner ++ after)

theorem Spaced.isText {cs : List Char} (h : Spaced IsText cs) : IsText cs := by
  obtain ⟨before, inner, after, hbefore, hinner, hafter, rfl⟩ := h
  rw [← List.append_assoc]
  exact .spaced hbefore hinner hafter

theorem Spaced.imp {P Q : List Char → Prop} (hPQ : ∀ cs, P cs → Q cs) {cs : List Char}
    (h : Spaced P cs) : Spaced Q cs := by
  obtain ⟨before, inner, after, hbefore, hinner, hafter, rfl⟩ := h
  exact ⟨before, inner, after, hbefore, hPQ inner hinner, hafter, rfl⟩

/-- What is read up to white space at the end of the input is a text with white space around it. -/
theorem exists_spaced {P : List Char → Prop} {s rest : Bytes} {before cs : List Char}
    (hbefore : IsSpaces before) (hcs : P cs)
    (hs : s = Utf8.ofChars before ++ (Utf8.ofChars cs ++ rest)) (hrest : skipSpace rest = []) :
    ∃ ds, s = Utf8.ofChars ds ∧ Spaced P ds := by
  obtain ⟨after, hafter, hend⟩ := exists_spaces rest
  rw [hrest, List.append_nil] at hend
  refine ⟨before ++ (cs ++ after), ?_, before, cs, after, hbefore, hcs, hafter, rfl⟩
  rw [hs, hend, Utf8.ofChars_append, Utf8.ofChars_append]

namespace Bracket

def opener : Bracket → Char
  | square => '['
  | brace => '{'

def closer : Bracket → Char
  | square => ']'
  | brace => '}'

/-- The texts of a series, given those of its items. The gap matters only without items, since items
bring their own white space. -/
def IsSeries {α : Type} (bracket : Bracket) (Spells : α → List Char → Prop) (as : List α)
    (cs : List Char) : Prop :=
  ∃ (gap : List Char) (items : List (List Char)), IsSpaces gap ∧
    List.Forall₂ (fun a => Spaced (Spells a)) as items ∧
      cs = bracket.opener :: (gap ++ (writeSeries items ++ [bracket.closer]))

/-- A list of JSON texts is a JSON text. -/
theorem IsSeries.isText_of_square {α : Type} {Spells : α → List Char → Prop} {as : List α}
    {cs : List Char} (hitem : ∀ a item, Spells a item → IsText item)
    (h : square.IsSeries Spells as cs) : IsText cs := by
  obtain ⟨gap, items, hgap, hitems, rfl⟩ := h
  have htexts : List.Forall₂ (fun item _ => IsText item ∧ True) items as :=
    hitems.flip.imp fun item a hspelled => ⟨(Spaced.imp (hitem a) hspelled).isText, trivial⟩
  exact .array hgap ((List.forall₂_and_left items as).1 htexts).1

theorem closing_eq (bracket : Bracket) : bracket.closing = byte bracket.closer := by
  cases bracket <;> rfl

theorem ofChars_closer (bracket : Bracket) (cs : List Char) (rest : Bytes) :
    Utf8.ofChars (cs ++ [bracket.closer]) ++ rest =
      Utf8.ofChars cs ++ bracket.closing :: rest := by
  have hlt : bracket.closer.toNat < 0x80 := by cases bracket <;> decide
  rw [Utf8.ofChars_append, Utf8.ofChars_cons hlt, Utf8.ofChars_nil, List.append_assoc, closing_eq]
  rfl

theorem ofChars_opener (bracket : Bracket) (gap cs : List Char) (rest : Bytes) :
    Utf8.ofChars (bracket.opener :: (gap ++ cs)) ++ rest =
      byte bracket.opener :: (Utf8.ofChars gap ++ (Utf8.ofChars cs ++ rest)) := by
  have hlt : bracket.opener.toNat < 0x80 := by cases bracket <;> decide
  rw [Utf8.ofChars_cons hlt, Utf8.ofChars_append, List.cons_append, List.append_assoc]

theorem IsSeries.exists_head {α : Type} {bracket : Bracket} {Spells : α → List Char → Prop}
    {as : List α} {cs : List Char} (h : bracket.IsSeries Spells as cs) :
    ∃ t, Utf8.ofChars cs = byte bracket.opener :: t := by
  obtain ⟨gap, items, -, -, rfl⟩ := h
  have hbytes := ofChars_opener bracket gap (writeSeries items ++ [bracket.closer]) []
  rw [List.append_nil] at hbytes
  exact ⟨_, hbytes⟩

theorem IsSeries.skipSpace_eq {α : Type} {bracket : Bracket} {Spells : α → List Char → Prop}
    {as : List α} {cs : List Char} (h : bracket.IsSeries Spells as cs) (rest : Bytes) :
    skipSpace (Utf8.ofChars cs ++ rest) = Utf8.ofChars cs ++ rest := by
  obtain ⟨t, ht⟩ := h.exists_head
  rw [ht]
  exact skipSpace_cons (by cases bracket <;> rfl) _

/-- The text of the items falls into that of the first one and those of the others. -/
theorem ofChars_series_cons (bracket : Bracket) (item item' : List Char)
    (items : List (List Char)) (rest : Bytes) :
    Utf8.ofChars (writeSeries (item :: item' :: items) ++ [bracket.closer]) ++ rest =
      Utf8.ofChars item ++
        byte ',' :: (Utf8.ofChars (writeSeries (item' :: items) ++ [bracket.closer]) ++ rest) := by
  have hseries : writeSeries (item :: item' :: items) =
      item ++ ',' :: writeSeries (item' :: items) := rfl
  rw [hseries, List.append_assoc, Utf8.ofChars_append, List.cons_append,
    Utf8.ofChars_cons (by decide), List.append_assoc, List.cons_append]

/-- A reader takes the items that spell something, and no others, with white space in front. What
has been taken of an item before belongs to its text. -/
structure Takes {α : Type} (bracket : Bracket) (r : Reader α) (Spells : α → List Char → Prop) :
    Prop where
  exists_spelled : ∀ {s a rest}, r.run s = .ok (a, rest) → ∃ before cs, IsSpaces before ∧
    Spells a cs ∧ bracket.lead ++ s = Utf8.ofChars before ++ (Utf8.ofChars cs ++ rest)
  gives : ∀ {a cs}, Spells a cs → ∃ body, Utf8.ofChars cs = bracket.lead ++ body ∧
    bracket.Admits body ∧ r.Gives body (.ok a)

/-! ### Series that are read -/

namespace Takes

variable {α : Type} {bracket : Bracket} {r : Reader α} {Spells : α → List Char → Prop}
  {s rest : Bytes} {a : α} {as : List α} {item : List Char} {items : List (List Char)}
  (hr : bracket.Takes r Spells)

include hr

/-- An item and the white space behind it. -/
theorem exists_item {gap : List Char} (hgap : IsSpaces gap) {t : Bytes}
    (h : r.run s = .ok (a, t)) : ∃ item, Spaced (Spells a) item ∧
      Utf8.ofChars gap ++ (bracket.lead ++ s) = Utf8.ofChars item ++ skipSpace t := by
  obtain ⟨before, cs, hbefore, hcs, hs⟩ := hr.exists_spelled h
  obtain ⟨after, hafter, ht⟩ := exists_spaces t
  refine ⟨gap ++ before ++ (cs ++ after), ⟨_, cs, after, hgap.append hbefore, hcs, hafter, rfl⟩, ?_⟩
  simp only [hs, Utf8.ofChars_append, List.append_assoc]
  rw [← ht]

/-- **Items that were read are spelled out.** -/
theorem exists_items (h : ItemsAt bracket r s as rest) : ∀ gap, IsSpaces gap →
    ∃ item items, List.Forall₂ (fun a => Spaced (Spells a)) as (item :: items) ∧
      Utf8.ofChars gap ++ (bracket.lead ++ s) =
        Utf8.ofChars (writeSeries (item :: items) ++ [bracket.closer]) ++ rest := by
  induction h with
  | last run next =>
    intro gap hgap
    obtain ⟨item, hitem, hs⟩ := hr.exists_item hgap run
    refine ⟨item, [], .cons hitem .nil, ?_⟩
    rw [hs, skipSpace_of_next_close next, ofChars_closer]
    rfl
  | more run next _ ih =>
    intro gap hgap
    obtain ⟨item, hitem, hs⟩ := hr.exists_item hgap run
    obtain ⟨v, hcomma, hv⟩ := skipSpace_of_next_item next
    obtain ⟨between, hbetween, hspaces⟩ := exists_spaces v
    obtain ⟨item', items, hitems, hrest⟩ := ih between hbetween
    refine ⟨item, item' :: items, .cons hitem hitems, ?_⟩
    rw [ofChars_series_cons, ← hrest, hs, hcomma, hspaces, hv]

/-- One item that is spelled out, behind which something else stands. -/
theorem run_item (h : Spaced (Spells a) item) {s : Bytes} (hs : Stops s) :
    ∃ t t', bracket.first (Utf8.ofChars item ++ s) = .ok (.item t) ∧
      bracket.next (byte ',' :: (Utf8.ofChars item ++ s)) = .ok (.item t) ∧
        r.run t = .ok (a, t') ∧ bracket.next t' = bracket.next s := by
  obtain ⟨before, cs, after, hbefore, hcs, hafter, rfl⟩ := h
  obtain ⟨body, hbody, hadmits, hgives⟩ := hr.gives hcs
  have hitem : Utf8.ofChars (before ++ (cs ++ after)) ++ s =
      Utf8.ofChars before ++ (bracket.lead ++ body ++ (Utf8.ofChars after ++ s)) := by
    rw [Utf8.ofChars_append, Utf8.ofChars_append, hbody, List.append_assoc,
      List.append_assoc (bracket.lead ++ body)]
  refine ⟨body ++ (Utf8.ofChars after ++ s), Utf8.ofChars after ++ s, ?_, ?_,
    leaves_ok_iff.1 (hgives _ (stops_spaces hafter hs)), next_spaces hafter s⟩
  · rw [hitem, first_spaces hbefore]
    exact first_item hadmits _
  · rw [hitem, next_comma_spaces hbefore]
    exact next_item hadmits _

/-- **Items that are spelled out are read.** -/
theorem itemsAt_of_items (h : List.Forall₂ (fun a => Spaced (Spells a)) as items) :
    ∀ {item : List Char} {a : α}, Spaced (Spells a) item → ∀ rest : Bytes, ∃ t,
      let s := Utf8.ofChars (writeSeries (item :: items) ++ [bracket.closer]) ++ rest
      bracket.first s = .ok (.item t) ∧ bracket.next (byte ',' :: s) = .ok (.item t) ∧
        ItemsAt bracket r t (a :: as) rest := by
  induction h with
  | nil =>
    intro item a hitem rest
    obtain ⟨t, t', hfirst, hnext, hrun, hbehind⟩ := hr.run_item hitem (stops_closing bracket rest)
    rw [next_close] at hbehind
    rw [ofChars_closer]
    exact ⟨t, hfirst, hnext, .last hrun hbehind⟩
  | @cons a' item' as items hitem' _ ih =>
    intro item a hitem rest
    obtain ⟨u, -, hmore, hu⟩ := ih hitem' rest
    obtain ⟨t, t', hfirst, hnext, hrun, hbehind⟩ := hr.run_item hitem (stops_comma _)
    rw [hmore] at hbehind
    rw [ofChars_series_cons]
    exact ⟨t, hfirst, hnext, .more hrun hbehind hu⟩

/-- Everything up to the closing bracket. -/
theorem items_iff :
    Json.items bracket r s = .ok (as, rest) ↔ ∃ (gap : List Char) (items : List (List Char)),
      IsSpaces gap ∧ List.Forall₂ (fun a => Spaced (Spells a)) as items ∧
        s = Utf8.ofChars gap ++ (Utf8.ofChars (writeSeries items ++ [bracket.closer]) ++ rest) := by
  rw [items_eq_ok_iff]
  constructor
  · obtain ⟨gap, hgap, hs⟩ := exists_spaces s
    rintro (⟨hclose, rfl⟩ | ⟨t, hitem, ht⟩)
    · refine ⟨gap, [], hgap, .nil, ?_⟩
      rw [ofChars_closer, ← skipSpace_of_first_close hclose]
      exact hs
    · obtain ⟨item, items, hspelled, ht⟩ := hr.exists_items ht gap hgap
      rw [skipSpace_of_first_item hitem] at hs
      exact ⟨[], item :: items, isSpaces_nil, hspelled, hs.trans ht⟩
  · rintro ⟨gap, items, hgap, hitems, rfl⟩
    rw [first_spaces hgap]
    cases hitems with
    | nil =>
      rw [ofChars_closer]
      exact .inl ⟨first_close bracket _, rfl⟩
    | cons hitem hitems =>
      obtain ⟨t, hfirst, -, ht⟩ := hr.itemsAt_of_items hitems hitem rest
      exact .inr ⟨t, hfirst, ht⟩

/-- **A series is read exactly if it is spelled out.** -/
theorem series_iff :
    (∃ t, s = byte bracket.opener :: t ∧ Json.items bracket r t = .ok (as, rest)) ↔
      ∃ cs, bracket.IsSeries Spells as cs ∧ s = Utf8.ofChars cs ++ rest := by
  simp only [hr.items_iff]
  constructor
  · rintro ⟨_, rfl, gap, items, hgap, hitems, rfl⟩
    exact ⟨_, ⟨gap, items, hgap, hitems, rfl⟩, (ofChars_opener bracket _ _ _).symm⟩
  · rintro ⟨_, ⟨gap, items, hgap, hitems, rfl⟩, rfl⟩
    exact ⟨_, ofChars_opener bracket _ _ _, gap, items, hgap, hitems, rfl⟩

end Takes

end Bracket

end OneShot.Json
