import OneShot.Proofs.Json.Layout

/-!
# White space between tokens

White space may stand wherever two tokens meet, and it does not matter to what is read of a text:
`Respaced` relates the texts that have the same tokens, and a reader that asks what a value is makes
the same of both, `Respaced.ofText?_eq`. The induction is on the derivation of the relation. What is
inside two brackets is known from the texts of the items, which are related in turn.

## Main definitions

* `RespacedKey`, `Respaced` — keys and texts with the same tokens

## Main results

* `Respaced.refl` — a text has the tokens that it has
* `Respaced.ofText?_eq` — what is read of two texts with the same tokens
-/

namespace OneShot.Json

/-- Two keys with the same string, which may have other white space around it. -/
def RespacedKey (key key' : List Char) : Prop :=
  ∃ before before' string after after', IsSpaces before ∧ IsSpaces before' ∧
    Quoted.IsString string ∧ IsSpaces after ∧ IsSpaces after' ∧
      key = before ++ (string ++ after) ∧ key' = before' ++ (string ++ after')

/-- A word, a number or a string. -/
inductive IsToken : List Char → Prop where
  | word {name : String} (h : name ∈ ["null", "true", "false"]) : IsToken name.toList
  | number {literal : Literal} {cs : List Char} (h : literal.IsText cs) : IsToken cs
  | string {cs : List Char} (h : Quoted.IsString cs) : IsToken cs

/-- Two JSON texts with the same tokens. -/
inductive Respaced : List Char → List Char → Prop where
  | spaced {before before' cs cs' after after' : List Char} (hbefore : IsSpaces before)
      (hbefore' : IsSpaces before') (h : Respaced cs cs') (hafter : IsSpaces after)
      (hafter' : IsSpaces after') : Respaced (before ++ (cs ++ after)) (before' ++ (cs' ++ after'))
  | token {cs : List Char} (h : IsToken cs) : Respaced cs cs
  | array {gap gap' : List Char} {items : List (List Char × List Char)} (hgap : IsSpaces gap)
      (hgap' : IsSpaces gap') (h : ∀ item ∈ items, Respaced item.1 item.2) :
      Respaced ('[' :: (gap ++ (writeSeries (items.map Prod.fst) ++ [']'])))
        ('[' :: (gap' ++ (writeSeries (items.map Prod.snd) ++ [']'])))
  | object {gap gap' : List Char}
      {members : List ((List Char × List Char) × (List Char × List Char))} (hgap : IsSpaces gap)
      (hgap' : IsSpaces gap') (hkey : ∀ member ∈ members, RespacedKey member.1.1 member.2.1)
      (h : ∀ member ∈ members, Respaced member.1.2 member.2.2) :
      Respaced
        ('{' :: (gap ++ (writeSeries ((members.map Prod.fst).map fun member =>
          member.1 ++ ':' :: member.2) ++ ['}'])))
        ('{' :: (gap' ++ (writeSeries ((members.map Prod.snd).map fun member =>
          member.1 ++ ':' :: member.2) ++ ['}'])))

/-! ### Keys -/

theorem RespacedKey.symm {key key' : List Char} (h : RespacedKey key key') :
    RespacedKey key' key := by
  obtain ⟨before, before', string, after, after', hbefore, hbefore', hstring, hafter, hafter', rfl,
    rfl⟩ := h
  exact ⟨before', before, string, after', after, hbefore', hbefore, hstring, hafter', hafter, rfl,
    rfl⟩

theorem RespacedKey.isKey {key key' : List Char} (h : RespacedKey key key') : IsKey key := by
  obtain ⟨before, -, string, after, -, hbefore, -, hstring, hafter, -, rfl, -⟩ := h
  exact ⟨before, string, after, hbefore, hstring, hafter, (List.append_assoc before _ _).symm⟩

theorem IsKey.respaced {key : List Char} (h : IsKey key) : RespacedKey key key := by
  obtain ⟨before, string, after, hbefore, hstring, hafter, rfl⟩ := h
  exact ⟨before, before, string, after, after, hbefore, hbefore, hstring, hafter, hafter,
    List.append_assoc before _ _, List.append_assoc before _ _⟩

theorem RespacedKey.ofText?_eq {key key' : List Char} (h : RespacedKey key key') :
    textReader.ofText? key = textReader.ofText? key' := by
  obtain ⟨before, before', string, after, after', hbefore, hbefore', hstring, hafter, hafter', rfl,
    rfl⟩ := h
  refine Option.ext fun text => ?_
  rw [textReader_ofText?_iff hbefore hstring hafter,
    textReader_ofText?_iff hbefore' hstring hafter']

/-! ### Texts -/

theorem IsToken.isText {cs : List Char} (h : IsToken cs) : IsText cs := by
  cases h with
  | word h => exact .word h
  | number h => exact .number h.1 h.2
  | string h => exact .string h

theorem Respaced.symm {cs cs' : List Char} (h : Respaced cs cs') : Respaced cs' cs := by
  induction h with
  | spaced hbefore hbefore' _ hafter hafter' ih =>
    exact .spaced hbefore' hbefore ih hafter' hafter
  | token h => exact .token h
  | @array gap gap' items hgap hgap' _ ih =>
    have hswap : ∀ item ∈ items.map Prod.swap, Respaced item.1 item.2 :=
      List.forall_mem_map.2 ih
    simpa [Function.comp_def] using Respaced.array hgap' hgap hswap
  | @object gap gap' members hgap hgap' hkey _ ih =>
    have hkeys : ∀ member ∈ members.map Prod.swap, RespacedKey member.1.1 member.2.1 :=
      List.forall_mem_map.2 fun member hmember => (hkey member hmember).symm
    have hswap : ∀ member ∈ members.map Prod.swap, Respaced member.1.2 member.2.2 :=
      List.forall_mem_map.2 ih
    simpa [Function.comp_def] using Respaced.object hgap' hgap hkeys hswap

theorem Respaced.isText {cs cs' : List Char} (h : Respaced cs cs') : IsText cs := by
  induction h with
  | spaced hbefore _ _ hafter _ ih =>
    rw [← List.append_assoc]
    exact .spaced hbefore ih hafter
  | token h => exact h.isText
  | array hgap _ _ ih => exact .array hgap (List.forall_mem_map.2 ih)
  | object hgap _ hkey _ ih =>
    exact .object hgap (List.forall_mem_map.2 fun member hmember => (hkey member hmember).isKey)
      (List.forall_mem_map.2 ih)

/-- A text has the tokens that it has. -/
theorem IsText.respaced {cs : List Char} (h : IsText cs) : Respaced cs cs := by
  induction h with
  | spaced hbefore _ hafter ih =>
    rw [List.append_assoc]
    exact .spaced hbefore hbefore ih hafter hafter
  | word h => exact .token (.word h)
  | number hliteral h => exact .token (.number ⟨hliteral, h⟩)
  | string h => exact .token (.string h)
  | @array gap items hgap _ ih =>
    have hitems : ∀ pair ∈ items.map fun item => (item, item), Respaced pair.1 pair.2 :=
      List.forall_mem_map.2 ih
    simpa [Function.comp_def] using Respaced.array hgap hgap hitems
  | @object gap members hgap hkey _ ih =>
    have hkeys : ∀ pair ∈ members.map fun member => (member, member),
        RespacedKey pair.1.1 pair.2.1 :=
      List.forall_mem_map.2 fun member hmember => (hkey member hmember).respaced
    have hmembers : ∀ pair ∈ members.map fun member => (member, member),
        Respaced pair.1.2 pair.2.2 :=
      List.forall_mem_map.2 ih
    simpa [Function.comp_def] using Respaced.object hgap hgap hkeys hmembers

/-! ### What is read -/

theorem forall₂_eq_some_iff {β γ : Type} {f : β → Option γ} {bs : List β} {cs : List γ} :
    List.Forall₂ (fun b c => f b = some c) bs cs ↔ bs.map f = cs.map some := by
  rw [← List.forall₂_eq_eq_eq, List.forall₂_map_left_iff, List.forall₂_map_right_iff]

/-- A value that is read of a text is read of every text with the same tokens. -/
theorem Respaced.ofText?_value_eq {cs cs' : List Char} (h : Respaced cs cs') (depth : Nat) :
    (Value.reader depth).ofText? cs = (Value.reader depth).ofText? cs' := by
  induction h generalizing depth with
  | spaced hbefore hbefore' h hafter hafter' ih =>
    have hvalues := Value.reader_types depth
    refine Option.ext fun value => ?_
    rw [hvalues.ofText?_spaces_iff h.isText hbefore hafter,
      hvalues.ofText?_spaces_iff h.symm.isText hbefore' hafter', ih]
  | token => rfl
  | @array gap gap' items hgap hgap' h ih =>
    cases depth with
    | zero => rw [Value.ofText?_array_zero, Value.ofText?_array_zero]
    | succ depth =>
      have hitems : (items.map Prod.fst).map (Value.reader depth).ofText? =
          (items.map Prod.snd).map (Value.reader depth).ofText? := by
        rw [List.map_map, List.map_map]
        exact List.map_congr_left fun item hitem => ih item hitem depth
      refine Option.ext fun value => ?_
      rw [Value.ofText?_array_iff hgap
          (List.forall_mem_map.2 fun item hitem => (h item hitem).isText),
        Value.ofText?_array_iff hgap'
          (List.forall_mem_map.2 fun item hitem => (h item hitem).symm.isText)]
      simp only [forall₂_eq_some_iff, hitems]
  | @object gap gap' members hgap hgap' hkey h ih =>
    cases depth with
    | zero => rw [Value.ofText?_object_zero, Value.ofText?_object_zero]
    | succ depth =>
      have hmembers : (members.map Prod.fst).map (Value.memberOfText? depth) =
          (members.map Prod.snd).map (Value.memberOfText? depth) := by
        rw [List.map_map, List.map_map]
        refine List.map_congr_left fun member hmember => ?_
        change Value.memberOfText? depth member.1 = Value.memberOfText? depth member.2
        rw [Value.memberOfText?, Value.memberOfText?, (hkey member hmember).ofText?_eq,
          ih member hmember]
      refine Option.ext fun value => ?_
      rw [Value.ofText?_object_iff hgap
          (List.forall_mem_map.2 fun member hmember => (hkey member hmember).isKey)
          (List.forall_mem_map.2 fun member hmember => (h member hmember).isText),
        Value.ofText?_object_iff hgap'
          (List.forall_mem_map.2 fun member hmember => (hkey member hmember).symm.isKey)
          (List.forall_mem_map.2 fun member hmember => (h member hmember).symm.isText)]
      simp only [forall₂_eq_some_iff, hmembers]

/-- **White space between tokens does not matter** to a reader that asks what a value is. -/
theorem Respaced.ofText?_eq {cs cs' : List Char} (h : Respaced cs cs') {α : Type} {r : Reader α}
    {type : Value → Except Cause α} {depth : Nat} (hr : r.Types type depth) :
    r.ofText? cs = r.ofText? cs' := by
  refine Option.ext fun a => ?_
  rw [hr.ofText?_eq_some_iff, hr.ofText?_eq_some_iff, h.ofText?_value_eq]

end OneShot.Json
