import OneShot.Number.List
import OneShot.Proofs.Json.Exact
import OneShot.Proofs.Number.Json

/-!
# List arguments written and read

A list of numbers is written element by element, each element as a literal that shows its form: an
integer as its digits alone, a floating point number always with a point. So the forms and the
integers come back, but a floating point number comes back as the value that the quick computation
gives to its digits, which may be its neighbour or out of range. An infinity or a NaN is written as
a word that is not JSON. `parse_write_cases` says what is read of a list, and
`parse_write_eq_self_iff` when this is the list again. With few digits the computation is exact, so
short decimals come back.

## Main definitions

* `Binary64.listDecimal`, `Number.literal` — the literal that is written for an element
* `Number.reread` — what is read of an element

## Main results

* `Number.write_literal`, `Number.literal_wellFormed` — the text of an element is its literal
* `Number.text_gives` — what is read of the text of an element
* `NumberList.parse_write_cases` — what is read of a list that was written
* `NumberList.parse_write_eq_self_iff`, `NumberList.parse_write_of_isShort` — the lists that come
  back
* `NumberList.isFinite_of_parse` — the elements of a list that was read
-/

namespace OneShot

open Json

/-! ### Floating point elements -/

namespace Binary64

/-- A whole number rounds to a whole number. -/
theorem dvd_magnitude_roundCode (n : Nat) :
    unitsPerOne ∣ magnitude (roundCode (n * unitsPerOne) 1) := by
  rcases Nat.le_total n (2 * binadeSize) with hn | hn
  · have hmag : magnitude (roundCode (n * unitsPerOne) 1) = n * unitsPerOne := magnitude_ofInt hn
    rw [hmag]
    exact Dvd.intro_left n rfl
  · have hmag : magnitude (2 * binadeSize + 1074 * binadeSize) = 2 * binadeSize * unitsPerOne := by
      rw [unitsPerOne_eq]
      exact magnitude_add_mul (by decide) le_rfl
    have hle : 2 * binadeSize + 1074 * binadeSize ≤ roundCode (n * unitsPerOne) 1 := by
      refine le_roundCode_of_le Nat.one_pos (by decide) ((Nat.mul_one _).trans_le ?_)
      exact hmag.trans_le (Nat.mul_le_mul_right _ hn)
    have hdvd := dvd_magnitude (s := 1074) (Nat.le_trans (by decide) hle)
    rwa [← unitsPerOne_eq] at hdvd

/-- A number without a fraction is a whole number of ones. -/
theorem part_eq_zero_iff {x : Binary64} : x.part = 0 ↔ unitsPerOne ∣ magnitude x.code := by
  rw [part, ← Int.dvd_iff_tmod_eq_zero, units]
  split_ifs
  · rw [Int.dvd_neg, Int.natCast_dvd_natCast]
  · rw [Int.natCast_dvd_natCast]

/-- The shortest decimal of a number with a fraction has a fraction. -/
theorem shortest_exponent_neg (tie : Decimal.Tie) {x : Binary64} (hx : x.IsFinite)
    (h : x.part ≠ 0) : (Decimal.shortest tie x.code).exponent < 0 := by
  by_contra hneg
  refine h (part_eq_zero_iff.2 ?_)
  have hreads := (Decimal.shortest_spec tie hx).1
  rw [codeOfDecimal_eq_roundCode _ (k := 0) (by omega), pow_zero] at hreads
  rw [← hreads]
  exact dvd_magnitude_roundCode _

/-- The decimal that is written for a finite element: all digits of a whole number, and otherwise
the shortest digits that read back. -/
def listDecimal (x : Binary64) : Decimal :=
  if x.part = 0 then ⟨x.whole.natAbs, 0⟩ else Decimal.shortest .upward x.code

/-- The literal that is written for a finite element. -/
def listLiteral (x : Binary64) : Literal := x.listDecimal.pointedLiteral x.negative

theorem listLiteral_wellFormed {x : Binary64} (hx : x.IsFinite) : x.listLiteral.WellFormed := by
  refine Decimal.pointedLiteral_wellFormed (.inr ?_)
  rw [listDecimal]
  split_ifs with hpart
  · exact Int.le_refl 0
  · exact (shortest_exponent_neg _ hx hpart).le

theorem text_of_part_eq_zero {x : Binary64} (hx : x.IsFinite) (h : x.part = 0) :
    (Number.float x).text.toList = x.sign ++ Nat.toDigits 10 x.whole.natAbs ++ ".0".toList := by
  rw [Number.text, if_pos ⟨hx, h⟩, String.toList_ofList]

theorem text_of_part_ne_zero {x : Binary64} (hx : x.IsFinite) (h : x.part ≠ 0) :
    (Number.float x).text.toList = x.sign ++ (Decimal.shortest .upward x.code).plain := by
  rw [Number.text, if_neg fun hand => h hand.2, Binary64.text, if_neg (not_isNaN_of_isFinite hx),
    if_neg (not_isInfinite_of_isFinite hx), String.toList_ofList]

/-- The text of a finite element is its literal. -/
theorem write_listLiteral {x : Binary64} (hx : x.IsFinite) :
    x.listLiteral.write = (Number.float x).text.toList := by
  rw [listLiteral, Decimal.write_pointedLiteral, listDecimal]
  by_cases hpart : x.part = 0
  · rw [if_pos hpart, text_of_part_eq_zero hx hpart, Decimal.pointed, Decimal.wholeDigits,
      if_pos (Int.le_refl 0), if_pos (Decimal.fractionDigits_eq_nil_iff.2 (Int.le_refl 0))]
    change x.sign ++ (Nat.toDigits 10 x.whole.natAbs ++ [] ++ ['.', '0']) = _
    rw [List.append_nil, List.append_assoc]
    rfl
  · have hfraction : (Decimal.shortest .upward x.code).fractionDigits ≠ [] := by
      rw [Ne, Decimal.fractionDigits_eq_nil_iff]
      exact Int.not_le.2 (shortest_exponent_neg _ hx hpart)
    rw [if_neg hpart, text_of_part_ne_zero hx hpart, Decimal.plain, Decimal.pointed,
      if_neg hfraction, if_neg hfraction]
    rfl

/-- A number without a fraction is its integer part. -/
theorem natAbs_whole {x : Binary64} (h : x.part = 0) :
    x.whole.natAbs * unitsPerOne = magnitude x.code := by
  have hunits : x.units.natAbs = magnitude x.code := by
    rw [units]
    split_ifs
    · rw [Int.natAbs_neg, Int.natAbs_natCast]
    · exact Int.natAbs_natCast _
  rw [whole, Int.natAbs_tdiv, hunits, Int.natAbs_natCast]
  exact Nat.div_mul_cancel (part_eq_zero_iff.1 h)

/-- The decimal that is written is nearest to the number. -/
theorem ofDecimal_listDecimal {x : Binary64} (hx : x.IsFinite) :
    ofDecimal x.negative x.listDecimal = x := by
  have hcode : codeOfDecimal x.listDecimal = x.code := by
    rw [listDecimal]
    split_ifs with hpart
    · have hround := roundCode_magnitude Nat.one_pos hx
      rw [Nat.mul_one, ← natAbs_whole hpart] at hround
      rw [codeOfDecimal_eq_roundCode ⟨x.whole.natAbs, 0⟩ (k := 0) (Int.le_refl 0), pow_zero]
      dsimp only
      rw [Int.zero_add, Int.toNat_natCast, pow_zero, Nat.mul_one]
      exact hround
    · exact (Decimal.shortest_spec .upward hx).1
  cases x
  rw [ofDecimal, Binary64.mk.injEq]
  exact ⟨rfl, hcode⟩

/-- A number with a short decimal comes back. -/
theorem float_listLiteral_of_isShort {x : Binary64} (hx : x.IsFinite) (h : x.listDecimal.IsShort) :
    x.listLiteral.float = .ok x := by
  rw [listLiteral, Decimal.float_pointedLiteral_of_isShort h, ofDecimal_listDecimal hx]

end Binary64

/-! ### Elements -/

namespace Number

/-- The literal that is written for an element; a floating point number has to be finite. -/
def literal : Number → Literal
  | .int value => .ofInt value.toInt
  | .float x => x.listLiteral

/-- The value as which the text of an element is read. An infinity and a NaN are words that are no
values, and behind a minus sign no digits. -/
def outcome (number : Number) : Except Cause Numeral :=
  if number.IsFinite then number.literal.outcome
  else if number.text = "-inf" then .error .invalidNumber
  else .error .expectedValue

/-- What is read of an element. -/
def reread (number : Number) : Except Cause Number := number.literal.outcome.map ofNumeral

theorem write_literal {number : Number} (h : number.IsFinite) :
    number.literal.write = number.text.toList := by
  cases number with
  | int value =>
    rw [literal, Literal.write_ofInt, writeInteger, text, Int.toString_eq_repr, Int.repr_eq_if]
    by_cases h : 0 ≤ value.toInt
    · rw [if_neg (Int.not_lt.2 h), if_pos h, Nat.toList_repr, List.nil_append,
        show value.toInt.natAbs = value.toInt.toNat by omega]
    · rw [if_pos (Int.not_le.1 h), if_neg h, String.toList_append, Nat.toList_repr,
        show value.toInt.natAbs = (-value.toInt).toNat by omega]
      rfl
  | float x => exact Binary64.write_listLiteral h

theorem literal_wellFormed {number : Number} (h : number.IsFinite) : number.literal.WellFormed := by
  cases number with
  | int value => exact Literal.ofInt_wellFormed _
  | float x => exact Binary64.listLiteral_wellFormed h

theorem text_of_not_isFinite {number : Number} (h : ¬number.IsFinite) :
    number.text ∈ ["NaN", "inf", "-inf"] := by
  cases number with
  | int value => exact absurd trivial h
  | float x =>
    rw [text, if_neg fun hand => h hand.1, Binary64.text]
    by_cases hnan : x.IsNaN
    · rw [if_pos hnan]
      exact List.mem_cons_self
    · have hinf : x.IsInfinite :=
        by_contra fun hinf => h (Binary64.isFinite_of_not_isNaN_of_not_isInfinite hnan hinf)
      rw [if_neg hnan, if_pos hinf, Binary64.sign]
      cases x.negative <;> decide

/-- **What is read of the text of an element**, be it a number or not. -/
theorem text_gives (number : Number) (depth : Nat) :
    (Value.reader depth).Gives (Utf8.ofChars number.text.toList)
      (number.outcome.map Value.number) := by
  by_cases h : number.IsFinite
  · rw [outcome, if_pos h, ← write_literal h]
    exact Value.literal_gives (literal_wellFormed h) depth
  · obtain ⟨inner, hrun⟩ := Value.exists_run_reader depth
    intro rest _
    have htext := text_of_not_isFinite h
    simp only [List.mem_cons, List.not_mem_nil, or_false] at htext
    rw [outcome, if_neg h, hrun]
    rcases htext with htext | htext | htext
    all_goals
      rw [htext]
      rfl

theorem text_admits (number : Number) :
    Bracket.square.Admits (Utf8.ofChars number.text.toList) := by
  by_cases h : number.IsFinite
  · rw [← write_literal h]
    exact (Literal.beginsScalar_write (literal_wellFormed h)).admits
  · have htext := text_of_not_isFinite h
    simp only [List.mem_cons, List.not_mem_nil, or_false] at htext
    rcases htext with htext | htext | htext
    · rw [htext]
      exact ⟨byte 'N', Utf8.ofChars "aN".toList, by decide, by decide, by decide⟩
    · rw [htext]
      exact ⟨byte 'i', Utf8.ofChars "nf".toList, by decide, by decide, by decide⟩
    · rw [htext]
      exact ⟨byte '-', Utf8.ofChars "inf".toList, by decide, by decide, by decide⟩

/-- An integer comes back. -/
theorem reread_int (value : Int64) : (Number.int value).reread = .ok (.int value) := by
  have hrange := inRange_toInt value
  rw [reread, literal, Literal.outcome, Literal.numeral_ofInt hrange.1
    (Int.lt_trans hrange.2 (by decide))]
  change Except.ok (ofNumeral (.integer value.toInt)) = _
  rw [ofNumeral, if_pos hrange, Int64.ofInt_toInt]

/-- A floating point number comes back as the value of its literal. -/
theorem reread_float (x : Binary64) :
    (Number.float x).reread =
      (x.listLiteral.float.mapError fun _ => Cause.numberOutOfRange).map .float := by
  rw [reread, literal, Literal.outcome_eq_float rfl]
  cases x.listLiteral.float <;> rfl

end Number

/-! ### Lists -/

namespace NumberList

theorem ofItems_map_number (index : Nat) (values : List Numeral) :
    ofItems index (values.map Value.number) = .ok (values.map Number.ofNumeral) := by
  induction values generalizing index with
  | nil => rfl
  | cons value values ih =>
    rw [List.map_cons, ofItems, ih]
    rfl

/-- The bytes of a list that was written. -/
theorem encode_write (numbers : List Number) :
    Utf8.encode (write numbers) =
      byte '[' :: (Bracket.square.series (fun number => Utf8.ofChars number.text.toList) numbers ++
        [Bracket.square.closing]) := by
  rw [write, Utf8.encode_ofList, Utf8.ofChars_cons (by decide), Utf8.ofChars_append,
    ofChars_writeSeries (show ∀ number : Number, Utf8.ofChars number.text.toList =
      Bracket.square.lead ++ Utf8.ofChars number.text.toList from fun _ => rfl)]
  rfl

/-- **What is read of a list that was written**: the elements as each of them is read, or the fault
of the first one that is refused. -/
theorem parse_write_cases (numbers : List Number) :
    (∃ values, numbers.mapM Number.outcome = .ok values ∧
        parse (write numbers) = .ok (values.map Number.ofNumeral)) ∨
      ∃ fault, numbers.mapM Number.outcome = .error fault.cause ∧
        parse (write numbers) = .error (.notJson (Utf8.encode (write numbers)) fault) := by
  have hvalue := document_gives (Value.array_gives (fun number _ => number.text_admits)
    (fun number (_ : number ∈ numbers) => number.text_gives (maxDepth - 1))) stops_nil rfl
  rw [← encode_write, List.append_nil, mapM_map] at hvalue
  change (Value.parse (Utf8.encode (write numbers))).mapError Fault.cause = _ at hvalue
  rw [parse]
  cases hread : Value.parse (Utf8.encode (write numbers)) with
  | error fault =>
    rw [hread] at hvalue
    refine .inr ⟨fault, ?_, rfl⟩
    cases houtcome : numbers.mapM Number.outcome with
    | error cause =>
      rw [houtcome] at hvalue
      exact congrArg Except.error (Except.error.inj hvalue).symm
    | ok values =>
      rw [houtcome] at hvalue
      cases hvalue
  | ok value =>
    rw [hread] at hvalue
    obtain ⟨_, hmap, rfl⟩ := map_eq_ok.1 hvalue.symm
    obtain ⟨values, hvalues, rfl⟩ := map_eq_ok.1 hmap
    exact .inl ⟨values, hvalues, ofItems_map_number 0 values⟩

/-- What is read of a list of finite numbers. -/
theorem parse_write_eq_ok_iff {numbers : List Number}
    (h : ∀ number ∈ numbers, number.IsFinite) {read : List Number} :
    parse (write numbers) = .ok read ↔ numbers.mapM Number.reread = .ok read := by
  have hreread : numbers.mapM Number.reread =
      (numbers.mapM Number.outcome).map (List.map Number.ofNumeral) := by
    rw [← mapM_map]
    refine mapM_congr_left fun number hmem => ?_
    rw [Number.outcome, if_pos (h number hmem)]
    rfl
  rw [hreread]
  obtain ⟨values, hvalues, hparse⟩ | ⟨fault, hfault, hparse⟩ := parse_write_cases numbers
  · rw [hvalues, hparse]
    exact ⟨fun hread => congrArg Except.ok (Except.ok.inj hread),
      fun hread => congrArg Except.ok (Except.ok.inj hread)⟩
  · rw [hfault, hparse]
    exact ⟨nofun, nofun⟩

theorem mapM_reread_eq_self_iff {numbers : List Number} :
    numbers.mapM Number.reread = .ok numbers ↔
      ∀ x, .float x ∈ numbers → x.listLiteral.float = .ok x := by
  rw [mapM_eq_self_iff]
  constructor
  · intro hreread x hmem
    have hx := hreread _ hmem
    rw [Number.reread_float] at hx
    cases hfloat : x.listLiteral.float with
    | error behind =>
      rw [hfloat] at hx
      cases hx
    | ok y =>
      rw [hfloat] at hx
      cases hx
      rfl
  · intro hfloat number hmem
    cases number with
    | int value => exact Number.reread_int value
    | float x =>
      rw [Number.reread_float, hfloat x hmem]
      rfl

/-- **The lists that come back.** A list whose floating point numbers are finite is written as a
text that reads as the same list, form by form and bit by bit, exactly if for each of them the quick
computation of the value of its literal gives the number again. -/
theorem parse_write_eq_self_iff {numbers : List Number}
    (h : ∀ number ∈ numbers, number.IsFinite) :
    parse (write numbers) = .ok numbers ↔
      ∀ x, .float x ∈ numbers → x.listLiteral.float = .ok x := by
  rw [parse_write_eq_ok_iff h, mapM_reread_eq_self_iff]

/-- An integer and a short fraction. -/
theorem parse_write_one_half :
    parse (write [.int 1, .float (.ofBits 0x3FE0000000000000)]) =
      .ok [.int 1, .float (.ofBits 0x3FE0000000000000)] := by
  refine (parse_write_eq_self_iff (by decide +kernel)).2 fun x hmem => ?_
  rcases List.mem_cons.1 hmem with hx | hx
  · cases hx
  · cases List.mem_singleton.1 hx
    decide +kernel

/-- The largest odd number that is exact. Its literal has a zero behind the point, which makes the
significand ten times as large and no longer exact, and what is read is the number below. -/
theorem parse_write_ne_self :
    (∀ number ∈ [Number.float (.ofBits 0x433FFFFFFFFFFFFF)], number.IsFinite) ∧
      parse (write [.float (.ofBits 0x433FFFFFFFFFFFFF)]) =
        .ok [.float (.ofBits 0x433FFFFFFFFFFFFE)] ∧
      parse (write [.float (.ofBits 0x433FFFFFFFFFFFFF)]) ≠
        .ok [.float (.ofBits 0x433FFFFFFFFFFFFF)] := by
  have hfinite : ∀ number ∈ [Number.float (.ofBits 0x433FFFFFFFFFFFFF)], number.IsFinite := by
    decide +kernel
  have hvalue : (Binary64.ofBits 0x433FFFFFFFFFFFFF).listLiteral.float =
      .ok (.ofBits 0x433FFFFFFFFFFFFE) := by
    decide +kernel
  have hread : parse (write [.float (.ofBits 0x433FFFFFFFFFFFFF)]) =
      .ok [.float (.ofBits 0x433FFFFFFFFFFFFE)] := by
    rw [parse_write_eq_ok_iff hfinite, List.mapM_cons, Number.reread_float, hvalue]
    rfl
  refine ⟨hfinite, hread, fun hself => ?_⟩
  rw [hread] at hself
  cases hself

/-- Lists of integers and of numbers with short decimals come back. -/
theorem parse_write_of_isShort {numbers : List Number}
    (h : ∀ number ∈ numbers, number.IsFinite)
    (hshort : ∀ x, .float x ∈ numbers → x.listDecimal.IsShort) :
    parse (write numbers) = .ok numbers := by
  rw [parse_write_eq_ok_iff h, mapM_reread_eq_self_iff]
  intro x hmem
  exact Binary64.float_listLiteral_of_isShort (h _ hmem) (hshort x hmem)

/-! ### Finite elements -/

theorem isFinite_ofNumeral {value : Numeral} (h : value.IsFinite) :
    (Number.ofNumeral value).IsFinite := by
  cases value with
  | integer i =>
    rw [Number.ofNumeral]
    split_ifs
    · exact trivial
    · exact Binary64.ofInt_isFinite h
  | float y => exact h

theorem isFinite_of_ofItems {items : List Value}
    (hitems : ∀ value, .number value ∈ items → value.IsFinite) {index : Nat}
    {numbers : List Number} (h : ofItems index items = .ok numbers) :
    ∀ number ∈ numbers, number.IsFinite := by
  induction items generalizing index numbers with
  | nil =>
    cases h
    exact List.forall_mem_nil _
  | cons value items ih =>
    cases value with
    | number value =>
      obtain ⟨numbers', hnumbers, rfl⟩ := map_eq_ok.1 h
      exact List.forall_mem_cons.2 ⟨isFinite_ofNumeral (hitems value List.mem_cons_self),
        ih (fun v hv => hitems v (List.mem_cons_of_mem _ hv)) hnumbers⟩
    | _ => cases h

/-- The elements of a list that was read are finite. -/
theorem isFinite_of_parse {text : String} {numbers : List Number} (h : parse text = .ok numbers) :
    ∀ number ∈ numbers, number.IsFinite := by
  obtain ⟨value, hvalue, h⟩ := bind_eq_ok.1 h
  cases value with
  | array items =>
    exact isFinite_of_ofItems (Value.numbersFinite_of_parse (mapError_eq_ok.1 hvalue)) h
  | _ => cases h

end NumberList

end OneShot
