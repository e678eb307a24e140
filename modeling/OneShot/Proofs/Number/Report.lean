import Mathlib.Order.Bounds.Basic
import OneShot.Number.List
import OneShot.Proofs.Json.ValueText

/-!
# Why a list argument is refused

There are three things that can be found of a text that is no list of numbers: it is not JSON; it is
JSON, but no array; it is an array with an element that is no number, the first of which is told. A
finding is a property of the text alone, said by the grammar and without readers. Exactly one holds
of a text that is refused, and it is the one that is told.

That the text is read as a whole before anything is classified plays no part in the findings: an
array that is followed by something else, or holds a number that is out of range behind an element
that is no number, is no JSON text.

## Main definitions

* `NumberList.IsMisfit` — the index of an element that is no number
* `NumberList.Finding` — what can be found of a text
* `NumberList.Finding.Holds`, `NumberList.Finding.Tells` — of which texts a finding holds, and how
  it is told

## Main results

* `NumberList.ofItems_eq_error_iff` — the first element that is no number
* `NumberList.parse_tells_finding` — the finding that is told of a text that is refused
-/

namespace OneShot

open Json

def Json.Value.IsNumber : Value → Prop
  | .number _ => True
  | _ => False

def Json.Value.IsArray : Value → Prop
  | .array _ => True
  | _ => False

namespace NumberList

theorem exists_error_of_mapError {ε ε' α : Type} {x : Except ε α} {f : ε → ε'} {e : ε'}
    (h : x.mapError f = .error e) : ∃ error, x = .error error ∧ f error = e := by
  cases x with
  | error error => exact ⟨error, rfl, Except.error.inj h⟩
  | ok a => cases h

/-! ### Findings -/

/-- What can be found of a text. -/
inductive Finding where
  | notJson
  | notArray (found : String)
  | notNumber (index : Nat) (found : String)

/-- The index of an element that is no number. -/
def IsMisfit (values : List Value) (i : Nat) : Prop := ∃ value ∈ values[i]?, ¬value.IsNumber

namespace Finding

/-- The texts of which a finding holds. -/
def Holds (text : String) : Finding → Prop
  | notJson => ∀ value : Value, ¬value.WrittenAs text
  | notArray found => ∃ value : Value, value.WrittenAs text ∧ ¬value.IsArray ∧ kind value = found
  | notNumber index found => ∃ values : List Value, (Value.array values).WrittenAs text ∧
      IsLeast {i | IsMisfit values i} index ∧ ∃ value ∈ values[index]?, kind value = found

/-- How a finding is told. What is wrong with a text that is not JSON is told, too. -/
def Tells (text reason : String) : Finding → Prop
  | notJson => ∃ fault : Fault, reason = "not valid JSON: " ++ fault.message (Utf8.encode text)
  | notArray found => reason = "expected a JSON array, found " ++ found
  | notNumber index found =>
    reason = "element " ++ toString index ++ " is " ++ found ++ ", expected a number"

end Finding

/-! ### The first element that is no number -/

theorem isMisfit_cons_zero {value : Value} {values : List Value} :
    IsMisfit (value :: values) 0 ↔ ¬value.IsNumber := by
  simp [IsMisfit]

theorem isMisfit_cons_succ {value : Value} {values : List Value} {i : Nat} :
    IsMisfit (value :: values) (i + 1) ↔ IsMisfit values i :=
  Iff.rfl

theorem isLeast_cons_of_not_isNumber {value : Value} (h : ¬value.IsNumber) {values : List Value}
    {i : Nat} : IsLeast {i | IsMisfit (value :: values) i} i ↔ i = 0 := by
  have hzero : IsLeast {i | IsMisfit (value :: values) i} 0 :=
    ⟨isMisfit_cons_zero.2 h, fun _ _ => Nat.zero_le _⟩
  exact ⟨fun hi => hi.unique hzero, fun hi => hi ▸ hzero⟩

theorem isLeast_cons_of_isNumber {value : Value} (h : value.IsNumber) {values : List Value}
    {i : Nat} : IsLeast {i | IsMisfit (value :: values) i} i ↔
      ∃ j, IsLeast {j | IsMisfit values j} j ∧ i = j + 1 := by
  constructor
  · rintro ⟨hi, hleast⟩
    cases i with
    | zero => exact absurd h (isMisfit_cons_zero.1 hi)
    | succ j =>
      refine ⟨j, ⟨isMisfit_cons_succ.1 hi, fun k hk => ?_⟩, rfl⟩
      exact Nat.le_of_succ_le_succ (hleast (isMisfit_cons_succ.2 hk))
  · rintro ⟨j, ⟨hj, hleast⟩, rfl⟩
    refine ⟨isMisfit_cons_succ.2 hj, fun k hk => ?_⟩
    cases k with
    | zero => exact absurd h (isMisfit_cons_zero.1 hk)
    | succ k => exact Nat.succ_le_succ (hleast (isMisfit_cons_succ.1 hk))

/-- **Elements are refused for the first one that is no number.** -/
theorem ofItems_eq_error_iff {start : Nat} {values : List Value} {refusal : Refusal} :
    ofItems start values = .error refusal ↔ ∃ i, IsLeast {i | IsMisfit values i} i ∧
      ∃ value ∈ values[i]?, refusal = .notNumber (start + i) (kind value) := by
  induction values generalizing start with
  | nil =>
    refine ⟨nofun, ?_⟩
    rintro ⟨i, -, value, ⟨⟩, -⟩
  | cons value values ih =>
    by_cases hvalue : value.IsNumber
    · cases value with
      | number numeral =>
        have hmap : ofItems start (.number numeral :: values) = .error refusal ↔
            ofItems (start + 1) values = .error refusal := by
          rw [ofItems]
          cases ofItems (start + 1) values with
          | error => exact Iff.rfl
          | ok => exact ⟨nofun, nofun⟩
        simp only [hmap, ih, isLeast_cons_of_isNumber hvalue]
        constructor
        · rintro ⟨j, hj, value, hmem, rfl⟩
          exact ⟨j + 1, ⟨j, hj, rfl⟩, value, hmem, by rw [Nat.add_assoc, Nat.add_comm 1]⟩
        · rintro ⟨_, ⟨j, hj, rfl⟩, value, hmem, rfl⟩
          exact ⟨j, hj, value, hmem, by rw [Nat.add_assoc, Nat.add_comm 1]⟩
      | null | bool | string | array | object => exact hvalue.elim
    · have hfirst : ofItems start (value :: values) = .error (.notNumber start (kind value)) := by
        cases value with
        | number => exact absurd trivial hvalue
        | null | bool | string | array | object => rfl
      simp only [hfirst, isLeast_cons_of_not_isNumber hvalue, exists_eq_left]
      constructor
      · intro h
        exact ⟨value, rfl, (Except.error.inj h).symm⟩
      · rintro ⟨_, ⟨⟩, rfl⟩
        rfl

/-! ### The finding of a text -/

namespace Finding

variable {text : String} {finding : Finding}

theorem holds_iff_of_not_writtenAs (h : ∀ value : Value, ¬value.WrittenAs text) :
    finding.Holds text ↔ finding = .notJson := by
  cases finding with
  | notJson => exact iff_of_true h rfl
  | notArray found => exact iff_of_false (fun ⟨value, hvalue, _⟩ => h value hvalue) nofun
  | notNumber index found => exact iff_of_false (fun ⟨values, hvalues, _⟩ => h _ hvalues) nofun

theorem holds_iff_of_not_isArray {value : Value} (h : value.WrittenAs text)
    (harray : ¬value.IsArray) : finding.Holds text ↔ finding = .notArray (kind value) := by
  cases finding with
  | notJson => exact iff_of_false (fun hnone => hnone value h) nofun
  | notArray found =>
    rw [notArray.injEq]
    constructor
    · rintro ⟨value', h', -, rfl⟩
      rw [h'.unique h]
    · rintro rfl
      exact ⟨value, h, harray, rfl⟩
  | notNumber index found =>
    refine iff_of_false ?_ nofun
    rintro ⟨values, h', -⟩
    rw [← h'.unique h] at harray
    exact harray trivial

theorem holds_iff_of_array {values : List Value} (h : (Value.array values).WrittenAs text) :
    finding.Holds text ↔ ∃ i, IsLeast {i | IsMisfit values i} i ∧
      ∃ value ∈ values[i]?, finding = .notNumber i (kind value) := by
  cases finding with
  | notJson =>
    refine iff_of_false (fun hnone => hnone _ h) ?_
    rintro ⟨_, _, _, _, ⟨⟩⟩
  | notArray found =>
    refine iff_of_false ?_ ?_
    · rintro ⟨value, h', harray, -⟩
      rw [h'.unique h] at harray
      exact harray trivial
    · rintro ⟨_, _, _, _, ⟨⟩⟩
  | notNumber index found =>
    constructor
    · rintro ⟨values', h', hi, value, hvalue, rfl⟩
      cases h'.unique h
      exact ⟨index, hi, value, hvalue, rfl⟩
    · rintro ⟨i, hi, value, hvalue, heq⟩
      cases heq
      exact ⟨values, h, hi, value, hvalue, rfl⟩

end Finding

/-- What is told by a refusal, without the fault. -/
def Refusal.finding : Refusal → Finding
  | notJson _ _ => .notJson
  | notArray found => .notArray found
  | notNumber index found => .notNumber index found

variable {text : String} {refusal : Refusal}

/-- What is decided about the text of a value. -/
theorem parse_of_writtenAs {value : Value} (h : value.WrittenAs text) :
    parse text = ofValue value := by
  rw [parse, Value.parse_eq_ok_iff.2 h]
  rfl

theorem parse_of_not_writtenAs (h : ∀ value : Value, ¬value.WrittenAs text) :
    ∃ fault, parse text = .error (.notJson (Utf8.encode text) fault) := by
  cases hparse : Value.parse (Utf8.encode text) with
  | error fault =>
    refine ⟨fault, ?_⟩
    rw [parse, hparse]
    rfl
  | ok value => exact absurd (Value.parse_eq_ok_iff.1 hparse) (h value)

theorem ofValue_of_not_isArray {value : Value} (h : ¬value.IsArray) :
    ofValue value = .error (.notArray (kind value)) := by
  cases value with
  | array => exact absurd trivial h
  | null | bool | number | string | object => rfl

/-- The finding of a refusal is the only one that holds, and its reason tells it. -/
theorem finding_of_parse (h : parse text = .error refusal) :
    (∀ finding : Finding, finding.Holds text ↔ finding = refusal.finding) ∧
      refusal.finding.Tells text refusal.reason := by
  by_cases hjson : ∃ value : Value, value.WrittenAs text
  · obtain ⟨value, hvalue⟩ := hjson
    rw [parse_of_writtenAs hvalue] at h
    by_cases harray : value.IsArray
    · cases value with
      | array values =>
        obtain ⟨i, hi, value, hmem, rfl⟩ := ofItems_eq_error_iff.1 h
        rw [Nat.zero_add]
        refine ⟨fun finding => (Finding.holds_iff_of_array hvalue).trans ?_, rfl⟩
        constructor
        · rintro ⟨j, hj, value', hmem', rfl⟩
          cases hj.unique hi
          cases Option.mem_unique hmem' hmem
          rfl
        · rintro rfl
          exact ⟨i, hi, value, hmem, rfl⟩
      | null | bool | number | string | object => exact harray.elim
    · rw [ofValue_of_not_isArray harray] at h
      cases h
      exact ⟨fun finding => Finding.holds_iff_of_not_isArray hvalue harray, rfl⟩
  · have hnone := not_exists.1 hjson
    obtain ⟨fault, hfault⟩ := parse_of_not_writtenAs hnone
    rw [hfault] at h
    cases h
    exact ⟨fun finding => Finding.holds_iff_of_not_writtenAs hnone, fault, rfl⟩

/-- A text is refused if there is something to find. -/
theorem exists_refusal_of_holds {finding : Finding} (h : finding.Holds text) :
    ∃ refusal, parse text = .error refusal := by
  cases finding with
  | notJson =>
    obtain ⟨fault, hfault⟩ := parse_of_not_writtenAs h
    exact ⟨_, hfault⟩
  | notArray found =>
    obtain ⟨value, hvalue, harray, -⟩ := h
    exact ⟨_, (parse_of_writtenAs hvalue).trans (ofValue_of_not_isArray harray)⟩
  | notNumber index found =>
    obtain ⟨values, hvalues, hleast, value, hmem, -⟩ := h
    exact ⟨_, (parse_of_writtenAs hvalues).trans
      (ofItems_eq_error_iff.2 ⟨index, hleast, value, hmem, rfl⟩)⟩

/-- **Why a text is refused.** Of a text that is refused exactly one finding holds, and the reason
tells it; of a text that is read none holds. -/
theorem parse_tells_finding (text : String) :
    ((∃ refusal, parse text = .error refusal) ↔ ∃ finding : Finding, finding.Holds text) ∧
      ∀ refusal, parse text = .error refusal →
        (∃! finding : Finding, finding.Holds text) ∧
          ∀ finding : Finding, finding.Holds text → finding.Tells text refusal.reason := by
  refine ⟨⟨?_, fun ⟨finding, hfinding⟩ => exists_refusal_of_holds hfinding⟩, ?_⟩
  · rintro ⟨refusal, h⟩
    exact ⟨refusal.finding, ((finding_of_parse h).1 _).2 rfl⟩
  · intro refusal h
    obtain ⟨honly, htells⟩ := finding_of_parse h
    refine ⟨⟨refusal.finding, (honly _).2 rfl, fun finding hfinding => (honly _).1 hfinding⟩, ?_⟩
    intro finding hfinding
    rw [(honly finding).1 hfinding]
    exact htells

/-- A number that is out of range behind an element that is no number, and two elements that are no
numbers, the first of which holds one that would not be taken, either. -/
theorem parse_tells_finding_behind_null :
    (∃ refusal, parse "[null, 1e999]" = .error refusal ∧
        refusal.reason = "not valid JSON: number out of range at line 1 column 12" ∧
        (∃! finding : Finding, finding.Holds "[null, 1e999]") ∧
          ∀ finding : Finding, finding.Holds "[null, 1e999]" →
            finding.Tells "[null, 1e999]" refusal.reason) ∧
      ∃ refusal, parse "[1, [true], null]" = .error refusal ∧
        refusal.reason = "element 1 is an array, expected a number" ∧
        (∃! finding : Finding, finding.Holds "[1, [true], null]") ∧
          ∀ finding : Finding, finding.Holds "[1, [true], null]" →
            finding.Tells "[1, [true], null]" refusal.reason := by
  have hrange : (parse "[null, 1e999]").mapError Refusal.reason =
      .error "not valid JSON: number out of range at line 1 column 12" := by
    decide +kernel
  have hfirst : (parse "[1, [true], null]").mapError Refusal.reason =
      .error "element 1 is an array, expected a number" := by
    decide +kernel
  obtain ⟨refusal, hrefusal, hreason⟩ := exists_error_of_mapError hrange
  obtain ⟨refusal', hrefusal', hreason'⟩ := exists_error_of_mapError hfirst
  exact ⟨⟨refusal, hrefusal, hreason, (parse_tells_finding _).2 refusal hrefusal⟩,
    refusal', hrefusal', hreason', (parse_tells_finding _).2 refusal' hrefusal'⟩

end NumberList

end OneShot
