import OneShot.Proofs.Number.Decoders
import OneShot.Proofs.Number.List
import OneShot.Proofs.Number.Rational
import OneShot.Proofs.Program
import OneShot.Proofs.Summary.Comparisons

/-!
# What no run of the program reaches

A NaN cannot be written in JSON, and no literal has one as its value, nor an infinity, however many
digits it has and however large its exponent is. So two precautions against them are never needed.
When the elements of a list are converted to floating point numbers, it does not matter what would
stand for a number for which the conversion has no result. When integers are compared with floating
point numbers, the branch of `Number.compareInt` for a NaN is not taken.

That something is not reached is more than that it makes no difference in the end. Therefore reading
a list, comparing two numbers and running the program are told once more, in a way that gives up as
soon as a precaution is needed: where a conversion has no result, and where an integer meets a NaN.
The program told in this way never gives up, `Program.meets_no_nan`, whatever the command line and
the environment are. A run that breaks off, for a list that cannot be sorted, is not one that gives
up: it is told as a run that breaks off.

## Main definitions

* `Json.Conversion` — ways to convert JSON numbers, which may fail for those that are not finite
* `Number.cmp?` — the comparison of two numbers, which gives up where an integer meets a NaN
* `NumberList.parse?` — the numbers of a text, by a conversion that may fail
* `Program.run?` — a run that gives up where a conversion or a comparison does

## Main results

* `NumberList.parse?_eq_some` — no conversion fails, for any text
* `Program.meets_no_nan` — lists that are read are finite, and no run gives up
-/

namespace OneShot

open Json

/-! ### Conversions -/

/-- A way to convert JSON numbers to floating point numbers. It may fail, but not for a number that
is finite, which it takes to the nearest floating point number. -/
structure Json.Conversion where
  toBinary64? : Numeral → Option Binary64
  toBinary64?_of_isFinite {value : Numeral} (h : value.IsFinite) :
    toBinary64? value = some value.toBinary64

namespace Json

theorem Numeral.IsFinite.toBinary64_isFinite {value : Numeral} (h : value.IsFinite) :
    value.toBinary64.IsFinite := by
  cases value with
  | integer i => exact Binary64.ofInt_isFinite h
  | float x => exact h

namespace Conversion

/-- The conversion that fails as often as it may. -/
def strict : Conversion where
  toBinary64? value := if value.toBinary64.IsFinite then some value.toBinary64 else none
  toBinary64?_of_isFinite h := if_pos h.toBinary64_isFinite

end Conversion

end Json

namespace Number

variable {conversion : Conversion} {value : Numeral} {x y : Number}

/-- The number that a JSON number stands for: the integer, if it is one of 64 bits, and else what it
is converted to. -/
def ofNumeral? (conversion : Conversion) (value : Numeral) : Option Number :=
  match asInt64 (.number value) with
  | .ok i => some (.int i)
  | .error _ => (conversion.toBinary64? value).map .float

/-- As long as conversions have results, they are those of `ofNumeral`. -/
theorem ofNumeral?_eq_some (h : conversion.toBinary64? value = some value.toBinary64) :
    ofNumeral? conversion value = some (ofNumeral value) := by
  rw [ofNumeral?, h]
  cases value with
  | integer i =>
    rw [asInt64, ofNumeral]
    split_ifs <;> rfl
  | float x => rfl

/-! ### Comparisons -/

/-- Compares an integer with a floating point number, and gives up if that is a NaN. -/
def compareInt? (i : Int) (x : Binary64) : Option Ordering :=
  if x.IsNaN then none else some (compareInt i x)

/-- Compares two numbers of any form, and gives up where an integer meets a NaN. -/
def cmp? : Number → Number → Option Ordering
  | .int x, .int y => some (compare x.toInt y.toInt)
  | .int x, .float y => compareInt? x.toInt y
  | .float x, .int y => (compareInt? y.toInt x).map Ordering.swap
  | .float x, .float y => some (x.totalOrder y)

theorem cmp?_eq_some (hx : ¬x.IsNaN) (hy : ¬y.IsNaN) : x.cmp? y = some (x.cmp y) := by
  cases x with
  | int i =>
    cases y with
    | int j => rfl
    | float y => exact if_neg hy
  | float x =>
    cases y with
    | int j => exact congrArg (Option.map Ordering.swap) (if_neg hx)
    | float y => rfl

/-- Where a comparison gives up. -/
theorem cmp?_eq_none_iff :
    x.cmp? y = none ↔ x.isInteger ∧ y.IsNaN ∨ x.IsNaN ∧ y.isInteger := by
  cases x with
  | int i =>
    cases y with
    | int j => simp [cmp?, IsNaN]
    | float y => simp [cmp?, compareInt?, IsNaN, isInteger]
  | float x =>
    cases y with
    | int j => simp [cmp?, compareInt?, IsNaN, isInteger]
    | float y => simp [cmp?, isInteger]

/-- A list with a NaN, which gets no summary where comparisons give up. -/
example : Summary.ofList? cmp? [.int 1, .float .nan] = none := by decide +kernel

end Number

/-! ### Lists -/

namespace NumberList

variable (conversion : Conversion)

/-- The numbers that the items of a list are, as `ofItems` has them. -/
def ofItems? (index : Nat) : List Value → Option (Except Refusal (List Number))
  | [] => some (.ok [])
  | .number value :: rest => do
    let number ← Number.ofNumeral? conversion value
    let numbers ← ofItems? (index + 1) rest
    return numbers.map (number :: ·)
  | value :: _ => some (.error (.notNumber index (kind value)))

/-- The numbers of a value, as `ofValue` has them. -/
def ofValue? : Value → Option (Except Refusal (List Number))
  | .array items => ofItems? conversion 0 items
  | value => some (.error (.notArray (kind value)))

/-- The numbers of a text, as `parse` has them. -/
def parse? (text : String) : Option (Except Refusal (List Number)) :=
  let input := Utf8.encode text
  match (Value.parse input).mapError (.notJson input) with
  | .ok value => ofValue? conversion value
  | .error refusal => some (.error refusal)

variable {conversion}

theorem ofItems?_eq_some {items : List Value}
    (h : ∀ value, .number value ∈ items → value.IsFinite) (index : Nat) :
    ofItems? conversion index items = some (ofItems index items) := by
  induction items generalizing index with
  | nil => rfl
  | cons value items ih =>
    cases value with
    | number value =>
      have hvalue : value.IsFinite := h value List.mem_cons_self
      have hitems := ih (fun v hv => h v (List.mem_cons_of_mem _ hv)) (index + 1)
      rw [ofItems?, Number.ofNumeral?_eq_some (conversion.toBinary64?_of_isFinite hvalue), hitems]
      rfl
    | null | bool | string | array | object => rfl

/-- **No conversion fails**, whether the text is a list of numbers or is refused. -/
theorem parse?_eq_some (conversion : Conversion) (text : String) :
    parse? conversion text = some (parse text) := by
  rw [parse?, parse]
  cases hparse : Value.parse (Utf8.encode text) with
  | error fault => rfl
  | ok value =>
    have hfinite : value.NumbersFinite := Value.numbersFinite_of_parse hparse
    cases value with
    | array items => exact ofItems?_eq_some hfinite 0
    | null | bool | number | string | object => rfl

/-- All questions about the elements of a list that was read are answered. -/
theorem answers_of_parse {text : String} {numbers : List Number} (h : parse text = .ok numbers) :
    Summary.Answers Number.cmp? numbers := by
  intro x hx y hy
  have hfinite := isFinite_of_parse h
  exact Number.cmp?_eq_some (hfinite x hx).not_isNaN (hfinite y hy).not_isNaN

end NumberList

/-! ### Requests and responses -/

/-- The request of an instruction, as `request` has it. -/
def Instruction.request? (conversion : Conversion) :
    Instruction → Option (Except NumberList.Refusal Request)
  | processList numbers =>
    (NumberList.parse? conversion numbers).map fun numbers => numbers.map .processList
  | instruction => some instruction.request

theorem Instruction.request?_eq_some (conversion : Conversion) (instruction : Instruction) :
    instruction.request? conversion = some instruction.request := by
  cases instruction with
  | processList numbers =>
    rw [request?, NumberList.parse?_eq_some]
    rfl
  | greet | calculate | analyzeText => rfl

/-- The response to a request, as `respond` has it. -/
def Request.respond? : Request → Option (Option Response)
  | processList numbers => (Summary.ofList? Number.cmp? numbers).map (Option.map .summary)
  | request => some request.respond

/-- The response to a request that an instruction makes. -/
theorem Instruction.respond?_of_request {instruction : Instruction} {request : Request}
    (h : instruction.request = .ok request) : request.respond? = some request.respond := by
  cases instruction with
  | processList text =>
    obtain ⟨numbers, hparse, rfl⟩ := map_eq_ok.1 h
    rw [Request.respond?, Summary.ofList?_eq_some (NumberList.answers_of_parse hparse)]
    rfl
  | greet | calculate | analyzeText =>
    cases h
    rfl

/-! ### Runs -/

namespace Program

/-- A run with a request, as `answer` has it. -/
def answer? (format : Log.Format) (filter : Log.Filter) (request : Request) : Option Outcome := do
  match ← request.respond? with
  | some response => return answered format filter request response
  | none => return brokenOff format filter request

/-- A run with an instruction, as `follow` has it. -/
def follow? (conversion : Conversion) (format : Log.Format) (filter : Log.Filter)
    (instruction : Instruction) : Option Outcome := do
  match ← instruction.request? conversion with
  | .ok request => answer? format filter request
  | .error refusal => return refused format refusal.message

/-- A run of the program, as `run` has it. -/
def run? (conversion : Conversion) (env : Environment) (words : List Bytes) : Option Outcome :=
  match CommandLine.parse? dialect words with
  | none => some misused
  | some (.help topic) => some (printed .text (CommandLine.helpText env.format topic))
  | some .version => some (printed .text CommandLine.versionText)
  | some (.run option instruction) =>
    match format? env option with
    | none => some misused
    | some format =>
      match instruction with
      | none => some (printed format (banner ++ "\n"))
      | some instruction => follow? conversion format (filter env) instruction

theorem answer?_eq_some {request : Request} (h : request.respond? = some request.respond)
    (format : Log.Format) (filter : Log.Filter) :
    answer? format filter request = some (answer format filter request) := by
  rw [answer?, h, answer]
  cases request.respond <;> rfl

theorem follow?_eq_some (conversion : Conversion) (format : Log.Format) (filter : Log.Filter)
    (instruction : Instruction) :
    follow? conversion format filter instruction = some (follow format filter instruction) := by
  rw [follow?, instruction.request?_eq_some conversion]
  rcases follow_cases format filter instruction with
    ⟨request, hrequest, hfollow⟩ | ⟨refusal, hrefusal, hfollow⟩
  · rw [hrequest, hfollow]
    exact answer?_eq_some (Instruction.respond?_of_request hrequest) format filter
  · rw [hrefusal, hfollow]
    rfl

/-- **A run gives up nowhere.** -/
theorem run?_eq_some (conversion : Conversion) (env : Environment) (words : List Bytes) :
    run? conversion env words = some (run env words) := by
  rw [run?, run]
  cases CommandLine.parse? dialect words with
  | none => rfl
  | some invocation =>
    cases invocation with
    | help topic => rfl
    | version => rfl
    | run option instruction =>
      dsimp only
      cases format? env option with
      | none => rfl
      | some format =>
        cases instruction with
        | none => rfl
        | some instruction => exact follow?_eq_some conversion format _ instruction

/-- **No run meets a NaN.** The elements of every list that is read are finite, and so no comparison
of two of them gives up, in whatever way they are sorted; no conversion of a JSON number fails,
whatever the text is; and a run gives up nowhere, whatever the command line and the environment
are. -/
theorem meets_no_nan (conversion : Conversion) :
    (∀ text numbers, NumberList.parse text = .ok numbers →
        (∀ x, .float x ∈ numbers → ¬x.IsNaN ∧ ¬x.IsInfinite) ∧
          ∀ x ∈ numbers, ∀ y ∈ numbers, x.cmp? y = some (x.cmp y)) ∧
      (∀ text, NumberList.parse? conversion text = some (NumberList.parse text)) ∧
      ∀ env words, run? conversion env words = some (run env words) := by
  refine ⟨fun text numbers h => ⟨fun x hx => ?_, NumberList.answers_of_parse h⟩,
    NumberList.parse?_eq_some conversion, run?_eq_some conversion⟩
  have hfinite : x.IsFinite := NumberList.isFinite_of_parse h _ hx
  exact ⟨Binary64.not_isNaN_of_isFinite hfinite, hfinite.ne⟩

/-- An integer and the largest number, in a run whose conversions fail as often as they may. -/
theorem meets_no_nan_largest :
    NumberList.parse "[1, 1.7976931348623157e308]" =
        .ok [.int 1, .float (.ofBits 0x7FEFFFFFFFFFFFFF)] ∧
      (∀ x, .float x ∈ [Number.int 1, .float (.ofBits 0x7FEFFFFFFFFFFFFF)] →
        ¬x.IsNaN ∧ ¬x.IsInfinite) ∧
      (Number.int 1).cmp? (.float (.ofBits 0x7FEFFFFFFFFFFFFF)) = some .lt ∧
      run? .strict .empty (["process_list", "[1, 1.7976931348623157e308]"].map Utf8.encode) =
        some (run .empty (["process_list", "[1, 1.7976931348623157e308]"].map Utf8.encode)) := by
  have hread : (NumberList.parse "[1, 1.7976931348623157e308]").mapError NumberList.Refusal.reason =
      .ok [.int 1, .float (.ofBits 0x7FEFFFFFFFFFFFFF)] := by
    decide +kernel
  have hparse := mapError_eq_ok.1 hread
  obtain ⟨hlists, -, hruns⟩ := meets_no_nan .strict
  obtain ⟨hfinite, hcompares⟩ := hlists _ _ hparse
  have hcmp : (Number.int 1).cmp (.float (.ofBits 0x7FEFFFFFFFFFFFFF)) = .lt := by decide +kernel
  refine ⟨hparse, hfinite, ?_, hruns .empty _⟩
  rw [hcompares _ List.mem_cons_self _ (List.mem_cons_of_mem _ List.mem_cons_self), hcmp]

end Program

end OneShot
