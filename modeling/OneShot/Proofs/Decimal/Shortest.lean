import OneShot.Decimal.Shortest
import OneShot.Proofs.Decimal.Nearest

/-!
# The shortest decimal

Seventeen digits are enough: on the grid of decimals with seventeen digits the distance of a
magnitude to its nearest point is less than half a gap, so that this point rounds to the magnitude,
`readsBack_of_near`. Hence the search for the shortest decimal always ends on one of its grids and
never falls back on the exact value.

Distances are compared on a common denominator `10 ^ k`, on which the step of a grid is
`10 ^ (exponent + k)` times `unitsPerOne`.

## Main results

* `leadingPlace_spec` — the leading digit of a magnitude
* `readsBack_of_near` — seventeen digits are enough
* `shortest_spec` — the shortest decimal reads back and has at most seventeen digits
* `shortest_le_last` — it does not exceed the largest finite magnitude
-/

namespace OneShot.Decimal

open Binary64

/-! ### The leading digit -/

theorem toDigits_bounds {n : Nat} (h : 0 < n) :
    10 ^ ((Nat.toDigits 10 n).length - 1) ≤ n ∧ n < 10 ^ (Nat.toDigits 10 n).length := by
  have hpos : 0 < (Nat.toDigits 10 n).length := Nat.length_toDigits_pos
  refine ⟨?_, (Nat.length_toDigits_le_iff (by decide) hpos).1 (Nat.le_refl _)⟩
  rcases Nat.eq_zero_or_pos ((Nat.toDigits 10 n).length - 1) with hone | hmore
  · rw [hone, pow_zero]
    exact h
  · rw [← Nat.not_lt, ← Nat.length_toDigits_le_iff (by decide) hmore]
    omega

/-- The leading digit of a magnitude has the place before `leadingPlace`. -/
theorem leadingPlace_spec {code : Nat} (h : code ≠ 0) :
    ∃ n : Nat, 0 < n ∧ leadingPlace code = n - 324 ∧
      10 ^ (n - 1) * unitsPerOne ≤ magnitude code * 10 ^ 324 ∧
      magnitude code * 10 ^ 324 < 10 ^ n * unitsPerOne := by
  have hunits : unitsPerOne ≤ magnitude code * 10 ^ 324 := by
    calc unitsPerOne ≤ 10 ^ 324 := by decide +kernel
      _ ≤ magnitude code * 10 ^ 324 := Nat.le_mul_of_pos_left _ (magnitude_pos h)
  have hpos : 0 < magnitude code * 10 ^ 324 / unitsPerOne := Nat.div_pos hunits unitsPerOne_pos
  obtain ⟨hlow, hhigh⟩ := toDigits_bounds hpos
  refine ⟨_, Nat.length_toDigits_pos, rfl, ?_, ?_⟩
  · exact (Nat.le_div_iff_mul_le unitsPerOne_pos).1 hlow
  · exact (Nat.div_lt_iff_lt_mul unitsPerOne_pos).1 hhigh

/-! ### Grids -/

/-- The quotient of a magnitude by the step of a grid, on a common denominator. -/
theorem gridRatio_mul (code : Nat) {exponent : Int} {k : Nat} (hk : 0 ≤ exponent + k) :
    (gridRatio code exponent).1 * (10 ^ (exponent + k).toNat * unitsPerOne) =
      (gridRatio code exponent).2 * (magnitude code * 10 ^ k) := by
  have hpow : Nat.pow 10 (-exponent).toNat = 10 ^ (-exponent).toNat := Nat.pow_eq
  rw [gridRatio]
  generalize unitsPerOne = units
  split_ifs with he
  · rw [Int.toNat_add he (Int.natCast_nonneg k), Int.toNat_natCast, pow_add, Nat.pow_eq]
    ring
  · have hsplit : k = (exponent + k).toNat + (-exponent).toNat := by omega
    rw [show 10 ^ k = 10 ^ (exponent + k).toNat * 10 ^ (-exponent).toNat by
      rw [← pow_add, ← hsplit], hpow]
    ring

theorem gridRatio_pos (code : Nat) (exponent : Int) : 0 < (gridRatio code exponent).2 := by
  have hunits := unitsPerOne_pos
  rw [gridRatio]
  generalize unitsPerOne = units at hunits ⊢
  split_ifs
  · exact Nat.mul_pos hunits (Nat.pow_pos (by decide))
  · exact hunits

/-- A decimal within half a step of a magnitude reads back, if the magnitude is at least `10 ^ 16`
steps: half a step is then less than half a gap. -/
theorem readsBack_of_near {code m k : Nat} {exponent : Int} (h0 : code ≠ 0)
    (hcode : code < infinityCode) (hk : 0 ≤ exponent + k) {step : Nat}
    (hstep : step = 10 ^ (exponent + k).toNat * unitsPerOne)
    (hfine : 10 ^ 16 * step ≤ magnitude code * 10 ^ k)
    (hlow : 2 * (magnitude code * 10 ^ k) ≤ 2 * (m * step) + step)
    (hhigh : 2 * (m * step) ≤ 2 * (magnitude code * 10 ^ k) + step) :
    ReadsBack code ⟨m, exponent⟩ := by
  have hpow : 0 < 10 ^ k := Nat.pow_pos (by decide)
  obtain ⟨c, rfl⟩ : ∃ c, code = c + 1 := Nat.exists_eq_succ_of_ne_zero h0
  have hfiner {g : Nat} (hg : magnitude (c + 1) ≤ 2 * binadeSize * g) : step < g * 10 ^ k := by
    have hgpos : 0 < g * 10 ^ k := by
      refine Nat.mul_pos (Nat.pos_of_ne_zero ?_) hpow
      rintro rfl
      exact absurd (magnitude_pos h0) (Nat.not_lt.2 hg)
    refine Nat.lt_of_mul_lt_mul_left (a := 10 ^ 16) ?_
    calc 10 ^ 16 * step ≤ magnitude (c + 1) * 10 ^ k := hfine
      _ ≤ 2 * binadeSize * g * 10 ^ k := Nat.mul_le_mul_right _ hg
      _ = 2 * binadeSize * (g * 10 ^ k) := Nat.mul_assoc ..
      _ < 10 ^ 16 * (g * 10 ^ k) := Nat.mul_lt_mul_of_pos_right (by decide) hgpos
  have hgap : step < gap c * 10 ^ k := hfiner (magnitude_succ_le c)
  have hgap' : step < gap (c + 1) * 10 ^ k :=
    hfiner ((magnitude_strictMono (c + 1).lt_succ_self).le.trans (magnitude_succ_le (c + 1)))
  rw [ReadsBack, codeOfDecimal_eq_roundCode _ hk]
  dsimp only
  rw [Nat.mul_assoc, ← hstep]
  have hsucc (c : Nat) : magnitude (c + 1) * 10 ^ k = magnitude c * 10 ^ k + gap c * 10 ^ k := by
    rw [magnitude_succ, Nat.add_mul]
  refine roundCode_eq_of_between hpow hcode (fun _ => ?_) ?_
  · rw [Nat.add_sub_cancel]
    linarith [hsucc c]
  · linarith [hsucc (c + 1)]

/-! ### The search -/

/-- What is taken from a grid is one of the two neighbours, and reads back. -/
theorem neighbour?_spec {tie : Tie} {code : Nat} {exponent : Int} {d : Decimal}
    (h : neighbour? tie code exponent = some d) :
    ReadsBack code d ∧ d.exponent = exponent ∧
      d.coefficient ≤ (gridRatio code exponent).1 / (gridRatio code exponent).2 + 1 := by
  rw [neighbour?] at h
  dsimp only at h
  split_ifs at h with hlow hhigh hhigh <;> cases h
  · exact ⟨hhigh.1, rfl, Nat.le_refl _⟩
  · exact ⟨hlow, rfl, Nat.le_succ _⟩
  · exact ⟨hhigh, rfl, Nat.le_refl _⟩

/-- A grid gives something if one of the two neighbours reads back. -/
theorem neighbour?_isSome {tie : Tie} {code : Nat} {exponent : Int}
    (h : ReadsBack code ⟨(gridRatio code exponent).1 / (gridRatio code exponent).2, exponent⟩ ∨
      ReadsBack code ⟨(gridRatio code exponent).1 / (gridRatio code exponent).2 + 1, exponent⟩) :
    (neighbour? tie code exponent).isSome := by
  rw [neighbour?]
  dsimp only
  split_ifs with hlow _ hhigh
  · rfl
  · rfl
  · rfl
  · exact absurd h (not_or.2 ⟨hlow, hhigh⟩)

/-- On the grid with `n + 1` digits a magnitude has less than `10 ^ (n + 1)` steps. -/
theorem gridRatio_div_lt {code n : Nat} (h : code ≠ 0) (hn : n ≤ 16) :
    (gridRatio code (leadingPlace code - (n + 1))).1 /
        (gridRatio code (leadingPlace code - (n + 1))).2 < 10 ^ (n + 1) := by
  obtain ⟨place, hpos, hplace, -, hhigh⟩ := leadingPlace_spec h
  have hden := gridRatio_pos code (leadingPlace code - (n + 1))
  have hk : 0 ≤ leadingPlace code - (n + 1) + (341 : Nat) := by omega
  have hmul := gridRatio_mul code hk
  rw [show (leadingPlace code - (n + 1) + (341 : Nat)).toNat = place + 16 - n by omega] at hmul
  generalize gridRatio code (leadingPlace code - (n + 1)) = g at hden hmul ⊢
  have hunits := unitsPerOne_pos
  generalize unitsPerOne = units at hunits hhigh hmul
  rw [Nat.div_lt_iff_lt_mul hden]
  refine Nat.lt_of_mul_lt_mul_right (a := 10 ^ (place + 16 - n) * units) ?_
  calc g.1 * (10 ^ (place + 16 - n) * units) = g.2 * (magnitude code * 10 ^ 341) := hmul
    _ = g.2 * (magnitude code * 10 ^ 324 * 10 ^ 17) := by rw [Nat.mul_assoc, ← pow_add]
    _ < g.2 * (10 ^ place * units * 10 ^ 17) :=
      Nat.mul_lt_mul_of_pos_left (Nat.mul_lt_mul_of_pos_right hhigh (by decide)) hden
    _ = g.2 * units * 10 ^ (place + 17) := by rw [pow_add]; ring
    _ = g.2 * units * 10 ^ (n + 1 + (place + 16 - n)) := by
      rw [show n + 1 + (place + 16 - n) = place + 17 by omega]
    _ = 10 ^ (n + 1) * g.2 * (10 ^ (place + 16 - n) * units) := by rw [pow_add]; ring

/-- With seventeen digits there is a decimal that reads back. -/
theorem neighbour?_seventeen {tie : Tie} {code : Nat} (h : code ≠ 0) (hcode : code < infinityCode) :
    (neighbour? tie code (leadingPlace code - ((16 : Nat) + 1))).isSome := by
  obtain ⟨place, hpos, hplace, hlow, -⟩ := leadingPlace_spec h
  have hk : 0 ≤ leadingPlace code - ((16 : Nat) + 1) + (341 : Nat) := by omega
  have hstep : (leadingPlace code - ((16 : Nat) + 1) + (341 : Nat)).toNat = place := by omega
  have hden := gridRatio_pos code (leadingPlace code - ((16 : Nat) + 1))
  have hmul := gridRatio_mul code hk
  refine neighbour?_isSome ?_
  have hnear (m : Nat) := readsBack_of_near (m := m) h hcode hk rfl
  rw [hstep] at hmul hnear
  generalize gridRatio code (leadingPlace code - ((16 : Nat) + 1)) = g at hden hmul ⊢
  have hfine : 10 ^ 16 * (10 ^ place * unitsPerOne) ≤ magnitude code * 10 ^ 341 := by
    obtain ⟨n, rfl⟩ := Nat.exists_eq_succ_of_ne_zero (Nat.pos_iff_ne_zero.1 hpos)
    rw [Nat.succ_sub_one] at hlow
    generalize unitsPerOne = units at hlow ⊢
    calc 10 ^ 16 * (10 ^ (n + 1) * units) = 10 ^ n * units * 10 ^ 17 := by rw [pow_succ]; ring
      _ ≤ magnitude code * 10 ^ 324 * 10 ^ 17 := Nat.mul_le_mul_right _ hlow
      _ = magnitude code * 10 ^ 341 := by rw [Nat.mul_assoc, ← pow_add]
  have hdm : g.2 * (g.1 / g.2) + g.1 % g.2 = g.1 := Nat.div_add_mod g.1 g.2
  have hr : g.1 % g.2 < g.2 := Nat.mod_lt _ hden
  generalize 10 ^ place * unitsPerOne = step at hmul hnear hfine
  generalize magnitude code * 10 ^ 341 = value at hmul hnear hfine
  generalize g.1 / g.2 = q at hdm ⊢
  generalize g.1 % g.2 = r at hdm hr
  rw [← hdm] at hmul
  have hrest : 0 ≤ r * step := Nat.zero_le _
  have hrest' : r * step ≤ g.2 * step := Nat.mul_le_mul_right step hr.le
  -- the rest of the division decides which of the two neighbours is near
  rcases Nat.le_total (2 * r) g.2 with hhalf | hhalf
  · have hhalf' := Nat.mul_le_mul_right step hhalf
    refine .inl (hnear q hfine ?_ ?_) <;> refine Nat.le_of_mul_le_mul_left ?_ hden <;> linarith
  · have hhalf' := Nat.mul_le_mul_right step hhalf
    refine .inr (hnear (q + 1) hfine ?_ ?_) <;> refine Nat.le_of_mul_le_mul_left ?_ hden <;>
      linarith

/-- The search ends on one of its grids. -/
theorem exists_neighbour?_eq_shortest (tie : Tie) {code : Nat} (h : code ≠ 0)
    (hcode : code < infinityCode) :
    ∃ (n : Nat) (d : Decimal), n ≤ 16 ∧ neighbour? tie code (leadingPlace code - (n + 1)) = some d ∧
      shortest tie code = d.trim := by
  have hsome : ((List.range 17).findSome? fun (n : Nat) =>
      neighbour? tie code (leadingPlace code - (n + 1))).isSome := by
    rw [List.findSome?_isSome_iff]
    exact ⟨16, List.mem_range.2 (by decide), neighbour?_seventeen h hcode⟩
  obtain ⟨d, hd⟩ := Option.isSome_iff_exists.1 hsome
  obtain ⟨n, hn, hneighbour⟩ := List.exists_of_findSome?_eq_some hd
  refine ⟨n, d, Nat.le_of_lt_succ (List.mem_range.1 hn), hneighbour, ?_⟩
  rw [shortest, if_neg h]
  dsimp only
  rw [hd]
  rfl

/-- **The shortest decimal reads back**, and it has at most seventeen digits: its coefficient is at
most `10 ^ 17`, before any zeros are trimmed away. -/
theorem shortest_spec (tie : Tie) {code : Nat} (hcode : code < infinityCode) :
    codeOfDecimal (shortest tie code) = code ∧ (shortest tie code).coefficient ≤ 10 ^ 17 ∧
      -400 ≤ (shortest tie code).exponent := by
  by_cases h : code = 0
  · subst h
    cases tie <;> decide
  · obtain ⟨n, d, hn, hneighbour, heq⟩ := exists_neighbour?_eq_shortest tie h hcode
    obtain ⟨hreads, hexponent, hcoefficient⟩ := neighbour?_spec hneighbour
    obtain ⟨place, hpos, hplace, -, -⟩ := leadingPlace_spec h
    have hlt := gridRatio_div_lt h hn
    have hpow : 10 ^ (n + 1) ≤ 10 ^ 17 := Nat.pow_le_pow_right (by decide) (by omega)
    have htrim := coefficient_trim_le d
    have htrim' := exponent_le_trim d
    rw [heq]
    exact ⟨(codeOfDecimal_trim d).trans hreads, by omega, by omega⟩

theorem shortest_coefficient_ne_zero (tie : Tie) {code : Nat} (h : code ≠ 0)
    (hcode : code < infinityCode) : (shortest tie code).coefficient ≠ 0 := by
  intro hzero
  obtain ⟨hreads, -⟩ := shortest_spec tie hcode
  rw [codeOfDecimal, if_pos hzero] at hreads
  exact h hreads.symm

theorem shortest_last (tie : Tie) : shortest tie (infinityCode - 1) = ⟨17976931348623157, 292⟩ := by
  cases tie <;> decide +kernel

/-- No shortest decimal exceeds the largest finite magnitude. -/
theorem shortest_le_last (tie : Tie) {code : Nat} (hcode : code < infinityCode) {k : Nat}
    (hk : 0 ≤ (shortest tie code).exponent + k) :
    (shortest tie code).coefficient * 10 ^ ((shortest tie code).exponent + k).toNat *
      unitsPerOne ≤ magnitude (infinityCode - 1) * 10 ^ k := by
  rcases Nat.lt_or_ge code (infinityCode - 1) with hlt | hge
  · refine le_magnitude_of_codeOfDecimal_lt ?_ (by decide) hk
    rwa [(shortest_spec tie hcode).1]
  · obtain rfl : code = infinityCode - 1 := by omega
    have hlast : 17976931348623157 * 10 ^ 292 * unitsPerOne ≤ magnitude (infinityCode - 1) := by
      decide +kernel
    rw [shortest_last]
    dsimp only
    rw [show ((292 : Int) + k).toNat = 292 + k by omega, pow_add, ← Nat.mul_assoc,
      Nat.mul_right_comm]
    exact Nat.mul_le_mul_right _ hlast

theorem shortest_le_last_of_nonneg (tie : Tie) {code : Nat} (hcode : code < infinityCode)
    (h : 0 ≤ (shortest tie code).exponent) :
    (shortest tie code).coefficient * 10 ^ (shortest tie code).exponent.toNat * unitsPerOne ≤
      magnitude (infinityCode - 1) := by
  have hlast := shortest_le_last tie hcode (k := 0) (by omega)
  generalize magnitude (infinityCode - 1) = last at hlast ⊢
  generalize unitsPerOne = units at hlast ⊢
  rwa [Int.natCast_zero, Int.add_zero, pow_zero, Nat.mul_one] at hlast

end OneShot.Decimal
