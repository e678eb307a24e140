import Mathlib.Tactic.Linarith
import Mathlib.Tactic.Ring
import OneShot.Binary64.Rounding

/-!
# Which code a quotient rounds to

`roundCode` is given by an algorithm: find the grid, divide, round the quotient. Everything that is
proved about rounding goes through one description of its result that does not mention a grid,

> `roundCode num den ≤ c`  ⟺  `num / den` lies below the middle between the magnitudes of `c` and
> `c + 1`, or on it while `c` is even,

which is `roundCode_le_iff`. The right-hand side speaks of the quotient alone and is monotone in it,
so that monotonicity, independence of the fraction and exactness are read off.

## Main results

* `magnitude_add_mul`, `magnitude_succ`, `magnitude_strictMono` — magnitudes along the codes
* `roundCode_le_iff` — the description
* `roundCode_mono`, `roundCode_congr` — a function of the quotient, and a monotone one
* `roundCode_magnitude` — a magnitude is its own rounding
* `roundCode_eq_of_between`, `roundCode_le_of_le`, `le_roundCode_of_le` — bounds on the result
-/

namespace OneShot.Binary64

/-! ### Magnitudes along the codes -/

theorem unitsPerOne_eq : unitsPerOne = 2 ^ 1074 := Nat.pow_eq

theorem unitsPerOne_pos : 0 < unitsPerOne := by
  rw [unitsPerOne_eq]
  exact pow_pos (by decide) _

/-- The code of `k` steps on the grid of width `2 ^ s`. The upper end belongs to the next grid as
well, and both readings agree. -/
theorem magnitude_add_mul {k s : Nat} (hk : binadeSize ≤ k) (hk' : k ≤ 2 * binadeSize) :
    magnitude (k + s * binadeSize) = k * 2 ^ s := by
  have hB : 0 < binadeSize := by decide
  rcases Nat.lt_or_ge k (2 * binadeSize) with hlt | hge
  · have hdiv : (k + s * binadeSize) / binadeSize = s + 1 := by
      have hone : k / binadeSize = 1 := Nat.div_eq_of_lt_le (by omega) (by omega)
      rw [Nat.add_mul_div_right _ _ hB, hone, Nat.add_comm]
    have hmod : (k + s * binadeSize) % binadeSize = k - binadeSize := by
      rw [Nat.add_mul_mod_self_right, Nat.mod_eq_sub_mod hk, Nat.mod_eq_of_lt (by omega)]
    rw [magnitude, if_neg (by rw [Nat.not_lt]; exact Nat.le_add_right_of_le hk), hdiv, hmod,
      Nat.add_sub_cancel' hk, Nat.add_sub_cancel]
    rfl
  · obtain rfl : k = 2 * binadeSize := Nat.le_antisymm hk' hge
    have hsum : 2 * binadeSize + s * binadeSize = (s + 2) * binadeSize := by ring
    rw [magnitude, hsum, if_neg (by rw [Nat.not_lt]; exact Nat.le_mul_of_pos_left _ (by omega)),
      Nat.mul_mod_left, Nat.mul_div_cancel _ hB, Nat.add_zero]
    change binadeSize * 2 ^ (s + 1) = 2 * binadeSize * 2 ^ s
    ring

/-- Up to twice the size of a binade, codes count units. -/
theorem magnitude_of_le {c : Nat} (h : c ≤ 2 * binadeSize) : magnitude c = c := by
  rcases Nat.lt_or_ge c binadeSize with hlt | hge
  · rw [magnitude, if_pos hlt]
  · simpa using magnitude_add_mul (s := 0) hge h

/-- Every code from the second binade on is a number of steps on the grid of its exponent. -/
theorem exists_grid {c : Nat} (h : binadeSize ≤ c) :
    ∃ k, binadeSize ≤ k ∧ k < 2 * binadeSize ∧
      c = k + (c / binadeSize - 1) * binadeSize := by
  have hB : 0 < binadeSize := by decide
  have hmod : c % binadeSize < binadeSize := Nat.mod_lt _ hB
  have hdiv : 1 ≤ c / binadeSize := (Nat.one_le_div_iff hB).mpr h
  refine ⟨binadeSize + c % binadeSize, by omega, by omega, ?_⟩
  obtain ⟨e, he⟩ := Nat.exists_eq_add_of_le' hdiv
  have hc : binadeSize * (c / binadeSize) + c % binadeSize = c := Nat.div_add_mod _ _
  rw [he] at hc ⊢
  rw [Nat.add_sub_cancel]
  linarith

/-- How far the next magnitude is away. -/
def gap (c : Nat) : Nat := 2 ^ (c / binadeSize - 1)

theorem gap_pos (c : Nat) : 0 < gap c := Nat.two_pow_pos _

theorem magnitude_succ (c : Nat) : magnitude (c + 1) = magnitude c + gap c := by
  rcases Nat.lt_or_ge c binadeSize with h | h
  · rw [magnitude_of_le (by omega), magnitude_of_le (by omega), gap, Nat.div_eq_of_lt h,
      Nat.zero_sub, pow_zero]
  · obtain ⟨k, hk, hk', hc⟩ := exists_grid h
    rw [gap]
    generalize c / binadeSize - 1 = s at hc ⊢
    subst hc
    rw [magnitude_add_mul hk hk'.le, Nat.add_right_comm,
      magnitude_add_mul (Nat.le_succ_of_le hk) hk', Nat.succ_mul]

theorem magnitude_strictMono : StrictMono magnitude :=
  strictMono_nat_of_lt_succ fun c => by
    rw [magnitude_succ]
    exact Nat.lt_add_of_pos_right (gap_pos c)

theorem magnitude_le_magnitude {c d : Nat} : magnitude c ≤ magnitude d ↔ c ≤ d :=
  magnitude_strictMono.le_iff_le

theorem magnitude_pos {c : Nat} (h : c ≠ 0) : 0 < magnitude c := by
  have := magnitude_strictMono (Nat.pos_of_ne_zero h)
  exact Nat.lt_of_le_of_lt (Nat.zero_le _) this

/-- A magnitude is at most `2 ^ 53` times as large as the gap below it. -/
theorem magnitude_succ_le (c : Nat) : magnitude (c + 1) ≤ 2 * binadeSize * gap c := by
  rcases Nat.lt_or_ge c binadeSize with h | h
  · have hgap : gap c = 1 := by rw [gap, Nat.div_eq_of_lt h, Nat.zero_sub, pow_zero]
    rw [magnitude_of_le (by omega), hgap]
    omega
  · obtain ⟨k, hk, hk', hc⟩ := exists_grid h
    rw [gap]
    generalize c / binadeSize - 1 = s at hc ⊢
    subst hc
    rw [Nat.add_right_comm, magnitude_add_mul (Nat.le_succ_of_le hk) hk']
    exact Nat.mul_le_mul_right _ hk'

/-! ### Rounding to an integer -/

/-- Rounding to the nearest integer, described without the quotient: it stays at or below `k` up to
the middle between `k` and `k + 1`, and on the middle if `k` is even. -/
theorem roundDiv_le_iff {num den : Nat} (hden : 0 < den) (k : Nat) :
    roundDiv num den ≤ k ↔
      2 * num < (2 * k + 1) * den ∨ 2 * num = (2 * k + 1) * den ∧ k % 2 = 0 := by
  have hdm : den * (num / den) + num % den = num := Nat.div_add_mod num den
  have hr : num % den < den := Nat.mod_lt _ hden
  rw [roundDiv]
  generalize num / den = q at hdm ⊢
  generalize num % den = r at hdm hr ⊢
  subst hdm
  rcases Nat.lt_trichotomy k q with h | rfl | h
  · -- `k` is below the integer part, and so is the middle above `k`.
    have hmul : (k + 1) * den ≤ q * den := Nat.mul_le_mul_right _ h
    have : ¬(2 * (den * q + r) < (2 * k + 1) * den ∨
        2 * (den * q + r) = (2 * k + 1) * den ∧ k % 2 = 0) := by
      rintro (h1 | ⟨h1, -⟩) <;> nlinarith
    simp only [this, iff_false, Nat.not_le]
    split_ifs <;> omega
  · have h1 : 2 * (den * k + r) < (2 * k + 1) * den ↔ 2 * r < den := by
      constructor <;> intro h <;> nlinarith
    have h2 : 2 * (den * k + r) = (2 * k + 1) * den ↔ 2 * r = den := by
      constructor <;> intro h <;> nlinarith
    rw [h1, h2]
    split_ifs <;> omega
  · have hmul : (q + 1) * den ≤ k * den := Nat.mul_le_mul_right _ h
    have : 2 * (den * q + r) < (2 * k + 1) * den := by nlinarith
    simp only [this, true_or, iff_true]
    split_ifs <;> omega

/-! ### Rounding to a code -/

/-- The grid on which a quotient lies: below `2 ^ 53` whole units the units themselves, and from
there on the grid on which the quotient has between `2 ^ 52` and `2 ^ 53` steps. -/
theorem gridExponent_spec (q : Nat) :
    q < 2 * binadeSize ∧ gridExponent q = 0 ∨
      binadeSize * 2 ^ gridExponent q ≤ q ∧ q < 2 * binadeSize * 2 ^ gridExponent q := by
  rcases Nat.lt_or_ge q (2 * binadeSize) with h | h
  · exact Or.inl ⟨h, if_pos h⟩
  · have hB : binadeSize = 2 ^ 52 := by norm_num [binadeSize]
    have hq : q ≠ 0 := by rintro rfl; simp [binadeSize] at h
    have hlog : 52 ≤ q.log2 := (Nat.le_log2 hq).mpr (by omega)
    obtain ⟨e, he⟩ := Nat.exists_eq_add_of_le hlog
    have hlow : 2 ^ q.log2 ≤ q := Nat.log2_self_le hq
    have hhigh : q < 2 ^ (q.log2 + 1) := Nat.lt_log2_self
    have hgrid : gridExponent q = e := by
      rw [gridExponent, if_neg (by omega), he, Nat.add_sub_cancel_left]
    rw [he] at hlow hhigh
    rw [hgrid, hB]
    refine Or.inr ⟨?_, ?_⟩
    · rwa [← pow_add]
    · rwa [← pow_succ', ← pow_add, Nat.add_right_comm]

/-- What rounding on one grid means for the codes, where the quotient lies on that grid. -/
theorem roundDiv_grid_le_iff {num den s : Nat} (hden : 0 < den)
    (hlow : s = 0 ∨ binadeSize * 2 ^ s * den ≤ num) (hhigh : num < 2 * binadeSize * 2 ^ s * den)
    (c : Nat) :
    roundDiv num (den * 2 ^ s) + s * binadeSize ≤ c ↔
      2 * num < (magnitude c + magnitude (c + 1)) * den ∨
        2 * num = (magnitude c + magnitude (c + 1)) * den ∧ c % 2 = 0 := by
  have hB : 0 < binadeSize := by decide
  have hsden : 0 < den * 2 ^ s := Nat.mul_pos hden (Nat.two_pow_pos s)
  rcases Nat.lt_or_ge c (2 * binadeSize + s * binadeSize) with hc | hc
  · by_cases hbelow : s ≠ 0 ∧ c < binadeSize + s * binadeSize
    · -- Below the grid: the quotient has at least `2 ^ 52` steps.
      have hnum : binadeSize * 2 ^ s * den ≤ num := hlow.resolve_left hbelow.1
      have hmag : magnitude (c + 1) ≤ binadeSize * 2 ^ s := by
        rw [← magnitude_add_mul le_rfl (by omega)]
        exact magnitude_le_magnitude.mpr hbelow.2
      have hlt : magnitude c < magnitude (c + 1) := magnitude_strictMono c.lt_succ_self
      have hround : ¬roundDiv num (den * 2 ^ s) ≤ binadeSize - 1 := by
        obtain ⟨b, hb⟩ := Nat.exists_eq_add_of_le' hB
        rw [roundDiv_le_iff hsden, hb, Nat.add_sub_cancel]
        rw [hb] at hnum
        rintro (h | ⟨h, -⟩) <;> nlinarith
      have hsum : (magnitude c + magnitude (c + 1)) * den < 2 * num := by nlinarith
      refine iff_of_false (by omega) ?_
      rintro (h | ⟨h, -⟩) <;> omega
    · -- On the grid: the magnitudes next to the middle are `k` and `k + 1` steps.
      obtain ⟨k, rfl⟩ : ∃ k, c = k + s * binadeSize := by
        refine ⟨c - s * binadeSize, (Nat.sub_add_cancel ?_).symm⟩
        rcases Nat.eq_zero_or_pos s with rfl | hs
        · simp
        · omega
      have hmag : magnitude (k + s * binadeSize) = k * 2 ^ s ∧
          magnitude (k + s * binadeSize + 1) = (k + 1) * 2 ^ s := by
        rcases Nat.eq_zero_or_pos s with rfl | hs
        · simp only [Nat.zero_mul, Nat.add_zero, pow_zero, Nat.mul_one] at hc ⊢
          exact ⟨magnitude_of_le (by omega), magnitude_of_le (by omega)⟩
        · rw [Nat.add_right_comm]
          exact ⟨magnitude_add_mul (by omega) (by omega),
            magnitude_add_mul (by omega) (by omega)⟩
      have heven : (k + s * binadeSize) % 2 = k % 2 := by
        rw [show binadeSize = 2 * (binadeSize / 2) from rfl, Nat.mul_left_comm,
          Nat.add_mul_mod_self_left]
      rw [Nat.add_le_add_iff_right, roundDiv_le_iff hsden, hmag.1, hmag.2, heven,
        show (k * 2 ^ s + (k + 1) * 2 ^ s) * den = (2 * k + 1) * (den * 2 ^ s) by ring]
  · -- Above the grid: the quotient has at most `2 ^ 53` steps.
    have hmag : 2 * binadeSize * 2 ^ s ≤ magnitude c := by
      rw [← magnitude_add_mul (by omega) le_rfl]
      exact magnitude_le_magnitude.mpr hc
    have hround : roundDiv num (den * 2 ^ s) ≤ 2 * binadeSize :=
      (roundDiv_le_iff hsden _).mpr (Or.inl (by nlinarith))
    have hsum : 2 * num < (magnitude c + magnitude (c + 1)) * den := by
      rw [magnitude_succ]
      nlinarith [Nat.mul_le_mul_right den hmag]
    exact iff_of_true (by omega) (Or.inl hsum)

/-- **Rounding, described.** A quotient rounds to `c` or below exactly when it lies below the middle
between the magnitudes of `c` and `c + 1`, or on it while `c` is even. -/
theorem roundCode_le_iff {num den c : Nat} (hden : 0 < den) (hc : c < infinityCode) :
    roundCode num den ≤ c ↔
      2 * num < (magnitude c + magnitude (c + 1)) * den ∨
        2 * num = (magnitude c + magnitude (c + 1)) * den ∧ c % 2 = 0 := by
  have hpow : 0 < 2 ^ gridExponent (num / den) := Nat.two_pow_pos _
  have hspec := gridExponent_spec (num / den)
  have hhigh : num / den < 2 * binadeSize * 2 ^ gridExponent (num / den) := by
    rcases hspec with ⟨h, h0⟩ | ⟨-, h⟩
    · rw [h0]; omega
    · exact h
  have hlow : gridExponent (num / den) = 0 ∨
      binadeSize * 2 ^ gridExponent (num / den) * den ≤ num := by
    rcases hspec with ⟨-, h0⟩ | ⟨h, -⟩
    · exact Or.inl h0
    · exact Or.inr ((Nat.le_div_iff_mul_le hden).mp h)
  rw [← roundDiv_grid_le_iff hden hlow ((Nat.div_lt_iff_lt_mul hden).mp hhigh) c, roundCode,
    Nat.pow_eq, min_le_iff, or_iff_left (Nat.not_le.mpr hc)]

theorem roundCode_le (num den : Nat) : roundCode num den ≤ infinityCode := Nat.min_le_right _ _

/-! ### Consequences -/

/-- A larger quotient never rounds to a smaller code. -/
theorem roundCode_mono {num den num' den' : Nat} (hden : 0 < den) (hden' : 0 < den')
    (h : num * den' ≤ num' * den) : roundCode num den ≤ roundCode num' den' := by
  rcases (roundCode_le num' den').lt_or_eq with hlt | heq
  · rw [roundCode_le_iff hden hlt]
    have hround := (roundCode_le_iff hden' hlt).mp le_rfl
    generalize magnitude (roundCode num' den') + magnitude (roundCode num' den' + 1) = m at hround ⊢
    rcases hround with hbelow | ⟨hmiddle, heven⟩
    · refine Or.inl (Nat.lt_of_mul_lt_mul_right (a := den') ?_)
      calc 2 * num * den' = 2 * (num * den') := by ring
        _ ≤ 2 * (num' * den) := Nat.mul_le_mul_left _ h
        _ = 2 * num' * den := by ring
        _ < m * den' * den := Nat.mul_lt_mul_of_pos_right hbelow hden
        _ = m * den * den' := by ring
    · have hle : 2 * num ≤ m * den := by
        refine Nat.le_of_mul_le_mul_right ?_ hden'
        calc 2 * num * den' = 2 * (num * den') := by ring
          _ ≤ 2 * (num' * den) := Nat.mul_le_mul_left _ h
          _ = 2 * num' * den := by ring
          _ = m * den * den' := by rw [hmiddle]; ring
      exact hle.lt_or_eq.imp_right fun heq => ⟨heq, heven⟩
  · rw [heq]
    exact roundCode_le num den

/-- The result depends on the quotient alone. -/
theorem roundCode_congr {num den num' den' : Nat} (hden : 0 < den) (hden' : 0 < den')
    (h : num * den' = num' * den) : roundCode num den = roundCode num' den' :=
  le_antisymm (roundCode_mono hden hden' h.le) (roundCode_mono hden' hden h.ge)

/-- A quotient strictly between the two middles next to a magnitude rounds to it. -/
theorem roundCode_eq_of_between {num den c : Nat} (hden : 0 < den) (hc : c < infinityCode)
    (hlow : c ≠ 0 → (magnitude (c - 1) + magnitude c) * den < 2 * num)
    (hhigh : 2 * num < (magnitude c + magnitude (c + 1)) * den) : roundCode num den = c := by
  refine le_antisymm ((roundCode_le_iff hden hc).mpr (Or.inl hhigh)) ?_
  cases c with
  | zero => exact Nat.zero_le _
  | succ b =>
    have hb : (magnitude b + magnitude (b + 1)) * den < 2 * num := hlow (Nat.succ_ne_zero b)
    by_contra hlt
    have hle : roundCode num den ≤ b := by omega
    rcases (roundCode_le_iff hden (by omega)).mp hle with h | ⟨h, -⟩ <;> omega

/-- A finite magnitude is its own rounding. -/
theorem roundCode_magnitude {den c : Nat} (hden : 0 < den) (hc : c < infinityCode) :
    roundCode (magnitude c * den) den = c := by
  refine roundCode_eq_of_between hden hc (fun h => ?_) ?_
  · have : magnitude (c - 1) < magnitude c := magnitude_strictMono (by omega)
    nlinarith
  · have : magnitude c < magnitude (c + 1) := magnitude_strictMono c.lt_succ_self
    nlinarith

/-- A quotient that is at most a finite magnitude does not round above it. -/
theorem roundCode_le_of_le {num den c : Nat} (hden : 0 < den) (hc : c < infinityCode)
    (h : num ≤ magnitude c * den) : roundCode num den ≤ c := by
  rw [← roundCode_magnitude hden hc]
  exact roundCode_mono hden hden (Nat.mul_le_mul_right den h)

theorem le_roundCode_of_le {num den c : Nat} (hden : 0 < den) (hc : c < infinityCode)
    (h : magnitude c * den ≤ num) : c ≤ roundCode num den := by
  rw [← roundCode_magnitude hden hc]
  exact roundCode_mono hden hden (Nat.mul_le_mul_right den h)

end OneShot.Binary64
