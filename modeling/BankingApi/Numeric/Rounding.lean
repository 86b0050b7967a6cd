import Mathlib.Data.Int.Log
import Mathlib.Data.Rat.Floor
import Mathlib.Tactic

/-!
This module contains rounding of rationals: to the nearest integer under two tie rules, and to
the nearest number with a bounded count of significant digits.
-/

namespace Rounding

def halfAway (q : ℚ) : ℤ :=
  if 0 ≤ q then ⌊q + 1 / 2⌋ else -⌊-q + 1 / 2⌋

def halfEven (q : ℚ) : ℤ :=
  if q - ⌊q⌋ < 1 / 2 then
    ⌊q⌋
  else if 1 / 2 < q - ⌊q⌋ then
    ⌊q⌋ + 1
  else if ⌊q⌋ % 2 = 0 then
    ⌊q⌋
  else
    ⌊q⌋ + 1

/--
What rounding to a significant digit needs of rounding to an integer.
-/
structure LawfulRounding (rnd : ℚ → ℤ) : Prop where
  mono : Monotone rnd
  intCast : ∀ (n : ℤ), rnd n = n
  neg : ∀ (q : ℚ), rnd (-q) = -rnd q

theorem halfAway_of_nonneg {q : ℚ} (h : 0 ≤ q) : halfAway q = ⌊q + 1 / 2⌋ := by
  simp only [halfAway, h, ↓reduceIte]

theorem halfAway_of_neg {q : ℚ} (h : q < 0) : halfAway q = -⌊-q + 1 / 2⌋ := by
  simp only [halfAway, not_le.mpr h, ↓reduceIte]

theorem halfAway_intCast (n : ℤ) : halfAway n = n := by
  have hfloor : ∀ (m : ℤ), ⌊(m : ℚ) + 1 / 2⌋ = m := by
    intro m
    rw [Int.floor_eq_iff]
    constructor <;> linarith
  unfold halfAway
  split
  . apply hfloor
  . have := hfloor (-n)
    push_cast at this
    rw [this]
    omega

theorem halfAway_nonneg {q : ℚ} (h : 0 ≤ q) : 0 ≤ halfAway q := by
  rw [halfAway_of_nonneg h]
  apply Int.floor_nonneg.mpr
  linarith

theorem halfAway_neg (q : ℚ) : halfAway (-q) = -halfAway q := by
  rcases lt_trichotomy q 0 with h | h | h
  . rw [halfAway_of_neg h, halfAway_of_nonneg (by linarith)]
    omega
  . subst h
    have := halfAway_intCast 0
    simp_all
  . rw [halfAway_of_nonneg h.le, halfAway_of_neg (by linarith)]
    simp

theorem halfAway_mono : Monotone halfAway := by
  intro q r hqr
  rcases lt_or_ge q 0 with hq | hq
  . rcases lt_or_ge r 0 with hr | hr
    . rw [halfAway_of_neg hq, halfAway_of_neg hr]
      apply neg_le_neg
      apply Int.floor_mono
      linarith
    . have hq' : 0 ≤ halfAway (-q) := halfAway_nonneg (by linarith)
      rw [halfAway_neg] at hq'
      have hr' := halfAway_nonneg hr
      omega
  . rw [halfAway_of_nonneg hq, halfAway_of_nonneg (le_trans hq hqr)]
    apply Int.floor_mono
    linarith

theorem halfAway_lawful : LawfulRounding halfAway where
  mono := halfAway_mono
  intCast := halfAway_intCast
  neg := halfAway_neg

/-!
Between two neighbouring integers `halfAway` is decided by the midpoint alone, and on the midpoint
by the sign.
-/

theorem halfAway_of_lt_mid {q : ℚ} {n : ℤ} (hlo : (n : ℚ) ≤ q) (hmid : q < n + 1 / 2)
    : halfAway q = n := by
  rcases lt_or_ge q 0 with h | h
  . rw [halfAway_of_neg h]
    have : ⌊-q + 1 / 2⌋ = -n := by
      rw [Int.floor_eq_iff]
      push_cast
      constructor <;> linarith
    omega
  . rw [halfAway_of_nonneg h, Int.floor_eq_iff]
    constructor <;> linarith

theorem halfAway_of_mid_lt {q : ℚ} {n : ℤ} (hmid : n + 1 / 2 < q) (hhi : q ≤ n + 1)
    : halfAway q = n + 1 := by
  have := halfAway_of_lt_mid (q := -q) (n := -(n + 1))
    (by push_cast; linarith) (by push_cast; linarith)
  rw [halfAway_neg] at this
  omega

theorem halfAway_mid (n : ℤ)
    : halfAway ((n : ℚ) + 1 / 2) = if 0 < (n : ℚ) + 1 / 2 then n + 1 else n := by
  split
  . next h =>
    rw [halfAway_of_nonneg h.le, Int.floor_eq_iff]
    push_cast
    constructor <;> linarith
  . next h =>
    have hne : (n : ℚ) + 1 / 2 ≠ 0 := by
      intro hzero
      have : (2 * n + 1 : ℤ) = 0 := by
        have : ((2 * n + 1 : ℤ) : ℚ) = 0 := by
          push_cast
          linarith
        exact_mod_cast this
      omega
    rw [halfAway_of_neg (lt_of_le_of_ne (not_lt.mp h) hne)]
    have : ⌊-((n : ℚ) + 1 / 2) + 1 / 2⌋ = -n := by
      rw [Int.floor_eq_iff]
      push_cast
      constructor <;> linarith
    omega

theorem halfAway_neg_iff {q : ℚ} : halfAway q < 0 ↔ q ≤ -1 / 2 := by
  constructor
  . intro h
    by_contra hlt
    have : halfAway (-(1 / 2) : ℚ) = -1 := by
      rw [halfAway_neg, halfAway_of_nonneg (by norm_num)]
      norm_num
    rcases le_or_gt 0 q with hq | hq
    . have := halfAway_nonneg hq
      omega
    . rw [halfAway_of_neg hq] at h
      have : ⌊-q + 1 / 2⌋ < 1 := by
        apply Int.floor_lt.mpr
        push_cast
        linarith
      omega
  . intro h
    have := halfAway_mono h
    have hhalf : halfAway (-1 / 2 : ℚ) = -1 := by
      rw [halfAway_of_neg (by norm_num)]
      norm_num
    omega

theorem halfEven_bounds (q : ℚ) : ⌊q⌋ ≤ halfEven q ∧ halfEven q ≤ ⌊q⌋ + 1 := by
  unfold halfEven
  split_ifs <;> omega

theorem halfEven_intCast (n : ℤ) : halfEven n = n := by
  simp [halfEven]

theorem halfEven_mono : Monotone halfEven := by
  intro q r hqr
  have hfloor := Int.floor_mono hqr
  rcases hfloor.lt_or_eq with hlt | heq
  . have hq := halfEven_bounds q
    have hr := halfEven_bounds r
    omega
  . -- Within one cell the fractional part alone moves the result.
    have hfract : q - ⌊q⌋ ≤ r - ⌊r⌋ := by
      rw [heq]
      linarith
    unfold halfEven
    rw [heq] at *
    split_ifs <;> first | omega | (exfalso; linarith)

theorem halfEven_neg (q : ℚ) : halfEven (-q) = -halfEven q := by
  by_cases hint : q = ⌊q⌋
  . rw [hint]
    have := halfEven_intCast (-⌊q⌋)
    push_cast at this
    rw [this, halfEven_intCast]
  . have hlo : (⌊q⌋ : ℚ) < q := lt_of_le_of_ne (Int.floor_le q) (Ne.symm hint)
    have hhi := Int.lt_floor_add_one q
    have hfloor : ⌊-q⌋ = -⌊q⌋ - 1 := by
      rw [Int.floor_eq_iff]
      push_cast
      constructor <;> linarith
    unfold halfEven
    rw [hfloor]
    push_cast
    split_ifs <;> first | omega | (exfalso; linarith)

theorem halfEven_lawful : LawfulRounding halfEven where
  mono := halfEven_mono
  intCast := halfEven_intCast
  neg := halfEven_neg

end Rounding
