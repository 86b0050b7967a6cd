import BankingApi.Numeric.Rounding

/-!
This module contains number formats with a bounded count of significant digits, and the rounding of
a rational to the nearest number of a format.
-/

namespace Rounding

/--
A format with `precision` digits in base `radix`, no digit of weight below `radix ^ emin`, and a
rule for what to do with the digits that do not fit.
-/
structure Format where
  radix : ℕ
  precision : ℕ
  emin : ℤ
  rnd : ℚ → ℤ
  hradix : 1 < radix
  hprecision : 1 ≤ precision
  hrnd : LawfulRounding rnd

namespace Format

variable (F : Format)

def exponent (q : ℚ) : ℤ :=
  max (Int.log F.radix |q| + 1 - F.precision) F.emin

def ulp (q : ℚ) : ℚ :=
  (F.radix : ℚ) ^ F.exponent q

def round (q : ℚ) : ℚ :=
  F.rnd (q / F.ulp q) * F.ulp q

def OnGrid (e : ℤ) (q : ℚ) : Prop :=
  ∃ (n : ℤ), q = n * (F.radix : ℚ) ^ e

theorem one_lt_radix : (1 : ℚ) < F.radix := by
  exact_mod_cast F.hradix

theorem zpow_pos (e : ℤ) : (0 : ℚ) < (F.radix : ℚ) ^ e := by
  have := F.one_lt_radix
  positivity

theorem ulp_pos (q : ℚ) : 0 < F.ulp q := by
  apply zpow_pos

theorem emin_le_exponent (q : ℚ) : F.emin ≤ F.exponent q := by
  apply le_max_right

@[simp]
theorem exponent_neg (q : ℚ) : F.exponent (-q) = F.exponent q := by
  simp [exponent]

@[simp]
theorem ulp_neg (q : ℚ) : F.ulp (-q) = F.ulp q := by
  simp [ulp]

theorem onGrid_neg {e : ℤ} {q : ℚ} (h : F.OnGrid e q) : F.OnGrid e (-q) := by
  rcases h with ⟨n, rfl⟩
  exact ⟨-n, by push_cast; ring⟩

theorem onGrid_zero (e : ℤ) : F.OnGrid e 0 := by
  exact ⟨0, by simp⟩

theorem onGrid_of_le {e e' : ℤ} {q : ℚ} (hle : e ≤ e') (h : F.OnGrid e' q) : F.OnGrid e q := by
  rcases h with ⟨n, rfl⟩
  have hr : (F.radix : ℚ) ≠ 0 := by
    have := F.one_lt_radix
    positivity
  refine ⟨n * (F.radix : ℤ) ^ (e' - e).toNat, ?_⟩
  push_cast
  rw [mul_assoc, ← zpow_natCast, Int.toNat_of_nonneg (by omega), ← zpow_add₀ hr]
  congr 2
  omega

theorem onGrid_zpow {e k : ℤ} (hle : e ≤ k) : F.OnGrid e ((F.radix : ℚ) ^ k) := by
  apply F.onGrid_of_le hle
  exact ⟨1, by simp⟩

theorem round_onGrid (q : ℚ) : F.OnGrid (F.exponent q) (F.round q) := by
  exact ⟨F.rnd (q / F.ulp q), rfl⟩

@[simp]
theorem round_neg (q : ℚ) : F.round (-q) = -F.round q := by
  unfold round
  rw [ulp_neg, neg_div, F.hrnd.neg]
  push_cast
  ring

/-!
Rounding never crosses a number that lies on the grid of its argument.
-/

theorem round_le_of_onGrid {q z : ℚ} (hz : F.OnGrid (F.exponent q) z) (h : q ≤ z)
    : F.round q ≤ z := by
  rcases hz with ⟨n, rfl⟩
  have hu := F.ulp_pos q
  unfold round
  apply mul_le_mul_of_nonneg_right _ hu.le
  have : F.rnd (q / F.ulp q) ≤ F.rnd n := by
    apply F.hrnd.mono
    rw [div_le_iff₀ hu]
    exact h
  rw [F.hrnd.intCast] at this
  exact_mod_cast this

theorem le_round_of_onGrid {q z : ℚ} (hz : F.OnGrid (F.exponent q) z) (h : z ≤ q)
    : z ≤ F.round q := by
  have := F.round_le_of_onGrid (q := -q) (z := -z)
    (by rw [exponent_neg]; apply F.onGrid_neg hz) (by linarith)
  rw [round_neg] at this
  linarith

theorem round_of_onGrid {q : ℚ} (h : F.OnGrid (F.exponent q) q) : F.round q = q := by
  apply le_antisymm
  . apply F.round_le_of_onGrid h le_rfl
  . apply F.le_round_of_onGrid h le_rfl

@[simp]
theorem round_zero : F.round 0 = 0 := by
  apply round_of_onGrid
  apply onGrid_zero

theorem round_nonneg {q : ℚ} (h : 0 ≤ q) : 0 ≤ F.round q := by
  apply F.le_round_of_onGrid (F.onGrid_zero _) h

theorem round_nonpos {q : ℚ} (h : q ≤ 0) : F.round q ≤ 0 := by
  apply F.round_le_of_onGrid (F.onGrid_zero _) h

theorem log_lt_exponent_add (q : ℚ) : Int.log F.radix |q| < F.exponent q + F.precision := by
  have : Int.log F.radix |q| + 1 - F.precision ≤ F.exponent q := le_max_left _ _
  omega

theorem abs_lt_zpow (q : ℚ) : |q| < (F.radix : ℚ) ^ (F.exponent q + F.precision) := by
  apply lt_of_lt_of_le (Int.lt_zpow_succ_log_self F.hradix |q|)
  apply zpow_le_zpow_right₀ F.one_lt_radix.le
  have := F.log_lt_exponent_add q
  omega

theorem exponent_le {q : ℚ} {e : ℤ} (hq : q ≠ 0) (hemin : F.emin ≤ e)
    (h : |q| < (F.radix : ℚ) ^ (e + F.precision))
    : F.exponent q ≤ e := by
  have hlog := (Int.lt_zpow_iff_log_lt F.hradix (abs_pos.mpr hq)).mp h
  apply max_le
  . omega
  . exact hemin

theorem exponent_mono {q r : ℚ} (hq : 0 < q) (hqr : q ≤ r) : F.exponent q ≤ F.exponent r := by
  have : Int.log F.radix |q| ≤ Int.log F.radix |r| := by
    rw [abs_of_pos hq, abs_of_pos (lt_of_lt_of_le hq hqr)]
    apply Int.log_mono_right hq hqr
  unfold exponent
  omega

private theorem round_mono_of_pos {q r : ℚ} (hq : 0 < q) (hqr : q ≤ r)
    : F.round q ≤ F.round r := by
  rcases (F.exponent_mono hq hqr).lt_or_eq with hlt | heq
  . -- The power of the radix at the head of `r` separates the two results.
    have hr : 0 < r := lt_of_lt_of_le hq hqr
    have hlog : F.exponent r = Int.log F.radix |r| + 1 - F.precision := by
      have := F.emin_le_exponent q
      unfold exponent at *
      omega
    have hprec := F.hprecision
    have hexp : F.exponent r ≤ Int.log F.radix |r| := by omega
    have hhead : (F.radix : ℚ) ^ Int.log F.radix |r| ≤ r := by
      rw [abs_of_pos hr]
      apply Int.zpow_log_le_self F.hradix hr
    have hbelow : q ≤ (F.radix : ℚ) ^ Int.log F.radix |r| := by
      apply le_trans (le_abs_self q)
      apply le_trans (F.abs_lt_zpow q).le
      apply zpow_le_zpow_right₀ F.one_lt_radix.le
      omega
    apply le_trans
    . apply F.round_le_of_onGrid _ hbelow
      apply F.onGrid_zpow
      omega
    . apply F.le_round_of_onGrid _ hhead
      apply F.onGrid_zpow hexp
  . have : F.ulp q = F.ulp r := by
      unfold ulp
      rw [heq]
    have hu := F.ulp_pos r
    unfold round
    rw [this]
    apply mul_le_mul_of_nonneg_right _ hu.le
    exact_mod_cast F.hrnd.mono (div_le_div_of_nonneg_right hqr hu.le)

theorem round_mono : Monotone F.round := by
  intro q r hqr
  rcases lt_or_ge 0 q with hq | hq
  . apply F.round_mono_of_pos hq hqr
  . rcases lt_or_ge r 0 with hr | hr
    . have := F.round_mono_of_pos (q := -r) (r := -q) (by linarith) (by linarith)
      rw [round_neg, round_neg] at this
      linarith
    . apply le_trans
      . apply F.round_nonpos hq
      . apply F.round_nonneg hr

theorem abs_round_le (q : ℚ) : |F.round q| ≤ (F.radix : ℚ) ^ (F.exponent q + F.precision) := by
  have hprec := F.hprecision
  have hgrid : F.OnGrid (F.exponent q) ((F.radix : ℚ) ^ (F.exponent q + F.precision)) := by
    apply F.onGrid_zpow
    omega
  have habs := abs_le.mp (F.abs_lt_zpow q).le
  apply abs_le.mpr
  constructor
  . apply F.le_round_of_onGrid (F.onGrid_neg hgrid) habs.1
  . apply F.round_le_of_onGrid hgrid habs.2

theorem round_idem (q : ℚ) : F.round (F.round q) = F.round q := by
  have hprec := F.hprecision
  by_cases hzero : F.round q = 0
  . rw [hzero, round_zero]
  . apply round_of_onGrid
    rcases (F.abs_round_le q).lt_or_eq with hlt | heq
    . apply F.onGrid_of_le _ (F.round_onGrid q)
      apply F.exponent_le hzero (F.emin_le_exponent q) hlt
    . -- A carry out of the head digit leaves a power of the radix.
      have hpow : F.OnGrid (F.exponent (F.round q)) |F.round q| := by
        have hemin := F.emin_le_exponent q
        rw [heq]
        apply F.onGrid_zpow
        unfold exponent at *
        rw [heq, Int.log_zpow F.hradix]
        omega
      rcases abs_choice (F.round q) with h | h
      . rwa [h] at hpow
      . rw [h] at hpow
        simpa using F.onGrid_neg hpow

theorem round_onGrid_emin (q : ℚ) : F.OnGrid F.emin (F.round q) := by
  apply F.onGrid_of_le (F.emin_le_exponent q) (F.round_onGrid q)

theorem round_zpow_emin : F.round ((F.radix : ℚ) ^ F.emin) = (F.radix : ℚ) ^ F.emin := by
  have hprec := F.hprecision
  apply round_of_onGrid
  apply F.onGrid_zpow
  unfold exponent
  rw [abs_of_pos (F.zpow_pos _), Int.log_zpow F.hradix]
  omega

/--
The rounded difference of two numbers of a format has the sign of the exact one: gradual underflow
leaves no two numbers with a difference that rounds to zero.
-/
theorem round_sub_neg_iff {x y : ℚ} (hx : F.round x = x) (hy : F.round y = y)
    : F.round (x - y) < 0 ↔ x < y := by
  constructor
  . intro h
    by_contra hle
    have := F.round_nonneg (q := x - y) (by linarith)
    linarith
  . intro hlt
    have hx' := F.round_onGrid_emin x
    have hy' := F.round_onGrid_emin y
    rw [hx] at hx'
    rw [hy] at hy'
    rcases hx' with ⟨m, hm⟩
    rcases hy' with ⟨n, hn⟩
    have hpos := F.zpow_pos F.emin
    have hmn : m < n := by
      rw [hm, hn] at hlt
      exact_mod_cast lt_of_mul_lt_mul_right hlt hpos.le
    have hstep : x - y ≤ -(F.radix : ℚ) ^ F.emin := by
      have : (m : ℚ) + 1 ≤ n := by exact_mod_cast hmn
      rw [hm, hn]
      nlinarith
    have := F.round_mono hstep
    rw [round_neg, round_zpow_emin] at this
    linarith

theorem round_eq_iff_of_lt (hrnd : F.rnd = halfAway) {q z : ℚ} (hq : 0 ≤ q) (hlt : q < z)
    (hz : F.OnGrid (F.exponent q) z)
    : F.round q = z ↔ z - q ≤ F.ulp q / 2 := by
  rcases hz with ⟨n, rfl⟩
  have hu := F.ulp_pos q
  have hscale : n * F.ulp q - q = (n - q / F.ulp q) * F.ulp q := by
    field_simp
  have hdiv : q / F.ulp q < n := by
    rw [div_lt_iff₀ hu]
    exact hlt
  change F.round q = n * F.ulp q ↔ n * F.ulp q - q ≤ F.ulp q / 2
  rw [hscale, show F.ulp q / 2 = 1 / 2 * F.ulp q by ring, mul_le_mul_iff_left₀ hu, round, hrnd,
    mul_left_inj' hu.ne', Int.cast_inj, halfAway_of_nonneg (by positivity), Int.floor_eq_iff]
  constructor
  . intro h
    linarith
  . intro h
    constructor <;> linarith

end Format

end Rounding
