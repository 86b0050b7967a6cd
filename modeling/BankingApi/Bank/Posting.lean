import BankingApi.Prisma.Schema

/-!
This module contains the arithmetic of one posting. The amount and the new balance are rounded to
cents separately; `cents_eq_iff` says when the two roundings agree.
-/

namespace Banking

open Rounding

def halfCent (y : ℚ) : ℚ :=
  (⌊y * 100⌋ + 1 / 2) / 100

/--
Adding `amount` to `balance` rounds as `amount` alone does: the sum is no half cent that rounds the
other way, and 20 digits suffice to keep it off the half cent above it.
-/
def RoundsWithAmount (balance amount : ℚ) : Prop :=
  let y := balance + amount
  (y = halfCent y → (0 < amount ↔ 0 < halfCent y))
    ∧ (|y| < |halfCent y| → decimal20.ulp y / 2 < |halfCent y| - |y|)

instance (balance amount : ℚ) : Decidable (RoundsWithAmount balance amount) := by
  unfold RoundsWithAmount
  infer_instance

theorem exponent_le_of_abs_lt {y : ℚ} (h : |y| < 10 ^ 17) : decimal20.exponent y ≤ -3 := by
  rcases eq_or_ne y 0 with rfl | hne
  . unfold Format.exponent
    simp [decimal20]
  . apply decimal20.exponent_le hne
    . decide
    . exact h

theorem onGrid_halfCent {y : ℚ} (h : |y| < 10 ^ 17)
    : decimal20.OnGrid (decimal20.exponent y) (halfCent y) := by
  apply decimal20.onGrid_of_le (exponent_le_of_abs_lt h)
  refine ⟨⌊y * 100⌋ * 10 + 5, ?_⟩
  unfold halfCent decimal20
  push_cast
  ring

theorem onGrid_cents {y : ℚ} (n : ℤ) (h : |y| < 10 ^ 17)
    : decimal20.OnGrid (decimal20.exponent y) (n / 100) := by
  apply decimal20.onGrid_of_le (exponent_le_of_abs_lt h)
  refine ⟨n * 10, ?_⟩
  unfold decimal20
  push_cast
  ring

theorem halfCent_mul (y : ℚ) : halfCent y * 100 = ⌊y * 100⌋ + 1 / 2 := by
  unfold halfCent
  ring

theorem halfAway_halfCent (y : ℚ)
    : halfAway (halfCent y * 100) = if 0 < halfCent y then ⌊y * 100⌋ + 1 else ⌊y * 100⌋ := by
  rw [halfCent_mul, halfAway_mid]
  have : 0 < (⌊y * 100⌋ : ℚ) + 1 / 2 ↔ 0 < halfCent y := by
    rw [← halfCent_mul]
    constructor <;> intro h <;> linarith
  simp only [this]

theorem floor_cents (n : ℤ) (amount : ℚ)
    : ⌊((n : ℚ) / 100 + amount) * 100⌋ = n + ⌊amount * 100⌋ := by
  rw [show ((n : ℚ) / 100 + amount) * 100 = n + amount * 100 by ring, Int.floor_intCast_add]

theorem halfCent_ne_zero (y : ℚ) : halfCent y ≠ 0 := by
  intro h
  have hmul := halfCent_mul y
  rw [h] at hmul
  have : ((2 * ⌊y * 100⌋ + 1 : ℤ) : ℚ) = 0 := by
    push_cast
    linarith
  have : 2 * ⌊y * 100⌋ + 1 = 0 := by exact_mod_cast this
  omega

theorem nonneg_of_halfCent_pos {y : ℚ} (h : 0 < halfCent y) : 0 ≤ y := by
  have hmul := halfCent_mul y
  have : (-1 : ℚ) < ⌊y * 100⌋ := by linarith
  have : -1 < ⌊y * 100⌋ := by exact_mod_cast this
  have hle : (0 : ℚ) ≤ ⌊y * 100⌋ := by exact_mod_cast (show 0 ≤ ⌊y * 100⌋ by omega)
  have := Int.floor_le (y * 100)
  linarith

theorem neg_of_halfCent_neg {y : ℚ} (h : halfCent y < 0) : y < 0 := by
  have hmul := halfCent_mul y
  have : (⌊y * 100⌋ : ℚ) < 0 := by linarith
  have : ⌊y * 100⌋ < 0 := by exact_mod_cast this
  have hle : (⌊y * 100⌋ : ℚ) + 1 ≤ 0 := by exact_mod_cast (show ⌊y * 100⌋ + 1 ≤ 0 by omega)
  have := Int.lt_floor_add_one (y * 100)
  linarith

theorem halfAway_round_of_lt {y : ℚ} (hy : |y| < 10 ^ 17) (hlt : y < halfCent y)
    : halfAway (decimal20.round y * 100) = ⌊y * 100⌋ ↔
      (|y| < |halfCent y| → decimal20.ulp y / 2 < |halfCent y| - |y|) := by
  have hmul := halfCent_mul y
  have hle := decimal20.round_le_of_onGrid (onGrid_halfCent hy) hlt.le
  have hge := decimal20.le_round_of_onGrid (onGrid_cents ⌊y * 100⌋ hy)
    (by have := Int.floor_le (y * 100); linarith)
  rcases lt_or_gt_of_ne (halfCent_ne_zero y) with hneg | hpos
  . have hyneg := neg_of_halfCent_neg hneg
    have hright : ¬|y| < |halfCent y| := by
      rw [abs_of_neg hneg, abs_of_neg hyneg]
      linarith
    simp only [hright, false_implies, iff_true]
    rcases hle.lt_or_eq with hlt' | heq
    . apply halfAway_of_lt_mid <;> linarith
    . rw [heq, halfAway_halfCent]
      simp [hneg.le]
  . have hynonneg := nonneg_of_halfCent_pos hpos
    rw [abs_of_pos hpos, abs_of_nonneg hynonneg]
    simp only [hlt, true_implies]
    rw [← not_le, ← decimal20.round_eq_iff_of_lt rfl hynonneg hlt (onGrid_halfCent hy)]
    rcases hle.lt_or_eq with hlt' | heq
    . have : halfAway (decimal20.round y * 100) = ⌊y * 100⌋ := by
        apply halfAway_of_lt_mid <;> linarith
      simp [this, hlt'.ne]
    . rw [heq, halfAway_halfCent]
      simp [hpos]

theorem halfAway_round_of_gt {y : ℚ} (hy : |y| < 10 ^ 17) (hgt : halfCent y < y)
    : halfAway (decimal20.round y * 100) = ⌊y * 100⌋ + 1 ↔
      (|y| < |halfCent y| → decimal20.ulp y / 2 < |halfCent y| - |y|) := by
  have hmul := halfCent_mul y
  have hge := decimal20.le_round_of_onGrid (onGrid_halfCent hy) hgt.le
  have hle := decimal20.round_le_of_onGrid (onGrid_cents (⌊y * 100⌋ + 1) hy)
    (by have := Int.lt_floor_add_one (y * 100); push_cast; linarith)
  push_cast at hle
  rcases lt_or_gt_of_ne (halfCent_ne_zero y) with hneg | hpos
  . have hyneg := neg_of_halfCent_neg hneg
    rw [abs_of_neg hneg, abs_of_neg hyneg]
    have hlt : -y < -halfCent y := by linarith
    have hgrid : decimal20.OnGrid (decimal20.exponent (-y)) (-halfCent y) := by
      rw [Format.exponent_neg]
      exact decimal20.onGrid_neg (onGrid_halfCent hy)
    have htie := decimal20.round_eq_iff_of_lt rfl (by linarith) hlt hgrid
    rw [Format.round_neg, Format.ulp_neg, neg_inj] at htie
    simp only [hlt, true_implies]
    rw [← not_le, ← htie]
    rcases hge.lt_or_eq with hlt' | heq
    . have : halfAway (decimal20.round y * 100) = ⌊y * 100⌋ + 1 := by
        apply halfAway_of_mid_lt <;> linarith
      simp [this, hlt'.ne']
    . rw [← heq, halfAway_halfCent]
      simp [hneg.le]
  . have hynonneg := nonneg_of_halfCent_pos hpos
    have hright : ¬|y| < |halfCent y| := by
      rw [abs_of_pos hpos, abs_of_nonneg hynonneg]
      linarith
    simp only [hright, false_implies, iff_true]
    rcases hge.lt_or_eq with hlt' | heq
    . apply halfAway_of_mid_lt <;> linarith
    . rw [← heq, halfAway_halfCent]
      simp [hpos]

theorem cents_eq_iff {n : ℤ} {amount : ℚ} (hlt : |(n : ℚ) / 100 + amount| < 10 ^ 17)
    : halfAway (decimal20.round (n / 100 + amount) * 100) = n + halfAway (amount * 100) ↔
      RoundsWithAmount (n / 100) amount := by
  have hfloor := floor_cents n amount
  have hmul := halfCent_mul (n / 100 + amount)
  have hcent : (⌊((n : ℚ) / 100 + amount) * 100⌋ : ℚ) = n + ⌊amount * 100⌋ := by
    exact_mod_cast hfloor
  have hamount : amount * 100 = (n / 100 + amount) * 100 - n := by ring
  have hlo := Int.floor_le (amount * 100)
  have hhi := Int.lt_floor_add_one (amount * 100)
  unfold RoundsWithAmount
  dsimp only
  rcases lt_trichotomy ((n : ℚ) / 100 + amount) (halfCent (n / 100 + amount)) with h | h | h
  . have hround : halfAway (amount * 100) = ⌊amount * 100⌋ := by
      apply halfAway_of_lt_mid <;> linarith
    rw [hround, ← hfloor, halfAway_round_of_lt hlt h]
    simp [h.ne]
  . have hsplit : amount * 100 = ⌊amount * 100⌋ + 1 / 2 := by linarith
    have hround : halfAway (amount * 100) =
        if 0 < amount then ⌊amount * 100⌋ + 1 else ⌊amount * 100⌋ := by
      have hmid := halfAway_mid ⌊amount * 100⌋
      rw [← hsplit] at hmid
      rw [hmid]
      simp
    have hgrid := onGrid_halfCent hlt
    rw [← h] at hgrid
    have habs : ¬|(n : ℚ) / 100 + amount| < |halfCent (n / 100 + amount)| := by
      rw [← h]
      exact lt_irrefl _
    rw [decimal20.round_of_onGrid hgrid, hround]
    conv => lhs; lhs; rw [h]
    rw [halfAway_halfCent, hfloor]
    simp only [habs, eq_true h, false_implies, true_implies, and_true]
    by_cases hp : 0 < amount <;> by_cases hq : 0 < halfCent (n / 100 + amount) <;>
      simp [hp, hq, add_assoc]
  . have hround : halfAway (amount * 100) = ⌊amount * 100⌋ + 1 := by
      apply halfAway_of_mid_lt <;> linarith
    rw [hround, ← add_assoc, ← hfloor, halfAway_round_of_gt hlt h]
    simp [h.ne']

end Banking
