import BankingApi.Numeric.Format

/-!
This module contains the finite numbers of the IEEE 754 format `binary64`, and their shortest
decimal representations: the decimal numeral with the fewest significant digits that rounds to the
number, and of these the closest one.
-/

open Rounding

def binary64 : Format where
  radix := 2
  precision := 53
  emin := -1074
  rnd := halfEven
  hradix := by decide
  hprecision := by decide
  hrnd := halfEven_lawful

structure Binary64 where
  val : ℚ
  hfinite : |val| < 2 ^ 1024
  hval : binary64.round val = val
  deriving DecidableEq

namespace Binary64

def ofRat (q : ℚ) (h : |binary64.round q| < 2 ^ 1024) : Binary64 :=
  ⟨binary64.round q, h, binary64.round_idem q⟩

theorem abs_round_one_lt : |binary64.round 1| < 2 ^ 1024 := by decide +kernel

theorem abs_round_half_cent_lt : |binary64.round (1 / 200)| < 2 ^ 1024 := by decide +kernel

def digitUnit (x : ℚ) (k : ℕ) : ℚ :=
  (10 : ℚ) ^ (Int.log 10 x + 1 - k)

/--
The numeral with `k` significant digits that rounds to `x`, if there is one. It is one of the two
neighbours of `x` among the numerals of `k` digits.
-/
def shortestAt (x : ℚ) (k : ℕ) : Option ℚ :=
  let s := ⌊x / digitUnit x k⌋
  let lo := s * digitUnit x k
  let hi := (s + 1) * digitUnit x k
  if binary64.round lo = x then
    if binary64.round hi = x ∧ (hi - x < x - lo ∨ hi - x = x - lo ∧ s % 2 ≠ 0) then
      some hi
    else
      some lo
  else if binary64.round hi = x then
    some hi
  else
    none

def shortestFrom (x : ℚ) (k : ℕ) (fuel : ℕ) : ℚ :=
  match fuel with
  | 0 => x
  | fuel + 1 =>
    match shortestAt x k with
    | some d => d
    | none => shortestFrom x (k + 1) fuel

-- No number needs more than 17 digits, the search just has to go that far.
def shortest (x : ℚ) : ℚ :=
  shortestFrom x 1 20

def toDecimal (x : Binary64) : ℚ :=
  if 0 ≤ x.val then shortest x.val else -shortest (-x.val)

theorem digitUnit_pos (x : ℚ) (k : ℕ) : 0 < digitUnit x k := by
  unfold digitUnit
  positivity

theorem round_of_shortestAt {x d : ℚ} {k : ℕ} (h : shortestAt x k = some d)
    : binary64.round d = x := by
  unfold shortestAt at h
  dsimp at h
  split at h
  . split at h
    . next hlo hhi =>
      cases h
      exact hhi.1
    . next hlo hhi =>
      cases h
      exact hlo
  . split at h
    . next hlo hhi =>
      cases h
      exact hhi
    . cases h

theorem onGrid_of_shortestAt {x d : ℚ} {k : ℕ} (h : shortestAt x k = some d)
    : ∃ (n : ℤ), d = n * digitUnit x k := by
  have hhi : ∃ (n : ℤ), (⌊x / digitUnit x k⌋ + 1) * digitUnit x k = n * digitUnit x k :=
    ⟨⌊x / digitUnit x k⌋ + 1, by push_cast; rfl⟩
  unfold shortestAt at h
  dsimp at h
  split at h
  . split at h
    . cases h
      exact hhi
    . cases h
      exact ⟨_, rfl⟩
  . split at h
    . cases h
      exact hhi
    . cases h

/--
A numeral of `k` digits that rounds to `x` need not be a neighbour of `x`, but the neighbour on its
side then rounds to `x` as well.
-/
theorem shortestAt_isSome {x : ℚ} {k : ℕ} {n : ℤ} (hx : binary64.round x = x)
    (hn : binary64.round (n * digitUnit x k) = x)
    : (shortestAt x k).isSome := by
  have hu := digitUnit_pos x k
  have hlo : (⌊x / digitUnit x k⌋ : ℚ) * digitUnit x k ≤ x := by
    rw [← le_div_iff₀ hu]
    apply Int.floor_le
  have hhi : x ≤ (⌊x / digitUnit x k⌋ + 1) * digitUnit x k := by
    rw [← div_le_iff₀ hu]
    apply (Int.lt_floor_add_one _).le
  unfold shortestAt
  dsimp
  split
  . split <;> rfl
  . next hnlo =>
    split
    . rfl
    . next hnhi =>
      exfalso
      rcases le_or_gt n ⌊x / digitUnit x k⌋ with hle | hlt
      . apply hnlo
        apply le_antisymm
        . apply le_trans (binary64.round_mono hlo) hx.le
        . apply le_trans hn.ge
          apply binary64.round_mono
          apply mul_le_mul_of_nonneg_right _ hu.le
          exact_mod_cast hle
      . apply hnhi
        apply le_antisymm
        . apply le_trans _ hn.le
          apply binary64.round_mono
          apply mul_le_mul_of_nonneg_right _ hu.le
          exact_mod_cast hlt
        . apply le_trans hx.ge (binary64.round_mono hhi)

theorem round_shortestFrom {x : ℚ} (hx : binary64.round x = x) (k fuel : ℕ)
    : binary64.round (shortestFrom x k fuel) = x := by
  induction fuel generalizing k with
  | zero => exact hx
  | succ fuel ih =>
    unfold shortestFrom
    split
    . next h => exact round_of_shortestAt h
    . apply ih

theorem shortestFrom_eq {x : ℚ} {k k' : ℕ} (fuel : ℕ) (hle : k ≤ k') (hlt : k' < k + fuel)
    (h : (shortestAt x k').isSome)
    : ∃ (j : ℕ), j ≤ k' ∧ shortestAt x j = some (shortestFrom x k fuel) := by
  induction fuel generalizing k with
  | zero => omega
  | succ fuel ih =>
    unfold shortestFrom
    split
    . next hk => exact ⟨k, hle, hk⟩
    . next hk =>
      have : k ≠ k' := by
        rintro rfl
        simp [hk] at h
      apply ih
      . omega
      . omega

theorem digitUnit_dvd {x : ℚ} {j k : ℕ} (h : j ≤ k)
    : ∃ (n : ℤ), digitUnit x j = n * digitUnit x k := by
  refine ⟨10 ^ (k - j), ?_⟩
  unfold digitUnit
  push_cast
  rw [← zpow_natCast, ← zpow_add₀ (by norm_num)]
  congr 1
  omega

theorem shortest_onGrid {x : ℚ} {k : ℕ} {n : ℤ} (hx : binary64.round x = x)
    (hn : binary64.round (n * digitUnit x k) = x) (hpos : 1 ≤ k) (hk : k < 21)
    : ∃ (m : ℤ), shortest x = m * digitUnit x k := by
  have := shortestFrom_eq 20 hpos (by omega) (shortestAt_isSome hx hn)
  rcases this with ⟨j, hj, hat⟩
  rcases onGrid_of_shortestAt hat with ⟨a, ha⟩
  rcases digitUnit_dvd (x := x) hj with ⟨b, hb⟩
  refine ⟨a * b, ?_⟩
  unfold shortest
  rw [ha, hb]
  push_cast
  ring

@[simp]
theorem round_toDecimal (x : Binary64) : binary64.round x.toDecimal = x.val := by
  unfold toDecimal
  split
  . apply round_shortestFrom x.hval
  . unfold shortest
    rw [Format.round_neg, round_shortestFrom]
    . simp
    . rw [Format.round_neg, x.hval]

theorem toDecimal_pos {x : Binary64} (h : 0 < x.val) : 0 < x.toDecimal := by
  by_contra hle
  have := binary64.round_nonpos (not_lt.mp hle)
  rw [round_toDecimal] at this
  linarith

end Binary64
