import BankingApi.Numeric.Rounding

/-!
This module contains fixed point numbers: `precision` decimal digits, `scale` of them after the
point. A rational is stored rounded half away from zero, or refused if it then has too many digits.
-/

structure FixedPoint (precision scale : ℕ) where
  unscaled : ℤ
  hunscaled : unscaled.natAbs < 10 ^ precision
  deriving DecidableEq

namespace FixedPoint

open Rounding

variable {p s : ℕ}

def toRat (x : FixedPoint p s) : ℚ :=
  x.unscaled / 10 ^ s

def ofRat? (p s : ℕ) (q : ℚ) : Option (FixedPoint p s) :=
  if h : (halfAway (q * 10 ^ s)).natAbs < 10 ^ p then
    some ⟨halfAway (q * 10 ^ s), h⟩
  else
    none

instance : Zero (FixedPoint p s) where
  zero := ⟨0, by simp⟩

@[simp]
theorem unscaled_zero : (0 : FixedPoint p s).unscaled = 0 := rfl

@[simp]
theorem toRat_zero : (0 : FixedPoint p s).toRat = 0 := by
  simp [toRat]

@[ext]
theorem ext {x y : FixedPoint p s} (h : x.unscaled = y.unscaled) : x = y := by
  cases x
  cases y
  simpa using h

theorem toRat_mul_pow (x : FixedPoint p s) : x.toRat * 10 ^ s = x.unscaled := by
  unfold toRat
  field_simp

theorem toRat_nonneg_iff {x : FixedPoint p s} : 0 ≤ x.toRat ↔ 0 ≤ x.unscaled := by
  have : (0 : ℚ) < 10 ^ s := by positivity
  rw [toRat, le_div_iff₀ this]
  simp

theorem toRat_pos_iff {x : FixedPoint p s} : 0 < x.toRat ↔ 0 < x.unscaled := by
  have : (0 : ℚ) < 10 ^ s := by positivity
  rw [toRat, lt_div_iff₀ this]
  simp

theorem abs_toRat_lt (x : FixedPoint p s) : |x.toRat| * 10 ^ s < 10 ^ p := by
  have hpos : (0 : ℚ) < 10 ^ s := by positivity
  have hbound : |x.unscaled| < 10 ^ p := by
    have := x.hunscaled
    rw [Int.abs_eq_natAbs]
    exact_mod_cast this
  have habs : |x.toRat| * 10 ^ s = |(x.unscaled : ℚ)| := by
    rw [← toRat_mul_pow, abs_mul, abs_of_pos hpos]
  rw [habs]
  exact_mod_cast hbound

theorem ofRat?_eq_some_iff {q : ℚ} {x : FixedPoint p s}
    : ofRat? p s q = some x ↔ halfAway (q * 10 ^ s) = x.unscaled := by
  unfold ofRat?
  split
  . constructor
    . intro h
      cases h
      rfl
    . intro h
      congr
  . next hbound =>
    constructor
    . intro h
      cases h
    . intro h
      rw [h] at hbound
      exact absurd x.hunscaled hbound

theorem unscaled_nonneg_of_ofRat? {q : ℚ} {x : FixedPoint p s} (hx : ofRat? p s q = some x)
    (hq : 0 ≤ q)
    : 0 ≤ x.unscaled := by
  rw [← ofRat?_eq_some_iff.mp hx]
  apply halfAway_nonneg
  positivity

theorem abs_lt_of_ofRat? {q : ℚ} {x : FixedPoint p s} (hx : ofRat? p s q = some x)
    : |q| * 10 ^ s < 10 ^ p := by
  have hround := ofRat?_eq_some_iff.mp hx
  have hbound : |x.unscaled| < 10 ^ p := by
    rw [Int.abs_eq_natAbs]
    exact_mod_cast x.hunscaled
  rw [abs_lt] at hbound
  have hpow : (0 : ℚ) < 10 ^ s := by positivity
  rw [show |q| * 10 ^ s = |q * 10 ^ s| by rw [abs_mul, abs_of_pos hpow], abs_lt]
  constructor
  . by_contra h
    have := halfAway_mono (not_lt.mp h)
    rw [hround, halfAway_neg, show (10 : ℚ) ^ p = ((10 ^ p : ℤ) : ℚ) by push_cast; rfl,
      halfAway_intCast] at this
    omega
  . by_contra h
    have := halfAway_mono (not_lt.mp h)
    rw [hround, show (10 : ℚ) ^ p = ((10 ^ p : ℤ) : ℚ) by push_cast; rfl,
      halfAway_intCast] at this
    omega

end FixedPoint
