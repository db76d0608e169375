import Mathlib.Data.Rat.Floor
import Mathlib.Tactic.Linarith

/-!
# Rounding half up

`Decimal.quantize` with `ROUND_HALF_UP`: to a number of decimal places, ties away from zero.
-/

namespace GhgTool

def roundHalfUp (places : ℕ) (x : ℚ) : ℚ :=
  let units : ℤ := ⌊|x| * 10 ^ places + 1 / 2⌋
  if 0 ≤ x then units / 10 ^ places else -(units / 10 ^ places)

theorem roundHalfUp_of_nonneg (places : ℕ) {x : ℚ} (hx : 0 ≤ x) :
    roundHalfUp places x = (⌊x * 10 ^ places + 1 / 2⌋ : ℤ) / 10 ^ places := by
  rw [roundHalfUp, if_pos hx, abs_of_nonneg hx]

theorem roundHalfUp_nonneg (places : ℕ) {x : ℚ} (hx : 0 ≤ x) : 0 ≤ roundHalfUp places x := by
  rw [roundHalfUp_of_nonneg places hx]
  have hfloor : (0 : ℤ) ≤ ⌊x * 10 ^ places + 1 / 2⌋ := Int.floor_nonneg.mpr (by positivity)
  exact div_nonneg (by exact_mod_cast hfloor) (by positivity)

theorem roundHalfUp_zero (places : ℕ) : roundHalfUp places 0 = 0 := by
  have hfloor : ⌊(0 : ℚ) * 10 ^ places + 1 / 2⌋ = 0 := by
    rw [zero_mul, zero_add]
    norm_num
  rw [roundHalfUp_of_nonneg places le_rfl, hfloor]
  simp

theorem floor_half_eq {x : ℚ} {n : ℤ} (hlow : n - 1 / 2 ≤ x) (hhigh : x < n + 1 / 2) :
    ⌊x + 1 / 2⌋ = n :=
  Int.floor_eq_iff.mpr ⟨by linarith, by linarith⟩

/-- Two amounts round to the same decimal exactly when they round to the same number of units. -/
theorem roundHalfUp_eq_iff (places : ℕ) {x y : ℚ} (hx : 0 ≤ x) (hy : 0 ≤ y) :
    roundHalfUp places x = roundHalfUp places y ↔
      ⌊x * 10 ^ places + 1 / 2⌋ = ⌊y * 10 ^ places + 1 / 2⌋ := by
  have hpow : (10 : ℚ) ^ places ≠ 0 := pow_ne_zero _ (by norm_num)
  rw [roundHalfUp_of_nonneg places hx, roundHalfUp_of_nonneg places hy]
  constructor
  · intro h
    have hcast := (div_left_inj' hpow).mp h
    exact_mod_cast hcast
  · intro h
    rw [h]

theorem roundHalfUp_neg (places : ℕ) (x : ℚ) : roundHalfUp places (-x) = -roundHalfUp places x := by
  rcases lt_trichotomy x 0 with hneg | rfl | hpos
  · have hx : ¬ 0 ≤ x := by linarith
    rw [roundHalfUp, roundHalfUp, if_pos (by linarith), if_neg hx, abs_neg, neg_neg]
  · rw [neg_zero, roundHalfUp_zero, neg_zero]
  · have hx : ¬ 0 ≤ -x := by linarith
    rw [roundHalfUp, roundHalfUp, if_neg hx, if_pos hpos.le, abs_neg]

/-- An amount rounds like its `c`-fold, for `c` at least three, only where both round to zero. -/
theorem roundHalfUp_eq_mul_iff_of_nonneg (places : ℕ) {x c : ℚ} (hx : 0 ≤ x) (hc : 3 ≤ c) :
    roundHalfUp places x = roundHalfUp places (c * x) ↔ c * x * 10 ^ places < 1 / 2 := by
  have hscale : c * x * 10 ^ places = c * (x * 10 ^ places) := by ring
  have hy : 0 ≤ x * 10 ^ places := by positivity
  rw [roundHalfUp_eq_iff places hx (by positivity), hscale]
  generalize x * 10 ^ places = y at hy
  have hgrows : 3 * y ≤ c * y := by nlinarith
  constructor
  · intro hfloor
    by_contra hlarge
    -- Both round to some `n` of at least one unit, and `c` times `n - 1/2` is above `n + 1/2`.
    have hlow := Int.floor_le (y + 1 / 2)
    have hhigh := Int.lt_floor_add_one (c * y + 1 / 2)
    rw [← hfloor] at hhigh
    have hone : (1 : ℤ) ≤ ⌊y + 1 / 2⌋ := by
      rw [hfloor]
      apply Int.le_floor.mpr
      push_cast
      linarith
    have hcast : (1 : ℚ) ≤ ⌊y + 1 / 2⌋ := by exact_mod_cast hone
    linarith
  · intro hsmall
    rw [floor_half_eq (n := 0) (by push_cast; linarith) (by push_cast; linarith),
      floor_half_eq (n := 0) (by push_cast; linarith) (by push_cast; linarith)]

theorem roundHalfUp_eq_mul_iff (places : ℕ) {x c : ℚ} (hc : 3 ≤ c) :
    roundHalfUp places x = roundHalfUp places (c * x) ↔ |c * x| * 10 ^ places < 1 / 2 := by
  rcases le_total 0 x with hx | hx
  · rw [abs_of_nonneg (by positivity), roundHalfUp_eq_mul_iff_of_nonneg places hx hc]
  · have hneg : 0 ≤ -x := by linarith
    have hmul : c * -x = -(c * x) := by ring
    have hflip := roundHalfUp_eq_mul_iff_of_nonneg places hneg hc
    rw [hmul, roundHalfUp_neg, roundHalfUp_neg, neg_inj] at hflip
    rw [hflip, ← abs_neg, abs_of_nonneg (by rw [← hmul]; positivity)]

end GhgTool
