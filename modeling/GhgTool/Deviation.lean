import Mathlib.Algebra.BigOperators.Group.List.Lemmas
import Mathlib.Algebra.Order.Field.Basic
import Mathlib.Tactic.FieldSimp
import Mathlib.Tactic.LinearCombination
import Mathlib.Tactic.Linarith
import Mathlib.Tactic.Positivity
import Mathlib.Tactic.Ring

/-!
# Deviations from the mean of a finite sample

One member's deviation from the mean of the sample is its deviation from the mean of the others,
scaled down; and the sum of the squared deviations is that of the others and a multiple of the same
square. Hence no squared deviation exceeds the population variance more than `n - 1` times.
-/

namespace GhgTool.Deviation

variable {K : Type*} [Field K]

def mean (xs : List K) : K :=
  xs.sum / xs.length

/-- The sum of the squared deviations from the mean. -/
def sumSq (xs : List K) : K :=
  (xs.map fun y => (y - mean xs) ^ 2).sum

/-- The population variance. -/
def variance (xs : List K) : K :=
  sumSq xs / xs.length

theorem mean_perm {xs ys : List K} (h : xs.Perm ys) : mean xs = mean ys := by
  rw [mean, mean, h.sum_eq, h.length_eq]

theorem sumSq_perm {xs ys : List K} (h : xs.Perm ys) : sumSq xs = sumSq ys := by
  rw [sumSq, sumSq, mean_perm h]
  exact (h.map _).sum_eq

theorem variance_perm {xs ys : List K} (h : xs.Perm ys) : variance xs = variance ys := by
  rw [variance, variance, sumSq_perm h, h.length_eq]

theorem map_mean {L : Type*} [Field L] (f : K →+* L) (xs : List K) :
    mean (xs.map f) = f (mean xs) := by
  rw [mean, mean, map_div₀, map_list_sum, map_natCast, List.length_map]

theorem map_variance {L : Type*} [Field L] (f : K →+* L) (xs : List K) :
    variance (xs.map f) = f (variance xs) := by
  rw [variance, variance, map_div₀, map_natCast, List.length_map, sumSq, sumSq, map_list_sum,
    map_mean, List.map_map, List.map_map]
  congr 2
  apply List.map_congr_left
  intro y _
  simp only [Function.comp_apply, map_pow, map_sub]

theorem sum_sq_sub (xs : List K) (a : K) :
    (xs.map fun y => (y - a) ^ 2).sum =
      (xs.map fun y => y ^ 2).sum - 2 * a * xs.sum + xs.length * a ^ 2 := by
  induction xs with
  | nil => simp
  | cons x xs ih =>
      simp only [List.map_cons, List.sum_cons, List.length_cons, ih]
      push_cast
      ring

variable [LinearOrder K] [IsStrictOrderedRing K] {xs : List K} {x : K}

/-- The squared deviations from any point, by those from the mean. -/
theorem sum_sq_sub_eq (h : xs ≠ []) (a : K) :
    (xs.map fun y => (y - a) ^ 2).sum = sumSq xs + xs.length * (mean xs - a) ^ 2 := by
  have hlength : (xs.length : K) ≠ 0 := by
    simpa using h
  rw [sumSq, sum_sq_sub, sum_sq_sub, mean]
  field_simp
  ring

/-- A member's deviation, by its deviation from the mean of the others. -/
theorem sub_mean_cons (h : xs ≠ []) :
    x - mean (x :: xs) = xs.length / (xs.length + 1) * (x - mean xs) := by
  have hlength : (xs.length : K) ≠ 0 := by
    simpa using h
  have hsucc : (xs.length : K) + 1 ≠ 0 := by positivity
  rw [mean, mean, List.sum_cons, List.length_cons]
  push_cast
  field_simp
  ring

theorem sumSq_cons (h : xs ≠ []) :
    sumSq (x :: xs) = sumSq xs + xs.length / (xs.length + 1) * (x - mean xs) ^ 2 := by
  have hsucc : (xs.length : K) + 1 ≠ 0 := by positivity
  have hmean : mean xs - mean (x :: xs) = -(x - mean xs) / (xs.length + 1) := by
    have hx := sub_mean_cons (x := x) h
    field_simp at hx ⊢
    linear_combination hx
  rw [sumSq, List.map_cons, List.sum_cons, sum_sq_sub_eq h, sub_mean_cons h, hmean]
  field_simp
  ring

theorem sumSq_nonneg (xs : List K) : 0 ≤ sumSq xs := by
  apply List.sum_nonneg
  intro y hy
  obtain ⟨z, -, rfl⟩ := List.mem_map.mp hy
  positivity

theorem variance_nonneg (xs : List K) : 0 ≤ variance xs :=
  div_nonneg (sumSq_nonneg xs) (Nat.cast_nonneg _)

/-- A squared deviation reaches `(n - 1)² / n` variances where it exceeds, from the mean of the
others, `n` times the sum of their squared deviations. -/
theorem sq_div_variance_cons_le_iff (h : xs ≠ []) (hvar : 0 < variance (x :: xs)) :
    (x - mean (x :: xs)) ^ 2 / variance (x :: xs) ≤ (xs.length : K) ^ 2 / (xs.length + 1) ↔
      (x - mean xs) ^ 2 ≤ (xs.length + 1) * sumSq xs := by
  have hlength : (0 : K) < xs.length := by
    exact_mod_cast List.length_pos_iff.mpr h
  have hsucc : (0 : K) < xs.length + 1 := by positivity
  have hscale : (0 : K) < (xs.length / (xs.length + 1)) ^ 2 := by positivity
  have hright : (xs.length : K) ^ 2 / (xs.length + 1) * variance (x :: xs) =
      (xs.length / (xs.length + 1)) ^ 2 * sumSq (x :: xs) := by
    rw [variance, List.length_cons]
    push_cast
    field_simp
  have hdiff : sumSq (x :: xs) - (x - mean xs) ^ 2 =
      ((xs.length + 1) * sumSq xs - (x - mean xs) ^ 2) / (xs.length + 1) := by
    rw [sumSq_cons h]
    field_simp
    ring
  rw [div_le_iff₀ hvar, hright, sub_mean_cons h, mul_pow, mul_le_mul_iff_right₀ hscale,
    ← sub_nonneg, hdiff, le_div_iff₀ hsucc, zero_mul, sub_nonneg]

/-- Of `n` members none has a squared deviation above `n - 1` variances. -/
theorem sq_sub_mean_cons_le (h : xs ≠ []) :
    (x - mean (x :: xs)) ^ 2 ≤ xs.length * variance (x :: xs) := by
  have hsucc : (0 : K) < xs.length + 1 := by positivity
  have hothers : (0 : K) ≤ xs.length / (xs.length + 1) * sumSq xs :=
    mul_nonneg (by positivity) (sumSq_nonneg xs)
  have hright : xs.length * variance (x :: xs) =
      xs.length / (xs.length + 1) * sumSq xs +
        (xs.length / (xs.length + 1) * (x - mean xs)) ^ 2 := by
    rw [variance, sumSq_cons h, List.length_cons]
    push_cast
    field_simp
  rw [hright, sub_mean_cons h]
  exact le_add_of_nonneg_left hothers

/-- The same for a member of the sample, with the others left where they are. -/
theorem sq_div_variance_le_iff (hx : x ∈ xs) (hlength : 2 ≤ xs.length)
    (hvar : 0 < variance xs) :
    (x - mean xs) ^ 2 / variance xs ≤ ((xs.length : K) - 1) ^ 2 / xs.length ↔
      (x - mean (xs.erase x)) ^ 2 ≤ xs.length * sumSq (xs.erase x) := by
  have hperm := List.perm_cons_erase hx
  have hcount : xs.length = (xs.erase x).length + 1 := hperm.length_eq
  have hothers : xs.erase x ≠ [] := List.ne_nil_of_length_pos (by omega)
  rw [variance_perm hperm] at hvar
  have hcast : (xs.length : K) = (xs.erase x).length + 1 := by
    rw [hcount]
    push_cast
    rfl
  rw [mean_perm hperm, variance_perm hperm, hcast, add_sub_cancel_right]
  exact sq_div_variance_cons_le_iff hothers hvar

theorem sq_sub_mean_le (hx : x ∈ xs) (hlength : 2 ≤ xs.length) :
    (x - mean xs) ^ 2 ≤ ((xs.length : K) - 1) * variance xs := by
  have hperm := List.perm_cons_erase hx
  have hcount : xs.length = (xs.erase x).length + 1 := hperm.length_eq
  have hothers : xs.erase x ≠ [] := List.ne_nil_of_length_pos (by omega)
  have hcast : (xs.length : K) - 1 = (xs.erase x).length := by
    rw [hcount]
    push_cast
    ring
  rw [mean_perm hperm, variance_perm hperm, hcast]
  exact sq_sub_mean_cons_le hothers

/-- One member of size `n` among zeros reaches the bound: its deviation is `n - 1`. -/
theorem mean_spike (k : ℕ) : mean ((k + 1 : K) :: List.replicate k 0) = 1 := by
  have hsucc : (k : K) + 1 ≠ 0 := by positivity
  rw [mean, List.sum_cons, List.sum_replicate, smul_zero, add_zero, List.length_cons,
    List.length_replicate]
  push_cast
  exact div_self hsucc

theorem variance_spike (k : ℕ) : variance ((k + 1 : K) :: List.replicate k 0) = k := by
  have hsucc : (k : K) + 1 ≠ 0 := by positivity
  rw [variance, sumSq, mean_spike, List.map_cons, List.sum_cons, List.map_replicate,
    List.sum_replicate, List.length_cons, List.length_replicate, nsmul_eq_mul]
  push_cast
  field_simp
  ring

end GhgTool.Deviation
