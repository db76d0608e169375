import Mathlib.Data.Int.Log
import Mathlib.Tactic.Positivity
import Mathlib.Tactic.Ring
import GhgTool.HalfUp

/-!
# Decimal arithmetic with a bounded number of digits

A context rounds the exact result of an operation to `prec` significant digits, ties to even, and
to fewer near the smallest exponent; a result of more than `emax + 1` integer digits overflows.
`quantize` keeps a fixed number of decimals and refuses a result that needs more than `prec` digits.
Numbers are compared with `edge k`, the point from which they round to `10 ^ k` or more: rounding
crosses it in neither direction.
-/

namespace GhgTool

structure DecimalContext where
  prec : ℕ
  emax : ℤ
  etiny : ℤ
  prec_pos : 0 < prec

/-- The conditions that are trapped. -/
inductive Signal
  | overflow
  | invalidOperation
  deriving DecidableEq

namespace DecimalContext

/-! ## Rounding to an integer, ties to even -/

def halfEven (x : ℚ) : ℤ :=
  if x - ⌊x⌋ < 1 / 2 then ⌊x⌋
  else if 1 / 2 < x - ⌊x⌋ then ⌊x⌋ + 1
  else if ⌊x⌋ % 2 = 0 then ⌊x⌋ else ⌊x⌋ + 1

theorem floor_le_halfEven (x : ℚ) : ⌊x⌋ ≤ halfEven x := by
  unfold halfEven
  split_ifs <;> omega

theorem halfEven_le_floor_add_one (x : ℚ) : halfEven x ≤ ⌊x⌋ + 1 := by
  unfold halfEven
  split_ifs <;> omega

theorem le_halfEven {x : ℚ} {n : ℤ} (h : n ≤ x) : n ≤ halfEven x :=
  (Int.le_floor.mpr h).trans (floor_le_halfEven x)

theorem halfEven_lt {x : ℚ} {n : ℤ} (h : x < n - 1 / 2) : halfEven x < n := by
  have hlow := Int.floor_le x
  have hfloor : ⌊x⌋ < n := Int.floor_lt.mpr (by linarith)
  by_cases hlast : ⌊x⌋ = n - 1
  · have hcast : (⌊x⌋ : ℚ) = n - 1 := by exact_mod_cast hlast
    rw [halfEven, if_pos (by linarith)]
    exact hfloor
  · have hstep := halfEven_le_floor_add_one x
    omega

theorem halfEven_le {x : ℚ} {n : ℤ} (h : x ≤ n) : halfEven x ≤ n := by
  have hlt : halfEven x < n + 1 := by
    apply halfEven_lt
    push_cast
    linarith
  omega

theorem abs_halfEven_sub_le (x : ℚ) : |halfEven x - x| ≤ 1 / 2 := by
  have hlow := Int.floor_le x
  have hhigh := Int.lt_floor_add_one x
  unfold halfEven
  rw [abs_le]
  split_ifs
  · constructor <;> linarith
  · push_cast
    constructor <;> linarith
  · constructor <;> linarith
  · push_cast
    constructor <;> linarith

/-- Half way below an even integer rounds up. -/
theorem le_halfEven_of_half_le {x : ℚ} {n : ℤ} (heven : n % 2 = 0) (h : n - 1 / 2 ≤ x) :
    n ≤ halfEven x := by
  by_cases hn : (n : ℚ) ≤ x
  · exact le_halfEven hn
  · have hhigh := Int.lt_floor_add_one x
    have hge : n < ⌊x⌋ + 2 := by
      have hcast : (n : ℚ) < ⌊x⌋ + 2 := by linarith
      exact_mod_cast hcast
    have hlt : ⌊x⌋ < n := Int.floor_lt.mpr (not_le.mp hn)
    have hfloor : ⌊x⌋ = n - 1 := by omega
    have hcast : (⌊x⌋ : ℚ) = n - 1 := by exact_mod_cast hfloor
    unfold halfEven
    rw [if_neg (by linarith)]
    split_ifs <;> omega

variable (c : DecimalContext)

/-! ## Rounding to the precision -/

def exponent (x : ℚ) : ℤ :=
  max (Int.log 10 |x| + 1 - c.prec) c.etiny

def quantum (x : ℚ) : ℚ :=
  10 ^ c.exponent x

def round (x : ℚ) : ℚ :=
  let magnitude := halfEven (|x| / c.quantum x) * c.quantum x
  if 0 ≤ x then magnitude else -magnitude

/-- From here on a number rounds to `10 ^ k` or more. -/
def edge (k : ℤ) : ℚ :=
  10 ^ k - 10 ^ (k - c.prec) / 2

variable {c}

theorem quantum_pos (x : ℚ) : 0 < c.quantum x :=
  zpow_pos (by norm_num) _

theorem abs_round (x : ℚ) : |c.round x| = halfEven (|x| / c.quantum x) * c.quantum x := by
  have hpos := quantum_pos (c := c) x
  have hunits : (0 : ℤ) ≤ halfEven (|x| / c.quantum x) := le_halfEven (by push_cast; positivity)
  have hnonneg : (0 : ℚ) ≤ halfEven (|x| / c.quantum x) * c.quantum x :=
    mul_nonneg (by exact_mod_cast hunits) hpos.le
  unfold round
  split_ifs
  · exact abs_of_nonneg hnonneg
  · rw [abs_neg, abs_of_nonneg hnonneg]

theorem round_zero : c.round 0 = 0 := by
  have h := abs_round (c := c) 0
  rw [abs_zero, zero_div] at h
  have hzero : halfEven 0 = 0 := by simp [halfEven]
  rw [hzero, Int.cast_zero, zero_mul] at h
  exact abs_eq_zero.mp h

/-- The last digit is the last one of the precision, or the smallest one there is. -/
theorem quantum_le {x : ℚ} (hx : x ≠ 0) :
    c.quantum x ≤ |x| * 10 ^ (1 - c.prec : ℤ) + 10 ^ c.etiny := by
  have hten : (10 : ℚ) ≠ 0 := by norm_num
  have hetiny : (0 : ℚ) < 10 ^ c.etiny := zpow_pos (by norm_num) _
  have hdigits : (0 : ℚ) < 10 ^ (1 - c.prec : ℤ) := zpow_pos (by norm_num) _
  have hlog : (10 : ℚ) ^ (Int.log 10 |x| + 1 - c.prec) ≤ |x| * 10 ^ (1 - c.prec : ℤ) := by
    have hle : (10 : ℚ) ^ Int.log 10 |x| ≤ |x| :=
      Int.zpow_log_le_self (by norm_num) (abs_pos.mpr hx)
    rw [add_sub_assoc, zpow_add₀ hten]
    exact mul_le_mul_of_nonneg_right hle hdigits.le
  unfold quantum exponent
  rcases max_cases (Int.log 10 |x| + 1 - (c.prec : ℤ)) c.etiny with ⟨hmax, -⟩ | ⟨hmax, -⟩
  · rw [hmax]
    linarith
  · rw [hmax]
    have hnonneg := mul_nonneg (abs_nonneg x) hdigits.le
    linarith

theorem abs_round_sub (x : ℚ) :
    |c.round x - x| = |(halfEven (|x| / c.quantum x) * c.quantum x - |x|)| := by
  unfold round
  dsimp only
  split_ifs with hnonneg
  · rw [abs_of_nonneg hnonneg]
  · rw [abs_of_neg (not_le.mp hnonneg), ← abs_neg]
    ring_nf

/-- Rounding moves a number by half a unit of its last digit at most. -/
theorem abs_round_sub_le (x : ℚ) :
    |c.round x - x| ≤ (|x| * 10 ^ (1 - c.prec : ℤ) + 10 ^ c.etiny) / 2 := by
  rcases eq_or_ne x 0 with rfl | hx
  · have hetiny : (0 : ℚ) < 10 ^ c.etiny := zpow_pos (by norm_num) _
    rw [round_zero, sub_zero, abs_zero, zero_mul, zero_add]
    linarith
  have hpos := quantum_pos (c := c) x
  have hunits : |(halfEven (|x| / c.quantum x) * c.quantum x - |x|)| =
      |halfEven (|x| / c.quantum x) - |x| / c.quantum x| * c.quantum x := by
    have hsplit : halfEven (|x| / c.quantum x) * c.quantum x - |x| =
        (halfEven (|x| / c.quantum x) - |x| / c.quantum x) * c.quantum x := by
      rw [sub_mul, div_mul_cancel₀ _ hpos.ne']
    rw [hsplit, abs_mul, abs_of_pos hpos]
  calc |c.round x - x| = |halfEven (|x| / c.quantum x) - |x| / c.quantum x| * c.quantum x :=
        (abs_round_sub x).trans hunits
    _ ≤ 1 / 2 * c.quantum x :=
        mul_le_mul_of_nonneg_right (abs_halfEven_sub_le _) hpos.le
    _ ≤ (|x| * 10 ^ (1 - c.prec : ℤ) + 10 ^ c.etiny) / 2 := by
        have hlast := quantum_le (c := c) hx
        linarith

/-- A power of ten from the last digit of `x` on is a whole number of its quanta. -/
theorem zpow_eq_mul_quantum {x : ℚ} {j : ℤ} (h : c.exponent x ≤ j) :
    ((10 ^ (j - c.exponent x).toNat : ℤ) : ℚ) * c.quantum x = 10 ^ j := by
  have hcast : ((j - c.exponent x).toNat : ℤ) = j - c.exponent x := Int.toNat_of_nonneg (by omega)
  rw [quantum, Int.cast_pow, Int.cast_ofNat, ← zpow_natCast, hcast, ← zpow_add₀ (by norm_num)]
  congr 1
  omega

/-- A number of at most `prec` digits rounds to itself. -/
theorem round_eq_self {x : ℚ} {n k : ℤ} (hx : x = n * 10 ^ k) (hdigits : |n| < 10 ^ c.prec)
    (hk : c.etiny ≤ k) : c.round x = x := by
  rcases eq_or_ne x 0 with rfl | hne
  · exact round_zero
  have hpos := quantum_pos (c := c) x
  have hpow : (0 : ℚ) < 10 ^ k := zpow_pos (by norm_num) k
  have habs : |x| = (|n| : ℤ) * 10 ^ k := by rw [hx, abs_mul, abs_of_pos hpow, Int.cast_abs]
  have hexponent : c.exponent x ≤ k := by
    have hlt : |x| < 10 ^ (c.prec + k : ℤ) := by
      rw [habs, zpow_add₀ (by norm_num), zpow_natCast]
      exact mul_lt_mul_of_pos_right (by exact_mod_cast hdigits) hpow
    have hlog : Int.log 10 |x| < c.prec + k :=
      (Int.lt_zpow_iff_log_lt (by norm_num) (abs_pos.mpr hne)).mp hlt
    exact max_le (by omega) hk
  have hquanta : |x| / c.quantum x = ((|n| * 10 ^ (k - c.exponent x).toNat : ℤ) : ℚ) := by
    rw [habs, ← zpow_eq_mul_quantum hexponent, ← mul_assoc, mul_div_cancel_right₀ _ hpos.ne',
      Int.cast_mul]
  have hunits : (halfEven (|x| / c.quantum x) : ℚ) = |x| / c.quantum x := by
    rw [hquanta]
    exact_mod_cast le_antisymm (halfEven_le le_rfl) (le_halfEven le_rfl)
  have hsub := abs_round_sub (c := c) x
  rw [hunits, div_mul_cancel₀ _ hpos.ne', sub_self, abs_zero] at hsub
  exact sub_eq_zero.mp (abs_eq_zero.mp hsub)

theorem zpow_le_abs_round {x : ℚ} {j : ℤ} (hj : c.exponent x ≤ j) (h : 10 ^ j ≤ |x|) :
    10 ^ j ≤ |c.round x| := by
  have hpos := quantum_pos (c := c) x
  rw [← zpow_eq_mul_quantum hj] at h ⊢
  rw [abs_round]
  have hunits := le_halfEven ((le_div_iff₀ hpos).mpr h)
  exact mul_le_mul_of_nonneg_right (by exact_mod_cast hunits) hpos.le

theorem abs_round_le_zpow {x : ℚ} {j : ℤ} (hj : c.exponent x ≤ j) (h : |x| ≤ 10 ^ j) :
    |c.round x| ≤ 10 ^ j := by
  have hpos := quantum_pos (c := c) x
  rw [← zpow_eq_mul_quantum hj] at h ⊢
  rw [abs_round]
  have hunits := halfEven_le ((div_le_iff₀ hpos).mpr h)
  exact mul_le_mul_of_nonneg_right (by exact_mod_cast hunits) hpos.le

/-! ## The edges -/

theorem edge_lt_zpow (k : ℤ) : c.edge k < 10 ^ k := by
  have hpos : (0 : ℚ) < 10 ^ (k - c.prec) := zpow_pos (by norm_num) _
  unfold edge
  linarith

theorem zpow_lt_edge {j k : ℤ} (h : j < k) : (10 : ℚ) ^ j < c.edge k := by
  have hone : (1 : ℚ) < 10 := by norm_num
  have hj : (10 : ℚ) ^ j ≤ 10 ^ (k - 1) := zpow_le_zpow_right₀ hone.le (by omega)
  have hlast : (10 : ℚ) ^ (k - c.prec) ≤ 10 ^ (k - 1) :=
    zpow_le_zpow_right₀ hone.le (by have := c.prec_pos; omega)
  have hk : (10 : ℚ) ^ k = 10 ^ (k - 1) * 10 := by
    rw [← zpow_add_one₀ (by norm_num)]
    congr 1
    omega
  have hpos : (0 : ℚ) < 10 ^ (k - 1) := zpow_pos (by norm_num) _
  unfold edge
  linarith

theorem edge_le_edge {j k : ℤ} (h : j ≤ k) : c.edge j ≤ c.edge k := by
  rcases h.eq_or_lt with rfl | hlt
  · rfl
  · exact (edge_lt_zpow j).le.trans (zpow_lt_edge hlt).le

theorem edge_pos (k : ℤ) : 0 < c.edge k :=
  (zpow_pos (by norm_num) (k - 1)).trans (zpow_lt_edge (by omega))

theorem edge_add (k m : ℤ) : c.edge (k + m) = c.edge k * 10 ^ m := by
  have hlast : k + m - c.prec = k - c.prec + m := by omega
  unfold edge
  rw [hlast, zpow_add₀ (by norm_num), zpow_add₀ (by norm_num)]
  ring

theorem abs_mul_lt_edge {k m : ℤ} {x y : ℚ} (hx : |x| < c.edge k) (hy : |y| ≤ 10 ^ m) :
    |x * y| < c.edge (k + m) := by
  have hpos : (0 : ℚ) < 10 ^ m := zpow_pos (by norm_num) m
  rw [abs_mul, edge_add]
  calc |x| * |y| ≤ |x| * 10 ^ m := mul_le_mul_of_nonneg_left hy (abs_nonneg x)
    _ < c.edge k * 10 ^ m := mul_lt_mul_of_pos_right hx hpos

theorem abs_add_lt_edge {j k : ℤ} {x y : ℚ} (h : j ≤ k) (hx : |x| < c.edge j)
    (hy : |y| < c.edge k) : |x + y| < c.edge (k + 1) := by
  have hmono := edge_le_edge (c := c) h
  have hpos := edge_pos (c := c) k
  have hstep : c.edge (k + 1) = c.edge k * 10 := by rw [edge_add, zpow_one]
  have htriangle := abs_add_le x y
  linarith

/-- The last digit of `x` is the last one below `10 ^ k`: the edge is half a quantum below, and the
power of ten an even number of quanta. -/
theorem round_keeps_side_of_exponent_eq {k : ℤ} {x : ℚ} (heq : c.exponent x = k - c.prec) :
    (|x| < c.edge k ∧ |c.round x| < c.edge k) ∨ (c.edge k ≤ |x| ∧ 10 ^ k ≤ |c.round x|) := by
  have hprec := c.prec_pos
  have hpos := quantum_pos (c := c) x
  have hquantum : c.quantum x = 10 ^ (k - c.prec) := by rw [quantum, heq]
  have hpow : ((10 ^ c.prec : ℤ) : ℚ) * c.quantum x = 10 ^ k := by
    have h := zpow_eq_mul_quantum (c := c) (x := x) (j := k) (by omega)
    have hdigits : (k - c.exponent x).toNat = c.prec := by omega
    rwa [hdigits] at h
  have hedge : c.edge k = ((10 ^ c.prec : ℤ) - 1 / 2) * c.quantum x := by
    rw [edge, sub_mul, hpow, hquantum]
    ring
  have heven : (10 ^ c.prec : ℤ) % 2 = 0 := by
    obtain ⟨p, hp⟩ := Nat.exists_eq_succ_of_ne_zero hprec.ne'
    rw [hp, pow_succ]
    omega
  by_cases hbelow : |x| < c.edge k
  · left
    refine ⟨hbelow, ?_⟩
    rw [hedge] at hbelow
    have hunits := halfEven_lt ((div_lt_iff₀ hpos).mpr hbelow)
    have hcast : (halfEven (|x| / c.quantum x) : ℚ) ≤ (10 ^ c.prec : ℤ) - 1 := by
      exact_mod_cast Int.le_sub_one_of_lt hunits
    rw [abs_round, hedge]
    exact mul_lt_mul_of_pos_right (by linarith) hpos
  · right
    have habove := not_lt.mp hbelow
    refine ⟨habove, ?_⟩
    rw [hedge] at habove
    have hunits := le_halfEven_of_half_le heven ((le_div_iff₀ hpos).mpr habove)
    rw [abs_round, ← hpow]
    exact mul_le_mul_of_nonneg_right (by exact_mod_cast hunits) hpos.le

/-- Rounding stays on its side of an edge, and beyond it reaches the power of ten. -/
theorem round_keeps_side {k : ℤ} (hk : c.etiny ≤ k - c.prec) (x : ℚ) :
    (|x| < c.edge k ∧ |c.round x| < c.edge k) ∨ (c.edge k ≤ |x| ∧ 10 ^ k ≤ |c.round x|) := by
  have hprec := c.prec_pos
  rcases eq_or_ne x 0 with rfl | hx
  · left
    rw [round_zero, abs_zero]
    exact ⟨edge_pos k, edge_pos k⟩
  have hx : 0 < |x| := abs_pos.mpr hx
  by_cases hlarge : (10 : ℚ) ^ k ≤ |x|
  · right
    refine ⟨(edge_lt_zpow k).le.trans hlarge, ?_⟩
    have hlog : k ≤ Int.log 10 |x| := (Int.zpow_le_iff_le_log (by norm_num) hx).mp hlarge
    have hexponent : c.exponent x ≤ Int.log 10 |x| := max_le (by omega) (by omega)
    calc (10 : ℚ) ^ k ≤ 10 ^ Int.log 10 |x| := zpow_le_zpow_right₀ (by norm_num) hlog
      _ ≤ |c.round x| := zpow_le_abs_round hexponent (Int.zpow_log_le_self (by norm_num) hx)
  · have hlog : Int.log 10 |x| < k :=
      (Int.lt_zpow_iff_log_lt (by norm_num) hx).mp (not_le.mp hlarge)
    have hexponent : c.exponent x ≤ k - c.prec := max_le (by omega) hk
    rcases hexponent.eq_or_lt with heq | hlt
    · exact round_keeps_side_of_exponent_eq heq
    · -- `x` has digits to spare below `10 ^ k`, so that it is below `10 ^ (k - 1)`
      left
      have hmax : Int.log 10 |x| + 1 - c.prec ≤ c.exponent x := le_max_left _ _
      have hlog' : Int.log 10 |x| < k - 1 := by omega
      have hsmall : |x| < 10 ^ (k - 1) := (Int.lt_zpow_iff_log_lt (by norm_num) hx).mpr hlog'
      have hround : |c.round x| ≤ 10 ^ (k - 1) := abs_round_le_zpow (by omega) hsmall.le
      have hstep : (10 : ℚ) ^ (k - 1) < c.edge k := zpow_lt_edge (by omega)
      exact ⟨hsmall.trans hstep, hround.trans_lt hstep⟩

theorem abs_round_lt_edge {k : ℤ} (hk : c.etiny ≤ k - c.prec) {x : ℚ} :
    |c.round x| < c.edge k ↔ |x| < c.edge k := by
  have hpow := edge_lt_zpow (c := c) k
  rcases round_keeps_side hk x with ⟨hx, hround⟩ | ⟨hx, hround⟩
  · exact iff_of_true hround hx
  · exact iff_of_false (not_lt.mpr (hpow.le.trans hround)) (not_lt.mpr hx)

theorem abs_round_lt_zpow {k : ℤ} (hk : c.etiny ≤ k - c.prec) {x : ℚ} :
    |c.round x| < 10 ^ k ↔ |x| < c.edge k := by
  rcases round_keeps_side hk x with ⟨hx, hround⟩ | ⟨hx, hround⟩
  · exact iff_of_true (hround.trans (edge_lt_zpow k)) hx
  · exact iff_of_false (not_lt.mpr hround) (not_lt.mpr hx)

/-! ## The operations -/

variable (c)

/-- What an operation with this exact result returns. -/
def finalize (x : ℚ) : Except Signal ℚ :=
  if |c.round x| < 10 ^ (c.emax + 1) then .ok (c.round x) else .error .overflow

def mul (x y : ℚ) : Except Signal ℚ :=
  c.finalize (x * y)

def add (x y : ℚ) : Except Signal ℚ :=
  c.finalize (x + y)

/-- `quantize` with ties away from zero. -/
def quantize (places : ℕ) (x : ℚ) : Except Signal ℚ :=
  if |roundHalfUp places x| * 10 ^ places < 10 ^ c.prec then .ok (roundHalfUp places x)
  else .error .invalidOperation

variable {c}

theorem finalize_of_lt (hetiny : c.etiny ≤ c.emax + 1 - c.prec) {x : ℚ}
    (h : |x| < c.edge (c.emax + 1)) : c.finalize x = .ok (c.round x) :=
  if_pos ((abs_round_lt_zpow hetiny).mpr h)

theorem finalize_of_not_lt (hetiny : c.etiny ≤ c.emax + 1 - c.prec) {x : ℚ}
    (h : ¬ |x| < c.edge (c.emax + 1)) : c.finalize x = .error .overflow :=
  if_neg (mt (abs_round_lt_zpow hetiny).mp h)

theorem abs_roundHalfUp_mul (places : ℕ) (x : ℚ) :
    |roundHalfUp places x| * 10 ^ places = (⌊|x| * 10 ^ places + 1 / 2⌋ : ℤ) := by
  have hpow : (0 : ℚ) < 10 ^ places := by positivity
  have hfloor : (0 : ℤ) ≤ ⌊|x| * 10 ^ places + 1 / 2⌋ := Int.floor_nonneg.mpr (by positivity)
  have hunits : (0 : ℚ) ≤ (⌊|x| * 10 ^ places + 1 / 2⌋ : ℤ) / 10 ^ places :=
    div_nonneg (by exact_mod_cast hfloor) hpow.le
  have habs : |roundHalfUp places x| = (⌊|x| * 10 ^ places + 1 / 2⌋ : ℤ) / 10 ^ places := by
    unfold roundHalfUp
    split_ifs
    · exact abs_of_nonneg hunits
    · rw [abs_neg, abs_of_nonneg hunits]
  rw [habs, div_mul_cancel₀ _ hpow.ne']

/-- The numbers whose rounded coefficient fits the precision. -/
theorem coefficient_fits_iff (places : ℕ) (x : ℚ) :
    |roundHalfUp places x| * 10 ^ places < 10 ^ c.prec ↔ |x| < c.edge (c.prec - places) := by
  have hpow : (0 : ℚ) < 10 ^ places := by positivity
  have hlast : (c.prec - places - c.prec : ℤ) = -places := by omega
  have hedge : c.edge (c.prec - places) = (10 ^ c.prec - 1 / 2) / 10 ^ places := by
    rw [edge, hlast, zpow_sub₀ (by norm_num), zpow_neg, zpow_natCast, zpow_natCast]
    ring
  have hinteger : |roundHalfUp places x| * 10 ^ places < 10 ^ c.prec ↔
      ⌊|x| * 10 ^ places + 1 / 2⌋ < (10 ^ c.prec : ℤ) := by
    rw [abs_roundHalfUp_mul]
    exact_mod_cast Iff.rfl
  rw [hinteger, Int.floor_lt, hedge, lt_div_iff₀ hpow]
  push_cast
  constructor <;> intro h <;> linarith

theorem abs_roundHalfUp_lt_edge {places : ℕ} {x : ℚ} (h : |x| < c.edge (c.prec - places)) :
    |roundHalfUp places x| < c.edge (c.prec - places) := by
  have hagain : |roundHalfUp places (roundHalfUp places x)| * 10 ^ places =
      |roundHalfUp places x| * 10 ^ places := by
    rw [abs_roundHalfUp_mul places (roundHalfUp places x), abs_roundHalfUp_mul places x,
      floor_half_eq (n := ⌊|x| * 10 ^ places + 1 / 2⌋) (by linarith) (by linarith)]
  rw [← coefficient_fits_iff, hagain]
  exact (coefficient_fits_iff places x).mpr h

theorem quantize_of_lt {places : ℕ} {x : ℚ} (h : |x| < c.edge (c.prec - places)) :
    c.quantize places x = .ok (roundHalfUp places x) :=
  if_pos ((coefficient_fits_iff places x).mpr h)

theorem quantize_of_not_lt {places : ℕ} {x : ℚ} (h : ¬ |x| < c.edge (c.prec - places)) :
    c.quantize places x = .error .invalidOperation :=
  if_neg (mt (coefficient_fits_iff places x).mp h)

end DecimalContext

end GhgTool
