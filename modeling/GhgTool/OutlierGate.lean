import GhgTool.Deviation
import GhgTool.DqGates
import Mathlib.Analysis.Real.Sqrt

/-!
# What the outlier gate can report

`check_outlier_zscore` standardises with the population deviation. In a group of `n` quantities no
squared z-score then exceeds `n - 1`, and one large quantity among equal ones reaches it; the
documented `(n - 1)² / n` is the bound for the sample deviation. The arithmetic is exact.
-/

namespace GhgTool.OutlierGate

open Deviation

/-- A runtime that computes with the reals, without rounding. -/
structure ExactRuntime extends Runtime ℝ where
  lit_eq : ∀ q : ℚ, lit q = q
  sub_eq : ∀ x y, sub x y = x - y
  div_eq : ∀ x y, div x y = x / y
  abs_eq : ∀ x, abs x = |x|
  lt_iff : ∀ x y, lt x y = true ↔ x < y
  le_iff : ∀ x y, le x y = true ↔ x ≤ y
  isNan_eq : ∀ x, isNan x = false
  mean_eq : ∀ xs, mean xs = Deviation.mean xs
  std_eq : ∀ xs, std xs = √(variance xs)

variable (rt : ExactRuntime)

/-- `(grp_qty - grp_qty.mean()) / std`, for one quantity. -/
def zScore (qty : List ℝ) (x : ℝ) : ℝ :=
  rt.div (rt.sub x (rt.mean qty)) (rt.std qty)

/-- The quantities of a group that is large enough for the gate, and not all equal. -/
structure Group where
  qty : List ℚ
  size : minOutlierGroupSize ≤ qty.length
  spread : 0 < variance qty

/-- Every squared z-score is at most `(n - 1)² / n`. -/
def WithinDocumentedBound (g : Group) : Prop :=
  ∀ x ∈ g.qty, zScore rt (g.qty.map (↑)) x ^ 2 ≤
    ((((g.qty.length : ℚ) - 1) ^ 2 / g.qty.length : ℚ) : ℝ)

/-- There is a group of `n` rational quantities on which the gate reports a finding. -/
def CanReport (fuelCol : String) (scope : Scope) (n : ℕ) : Prop :=
  ∃ df : List (GateRow ℝ), df.length = n ∧ (∀ r ∈ df, ∃ q : ℚ, r.quantita = q) ∧
    (∃ key, ∀ r ∈ df, groupKey r = key) ∧
    (checkOutlierZscore rt.toRuntime fuelCol df scope).findings ≠ []

/-! ## Z-scores -/

variable {rt}

theorem zScore_eq (qty : List ℝ) (x : ℝ) :
    zScore rt qty x = (x - mean qty) / √(variance qty) := by
  rw [zScore, rt.div_eq, rt.sub_eq, rt.mean_eq, rt.std_eq]

theorem zScore_sq (qty : List ℝ) (x : ℝ) :
    zScore rt qty x ^ 2 = (x - mean qty) ^ 2 / variance qty := by
  rw [zScore_eq, div_pow, Real.sq_sqrt (variance_nonneg qty)]

theorem zScore_sq_cast (qty : List ℚ) (x : ℚ) :
    zScore rt (qty.map (↑)) x ^ 2 = (((x - mean qty) ^ 2 / variance qty : ℚ) : ℝ) := by
  have hmean := map_mean (Rat.castHom ℝ) qty
  have hvariance := map_variance (Rat.castHom ℝ) qty
  rw [Rat.coe_castHom] at hmean hvariance
  rw [zScore_sq, hmean, hvariance]
  push_cast
  rfl

/-- The documented bound holds of the groups in which no quantity is further from the mean of the
others, squared, than `n` times their squared deviations. -/
theorem withinDocumentedBound_iff (g : Group) : WithinDocumentedBound rt g ↔
    ∀ x ∈ g.qty, (x - mean (g.qty.erase x)) ^ 2 ≤ g.qty.length * sumSq (g.qty.erase x) := by
  have hlength : 2 ≤ g.qty.length := le_trans (by decide) g.size
  refine forall₂_congr fun x hx => ?_
  rw [zScore_sq_cast, Rat.cast_le]
  exact sq_div_variance_le_iff hx hlength g.spread

/-- No squared z-score exceeds `n - 1`. -/
theorem zScore_sq_le (rt : ExactRuntime) {qty : List ℝ} {x : ℝ} (hx : x ∈ qty)
    (hlength : 2 ≤ qty.length) (hvar : 0 < variance qty) : zScore rt qty x ^ 2 ≤ qty.length - 1 := by
  rw [zScore_sq, div_le_iff₀ hvar]
  exact sq_sub_mean_le hx hlength

/-! ## Findings -/

variable {fuelCol : String} {scope : Scope} {df : List (GateRow ℝ)} {key : String × Anno}

theorem skipped_eq_false_iff (rt : ExactRuntime) (qty : List ℝ) :
    (rt.isNan (rt.std qty) || rt.le (rt.std qty) (rt.lit (1 / 10 ^ 12)) ||
        decide (qty.length < minOutlierGroupSize)) = false ↔
      1 / 10 ^ 12 < √(variance qty) ∧ minOutlierGroupSize ≤ qty.length := by
  have hsmall : rt.le (rt.std qty) (rt.lit (1 / 10 ^ 12)) = false ↔
      1 / 10 ^ 12 < √(variance qty) := by
    rw [← Bool.not_eq_true, rt.le_iff, not_le, rt.std_eq, rt.lit_eq]
    push_cast
    rfl
  rw [Bool.or_eq_false_iff, Bool.or_eq_false_iff, rt.isNan_eq, hsmall, decide_eq_false_iff_not,
    not_lt]
  simp

theorem lt_abs_iff (x : ℝ) : rt.lt (rt.lit 2) (rt.abs x) = true ↔ 2 < |x| := by
  rw [rt.lt_iff, rt.lit_eq, rt.abs_eq]
  push_cast
  rfl

theorem groupOutliers_ne_nil_iff :
    groupOutliers rt.toRuntime fuelCol scope df key ≠ [] ↔
      let qty := (df.filter fun r => groupKey r = key).map GateRow.quantita
      (1 / 10 ^ 12 < √(variance qty) ∧ minOutlierGroupSize ≤ qty.length) ∧
        ∃ x ∈ qty, 2 < |zScore rt qty x| := by
  unfold groupOutliers
  dsimp only
  rw [← skipped_eq_false_iff rt]
  split_ifs with hskip
  · rw [hskip]
    simp
  · rw [Bool.not_eq_true] at hskip
    rw [hskip]
    constructor
    · intro hne
      obtain ⟨f, hf⟩ := List.exists_mem_of_ne_nil _ hne
      obtain ⟨r, hr, -⟩ := List.mem_map.mp hf
      obtain ⟨hmem, hlt⟩ := List.mem_filter.mp hr
      exact ⟨rfl, r.quantita, List.mem_map_of_mem hmem, (lt_abs_iff _).mp hlt⟩
    · rintro ⟨-, x, hx, hlt⟩
      obtain ⟨r, hmem, rfl⟩ := List.mem_map.mp hx
      exact List.ne_nil_of_mem
        (List.mem_map_of_mem (List.mem_filter.mpr ⟨hmem, (lt_abs_iff _).mpr hlt⟩))

theorem findings_ne_nil_iff (hkey : ∀ r ∈ df, groupKey r = key) (hdf : df ≠ []) :
    (checkOutlierZscore rt.toRuntime fuelCol df scope).findings ≠ [] ↔
      groupOutliers rt.toRuntime fuelCol scope df key ≠ [] := by
  have hkeys : ∀ k, k ∈ ((df.map groupKey).eraseDups).insertionSort GroupKeyLe ↔ k = key := by
    intro k
    rw [List.mem_insertionSort, List.mem_eraseDups, List.mem_map]
    constructor
    · rintro ⟨r, hr, rfl⟩
      exact hkey r hr
    · rintro rfl
      obtain ⟨r, hr⟩ := List.exists_mem_of_ne_nil df hdf
      exact ⟨r, hr, hkey r hr⟩
  simp only [checkOutlierZscore, gate, ne_eq, List.flatMap_eq_nil_iff, hkeys, forall_eq]

theorem filter_group (hkey : ∀ r ∈ df, groupKey r = key) :
    (df.filter fun r => groupKey r = key) = df :=
  List.filter_eq_self.mpr fun r hr => decide_eq_true (hkey r hr)

/-- The gate reports a finding on a group only from six quantities on. -/
theorem six_le_of_report (hkey : ∀ r ∈ df, groupKey r = key)
    (h : groupOutliers rt.toRuntime fuelCol scope df key ≠ []) : 6 ≤ df.length := by
  obtain ⟨⟨hstd, hsize⟩, x, hx, hlarge⟩ := groupOutliers_ne_nil_iff.mp h
  rw [filter_group hkey] at hstd hsize hx hlarge
  have hvar : 0 < variance (df.map GateRow.quantita) := by
    apply Real.sqrt_pos.mp
    exact lt_trans (by norm_num) hstd
  have hbound := zScore_sq_le rt hx (le_trans (by decide) hsize) hvar
  have hsquare : (2 : ℝ) ^ 2 < zScore rt (df.map GateRow.quantita) x ^ 2 := by
    rw [← sq_abs (zScore rt _ x)]
    gcongr
  rw [List.length_map] at hbound
  have hreal : (5 : ℝ) < df.length := by linarith
  have hnat : 5 < df.length := by exact_mod_cast hreal
  omega

/-- One row of a group. -/
def sample (quantita : ℝ) : GateRow ℝ where
  anno := ⟨2024, anno_2024⟩
  codiceSito := "IANO"
  fuel := "GAS_NAT"
  quantita := quantita
  qualitaDato := some "P"

/-- One quantity of `k + 1` and `k` zeros. -/
def spike (k : ℕ) : List (GateRow ℝ) :=
  sample (k + 1) :: List.replicate k (sample 0)

theorem quantita_spike (k : ℕ) :
    (spike k).map GateRow.quantita = (k + 1 : ℝ) :: List.replicate k 0 := by
  rw [spike, List.map_cons, List.map_replicate]
  rfl

theorem groupKey_spike (k : ℕ) : ∀ r ∈ spike k, groupKey r = groupKey (sample 0) := by
  intro r hr
  rcases List.mem_cons.mp hr with rfl | hr
  · rfl
  · rw [List.eq_of_mem_replicate hr]

theorem report_spike {k : ℕ} (hk : 5 ≤ k) :
    groupOutliers rt.toRuntime fuelCol scope (spike k) (groupKey (sample 0)) ≠ [] := by
  have hreal : (5 : ℝ) ≤ k := by exact_mod_cast hk
  have hroot : (2 : ℝ) < √k := Real.lt_sqrt_of_sq_lt (by linarith)
  apply groupOutliers_ne_nil_iff.mpr
  dsimp only
  rw [filter_group (groupKey_spike k), quantita_spike, variance_spike]
  refine ⟨⟨lt_trans (by norm_num) hroot, ?_⟩, k + 1, List.mem_cons_self, ?_⟩
  · rw [List.length_cons, List.length_replicate, minOutlierGroupSize]
    omega
  · rw [zScore_eq, mean_spike, variance_spike, add_sub_cancel_right, Real.div_sqrt,
      abs_of_pos (lt_trans (by norm_num) hroot)]
    exact hroot

theorem canReport_iff (rt : ExactRuntime) (fuelCol : String) (scope : Scope) (n : ℕ) :
    CanReport rt fuelCol scope n ↔ 6 ≤ n := by
  constructor
  · rintro ⟨df, rfl, -, ⟨key, hkey⟩, hfindings⟩
    have hdf : df ≠ [] := by
      rintro rfl
      exact hfindings rfl
    exact six_le_of_report hkey ((findings_ne_nil_iff hkey hdf).mp hfindings)
  · intro hn
    obtain ⟨k, rfl⟩ : ∃ k, n = k + 1 := ⟨n - 1, by omega⟩
    refine ⟨spike k, ?_, ?_, ⟨_, groupKey_spike k⟩, ?_⟩
    · rw [spike, List.length_cons, List.length_replicate]
    · intro r hr
      rcases List.mem_cons.mp hr with rfl | hr
      · exact ⟨(k : ℚ) + 1, by simp [sample]⟩
      · exact ⟨0, by rw [List.eq_of_mem_replicate hr]; simp [sample]⟩
    · exact (findings_ne_nil_iff (groupKey_spike k) (List.cons_ne_nil _ _)).mpr
        (report_spike (by omega))

open Classical in
/-- The rational that a real is, if it is one. -/
noncomputable def rational (x : ℝ) : Option ℚ :=
  if h : ∃ q : ℚ, (q : ℝ) = x then some h.choose else none

theorem rational_nonneg {x : ℝ} {q : ℚ} (hx : 0 ≤ x) (h : rational x = some q) : 0 ≤ q := by
  unfold rational at h
  split_ifs at h with hex
  cases h
  rw [← hex.choose_spec] at hx
  exact_mod_cast hx

open Classical in
noncomputable def realRuntime : ExactRuntime where
  lit q := q
  add x y := x + y
  sub x y := x - y
  div x y := x / y
  abs x := |x|
  lt x y := decide (x < y)
  le x y := decide (x ≤ y)
  isNan _ := false
  sum := List.sum
  mean := mean
  std xs := √(variance xs)
  str x := ((rational x).map plainRuntime.str).getD "nan"
  fixed n x := ((rational x).map (plainRuntime.fixed n)).getD "nan"
  signed n x := ((rational x).map (plainRuntime.signed n)).getD "nan"
  float s := (plainRuntime.float s).map (↑)
  int := plainRuntime.int
  repr := plainRuntime.repr
  toDecimal := rational
  setOrder := plainRuntime.setOrder
  sha256 := plainRuntime.sha256
  lit_zero_le := by simp
  float_zero := by
    rw [plainRuntime.float_zero]
    rfl
  int_toString := plainRuntime.int_toString
  toDecimal_nonneg := by
    intro x q hx hq
    exact rational_nonneg (by simpa using hx) hq
  setOrder_perm := plainRuntime.setOrder_perm
  lit_eq _ := rfl
  sub_eq _ _ := rfl
  div_eq _ _ := rfl
  abs_eq _ := rfl
  lt_iff _ _ := by simp
  le_iff _ _ := by simp
  isNan_eq _ := rfl
  mean_eq _ := rfl
  std_eq _ := rfl

def smallGroup : Group where
  qty := [1, 0, 0]
  size := by decide
  spread := by decide +kernel

end GhgTool.OutlierGate
