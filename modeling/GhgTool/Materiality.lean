import Mathlib.Tactic.Linarith
import GhgTool.MassConservation

/-!
# Materiality

Which rows of a reconciliation are material, and when a restatement is due, as the thresholds, the
history and the two sides change. A threshold that is lowered, or a history that is supplied, can
only flag more.
-/

namespace GhgTool

def ReconciliationDelta.key (d : ReconciliationDelta) : ReconciliationKey :=
  (d.scope, d.subScope, d.codiceSito, d.anno)

/-- The gate on the totals. -/
def AggregateTrips (opts : ReconcileOptions) (totalPrior totalCurrent : ℚ) : Prop :=
  totalPrior ≠ 0 ∧ opts.materialityPct < |(totalCurrent - totalPrior) / totalPrior * 100|

/-! ## The result of a reconciliation -/

section Accumulate

variable (opts : ReconcileOptions)

/-- What the loop over the keys leaves in its flags and counters. -/
structure Tallied (deltas : List ReconciliationDelta) (acc : Accumulated) : Prop where
  trips : acc.anySingleRowTripped = true ↔ ∃ d ∈ deltas, tripsAlone opts d = true
  causes : (acc.causeBreakdown.map Prod.snd).sum =
    (deltas.map fun d => |d.absDelta|).sum
  count : acc.materialCount = deltas.countP ReconciliationDelta.material

theorem tallied_add {deltas : List ReconciliationDelta} {acc : Accumulated}
    (h : Tallied opts deltas acc) (d : ReconciliationDelta) :
    Tallied opts (deltas ++ [d]) (acc.add opts d) where
  trips := by
    simp only [Accumulated.add, Bool.or_eq_true, h.trips, List.mem_append, List.mem_singleton]
    constructor
    · rintro (⟨d', hmem, htrips⟩ | htrips)
      · exact ⟨d', .inl hmem, htrips⟩
      · exact ⟨d, .inr rfl, htrips⟩
    · rintro ⟨d', hmem | rfl, htrips⟩
      · exact .inl ⟨d', hmem, htrips⟩
      · exact .inr htrips
  causes := by
    simp only [Accumulated.add, sum_addTo, h.causes, List.map_append, List.sum_append,
      List.map_singleton, List.sum_singleton]
  count := by
    rw [List.countP_append, List.countP_singleton, Accumulated.add, h.count]
    cases d.material
    · rfl
    · rfl

theorem tallied_accumulate (deltas : List ReconciliationDelta) :
    Tallied opts deltas (accumulate opts deltas) := by
  induction deltas using List.reverseRecOn with
  | nil =>
      constructor
      · simp [accumulate]
      · simp [accumulate, allCauses]
      · rfl
  | append_singleton deltas d ih =>
      have hstep := tallied_add opts ih d
      unfold accumulate at hstep ⊢
      rwa [List.foldl_append]

end Accumulate

/-- All that a reconciliation says about its keys. -/
structure Judges (opts : ReconcileOptions) (baselineByKey3 : Dict GroupKey YoYStatsBaseline)
    (prior current : List EmissionDict) (keys : List ReconciliationKey)
    (result : ReconciliationResult) : Prop
    extends Reports opts baselineByKey3 prior current keys result where
  totalAbsDelta : result.totalAbsDelta = result.totalCurrent - result.totalPrior
  restatement : result.restatementRequired = true ↔
    AggregateTrips opts result.totalPrior result.totalCurrent ∨
      ∃ d ∈ result.rows, tripsAlone opts d = true
  causes : (result.causeBreakdown.map Prod.snd).sum =
    (result.rows.map fun d => |d.absDelta|).sum
  count : result.materialCount = result.rows.countP ReconciliationDelta.material

section Results

variable {stats : FloatStatistics} {opts : ReconcileOptions} {prior current : List EmissionDict}
  {keys : List ReconciliationKey} {baselineByKey3 : Dict GroupKey YoYStatsBaseline}

theorem totalDeltaPct_eq (totalPrior totalCurrent : ℚ) :
    totalDeltaPct totalPrior totalCurrent = .ok (if totalPrior = 0 then none
      else some ((totalCurrent - totalPrior) / totalPrior * 100)) := by
  unfold totalDeltaPct
  by_cases h : totalPrior = 0
  · rw [if_pos h, if_pos h]
  · rw [if_neg h, if_neg h, decimalDiv_of_ne h]
    rfl

theorem judges_of_conclude {result : ReconciliationResult} (h : conclude opts (accumulate opts
    (keys.map (keyDelta opts baselineByKey3 prior current))) = .ok result) :
    Judges opts baselineByKey3 prior current keys result := by
  have hreports := reports_of_conclude h
  have htallied := tallied_accumulate opts (keys.map (keyDelta opts baselineByKey3 prior current))
  generalize accumulate opts (keys.map (keyDelta opts baselineByKey3 prior current)) = acc
    at h htallied
  rw [conclude, totalDeltaPct_eq] at h
  cases h
  rw [← hreports.rows] at htallied
  refine ⟨hreports, rfl, ?_, htallied.causes, htallied.count⟩
  rw [Bool.or_eq_true, htallied.trips, AggregateTrips]
  refine or_congr_left ?_
  by_cases hzero : acc.totalPrior = 0
  · simp [hzero]
  · simp [hzero]

/-- The sort of the keys and the history decide whether a reconciliation returns, and its result is
read off the keys. -/
theorem judges_of_reconcile {result : ReconciliationResult}
    (h : reconcile stats opts prior current = .ok result) :
    ∃ baselineByKey3 keys, baselines stats opts = .ok baselineByKey3 ∧
      sorted keyLt (allKeys prior current) = .ok keys ∧
        Judges opts baselineByKey3 prior current keys result := by
  obtain ⟨baselineByKey3, keys, hbaselines, hkeys, hconclude⟩ := reconcile_eq_ok.mp h
  exact ⟨baselineByKey3, keys, hbaselines, hkeys, judges_of_conclude hconclude⟩

theorem exists_judged (opts : ReconcileOptions)
    (hbaselines : baselines stats opts = .ok baselineByKey3)
    (hkeys : sorted keyLt (allKeys prior current) = .ok keys) :
    ∃ result, reconcile stats opts prior current = .ok result ∧
      Judges opts baselineByKey3 prior current keys result := by
  obtain ⟨result, h, -⟩ := conclude_succeeds opts
    (accumulate opts (keys.map (keyDelta opts baselineByKey3 prior current)))
  exact ⟨result, reconcile_eq_ok.mpr ⟨_, _, hbaselines, hkeys, h⟩, judges_of_conclude h⟩

end Results

/-! ## Thresholds -/

section Thresholds

variable {opts opts' : ReconcileOptions} {baselineByKey3 : Dict GroupKey YoYStatsBaseline}
  {prior current : List EmissionDict} {k : ReconciliationKey}

/-- A reliable history brings a threshold of its own, clamped by the parameter; any other leaves
the parameter. -/
theorem rowThreshold_cases (baselineByKey3 : Dict GroupKey YoYStatsBaseline)
    (k : ReconciliationKey) :
    (∀ opts, rowThreshold opts baselineByKey3 k = opts.materialityPct) ∨
      ∃ own, ∀ opts, rowThreshold opts baselineByKey3 k = min own opts.materialityPct := by
  unfold rowThreshold
  cases baselineByKey3.get? k.group with
  | none => exact .inl fun _ => rfl
  | some baseline =>
      by_cases h : baseline.isReliable = true
      · right
        refine ⟨|baseline.meanPct| + 2 * baseline.sigmaPct, fun opts => ?_⟩
        simp only [h, if_true, thresholdPct]
      · left
        intro opts
        simp only [h]
        rfl

/-- The clamp: no history lifts the threshold of a row above the parameter. -/
theorem rowThreshold_le (opts : ReconcileOptions)
    (baselineByKey3 : Dict GroupKey YoYStatsBaseline) (k : ReconciliationKey) :
    rowThreshold opts baselineByKey3 k ≤ opts.materialityPct := by
  rcases rowThreshold_cases baselineByKey3 k with h | ⟨own, h⟩
  · rw [h]
  · rw [h]
    exact min_le_right _ _

theorem rowThreshold_mono (hpct : opts'.materialityPct ≤ opts.materialityPct)
    (baselineByKey3 : Dict GroupKey YoYStatsBaseline) (k : ReconciliationKey) :
    rowThreshold opts' baselineByKey3 k ≤ rowThreshold opts baselineByKey3 k := by
  rcases rowThreshold_cases baselineByKey3 k with h | ⟨own, h⟩
  · rw [h, h]
    exact hpct
  · rw [h, h]
    exact min_le_min le_rfl hpct

theorem rowThreshold_empty (opts : ReconcileOptions) (k : ReconciliationKey) :
    rowThreshold opts .empty k = opts.materialityPct :=
  rfl

theorem isMaterial_mono {threshold threshold' absDelta : ℚ} {pctDelta : Option ℚ}
    (hthreshold : threshold' ≤ threshold)
    (hfloor : opts'.materialityTco2e ≤ opts.materialityTco2e)
    (h : isMaterial opts threshold absDelta pctDelta = true) :
    isMaterial opts' threshold' absDelta pctDelta = true := by
  unfold isMaterial at h ⊢
  cases pctDelta with
  | none =>
      simp only [decide_eq_true_eq] at h ⊢
      exact hfloor.trans h
  | some p =>
      simp only [decide_eq_true_eq] at h ⊢
      exact ⟨hthreshold.trans_lt h.1, hfloor.trans h.2⟩

theorem keyDelta_mono {baselineByKey3' : Dict GroupKey YoYStatsBaseline}
    (hthreshold : rowThreshold opts' baselineByKey3' k ≤ rowThreshold opts baselineByKey3 k)
    (hfloor : opts'.materialityTco2e ≤ opts.materialityTco2e)
    (h : (keyDelta opts baselineByKey3 prior current k).material = true) :
    (keyDelta opts' baselineByKey3' prior current k).material = true :=
  isMaterial_mono hthreshold hfloor h

/-- The gate on one row looks at the figures alone, not at the threshold of the row. -/
theorem tripsAlone_iff (opts : ReconcileOptions) (d : ReconciliationDelta) :
    tripsAlone opts d = true ↔
      ∃ p, d.pctDelta = some p ∧ opts.materialityPct * 2 < |p| ∧
        opts.materialityTco2e ≤ |d.absDelta| := by
  unfold tripsAlone
  cases d.pctDelta with
  | none => simp
  | some p => simp

theorem tripsAlone_mono {d d' : ReconciliationDelta} (hpct : d'.pctDelta = d.pctDelta)
    (habs : d'.absDelta = d.absDelta) (hthreshold : opts'.materialityPct ≤ opts.materialityPct)
    (hfloor : opts'.materialityTco2e ≤ opts.materialityTco2e)
    (h : tripsAlone opts d = true) : tripsAlone opts' d' = true := by
  obtain ⟨p, hp, hover, habove⟩ := (tripsAlone_iff opts d).mp h
  refine (tripsAlone_iff opts' d').mpr ⟨p, hpct.trans hp, ?_, ?_⟩
  · linarith
  · rw [habs]
    exact hfloor.trans habove

/-- Twice the parameter is over the threshold of the row. -/
theorem material_of_tripsAlone (hpct : 0 ≤ opts.materialityPct)
    (h : tripsAlone opts (keyDelta opts baselineByKey3 prior current k) = true) :
    (keyDelta opts baselineByKey3 prior current k).material = true := by
  obtain ⟨p, hp, hover, habove⟩ := (tripsAlone_iff opts _).mp h
  have hrow := rowThreshold_le opts baselineByKey3 k
  change isMaterial opts (rowThreshold opts baselineByKey3 k) _
    (keyDelta opts baselineByKey3 prior current k).pctDelta = true
  rw [hp]
  simp only [isMaterial, decide_eq_true_eq]
  constructor
  · linarith
  · exact habove

theorem AggregateTrips.mono {totalPrior totalCurrent : ℚ}
    (hpct : opts'.materialityPct ≤ opts.materialityPct)
    (h : AggregateTrips opts totalPrior totalCurrent) :
    AggregateTrips opts' totalPrior totalCurrent :=
  ⟨h.1, hpct.trans_lt h.2⟩

end Thresholds

/-! ## Two reconciliations of the same keys -/

/-- The rows of both results are those of the same keys, and none loses its flag. -/
def KeepsFlags (before after : ReconciliationResult) : Prop :=
  List.Forall₂ (fun d d' : ReconciliationDelta => d.key = d'.key ∧
    (d.material = true → d'.material = true)) before.rows after.rows

section Compare

variable {opts opts' : ReconcileOptions}
  {baselineByKey3 baselineByKey3' : Dict GroupKey YoYStatsBaseline}
  {prior current : List EmissionDict} {keys : List ReconciliationKey}
  {result result' : ReconciliationResult}

theorem forall₂_rows {prior' current' : List EmissionDict}
    {R : ReconciliationDelta → ReconciliationDelta → Prop}
    (h : Reports opts baselineByKey3 prior current keys result)
    (h' : Reports opts' baselineByKey3' prior' current' keys result')
    (hR : ∀ k, R (keyDelta opts baselineByKey3 prior current k)
      (keyDelta opts' baselineByKey3' prior' current' k)) :
    List.Forall₂ R result.rows result'.rows := by
  rw [h.rows, h'.rows, List.forall₂_map_left_iff, List.forall₂_map_right_iff, List.forall₂_same]
  exact fun k _ => hR k

theorem keepsFlags_of_judges (h : Judges opts baselineByKey3 prior current keys result)
    (h' : Judges opts' baselineByKey3' prior current keys result')
    (hthreshold : ∀ k, rowThreshold opts' baselineByKey3' k ≤ rowThreshold opts baselineByKey3 k)
    (hfloor : opts'.materialityTco2e ≤ opts.materialityTco2e) : KeepsFlags result result' := by
  apply forall₂_rows h.toReports h'.toReports
  intro k
  exact ⟨rfl, keyDelta_mono (hthreshold k) hfloor⟩

theorem restatement_mono (h : Judges opts baselineByKey3 prior current keys result)
    (h' : Judges opts' baselineByKey3' prior current keys result')
    (hpct : opts'.materialityPct ≤ opts.materialityPct)
    (hfloor : opts'.materialityTco2e ≤ opts.materialityTco2e)
    (hrestated : result.restatementRequired = true) : result'.restatementRequired = true := by
  have hprior : result'.totalPrior = result.totalPrior := by
    rw [h.totalPrior, h'.totalPrior]
  have hcurrent : result'.totalCurrent = result.totalCurrent := by
    rw [h.totalCurrent, h'.totalCurrent]
  apply h'.restatement.mpr
  rcases h.restatement.mp hrestated with haggregate | ⟨d, hd, htrips⟩
  · left
    rw [hprior, hcurrent]
    exact haggregate.mono hpct
  · right
    rw [h.rows] at hd
    obtain ⟨k, hk, rfl⟩ := List.mem_map.mp hd
    refine ⟨keyDelta opts' baselineByKey3' prior current k, ?_, ?_⟩
    · rw [h'.rows]
      exact List.mem_map_of_mem hk
    · exact tripsAlone_mono rfl rfl hpct hfloor htrips

theorem absDelta_swap (k : ReconciliationKey) :
    (keyDelta opts baselineByKey3 current prior k).absDelta =
      -(keyDelta opts baselineByKey3 prior current k).absDelta := by
  unfold keyDelta deltaOf
  ring

theorem sorted_allKeys_swap (h : sorted keyLt (allKeys prior current) = .ok keys) :
    sorted keyLt (allKeys current prior) = .ok keys := by
  refine sorted_of_perm strictLt_key nodup_allKeys ?_ h
  rw [List.perm_ext_iff_of_nodup nodup_allKeys nodup_allKeys]
  intro k
  rw [mem_allKeys, mem_allKeys, or_comm]

end Compare

/-! ## The two sides alike -/

section Same

variable {opts : ReconcileOptions} {baselineByKey3 : Dict GroupKey YoYStatsBaseline}
  {rows : List EmissionDict} {keys : List ReconciliationKey} {result : ReconciliationResult}

theorem absDelta_self (k : ReconciliationKey) :
    (keyDelta opts baselineByKey3 rows rows k).absDelta = 0 := by
  unfold keyDelta deltaOf
  exact sub_self _

theorem not_material_of_zero {threshold absDelta : ℚ} {pctDelta : Option ℚ}
    (hfloor : 0 < opts.materialityTco2e) (hzero : absDelta = 0) :
    isMaterial opts threshold absDelta pctDelta = false := by
  have hbelow : ¬opts.materialityTco2e ≤ |absDelta| := by
    rw [hzero, abs_zero]
    exact not_le.mpr hfloor
  unfold isMaterial
  cases pctDelta with
  | none => simp only [hbelow, decide_false]
  | some p => simp only [hbelow, and_false, decide_false]

theorem nothing_to_report (hfloor : 0 < opts.materialityTco2e) (hpct : 0 ≤ opts.materialityPct)
    (h : Judges opts baselineByKey3 rows rows keys result) :
    (∀ d ∈ result.rows, d.absDelta = 0 ∧ d.material = false) ∧ result.totalAbsDelta = 0 ∧
      result.materialCount = 0 ∧ result.restatementRequired = false := by
  have hrows : ∀ d ∈ result.rows, d.absDelta = 0 ∧ d.material = false := by
    intro d hd
    rw [h.rows] at hd
    obtain ⟨k, -, rfl⟩ := List.mem_map.mp hd
    have hzero : (keyDelta opts baselineByKey3 rows rows k).absDelta = 0 := absDelta_self k
    exact ⟨hzero, not_material_of_zero hfloor hzero⟩
  have htotals : result.totalCurrent = result.totalPrior := by
    rw [h.totalPrior, h.totalCurrent]
  refine ⟨hrows, ?_, ?_, ?_⟩
  · rw [h.totalAbsDelta, htotals, sub_self]
  · rw [h.count, List.countP_eq_zero]
    intro d hd
    rw [(hrows d hd).2]
    decide
  · rw [← Bool.not_eq_true, h.restatement]
    rintro (⟨-, hover⟩ | ⟨d, hd, htrips⟩)
    · rw [htotals, sub_self, zero_div, zero_mul, abs_zero] at hover
      linarith
    · obtain ⟨p, -, -, habove⟩ := (tripsAlone_iff opts d).mp htrips
      rw [(hrows d hd).1, abs_zero] at habove
      linarith

end Same

/-- What thresholds, a history and an exchange of the sides do to a result. -/
structure MaterialityLaws (stats : FloatStatistics) (opts : ReconcileOptions)
    (prior current : List EmissionDict) (result : ReconciliationResult) : Prop where
  lower : ∀ pct tco2e, pct ≤ opts.materialityPct → tco2e ≤ opts.materialityTco2e → ∃ lowered,
      reconcile stats { opts with materialityPct := pct, materialityTco2e := tco2e } prior current =
        .ok lowered ∧ KeepsFlags result lowered ∧
        (result.restatementRequired = true → lowered.restatementRequired = true)
  history : opts.historicalByYear = none → ∀ history informed,
    reconcile stats { opts with historicalByYear := some history } prior current = .ok informed →
      KeepsFlags result informed ∧ informed.restatementRequired = result.restatementRequired
  singleRow : ∀ d ∈ result.rows, tripsAlone opts d = true → d.material = true
  swap : ∃ swapped, reconcile stats opts current prior = .ok swapped ∧
    List.Forall₂ (fun d d' : ReconciliationDelta => d.key = d'.key ∧ d'.absDelta = -d.absDelta)
      result.rows swapped.rows ∧ swapped.totalAbsDelta = -result.totalAbsDelta
  causes : (result.causeBreakdown.map Prod.snd).sum =
    (result.rows.map fun d => |d.absDelta|).sum
  same : prior = current → (prior.map EmissionDict.key).Nodup → 0 < opts.materialityTco2e →
    (∀ d ∈ result.rows, d.absDelta = 0 ∧ d.material = false) ∧ result.totalAbsDelta = 0 ∧
      result.materialCount = 0 ∧ result.restatementRequired = false

section Laws

variable {stats : FloatStatistics} {opts : ReconcileOptions} {prior current : List EmissionDict}
  {keys : List ReconciliationKey} {baselineByKey3 : Dict GroupKey YoYStatsBaseline}
  {result : ReconciliationResult}

/-- No history and any history: the thresholds of the rows can only fall, the gates stay. -/
theorem history_only_adds {history : History} {informed : ReconciliationResult}
    (hnone : opts.historicalByYear = none)
    (hbaselines : baselines stats opts = .ok baselineByKey3)
    (hkeys : sorted keyLt (allKeys prior current) = .ok keys)
    (h : Judges opts baselineByKey3 prior current keys result)
    (hinformed : reconcile stats { opts with historicalByYear := some history } prior current =
      .ok informed) :
    KeepsFlags result informed ∧ informed.restatementRequired = result.restatementRequired := by
  obtain ⟨baselineByKey3', keys', -, hkeys', h'⟩ := judges_of_reconcile hinformed
  rw [hkeys] at hkeys'
  cases hkeys'
  have hempty : baselineByKey3 = .empty := by
    rw [baselines, hnone] at hbaselines
    exact (Except.ok.inj hbaselines).symm
  subst hempty
  constructor
  · apply keepsFlags_of_judges h h' _ le_rfl
    intro k
    rw [rowThreshold_empty]
    exact rowThreshold_le _ baselineByKey3' k
  · rw [Bool.eq_iff_iff]
    constructor
    · exact restatement_mono h' h le_rfl le_rfl
    · exact restatement_mono h h' le_rfl le_rfl

/-- Materiality is monotone, whatever `statistics` computes from the history. -/
theorem materiality_laws (stats : FloatStatistics) (opts : ReconcileOptions)
    (prior current : List EmissionDict) (result : ReconciliationResult)
    (hpct : 0 ≤ opts.materialityPct) (h : reconcile stats opts prior current = .ok result) :
    MaterialityLaws stats opts prior current result := by
  obtain ⟨baselineByKey3, keys, hbaselines, hkeys, hjudges⟩ := judges_of_reconcile h
  constructor
  · intro pct tco2e hle hle'
    obtain ⟨lowered, hlowered, hjudges'⟩ := exists_judged
      { opts with materialityPct := pct, materialityTco2e := tco2e } hbaselines hkeys
    refine ⟨lowered, hlowered, ?_, restatement_mono hjudges hjudges' hle hle'⟩
    exact keepsFlags_of_judges hjudges hjudges' (rowThreshold_mono hle baselineByKey3) hle'
  · intro hnone history informed hinformed
    exact history_only_adds hnone hbaselines hkeys hjudges hinformed
  · intro d hd htrips
    rw [hjudges.rows] at hd
    obtain ⟨k, -, rfl⟩ := List.mem_map.mp hd
    exact material_of_tripsAlone hpct htrips
  · obtain ⟨swapped, hswapped, hjudges'⟩ := exists_judged opts hbaselines
      (sorted_allKeys_swap hkeys)
    refine ⟨swapped, hswapped, ?_, ?_⟩
    · exact forall₂_rows hjudges.toReports hjudges'.toReports fun k => ⟨rfl, absDelta_swap k⟩
    · rw [hjudges'.totalAbsDelta, hjudges.totalAbsDelta, hjudges'.totalCurrent,
        hjudges'.totalPrior, hjudges.totalCurrent, hjudges.totalPrior, neg_sub]
  · exact hjudges.causes
  · rintro rfl - hpositive
    exact nothing_to_report hpositive hpct hjudges

/-- A row without a site. -/
def rowOf (subScope : String) (tco2e : ℚ) : EmissionDict :=
  ⟨3, subScope, none, 2024, some tco2e, some "2024"⟩

/-- The purchased goods of four steady years. -/
def steadyGoods : History :=
  [(2020, 10000), (2021, 10100), (2022, 10050), (2023, 10000)].foldl
    (fun history entry => history.set entry.1 (Dict.empty.set (3, "Cat1", none) entry.2)) .empty

/-- The mean, and the range for the deviation. -/
def rangeStatistics : FloatStatistics :=
  ⟨fun xs => xs.sum / xs.length, fun xs => xs.foldr max 0 - xs.foldr min 0⟩

def goodsBefore : List EmissionDict := [rowOf "Cat1" 10000, rowOf "Cat4" 400, rowOf "Cat5" 9]

def goodsAfter : List EmissionDict := [rowOf "Cat1" 10400, rowOf "Cat4" 401, rowOf "Cat7" 30]

/-- Four per cent more goods are material next to their history only. -/
theorem materiality_laws_goods :
    ∃ result informed, reconcile rangeStatistics {} goodsBefore goodsAfter = .ok result ∧
      reconcile rangeStatistics { historicalByYear := some steadyGoods } goodsBefore goodsAfter =
        .ok informed ∧ result.materialCount < informed.materialCount ∧
      MaterialityLaws rangeStatistics {} goodsBefore goodsAfter result ∧
      MaterialityLaws rangeStatistics { historicalByYear := some steadyGoods } goodsBefore goodsAfter
        informed := by
  have hcount : (reconcile rangeStatistics {} goodsBefore goodsAfter).map
      ReconciliationResult.materialCount = .ok 0 := by
    decide +kernel
  have hcount' : (reconcile rangeStatistics { historicalByYear := some steadyGoods } goodsBefore
      goodsAfter).map ReconciliationResult.materialCount = .ok 1 := by
    decide +kernel
  obtain ⟨result, h, hzero⟩ := map_eq_ok.mp hcount
  obtain ⟨informed, h', hone⟩ := map_eq_ok.mp hcount'
  have hpct : (0 : ℚ) ≤ 5 := by norm_num
  refine ⟨result, informed, h, h', ?_, materiality_laws rangeStatistics {} _ _ result hpct h,
    materiality_laws rangeStatistics { historicalByYear := some steadyGoods } _ _ informed hpct h'⟩
  rw [hzero, hone]
  exact Nat.zero_lt_one

end Laws

end GhgTool
