import Mathlib.Data.List.Dedup
import Mathlib.Data.List.Sort
import Mathlib.Data.String.Basic
import GhgTool.Dict
import GhgTool.FallibleSort

/-!
# Year-on-year statistics

`yoy_stats.compute_yoy_baseline` over the history of a reconciliation. What `statistics` computes
in floats is a parameter; what it raises on is not.
-/

namespace GhgTool

/-- The exceptions of the reconciliation arithmetic. -/
inductive PyError
  | typeError | divisionByZero | statisticsError | invalidOperation
  deriving DecidableEq, Repr

/-- `Decimal` division. -/
def decimalDiv (a b : ℚ) : Except PyError ℚ :=
  if b = 0 then .error .divisionByZero else .ok (a / b)

/-- The figures of `statistics.fmean` and `statistics.stdev` on floats, back as decimals. -/
structure FloatStatistics where
  mean : List ℚ → ℚ
  deviation : List ℚ → ℚ

namespace FloatStatistics

variable (stats : FloatStatistics)

def fmean (deltas : List ℚ) : Except PyError ℚ :=
  if deltas.length < 1 then .error .statisticsError else .ok (stats.mean deltas)

def stdev (deltas : List ℚ) : Except PyError ℚ :=
  if deltas.length < 2 then .error .statisticsError else .ok (stats.deviation deltas)

end FloatStatistics

/-- Scope, sub-scope and site. -/
abbrev GroupKey := ℤ × String × Option String

/-- Python's `<` on two group keys: `None` does not compare with a string. -/
def groupKeyLt : GroupKey → GroupKey → Except PyError Bool :=
  tupleLt scalarLt (tupleLt scalarLt (optionLt .typeError))

theorem strictLt_groupKey : StrictLt groupKeyLt :=
  strictLt_scalar.tuple (strictLt_scalar.tuple (strictLt_option _))

theorem outcome_groupKeyLt (k k' : GroupKey) :
    Outcome (groupKeyLt k k') (fun _ => True) (· = .typeError) := by
  have hsite : Outcome (optionLt PyError.typeError k.2.2 k'.2.2) (fun _ => True)
      (· = .typeError) := by
    apply outcome_optionLt
    rfl
  exact outcome_tupleLt trivial (outcome_tupleLt trivial hsite)

theorem comparable_groupKey {k k' : GroupKey} : Comparable groupKeyLt k k' ↔
    (k.1 = k'.1 → k.2.1 = k'.2.1 → (k.2.2 = none ↔ k'.2.2 = none)) := by
  rw [groupKeyLt, comparable_tuple (comparable_scalar _ _)]
  refine imp_congr_right fun _ => ?_
  rw [comparable_tuple (comparable_scalar _ _)]
  exact imp_congr_right fun _ => comparable_option

/-- No scope and sub-scope has keys with and keys without a site. -/
def SitesUniform (keys : List GroupKey) : Prop :=
  ∀ k ∈ keys, ∀ k' ∈ keys, k.1 = k'.1 → k.2.1 = k'.2.1 → (k.2.2 = none ↔ k'.2.2 = none)

theorem sorted_groupKey_succeeds {keys : List GroupKey} (hnodup : keys.Nodup) :
    (∃ out, sorted groupKeyLt keys = .ok out) ↔ SitesUniform keys := by
  rw [sorted_succeeds strictLt_groupKey hnodup]
  simp only [comparable_groupKey, SitesUniform]

structure YoYStatsBaseline where
  key : GroupKey
  sampleSize : ℕ
  meanPct : ℚ
  sigmaPct : ℚ
  isReliable : Bool

/-- A history: by year, the tonnes of each key. -/
abbrev History := Dict ℕ (Dict GroupKey ℚ)

def History.ofYear (history : History) (year : ℕ) : Dict GroupKey ℚ :=
  (history.get? year).getD .empty

section Baseline

variable (stats : FloatStatistics) (minSample : ℕ)

/-- One turn of the loop over the keys of two consecutive years. -/
def addDelta (prevMap nextMap : Dict GroupKey ℚ) (deltasByKey : Dict GroupKey (List ℚ))
    (k : GroupKey) : Except PyError (Dict GroupKey (List ℚ)) :=
  match prevMap.get? k, nextMap.get? k with
  | some prev, some next =>
    if prev = 0 then .ok deltasByKey
    else do
      let ratio ← decimalDiv (next - prev) prev
      return deltasByKey.set k ((deltasByKey.get? k).getD [] ++ [ratio * 100])
  | _, _ => .ok deltasByKey

def addYearDeltas (history : History) (allKeys : List GroupKey)
    (deltasByKey : Dict GroupKey (List ℚ)) (years : ℕ × ℕ) :
    Except PyError (Dict GroupKey (List ℚ)) :=
  allKeys.foldlM (addDelta (history.ofYear years.1) (history.ofYear years.2)) deltasByKey

/-- Mean and sample deviation of the deltas of one key. -/
def meanAndSigma (deltas : List ℚ) : Except PyError (ℚ × ℚ) :=
  match deltas with
  | [] => .ok (0, 0)
  | [delta] => .ok (delta, 0)
  | _ => do
    let mean ← stats.fmean deltas
    let sigma ← stats.stdev deltas
    return (mean, sigma)

def addBaseline (deltasByKey : Dict GroupKey (List ℚ)) (out : Dict GroupKey YoYStatsBaseline)
    (k : GroupKey) : Except PyError (Dict GroupKey YoYStatsBaseline) := do
  let deltas := (deltasByKey.get? k).getD []
  let (mean, sigma) ← meanAndSigma stats deltas
  return out.set k
    { key := k, sampleSize := deltas.length, meanPct := mean, sigmaPct := sigma
      isReliable := minSample ≤ deltas.length }

def yearsSorted (history : History) : List ℕ :=
  history.keys.insertionSort (· ≤ ·)

/-- The set of the keys of all years. -/
def allGroupKeys (history : History) : List GroupKey :=
  ((yearsSorted history).flatMap fun year => (history.ofYear year).keys).dedup

def computeYoyBaseline (history : History) :
    Except PyError (Dict GroupKey YoYStatsBaseline) :=
  if history.entries.isEmpty then .ok .empty
  else do
    let years := yearsSorted history
    let deltasByKey ← (years.zip years.tail).foldlM
      (addYearDeltas history (allGroupKeys history)) .empty
    let keys ← sorted groupKeyLt (allGroupKeys history)
    keys.foldlM (addBaseline stats minSample deltasByKey) .empty

end Baseline

def thresholdPct (baseline : Option YoYStatsBaseline) (sigmaMultiplier fallbackPct : ℚ) : ℚ :=
  match baseline with
  | none => fallbackPct
  | some b =>
    if b.isReliable then |b.meanPct| + sigmaMultiplier * b.sigmaPct else fallbackPct

/-! ## When a baseline can be computed -/

section Succeeds

variable {stats : FloatStatistics} {minSample : ℕ} {history : History}

theorem decimalDiv_of_ne {a b : ℚ} (h : b ≠ 0) : decimalDiv a b = .ok (a / b) :=
  if_neg h

theorem addDelta_succeeds (prevMap nextMap : Dict GroupKey ℚ)
    (deltasByKey : Dict GroupKey (List ℚ)) (k : GroupKey) :
    ∃ out, addDelta prevMap nextMap deltasByKey k = .ok out := by
  unfold addDelta
  split
  · split_ifs with hprev
    · exact ⟨_, rfl⟩
    · rw [decimalDiv_of_ne hprev]
      exact ⟨_, rfl⟩
  · exact ⟨_, rfl⟩

theorem meanAndSigma_succeeds (stats : FloatStatistics) (deltas : List ℚ) :
    ∃ out, meanAndSigma stats deltas = .ok out := by
  unfold meanAndSigma
  split
  · exact ⟨_, rfl⟩
  · exact ⟨_, rfl⟩
  · rename_i hnil hone
    have hlen : 2 ≤ deltas.length := by
      match deltas with
      | [] => exact absurd rfl hnil
      | [delta] => exact absurd rfl (hone delta)
      | _ :: _ :: _ => simp
    rw [FloatStatistics.fmean, FloatStatistics.stdev, if_neg (by omega), if_neg (by omega)]
    exact ⟨_, rfl⟩

theorem addBaseline_succeeds (stats : FloatStatistics) (minSample : ℕ)
    (deltasByKey : Dict GroupKey (List ℚ)) (out : Dict GroupKey YoYStatsBaseline) (k : GroupKey) :
    ∃ out', addBaseline stats minSample deltasByKey out k = .ok out' := by
  obtain ⟨figures, h⟩ := meanAndSigma_succeeds stats ((deltasByKey.get? k).getD [])
  rw [addBaseline, h]
  exact ⟨_, rfl⟩

def History.groupKeys (history : History) : List GroupKey :=
  history.entries.flatMap fun entry => entry.2.keys

theorem mem_allGroupKeys {k : GroupKey} : k ∈ allGroupKeys history ↔ k ∈ history.groupKeys := by
  have hyears : ∀ year, year ∈ yearsSorted history ↔ ∃ d, (year, d) ∈ history.entries := by
    intro year
    rw [yearsSorted, (List.perm_insertionSort _ _).mem_iff, Dict.keys, List.mem_map]
    constructor
    · rintro ⟨⟨_, d⟩, hd, hyear⟩
      exact ⟨d, hyear ▸ hd⟩
    · rintro ⟨d, hd⟩
      exact ⟨(year, d), hd, rfl⟩
  have hyear : ∀ {year d}, (year, d) ∈ history.entries → history.ofYear year = d := by
    intro year d hd
    rw [History.ofYear, Dict.get?_eq_some_iff.mpr hd, Option.getD_some]
  rw [allGroupKeys, List.mem_dedup, List.mem_flatMap, History.groupKeys, List.mem_flatMap]
  constructor
  · rintro ⟨year, hmem, hk⟩
    obtain ⟨d, hd⟩ := (hyears year).mp hmem
    rw [hyear hd] at hk
    exact ⟨(year, d), hd, hk⟩
  · rintro ⟨⟨year, d⟩, hd, hk⟩
    refine ⟨year, (hyears year).mpr ⟨d, hd⟩, ?_⟩
    rwa [hyear hd]

theorem addYearDeltas_succeeds (history : History) (allKeys : List GroupKey)
    (deltasByKey : Dict GroupKey (List ℚ)) (years : ℕ × ℕ) :
    ∃ out, addYearDeltas history allKeys deltasByKey years = .ok out :=
  foldlM_succeeds (addDelta_succeeds _ _) deltasByKey allKeys

theorem computeYoyBaseline_succeeds :
    (∃ out, computeYoyBaseline stats minSample history = .ok out) ↔
      SitesUniform history.groupKeys := by
  have hkeys : (∃ out, sorted groupKeyLt (allGroupKeys history) = .ok out) ↔
      SitesUniform history.groupKeys := by
    have hnodup : (allGroupKeys history).Nodup := List.nodup_dedup _
    rw [sorted_groupKey_succeeds hnodup]
    simp only [SitesUniform, mem_allGroupKeys]
  rw [← hkeys, computeYoyBaseline]
  split_ifs with hempty
  · have hnone : allGroupKeys history = [] := by
      rw [List.eq_nil_iff_forall_not_mem]
      intro k hk
      rw [mem_allGroupKeys, History.groupKeys, List.isEmpty_iff.mp hempty] at hk
      cases hk
    rw [hnone]
    exact ⟨fun _ => ⟨[], rfl⟩, fun _ => ⟨_, rfl⟩⟩
  · constructor
    · rintro ⟨out, h⟩
      obtain ⟨deltasByKey, -, h⟩ := bind_eq_ok.mp h
      obtain ⟨keys, hkeys, -⟩ := bind_eq_ok.mp h
      exact ⟨keys, hkeys⟩
    · rintro ⟨keys, hkeys⟩
      obtain ⟨deltasByKey, hdeltas⟩ := foldlM_succeeds
        (addYearDeltas_succeeds history (allGroupKeys history)) .empty
        ((yearsSorted history).zip (yearsSorted history).tail)
      obtain ⟨out, hout⟩ := foldlM_succeeds (addBaseline_succeeds stats minSample deltasByKey)
        .empty keys
      exact ⟨out, bind_eq_ok.mpr ⟨_, hdeltas, bind_eq_ok.mpr ⟨keys, hkeys, hout⟩⟩⟩

/-- The only error is that of the sort. -/
theorem outcome_computeYoyBaseline :
    Outcome (computeYoyBaseline stats minSample history) (fun _ => True) (· = .typeError) := by
  rw [computeYoyBaseline]
  split_ifs
  · trivial
  · refine (Outcome.of_succeeds
      (foldlM_succeeds (addYearDeltas_succeeds history _) _ _)).bind fun deltasByKey _ => ?_
    refine (outcome_sorted outcome_groupKeyLt _).bind fun keys _ => ?_
    exact .of_succeeds (foldlM_succeeds (addBaseline_succeeds stats minSample deltasByKey) _ _)

end Succeeds

end GhgTool
