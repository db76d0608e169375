import Mathlib.Algebra.BigOperators.Ring.List
import Mathlib.Algebra.Order.BigOperators.Group.List
import Mathlib.Data.Finset.Dedup
import Mathlib.Tactic.Linarith
import GhgTool.LedgerTrigger
import GhgTool.Tally
import GhgTool.YoyDeltas

/-!
# Hot spots

`hotspot_service.compute_hotspots`: the categories of Scope 3, ranked by tonnes. Shares, running
shares and flags are computed on the whole ranking, which is cut afterwards.
-/

namespace GhgTool.HotspotService

open YoyDeltas

/-! ## The service -/

def concentrationThreshold : ℚ := 80

def concentrationTopN : ℕ := 5

def yoySigmaMultiplier : ℚ := 2

def yoyFallbackPct : ℚ := 20

def s3CategoryLabels : List (String × String) :=
  [("Cat1", "1 - Beni e servizi acquistati"), ("Cat2", "2 - Beni capitali"),
    ("Cat3", "3 - Combustibili/energia WTT+T&D"), ("Cat4", "4 - Trasporto upstream"),
    ("Cat5", "5 - Rifiuti in operazioni"), ("Cat6", "6 - Viaggi di lavoro"),
    ("Cat7", "7 - Pendolarismo dipendenti"), ("Cat9", "9 - Trasporto downstream"),
    ("Cat11", "11 - Uso dei prodotti venduti (Omesso - Immateriale)"),
    ("Cat12", "12 - Fine vita prodotti venduti")]

def labelFor (subScope : String) : String :=
  (s3CategoryLabels.lookup subScope).getD subScope

structure HotspotEntry where
  rank : ℕ
  subScope : String
  categoryLabel : String
  tco2e : ℚ
  pctOfScope3 : ℚ
  cumulativePct : ℚ
  yoyDeltaPct : Option ℚ
  flagHighConcentration : Bool
  flagYoyOutlier : Bool
  outlierThresholdPct : ℚ
  gwpSet : String
  calcTimestamp : Timestamp
  factorSources : Finset String

/-- The key of a record in the totals; other scopes have none. -/
def scope3Key (r : EmissionRecord) : Option String :=
  if r.scope = .three then some r.subScope.label else none

def aggregateScope3 (emissions : List EmissionRecord) : List (String × ℚ) :=
  tally scope3Key EmissionRecord.tco2e emissions

/-- The order of the sort keys `(-tco2e, sub_scope)`. -/
def RanksBefore (a b : String × ℚ) : Prop :=
  b.2 < a.2 ∨ a.2 = b.2 ∧ a.1 ≤ b.1

instance : DecidableRel RanksBefore := fun _ _ => inferInstanceAs (Decidable (_ ∨ _))

def rankedTotals (totals : List (String × ℚ)) : List (String × ℚ) :=
  totals.insertionSort RanksBefore

/-- The GWP set of the records; empty when they have several. -/
def traceGwpSet (records : List EmissionRecord) : String :=
  match (records.map EmissionRecord.gwpSet).dedup with
  | [gwpSet] => gwpSet.label
  | _ => ""

/-- What the loop over the ranking reads. -/
structure Slice where
  scope3Total : ℚ
  flagHighConcentration : Bool
  priorTotal : String → Option ℚ
  baselineByKey : Dict String YoYStatsBaseline
  gwpSet : String
  calcTimestamp : Timestamp
  factorSources : Finset String

namespace Slice

variable (s : Slice)

def yoyDelta (subScope : String) (value : ℚ) : Option ℚ :=
  match s.priorTotal subScope with
  | none => none
  | some prior => if prior ≤ 0 then none else some ((value - prior) / prior * 100)

def entry (rank : ℕ) (cumulative : ℚ) (kv : String × ℚ) : HotspotEntry :=
  let pct := kv.2 / s.scope3Total * 100
  let yoy := s.yoyDelta kv.1 kv.2
  let rowThreshold := thresholdPct (s.baselineByKey.get? kv.1) yoySigmaMultiplier yoyFallbackPct
  { rank, subScope := kv.1, categoryLabel := labelFor kv.1, tco2e := kv.2, pctOfScope3 := pct
    cumulativePct := cumulative + pct, yoyDeltaPct := yoy
    flagHighConcentration := s.flagHighConcentration
    flagYoyOutlier := yoy.any fun y => rowThreshold < |y|
    outlierThresholdPct := rowThreshold, gwpSet := s.gwpSet, calcTimestamp := s.calcTimestamp
    factorSources := s.factorSources }

/-- The loop; `cumulative` is the running share before the next entry. -/
def entries (rank : ℕ) (cumulative : ℚ) : List (String × ℚ) → List HotspotEntry
  | [] => []
  | kv :: rest =>
      s.entry rank cumulative kv ::
        entries (rank + 1) (s.entry rank cumulative kv).cumulativePct rest

end Slice

/-- The five largest categories against the threshold. -/
def highConcentration (ranked : List (String × ℚ)) (scope3Total : ℚ) : Bool :=
  concentrationThreshold <
    ((ranked.take concentrationTopN).map Prod.snd).sum / scope3Total * 100

/-- The baselines of the categories. Their keys are the codes, wrapped as `(sub_scope,)`. -/
def baselines (stats : FloatStatistics) (historicalByYear : Option (KeyedHistory String)) :
    Except PyError (Dict String YoYStatsBaseline) :=
  match historicalByYear with
  | none => .ok .empty
  | some history =>
      computeBaselines scalarLt (fun code => YoYStatsBaseline.mk (3, code, none)) stats 3 history

def computeHotspots (stats : FloatStatistics) (now : Timestamp)
    (emissionsCurrent : List EmissionRecord) (emissionsPrior : Option (List EmissionRecord))
    (topN : ℕ) (historicalByYear : Option (KeyedHistory String)) :
    Except PyError (List HotspotEntry) :=
  let currentRecords := emissionsCurrent.filter fun r => r.scope = .three
  let currentTotals := aggregateScope3 currentRecords
  if currentTotals.isEmpty then .ok []
  else
    let priorTotals := (emissionsPrior.map aggregateScope3).getD []
    let ranked := rankedTotals currentTotals
    let scope3Total := (ranked.map Prod.snd).sum
    if scope3Total ≤ 0 then .ok []
    else do
      let baselineByKey ← baselines stats historicalByYear
      let slice : Slice :=
        { scope3Total, flagHighConcentration := highConcentration ranked scope3Total
          priorTotal := fun code => priorTotals.lookup code, baselineByKey
          gwpSet := traceGwpSet currentRecords
          calcTimestamp := (currentRecords.map EmissionRecord.calcTimestamp).min?.getD now
          factorSources := (currentRecords.map EmissionRecord.factorSource).toFinset }
      return (slice.entries 1 0 ranked).take topN

/-! ## The order of the ranking -/

instance : Std.Total RanksBefore where
  total a b := by
    unfold RanksBefore
    rcases lt_trichotomy a.2 b.2 with hlt | heq | hgt
    · exact .inr (.inl hlt)
    · rcases le_total a.1 b.1 with hle | hle
      · exact .inl (.inr ⟨heq, hle⟩)
      · exact .inr (.inr ⟨heq.symm, hle⟩)
    · exact .inl (.inl hgt)

instance : IsTrans (String × ℚ) RanksBefore where
  trans a b c hab hbc := by
    rcases hab with hlt | ⟨heq, hle⟩
    · rcases hbc with hlt' | ⟨heq', -⟩
      · exact .inl (hlt'.trans hlt)
      · exact .inl (heq' ▸ hlt)
    · rcases hbc with hlt' | ⟨heq', hle'⟩
      · exact .inl (heq ▸ hlt')
      · exact .inr ⟨heq.trans heq', hle.trans hle'⟩

instance : Std.Antisymm RanksBefore where
  antisymm a b hab hba := by
    rcases hab with hlt | ⟨heq, hle⟩
    · rcases hba with hlt' | ⟨heq', -⟩
      · exact absurd hlt (lt_asymm hlt')
      · exact absurd hlt (heq' ▸ lt_irrefl _)
    · rcases hba with hlt' | ⟨-, hle'⟩
      · exact absurd hlt' (heq ▸ lt_irrefl _)
      · exact Prod.ext (le_antisymm hle hle') heq

theorem rankedTotals_perm {totals totals' : List (String × ℚ)} (h : totals'.Perm totals) :
    rankedTotals totals' = rankedTotals totals := by
  have hperm : (rankedTotals totals').Perm (rankedTotals totals) :=
    (List.perm_insertionSort _ _).trans (h.trans (List.perm_insertionSort _ _).symm)
  exact hperm.eq_of_pairwise' (List.pairwise_insertionSort _ _) (List.pairwise_insertionSort _ _)

/-! ## The totals -/

/-- The tonnes of a category. -/
def categoryTotal (records : List EmissionRecord) (code : String) : ℚ :=
  (records.map fun r => if scope3Key r = some code then r.tco2e else 0).sum

section Totals

variable {records records' : List EmissionRecord} {code : String}

theorem lookup_aggregateScope3 (records : List EmissionRecord) (code : String) :
    (aggregateScope3 records).lookup code =
      if ∃ r ∈ records, scope3Key r = some code then some (categoryTotal records code)
      else none := by
  have hvalue := lookup_tally scope3Key EmissionRecord.tco2e records code
  have hkeys : code ∈ (aggregateScope3 records).map Prod.fst ↔
      ∃ r ∈ records, scope3Key r = some code := mem_keys_tally
  change ((aggregateScope3 records).lookup code).getD 0 = categoryTotal records code at hvalue
  by_cases h : ∃ r ∈ records, scope3Key r = some code
  · rw [if_pos h]
    obtain ⟨⟨_, v⟩, hentry, rfl⟩ := List.mem_map.mp (hkeys.mpr h)
    have hfound : (aggregateScope3 records).lookup _ = some v :=
      Dict.get?_eq_some_iff (d := ⟨_, nodup_keys_tally _ _ records⟩).mpr hentry
    rw [hfound, Option.getD_some] at hvalue
    rw [hfound, hvalue]
  · rw [if_neg h]
    cases hfound : (aggregateScope3 records).lookup code with
    | none => rfl
    | some v =>
        have hentry : (code, v) ∈ aggregateScope3 records :=
          Dict.get?_eq_some_iff (d := ⟨_, nodup_keys_tally _ _ records⟩).mp hfound
        exact absurd (hkeys.mp (List.mem_map_of_mem hentry)) h

theorem mem_aggregateScope3 {kv : String × ℚ} : kv ∈ aggregateScope3 records ↔
    (∃ r ∈ records, scope3Key r = some kv.1) ∧ kv.2 = categoryTotal records kv.1 := by
  have hiff : (aggregateScope3 records).lookup kv.1 = some kv.2 ↔ kv ∈ aggregateScope3 records :=
    Dict.get?_eq_some_iff (d := ⟨_, nodup_keys_tally _ _ records⟩)
  rw [← hiff, lookup_aggregateScope3]
  by_cases h : ∃ r ∈ records, scope3Key r = some kv.1
  · rw [if_pos h, Option.some_inj]
    exact ⟨fun heq => ⟨h, heq.symm⟩, fun hboth => hboth.2.symm⟩
  · rw [if_neg h]
    exact ⟨nofun, fun hboth => absurd hboth.1 h⟩

theorem nodup_aggregateScope3 (records : List EmissionRecord) :
    ((aggregateScope3 records).map Prod.fst).Nodup :=
  nodup_keys_tally _ _ records

theorem categoryTotal_perm (h : records'.Perm records) :
    categoryTotal records' code = categoryTotal records code :=
  (h.map _).sum_eq

theorem aggregateScope3_perm (h : records'.Perm records) :
    (aggregateScope3 records').Perm (aggregateScope3 records) := by
  have hnodup : ∀ rows, (aggregateScope3 rows).Nodup := fun rows =>
    (nodup_aggregateScope3 rows).of_map
  rw [List.perm_ext_iff_of_nodup (hnodup _) (hnodup _)]
  intro kv
  rw [mem_aggregateScope3, mem_aggregateScope3, categoryTotal_perm h]
  simp only [h.mem_iff]

theorem lookup_aggregateScope3_perm (h : records'.Perm records) (code : String) :
    (aggregateScope3 records').lookup code = (aggregateScope3 records).lookup code := by
  rw [lookup_aggregateScope3, lookup_aggregateScope3, categoryTotal_perm h]
  simp only [h.mem_iff]

end Totals

/-! ## What the columns of provenance keep -/

section Traces

variable {records records' : List EmissionRecord}

theorem traceGwpSet_perm (h : records'.Perm records) :
    traceGwpSet records' = traceGwpSet records := by
  have hperm := (h.map EmissionRecord.gwpSet).dedup
  unfold traceGwpSet
  generalize (records.map EmissionRecord.gwpSet).dedup = sets at hperm
  generalize (records'.map EmissionRecord.gwpSet).dedup = sets' at hperm
  match sets with
  | [] => rw [hperm.eq_nil]
  | [gwpSet] => rw [List.perm_singleton.mp hperm]
  | _ :: _ :: _ =>
      match sets' with
      | [] => rfl
      | [_] =>
          have := hperm.length_eq
          simp at this
      | _ :: _ :: _ => rfl

theorem min?_perm {xs ys : List ℕ} (h : ys.Perm xs) : ys.min? = xs.min? := by
  apply Option.ext
  intro n
  rw [List.min?_eq_some_iff, List.min?_eq_some_iff]
  simp only [h.mem_iff]

end Traces

/-! ## The loop -/

namespace Slice

variable (s : Slice) {rank : ℕ} {cumulative : ℚ} {ranked : List (String × ℚ)}

theorem map_totals : ((s.entries rank cumulative ranked).map fun e => (e.subScope, e.tco2e)) =
    ranked := by
  induction ranked generalizing rank cumulative with
  | nil => rfl
  | cons kv rest ih =>
      rw [entries, List.map_cons, ih]
      rfl

theorem map_rank : (s.entries rank cumulative ranked).map HotspotEntry.rank =
    List.range' rank ranked.length := by
  induction ranked generalizing rank cumulative with
  | nil => rfl
  | cons kv rest ih =>
      rw [entries, List.map_cons, ih, List.length_cons, List.range'_succ]
      rfl

/-- What every entry shares with the slice. -/
structure Annotates (e : HotspotEntry) : Prop where
  share : e.pctOfScope3 = e.tco2e / s.scope3Total * 100
  concentration : e.flagHighConcentration = s.flagHighConcentration
  yoy : e.yoyDeltaPct = s.yoyDelta e.subScope e.tco2e

theorem annotates_entries : ∀ e ∈ s.entries rank cumulative ranked, s.Annotates e := by
  induction ranked generalizing rank cumulative with
  | nil => simp [entries]
  | cons kv rest ih =>
      intro e he
      rcases List.mem_cons.mp he with rfl | hlater
      · exact ⟨rfl, rfl, rfl⟩
      · exact ih e hlater

/-- The running share at an entry is what came before the loop and the shares up to it. -/
theorem cumulative_entries {i : ℕ} {e : HotspotEntry}
    (h : (s.entries rank cumulative ranked)[i]? = some e) :
    e.cumulativePct = cumulative +
      (((s.entries rank cumulative ranked).take (i + 1)).map HotspotEntry.pctOfScope3).sum := by
  induction ranked generalizing rank cumulative i with
  | nil => simp [entries] at h
  | cons kv rest ih =>
      rw [entries] at h ⊢
      cases i with
      | zero =>
          rw [List.getElem?_cons_zero] at h
          cases h
          simp [entry]
      | succ i =>
          rw [List.getElem?_cons_succ] at h
          rw [ih h, List.take_succ_cons, List.map_cons, List.sum_cons, ← add_assoc]
          rfl

/-- Among non-negative totals the running share never falls. -/
theorem cumulative_le (rank : ℕ) (cumulative : ℚ) (hpos : 0 < s.scope3Total)
    (hnonneg : ∀ kv ∈ ranked, 0 ≤ kv.2) :
    (∀ e ∈ s.entries rank cumulative ranked, cumulative ≤ e.cumulativePct) ∧
      (s.entries rank cumulative ranked).Pairwise fun a b =>
        a.cumulativePct ≤ b.cumulativePct := by
  induction ranked generalizing rank cumulative with
  | nil => exact ⟨by simp [entries], List.Pairwise.nil⟩
  | cons kv rest ih =>
      have hshare : 0 ≤ kv.2 / s.scope3Total * 100 :=
        mul_nonneg (div_nonneg (hnonneg kv (by simp)) hpos.le) (by norm_num)
      have hfirst : cumulative ≤ (s.entry rank cumulative kv).cumulativePct :=
        le_add_of_nonneg_right hshare
      obtain ⟨hbelow, hpairs⟩ := ih (rank + 1) (s.entry rank cumulative kv).cumulativePct
        fun other hother => hnonneg other (List.mem_cons_of_mem _ hother)
      constructor
      · intro e he
        rcases List.mem_cons.mp he with rfl | hlater
        · exact hfirst
        · exact hfirst.trans (hbelow e hlater)
      · exact List.Pairwise.cons hbelow hpairs

end Slice

/-! ## The ranking -/

section Ranking

variable {stats : FloatStatistics} {now : Timestamp} {current : List EmissionRecord}
  {prior : Option (List EmissionRecord)} {historicalByYear : Option (KeyedHistory String)}

def currentRecords (current : List EmissionRecord) : List EmissionRecord :=
  current.filter fun r => r.scope = .three

def rankingOf (current : List EmissionRecord) : List (String × ℚ) :=
  rankedTotals (aggregateScope3 (currentRecords current))

def sliceOf (now : Timestamp) (current : List EmissionRecord)
    (prior : Option (List EmissionRecord)) (baselineByKey : Dict String YoYStatsBaseline) :
    Slice where
  scope3Total := ((rankingOf current).map Prod.snd).sum
  flagHighConcentration :=
    highConcentration (rankingOf current) ((rankingOf current).map Prod.snd).sum
  priorTotal code := ((prior.map aggregateScope3).getD []).lookup code
  baselineByKey := baselineByKey
  gwpSet := traceGwpSet (currentRecords current)
  calcTimestamp := ((currentRecords current).map EmissionRecord.calcTimestamp).min?.getD now
  factorSources := ((currentRecords current).map EmissionRecord.factorSource).toFinset

/-- The ranking before it is cut. -/
def fullRanking (now : Timestamp) (current : List EmissionRecord)
    (prior : Option (List EmissionRecord)) (baselineByKey : Dict String YoYStatsBaseline) :
    List HotspotEntry :=
  (sliceOf now current prior baselineByKey).entries 1 0 (rankingOf current)

theorem scope3Key_eq_some {r : EmissionRecord} {code : String} :
    scope3Key r = some code ↔ r.scope = .three ∧ r.subScope.label = code := by
  unfold scope3Key
  by_cases h : r.scope = .three <;> simp [h]

theorem aggregateScope3_currentRecords (current : List EmissionRecord) :
    aggregateScope3 (currentRecords current) = aggregateScope3 current := by
  unfold aggregateScope3 currentRecords tally
  rw [List.foldl_filter]
  congr 1
  funext d r
  by_cases h : r.scope = .three
  · simp [h]
  · simp [h, tallyStep, scope3Key]

theorem baselines_succeeds (stats : FloatStatistics)
    (historicalByYear : Option (KeyedHistory String)) :
    ∃ baselineByKey, baselines stats historicalByYear = .ok baselineByKey := by
  unfold baselines
  cases historicalByYear with
  | none => exact ⟨_, rfl⟩
  | some history =>
      apply computeBaselines_succeeds
      apply (sorted_succeeds strictLt_scalar (List.nodup_dedup _)).mpr
      intro a _ b _
      exact comparable_scalar a b

/-- The total decides whether there is a ranking; the cut comes last. -/
theorem computeHotspots_eq {baselineByKey : Dict String YoYStatsBaseline}
    (h : baselines stats historicalByYear = .ok baselineByKey) (topN : ℕ) :
    computeHotspots stats now current prior topN historicalByYear =
      .ok (if ((rankingOf current).map Prod.snd).sum ≤ 0 then []
        else (fullRanking now current prior baselineByKey).take topN) := by
  have hunfold : computeHotspots stats now current prior topN historicalByYear =
      if (aggregateScope3 (currentRecords current)).isEmpty then .ok []
      else if ((rankingOf current).map Prod.snd).sum ≤ 0 then .ok []
      else do
        let baselineByKey ← baselines stats historicalByYear
        return ((sliceOf now current prior baselineByKey).entries 1 0 (rankingOf current)).take
          topN :=
    rfl
  rw [hunfold, h]
  by_cases hempty : (aggregateScope3 (currentRecords current)).isEmpty = true
  · have hnone : rankingOf current = [] := by
      unfold rankingOf
      rw [List.isEmpty_iff.mp hempty]
      rfl
    rw [if_pos hempty, hnone, List.map_nil, List.sum_nil, if_pos le_rfl]
  · rw [if_neg hempty]
    by_cases htotal : ((rankingOf current).map Prod.snd).sum ≤ 0
    · rw [if_pos htotal, if_pos htotal]
    · rw [if_neg htotal, if_neg htotal]
      rfl

theorem fullRanking_perm (now : Timestamp) {current' : List EmissionRecord}
    {prior' : Option (List EmissionRecord)}
    (hcurrent : current'.Perm current) (hprior : Option.Rel List.Perm prior' prior)
    (baselineByKey : Dict String YoYStatsBaseline) :
    rankingOf current' = rankingOf current ∧
      fullRanking now current' prior' baselineByKey =
        fullRanking now current prior baselineByKey := by
  have hrecords : (currentRecords current').Perm (currentRecords current) := hcurrent.filter _
  have hranking : rankingOf current' = rankingOf current :=
    rankedTotals_perm (aggregateScope3_perm hrecords)
  have hlookup : ∀ code, ((prior'.map aggregateScope3).getD []).lookup code =
      ((prior.map aggregateScope3).getD []).lookup code := by
    intro code
    cases hprior with
    | none => rfl
    | some hperm => exact lookup_aggregateScope3_perm hperm code
  refine ⟨hranking, ?_⟩
  unfold fullRanking sliceOf
  rw [hranking, traceGwpSet_perm hrecords, min?_perm (hrecords.map _),
    List.toFinset_eq_of_perm _ _ (hrecords.map EmissionRecord.factorSource)]
  simp only [hlookup]

end Ranking

/-! ## What the ranking promises -/

def scope3Total (records : List EmissionRecord) : ℚ :=
  (records.map fun r => if r.scope = .three then r.tco2e else 0).sum

/-- The whole ranking of a year against the year before. -/
structure ParetoRanking (current : List EmissionRecord) (prior : Option (List EmissionRecord))
    (full : List HotspotEntry) : Prop where
  categories : ∀ code, code ∈ full.map HotspotEntry.subScope ↔
    ∃ r ∈ current, r.scope = .three ∧ r.subScope.label = code
  once : (full.map HotspotEntry.subScope).Nodup
  totals : ∀ e ∈ full, e.tco2e = categoryTotal current e.subScope
  ordered : full.Pairwise fun a b =>
    b.tco2e < a.tco2e ∨ a.tco2e = b.tco2e ∧ a.subScope < b.subScope
  ranks : full.map HotspotEntry.rank = List.range' 1 full.length
  share : ∀ e ∈ full, e.pctOfScope3 = e.tco2e / scope3Total current * 100
  shares : (full.map HotspotEntry.pctOfScope3).sum = 100
  cumulative : ∀ (i : ℕ) (e : HotspotEntry), full[i]? = some e →
    e.cumulativePct = ((full.take (i + 1)).map HotspotEntry.pctOfScope3).sum
  nondecreasing : full.Pairwise fun a b => a.cumulativePct ≤ b.cumulativePct
  concentration : ∀ e ∈ full, e.flagHighConcentration = true ↔
    80 / 100 * scope3Total current < ((full.take 5).map HotspotEntry.tco2e).sum
  yoy : ∀ e ∈ full, e.yoyDeltaPct.isSome = true ↔
    0 < (prior.map fun records => categoryTotal records e.subScope).getD 0

section Promise

variable {now : Timestamp} {current : List EmissionRecord}
  {prior : Option (List EmissionRecord)} {baselineByKey : Dict String YoYStatsBaseline}

theorem mem_rankingOf {kv : String × ℚ} : kv ∈ rankingOf current ↔
    (∃ r ∈ current, scope3Key r = some kv.1) ∧ kv.2 = categoryTotal current kv.1 := by
  unfold rankingOf rankedTotals
  rw [aggregateScope3_currentRecords, List.mem_insertionSort, mem_aggregateScope3]

theorem nodup_codes_rankingOf (current : List EmissionRecord) :
    ((rankingOf current).map Prod.fst).Nodup :=
  ((List.perm_insertionSort _ _).map Prod.fst).nodup_iff.mpr (nodup_aggregateScope3 _)

theorem sum_rankingOf (current : List EmissionRecord) :
    ((rankingOf current).map Prod.snd).sum = scope3Total current := by
  have hperm : (rankingOf current).Perm (aggregateScope3 current) := by
    unfold rankingOf rankedTotals
    rw [aggregateScope3_currentRecords]
    exact List.perm_insertionSort _ _
  rw [(hperm.map Prod.snd).sum_eq, aggregateScope3, sum_tally, scope3Total]
  congr 1
  apply List.map_congr_left
  intro r _
  by_cases h : r.scope = .three
  · simp [scope3Key, h]
  · simp [scope3Key, h]

theorem categoryTotal_nonneg (records : List EmissionRecord) (code : String) :
    0 ≤ categoryTotal records code := by
  apply List.sum_nonneg
  intro x hx
  obtain ⟨r, -, rfl⟩ := List.mem_map.mp hx
  split_ifs
  · exact r.tco2e_nonneg
  · exact le_rfl

theorem pairwise_rankingOf (current : List EmissionRecord) :
    (rankingOf current).Pairwise fun a b => b.2 < a.2 ∨ a.2 = b.2 ∧ a.1 < b.1 := by
  have hsorted : (rankingOf current).Pairwise RanksBefore := List.pairwise_insertionSort _ _
  have hcodes : (rankingOf current).Pairwise fun a b => a.1 ≠ b.1 :=
    List.pairwise_map.mp (nodup_codes_rankingOf current)
  refine (hsorted.and hcodes).imp ?_
  rintro a b ⟨hlt | ⟨heq, hle⟩, hne⟩
  · exact .inl hlt
  · exact .inr ⟨heq, lt_of_le_of_ne hle hne⟩

/-- The prior total of a code is missing when no record of the prior year has it. -/
theorem isSome_yoyDelta {code : String} {value : ℚ} :
    ((sliceOf now current prior baselineByKey).yoyDelta code value).isSome = true ↔
      0 < (prior.map fun records => categoryTotal records code).getD 0 := by
  unfold Slice.yoyDelta sliceOf
  cases prior with
  | none => simp
  | some records =>
      simp only [Option.map_some, Option.getD_some, lookup_aggregateScope3]
      by_cases h : ∃ r ∈ records, scope3Key r = some code
      · by_cases hpos : categoryTotal records code ≤ 0
        · simp [if_pos h, hpos]
        · have habove := not_le.mp hpos
          simp [if_pos h, hpos, habove]
      · have hzero : categoryTotal records code = 0 := by
          apply List.sum_eq_zero
          intro x hx
          obtain ⟨r, hr, rfl⟩ := List.mem_map.mp hx
          exact if_neg fun hkey => h ⟨r, hr, hkey⟩
        simp [if_neg h, hzero]

/-- The ranking shows the sorted totals, entry by entry. -/
theorem totals_fullRanking (now : Timestamp) (current : List EmissionRecord)
    (prior : Option (List EmissionRecord)) (baselineByKey : Dict String YoYStatsBaseline) :
    ((fullRanking now current prior baselineByKey).map fun e => (e.subScope, e.tco2e)) =
      rankingOf current :=
  Slice.map_totals _

theorem highConcentration_iff (hpos : 0 < scope3Total current) :
    highConcentration (rankingOf current) ((rankingOf current).map Prod.snd).sum = true ↔
      80 / 100 * scope3Total current < (((rankingOf current).take 5).map Prod.snd).sum := by
  unfold highConcentration concentrationThreshold concentrationTopN
  rw [sum_rankingOf, decide_eq_true_eq, div_mul_eq_mul_div, lt_div_iff₀ hpos]
  constructor
  · intro h
    linarith
  · intro h
    linarith

theorem codes_fullRanking :
    (fullRanking now current prior baselineByKey).map HotspotEntry.subScope =
      (rankingOf current).map Prod.fst := by
  rw [← totals_fullRanking now current prior baselineByKey, List.map_map]
  rfl

theorem tonnes_fullRanking (n : ℕ) :
    ((fullRanking now current prior baselineByKey).take n).map HotspotEntry.tco2e =
      ((rankingOf current).take n).map Prod.snd := by
  rw [← totals_fullRanking now current prior baselineByKey, ← List.map_take, List.map_map]
  rfl

theorem mem_codes_fullRanking {code : String} :
    code ∈ (fullRanking now current prior baselineByKey).map HotspotEntry.subScope ↔
      ∃ r ∈ current, r.scope = .three ∧ r.subScope.label = code := by
  rw [codes_fullRanking, List.mem_map]
  simp only [← scope3Key_eq_some]
  constructor
  · intro h
    obtain ⟨kv, hkv, rfl⟩ := h
    exact (mem_rankingOf.mp hkv).1
  · intro hcode
    exact ⟨(code, categoryTotal current code), mem_rankingOf.mpr ⟨hcode, rfl⟩, rfl⟩

theorem total_of_mem_fullRanking {e : HotspotEntry}
    (he : e ∈ fullRanking now current prior baselineByKey) :
    e.tco2e = categoryTotal current e.subScope := by
  have hmem : (e.subScope, e.tco2e) ∈ rankingOf current := by
    rw [← totals_fullRanking now current prior baselineByKey]
    exact List.mem_map_of_mem he
  exact (mem_rankingOf.mp hmem).2

theorem annotates_of_mem_fullRanking {e : HotspotEntry}
    (he : e ∈ fullRanking now current prior baselineByKey) :
    (sliceOf now current prior baselineByKey).Annotates e :=
  Slice.annotates_entries _ e he

theorem sliceOf_scope3Total :
    (sliceOf now current prior baselineByKey).scope3Total = scope3Total current :=
  sum_rankingOf current

theorem share_of_mem_fullRanking {e : HotspotEntry}
    (he : e ∈ fullRanking now current prior baselineByKey) :
    e.pctOfScope3 = e.tco2e / scope3Total current * 100 := by
  rw [(annotates_of_mem_fullRanking he).share, sliceOf_scope3Total]

theorem sum_shares_fullRanking (hpos : 0 < scope3Total current) :
    ((fullRanking now current prior baselineByKey).map HotspotEntry.pctOfScope3).sum = 100 := by
  have hshares : (fullRanking now current prior baselineByKey).map HotspotEntry.pctOfScope3 =
      (rankingOf current).map fun kv => kv.2 * (100 / scope3Total current) := by
    rw [← totals_fullRanking now current prior baselineByKey, List.map_map]
    apply List.map_congr_left
    intro e he
    rw [share_of_mem_fullRanking he, Function.comp_apply]
    ring
  rw [hshares, List.sum_map_mul_right, sum_rankingOf, mul_div_cancel₀ _ hpos.ne']

theorem cumulative_fullRanking_le (hpos : 0 < scope3Total current) :
    (fullRanking now current prior baselineByKey).Pairwise fun a b =>
      a.cumulativePct ≤ b.cumulativePct := by
  have hslice : 0 < (sliceOf now current prior baselineByKey).scope3Total := by
    rw [sliceOf_scope3Total]
    exact hpos
  refine (Slice.cumulative_le _ 1 0 hslice ?_).2
  intro kv hkv
  rw [(mem_rankingOf.mp hkv).2]
  exact categoryTotal_nonneg current kv.1

theorem paretoRanking_fullRanking (hpos : 0 < scope3Total current) :
    ParetoRanking current prior (fullRanking now current prior baselineByKey) := by
  have htotals := totals_fullRanking now current prior baselineByKey
  constructor
  · intro code
    exact mem_codes_fullRanking
  · rw [codes_fullRanking]
    exact nodup_codes_rankingOf current
  · intro e he
    exact total_of_mem_fullRanking he
  · have hpairs := pairwise_rankingOf current
    rw [← htotals, List.pairwise_map] at hpairs
    exact hpairs
  · have hlength := congrArg List.length htotals
    rw [List.length_map] at hlength
    rw [hlength]
    exact Slice.map_rank _
  · intro e he
    exact share_of_mem_fullRanking he
  · exact sum_shares_fullRanking hpos
  · intro i e he
    rw [Slice.cumulative_entries _ he, zero_add]
    rfl
  · exact cumulative_fullRanking_le hpos
  · intro e he
    rw [(annotates_of_mem_fullRanking he).concentration, tonnes_fullRanking]
    exact highConcentration_iff hpos
  · intro e he
    rw [(annotates_of_mem_fullRanking he).yoy]
    exact isSome_yoyDelta

/-- The hot spots do not depend on the order of the records; they are a cut of one ranking, and
there is none when Scope 3 is zero. -/
theorem pareto_ranking_law (stats : FloatStatistics) (now : Timestamp)
    (current : List EmissionRecord) (prior : Option (List EmissionRecord))
    (historicalByYear : Option (KeyedHistory String)) :
    (∀ current' prior' topN, current'.Perm current → Option.Rel List.Perm prior' prior →
      computeHotspots stats now current' prior' topN historicalByYear =
        computeHotspots stats now current prior topN historicalByYear) ∧
      (0 < scope3Total current → ∃ full, ParetoRanking current prior full ∧
        ∀ topN, computeHotspots stats now current prior topN historicalByYear =
          .ok (full.take topN)) ∧
      (scope3Total current = 0 → ∀ topN,
        computeHotspots stats now current prior topN historicalByYear = .ok []) := by
  obtain ⟨baselineByKey, hbaselines⟩ := baselines_succeeds stats historicalByYear
  refine ⟨?_, ?_, ?_⟩
  · intro current' prior' topN hcurrent hprior
    obtain ⟨hranking, hfull⟩ := fullRanking_perm now hcurrent hprior baselineByKey
    rw [computeHotspots_eq hbaselines, computeHotspots_eq hbaselines, hranking, hfull]
  · intro hpos
    refine ⟨fullRanking now current prior baselineByKey, paretoRanking_fullRanking hpos, ?_⟩
    intro topN
    rw [computeHotspots_eq hbaselines, sum_rankingOf, if_neg (not_le.mpr hpos)]
  · intro hzero topN
    rw [computeHotspots_eq hbaselines, sum_rankingOf, hzero, if_pos le_rfl]

end Promise

end GhgTool.HotspotService
