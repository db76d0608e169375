import GhgTool.EmissionsTable
import GhgTool.LedgerTrigger
import GhgTool.Tally
import GhgTool.YoyStats

/-!
# Reconciliation of a snapshot with the ledger

`reconciliation_service.reconcile`, with the query that feeds it. Rows are indexed by scope,
sub-scope, site and year; the keys of both sides are sorted and compared one by one.
-/

namespace GhgTool

/-- A row as `_row_to_emission_dict` writes it. -/
structure EmissionDict where
  scope : ℤ
  subScope : String
  codiceSito : Option String
  anno : ℕ
  tco2e : Option ℚ
  factorVersion : Option String
  deriving DecidableEq

def rowToEmissionDict (r : EmissionRow) : EmissionDict where
  scope := r.scope.number
  subScope := r.subScope.label
  codiceSito := r.codiceSito
  anno := r.anno
  tco2e := some r.tco2e
  factorVersion := some r.factorVersion

def activeRowsOf (t : EmissionsTable) (tenantId : Uuid) (anno : ℕ) : List EmissionRow :=
  t.rows.filter fun r => r.tenantId = tenantId ∧ r.anno = anno ∧ r.Active

/-- The query names no order: the database may return the rows in any. -/
def fetchActiveEmissions (t : EmissionsTable) (tenantId : Uuid) (anno : ℕ) : List EmissionDict :=
  (activeRowsOf t tenantId anno).map rowToEmissionDict

inductive CauseCategory
  | factorUpdate | dataCorrection | methodology | unknown | newRow | withdrawnRow
  deriving DecidableEq, Repr

def allCauses : List CauseCategory :=
  [.factorUpdate, .dataCorrection, .methodology, .unknown, .newRow, .withdrawnRow]

structure ReconciliationDelta where
  scope : ℤ
  subScope : String
  codiceSito : Option String
  anno : ℕ
  priorTco2e : Option ℚ
  currentTco2e : Option ℚ
  absDelta : ℚ
  pctDelta : Option ℚ
  causeCategory : CauseCategory
  material : Bool
  thresholdPctUsed : ℚ
  deriving DecidableEq

structure ReconciliationResult where
  totalPrior : ℚ
  totalCurrent : ℚ
  totalAbsDelta : ℚ
  totalDeltaPct : Option ℚ
  rows : List ReconciliationDelta
  materialCount : ℕ
  restatementRequired : Bool
  causeBreakdown : List (CauseCategory × ℚ)
  deriving DecidableEq

/-- Scope, sub-scope, site and year. -/
abbrev ReconciliationKey := ℤ × String × Option String × ℕ

def EmissionDict.key (row : EmissionDict) : ReconciliationKey :=
  (row.scope, row.subScope, row.codiceSito, row.anno)

def keyLt : ReconciliationKey → ReconciliationKey → Except PyError Bool :=
  tupleLt scalarLt (tupleLt scalarLt (tupleLt (optionLt .typeError) scalarLt))

def ReconciliationKey.group (k : ReconciliationKey) : GroupKey :=
  (k.1, k.2.1, k.2.2.1)

structure ReconcileOptions where
  materialityPct : ℚ := 5
  materialityTco2e : ℚ := 100
  methodologyFlags : List ReconciliationKey := []
  historicalByYear : Option History := none

def pct (prior current : Option ℚ) : Except PyError (Option ℚ) :=
  match prior with
  | none => .ok none
  | some p =>
    if p = 0 then .ok none
    else do
      let ratio ← decimalDiv (current.getD 0 - p) p
      return some (ratio * 100)

def inferCause (prior current : Option EmissionDict) (methodologyFlagged : Bool) : CauseCategory :=
  if methodologyFlagged then .methodology
  else
    match prior, current with
    | none, some _ => .newRow
    | some _, none => .withdrawnRow
    | some p, some c => if p.factorVersion ≠ c.factorVersion then .factorUpdate else .dataCorrection
    | none, none => .unknown

section Loop

variable (stats : FloatStatistics) (opts : ReconcileOptions)
  (baselineByKey3 : Dict GroupKey YoYStatsBaseline)

/-- A reliable history can lower the threshold of a row, never raise it. -/
def rowThreshold (k : ReconciliationKey) : ℚ :=
  match baselineByKey3.get? k.group with
  | none => opts.materialityPct
  | some baseline =>
    if baseline.isReliable then
      min (thresholdPct (some baseline) 2 opts.materialityPct) opts.materialityPct
    else opts.materialityPct

def isMaterial (threshold absDelta : ℚ) (pctDelta : Option ℚ) : Bool :=
  match pctDelta with
  | some p => threshold < |p| ∧ opts.materialityTco2e ≤ |absDelta|
  | none => opts.materialityTco2e ≤ |absDelta|

/-- The delta of a key, by the rows under it. -/
def deltaOf (k : ReconciliationKey) (priorRow curRow : Option EmissionDict)
    (pctDelta : Option ℚ) : ReconciliationDelta :=
  let priorTco2e := priorRow.bind EmissionDict.tco2e
  let currentTco2e := curRow.bind EmissionDict.tco2e
  let absDelta := currentTco2e.getD 0 - priorTco2e.getD 0
  let threshold := rowThreshold opts baselineByKey3 k
  { scope := k.1, subScope := k.2.1, codiceSito := k.2.2.1, anno := k.2.2.2
    priorTco2e := priorTco2e, currentTco2e := currentTco2e, absDelta := absDelta
    pctDelta := pctDelta
    causeCategory := inferCause priorRow curRow (k ∈ opts.methodologyFlags)
    material := isMaterial opts threshold absDelta pctDelta
    thresholdPctUsed := threshold }

def compareKey (priorByKey currentByKey : Dict ReconciliationKey EmissionDict)
    (k : ReconciliationKey) : Except PyError ReconciliationDelta := do
  let priorRow := priorByKey.get? k
  let curRow := currentByKey.get? k
  let pctDelta ← pct (priorRow.bind EmissionDict.tco2e) (curRow.bind EmissionDict.tco2e)
  return deltaOf opts baselineByKey3 k priorRow curRow pctDelta

/-- What the loop over the keys accumulates. -/
structure Accumulated where
  rows : List ReconciliationDelta := []
  totalPrior : ℚ := 0
  totalCurrent : ℚ := 0
  materialCount : ℕ := 0
  causeBreakdown : List (CauseCategory × ℚ) := allCauses.map fun c => (c, 0)
  anySingleRowTripped : Bool := false

/-- One row over twice the threshold calls for a restatement by itself. -/
def tripsAlone (d : ReconciliationDelta) : Bool :=
  match d.pctDelta with
  | some p => opts.materialityPct * 2 < |p| ∧ opts.materialityTco2e ≤ |d.absDelta|
  | none => false

def Accumulated.add (acc : Accumulated) (d : ReconciliationDelta) : Accumulated where
  rows := acc.rows ++ [d]
  totalPrior := acc.totalPrior + d.priorTco2e.getD 0
  totalCurrent := acc.totalCurrent + d.currentTco2e.getD 0
  materialCount := if d.material then acc.materialCount + 1 else acc.materialCount
  causeBreakdown := addTo d.causeCategory |d.absDelta| acc.causeBreakdown
  anySingleRowTripped := acc.anySingleRowTripped || tripsAlone opts d

def totalDeltaPct (totalPrior totalCurrent : ℚ) : Except PyError (Option ℚ) :=
  if totalPrior = 0 then .ok none
  else do
    let ratio ← decimalDiv (totalCurrent - totalPrior) totalPrior
    return some (ratio * 100)

/-- What follows the loop. -/
def conclude (acc : Accumulated) : Except PyError ReconciliationResult := do
  let deltaPct ← totalDeltaPct acc.totalPrior acc.totalCurrent
  let aggregateTrip := deltaPct.any fun p => opts.materialityPct < |p|
  return {
    totalPrior := acc.totalPrior
    totalCurrent := acc.totalCurrent
    totalAbsDelta := acc.totalCurrent - acc.totalPrior
    totalDeltaPct := deltaPct
    rows := acc.rows
    materialCount := acc.materialCount
    restatementRequired := aggregateTrip || acc.anySingleRowTripped
    causeBreakdown := acc.causeBreakdown }

def baselines : Except PyError (Dict GroupKey YoYStatsBaseline) :=
  match opts.historicalByYear with
  | none => .ok .empty
  | some history => computeYoyBaseline stats 3 history

/-- The keys of either side. -/
def unionKeys (priorByKey currentByKey : Dict ReconciliationKey EmissionDict) :
    List ReconciliationKey :=
  (priorByKey.keys ++ currentByKey.keys).dedup

def reconcile (snapshotEmissions currentEmissions : List EmissionDict) :
    Except PyError ReconciliationResult := do
  let priorByKey := Dict.indexBy EmissionDict.key snapshotEmissions
  let currentByKey := Dict.indexBy EmissionDict.key currentEmissions
  let baselineByKey3 ← baselines stats opts
  let allKeys ← sorted keyLt (unionKeys priorByKey currentByKey)
  let acc ← allKeys.foldlM (fun acc k => do
    let d ← compareKey opts baselineByKey3 priorByKey currentByKey k
    return Accumulated.add opts acc d) {}
  conclude opts acc

end Loop

/-! ## What a reconciliation returns -/

def pctOf (prior current : Option ℚ) : Option ℚ :=
  (prior.filter (· ≠ 0)).map fun p => (current.getD 0 - p) / p * 100

theorem pct_eq (prior current : Option ℚ) : pct prior current = .ok (pctOf prior current) := by
  cases prior with
  | none => rfl
  | some p =>
      by_cases h : p = 0
      · simp [pct, pctOf, h]
      · simp [pct, pctOf, h, decimalDiv_of_ne h, bind, Except.bind, pure, Except.pure]

theorem conclude_succeeds (opts : ReconcileOptions) (acc : Accumulated) :
    ∃ result, conclude opts acc = .ok result ∧ result.totalPrior = acc.totalPrior ∧
      result.totalCurrent = acc.totalCurrent ∧ result.rows = acc.rows := by
  have hpct : ∃ p, totalDeltaPct acc.totalPrior acc.totalCurrent = .ok p := by
    unfold totalDeltaPct
    split_ifs with h
    · exact ⟨_, rfl⟩
    · rw [decimalDiv_of_ne h]
      exact ⟨_, rfl⟩
  obtain ⟨p, hp⟩ := hpct
  rw [conclude, hp]
  exact ⟨_, rfl, rfl, rfl, rfl⟩

def accumulate (opts : ReconcileOptions) (deltas : List ReconciliationDelta) : Accumulated :=
  deltas.foldl (Accumulated.add opts) {}

theorem accumulate_shows (opts : ReconcileOptions) (deltas : List ReconciliationDelta) :
    (accumulate opts deltas).rows = deltas ∧
      (accumulate opts deltas).totalPrior = (deltas.map fun d => d.priorTco2e.getD 0).sum ∧
      (accumulate opts deltas).totalCurrent = (deltas.map fun d => d.currentTco2e.getD 0).sum := by
  induction deltas using List.reverseRecOn with
  | nil => simp [accumulate]
  | append_singleton deltas d ih =>
      obtain ⟨hrows, hprior, hcurrent⟩ := ih
      unfold accumulate at hrows hprior hcurrent ⊢
      simp only [List.foldl_append, List.foldl_cons, List.foldl_nil, Accumulated.add, hrows, hprior,
        hcurrent, List.map_append, List.sum_append, List.map_singleton, List.sum_singleton,
        and_self]

section Spec

variable (stats : FloatStatistics) (opts : ReconcileOptions)
  (baselineByKey3 : Dict GroupKey YoYStatsBaseline) (prior current : List EmissionDict)

/-- The delta of a key, without the division that cannot fail. -/
def keyDelta (k : ReconciliationKey) : ReconciliationDelta :=
  let priorRow := (Dict.indexBy EmissionDict.key prior).get? k
  let curRow := (Dict.indexBy EmissionDict.key current).get? k
  deltaOf opts baselineByKey3 k priorRow curRow
    (pctOf (priorRow.bind EmissionDict.tco2e) (curRow.bind EmissionDict.tco2e))

def allKeys : List ReconciliationKey :=
  unionKeys (Dict.indexBy EmissionDict.key prior) (Dict.indexBy EmissionDict.key current)

variable {stats opts baselineByKey3 prior current} {result : ReconciliationResult}

theorem compareKeys_eq (keys : List ReconciliationKey) (acc : Accumulated) :
    keys.foldlM (fun acc k => do
      let d ← compareKey opts baselineByKey3 (Dict.indexBy EmissionDict.key prior)
        (Dict.indexBy EmissionDict.key current) k
      return Accumulated.add opts acc d) acc =
    (.ok ((keys.map (keyDelta opts baselineByKey3 prior current)).foldl (Accumulated.add opts)
      acc) : Except PyError Accumulated) := by
  induction keys generalizing acc with
  | nil => rfl
  | cons k keys ih =>
      rw [List.foldlM_cons, compareKey, pct_eq]
      exact ih _

theorem reconcile_eq_ok : reconcile stats opts prior current = .ok result ↔
    ∃ baselineByKey3 keys, baselines stats opts = .ok baselineByKey3 ∧
      sorted keyLt (allKeys prior current) = .ok keys ∧
      conclude opts (accumulate opts (keys.map (keyDelta opts baselineByKey3 prior current))) =
        .ok result := by
  simp only [reconcile, bind_eq_ok, compareKeys_eq, allKeys, accumulate, Except.ok.injEq]
  constructor
  · rintro ⟨baselineByKey3, hbaselines, keys, hkeys, acc, rfl, h⟩
    exact ⟨baselineByKey3, keys, hbaselines, hkeys, h⟩
  · rintro ⟨baselineByKey3, keys, hbaselines, hkeys, h⟩
    exact ⟨baselineByKey3, hbaselines, keys, hkeys, _, rfl, h⟩

end Spec

/-! ## When a reconciliation returns -/

theorem strictLt_key : StrictLt keyLt :=
  strictLt_scalar.tuple (strictLt_scalar.tuple ((strictLt_option _).tuple strictLt_scalar))

/-- The year is never reached by two keys that cannot be compared. -/
theorem comparable_key {k k' : ReconciliationKey} :
    Comparable keyLt k k' ↔ Comparable groupKeyLt k.group k'.group := by
  rw [comparable_groupKey, keyLt, comparable_tuple (comparable_scalar _ _)]
  refine imp_congr_right fun _ => ?_
  rw [comparable_tuple (comparable_scalar _ _)]
  refine imp_congr_right fun _ => ?_
  rw [comparable_tuple_left (strictLt_option _) (comparable_scalar _ _), comparable_option]
  exact Iff.rfl

theorem outcome_keyLt (k k' : ReconciliationKey) :
    Outcome (keyLt k k') (fun _ => True) (· = .typeError) := by
  have hsite : Outcome (optionLt PyError.typeError k.2.2.1 k'.2.2.1) (fun _ => True)
      (· = .typeError) := by
    apply outcome_optionLt
    rfl
  exact outcome_tupleLt trivial (outcome_tupleLt trivial (outcome_tupleLt hsite trivial))

section Returns

variable {stats : FloatStatistics} {opts : ReconcileOptions} {prior current : List EmissionDict}

theorem mem_allKeys {k : ReconciliationKey} :
    k ∈ allKeys prior current ↔
      k ∈ prior.map EmissionDict.key ∨ k ∈ current.map EmissionDict.key := by
  rw [allKeys, unionKeys, List.mem_dedup, List.mem_append, Dict.mem_keys_indexBy,
    Dict.mem_keys_indexBy]

theorem nodup_allKeys : (allKeys prior current).Nodup :=
  List.nodup_dedup _

/-- The scope, sub-scope and site of the rows of both sides. -/
def groupKeys (prior current : List EmissionDict) : List GroupKey :=
  (prior ++ current).map fun row => row.key.group

theorem sorted_allKeys_succeeds :
    (∃ keys, sorted keyLt (allKeys prior current) = .ok keys) ↔
      SitesUniform (groupKeys prior current) := by
  have hgroups : groupKeys prior current =
      (prior.map EmissionDict.key ++ current.map EmissionDict.key).map ReconciliationKey.group := by
    simp [groupKeys, Function.comp_def]
  rw [sorted_succeeds strictLt_key nodup_allKeys, SitesUniform, hgroups]
  simp only [comparable_key, comparable_groupKey, List.forall_mem_map, mem_allKeys, List.mem_append]

/-- Neither sort of the reconciliation meets a site and a missing site under one sub-scope. -/
structure Sortable (opts : ReconcileOptions) (prior current : List EmissionDict) : Prop where
  rows : SitesUniform (groupKeys prior current)
  history : ∀ history ∈ opts.historicalByYear, SitesUniform history.groupKeys

theorem baselines_succeeds : (∃ baselineByKey3, baselines stats opts = .ok baselineByKey3) ↔
    ∀ history ∈ opts.historicalByYear, SitesUniform history.groupKeys := by
  unfold baselines
  cases opts.historicalByYear with
  | none => simp
  | some history => simp [computeYoyBaseline_succeeds]

theorem reconcile_succeeds :
    (∃ result, reconcile stats opts prior current = .ok result) ↔ Sortable opts prior current := by
  constructor
  · rintro ⟨result, h⟩
    obtain ⟨baselineByKey3, keys, hbaselines, hkeys, -⟩ := reconcile_eq_ok.mp h
    exact ⟨sorted_allKeys_succeeds.mp ⟨keys, hkeys⟩,
      baselines_succeeds.mp ⟨baselineByKey3, hbaselines⟩⟩
  · rintro ⟨hrows, hhistory⟩
    obtain ⟨baselineByKey3, hbaselines⟩ : ∃ b, baselines stats opts = .ok b :=
      baselines_succeeds.mpr hhistory
    obtain ⟨keys, hkeys⟩ := sorted_allKeys_succeeds.mpr hrows
    obtain ⟨result, h, -⟩ := conclude_succeeds opts
      (accumulate opts (keys.map (keyDelta opts baselineByKey3 prior current)))
    exact ⟨result, reconcile_eq_ok.mpr ⟨baselineByKey3, keys, hbaselines, hkeys, h⟩⟩

theorem outcome_reconcile :
    Outcome (reconcile stats opts prior current) (fun _ => True) (· = .typeError) := by
  have hbaselines : Outcome (baselines stats opts) (fun _ => True) (· = .typeError) := by
    unfold baselines
    cases opts.historicalByYear with
    | none => trivial
    | some history => exact outcome_computeYoyBaseline
  refine hbaselines.bind fun baselineByKey3 _ => ?_
  refine (outcome_sorted outcome_keyLt _).bind fun keys _ => ?_
  rw [compareKeys_eq]
  obtain ⟨result, h, -⟩ := conclude_succeeds opts
    ((keys.map (keyDelta opts baselineByKey3 prior current)).foldl (Accumulated.add opts) {})
  exact .of_succeeds ⟨result, h⟩

end Returns

/-- A reconciliation returns exactly when no scope and sub-scope has rows, or entries of the
history, both with and without a site; otherwise it ends in the `TypeError` of a sort. -/
theorem reconcile_returns_iff (stats : FloatStatistics) (opts : ReconcileOptions)
    (prior current : List EmissionDict) :
    ((∃ result, reconcile stats opts prior current = .ok result) ↔ Sortable opts prior current) ∧
      ∀ e, reconcile stats opts prior current = .error e → e = .typeError :=
  ⟨reconcile_succeeds, fun _ he => outcome_reconcile.of_error he⟩

/-- For reconciliations without a history, which ask for no statistics. -/
def noStatistics : FloatStatistics := ⟨fun _ => 0, fun _ => 0⟩

/-- An active location-based row of a site, and one of no site. -/
def siteMixTable : EmissionsTable where
  rows := [gridRow, { gridRow with id := 2, codiceSito := none }]
  checks := by simp [EmissionRow.Checks, gridRow]
  pk := by simp [gridRow]
  naturalKey := by simp [EmissionRow.NaturalKeyClash, EmissionRow.naturalKey, gridRow]
  exclusion := by simp [EmissionRow.TemporalClash, gridRow]
  supersededFk := by simp [gridRow]

theorem reconcile_raises_on_mixed_sites :
    reconcile noStatistics {} [] (fetchActiveEmissions siteMixTable 1 2024) =
      .error .typeError := by
  rfl

end GhgTool
