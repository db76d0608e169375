import GhgTool.GroupedSums
import GhgTool.Reconciliation

/-!
# Totals by scope

Three aggregations of the ledger match sub-scopes in three ways: the totals of a snapshot by the
end of the label, the actuals of a climate target by a list of labels, and the numerator of an
intensity by the label itself. Only the last knows the labels the ledger stores.
-/

namespace GhgTool

/-! ## The snapshot -/

structure ScopeTotals where
  scope1 : ℚ := 0
  scope2Lb : ℚ := 0
  scope2Mb : ℚ := 0
  scope3 : ℚ := 0
  biogenicMemo : ℚ := 0
  deriving DecidableEq

/-- `s.endswith(suffix)`. -/
def endsWith (s suffix : String) : Bool :=
  suffix.toList <:+ s.toList

/-- One turn of the loop. `Decimal(str(None))` is an invalid operation. -/
def ScopeTotals.add (totals : ScopeTotals) (r : EmissionDict) : Except PyError ScopeTotals :=
  match r.tco2e with
  | none => .error .invalidOperation
  | some tco2e =>
    if r.scope = 1 then .ok { totals with scope1 := totals.scope1 + tco2e }
    else if r.scope = 2 ∧ endsWith r.subScope "_LB" then
      .ok { totals with scope2Lb := totals.scope2Lb + tco2e }
    else if r.scope = 2 ∧ endsWith r.subScope "_MB" then
      .ok { totals with scope2Mb := totals.scope2Mb + tco2e }
    else if r.scope = 3 then .ok { totals with scope3 := totals.scope3 + tco2e }
    else .ok totals

def resultTotalsByScope (rows : List EmissionDict) : Except PyError ScopeTotals :=
  rows.foldlM ScopeTotals.add {}

/-! ## The actuals of a target -/

/-- The scope mixes a target can cover. -/
inductive ScopeCoverage
  | s1 | s2Lb | s2Mb | s3 | s1S2Lb | s1S2Mb | s1S2MbS3
  deriving DecidableEq, Repr

def scopeMap : ScopeCoverage → List String
  | .s1 => ["combustion", "process", "fugitive"]
  | .s2Lb => ["2_LB"]
  | .s2Mb => ["2_MB"]
  | .s3 => ["3_cat1", "3_cat2", "3_cat3", "3_cat4", "3_cat5", "3_cat6", "3_cat7", "3_cat9",
      "3_cat11", "3_cat12"]
  | .s1S2Lb => ["combustion", "process", "fugitive", "2_LB"]
  | .s1S2Mb => ["combustion", "process", "fugitive", "2_MB"]
  | .s1S2MbS3 => ["combustion", "process", "fugitive", "2_MB", "3_cat1", "3_cat2", "3_cat3",
      "3_cat4", "3_cat5", "3_cat6", "3_cat7", "3_cat9", "3_cat11", "3_cat12"]

def sumOf (rows : List EmissionRow) : ℚ :=
  (rows.map EmissionRow.tco2e).sum

/-- `SELECT anno, SUM(tco2e) … GROUP BY anno ORDER BY anno`, as a dictionary. -/
def sumByYear (rows : List EmissionRow) : Dict ℕ ℚ where
  entries := ((rows.map EmissionRow.anno).dedup.insertionSort (· ≤ ·)).map fun year =>
    (year, sumOf (rows.filter fun r => r.anno = year))
  nodup_keys := by
    rw [List.map_map]
    have hid : (Prod.fst ∘ fun year => (year, sumOf (rows.filter fun r => r.anno = year))) = id :=
      rfl
    rw [hid, List.map_id, (List.perm_insertionSort _ _).nodup_iff]
    exact List.nodup_dedup _

def loadActuals (t : EmissionsTable) (tenantId : Uuid) (scopeCoverage : ScopeCoverage)
    (baselineYear targetYear : ℕ) : Dict ℕ ℚ :=
  sumByYear (t.rows.filter fun r => r.tenantId = tenantId ∧
    r.subScope.label ∈ scopeMap scopeCoverage ∧ (baselineYear ≤ r.anno ∧ r.anno ≤ targetYear) ∧
    r.Active)

/-! ## The numerator of an intensity -/

/-- The records `compute_intensities` sums over. -/
def emList (gwpSet : GwpSet) (regulatoryStream : RegulatoryStream)
    (emissions : List EmissionRecord) : List EmissionRecord :=
  emissions.filter fun e => e.gwpSet = gwpSet ∧ e.regulatoryStream = regulatoryStream

def sumTotal (emissions : List EmissionRecord) (anno : ℕ) (scope2Variant : String) : ℚ :=
  emissions.foldl (fun total e =>
    if e.anno ≠ anno then total
    else if e.scope = .two ∧ e.subScope.label ≠ scope2Variant then total
    else total + e.tco2e) 0

/-! ## What each of them sums -/

section Sums

variable {rows : List EmissionRow}

theorem sumOf_filter (p : EmissionRow → Prop) [DecidablePred p] :
    sumOf (rows.filter p) = (rows.map fun r => if p r then r.tco2e else 0).sum :=
  sum_map_filter p EmissionRow.tco2e rows

theorem sumOf_filter_eq_zero (hnonneg : ∀ r ∈ rows, 0 ≤ r.tco2e) (p : EmissionRow → Prop)
    [DecidablePred p] : sumOf (rows.filter p) = 0 ↔ ∀ r ∈ rows, p r → r.tco2e = 0 :=
  sum_filter_eq_zero hnonneg p

/-- No label of the ledger ends in `_LB` or `_MB`. -/
theorem label_suffix (u : SubScope) :
    endsWith u.label "_LB" = false ∧ endsWith u.label "_MB" = false := by
  cases u <;> decide

theorem add_rowToEmissionDict (totals : ScopeTotals) (r : EmissionRow) :
    totals.add (rowToEmissionDict r) = .ok { totals with
      scope1 := totals.scope1 + if r.scope = .one then r.tco2e else 0
      scope3 := totals.scope3 + if r.scope = .three then r.tco2e else 0 } := by
  obtain ⟨hlb, hmb⟩ := label_suffix r.subScope
  cases hscope : r.scope with
  | one => simp [ScopeTotals.add, rowToEmissionDict, hscope, Scope.number]
  | two => simp [ScopeTotals.add, rowToEmissionDict, hscope, Scope.number, hlb, hmb]
  | three => simp [ScopeTotals.add, rowToEmissionDict, hscope, Scope.number]

/-- A snapshot has no Scope 2, whatever the ledger holds. -/
theorem resultTotalsByScope_eq (rows : List EmissionRow) :
    resultTotalsByScope (rows.map rowToEmissionDict) =
      .ok { scope1 := sumOf (rows.filter fun r => r.scope = .one)
            scope3 := sumOf (rows.filter fun r => r.scope = .three) } := by
  suffices h : ∀ totals : ScopeTotals, (rows.map rowToEmissionDict).foldlM ScopeTotals.add totals =
      .ok { totals with
        scope1 := totals.scope1 + sumOf (rows.filter fun r => r.scope = .one)
        scope3 := totals.scope3 + sumOf (rows.filter fun r => r.scope = .three) } by
    rw [resultTotalsByScope, h, zero_add, zero_add]
  induction rows with
  | nil => simp [sumOf, pure, Except.pure]
  | cons r rows ih =>
      intro totals
      rw [List.map_cons, List.foldlM_cons, add_rowToEmissionDict]
      refine (ih _).trans ?_
      simp only [sumOf_filter, List.map_cons, List.sum_cons, add_assoc]

theorem get?_sumByYear (rows : List EmissionRow) (year : ℕ) :
    ((sumByYear rows).get? year).getD 0 = sumOf (rows.filter fun r => r.anno = year) := by
  have hentry : ∀ v, (sumByYear rows).get? year = some v ↔
      year ∈ rows.map EmissionRow.anno ∧ sumOf (rows.filter fun r => r.anno = year) = v := by
    intro v
    rw [Dict.get?_eq_some_iff, sumByYear, List.mem_map]
    constructor
    · rintro ⟨y, hy, hv⟩
      cases hv
      rw [(List.perm_insertionSort _ _).mem_iff, List.mem_dedup] at hy
      exact ⟨hy, rfl⟩
    · rintro ⟨hy, rfl⟩
      exact ⟨year, (List.perm_insertionSort _ _).mem_iff.mpr (List.mem_dedup.mpr hy), rfl⟩
  by_cases hyear : year ∈ rows.map EmissionRow.anno
  · rw [(hentry _).mpr ⟨hyear, rfl⟩, Option.getD_some]
  · have hnone : (sumByYear rows).get? year = none := by
      rw [Option.eq_none_iff_forall_ne_some]
      exact fun v hv => hyear ((hentry v).mp hv).1
    have hempty : (rows.filter fun r => r.anno = year) = [] := by
      rw [List.filter_eq_nil_iff]
      intro r hr hanno
      exact hyear (List.mem_map.mpr ⟨r, hr, of_decide_eq_true hanno⟩)
    rw [hnone, hempty]
    rfl

/-- The actuals of a year: the active rows whose label is on the list. -/
theorem actuals_eq (t : EmissionsTable) (tenantId : Uuid) (coverage : ScopeCoverage)
    {anno baselineYear targetYear : ℕ} (hyears : baselineYear ≤ anno ∧ anno ≤ targetYear) :
    ((loadActuals t tenantId coverage baselineYear targetYear).get? anno).getD 0 =
      sumOf ((activeRowsOf t tenantId anno).filter fun r =>
        r.subScope.label ∈ scopeMap coverage) := by
  rw [loadActuals, get?_sumByYear, activeRowsOf, List.filter_filter, List.filter_filter]
  congr 1
  refine List.filter_congr fun r _ => ?_
  rw [← Bool.decide_and, ← Bool.decide_and, decide_eq_decide]
  constructor
  · rintro ⟨rfl, htenant, hlabel, -, hactive⟩
    exact ⟨hlabel, htenant, rfl, hactive⟩
  · rintro ⟨hlabel, htenant, rfl, hactive⟩
    exact ⟨rfl, htenant, hlabel, hyears, hactive⟩

end Sums

/-- What the three aggregations read of a record or of its row. -/
structure Figures where
  scope : Scope
  subScope : SubScope
  anno : ℕ
  tco2e : ℚ
  gwpSet : GwpSet
  regulatoryStream : RegulatoryStream

def EmissionRecord.figures (e : EmissionRecord) : Figures :=
  ⟨e.scope, e.subScope, e.anno, e.tco2e, e.gwpSet, e.regulatoryStream⟩

def EmissionRow.figures (r : EmissionRow) : Figures :=
  ⟨r.scope, r.subScope, r.anno, r.tco2e, r.gwpSet, r.regulatoryStream⟩

/-- What an entry adds to a numerator. -/
def Figures.contribution (anno : ℕ) (scope2Variant : String) (f : Figures) : ℚ :=
  if f.anno ≠ anno then 0
  else if f.scope = .two ∧ f.subScope.label ≠ scope2Variant then 0
  else f.tco2e

theorem sumTotal_eq (emissions : List EmissionRecord) (anno : ℕ) (scope2Variant : String) :
    sumTotal emissions anno scope2Variant =
      ((emissions.map EmissionRecord.figures).map
        (Figures.contribution anno scope2Variant)).sum := by
  induction emissions using List.reverseRecOn with
  | nil => rfl
  | append_singleton emissions e ih =>
      unfold sumTotal at ih ⊢
      simp only [List.foldl_append, List.foldl_cons, List.foldl_nil, ih, List.map_append,
        List.sum_append, List.map_singleton, List.sum_singleton, Figures.contribution,
        EmissionRecord.figures]
      split_ifs
      · rw [add_zero]
      · rw [add_zero]
      · rfl

/-- The ledger rows of one tenant and year, all of one GWP set and stream, and their records. -/
structure OneTrack (rows : List EmissionRow) (anno : ℕ) (gwpSet : GwpSet)
    (stream : RegulatoryStream) (records : List EmissionRecord) : Prop where
  allowed : ∀ r ∈ rows, r.subScope ∈ allowedSubScopes r.scope
  anno : ∀ r ∈ rows, r.anno = anno
  gwpSet : ∀ r ∈ rows, r.gwpSet = gwpSet
  stream : ∀ r ∈ rows, r.regulatoryStream = stream
  records : (records.map EmissionRecord.figures).Perm (rows.map EmissionRow.figures)

section Numerator

variable {rows : List EmissionRow} {anno : ℕ} {gwpSet : GwpSet} {stream : RegulatoryStream}
  {records : List EmissionRecord}

theorem emList_eq (h : OneTrack rows anno gwpSet stream records) :
    emList gwpSet stream records = records := by
  rw [emList, List.filter_eq_self]
  intro e he
  obtain ⟨r, hr, hfigures⟩ := List.mem_map.mp (h.records.mem_iff.mp (List.mem_map_of_mem he))
  have hset : e.gwpSet = r.gwpSet := (congrArg Figures.gwpSet hfigures).symm
  have hstream : e.regulatoryStream = r.regulatoryStream :=
    (congrArg Figures.regulatoryStream hfigures).symm
  simp [hset, hstream, h.gwpSet r hr, h.stream r hr]

/-- The rows of Scope 2 come in two variants, of which a numerator takes one. -/
theorem contribution_eq {r : EmissionRow} (hanno : r.anno = anno)
    (hallowed : r.subScope ∈ allowedSubScopes r.scope) {variant : SubScope}
    (hvariant : variant ∈ allowedSubScopes .two) :
    r.figures.contribution anno variant.label = (if r.scope = .one then r.tco2e else 0) +
      (if r.subScope = variant then r.tco2e else 0) +
      (if r.scope = .three then r.tco2e else 0) := by
  have hlabel : ∀ u ∈ allowedSubScopes .two, (u.label ≠ variant.label ↔ u ≠ variant) := by
    revert hvariant
    cases variant <;> decide
  have hother : r.scope ≠ .two → r.subScope ≠ variant := by
    rintro hscope rfl
    exact hscope (scope_unique hallowed hvariant)
  simp only [Figures.contribution, EmissionRow.figures, hanno, ne_eq, not_true_eq_false, if_false]
  cases hscope : r.scope with
  | one => simp [hother (by simp [hscope])]
  | two =>
      rw [hscope] at hallowed
      by_cases hsub : r.subScope = variant
      · simp [hsub]
      · simp [hsub, (hlabel _ hallowed).mpr hsub]
  | three => simp [hother (by simp [hscope])]

theorem numerator_eq (h : OneTrack rows anno gwpSet stream records) (variant : SubScope)
    (hvariant : variant ∈ allowedSubScopes .two) :
    sumTotal (emList gwpSet stream records) anno variant.label =
      sumOf (rows.filter fun r => r.scope = .one) +
        sumOf (rows.filter fun r => r.subScope = variant) +
        sumOf (rows.filter fun r => r.scope = .three) := by
  rw [emList_eq h, sumTotal_eq, (h.records.map _).sum_eq, List.map_map, sumOf_filter, sumOf_filter,
    sumOf_filter, ← List.sum_map_add, ← List.sum_map_add]
  refine congrArg List.sum (List.map_congr_left fun r hr => ?_)
  exact contribution_eq (h.anno r hr) (h.allowed r hr) hvariant

end Numerator

/-- The three aggregations mean the same by a scope. -/
structure ConsumersAgree (rows : List EmissionRow) (totals : ScopeTotals)
    (actual : ScopeCoverage → ℚ) (numerator : String → ℚ) : Prop where
  scope1 : totals.scope1 = actual .s1 ∧
    actual .s1 = sumOf (rows.filter fun r => r.scope = .one)
  scope2Lb : totals.scope2Lb = actual .s2Lb ∧
    actual .s2Lb = sumOf (rows.filter fun r => r.subScope = .lb)
  scope2Mb : totals.scope2Mb = actual .s2Mb ∧
    actual .s2Mb = sumOf (rows.filter fun r => r.subScope = .mb)
  scope3 : totals.scope3 = actual .s3 ∧
    actual .s3 = sumOf (rows.filter fun r => r.scope = .three)
  lb : numerator "LB" = totals.scope1 + totals.scope2Lb + totals.scope3
  mb : numerator "MB" = totals.scope1 + totals.scope2Mb + totals.scope3

/-- The labels of Scope 1 are the listed ones; those of Scope 2 and 3 are on no list. -/
theorem label_scopeMap {u : SubScope} {s : Scope} (h : u ∈ allowedSubScopes s) :
    (u.label ∈ scopeMap .s1 ↔ s = .one) ∧ u.label ∉ scopeMap .s2Lb ∧ u.label ∉ scopeMap .s2Mb ∧
      u.label ∉ scopeMap .s3 := by
  revert h
  cases s <;> cases u <;> decide

section Agreement

variable {t : EmissionsTable} {tenantId : Uuid} {anno baselineYear targetYear : ℕ}

/-- The actuals of the four scopes: only those of Scope 1 are ever found. -/
theorem actuals_scopes (hyears : baselineYear ≤ anno ∧ anno ≤ targetYear)
    (hallowed : ∀ r ∈ activeRowsOf t tenantId anno, r.subScope ∈ allowedSubScopes r.scope) :
    let actual := fun coverage =>
      ((loadActuals t tenantId coverage baselineYear targetYear).get? anno).getD 0
    actual .s1 = sumOf ((activeRowsOf t tenantId anno).filter fun r => r.scope = .one) ∧
      actual .s2Lb = 0 ∧ actual .s2Mb = 0 ∧ actual .s3 = 0 := by
  intro actual
  have hnone : ∀ coverage, (∀ r ∈ activeRowsOf t tenantId anno,
      r.subScope.label ∉ scopeMap coverage) → actual coverage = 0 := by
    intro coverage h
    have hempty : ((activeRowsOf t tenantId anno).filter fun r =>
        r.subScope.label ∈ scopeMap coverage) = [] := by
      rw [List.filter_eq_nil_iff]
      exact fun r hr hlabel => h r hr (of_decide_eq_true hlabel)
    rw [show actual coverage = _ from actuals_eq t tenantId coverage hyears, hempty]
    rfl
  have hlabels := fun r hr => label_scopeMap (hallowed r hr)
  refine ⟨?_, hnone _ fun r hr => (hlabels r hr).2.1, hnone _ fun r hr => (hlabels r hr).2.2.1,
    hnone _ fun r hr => (hlabels r hr).2.2.2⟩
  rw [show actual .s1 = _ from actuals_eq t tenantId .s1 hyears]
  refine congrArg sumOf (List.filter_congr fun r hr => ?_)
  rw [decide_eq_decide]
  exact (hlabels r hr).1

end Agreement

/-- The three aggregations agree exactly when Scope 1 is all there is. -/
theorem consumers_agree_iff (t : EmissionsTable) (tenantId : Uuid) (anno : ℕ) (gwpSet : GwpSet)
    (stream : RegulatoryStream) (records : List EmissionRecord) (baselineYear targetYear : ℕ)
    (hyears : baselineYear ≤ anno ∧ anno ≤ targetYear)
    (htrack : OneTrack (activeRowsOf t tenantId anno) anno gwpSet stream records) :
    (∃ totals, resultTotalsByScope (fetchActiveEmissions t tenantId anno) = .ok totals ∧
        ConsumersAgree (activeRowsOf t tenantId anno) totals
          (fun coverage =>
            ((loadActuals t tenantId coverage baselineYear targetYear).get? anno).getD 0)
          (sumTotal (emList gwpSet stream records) anno)) ↔
      ∀ r ∈ activeRowsOf t tenantId anno, r.scope ≠ .one → r.tco2e = 0 := by
  have hnonneg : ∀ r ∈ activeRowsOf t tenantId anno, 0 ≤ r.tco2e := fun r hr =>
    (t.checks r (List.mem_of_mem_filter hr)).2.1
  have hzero := fun p [DecidablePred p] => sumOf_filter_eq_zero hnonneg p
  have htotals := resultTotalsByScope_eq (activeRowsOf t tenantId anno)
  obtain ⟨hs1, hs2Lb, hs2Mb, hs3⟩ := actuals_scopes hyears htrack.allowed
  constructor
  · rintro ⟨totals, -, hagree⟩ r hr hscope
    have hlb := (hzero (·.subScope = .lb)).mp (hagree.scope2Lb.2.symm.trans hs2Lb) r hr
    have hmb := (hzero (·.subScope = .mb)).mp (hagree.scope2Mb.2.symm.trans hs2Mb) r hr
    have hthree := (hzero (·.scope = .three)).mp (hagree.scope3.2.symm.trans hs3) r hr
    have hallowed := htrack.allowed r hr
    cases hs : r.scope with
    | one => exact absurd hs hscope
    | two =>
        rw [hs] at hallowed
        rcases List.mem_pair.mp hallowed with hsub | hsub
        · exact hlb hsub
        · exact hmb hsub
    | three => exact hthree hs
  · intro h
    have hlb := (hzero (·.subScope = .lb)).mpr fun r hr hsub => h r hr fun hone => by
      have hallowed := htrack.allowed r hr
      rw [hone, hsub] at hallowed
      exact absurd hallowed (by decide)
    have hmb := (hzero (·.subScope = .mb)).mpr fun r hr hsub => h r hr fun hone => by
      have hallowed := htrack.allowed r hr
      rw [hone, hsub] at hallowed
      exact absurd hallowed (by decide)
    have hthree := (hzero (·.scope = .three)).mpr fun r hr hs => h r hr (by simp [hs])
    refine ⟨_, htotals, ⟨hs1.symm, hs1⟩, ⟨hs2Lb.symm, hs2Lb.trans hlb.symm⟩,
      ⟨hs2Mb.symm, hs2Mb.trans hmb.symm⟩, ⟨hthree.trans hs3.symm, hs3.trans hthree.symm⟩, ?_, ?_⟩
    · exact (numerator_eq htrack .lb (by decide)).trans (by rw [hlb])
    · exact (numerator_eq htrack .mb (by decide)).trans (by rw [hmb])

/-- The record of the row of `gridTable`. -/
def gridRecord : EmissionRecord where
  correlationId := .drawn 1
  rawRowId := some 1
  scope := .two
  subScope := .lb
  codiceSito := some "IANO"
  anno := 2024
  tco2e := 10
  factorId := "LB_IT_GRID_ISPRA_2024"
  factorVersion := "Rapporto_413_2025"
  factorSource := "ISPRA"
  gwpSet := .ar6
  methodology := .locationBased
  regulatoryStream := .csrdEsrsE1
  calcTimestamp := 0
  createdBy := "calc_service"
  co2Tonne := none
  co2BiogenicTonne := none
  co2FossilTonne := none
  ch4Tco2e := none
  n2oTco2e := none
  factorIdUuid := some 1
  tco2e_nonneg := by decide
  subScope_allowed := by decide
  biogenic_nonneg := by decide
  fossil_nonneg := by decide

theorem oneTrack_grid :
    OneTrack (activeRowsOf gridTable 1 2024) 2024 .ar6 .csrdEsrsE1 [gridRecord] :=
  ⟨by decide, by decide, by decide, by decide, .of_eq rfl⟩

theorem consumers_agree_iff_grid :
    (∃ totals, resultTotalsByScope (fetchActiveEmissions gridTable 1 2024) = .ok totals ∧
        ConsumersAgree (activeRowsOf gridTable 1 2024) totals
          (fun coverage => ((loadActuals gridTable 1 coverage 2020 2030).get? 2024).getD 0)
          (sumTotal (emList .ar6 .csrdEsrsE1 [gridRecord]) 2024)) ↔
      ∀ r ∈ activeRowsOf gridTable 1 2024, r.scope ≠ .one → r.tco2e = 0 :=
  consumers_agree_iff gridTable 1 2024 .ar6 .csrdEsrsE1 [gridRecord] 2020 2030 (by decide)
    oneTrack_grid

/-- Ten location-based tonnes are in the numerator of the intensity, and neither in the snapshot nor
in the actuals. -/
theorem grid_row_missed :
    OneTrack (activeRowsOf gridTable 1 2024) 2024 .ar6 .csrdEsrsE1 [gridRecord] ∧
      sumOf ((activeRowsOf gridTable 1 2024).filter fun r => r.subScope = .lb) = 10 ∧
      sumTotal (emList .ar6 .csrdEsrsE1 [gridRecord]) 2024 "LB" = 10 ∧
      (loadActuals gridTable 1 .s2Lb 2020 2030).get? 2024 = none ∧
      ∃ totals, resultTotalsByScope (fetchActiveEmissions gridTable 1 2024) = .ok totals ∧
        totals.scope2Lb = 0 ∧ ¬ ConsumersAgree (activeRowsOf gridTable 1 2024) totals
          (fun coverage => ((loadActuals gridTable 1 coverage 2020 2030).get? 2024).getD 0)
          (sumTotal (emList .ar6 .csrdEsrsE1 [gridRecord]) 2024) := by
  have hactual : (loadActuals gridTable 1 .s2Lb 2020 2030).get? 2024 = none := by decide +kernel
  have hsum : sumOf ((activeRowsOf gridTable 1 2024).filter fun r => r.subScope = .lb) = 10 := by
    decide +kernel
  refine ⟨oneTrack_grid, hsum, by decide +kernel, hactual, {}, by decide +kernel, rfl, ?_⟩
  intro hagree
  have hlb := hagree.scope2Lb.2
  rw [hsum, hactual] at hlb
  exact absurd hlb (by decide)

end GhgTool
