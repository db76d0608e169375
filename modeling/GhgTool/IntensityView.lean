import Mathlib.Algebra.BigOperators.Ring.List
import GhgTool.HalfUp
import GhgTool.GroupedSums
import GhgTool.ScopeTotals

/-!
# Intensity metrics

The ratios of emissions to production, revenue and headcount, computed twice: by
`compute_intensities` from records, for one regulatory stream and each variant of Scope 2, and by
the materialised view from the ledger, for each site and scope.
-/

namespace GhgTool

/-! ## The service -/

structure CalendarDate where
  year : ℕ
  month : ℕ
  day : ℕ
  deriving DecidableEq

/-- `str(date)`. -/
def CalendarDate.isoformat (d : CalendarDate) : String :=
  let pad := fun n : ℕ => if n < 10 then "0" ++ toString n else toString n
  toString d.year ++ "-" ++ pad d.month ++ "-" ++ pad d.day

structure IntensityReferenceInputs where
  anno : ℕ
  productionTonnes : ℚ
  revenueMeur : ℚ
  fte : ℤ
  hrConfirmationDate : CalendarDate

inductive IntensityError
  | invalidIntensityDenominator (name : String) (got : ℚ) (anno : ℕ)
  | negativeNumerator (got : ℚ)
  deriving DecidableEq

structure IntensityMetric where
  correlationId : CorrelationId
  kpiCode : String
  anno : ℕ
  scope2Variant : String
  numeratorTco2e : ℚ
  denominatorValue : ℚ
  denominatorUnit : String
  intensityValue : ℚ
  gwpSet : GwpSet
  regulatoryStream : RegulatoryStream
  calcTimestamp : Timestamp
  createdBy : String
  disclosureNotes : Option String
  denominator_pos : 0 < denominatorValue
  numerator_nonneg : 0 ≤ numeratorTco2e

/-- `_build_kpis`: production, revenue and headcount, in this order. -/
def buildKpis (ctx : RunContext) (gwpSet : GwpSet) (numerator : ℚ) (ref : IntensityReferenceInputs)
    (variant : String) : Except IntensityError (List IntensityMetric) :=
  let notes := "FTE=" ++ toString ref.fte ++ " (HR official " ++
    ref.hrConfirmationDate.isoformat ++ "); scope2_variant=" ++ variant ++ "."
  if hproduction : 0 < ref.productionTonnes then
    if hrevenue : 0 < ref.revenueMeur then
      if hfte : (0 : ℚ) < ref.fte then
        if hnumerator : 0 ≤ numerator then
          let metric := fun kpiCode denominator unit (hpos : 0 < denominator) =>
            { correlationId := ctx.correlationId, kpiCode, anno := ref.anno
              scope2Variant := variant, numeratorTco2e := numerator
              denominatorValue := denominator, denominatorUnit := unit
              intensityValue := numerator / denominator, gwpSet
              regulatoryStream := ctx.regulatoryStream, calcTimestamp := ctx.calcTimestamp
              createdBy := ctx.createdBy, disclosureNotes := some notes
              denominator_pos := hpos, numerator_nonneg := hnumerator : IntensityMetric }
          .ok [metric "KPI-09" ref.productionTonnes "t" hproduction,
            metric "KPI-10" ref.revenueMeur "M EUR" hrevenue,
            metric "KPI-11" ref.fte "FTE" hfte]
        else .error (.negativeNumerator numerator)
      else .error (.invalidIntensityDenominator "fte" ref.fte ref.anno)
    else .error (.invalidIntensityDenominator "revenue_meur" ref.revenueMeur ref.anno)
  else .error (.invalidIntensityDenominator "production_tonnes" ref.productionTonnes ref.anno)

def scope2Variants : List String :=
  ["LB", "MB"]

def computeIntensities (emissions : List EmissionRecord)
    (references : List IntensityReferenceInputs) (ctx : RunContext) (gwpSet : GwpSet) :
    Except IntensityError (List IntensityMetric) :=
  let emList := emList gwpSet ctx.regulatoryStream emissions
  collect (fun ref => collect (fun variant =>
    buildKpis ctx gwpSet (sumTotal emList ref.anno variant) ref variant) scope2Variants) references

theorem outcome_buildKpis (ctx : RunContext) (gwpSet : GwpSet) (numerator : ℚ)
    (ref : IntensityReferenceInputs) (variant : String) :
    Outcome (buildKpis ctx gwpSet numerator ref variant)
      (Shows (fun m : IntensityMetric => (m.anno, m.numeratorTco2e)) (fun _ => True)
        (List.replicate 3 (ref.anno, numerator))) fun _ => True := by
  unfold buildKpis
  refine .dite (fun hproduction => ?_) fun _ => trivial
  refine .dite (fun hrevenue => ?_) fun _ => trivial
  refine .dite (fun hfte => ?_) fun _ => trivial
  refine .dite (fun hnumerator => ?_) fun _ => trivial
  exact ⟨rfl, fun _ _ => trivial⟩

theorem numerators_of_year {emissions : List EmissionRecord}
    {references : List IntensityReferenceInputs} {ctx : RunContext} {gwpSet : GwpSet}
    {metrics : List IntensityMetric}
    (h : computeIntensities emissions references ctx gwpSet = .ok metrics) {anno : ℕ}
    (href : ∃ ref ∈ references, ref.anno = anno) (q : ℚ) :
    (∃ m ∈ metrics, m.anno = anno ∧ m.numeratorTco2e = q) ↔
      ∃ variant ∈ scope2Variants,
        sumTotal (emList gwpSet ctx.regulatoryStream emissions) anno variant = q := by
  have hshows := (outcome_collect fun ref _ => outcome_collect fun variant _ =>
    outcome_buildKpis ctx gwpSet
      (sumTotal (emList gwpSet ctx.regulatoryStream emissions) ref.anno variant) ref
      variant).of_ok h
  have hshown : (∃ m ∈ metrics, m.anno = anno ∧ m.numeratorTco2e = q) ↔
      (anno, q) ∈ metrics.map fun m => (m.anno, m.numeratorTco2e) := by
    simp only [List.mem_map, Prod.mk.injEq]
  rw [hshown, hshows.1]
  simp only [List.mem_flatMap, List.mem_replicate, Prod.mk.injEq]
  constructor
  · rintro ⟨ref, -, variant, hvariant, -, rfl, rfl⟩
    exact ⟨variant, hvariant, rfl⟩
  · rintro ⟨variant, hvariant, rfl⟩
    obtain ⟨ref, hmem, rfl⟩ := href
    exact ⟨ref, hmem, variant, hvariant, by omega, rfl, rfl⟩

/-! ## The view -/

inductive ScopeLabel
  | scope1 | scope2Lb | scope2Mb | scope3 | total
  deriving DecidableEq

def EmissionRow.scopeLabel (r : EmissionRow) : Option ScopeLabel :=
  if r.scope = .one then some .scope1
  else if r.scope = .two ∧ r.subScope = .lb then some .scope2Lb
  else if r.scope = .two ∧ r.subScope = .mb then some .scope2Mb
  else if r.scope = .three then some .scope3
  else none

/-- The columns every grouping of the view has. -/
structure SiteKey where
  tenantId : Uuid
  anno : ℕ
  codiceSito : Option String
  gwpSet : GwpSet
  deriving DecidableEq

def EmissionRow.siteKey (r : EmissionRow) : SiteKey :=
  ⟨r.tenantId, r.anno, r.codiceSito, r.gwpSet⟩

/-- All sites of a tenant, year and GWP set. -/
def SiteKey.inventory (k : SiteKey) : Uuid × ℕ × GwpSet :=
  (k.tenantId, k.anno, k.gwpSet)

structure ScopeTotal where
  site : SiteKey
  scopeLabel : Option ScopeLabel
  tco2eTotal : ℚ

inductive DenominatorType
  | eurRevenue | m2Production | fte | kgProduct
  deriving DecidableEq

/-- `raw.intensity_references`; a company-wide reference has no site. -/
structure IntensityReference where
  tenantId : Uuid
  codiceSito : Option String
  anno : ℕ
  denominatorType : DenominatorType
  denominatorValue : ℚ
  denominatorUnit : String
  hrConfirmationDate : Option CalendarDate
  denominator_pos : 0 < denominatorValue
  chk_fte_requires_hr_date : denominatorType = .fte → hrConfirmationDate.isSome

structure IntensityRow where
  site : SiteKey
  scopeLabel : Option ScopeLabel
  denominatorType : DenominatorType
  denominatorValue : ℚ
  denominatorUnit : String
  intensityValue : ℚ
  hrConfirmationDate : Option CalendarDate
  confidenceIntervalLower : Option ℚ := none
  confidenceIntervalUpper : Option ℚ := none
  deriving DecidableEq

def activeEmissions (t : EmissionsTable) : List EmissionRow :=
  t.rows.filter fun r => r.Active

def emissionsByScope (t : EmissionsTable) : List ((SiteKey × Option ScopeLabel) × ℚ) :=
  groupBy (fun r => (r.siteKey, r.scopeLabel)) EmissionRow.tco2e (activeEmissions t)

def scopeTotals (t : EmissionsTable) : List (SiteKey × ℚ) :=
  groupBy (fun e => e.1.1) Prod.snd (emissionsByScope t)

def allScopes (t : EmissionsTable) : List ScopeTotal :=
  (emissionsByScope t).map (fun e => ⟨e.1.1, e.1.2, e.2⟩) ++
    (scopeTotals t).map fun e => ⟨e.1, some .total, e.2⟩

/-- The condition of the join. Without a site, only a company-wide reference matches. -/
def JoinsReference (e : ScopeTotal) (r : IntensityReference) : Prop :=
  (r.tenantId = e.site.tenantId ∧ r.anno = e.site.anno ∧
    (r.codiceSito = none ∨ r.codiceSito = e.site.codiceSito)) ∧ 0 < r.denominatorValue

instance (e : ScopeTotal) (r : IntensityReference) : Decidable (JoinsReference e r) :=
  inferInstanceAs (Decidable ((_ ∧ _ ∧ _) ∧ _))

def joinedReferences (t : EmissionsTable) (references : List IntensityReference) :
    List (ScopeTotal × IntensityReference) :=
  (allScopes t).flatMap fun e => (references.filter (JoinsReference e)).map fun r => (e, r)

/-- A reference of the site goes before a company-wide one; among references that tie, the one
`scan` meets first is taken. -/
def resolvedDenominators
    (scan : List (ScopeTotal × IntensityReference) → List (ScopeTotal × IntensityReference))
    (t : EmissionsTable) (references : List IntensityReference) :
    List (ScopeTotal × IntensityReference) :=
  distinctOn (fun c => (c.1.site, c.1.scopeLabel, c.2.denominatorType))
    (fun c => c.2.codiceSito.isNone) (scan (joinedReferences t references))

/-- `(total / denominator)::NUMERIC(20, 8)`. The quotient `divide` gives is itself rounded. -/
def intensityRatio (divide : ℚ → ℚ → ℚ) (total denominator : ℚ) : Option ℚ :=
  let ratio := roundHalfUp 8 (divide total denominator)
  if |ratio| < 10 ^ 12 then some ratio else none

def intensityRow (divide : ℚ → ℚ → ℚ) (c : ScopeTotal × IntensityReference) :
    Option IntensityRow :=
  (intensityRatio divide c.1.tco2eTotal c.2.denominatorValue).map fun intensityValue =>
    { site := c.1.site, scopeLabel := c.1.scopeLabel, denominatorType := c.2.denominatorType
      denominatorValue := c.2.denominatorValue, denominatorUnit := c.2.denominatorUnit
      intensityValue, hrConfirmationDate := c.2.hrConfirmationDate }

/-- Two rows `ux_mv_intensity_metrics` does not admit together. -/
def IntensityRow.Duplicates (v w : IntensityRow) : Prop :=
  v.site.inventory = w.site.inventory ∧
    v.site.codiceSito.getD "__GLOBAL__" = w.site.codiceSito.getD "__GLOBAL__" ∧
    v.scopeLabel.isSome ∧ v.scopeLabel = w.scopeLabel ∧ v.denominatorType = w.denominatorType

instance (v w : IntensityRow) : Decidable (v.Duplicates w) :=
  inferInstanceAs (Decidable (_ ∧ _ ∧ _ ∧ _ ∧ _))

/-- `REFRESH MATERIALIZED VIEW calc.mv_intensity_metrics`, with nothing where it fails. -/
def mvIntensityMetrics (divide : ℚ → ℚ → ℚ)
    (scan : List (ScopeTotal × IntensityReference) → List (ScopeTotal × IntensityReference))
    (t : EmissionsTable) (references : List IntensityReference) : Option (List IntensityRow) := do
  let rows ← (resolvedDenominators scan t references).mapM (intensityRow divide)
  if rows.Pairwise fun v w => ¬ v.Duplicates w then some rows else none

/-! ## What the total rows hold -/

/-- The total of a site, over its scopes, streams and variants. -/
def siteTotal (t : EmissionsTable) (k : SiteKey) : ℚ :=
  sumOf ((activeEmissions t).filter fun r => r.siteKey = k)

theorem scopeLabel_ne_total (r : EmissionRow) : r.scopeLabel ≠ some .total := by
  unfold EmissionRow.scopeLabel
  split_ifs <;> simp

theorem mem_scopeTotals {t : EmissionsTable} {k : SiteKey} {x : ℚ} :
    (k, x) ∈ scopeTotals t ↔
      k ∈ distinctKeys EmissionRow.siteKey (activeEmissions t) ∧ x = siteTotal t k := by
  have hsum : ∀ k, groupSum (fun e : (SiteKey × Option ScopeLabel) × ℚ => e.1.1) Prod.snd
      (emissionsByScope t) k = siteTotal t k := fun k =>
    groupSum_groupBy Prod.fst EmissionRow.tco2e (activeEmissions t) k
  have hkeys : ∀ k, k ∈ distinctKeys (fun e : (SiteKey × Option ScopeLabel) × ℚ => e.1.1)
      (emissionsByScope t) ↔ k ∈ distinctKeys EmissionRow.siteKey (activeEmissions t) := fun k => by
    rw [emissionsByScope, mem_distinctKeys_groupBy, mem_distinctKeys]
  rw [scopeTotals, groupBy, List.mem_map]
  constructor
  · rintro ⟨k', hk', hpair⟩
    cases hpair
    exact ⟨(hkeys k).mp hk', hsum k⟩
  · rintro ⟨hk, rfl⟩
    exact ⟨k, (hkeys k).mpr hk, by rw [hsum]⟩

/-- The total pseudo-scope has one entry for each site that has rows. -/
theorem mem_allScopes_total {t : EmissionsTable} {e : ScopeTotal}
    (htotal : e.scopeLabel = some .total) :
    e ∈ allScopes t ↔ e.site ∈ distinctKeys EmissionRow.siteKey (activeEmissions t) ∧
      e.tco2eTotal = siteTotal t e.site := by
  rw [← mem_scopeTotals, allScopes, List.mem_append]
  constructor
  · rintro (hscope | hsite)
    · obtain ⟨entry, hentry, rfl⟩ := List.mem_map.mp hscope
      obtain ⟨key, hkey, rfl⟩ := List.mem_map.mp hentry
      obtain ⟨r, -, rfl⟩ := mem_distinctKeys.mp hkey
      exact absurd htotal (scopeLabel_ne_total r)
    · obtain ⟨entry, hentry, rfl⟩ := List.mem_map.mp hsite
      exact hentry
  · intro h
    refine .inr (List.mem_map.mpr ⟨_, h, ?_⟩)
    rw [← htotal]

/-- The denominator of a tenant, year and type is given for the company as a whole. -/
structure CompanyWide (references : List IntensityReference) (tenantId : Uuid) (anno : ℕ)
    (denominatorType : DenominatorType) (denominator : ℚ) : Prop where
  given : ∃ r ∈ references, r.tenantId = tenantId ∧ r.anno = anno ∧
    r.denominatorType = denominatorType
  unique : ∀ r ∈ references, r.tenantId = tenantId → r.anno = anno →
    r.denominatorType = denominatorType → r.codiceSito = none ∧ r.denominatorValue = denominator

def totalRows (rows : List IntensityRow) (inventory : Uuid × ℕ × GwpSet)
    (denominatorType : DenominatorType) : List IntensityRow :=
  rows.filter fun v => v.site.inventory = inventory ∧ v.scopeLabel = some .total ∧
    v.denominatorType = denominatorType

/-- The total rows of an inventory, summed over its sites. -/
def totalIntensity (rows : List IntensityRow) (inventory : Uuid × ℕ × GwpSet)
    (denominatorType : DenominatorType) : ℚ :=
  ((totalRows rows inventory denominatorType).map IntensityRow.intensityValue).sum

def inventorySites (t : EmissionsTable) (inventory : Uuid × ℕ × GwpSet) : List SiteKey :=
  (distinctKeys EmissionRow.siteKey (activeEmissions t)).filter fun k => k.inventory = inventory

section View

variable {divide : ℚ → ℚ → ℚ}
  {scan : List (ScopeTotal × IntensityReference) → List (ScopeTotal × IntensityReference)}
  {t : EmissionsTable} {references : List IntensityReference} {rows : List IntensityRow}

theorem intensityRow_eq_some {c : ScopeTotal × IntensityReference} {v : IntensityRow}
    (h : intensityRow divide c = some v) :
    (v.site, v.scopeLabel, v.denominatorType) =
        (c.1.site, c.1.scopeLabel, c.2.denominatorType) ∧
      v.intensityValue = roundHalfUp 8 (divide c.1.tco2eTotal c.2.denominatorValue) := by
  obtain ⟨ratio, hratio, rfl⟩ := Option.map_eq_some_iff.mp h
  refine ⟨rfl, ?_⟩
  dsimp only [intensityRatio] at hratio
  split_ifs at hratio
  exact (Option.some.inj hratio).symm

theorem rows_of_view (h : mvIntensityMetrics divide scan t references = some rows) :
    (resolvedDenominators scan t references).mapM (intensityRow divide) = some rows := by
  obtain ⟨rows', hrows, hindex⟩ := Option.bind_eq_some_iff.mp h
  split_ifs at hindex
  rw [hrows, hindex]

theorem mem_joinedReferences {e : ScopeTotal} {r : IntensityReference} :
    (e, r) ∈ joinedReferences t references ↔
      e ∈ allScopes t ∧ r ∈ references ∧ JoinsReference e r := by
  simp only [joinedReferences, List.mem_flatMap, List.mem_map, List.mem_filter, Prod.mk.injEq,
    decide_eq_true_eq]
  constructor
  · rintro ⟨e', he, r', ⟨hr, hjoins⟩, rfl, rfl⟩
    exact ⟨he, hr, hjoins⟩
  · rintro ⟨he, hr, hjoins⟩
    exact ⟨e, he, r, ⟨hr, hjoins⟩, rfl, rfl⟩

/-- One row of the view for each site, scope and type of denominator that can be joined. -/
theorem map_rows_of_view (h : mvIntensityMetrics divide scan t references = some rows) :
    rows.map (fun v => (v.site, v.scopeLabel, v.denominatorType)) =
      distinctKeys (fun c : ScopeTotal × IntensityReference =>
        (c.1.site, c.1.scopeLabel, c.2.denominatorType)) (scan (joinedReferences t references)) := by
  rw [map_of_mapM (fun _ _ hrow => (intensityRow_eq_some hrow).1) (rows_of_view h),
    resolvedDenominators, map_distinctOn]

variable {tenantId : Uuid} {anno : ℕ} {gwpSet : GwpSet} {denominatorType : DenominatorType}
  {denominator : ℚ}

theorem intensityValue_totalRow (hscan : ∀ cs, (scan cs).Perm cs)
    (h : mvIntensityMetrics divide scan t references = some rows)
    (hD : CompanyWide references tenantId anno denominatorType denominator) {v : IntensityRow}
    (hv : v ∈ totalRows rows (tenantId, anno, gwpSet) denominatorType) :
    v.intensityValue = roundHalfUp 8 (divide (siteTotal t v.site) denominator) := by
  obtain ⟨hrow, hdecide⟩ := List.mem_filter.mp hv
  obtain ⟨hinventory, htotal, htype⟩ := of_decide_eq_true hdecide
  obtain ⟨⟨e, r⟩, hc, hvalue⟩ := exists_of_mem_mapM (rows_of_view h) hrow
  obtain ⟨hkey, hratio⟩ := intensityRow_eq_some hvalue
  simp only [Prod.mk.injEq] at hkey
  obtain ⟨hsite, hlabel, hdenominator⟩ := hkey
  obtain ⟨he, hr, ⟨htenant, hanno, -⟩, -⟩ :=
    mem_joinedReferences.mp ((hscan _).mem_iff.mp (mem_of_mem_distinctOn hc))
  rw [← hsite] at htenant hanno
  have htenant' : r.tenantId = tenantId := htenant.trans (congrArg Prod.fst hinventory)
  have hanno' : r.anno = anno := hanno.trans (congrArg (·.2.1) hinventory)
  have hvalue := (hD.unique r hr htenant' hanno' (hdenominator.symm.trans htype)).2
  have hsum := ((mem_allScopes_total (hlabel.symm.trans htotal)).mp he).2
  rw [hratio, hsum, hvalue, hsite]

theorem mem_sites_totalRows (hscan : ∀ cs, (scan cs).Perm cs)
    (h : mvIntensityMetrics divide scan t references = some rows)
    (hD : CompanyWide references tenantId anno denominatorType denominator) (k : SiteKey) :
    k ∈ (totalRows rows (tenantId, anno, gwpSet) denominatorType).map IntensityRow.site ↔
      k ∈ inventorySites t (tenantId, anno, gwpSet) := by
  have hkeys := map_rows_of_view h
  rw [inventorySites, List.mem_filter, decide_eq_true_eq, List.mem_map]
  constructor
  · rintro ⟨v, hv, rfl⟩
    obtain ⟨hrow, hdecide⟩ := List.mem_filter.mp hv
    obtain ⟨hinventory, htotal, -⟩ := of_decide_eq_true hdecide
    have hkey := List.mem_map_of_mem (f := fun v => (v.site, v.scopeLabel, v.denominatorType)) hrow
    rw [hkeys] at hkey
    obtain ⟨⟨e, r⟩, hc, hkey⟩ := mem_distinctKeys.mp hkey
    simp only [Prod.mk.injEq] at hkey
    obtain ⟨he, -, -⟩ := mem_joinedReferences.mp ((hscan _).mem_iff.mp hc)
    rw [mem_allScopes_total (hkey.2.1.trans htotal), hkey.1] at he
    exact ⟨he.1, hinventory⟩
  · rintro ⟨hk, hinventory⟩
    obtain ⟨r, hr, htenant, hanno, htype⟩ := hD.given
    have he : (⟨k, some .total, siteTotal t k⟩ : ScopeTotal) ∈ allScopes t :=
      (mem_allScopes_total rfl).mpr ⟨hk, rfl⟩
    have hjoins : JoinsReference ⟨k, some .total, siteTotal t k⟩ r :=
      ⟨⟨htenant.trans (congrArg Prod.fst hinventory).symm,
        hanno.trans (congrArg (·.2.1) hinventory).symm,
        .inl (hD.unique r hr htenant hanno htype).1⟩, r.denominator_pos⟩
    have hc := (hscan _).mem_iff.mpr (mem_joinedReferences.mpr ⟨he, hr, hjoins⟩)
    have hkey : (k, some ScopeLabel.total, r.denominatorType) ∈
        rows.map fun v => (v.site, v.scopeLabel, v.denominatorType) := by
      rw [hkeys]
      exact mem_distinctKeys.mpr ⟨_, hc, rfl⟩
    obtain ⟨v, hv, hkey⟩ := List.mem_map.mp hkey
    simp only [Prod.mk.injEq] at hkey
    obtain ⟨hsite, hlabel, hdenominator⟩ := hkey
    refine ⟨v, List.mem_filter.mpr ⟨hv, decide_eq_true ⟨?_, hlabel, ?_⟩⟩, hsite⟩
    · rw [hsite, hinventory]
    · rw [hdenominator, htype]

theorem nodup_sites_totalRows (h : mvIntensityMetrics divide scan t references = some rows)
    (inventory : Uuid × ℕ × GwpSet) (denominatorType : DenominatorType) :
    ((totalRows rows inventory denominatorType).map IntensityRow.site).Nodup := by
  have hnodup : (rows.map fun v => (v.site, v.scopeLabel, v.denominatorType)).Nodup := by
    rw [map_rows_of_view h]
    exact nodup_distinctKeys _ _
  have hsub := hnodup.sublist (List.Sublist.map _ (List.filter_sublist :
    (totalRows rows inventory denominatorType).Sublist rows))
  refine List.Nodup.of_map (fun k : SiteKey => (k, some ScopeLabel.total, denominatorType)) ?_
  rw [List.map_map]
  have hcongr : (totalRows rows inventory denominatorType).map
      (fun v => (v.site, v.scopeLabel, v.denominatorType)) =
        (totalRows rows inventory denominatorType).map
          ((fun k : SiteKey => (k, some ScopeLabel.total, denominatorType)) ∘
            IntensityRow.site) := by
    refine List.map_congr_left fun v hv => ?_
    obtain ⟨-, htotal, htype⟩ := of_decide_eq_true (List.mem_filter.mp hv).2
    rw [htotal, htype]
    rfl
  rwa [← hcongr]

theorem totalIntensity_eq (hscan : ∀ cs, (scan cs).Perm cs)
    (h : mvIntensityMetrics divide scan t references = some rows)
    (hD : CompanyWide references tenantId anno denominatorType denominator) :
    totalIntensity rows (tenantId, anno, gwpSet) denominatorType =
      ((inventorySites t (tenantId, anno, gwpSet)).map fun k =>
        roundHalfUp 8 (divide (siteTotal t k) denominator)).sum :=
  sum_map_eq_of_keys (nodup_sites_totalRows h _ _)
    ((nodup_distinctKeys _ _).filter _) (mem_sites_totalRows hscan h hD)
    fun _ hv => intensityValue_totalRow hscan h hD hv

end View

/-! ## What the service leaves out -/

/-- The rows of another stream, and those of the other variant of Scope 2. -/
def EmissionRow.LeftOut (stream : RegulatoryStream) (variant : String) (r : EmissionRow) : Prop :=
  r.regulatoryStream ≠ stream ∨ r.scope = .two ∧ r.subScope.label ≠ variant

instance (stream : RegulatoryStream) (variant : String) (r : EmissionRow) :
    Decidable (r.LeftOut stream variant) :=
  inferInstanceAs (Decidable (_ ∨ _ ∧ _))

/-- The tonnes of an inventory that the numerator of a stream and variant does not have. -/
def leftOut (t : EmissionsTable) (inventory : Uuid × ℕ × GwpSet) (stream : RegulatoryStream)
    (variant : String) : ℚ :=
  sumOf ((activeEmissions t).filter fun r =>
    r.siteKey.inventory = inventory ∧ r.LeftOut stream variant)

/-- The tonnes of an inventory lost to the rounding of its sites' ratios. -/
def roundingLoss (divide : ℚ → ℚ → ℚ) (t : EmissionsTable) (inventory : Uuid × ℕ × GwpSet)
    (denominator : ℚ) : ℚ :=
  ((inventorySites t inventory).map fun k => siteTotal t k -
    roundHalfUp 8 (divide (siteTotal t k) denominator) * denominator).sum

/-- The records are those of the active rows of a tenant. -/
def RecordsOf (t : EmissionsTable) (tenantId : Uuid) (records : List EmissionRecord) : Prop :=
  (records.map EmissionRecord.figures).Perm
    (((activeEmissions t).filter fun r => r.tenantId = tenantId).map EmissionRow.figures)

theorem numerator_of_rows {t : EmissionsTable} {tenantId : Uuid} {records : List EmissionRecord}
    (h : RecordsOf t tenantId records) (gwpSet : GwpSet) (stream : RegulatoryStream) (anno : ℕ)
    (variant : String) : sumTotal (emList gwpSet stream records) anno variant =
      sumOf ((activeEmissions t).filter fun r =>
        r.siteKey.inventory = (tenantId, anno, gwpSet) ∧ ¬ r.LeftOut stream variant) := by
  have hfilter : (emList gwpSet stream records).map EmissionRecord.figures =
      (records.map EmissionRecord.figures).filter fun f =>
        f.gwpSet = gwpSet ∧ f.regulatoryStream = stream := by
    rw [List.filter_map]
    rfl
  rw [sumTotal_eq, hfilter, ((h.filter _).map _).sum_eq, List.filter_map, List.map_map]
  refine (sum_map_filter (fun r : EmissionRow => r.gwpSet = gwpSet ∧ r.regulatoryStream = stream)
    (fun r => r.figures.contribution anno variant) _).trans ?_
  rw [sum_map_filter, sumOf_filter]
  refine congrArg List.sum (List.map_congr_left fun r _ => ?_)
  simp only [EmissionRow.siteKey, SiteKey.inventory, Prod.mk.injEq, EmissionRow.LeftOut,
    Figures.contribution, EmissionRow.figures]
  by_cases htenant : r.tenantId = tenantId
  · by_cases hset : r.gwpSet = gwpSet
    · by_cases hstream : r.regulatoryStream = stream
      · by_cases hanno : r.anno = anno
        · by_cases hvariant : r.scope = .two ∧ r.subScope.label ≠ variant
          · simp [htenant, hset, hstream, hanno, hvariant]
          · simp [htenant, hset, hstream, hanno, hvariant]
        · simp [hanno]
      · simp [hstream]
    · simp [hset]
  · simp [htenant]

theorem sum_siteTotal {t : EmissionsTable} {tenantId : Uuid} {records : List EmissionRecord}
    (h : RecordsOf t tenantId records) (gwpSet : GwpSet) (stream : RegulatoryStream) (anno : ℕ)
    (variant : String) : ((inventorySites t (tenantId, anno, gwpSet)).map (siteTotal t)).sum =
      leftOut t (tenantId, anno, gwpSet) stream variant +
        sumTotal (emList gwpSet stream records) anno variant := by
  rw [numerator_of_rows h]
  exact (sum_filter_groups EmissionRow.siteKey EmissionRow.tco2e (activeEmissions t) fun k =>
    k.inventory = (tenantId, anno, gwpSet)).trans (sum_filter_add _ _ _ _)

/-- The total rows, multiplied by the denominator, are the numerator of one variant. -/
def ViewGivesNumerator (rows : List IntensityRow) (metrics : List IntensityMetric)
    (inventory : Uuid × ℕ × GwpSet) (denominatorType : DenominatorType) (denominator : ℚ) : Prop :=
  ∃ m ∈ metrics, m.anno = inventory.2.1 ∧
    m.numeratorTco2e = totalIntensity rows inventory denominatorType * denominator

section Refinement

variable {divide : ℚ → ℚ → ℚ}
  {scan : List (ScopeTotal × IntensityReference) → List (ScopeTotal × IntensityReference)}
  {t : EmissionsTable} {references : List IntensityReference} {rows : List IntensityRow}
  {tenantId : Uuid} {anno : ℕ} {gwpSet : GwpSet} {denominatorType : DenominatorType}
  {denominator : ℚ} {ctx : RunContext} {records : List EmissionRecord}
  {inputs : List IntensityReferenceInputs} {metrics : List IntensityMetric}

theorem viewGivesNumerator_iff (hscan : ∀ cs, (scan cs).Perm cs)
    (hview : mvIntensityMetrics divide scan t references = some rows)
    (hD : CompanyWide references tenantId anno denominatorType denominator)
    (hrecords : RecordsOf t tenantId records)
    (hservice : computeIntensities records inputs ctx gwpSet = .ok metrics)
    (hyear : ∃ i ∈ inputs, i.anno = anno) :
    ViewGivesNumerator rows metrics (tenantId, anno, gwpSet) denominatorType denominator ↔
      ∃ variant ∈ scope2Variants,
        leftOut t (tenantId, anno, gwpSet) ctx.regulatoryStream variant =
          roundingLoss divide t (tenantId, anno, gwpSet) denominator := by
  have hloss : roundingLoss divide t (tenantId, anno, gwpSet) denominator +
      totalIntensity rows (tenantId, anno, gwpSet) denominatorType * denominator =
        ((inventorySites t (tenantId, anno, gwpSet)).map (siteTotal t)).sum := by
    rw [totalIntensity_eq hscan hview hD, ← List.sum_map_mul_right, roundingLoss,
      ← List.sum_map_add]
    exact congrArg List.sum (List.map_congr_left fun k _ => sub_add_cancel _ _)
  unfold ViewGivesNumerator
  rw [numerators_of_year hservice hyear]
  refine exists_congr fun variant => and_congr_right fun _ => ?_
  have hsum := sum_siteTotal hrecords gwpSet ctx.regulatoryStream anno variant
  rw [← hloss] at hsum
  constructor
  · intro h
    linarith
  · intro h
    linarith

theorem leftOut_eq_zero_iff (t : EmissionsTable) (inventory : Uuid × ℕ × GwpSet)
    (stream : RegulatoryStream) (variant : String) :
    leftOut t inventory stream variant = 0 ↔ ∀ r ∈ activeEmissions t,
      r.siteKey.inventory = inventory → r.LeftOut stream variant → r.tco2e = 0 := by
  have hnonneg : ∀ r ∈ activeEmissions t, 0 ≤ r.tco2e := fun r hr =>
    (t.checks r (List.mem_of_mem_filter hr)).2.1
  simp only [leftOut, sumOf_filter_eq_zero hnonneg, and_imp]

end Refinement

/-- The total rows give the numerator of one variant exactly when what its numerator leaves out is
what rounding loses: with nothing lost, when all the rows left out are zero. -/
theorem total_rows_give_numerator_iff (divide : ℚ → ℚ → ℚ)
    (scan : List (ScopeTotal × IntensityReference) → List (ScopeTotal × IntensityReference))
    (t : EmissionsTable) (references : List IntensityReference) (rows : List IntensityRow)
    (tenantId : Uuid) (anno : ℕ) (gwpSet : GwpSet) (denominatorType : DenominatorType)
    (denominator : ℚ) (ctx : RunContext) (records : List EmissionRecord)
    (inputs : List IntensityReferenceInputs) (metrics : List IntensityMetric)
    (hscan : ∀ cs, (scan cs).Perm cs)
    (hview : mvIntensityMetrics divide scan t references = some rows)
    (hD : CompanyWide references tenantId anno denominatorType denominator)
    (hrecords : RecordsOf t tenantId records)
    (hservice : computeIntensities records inputs ctx gwpSet = .ok metrics)
    (hyear : ∃ i ∈ inputs, i.anno = anno) :
    (ViewGivesNumerator rows metrics (tenantId, anno, gwpSet) denominatorType denominator ↔
      ∃ variant ∈ scope2Variants,
        leftOut t (tenantId, anno, gwpSet) ctx.regulatoryStream variant =
          roundingLoss divide t (tenantId, anno, gwpSet) denominator) ∧
    (roundingLoss divide t (tenantId, anno, gwpSet) denominator = 0 →
      (ViewGivesNumerator rows metrics (tenantId, anno, gwpSet) denominatorType denominator ↔
        ∃ variant ∈ scope2Variants, ∀ r ∈ activeEmissions t,
          r.siteKey.inventory = (tenantId, anno, gwpSet) →
            r.LeftOut ctx.regulatoryStream variant → r.tco2e = 0)) := by
  have hiff := viewGivesNumerator_iff hscan hview hD hrecords hservice hyear
  refine ⟨hiff, fun hzero => ?_⟩
  simp only [hiff, hzero, leftOut_eq_zero_iff]

def inputs2024 : IntensityReferenceInputs :=
  ⟨2024, 1000, 10, 100, ⟨2025, 1, 31⟩⟩

def revenueReference : IntensityReference where
  tenantId := 1
  codiceSito := none
  anno := 2024
  denominatorType := .eurRevenue
  denominatorValue := inputs2024.revenueMeur
  denominatorUnit := "M EUR"
  hrConfirmationDate := none
  denominator_pos := by decide
  chk_fte_requires_hr_date := by decide

theorem companyWide_revenue : CompanyWide [revenueReference] 1 2024 .eurRevenue 10 where
  given := ⟨revenueReference, by simp, rfl, rfl, rfl⟩
  unique := by
    intro r hr _ _ _
    rw [List.mem_singleton.mp hr]
    exact ⟨rfl, rfl⟩

def intensityContext : RunContext :=
  ⟨.drawn 1, "intensity_service", .csrdEsrsE1, 0⟩

theorem total_rows_give_numerator_iff_grid :
    ∃ rows metrics, mvIntensityMetrics (· / ·) id gridTable [revenueReference] = some rows ∧
      computeIntensities [gridRecord] [inputs2024] intensityContext .ar6 = .ok metrics ∧
      (ViewGivesNumerator rows metrics (1, 2024, .ar6) .eurRevenue 10 ↔
        ∃ variant ∈ scope2Variants, leftOut gridTable (1, 2024, .ar6) .csrdEsrsE1 variant =
          roundingLoss (· / ·) gridTable (1, 2024, .ar6) 10) := by
  obtain ⟨rows, hrows⟩ := Option.isSome_iff_exists.mp (by decide +kernel :
    (mvIntensityMetrics (· / ·) id gridTable [revenueReference]).isSome)
  obtain ⟨metrics, hmetrics⟩ := exists_ok_of_toBool (by decide +kernel :
    (computeIntensities [gridRecord] [inputs2024] intensityContext .ar6).toBool = true)
  exact ⟨rows, metrics, hrows, hmetrics,
    (total_rows_give_numerator_iff (· / ·) id gridTable [revenueReference] rows 1 2024 .ar6
      .eurRevenue 10 intensityContext [gridRecord] [inputs2024] metrics (fun _ => .refl _) hrows
      companyWide_revenue (.of_eq rfl) hmetrics ⟨inputs2024, by simp, rfl⟩).1⟩

/-! ## A year with both variants -/

def marketRow : EmissionRow :=
  { gridRow with id := 2, subScope := .mb, methodology := .marketBased, rawRowId := 2 }

/-- Ten location-based and ten market-based tonnes of one site. -/
def bothVariantsTable : EmissionsTable where
  rows := [gridRow, marketRow]
  checks := by simp [EmissionRow.Checks, gridRow, marketRow]
  pk := by simp [gridRow, marketRow]
  naturalKey := by
    simp [EmissionRow.NaturalKeyClash, EmissionRow.naturalKey, gridRow, marketRow]
  exclusion := by simp [EmissionRow.TemporalClash, gridRow, marketRow]
  supersededFk := by simp [gridRow, marketRow]

def marketRecord : EmissionRecord :=
  { gridRecord with
    subScope := .mb, methodology := .marketBased, rawRowId := some 2, subScope_allowed := by decide }

/-- The view counts the electricity twice. -/
theorem both_variants_counted :
    ∃ rows metrics, mvIntensityMetrics (· / ·) id bothVariantsTable [revenueReference] =
        some rows ∧
      CompanyWide [revenueReference] 1 2024 .eurRevenue 10 ∧
      RecordsOf bothVariantsTable 1 [gridRecord, marketRecord] ∧
      computeIntensities [gridRecord, marketRecord] [inputs2024] intensityContext .ar6 =
        .ok metrics ∧
      totalIntensity rows (1, 2024, .ar6) .eurRevenue * 10 = 20 ∧
      (∀ m ∈ metrics, m.numeratorTco2e = 10) ∧
      ¬ ViewGivesNumerator rows metrics (1, 2024, .ar6) .eurRevenue 10 := by
  have htotal : (mvIntensityMetrics (· / ·) id bothVariantsTable [revenueReference]).map
      (totalIntensity · (1, 2024, .ar6) .eurRevenue) = some 2 := by decide +kernel
  have hnumerators : (computeIntensities [gridRecord, marketRecord] [inputs2024] intensityContext
      .ar6).toOption.map (List.map IntensityMetric.numeratorTco2e) =
        some (List.replicate 6 10) := by decide +kernel
  obtain ⟨rows, hrows, hsum⟩ := Option.map_eq_some_iff.mp htotal
  obtain ⟨metrics, hmetrics, htens⟩ := Option.map_eq_some_iff.mp hnumerators
  have hten : ∀ m ∈ metrics, m.numeratorTco2e = 10 := by
    intro m hm
    have hmem := List.mem_map_of_mem (f := IntensityMetric.numeratorTco2e) hm
    rw [htens] at hmem
    exact List.eq_of_mem_replicate hmem
  refine ⟨rows, metrics, hrows, companyWide_revenue, .of_eq rfl, toOption_eq_some_iff.mp hmetrics,
    by rw [hsum]; norm_num, hten, ?_⟩
  rintro ⟨m, hm, -, hnumerator⟩
  rw [hten m hm, hsum] at hnumerator
  norm_num at hnumerator

end GhgTool
