import GhgTool.Cat3Reconciliation
import GhgTool.DqGates

/-!
# The ingestion pipeline

`runIngestionPipeline` goes from three frames of text to staging rows and findings. A critical
finding blocks it: nothing is staged, and each critical finding goes to the dead-letter queue.
-/

namespace GhgTool

/-- An entry of the dead-letter queue. -/
structure DlqEntry (F : Type) where
  tenantId : Uuid
  correlationId : Uuid
  ruleId : RuleId
  severity : Severity
  scope : Scope
  codiceSito : Option String
  anno : Option ℤ
  combustibileOrVoce : Option String
  rawRowPayload : Finding F
  valueObserved : Option (FindingValue F)
  threshold : String
  zScore : Option F
  message : String

structure ETLResult (F : Type) where
  correlationId : Uuid
  scope1RowCount : ℕ
  scope2RowCount : ℕ
  scope3RowCount : ℕ
  allFindings : List (Finding F)
  dlqEntries : List (DlqEntry F)
  pipelineBlocked : Bool
  scope1Rows : List (Staged Scope1Body)
  scope2Rows : List (Staged Scope2Body)
  scope3Rows : List (Staged Scope3Body)

section Pipeline

variable {F : Type} (rt : Runtime F)

/-- `setdefault("dq_report_version", ..)`. -/
def Finding.tag (version : String) (f : Finding F) : Finding F :=
  { f with dqReportVersion := some (f.dqReportVersion.getD version) }

def tagFindings (findings : List (Finding F)) (version : String) : List (Finding F) :=
  findings.map (Finding.tag version)

/-- `str(f.get("value_reference", ""))`. -/
def thresholdText : Option (FindingValue F) → String
  | none => ""
  | some (.count n) => toString n
  | some (.float x) => rt.str x

def dlqEntry (ctx : ImportContext) (f : Finding F) : DlqEntry F where
  tenantId := ctx.tenantId
  correlationId := ctx.batchId
  ruleId := f.ruleId
  severity := .crit
  scope := f.scope
  codiceSito := f.codiceSito
  anno := f.anno
  combustibileOrVoce := f.metric
  rawRowPayload := f
  valueObserved := f.valueObserved
  threshold := thresholdText rt f.valueReference
  zScore := f.zScore
  message := f.triggerDesc

def findingsToDlq (ctx : ImportContext) (findings : List (Finding F)) : List (DlqEntry F) :=
  (findings.filter fun f => f.severity = .crit).map (dlqEntry rt ctx)

/-- The typed frames, after the transforms and the schemas, and what the transforms logged. -/
structure Prepared where
  df1 : List (Scope1Row rt)
  df2 : List (Scope2Row rt)
  df3 : List (Scope3Row rt)
  findings : List (Finding F)

/-- Steps 1 to 5. -/
def prepare (raw1 : List Scope1Raw) (raw2 : List Scope2Raw) (raw3 : List Scope3Raw) :
    Except EtlError (Prepared rt) := do
  let (df1, f1) := synthesiseVianoGargolaGasNat2024 F raw1
  let (df2, f2) := synthesiseSassuoloGrid2025 F raw2
  let (df3, f37) ← applyFr37Cat3MetadataDefaulting rt raw3
  let df1 ← Option.elim (validate (Scope1Raw.check rt) df1) (.error .schemaErrors) .ok
  let df2 ← Option.elim (validate (Scope2Raw.check rt) df2) (.error .schemaErrors) .ok
  let df3 ← Option.elim (validate (Scope3Raw.check rt) df3) (.error .schemaErrors) .ok
  return { df1, df2, df3, findings := f1 ++ f2 ++ f37 }

variable {rt}

/-- The gates of `_run_crit_checks`. -/
def critChecks (p : Prepared rt) : List (GateResult F) :=
  [checkFacilityCoverage rt p.df1 p.df2,
    checkMandatoryColumns rt Scope1Row.view (scope1Cols rt) p.df1 .one,
    checkMandatoryColumns rt Scope2Row.view (scope2Cols rt) p.df2 .two,
    checkMandatoryColumns rt Scope3Row.view (scope3Cols rt) p.df3 .three,
    checkNegativeQuantities rt (p.df1.map Scope1Row.view) .one,
    checkNegativeQuantities rt (p.df2.map Scope2Row.view) .two,
    checkNegativeQuantities rt (p.df3.map Scope3Row.view) .three,
    checkOutlierZscore rt "Combustibile" (p.df1.map Scope1Row.view) .one,
    checkTemporalGap rt p.df1 p.df2]

/-- What the loop over the gates has collected. -/
structure CritChecks (F : Type) where
  allPassed : Bool
  findings : List (Finding F)
  dlqEntries : List (DlqEntry F)

variable (rt)

def critStep (ctx : ImportContext) (version : String) (s : CritChecks F) (g : GateResult F) :
    CritChecks F :=
  let tagged := tagFindings g.findings version
  { allPassed := if g.passes then s.allPassed else false
    findings := s.findings ++ tagged
    dlqEntries := if g.passes then s.dlqEntries else s.dlqEntries ++ findingsToDlq rt ctx tagged }

def runCritChecks (ctx : ImportContext) (version : String) (p : Prepared rt) : CritChecks F :=
  (critChecks p).foldl (critStep rt ctx version) ⟨true, [], []⟩

/-- The findings of `_run_warn_checks`, not yet tagged. -/
def warnFindings (p : Prepared rt) : List (Finding F) :=
  (checkWarn01VianoElectricity rt p.df2).findings ++
    (checkWarn02EstimatedQuality (p.df1.map Scope1Row.view) .one).findings ++
    (checkWarn02EstimatedQuality (p.df2.map Scope2Row.view) .two).findings

def runWarnChecks (version : String) (p : Prepared rt) : List (Finding F) :=
  tagFindings (warnFindings rt p) version

/-- Steps 6 to 9. -/
def finish (ctx : ImportContext) (version : String) (p : Prepared rt) : ETLResult F :=
  let crit := runCritChecks rt ctx version p
  let scope1Rows := if crit.allPassed then buildScope1Rows rt ctx p.df1 else []
  let scope2Rows := if crit.allPassed then buildScope2Rows rt ctx p.df2 else []
  let scope3Rows := if crit.allPassed then buildScope3Rows rt ctx p.df3 else []
  let reconciliation := if crit.allPassed then computeCat3Reconciliation rt p.df1 p.df3 else []
  { correlationId := ctx.batchId
    scope1RowCount := scope1Rows.length
    scope2RowCount := scope2Rows.length
    scope3RowCount := scope3Rows.length
    allFindings := tagFindings p.findings version ++ crit.findings ++ runWarnChecks rt version p ++
      tagFindings reconciliation version
    dlqEntries := crit.dlqEntries
    pipelineBlocked := !crit.allPassed
    scope1Rows := scope1Rows
    scope2Rows := scope2Rows
    scope3Rows := scope3Rows }

def runIngestionPipeline (ctx : ImportContext) (version : String) (raw1 : List Scope1Raw)
    (raw2 : List Scope2Raw) (raw3 : List Scope3Raw) : Except EtlError (ETLResult F) := do
  let p ← prepare rt raw1 raw2 raw3
  return finish rt ctx version p

/-! ## What the loop over the gates collects -/

variable {rt} {ctx : ImportContext} {version : String}

/-- All findings of the gates, in order. -/
def gateFindings (gs : List (GateResult F)) : List (Finding F) :=
  gs.flatMap GateResult.findings

theorem findingsToDlq_of_crit {findings : List (Finding F)}
    (h : ∀ f ∈ findings, f.severity = .crit) :
    findingsToDlq rt ctx (tagFindings findings version) =
      (tagFindings findings version).map (dlqEntry rt ctx) := by
  rw [findingsToDlq, List.filter_eq_self.mpr]
  intro f hf
  obtain ⟨g, hg, rfl⟩ := List.mem_map.mp hf
  exact decide_eq_true (h g hg)

/-- One turn of the loop: a gate adds its findings, and each of them to the queue. -/
theorem critStep_of_blocking {g : GateResult F} (hg : Blocking g) (s : CritChecks F) :
    critStep rt ctx version s g =
      ⟨s.allPassed && g.findings.isEmpty, s.findings ++ tagFindings g.findings version,
        s.dlqEntries ++ (tagFindings g.findings version).map (dlqEntry rt ctx)⟩ := by
  unfold critStep
  by_cases hpass : g.passes = true
  · have hnone := hg.passes_iff.mp hpass
    simp [hpass, hnone, tagFindings]
  · have hsome : g.findings.isEmpty = false := by
      rw [List.isEmpty_eq_false_iff]
      exact fun hnone => hpass (hg.passes_iff.mpr hnone)
    simp [hpass, hsome, findingsToDlq_of_crit hg.crit]

theorem foldl_critStep {gs : List (GateResult F)} (hgs : ∀ g ∈ gs, Blocking g)
    (s : CritChecks F) :
    gs.foldl (critStep rt ctx version) s =
      ⟨s.allPassed && (gateFindings gs).isEmpty, s.findings ++ tagFindings (gateFindings gs) version,
        s.dlqEntries ++ (tagFindings (gateFindings gs) version).map (dlqEntry rt ctx)⟩ := by
  induction gs generalizing s with
  | nil => simp [gateFindings, tagFindings]
  | cons g gs ih =>
      rw [List.foldl_cons, critStep_of_blocking (hgs g (by simp)),
        ih fun g' hg' => hgs g' (by simp [hg'])]
      have hempty : (gateFindings (g :: gs)).isEmpty =
          (g.findings.isEmpty && (gateFindings gs).isEmpty) := by
        rw [gateFindings, List.flatMap_cons]
        cases g.findings <;> rfl
      rw [hempty]
      simp only [gateFindings, tagFindings, List.flatMap_cons, List.map_append, List.append_assoc,
        Bool.and_assoc]

theorem blocking_critChecks (p : Prepared rt) : ∀ g ∈ critChecks p, Blocking g := by
  intro g hg
  simp only [critChecks, List.mem_cons, List.not_mem_nil, or_false] at hg
  rcases hg with rfl | rfl | rfl | rfl | rfl | rfl | rfl | rfl | rfl
  · exact blocking_facilityCoverage _ _
  · exact blocking_mandatoryColumns _ _ _ _
  · exact blocking_mandatoryColumns _ _ _ _
  · exact blocking_mandatoryColumns _ _ _ _
  · exact blocking_negativeQuantities _ _
  · exact blocking_negativeQuantities _ _
  · exact blocking_negativeQuantities _ _
  · exact blocking_outlierZscore _ _ _
  · exact blocking_temporalGap _ _

theorem runCritChecks_eq (p : Prepared rt) :
    runCritChecks rt ctx version p =
      ⟨(gateFindings (critChecks p)).isEmpty, tagFindings (gateFindings (critChecks p)) version,
        (tagFindings (gateFindings (critChecks p)) version).map (dlqEntry rt ctx)⟩ := by
  rw [runCritChecks, foldl_critStep (blocking_critChecks p), Bool.true_and, List.nil_append,
    List.nil_append]

theorem crit_gateFindings {gs : List (GateResult F)} (hgs : ∀ g ∈ gs, Blocking g) :
    ∀ f ∈ gateFindings gs, f.severity = .crit := by
  intro f hf
  obtain ⟨g, hg, hfg⟩ := List.mem_flatMap.mp hf
  exact (hgs g hg).crit f hfg

/-! ## The other stages -/

theorem info_synthesise {ρ : Type} {mask : ρ → Prop} [DecidablePred mask] {widen : ρ → ρ} {row : ρ}
    {finding : Finding F} (h : finding.severity = .info) (df : List ρ) :
    ∀ f ∈ (synthesise mask widen row finding df).2, f.severity = .info := by
  intro f hf
  unfold synthesise at hf
  split at hf
  · cases hf
  · rw [List.mem_singleton.mp hf]
    exact h

theorem info_fr37 {raw3 : List Scope3Raw} {out : List Scope3Raw × List (Finding F)}
    (h : applyFr37Cat3MetadataDefaulting rt raw3 = .ok out) :
    ∀ f ∈ out.2, f.severity = .info := by
  unfold applyFr37Cat3MetadataDefaulting at h
  rw [bind_eq_ok] at h
  obtain ⟨findings, hfindings, h⟩ := h
  cases h
  refine mapM_ok_forall (fun r f hf => ?_) hfindings
  rw [bind_eq_ok] at hf
  obtain ⟨anno, -, hf⟩ := hf
  cases hf
  rfl

theorem length_fr37 {raw3 : List Scope3Raw} {out : List Scope3Raw × List (Finding F)}
    (h : applyFr37Cat3MetadataDefaulting rt raw3 = .ok out) : out.1.length = raw3.length := by
  unfold applyFr37Cat3MetadataDefaulting at h
  rw [bind_eq_ok] at h
  obtain ⟨findings, -, h⟩ := h
  cases h
  exact List.length_map _

theorem elim_eq_ok {τ : Type} {x : Option τ} {a : τ} :
    Option.elim x (.error EtlError.schemaErrors) Except.ok = .ok a ↔ x = some a := by
  cases x with
  | none => simp
  | some b => simp

/-- What the preparation gives: the schemas accept the transformed frames. -/
theorem prepare_eq_ok {raw1 : List Scope1Raw} {raw2 : List Scope2Raw} {raw3 : List Scope3Raw}
    {p : Prepared rt} (h : prepare rt raw1 raw2 raw3 = .ok p) :
    ∃ out3, applyFr37Cat3MetadataDefaulting rt raw3 = .ok out3 ∧
      validate (Scope1Raw.check rt) (synthesiseVianoGargolaGasNat2024 F raw1).1 = some p.df1 ∧
      validate (Scope2Raw.check rt) (synthesiseSassuoloGrid2025 F raw2).1 = some p.df2 ∧
      validate (Scope3Raw.check rt) out3.1 = some p.df3 ∧
      p.findings = (synthesiseVianoGargolaGasNat2024 F raw1).2 ++
        (synthesiseSassuoloGrid2025 F raw2).2 ++ out3.2 := by
  unfold prepare at h
  rw [bind_eq_ok] at h
  obtain ⟨out3, hout3, h⟩ := h
  rw [bind_eq_ok] at h
  obtain ⟨df1, h1, h⟩ := h
  rw [bind_eq_ok] at h
  obtain ⟨df2, h2, h⟩ := h
  rw [bind_eq_ok] at h
  obtain ⟨df3, h3, h⟩ := h
  cases h
  exact ⟨out3, hout3, elim_eq_ok.mp h1, elim_eq_ok.mp h2, elim_eq_ok.mp h3, rfl⟩

theorem info_prepare {raw1 : List Scope1Raw} {raw2 : List Scope2Raw} {raw3 : List Scope3Raw}
    {p : Prepared rt} (h : prepare rt raw1 raw2 raw3 = .ok p) :
    ∀ f ∈ p.findings, f.severity = .info := by
  obtain ⟨out3, hout3, -, -, -, hfindings⟩ := prepare_eq_ok h
  intro f hf
  rw [hfindings, List.mem_append, List.mem_append] at hf
  rcases hf with (hf | hf) | hf
  · exact info_synthesise rfl raw1 f hf
  · exact info_synthesise rfl raw2 f hf
  · exact info_fr37 hout3 f hf

theorem warn_warnFindings (p : Prepared rt) :
    ∀ f ∈ warnFindings rt p, f.severity = .warn := by
  intro f hf
  rw [warnFindings, List.mem_append, List.mem_append] at hf
  rcases hf with (hf | hf) | hf
  · exact warn_vianoElectricity _ f hf
  · exact warn_estimatedQuality _ _ f hf
  · exact warn_estimatedQuality _ _ f hf

theorem not_crit_reconciliation (df1 : List (Scope1Row rt)) (df3 : List (Scope3Row rt)) :
    ∀ f ∈ computeCat3Reconciliation rt df1 df3, f.severity ≠ .crit := by
  intro f hf
  obtain ⟨w, -, hf⟩ := List.mem_flatMap.mp hf
  unfold reconcileRow at hf
  dsimp only at hf
  rcases List.mem_cons.mp hf with rfl | hf
  · exact Severity.noConfusion
  · split at hf
    · rw [List.mem_singleton.mp hf]
      exact Severity.noConfusion
    · cases hf

/-! ## Critical findings block -/

/-- All findings of a run in the order of the stages, before they are tagged. -/
def stageFindings (p : Prepared rt) : List (Finding F) :=
  p.findings ++ gateFindings (critChecks p) ++ warnFindings rt p ++
    if (gateFindings (critChecks p)).isEmpty then computeCat3Reconciliation rt p.df1 p.df3 else []

theorem allFindings_finish (p : Prepared rt) :
    (finish rt ctx version p).allFindings = tagFindings (stageFindings p) version := by
  unfold finish
  dsimp only
  rw [runCritChecks_eq]
  simp only [stageFindings, runWarnChecks, tagFindings, List.map_append]

theorem blocked_finish (p : Prepared rt) :
    (finish rt ctx version p).pipelineBlocked = true ↔ gateFindings (critChecks p) ≠ [] := by
  unfold finish
  dsimp only
  rw [runCritChecks_eq, Bool.not_eq_true', List.isEmpty_eq_false_iff]

theorem dlqEntries_finish (p : Prepared rt) :
    (finish rt ctx version p).dlqEntries =
      (tagFindings (gateFindings (critChecks p)) version).map (dlqEntry rt ctx) := by
  unfold finish
  dsimp only
  rw [runCritChecks_eq]

variable (version) in
/-- Among the findings of all stages the critical ones are those of the gates. -/
theorem crit_stageFindings {p : Prepared rt} (hinfo : ∀ f ∈ p.findings, f.severity = .info) :
    (tagFindings (stageFindings p) version).filter (fun f => f.severity = .crit) =
      tagFindings (gateFindings (critChecks p)) version := by
  have hnone : ∀ fs : List (Finding F), (∀ f ∈ fs, f.severity ≠ .crit) →
      (tagFindings fs version).filter (fun f => f.severity = .crit) = [] := by
    intro fs hfs
    rw [List.filter_eq_nil_iff]
    intro f hf
    obtain ⟨g, hg, rfl⟩ := List.mem_map.mp hf
    rw [decide_eq_true_eq]
    exact hfs g hg
  have hgates : (tagFindings (gateFindings (critChecks p)) version).filter
      (fun f => f.severity = .crit) = tagFindings (gateFindings (critChecks p)) version := by
    rw [List.filter_eq_self]
    intro f hf
    obtain ⟨g, hg, rfl⟩ := List.mem_map.mp hf
    exact decide_eq_true (crit_gateFindings (blocking_critChecks p) g hg)
  have hrecon : ∀ f ∈ (if (gateFindings (critChecks p)).isEmpty then
      computeCat3Reconciliation rt p.df1 p.df3 else []), f.severity ≠ .crit := by
    intro f hf
    split at hf
    · exact not_crit_reconciliation _ _ f hf
    · cases hf
  have happend : tagFindings (stageFindings p) version = tagFindings p.findings version ++
      tagFindings (gateFindings (critChecks p)) version ++
      tagFindings (warnFindings rt p) version ++ tagFindings (if (gateFindings (critChecks p)).isEmpty
        then computeCat3Reconciliation rt p.df1 p.df3 else []) version := by
    simp only [stageFindings, tagFindings, List.map_append]
  rw [happend, List.filter_append, List.filter_append, List.filter_append, hgates,
    hnone _ fun f hf => by rw [hinfo f hf]; exact Severity.noConfusion,
    hnone _ fun f hf => by rw [warn_warnFindings p f hf]; exact Severity.noConfusion,
    hnone _ hrecon, List.nil_append, List.append_nil, List.append_nil]

variable (version) in
/-- What a returned result says about the run: the critical findings alone decide whether anything
is staged. -/
structure BlocksAtomically (raw1 : List Scope1Raw) (raw2 : List Scope2Raw)
    (raw3 : List Scope3Raw) (p : Prepared rt) (result : ETLResult F) : Prop where
  blocked_iff : result.pipelineBlocked = true ↔ ∃ f ∈ result.allFindings, f.severity = .crit
  nothing_staged : result.pipelineBlocked = true →
    result.scope1Rows = [] ∧ result.scope2Rows = [] ∧ result.scope3Rows = [] ∧
      result.scope1RowCount = 0 ∧ result.scope2RowCount = 0 ∧ result.scope3RowCount = 0
  dead_letters : result.pipelineBlocked = true → List.Forall₂
    (fun (f : Finding F) (e : DlqEntry F) => e.ruleId = f.ruleId ∧ e.scope = f.scope ∧
      e.codiceSito = f.codiceSito ∧ e.anno = f.anno ∧ e.rawRowPayload = f)
    (result.allFindings.filter fun f => f.severity = .crit) result.dlqEntries
  no_dead_letters : result.pipelineBlocked = false → result.dlqEntries = []
  all_staged : result.pipelineBlocked = false →
    result.scope1Rows.map Staged.body = p.df1.map (scope1Body rt) ∧
      result.scope2Rows.map Staged.body = p.df2.map (scope2Body rt) ∧
      result.scope3Rows.map Staged.body = p.df3.map (scope3Body rt)
  counts : result.pipelineBlocked = false →
    result.scope1RowCount = (synthesiseVianoGargolaGasNat2024 F raw1).1.length ∧
      result.scope2RowCount = (synthesiseSassuoloGrid2025 F raw2).1.length ∧
      result.scope3RowCount = raw3.length
  findings : result.allFindings = tagFindings
    (p.findings ++ gateFindings (critChecks p) ++ warnFindings rt p ++
      if result.pipelineBlocked then [] else computeCat3Reconciliation rt p.df1 p.df3) version
  tagged : ∀ f ∈ result.allFindings, ∃ v, f.dqReportVersion = some v

variable (ctx) in
theorem map_body_buildRows {ρ β : Type} (body : ρ → β) (key : ρ → String) (df : List ρ) :
    (buildRows body key ctx df).map Staged.body = df.map body := by
  rw [buildRows, List.map_map]
  conv_rhs => rw [← List.zipIdx_map_fst 0 df, List.map_map]
  rfl

theorem finish_of_blocked {p : Prepared rt} (h : gateFindings (critChecks p) ≠ []) :
    (finish rt ctx version p).scope1Rows = [] ∧ (finish rt ctx version p).scope2Rows = [] ∧
      (finish rt ctx version p).scope3Rows = [] := by
  have hsome : (gateFindings (critChecks p)).isEmpty = false := List.isEmpty_eq_false_iff.mpr h
  unfold finish
  dsimp only
  rw [runCritChecks_eq, hsome]
  exact ⟨rfl, rfl, rfl⟩

variable (ctx version) in
theorem finish_of_clean {p : Prepared rt} (h : gateFindings (critChecks p) = []) :
    (finish rt ctx version p).scope1Rows = buildScope1Rows rt ctx p.df1 ∧
      (finish rt ctx version p).scope2Rows = buildScope2Rows rt ctx p.df2 ∧
      (finish rt ctx version p).scope3Rows = buildScope3Rows rt ctx p.df3 := by
  unfold finish
  dsimp only
  rw [runCritChecks_eq, h]
  exact ⟨rfl, rfl, rfl⟩

end Pipeline

/-- The finding that fails a gate is critical, and nothing else is. -/
theorem blocked_iff_crit {ctx : ImportContext} {version : String} {raw1 : List Scope1Raw}
    {raw2 : List Scope2Raw} {raw3 : List Scope3Raw} {p : Prepared rt}
    (hp : prepare rt raw1 raw2 raw3 = .ok p) :
    (finish rt ctx version p).pipelineBlocked = true ↔
      ∃ f ∈ (finish rt ctx version p).allFindings, f.severity = .crit := by
  have hcrit := crit_stageFindings version (info_prepare hp)
  rw [blocked_finish, allFindings_finish]
  constructor
  · intro hsome
    obtain ⟨f, hf⟩ := List.exists_mem_of_ne_nil _ hsome
    have htagged : f.tag version ∈ tagFindings (gateFindings (critChecks p)) version :=
      List.mem_map_of_mem hf
    rw [← hcrit] at htagged
    obtain ⟨hmem, hsev⟩ := List.mem_filter.mp htagged
    exact ⟨f.tag version, hmem, of_decide_eq_true hsev⟩
  · rintro ⟨f, hf, hsev⟩ hnone
    have hmem : f ∈ (tagFindings (stageFindings p) version).filter
        (fun f => f.severity = .crit) :=
      List.mem_filter.mpr ⟨hf, decide_eq_true hsev⟩
    rw [hcrit, hnone] at hmem
    cases hmem

/-- Whenever the pipeline returns, it is blocked exactly by its critical findings, and then stages
nothing and queues each of them; otherwise it stages every row and logs every stage. -/
theorem crit_findings_block_atomically {F : Type} (rt : Runtime F) (ctx : ImportContext)
    (version : String) (raw1 : List Scope1Raw) (raw2 : List Scope2Raw) (raw3 : List Scope3Raw)
    (result : ETLResult F)
    (h : runIngestionPipeline rt ctx version raw1 raw2 raw3 = .ok result) :
    ∃ p, prepare rt raw1 raw2 raw3 = .ok p ∧
      BlocksAtomically version raw1 raw2 raw3 p result := by
  unfold runIngestionPipeline at h
  rw [bind_eq_ok] at h
  obtain ⟨p, hp, h⟩ := h
  cases h
  obtain ⟨out3, hout3, h1, h2, h3, -⟩ := prepare_eq_ok hp
  have hcrit := crit_stageFindings version (info_prepare hp)
  have hclean : (finish rt ctx version p).pipelineBlocked = false →
      gateFindings (critChecks p) = [] := by
    intro hopen
    by_contra hsome
    rw [(blocked_finish p).mpr hsome] at hopen
    cases hopen
  refine ⟨p, hp, blocked_iff_crit hp, ?_, ?_, ?_, ?_, ?_, ?_, ?_⟩
  · intro hblocked
    obtain ⟨e1, e2, e3⟩ := finish_of_blocked ((blocked_finish p).mp hblocked)
    refine ⟨e1, e2, e3, congrArg List.length e1, congrArg List.length e2, congrArg List.length e3⟩
  · intro _
    rw [allFindings_finish, dlqEntries_finish, hcrit, List.forall₂_map_right_iff, List.forall₂_same]
    intro f _
    exact ⟨rfl, rfl, rfl, rfl, rfl⟩
  · intro hopen
    rw [dlqEntries_finish, hclean hopen]
    rfl
  · intro hopen
    obtain ⟨e1, e2, e3⟩ := finish_of_clean ctx version (hclean hopen)
    rw [e1, e2, e3]
    exact ⟨map_body_buildRows ctx _ _ _, map_body_buildRows ctx _ _ _, map_body_buildRows ctx _ _ _⟩
  · intro hopen
    obtain ⟨e1, e2, e3⟩ := finish_of_clean ctx version (hclean hopen)
    refine ⟨?_, ?_, ?_⟩
    · exact (congrArg List.length e1).trans ((length_buildRows _ _ _ _).trans (length_validate h1))
    · exact (congrArg List.length e2).trans ((length_buildRows _ _ _ _).trans (length_validate h2))
    · rw [← length_fr37 hout3, ← length_validate h3]
      exact (congrArg List.length e3).trans (length_buildRows _ _ _ _)
  · rw [allFindings_finish, stageFindings]
    cases hblocked : (finish rt ctx version p).pipelineBlocked with
    | true =>
        rw [List.isEmpty_eq_false_iff.mpr ((blocked_finish p).mp hblocked)]
        rfl
    | false =>
        rw [hclean hblocked]
        rfl
  · intro f hf
    rw [allFindings_finish] at hf
    obtain ⟨g, -, rfl⟩ := List.mem_map.mp hf
    exact ⟨_, rfl⟩

/-- Gas and certified electricity at each of the seven sites, in one year. -/
def rawGasEverywhere (anno : String) : List Scope1Raw :=
  Sito.valid.map fun site =>
    { scope := some "1", anno := some anno, codiceSito := some site.code,
      categoriaS1 := some "Combustione stazionaria", combustibile := some "GAS_NAT",
      quantita := some "100", unita := some "Sm3", fonteDato := some "Bolletta",
      qualitaDato := some "P", statoDato := some "Definitivo" }

def rawGoEverywhere (anno : String) : List Scope2Raw :=
  Sito.valid.map fun site =>
    { scope := some "2", anno := some anno, codiceSito := some site.code,
      voceS2 := some "EE_Acquistata_GO", quantita := some "100", unita := some "kWh",
      strumentoMb := some "GO", fonteDato := some "Bolletta", qualitaDato := some "P",
      statoDato := some "Definitivo" }

/-- The upstream share of the gas, whose metadata is still blank. -/
def rawWttGas (anno : String) : Scope3Raw where
  scope := some "3"
  anno := some anno
  categoriaS3 := some "3"
  sottocategoria := some "WTT Gas Naturale"
  metodo := some "Activity-based"
  quantita := some "700"
  unita := some "Sm3"
  fonteDato := none
  qualitaDato := none
  statoDato := none

/-- The pipeline on a workbook of a year. -/
def pipelineOf (anno : String) : Except EtlError (ETLResult ℚ) :=
  runIngestionPipeline plainRuntime ⟨1, 1, "import", id⟩ "1.0.0" (rawGasEverywhere anno)
    (rawGoEverywhere anno) [rawWttGas anno]

/-- A workbook of 2024 is staged with the row that is synthesised for SASSUOLO; one of 2025 is blocked
by the row of 2024 that is synthesised for VIANO_GARGOLA. -/
theorem crit_findings_block_atomically_of_years :
    (∃ (result : _) (p : Prepared plainRuntime), pipelineOf "2024" = .ok result ∧
      result.pipelineBlocked = false ∧ result.scope2RowCount = 8 ∧ BlocksAtomically "1.0.0"
        (rawGasEverywhere "2024") (rawGoEverywhere "2024") [rawWttGas "2024"] p result) ∧
    ∃ (result : _) (p : Prepared plainRuntime), pipelineOf "2025" = .ok result ∧
      result.pipelineBlocked = true ∧ result.dlqEntries.length = 12 ∧ BlocksAtomically "1.0.0"
        (rawGasEverywhere "2025") (rawGoEverywhere "2025") [rawWttGas "2025"] p result := by
  have hopen : (pipelineOf "2024").map (fun r => (r.pipelineBlocked, r.scope2RowCount)) =
      .ok (false, 8) := by
    decide +kernel
  have hblocked : (pipelineOf "2025").map (fun r => (r.pipelineBlocked, r.dlqEntries.length)) =
      .ok (true, 12) := by
    decide +kernel
  obtain ⟨result, h, hpair⟩ := map_eq_ok.mp hopen
  obtain ⟨result', h', hpair'⟩ := map_eq_ok.mp hblocked
  obtain ⟨p, -, hatomic⟩ := crit_findings_block_atomically plainRuntime ⟨1, 1, "import", id⟩ "1.0.0"
    _ _ _ result h
  obtain ⟨p', -, hatomic'⟩ := crit_findings_block_atomically plainRuntime ⟨1, 1, "import", id⟩
    "1.0.0" _ _ _ result' h'
  exact ⟨⟨result, p, h, congrArg Prod.fst hpair, congrArg Prod.snd hpair, hatomic⟩,
    result', p', h', congrArg Prod.fst hpair', congrArg Prod.snd hpair', hatomic'⟩

end GhgTool
