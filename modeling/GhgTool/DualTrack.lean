import GhgTool.Persistable

/-!
# Persisting a dual-track pair

Both tracks read the same raw rows, so they fill the same slots. The unique index tells them
apart by stream and GWP set; the exclusion constraint does not, so any record with a site clashes
with its twin of the other track.
-/

namespace GhgTool

open CalcOrchestrator

variable {db : Database} {tenantId : Uuid} {anno : ℕ} {correlationId : CorrelationId}
  {csrdRecords etsRecords : List EmissionRecord}

/-- The inputs on which a dual-track pair can be persisted. -/
structure DualPersistable (db : Database) (tenantId : Uuid) (anno : ℕ) : Prop
    extends Persistable db tenantId anno where
  noScope1 : (loadRawRows db tenantId anno).scope1 = []
  noScope2 : (loadRawRows db tenantId anno).scope2 = []

theorem slotBlocks_tracks :
    slotBlocks (runInputs db (etsTrack tenantId anno correlationId)) =
      slotBlocks (runInputs db (csrdTrack tenantId anno correlationId)) :=
  rfl

section Pair

variable (hcsrd : orchestrate db (csrdTrack tenantId anno correlationId) = .ok csrdRecords)
  (hets : orchestrate db (etsTrack tenantId anno correlationId) = .ok etsRecords)
include hcsrd hets

/-- Across the tracks, two records share a key exactly when they take the same slot at a site. -/
theorem sharesKey_tracks {r s : EmissionRecord} (hr : r ∈ csrdRecords) (hs : s ∈ etsRecords) :
    SharesKey tenantId r s ↔ r.codiceSito.isSome ∧ r.slot = s.slot := by
  have hr' := (shows_orchestrate hcsrd).2 r hr
  have hs' := (shows_orchestrate hets).2 s hs
  constructor
  · rintro (hkey | ⟨hsome, -, hsite, -, hsub, hanno⟩)
    · have hstream := congrArg NaturalKey.regulatoryStream hkey
      simp only [EmissionRow.naturalKey, emissionToParams, hr'.regulatoryStream,
        hs'.regulatoryStream] at hstream
      cases hstream
    · simp only [emissionToParams] at hsome hsite hsub hanno
      exact ⟨hsome, by simp only [EmissionRecord.slot, hsub, hsite, hanno]⟩
  · rintro ⟨hsome, hslot⟩
    simp only [EmissionRecord.slot, Prod.mk.injEq] at hslot
    obtain ⟨hsub, hsite, hanno⟩ := hslot
    exact .inr ⟨hsome, rfl, hsite,
      scope_unique r.subScope_allowed (hsub ▸ s.subScope_allowed), hsub, hanno⟩

/-- The tracks share no key exactly when no slot of the run has a site. -/
theorem tracks_apart :
    (∀ r ∈ csrdRecords, ∀ s ∈ etsRecords, ¬ SharesKey tenantId r s) ↔
      (loadRawRows db tenantId anno).scope1 = [] ∧ (loadRawRows db tenantId anno).scope2 = [] := by
  have hc := (shows_orchestrate hcsrd).1
  have he := (shows_orchestrate hets).1
  have hslots : (∀ r ∈ csrdRecords, ∀ s ∈ etsRecords, ¬ SharesKey tenantId r s) ↔
      ∀ x ∈ tagBlocks (slotBlocks (runInputs db (csrdTrack tenantId anno correlationId))),
        x.2.1 = none := by
    constructor
    · intro h x hx
      have hx' := hx
      rw [← hc] at hx
      rw [← slotBlocks_tracks, ← he] at hx'
      obtain ⟨r, hr, rfl⟩ := List.mem_map.mp hx
      obtain ⟨s, hs, hrs⟩ := List.mem_map.mp hx'
      by_contra hsome
      refine h r hr s hs ((sharesKey_tracks hcsrd hets hr hs).mpr ⟨?_, hrs.symm⟩)
      exact Option.isSome_iff_ne_none.mpr hsome
    · intro h r hr s hs hkey
      have hnone := h r.slot (slot_mem hcsrd hr)
      have hsome := ((sharesKey_tracks hcsrd hets hr hs).mp hkey).1
      rw [show r.codiceSito = none from hnone] at hsome
      cases hsome
  rw [hslots, forall_mem_tagBlocks]
  simp only [slotBlocks, List.forall_mem_cons, List.forall_mem_map, reduceCtorEq, imp_false,
    ← List.eq_nil_iff_forall_not_mem]
  constructor
  · rintro ⟨hsites, -, -, hscope2, -⟩
    refine ⟨?_, hscope2⟩
    have hsites' : ((loadRawRows db tenantId anno).scope1.map RawScope1Row.codiceSito).dedup = [] :=
      hsites
    simpa using hsites'
  · rintro ⟨hscope1, hscope2⟩
    have h1 : (runInputs db (csrdTrack tenantId anno correlationId)).scope1Rows = [] := hscope1
    have h2 : (runInputs db (csrdTrack tenantId anno correlationId)).scope2Rows = [] := hscope2
    have hsites : (runInputs db (csrdTrack tenantId anno correlationId)).sites = [] := by
      show ((loadRawRows db tenantId anno).scope1.map RawScope1Row.codiceSito).dedup = []
      rw [hscope1]
      rfl
    have heol : ∀ y ∈ (runInputs db (csrdTrack tenantId anno correlationId)).scope3Rows.flatMap
        (fun row => if Scope3Cat12Eol.handles row then
          [((none : Option String), row.anno), (none, row.anno)] else []), y.1 = none := by
      intro y hy
      obtain ⟨row, -, hy⟩ := List.mem_flatMap.mp hy
      split_ifs at hy
      · simp only [List.mem_cons, List.not_mem_nil, or_false, or_self] at hy
        rw [hy]
      · cases hy
    rw [h1, h2, hsites]
    refine ⟨rfl, rfl, rfl, rfl, rfl, ?_⟩
    simpa only [List.not_mem_nil, false_imp_iff, implies_true, true_and, and_true] using heol

/-- The second insertion of a pair: the rows of the first are in the table by then. -/
theorem insertTracks_succeeds_iff (hfree : LedgerFree db.emissions tenantId anno) :
    (∃ t₁ t₂, insertEmissions db tenantId db.emissions csrdRecords = .ok t₁ ∧
      insertEmissions db tenantId t₁ etsRecords = .ok t₂) ↔ DualPersistable db tenantId anno := by
  have hone := insertEmissions_succeeds_iff hcsrd hfree
  constructor
  · rintro ⟨t₁, t₂, h₁, h₂⟩
    have hpers := hone.mp ⟨t₁, h₁⟩
    obtain ⟨-, hblock, -⟩ := (insertEmissions_succeeds db tenantId t₁ etsRecords).mp ⟨t₂, h₂⟩
    have hapart : ∀ r ∈ csrdRecords, ∀ s ∈ etsRecords, ¬ SharesKey tenantId r s := by
      intro r hr s hs hkey
      obtain ⟨id', -, hmem⟩ := exists_emissionParams tenantId db.clock db.emissions.freshId hr
      refine hblock (emissionToParams tenantId db.clock id' r) ?_ s hs ⟨rfl, hkey⟩
      rw [insertEmissions_stores h₁]
      exact List.mem_append_right _ hmem
    obtain ⟨hscope1, hscope2⟩ := (tracks_apart hcsrd hets).mp hapart
    exact ⟨hpers, hscope1, hscope2⟩
  · rintro ⟨hpers, hscope1, hscope2⟩
    have hapart := (tracks_apart hcsrd hets).mpr ⟨hscope1, hscope2⟩
    obtain ⟨t₁, h₁⟩ := hone.mpr hpers
    have hsecond : ∃ t₂, insertEmissions db tenantId t₁ etsRecords = .ok t₂ := by
      refine (insertEmissions_succeeds db tenantId t₁ etsRecords).mpr
        ⟨(insertable_records hets).mpr ⟨hpers.year, hpers.nilFactor⟩, ?_,
          (pairwise_records hets).mpr hpers.onePerKey⟩
      intro row hrow s hs hblock
      rw [insertEmissions_stores h₁] at hrow
      rcases List.mem_append.mp hrow with hrow | hrow
      · exact not_blocks_of_free hets hfree row hrow s hs hblock
      · obtain ⟨r, hr, id', -, rfl⟩ := mem_emissionParams hrow
        exact hapart r hr s hs hblock.2
    obtain ⟨t₂, h₂⟩ := hsecond
    exact ⟨t₁, t₂, h₁, h₂⟩

end Pair

theorem freshRunId_succ_notMem (runs : List CalcRun) :
    freshRunId runs + 1 ∉ runs.map CalcRun.id :=
  fun h => by
    have := lt_freshRunId h
    omega

/-- The first of the two `ops.calc_runs` rows references the second before it is there. -/
theorem insertCalcRun_csrd (runs : List CalcRun) (spec : RunSpec) (records : List EmissionRecord) :
    insertCalcRun runs (calcRunRow spec (freshRunId runs) (some (freshRunId runs + 1)) records) =
      .error .fkCalcRunsDualRunId := by
  unfold insertCalcRun
  split_ifs with hpk hself hfk
  · exact absurd hpk (freshRunId_notMem runs)
  · simp [calcRunRow] at hself
  · exact absurd (hfk _ rfl) (freshRunId_succ_notMem runs)
  · rfl

/-- A dual-track transaction reports a ledger constraint exactly when one of its two insertions
does; otherwise it fails on `fk_calc_runs_dual_run_id`. -/
theorem noLedgerViolation_persistDualTrackEmissions :
    NoLedgerViolation (persistDualTrackEmissions db (csrdTrack tenantId anno correlationId)
      (etsTrack tenantId anno correlationId) csrdRecords etsRecords) ↔
      ∃ t₁ t₂, insertEmissions db tenantId db.emissions csrdRecords = .ok t₁ ∧
        insertEmissions db tenantId t₁ etsRecords = .ok t₂ := by
  unfold persistDualTrackEmissions
  cases h₁ : insertEmissions db tenantId db.emissions csrdRecords with
  | error v =>
      have hv := onEmissions_of_insertEmissions h₁
      refine ⟨fun h => ?_, fun ⟨_, _, h, _⟩ => by cases h⟩
      rw [h v (by simp [csrdTrack, h₁, bind, Except.bind])] at hv
      cases hv
  | ok t₁ =>
      cases h₂ : insertEmissions db tenantId t₁ etsRecords with
      | error v =>
          have hv := onEmissions_of_insertEmissions h₂
          refine ⟨fun h => ?_, fun ⟨_, _, h, h'⟩ => by cases h; rw [h₂] at h'; cases h'⟩
          rw [h v (by simp [csrdTrack, etsTrack, h₁, h₂, bind, Except.bind])] at hv
          cases hv
      | ok t₂ =>
          refine ⟨fun _ => ⟨t₁, t₂, rfl, h₂⟩, fun _ v h => ?_⟩
          have hfk : Except.error Violation.fkCalcRunsDualRunId = (.error v : Except _ Database) := by
            rw [← h]
            simp [csrdTrack, etsTrack, h₁, h₂, insertCalcRun_csrd, bind, Except.bind]
          cases hfk
          rfl

/-- Exactly which runs can be persisted. A single-track run fits an otherwise free ledger when the
catalog has a row under the nil UUID and the raw rows give every record a key of its own; a
dual-track pair needs in addition that no Scope 1 or Scope 2 row was loaded. -/
theorem calcRun_persistable_iff (db : Database) (tenantId : Uuid) (anno : ℕ)
    (hfree : LedgerFree db.emissions tenantId anno) :
    (∀ correlationId gwpSet regulatoryStream createdBy records,
      let spec : RunSpec := ⟨tenantId, anno, correlationId, gwpSet, regulatoryStream, createdBy⟩
      orchestrate db spec = .ok records →
        (NoLedgerViolation (persistEmissions db spec records) ↔ Persistable db tenantId anno)) ∧
    ∀ correlationId csrdRecords etsRecords,
      orchestrate db (csrdTrack tenantId anno correlationId) = .ok csrdRecords →
      orchestrate db (etsTrack tenantId anno correlationId) = .ok etsRecords →
        (NoLedgerViolation (persistDualTrackEmissions db (csrdTrack tenantId anno correlationId)
          (etsTrack tenantId anno correlationId) csrdRecords etsRecords) ↔
            DualPersistable db tenantId anno) := by
  refine ⟨?_, ?_⟩
  · intro correlationId gwpSet regulatoryStream createdBy records spec hrun
    rw [noLedgerViolation_persistEmissions]
    exact insertEmissions_succeeds_iff hrun hfree
  · intro correlationId csrdRecords etsRecords hcsrd hets
    rw [noLedgerViolation_persistDualTrackEmissions]
    exact insertTracks_succeeds_iff hcsrd hets hfree

/-- The factors every run looks up, whatever its rows, under both GWP sets. -/
def fixedFactorRows : List CatalogRow :=
  [publishedRow 1 "STOICH_CACO3_IPCC_2006" "kg CO2e / kg" .ar6 (4397 / 10000),
    publishedRow 2 "STOICH_CACO3_IPCC_2006" "kg CO2e / kg" .ar5 (4397 / 10000),
    publishedRow 3 "LB_IT_GRID_ISPRA_2024" "kg CO2e / kg" .ar6 (216 / 1000),
    publishedRow 4 "LB_IT_GRID_ISPRA_2024" "kg CO2e / kg" .ar5 (216 / 1000),
    publishedRow 5 "MB_GO_ZERO" "kg CO2e / kg" .ar6 0,
    publishedRow 6 "MB_GO_ZERO" "kg CO2e / kg" .ar5 0,
    publishedRow 7 "MB_IT_RESIDUAL_AIB_2024" "kg CO2e / kg" .ar6 (441 / 1000),
    publishedRow 8 "MB_IT_RESIDUAL_AIB_2024" "kg CO2e / kg" .ar5 (441 / 1000),
    publishedRow 9 "WTT_ELEC_DEFRA_2025" "kg CO2e / kg" .ar6 (39 / 1000),
    publishedRow 10 "WTT_ELEC_DEFRA_2025" "kg CO2e / kg" .ar5 (39 / 1000),
    publishedRow 11 "TND_ELEC_IT_DEFRA_2025" "kg CO2e / kg" .ar6 (1 / 50),
    publishedRow 12 "TND_ELEC_IT_DEFRA_2025" "kg CO2e / kg" .ar5 (1 / 50),
    publishedRow 13 "COMMUTE_CAR_DEFRA_2025" "kg CO2e / kg" .ar6 (1 / 5),
    publishedRow 14 "COMMUTE_CAR_DEFRA_2025" "kg CO2e / kg" .ar5 (1 / 5),
    publishedRow 15 "ECOINV_LANDFILL_INERT_V3_10" "kg CO2e / kg" .ar6 (1 / 100),
    publishedRow 16 "ECOINV_LANDFILL_INERT_V3_10" "kg CO2e / kg" .ar5 (1 / 100),
    publishedRow 17 "ECOINV_CDW_RECYCLE_V3_10" "kg CO2e / kg" .ar6 (1 / 200),
    publishedRow 18 "ECOINV_CDW_RECYCLE_V3_10" "kg CO2e / kg" .ar5 (1 / 200)]

def fixedFactorCatalog : FactorCatalog where
  rows := fixedFactorRows
  pk := by decide
  version_unique := by decide

/-- The same catalog with one more row, whose primary key is the nil UUID. -/
def nilFactorCatalog : FactorCatalog where
  rows := publishedRow nilUuid "ZERO_LINE" "kg CO2e / kg" .ar6 0 :: fixedFactorRows
  pk := by decide
  version_unique := by decide

/-- A database with no raw row, an empty ledger and the given catalog. -/
def blankDatabase (catalog : FactorCatalog) : Database where
  catalog := catalog
  scope1 := []
  scope2 := []
  scope3 := []
  emissions := EmissionsTable.empty
  calcRuns := []
  clock := 0

theorem blankDatabase_free (catalog : FactorCatalog) (tenantId : Uuid) (anno : ℕ) :
    LedgerFree (blankDatabase catalog).emissions tenantId anno := by
  intro row hrow
  cases hrow

theorem calcRun_persistable_nilFactor :
    ∃ records csrdRecords etsRecords,
      orchestrate (blankDatabase nilFactorCatalog) (csrdTrack 1 2024 (.drawn 1)) = .ok records ∧
      (NoLedgerViolation (persistEmissions (blankDatabase nilFactorCatalog)
        (csrdTrack 1 2024 (.drawn 1)) records) ↔
          Persistable (blankDatabase nilFactorCatalog) 1 2024) ∧
      (NoLedgerViolation (persistDualTrackEmissions (blankDatabase nilFactorCatalog)
        (csrdTrack 1 2024 (.drawn 1)) (etsTrack 1 2024 (.drawn 1)) csrdRecords etsRecords) ↔
          DualPersistable (blankDatabase nilFactorCatalog) 1 2024) := by
  obtain ⟨csrdRecords, hcsrd⟩ := exists_ok_of_toBool (show
    (orchestrate (blankDatabase nilFactorCatalog) (csrdTrack 1 2024 (.drawn 1))).toBool = true by
      decide +kernel)
  obtain ⟨etsRecords, hets⟩ := exists_ok_of_toBool (show
    (orchestrate (blankDatabase nilFactorCatalog) (etsTrack 1 2024 (.drawn 1))).toBool = true by
      decide +kernel)
  have h := calcRun_persistable_iff (blankDatabase nilFactorCatalog) 1 2024
    (blankDatabase_free _ _ _)
  exact ⟨csrdRecords, csrdRecords, etsRecords, hcsrd, h.1 _ _ _ _ _ hcsrd,
    h.2 _ _ _ hcsrd hets⟩

/-- With a catalog as the migrations build it, even a run without raw rows is rejected. -/
theorem calcRun_not_persistable :
    ∃ records, orchestrate (blankDatabase fixedFactorCatalog) (csrdTrack 1 2024 (.drawn 1)) =
        .ok records ∧
      LedgerFree (blankDatabase fixedFactorCatalog).emissions 1 2024 ∧
      ¬ NoLedgerViolation (persistEmissions (blankDatabase fixedFactorCatalog)
        (csrdTrack 1 2024 (.drawn 1)) records) := by
  obtain ⟨records, hrun⟩ := exists_ok_of_toBool (show
    (orchestrate (blankDatabase fixedFactorCatalog) (csrdTrack 1 2024 (.drawn 1))).toBool = true by
      decide +kernel)
  refine ⟨records, hrun, blankDatabase_free _ _ _, fun hno => ?_⟩
  rw [noLedgerViolation_persistEmissions,
    insertEmissions_succeeds_iff hrun (blankDatabase_free _ _ _)] at hno
  exact absurd hno.nilFactor (by decide)

end GhgTool
