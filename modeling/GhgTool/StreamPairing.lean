import GhgTool.AutoCalc
import GhgTool.CorrectionChain
import GhgTool.DualTrack

/-!
# Stream and GWP set of the rows written

The six ways in which a request puts rows into the ledger. A run takes its GWP set from its stream;
the other writers take the two columns from different places, and nothing compares them.
-/

namespace GhgTool

structure CalcRunRequest where
  anno : ℕ
  regulatoryStream : RegulatoryStream := .csrdEsrsE1
  anno_range : 2000 ≤ anno ∧ anno ≤ 2100

def streamToGwp : RegulatoryStream → GwpSet
  | .csrdEsrsE1 => .ar6
  | .euEtsPhaseIv => .ar5

/-- The run that `_background_run` starts for `POST /calc/run`. -/
def CalcRunRequest.spec (body : CalcRunRequest) (tenantId : Uuid) (triggeredBy : String)
    (runCid : CorrelationId) : RunSpec where
  tenantId := tenantId
  anno := body.anno
  correlationId := runCid
  gwpSet := streamToGwp body.regulatoryStream
  regulatoryStream := body.regulatoryStream
  createdBy := "api:" ++ triggeredBy

/-- What `compute_and_insert` computes its preview with. -/
structure PreviewService where
  print : Printing
  catalog : FactorCatalogPort
  sites : List RefSite
  detail : PreviewError → String

def PreviewService.preview (svc : PreviewService) (call : InsertCall) :
    Except String CalcPreviewResponse :=
  (computePreview svc.print svc.catalog (some svc.sites) call.tenantId call.body).mapError
    svc.detail

inductive WriteRequest
  | createEmission (ctx : RequestContext) (body : EmissionCreate)
  | correctEmission (ctx : RequestContext) (body : EmissionCorrectionCreate)
  | correctEmissionById (call : CorrectionCall)
  | calcInsert (svc : PreviewService) (call : InsertCall) (rawEntryId : Uuid)
  | calcRun (body : CalcRunRequest) (tenantId : Uuid) (triggeredBy : String)
      (runCid : CorrelationId)
  | dualTrack (tenantId : Uuid) (anno : ℕ) (correlationId : CorrelationId)

/-- The request as an event of the ledger. -/
def WriteRequest.event : WriteRequest → LedgerEvent
  | .createEmission ctx body => .createEmission ctx body
  | .correctEmission ctx body => .correctEmission ctx body
  | .correctEmissionById call => .correctEmissionById call
  | .calcInsert svc call rawEntryId => .computeAndInsert call (svc.preview call) rawEntryId
  | .calcRun body tenantId triggeredBy runCid => .runCalc (body.spec tenantId triggeredBy runCid)
  | .dualTrack tenantId anno correlationId => .runDualTrack tenantId anno correlationId

/-- A row of the database `db'` that was not in `db`. -/
def InsertedRow (db db' : Database) (r : EmissionRow) : Prop :=
  r ∈ db'.emissions.rows ∧ ∀ s ∈ db.emissions.rows, s.id ≠ r.id

/-- CSRD exactly with AR6, and the ETS exactly with AR5. -/
def EmissionRow.StreamFits (r : EmissionRow) : Prop :=
  (r.regulatoryStream = .csrdEsrsE1 ↔ r.gwpSet = .ar6) ∧
    (r.regulatoryStream = .euEtsPhaseIv ↔ r.gwpSet = .ar5)

theorem streamFits_iff {r : EmissionRow} :
    r.StreamFits ↔ r.gwpSet = streamToGwp r.regulatoryStream := by
  unfold EmissionRow.StreamFits
  cases r.regulatoryStream <;> cases r.gwpSet <;> decide

/-- The two values a request would write agree. -/
def WriteRequest.StreamsAgree (db : Database) : WriteRequest → Prop
  | .createEmission _ body => body.gwpSet = streamToGwp body.regulatoryStream
  | .correctEmission _ body => body.newRecord.gwpSet = streamToGwp body.newRecord.regulatoryStream
  | .correctEmissionById call => ∀ old ∈ db.emissions.getById call.emissionId call.tenantId,
      call.body.gwpSet = streamToGwp old.regulatoryStream
  | .calcInsert _ call _ => call.body.gwpSet = .ar6
  | .calcRun _ _ _ _ => True
  | .dualTrack _ _ _ => True

/-! ## What each writer inserts -/

variable {db db' : Database}

theorem forall_insertedRow_of_append {new : EmissionRow}
    (hrows : db'.emissions.rows = db.emissions.rows ++ [new])
    (hfresh : new.id = db.emissions.freshId) {P : EmissionRow → Prop} :
    (∀ r, InsertedRow db db' r → P r) ↔ P new := by
  constructor
  · intro hall
    refine hall new ⟨by rw [hrows]; simp, fun s hs hid => ?_⟩
    have hlt := EmissionsTable.lt_freshId hs
    rw [hid, hfresh] at hlt
    exact lt_irrefl _ hlt
  · rintro hnew r ⟨hr, hother⟩
    rw [hrows] at hr
    rcases List.mem_append.mp hr with hr | hr
    · exact absurd rfl (hother r hr)
    · rw [List.mem_singleton.mp hr]
      exact hnew

/-- A correction adds its new row; the row it closes keeps its key. -/
theorem forall_insertedRow_of_replaces {old new : EmissionRow}
    (h : Replaces db.emissions old new db'.emissions) {P : EmissionRow → Prop} :
    (∀ r, InsertedRow db db' r → P r) ↔ P new := by
  constructor
  · intro hall
    refine hall new ⟨h.mem, fun s hs hid => ?_⟩
    have hlt := EmissionsTable.lt_freshId hs
    rw [hid, h.fresh] at hlt
    exact lt_irrefl _ hlt
  · rintro hnew r ⟨hr, hother⟩
    obtain ⟨reasonCode, now, hrows⟩ := h.rows
    rw [hrows] at hr
    obtain ⟨s, hs, rfl⟩ := List.mem_map.mp hr
    rcases List.mem_append.mp hs with hs | hs
    · exact absurd (EmissionRow.closeIf_id s).symm (hother s hs)
    · obtain rfl := List.mem_singleton.mp hs
      have hkept : s.closeIf old.id s.id reasonCode now = s :=
        if_neg fun hclosed => h.id_ne hclosed.1
      rw [hkept]
      exact hnew

theorem stamped_of_orchestrate {spec : RunSpec} {records : List EmissionRecord}
    (h : orchestrate db spec = .ok records) {record : EmissionRecord} (hmem : record ∈ records) :
    record.gwpSet = spec.gwpSet ∧ record.regulatoryStream = spec.regulatoryStream := by
  have hshows := (CalcOrchestrator.outcome_run (E := fun _ => True)
    ⟨fun _ _ => trivial, fun _ _ _ _ => trivial⟩ (runInputs db spec)).of_ok h
  have hstamped := hshows.2 record hmem
  exact ⟨hstamped.gwpSet.trans (getGwpValues_code spec.gwpSet), hstamped.regulatoryStream⟩

theorem streamFits_of_insertEmissions {spec : RunSpec} {records : List EmissionRecord}
    {t t' : EmissionsTable} (hspec : spec.gwpSet = streamToGwp spec.regulatoryStream)
    (hrecords : orchestrate db spec = .ok records) {tenantId : Uuid}
    (h : insertEmissions db tenantId t records = .ok t') {r : EmissionRow} (hr : r ∈ t'.rows) :
    r ∈ t.rows ∨ r.StreamFits := by
  rw [(EmissionsTable.insertSpec db.catalog).stores_all h] at hr
  rcases List.mem_append.mp hr with hr | hr
  · exact .inl hr
  · obtain ⟨record, hmem, id, -, rfl⟩ := mem_emissionParams hr
    obtain ⟨hset, hrun⟩ := stamped_of_orchestrate hrecords hmem
    refine .inr (streamFits_iff.mpr ?_)
    change record.gwpSet = streamToGwp record.regulatoryStream
    rw [hset, hrun, hspec]

theorem streamFits_of_runCalc {spec : RunSpec}
    (hspec : spec.gwpSet = streamToGwp spec.regulatoryStream)
    (h : runCalcAndPersist db spec = .ok db') {r : EmissionRow} (hr : InsertedRow db db' r) :
    r.StreamFits := by
  unfold runCalcAndPersist at h
  split at h
  · cases h
  · next records hrecords =>
      split at h
      · cases h
      · next stored hpersist =>
          cases h
          obtain ⟨emissions, hemissions, hpersist⟩ := bind_eq_ok.mp hpersist
          obtain ⟨_, -, hpersist⟩ := bind_eq_ok.mp hpersist
          obtain ⟨_, -, hpersist⟩ := bind_eq_ok.mp hpersist
          cases hpersist
          rcases streamFits_of_insertEmissions hspec hrecords hemissions hr.1 with hold | hfits
          · exact absurd rfl (hr.2 r hold)
          · exact hfits

theorem streamFits_of_runDualTrack {tenantId : Uuid} {anno : ℕ} {correlationId : CorrelationId}
    (h : runDualTrackAndPersist db tenantId anno correlationId = .ok db') {r : EmissionRow}
    (hr : InsertedRow db db' r) : r.StreamFits := by
  unfold runDualTrackAndPersist at h
  dsimp only at h
  split at h
  · cases h
  · next csrdRecords hcsrd =>
      split at h
      · cases h
      · next etsRecords hets =>
          split at h
          · cases h
          · next stored hpersist =>
              cases h
              obtain ⟨first, hfirst, hpersist⟩ := bind_eq_ok.mp hpersist
              obtain ⟨second, hsecond, hpersist⟩ := bind_eq_ok.mp hpersist
              obtain ⟨_, -, hpersist⟩ := bind_eq_ok.mp hpersist
              obtain ⟨_, -, hpersist⟩ := bind_eq_ok.mp hpersist
              obtain ⟨_, -, hpersist⟩ := bind_eq_ok.mp hpersist
              obtain ⟨_, -, hpersist⟩ := bind_eq_ok.mp hpersist
              cases hpersist
              rcases streamFits_of_insertEmissions rfl hets hsecond hr.1 with hmem | hfits
              · rcases streamFits_of_insertEmissions rfl hcsrd hfirst hmem with hold | hfits
                · exact absurd rfl (hr.2 r hold)
                · exact hfits
              · exact hfits

theorem createEmission_eq_ok {catalog : FactorCatalog} {t t' : EmissionsTable}
    {ctx : RequestContext} {body : EmissionCreate}
    (h : createEmission catalog t ctx body = .ok t') :
    ∃ rawRowId, t'.rows = t.rows ++ [buildNewEmissionRow ctx t.freshId rawRowId body] := by
  unfold createEmission at h
  split at h
  · cases h
  · next rawRowId _ =>
      split at h
      · cases h
      · next inserted hinsert =>
          cases h
          exact ⟨rawRowId, ((EmissionsTable.outcome_insert catalog t _).of_ok hinsert).1⟩

theorem computeAndInsert_eq_some {call : InsertCall} {preview : Except String CalcPreviewResponse}
    {rawEntryId : Uuid} {t' : EmissionsTable}
    (h : db.computeAndInsert call preview rawEntryId = some t') :
    ∃ p, preview = .ok p ∧ t'.rows = db.emissions.rows ++
      [(db.insertService call preview rawEntryId).emissionRow 0 p db.clock] := by
  unfold Database.computeAndInsert at h
  split at h
  · cases h
  · next p =>
      have hinsert := toOption_eq_some_iff.mp h
      exact ⟨p, rfl, ((EmissionsTable.outcome_insert db.catalog db.emissions _).of_ok hinsert).1⟩

/-- The rows an accepted request inserts pair their stream with its GWP set exactly when the two
values of the request agree. -/
theorem stream_fits_iff_agree (db db' : Database) (w : WriteRequest)
    (h : w.event.result db = some db') :
    (∀ r, InsertedRow db db' r → r.StreamFits) ↔ w.StreamsAgree db := by
  cases w with
  | createEmission ctx body =>
      obtain ⟨t, ht, rfl⟩ := Option.map_eq_some_iff.mp h
      obtain ⟨rawRowId, hrows⟩ := createEmission_eq_ok (toOption_eq_some_iff.mp ht)
      rw [forall_insertedRow_of_append hrows rfl, streamFits_iff]
      rfl
  | correctEmission ctx body =>
      obtain ⟨⟨response, t⟩, hok, rfl⟩ := Option.map_eq_some_iff.mp h
      obtain ⟨old, rawRowId, hreplaces, -⟩ := correctEmission_replaces (toOption_eq_some_iff.mp hok)
      rw [forall_insertedRow_of_replaces hreplaces, streamFits_iff]
      rfl
  | correctEmissionById call =>
      obtain ⟨⟨response, t⟩, hok, rfl⟩ := Option.map_eq_some_iff.mp h
      obtain ⟨old, hget, hreplaces, -⟩ := correctEmissionById_replaces (toOption_eq_some_iff.mp hok)
      rw [forall_insertedRow_of_replaces hreplaces, streamFits_iff]
      simp only [WriteRequest.StreamsAgree, hget, Option.mem_def, Option.some.injEq, forall_eq']
      rfl
  | calcInsert svc call rawEntryId =>
      obtain ⟨t, ht, rfl⟩ := Option.map_eq_some_iff.mp h
      obtain ⟨p, -, hrows⟩ := computeAndInsert_eq_some ht
      rw [forall_insertedRow_of_append hrows rfl, streamFits_iff]
      rfl
  | calcRun body tenantId triggeredBy runCid =>
      have hok : runCalcAndPersist db (body.spec tenantId triggeredBy runCid) = .ok db' :=
        toOption_eq_some_iff.mp h
      exact ⟨fun _ => trivial, fun _ r hr => streamFits_of_runCalc rfl hok hr⟩
  | dualTrack tenantId anno correlationId =>
      have hok : runDualTrackAndPersist db tenantId anno correlationId = .ok db' :=
        toOption_eq_some_iff.mp h
      exact ⟨fun _ => trivial, fun _ r hr => streamFits_of_runDualTrack hok hr⟩

theorem stream_fits_purchasedGoods :
    ∃ db', (WriteRequest.createEmission editorContext purchasedGoods).event.result
        (blankDatabase gridCatalog) = some db' ∧
      ∀ r, InsertedRow (blankDatabase gridCatalog) db' r → r.StreamFits := by
  have hsome : ((WriteRequest.createEmission editorContext purchasedGoods).event.result
      (blankDatabase gridCatalog)).isSome = true := by
    decide +kernel
  obtain ⟨db', h⟩ := Option.isSome_iff_exists.mp hsome
  exact ⟨db', h, (stream_fits_iff_agree _ db' _ h).mpr rfl⟩

/-- A year's electricity of a site, asked for under AR5. -/
def ar5Electricity : CalcInputRequest where
  scope := .two
  subScope := .lb
  anno := 2025
  codiceSito := some "IANO"
  quantita := 1200
  unita := "kWh"
  gwpSet := .ar5
  combustibile := none
  processMode := none
  strumentoMb := none
  sottocategoria := none
  metodo := none
  fonteDato := none
  qualitaDato := none
  note := none
  anno_range := requestAnno_2025
  quantita_pos := by decide

def ar5GridCatalog : FactorCatalog :=
  ⟨[publishedRow 1 Scope2Lb.lbFactorId "kg CO2 / kWh" .ar5 (216 / 1000)], by decide, by decide⟩

def ar5Insert : WriteRequest :=
  .calcInsert ⟨⟨fun _ => "", id⟩, sqlFactorCatalogAdapter ar5GridCatalog 1, [], fun _ => ""⟩
    ⟨1, "editor", none, ar5Electricity, .drawn 1⟩ 1

/-- The request is valid and accepted, and its AR5 row is filed under the CSRD stream. -/
theorem ar5_row_filed_under_csrd :
    ar5Electricity.Accepted ∧
      ¬ ∀ db', ar5Insert.event.result (blankDatabase ar5GridCatalog) = some db' →
        ∀ r, InsertedRow (blankDatabase ar5GridCatalog) db' r → r.StreamFits := by
  refine ⟨by decide, fun hfits => ?_⟩
  have hsome : (ar5Insert.event.result (blankDatabase ar5GridCatalog)).isSome = true := by
    decide +kernel
  obtain ⟨db', h⟩ := Option.isSome_iff_exists.mp hsome
  have hall := hfits db' h
  obtain ⟨t, ht, rfl⟩ := Option.map_eq_some_iff.mp h
  obtain ⟨p, -, hrows⟩ := computeAndInsert_eq_some ht
  rw [forall_insertedRow_of_append hrows rfl, streamFits_iff] at hall
  have hset : GwpSet.ar5 = GwpSet.ar6 := hall
  cases hset

end GhgTool
