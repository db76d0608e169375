import GhgTool.AutoCalcAgreement
import GhgTool.RunPlan
import GhgTool.StreamPairing

/-!
# Guarantees of Origin and their evidence

`ref.go_certificate_evidence` is read by no calculation: the batch run passes no checker, so the
stub validates every row that is tagged `GO_GSE`, and the auto-calc handler applies the zero factor
to every request for a `GO`. A zero is backed by a certificate exactly when the rows and requests
themselves are.
-/

namespace GhgTool

/-- A row of `ref.go_certificate_evidence`. -/
structure GoCertificate where
  tenantId : Uuid
  siteId : Uuid
  anno : ℕ
  qc1ConveyedClaimPassed : Bool
  qc2UniquePassed : Bool
  qc3RedeemedPassed : Bool
  qc4VintagePassed : Bool
  qc5GeographicPassed : Bool
  qc6ScopePassed : Bool
  qc7ExclusivityPassed : Bool
  qc8ResidualMixDisclosed : Bool
  deriving DecidableEq

/-- The column `all_qc_passed` of `ref.v_go_certificate_qc_pass`. -/
def GoCertificate.allQcPassed (c : GoCertificate) : Bool :=
  c.qc1ConveyedClaimPassed && c.qc2UniquePassed && c.qc3RedeemedPassed && c.qc4VintagePassed &&
    c.qc5GeographicPassed && c.qc6ScopePassed && c.qc7ExclusivityPassed && c.qc8ResidualMixDisclosed

/-- The evidence table with the sites its rows refer to. -/
structure EvidenceStore where
  sites : List RefSite
  certificates : List GoCertificate

/-- A certificate for the site and the year passed all eight checks. -/
def EvidenceStore.Covers (store : EvidenceStore) (tenantId : Uuid) (codiceSito : String)
    (anno : ℕ) : Prop :=
  ∃ c ∈ store.certificates, c.tenantId = tenantId ∧ c.anno = anno ∧ c.allQcPassed = true ∧
    ∃ s ∈ store.sites, s.id = c.siteId ∧ s.tenantId = tenantId ∧ s.codiceSito = codiceSito

/-! ## The batch run -/

/-- A market-based zero by the factor for Guarantees of Origin. -/
def EmissionRecord.IsGoZero (r : EmissionRecord) : Prop :=
  r.subScope = .mb ∧ r.factorId = Scope2Mb.goZeroFactorId ∧ r.tco2e = 0

/-- Every zero that a run records for a raw row of positive quantity is backed by evidence. -/
def BatchZerosBacked (store : EvidenceStore) (db : Database) (spec : RunSpec)
    (records : List EmissionRecord) : Prop :=
  ∀ row ∈ (runInputs db spec).scope2Rows, 0 < row.quantita →
    ∀ r ∈ records, r.rawRowId = some row.id → r.IsGoZero →
      store.Covers spec.tenantId row.codiceSito row.anno

/-- Every row of positive quantity that is tagged as a Guarantee of Origin has its evidence. -/
def TaggedRowsBacked (store : EvidenceStore) (db : Database) (spec : RunSpec) : Prop :=
  ∀ row ∈ (runInputs db spec).scope2Rows, 0 < row.quantita →
    row.strumentoMb = some Scope2Mb.goInstrumentLabel →
      store.Covers spec.tenantId row.codiceSito row.anno

section Batch

variable {db : Database} {spec : RunSpec} {records : List EmissionRecord}

theorem mem_scope2_of_runInputs {row : RawScope2Row}
    (h : row ∈ (runInputs db spec).scope2Rows) : row ∈ db.scope2 :=
  List.mem_of_mem_filter h

theorem factorId_factorOf {catalog : FactorCatalog} {tenantId : Uuid} {gwpSet : GwpSet}
    {factorId : String} (h : Found (sqlFactorCatalogAdapter catalog tenantId) gwpSet factorId) :
    (factorOf (sqlFactorCatalogAdapter catalog tenantId) gwpSet factorId).factorId = factorId := by
  obtain ⟨row, -, hsel, hrow⟩ := factorDbId_of_fetch h.get
  rw [hrow]
  exact hsel.2.1

theorem tagged_of_isGoZero (h : orchestrate db spec = .ok records) {r : EmissionRecord}
    (hr : r ∈ records) (hzero : r.IsGoZero) : ∃ row ∈ (runInputs db spec).scope2Rows,
      row.strumentoMb = some Scope2Mb.goInstrumentLabel ∧ r.rawRowId = some row.id := by
  obtain ⟨hready, -⟩ := (CalcOrchestrator.run_plan _ _ _).succeeds.mp ⟨records, h⟩
  have hfound := hready.fixed Scope2Mb.residualFactorId (by decide)
  obtain ⟨hsub, hfactor, -⟩ := hzero
  obtain ⟨a, ha, hbuild⟩ := (CalcOrchestrator.mem_run_subScope h).mp ⟨hr, hsub⟩
  obtain ⟨row, hrow, rfl⟩ := List.mem_map.mp ha
  have hbuilt := builtFrom_of_makeEmission hbuild
  refine ⟨row, hrow, ?_, ?_⟩
  · by_contra htag
    -- an untagged row takes the residual factor
    rw [hbuilt.factorId, Scope2Mb.rowArgs, if_neg htag] at hfactor
    have hid := factorId_factorOf hfound
    rw [show (factorOf _ _ Scope2Mb.residualFactorId).factorId = _ from hfactor] at hid
    exact absurd hid (by decide)
  · rw [hbuilt.rawRowId, Scope2Mb.rowArgs]
    split_ifs <;> rfl

/-- A tagged row is recorded as a zero, whatever the evidence table holds. -/
theorem exists_isGoZero (h : orchestrate db spec = .ok records) {row : RawScope2Row}
    (hrow : row ∈ (runInputs db spec).scope2Rows)
    (htag : row.strumentoMb = some Scope2Mb.goInstrumentLabel) :
    ∃ r ∈ records, r.rawRowId = some row.id ∧ r.IsGoZero := by
  have hplan := CalcOrchestrator.run_plan (sqlFactorCatalogAdapter db.catalog spec.tenantId)
    (getGwpValues spec.gwpSet) (runInputs db spec)
  obtain ⟨hready, hvalid⟩ := hplan.succeeds.mp ⟨records, h⟩
  have hfound := hready.fixed Scope2Mb.goZeroFactorId (by decide)
  have hline := CalcOrchestrator.mem_runArgs_subScope.mpr (show _ ∈ CalcOrchestrator.linesOf
    (sqlFactorCatalogAdapter db.catalog spec.tenantId) (getGwpValues spec.gwpSet)
    (runInputs db spec) .mb from List.mem_map_of_mem hrow)
  obtain ⟨r, hbuild⟩ := hvalid _ hline.1
  have hbuilt := builtFrom_of_makeEmission hbuild
  rw [Scope2Mb.rowArgs, if_pos htag] at hbuilt
  refine ⟨r, (mem_built (hplan.builds records h)).mpr ⟨_, hline.1, hbuild⟩, hbuilt.rawRowId,
    hbuilt.subScope, ?_, hbuilt.tco2e⟩
  rw [hbuilt.factorId]
  exact factorId_factorOf hfound

theorem batchZerosBacked_iff (hpk : (db.scope2.map RawScope2Row.id).Nodup)
    (h : orchestrate db spec = .ok records) (store : EvidenceStore) :
    BatchZerosBacked store db spec records ↔ TaggedRowsBacked store db spec := by
  constructor
  · intro hbacked row hrow hpos htag
    obtain ⟨r, hr, hid, hzero⟩ := exists_isGoZero h hrow htag
    exact hbacked row hrow hpos r hr hid hzero
  · intro hbacked row hrow hpos r hr hid hzero
    obtain ⟨row', hrow', htag, hid'⟩ := tagged_of_isGoZero h hr hzero
    have hsame : row'.id = row.id := by
      rw [hid] at hid'
      exact (Option.some.inj hid').symm
    have heq : row' = row := List.inj_on_of_nodup_map hpk (mem_scope2_of_runInputs hrow')
      (mem_scope2_of_runInputs hrow) hsame
    rw [← heq] at hpos ⊢
    exact hbacked row' hrow' hpos htag

end Batch

/-! ## The auto-calc path -/

/-- The zero that an accepted request recorded for the site of the request is backed by evidence. -/
def AutoZeroBacked (store : EvidenceStore) (svc : PreviewService) (call : InsertCall)
    (db db' : Database) : Prop :=
  ∀ p, svc.preview call = .ok p → p.factorId = Scope2Mb.goZeroFactorId →
    ∀ r, InsertedRow db db' r → r.subScope = .mb → r.tco2e = 0 →
      ∃ site, r.codiceSito = some site ∧ store.Covers call.tenantId site r.anno

/-- The amount of a Guarantee of Origin, at the factor of the reporting year, rounds to zero. -/
def CalcInputRequest.GoAmountZero (req : CalcInputRequest) (catalog : FactorCatalogPort) : Prop :=
  ∀ f, requireVintage catalog Scope2Mb.goZeroFactorId req.gwpSet req.anno = .ok f →
    ∀ k ∈ kwhMultiplier req.unita,
      roundHalfUp 6 (f.valueOrZero * (req.quantita * k) * kgToTonne) = 0

/-- A request for a Guarantee of Origin whose amount rounds to zero has its evidence. -/
def RequestBacked (store : EvidenceStore) (svc : PreviewService) (call : InsertCall) : Prop :=
  call.body.subScope = .mb → call.body.strumentoMb = some .go →
    call.body.GoAmountZero svc.catalog →
      ∃ site, call.body.codiceSito = some site ∧
        store.Covers call.tenantId site call.body.anno

section AutoCalc

variable {print : Printing} {req : CalcInputRequest} {p : CalcPreviewResponse}

theorem previewS2Mb_eq_ok {catalog : FactorCatalogPort}
    (h : previewS2Mb print catalog req = .ok p) :
    ∃ f k, requireVintage catalog (mbFactorId req.strumentoMb) req.gwpSet req.anno = .ok f ∧
      kwhMultiplier req.unita = some k ∧ p.factorId = f.factorId ∧
        p.tco2e = roundHalfUp 6 (f.valueOrZero * (req.quantita * k) * kgToTonne) := by
  obtain ⟨f, hf, h⟩ := bind_eq_ok.mp h
  obtain ⟨a, ha, h⟩ := bind_eq_ok.mp h
  rcases quantitaKwh_cases print req with ⟨-, e, he⟩ | ⟨k, text, hk, hok⟩
  · rw [he] at ha
    cases ha
  · rw [hok] at ha
    cases ha
    cases h
    exact ⟨f, k, hf, hk, rfl, rfl⟩

theorem factorId_of_requireVintage {catalog : FactorCatalog} {tenantId : Uuid} {factorId : String}
    {gwpSet : GwpSet} {anno : ℕ} {f : FactorRecord}
    (h : requireVintage (sqlFactorCatalogAdapter catalog tenantId) factorId gwpSet anno = .ok f) :
    f.factorId = factorId := by
  unfold requireVintage at h
  split at h
  · cases h
  · next record hget =>
      split_ifs at h
      cases h
      obtain ⟨row, -, hsel, hrow⟩ := factorDbId_of_fetch hget
      rw [hrow]
      exact hsel.2.1

theorem subScope_eq_mb {u : CalcSubScope} (h : u.db = .mb) : u = .mb := by
  cases u <;> first | rfl | cases h

theorem preview_mb {svc : PreviewService} {call : InsertCall} (hbody : call.body.Accepted)
    (hsub : call.body.subScope = .mb) (h : svc.preview call = .ok p) :
    previewS2Mb svc.print svc.catalog call.body = .ok p := by
  have hcompute : computePreview svc.print svc.catalog (some svc.sites) call.tenantId call.body =
      .ok p := by
    unfold PreviewService.preview at h
    cases hx : computePreview svc.print svc.catalog (some svc.sites) call.tenantId call.body with
    | error e =>
        rw [hx] at h
        cases h
    | ok q =>
        rw [hx] at h
        cases h
        rfl
  rw [computePreview_eq_dispatch hbody.scope_eq (by simp [hsub])] at hcompute
  simpa only [previewDispatch, hsub] using hcompute

theorem autoZeroBacked_iff {store : EvidenceStore} {svc : PreviewService} {call : InsertCall}
    {rawEntryId : Uuid} {db db' : Database} {catalogTenant : Uuid}
    (hcatalog : svc.catalog = sqlFactorCatalogAdapter db.catalog catalogTenant)
    (hbody : call.body.Accepted)
    (h : (WriteRequest.calcInsert svc call rawEntryId).event.result db = some db') :
    AutoZeroBacked store svc call db db' ↔ RequestBacked store svc call := by
  obtain ⟨t, ht, rfl⟩ := Option.map_eq_some_iff.mp h
  obtain ⟨p, hp, hrows⟩ := computeAndInsert_eq_some ht
  have hone : AutoZeroBacked store svc call db { db with emissions := t } ↔
      (p.factorId = Scope2Mb.goZeroFactorId → call.body.subScope.db = .mb → p.tco2e = 0 →
        ∃ site, call.body.codiceSito = some site ∧
          store.Covers call.tenantId site call.body.anno) := by
    simp only [AutoZeroBacked, hp, Except.ok.injEq, forall_eq']
    rw [forall_insertedRow_of_append hrows rfl]
    rfl
  rw [hone]
  constructor
  · intro hbacked hsub hgo hamount
    obtain ⟨f, k, hf, hk, hfactor, htco2e⟩ := previewS2Mb_eq_ok (preview_mb hbody hsub hp)
    rw [mbFactorId, if_pos hgo] at hf
    rw [hamount f hf k hk] at htco2e
    rw [hcatalog] at hf
    exact hbacked (hfactor.trans (factorId_of_requireVintage hf)) (by rw [hsub]; rfl) htco2e
  · intro hbacked hzero hdb htco2e
    have hsub := subScope_eq_mb hdb
    obtain ⟨f, k, hf, hk, hfactor, hround⟩ := previewS2Mb_eq_ok (preview_mb hbody hsub hp)
    have hid : mbFactorId call.body.strumentoMb = Scope2Mb.goZeroFactorId := by
      rw [← hzero, hfactor]
      rw [hcatalog] at hf
      exact (factorId_of_requireVintage hf).symm
    have hgo : call.body.strumentoMb = some .go := by
      by_contra hgo
      rw [mbFactorId, if_neg hgo] at hid
      exact absurd hid (by decide)
    refine hbacked hsub hgo fun f' hf' k' hk' => ?_
    rw [hid, hf'] at hf
    rw [Option.mem_def, hk] at hk'
    cases hf
    cases hk'
    rw [← hround, htco2e]

end AutoCalc

/-- A market-based zero is backed by evidence exactly as far as the tags are: on the batch path
the rows tagged `GO_GSE`, on the auto-calc path the requests for a `GO`. -/
theorem zero_backed_iff (store : EvidenceStore) (db : Database)
    (hpk : (db.scope2.map RawScope2Row.id).Nodup) :
    (∀ spec records, orchestrate db spec = .ok records →
      (BatchZerosBacked store db spec records ↔ TaggedRowsBacked store db spec)) ∧
    ∀ svc call rawEntryId db' catalogTenant,
      svc.catalog = sqlFactorCatalogAdapter db.catalog catalogTenant → call.body.Accepted →
      (WriteRequest.calcInsert svc call rawEntryId).event.result db = some db' →
        (AutoZeroBacked store svc call db db' ↔ RequestBacked store svc call) :=
  ⟨fun _ _ h => batchZerosBacked_iff hpk h store,
    fun _ _ _ _ _ hcatalog hbody h => autoZeroBacked_iff hcatalog hbody h⟩

/-- A year of electricity at a site, tagged as covered by Guarantees of Origin. -/
def goRow : RawScope2Row where
  id := 1
  tenantId := 1
  anno := 2025
  codiceSito := "IANO"
  quantita := ar5Electricity.quantita
  strumentoMb := some Scope2Mb.goInstrumentLabel
  anno_range := anno_2025
  quantita_nonneg := ar5Electricity.quantita_pos.le

def goDatabase : Database :=
  { blankDatabase fixedFactorCatalog with scope2 := [goRow] }

def ianoSite : RefSite where
  id := 7
  tenantId := 1
  codiceSito := "IANO"
  siteType := .stabilimentoProduttivo

/-- One certificate for the site, with all checks passed or with the last one failed. -/
def ianoStore (disclosed : Bool) : EvidenceStore where
  sites := [ianoSite]
  certificates := [⟨1, 7, 2025, true, true, true, true, true, true, true, disclosed⟩]

theorem ianoStore_covers : (ianoStore true).Covers 1 "IANO" 2025 :=
  ⟨_, List.mem_singleton.mpr rfl, rfl, rfl, by decide, ianoSite, by simp [ianoStore], rfl, rfl, rfl⟩

theorem ianoStore_not_covers (codiceSito : String) :
    ¬ (ianoStore false).Covers 1 codiceSito 2025 := by
  rintro ⟨c, hc, -, -, hpassed, -⟩
  rw [List.mem_singleton.mp hc] at hpassed
  exact absurd hpassed (by decide)

theorem goDatabase_runs :
    (orchestrate goDatabase (csrdTrack 1 2025 (.drawn 1))).toBool = true := by
  decide +kernel

/-- The electricity of the site asked for as covered by a Guarantee of Origin. -/
def goElectricity : CalcInputRequest :=
  { ar5Electricity with subScope := .mb, gwpSet := .ar6, strumentoMb := some .go }

def goService : PreviewService :=
  ⟨⟨fun _ => "", id⟩, sqlFactorCatalogAdapter fixedFactorCatalog 1, [ianoSite], fun _ => ""⟩

def goCall : InsertCall :=
  ⟨1, "editor", none, goElectricity, .drawn 1⟩

theorem goElectricity_amount : goElectricity.GoAmountZero goService.catalog := by
  intro f hf k _
  have hzero : (requireVintage goService.catalog Scope2Mb.goZeroFactorId .ar6 2025).toOption.map
      FactorRecord.valueOrZero = some 0 := by
    decide +kernel
  rw [show requireVintage goService.catalog Scope2Mb.goZeroFactorId .ar6 2025 = .ok f from hf]
    at hzero
  rw [Option.some.inj hzero, zero_mul, zero_mul, roundHalfUp_zero]

theorem goCall_inserted :
    ((WriteRequest.calcInsert goService goCall 1).event.result goDatabase).isSome = true := by
  decide +kernel

theorem zero_backed_iano :
    (∃ records, orchestrate goDatabase (csrdTrack 1 2025 (.drawn 1)) = .ok records ∧
      BatchZerosBacked (ianoStore true) goDatabase (csrdTrack 1 2025 (.drawn 1)) records) ∧
    ∃ db', (WriteRequest.calcInsert goService goCall 1).event.result goDatabase = some db' ∧
      AutoZeroBacked (ianoStore true) goService goCall goDatabase db' := by
  have hiff := zero_backed_iff (ianoStore true) goDatabase (by decide)
  constructor
  · obtain ⟨records, h⟩ := exists_ok_of_toBool goDatabase_runs
    refine ⟨records, h, (hiff.1 _ records h).mpr ?_⟩
    intro row hrow _ _
    rw [List.mem_singleton.mp (mem_scope2_of_runInputs hrow)]
    exact ianoStore_covers
  · obtain ⟨db', h⟩ := Option.isSome_iff_exists.mp goCall_inserted
    refine ⟨db', h, (hiff.2 goService goCall 1 db' 1 rfl (by decide) h).mpr ?_⟩
    exact fun _ _ _ => ⟨"IANO", rfl, ianoStore_covers⟩

/-- With a certificate that failed its last check, both paths still record the zero. -/
theorem zero_without_evidence :
    (∃ records, orchestrate goDatabase (csrdTrack 1 2025 (.drawn 1)) = .ok records ∧
      ¬ BatchZerosBacked (ianoStore false) goDatabase (csrdTrack 1 2025 (.drawn 1)) records) ∧
    goElectricity.Accepted ∧
    ∃ db', (WriteRequest.calcInsert goService goCall 1).event.result goDatabase = some db' ∧
      ¬ AutoZeroBacked (ianoStore false) goService goCall goDatabase db' := by
  refine ⟨?_, by decide, ?_⟩
  · obtain ⟨records, h⟩ := exists_ok_of_toBool goDatabase_runs
    refine ⟨records, h, fun hbacked => ?_⟩
    rw [batchZerosBacked_iff (by decide) h] at hbacked
    have hrow : goRow ∈ (runInputs goDatabase (csrdTrack 1 2025 (.drawn 1))).scope2Rows := by
      decide
    exact ianoStore_not_covers _ (hbacked goRow hrow (by decide) rfl)
  · obtain ⟨db', h⟩ := Option.isSome_iff_exists.mp goCall_inserted
    refine ⟨db', h, fun hbacked => ?_⟩
    rw [autoZeroBacked_iff rfl (by decide) h] at hbacked
    obtain ⟨site, -, hcovers⟩ := hbacked rfl rfl goElectricity_amount
    exact ianoStore_not_covers site hcovers

end GhgTool
