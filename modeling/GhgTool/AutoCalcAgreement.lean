import GhgTool.AutoCalcHandlers

/-!
# The preview and the batch modules

A request and the raw row with its data, under a catalog that publishes each factor once: exactly
when the preview and the batch module of the sub-scope agree. On both sides the numbers are exact
rationals.
-/

namespace GhgTool

/-- Where the factors of a request come from. -/
def CalcInputRequest.source (req : CalcInputRequest) (catalog : FactorCatalog) (tenantId : Uuid)
    (hsingle : SinglePublished catalog tenantId req.gwpSet) : FactorSource :=
  ⟨catalog, tenantId, req.gwpSet, req.anno, hsingle⟩

theorem CalcInputRequest.Accepted.scope_eq {req : CalcInputRequest} (h : req.Accepted) :
    req.subScope.scope = req.scope := by
  unfold CalcInputRequest.Accepted CalcInputRequest.validationErrors at h
  split_ifs at h with hunit hscope
  exact not_not.mp hscope

theorem RawRow.Matches.scope1 {req : CalcInputRequest} {row : RawRow} (h : row.Matches req)
    (hscope : req.scope = .one) : ∃ r : RawScope1Row, row = .scope1 r ∧ r.quantita = req.quantita ∧
      if req.subScope = .process then r.categoriaS1 = Scope1Process.processCategoryTag
      else req.combustibile.map Combustibile.code = some r.combustibile := by
  cases row with
  | scope1 r => exact ⟨r, rfl, h.2.2.2⟩
  | scope2 r => exact absurd (h.1.symm.trans hscope) (by decide)
  | scope3 r => exact absurd (h.1.symm.trans hscope) (by decide)

theorem RawRow.Matches.scope2 {req : CalcInputRequest} {row : RawRow} (h : row.Matches req)
    (hscope : req.scope = .two) : ∃ r : RawScope2Row, row = .scope2 r ∧ r.quantita = req.quantita ∧
      r.strumentoMb = req.strumentoMb.map StrumentoMb.label := by
  cases row with
  | scope1 r => exact absurd (h.1.symm.trans hscope) (by decide)
  | scope2 r => exact ⟨r, rfl, h.2.2.2⟩
  | scope3 r => exact absurd (h.1.symm.trans hscope) (by decide)

theorem RawRow.Matches.scope3 {req : CalcInputRequest} {row : RawRow} (h : row.Matches req)
    (hscope : req.scope = .three) : ∃ r : RawScope3Row, row = .scope3 r ∧
      r.quantita = req.quantita ∧ r.categoriaS3 = req.subScope.categoriaS3 ∧
        req.sottocategoria = some r.sottocategoria := by
  cases row with
  | scope1 r => exact absurd (h.1.symm.trans hscope) (by decide)
  | scope2 r => exact absurd (h.1.symm.trans hscope) (by decide)
  | scope3 r => exact ⟨r, rfl, h.2.2⟩

section Assembly

variable {print : Printing} {catalog : FactorCatalog} {tenantId : Uuid}
  {session : Option (List RefSite)} {req : CalcInputRequest} {row : RawRow} {base : CalcRunInputs}

theorem dispatch_of_not_process (hscope : req.subScope.scope = req.scope)
    (hne : req.subScope ≠ .process) {port : FactorCatalogPort} :
    computePreview print port session tenantId req =
      previewDispatch print port req (countryOf (siteMetaOf session tenantId req)) :=
  computePreview_eq_dispatch hscope fun hprocess => absurd hprocess hne

/-- What is claimed of a request, a raw row and a catalog. -/
def Agreement (print : Printing) (catalog : FactorCatalog) (tenantId : Uuid)
    (session : Option (List RefSite)) (req : CalcInputRequest) (row : RawRow)
    (base : CalcRunInputs) : Prop :=
  PreviewAgrees
    (computePreview print (sqlFactorCatalogAdapter catalog tenantId) session tenantId req)
    (batchRecords req.subScope (sqlFactorCatalogAdapter catalog tenantId)
      (getGwpValues req.gwpSet) (row.alone base))

variable (hsingle : SinglePublished catalog tenantId req.gwpSet)

theorem scope1_agrees (hscope : req.subScope.scope = req.scope) (hone : req.scope = .one)
    (hrow : row.Matches req) :
    Agreement print catalog tenantId session req row base ↔
      (req.source catalog tenantId hsingle).AgreementCondition (siteMetaOf session tenantId req)
        req := by
  have hsrc : (req.source catalog tenantId hsingle).Serves req := ⟨rfl, rfl⟩
  obtain ⟨r, rfl, hq, hrest⟩ := hrow.scope1 hone
  unfold Agreement FactorSource.AgreementCondition
  rw [hone] at hscope
  cases hsub : req.subScope <;> rw [hsub] at hscope <;> cases hscope
  case combustion =>
      rw [hsub, if_neg (by decide)] at hrest
      obtain ⟨c, hc, hcode⟩ := Option.map_eq_some_iff.mp hrest
      rw [dispatch_of_not_process (by rw [hsub, hone]; rfl) (by simp [hsub])]
      simp only [previewDispatch, batchRecords, hsub, hc, Option.mem_def, Option.some.injEq, forall_eq']
      exact combustion_agrees hsrc hc hcode.symm hq
  case process =>
      rw [if_pos hsub] at hrest
      have hscope : req.subScope.scope = req.scope := by rw [hsub, hone]; rfl
      cases hmode : req.effectiveMode with
      | directTco2 => exact process_direct_agrees hsrc hmode hscope hsub hrest hq
      | caco3Mass => exact process_caco3_agrees hsrc hmode hscope hsub hrest hq

theorem scope2_agrees (hscope : req.subScope.scope = req.scope) (htwo : req.scope = .two)
    (hrow : row.Matches req) :
    Agreement print catalog tenantId session req row base ↔
      (req.source catalog tenantId hsingle).AgreementCondition (siteMetaOf session tenantId req)
        req := by
  have hsrc : (req.source catalog tenantId hsingle).Serves req := ⟨rfl, rfl⟩
  obtain ⟨r, rfl, hq, hinstrument⟩ := hrow.scope2 htwo
  unfold Agreement FactorSource.AgreementCondition
  rw [dispatch_of_not_process hscope (fun h => by rw [h, htwo] at hscope; cases hscope)]
  rw [htwo] at hscope
  cases hsub : req.subScope <;> rw [hsub] at hscope <;> cases hscope
  case lb =>
      simp only [previewDispatch, batchRecords, hsub]
      exact lb_agrees hsrc hq (countryOf (siteMetaOf session tenantId req))
  case mb =>
      simp only [previewDispatch, batchRecords, hsub]
      exact mb_agrees hsrc hq hinstrument

theorem scope3_agrees (hscope : req.subScope.scope = req.scope) (hthree : req.scope = .three)
    (hrow : row.Matches req) :
    Agreement print catalog tenantId session req row base ↔
      (req.source catalog tenantId hsingle).AgreementCondition (siteMetaOf session tenantId req)
        req := by
  have hsrc : (req.source catalog tenantId hsingle).Serves req := ⟨rfl, rfl⟩
  obtain ⟨r, rfl, hq, hcat, hlabel⟩ := hrow.scope3 hthree
  unfold Agreement FactorSource.AgreementCondition
  rw [dispatch_of_not_process hscope (fun h => by rw [h, hthree] at hscope; cases hscope)]
  rw [hthree] at hscope
  cases hsub : req.subScope <;> rw [hsub] at hscope hcat <;> cases hscope
  case cat1PurchasedGoods =>
      simp only [previewDispatch, batchRecords, hsub]
      exact cat1_agrees hsrc hcat hq hlabel
  case cat3FuelEnergy =>
      simp only [previewDispatch, batchRecords, hsub]
      exact cat3_agrees hsrc _
  case cat4UpstreamTransport =>
      simp only [previewDispatch, batchRecords, hsub, previewS3Cat4]
      exact labelModule_agrees hsrc Scope3Cat4UpstreamTransport.labelModule (by decide) hcat hq
        hlabel
        (by simp only [Scope3Cat4UpstreamTransport.labelModule])
  case cat5Waste =>
      simp only [previewDispatch, batchRecords, hsub, previewS3Cat5]
      exact labelModule_agrees hsrc Scope3Cat5Waste.labelModule (by decide) hcat hq hlabel
        (by simp only [Scope3Cat5Waste.labelModule])
  case cat6BusinessTravel =>
      simp only [previewDispatch, batchRecords, hsub, previewS3Cat6]
      exact labelModule_agrees hsrc Scope3Cat6BusinessTravel.labelModule (by decide) hcat hq hlabel
        (by simp only [Scope3Cat6BusinessTravel.labelModule])
  case cat7Commuting =>
      simp only [previewDispatch, batchRecords, hsub]
      exact cat7_agrees hsrc hcat hq hlabel
  case cat9DownstreamTransport =>
      simp only [previewDispatch, batchRecords, hsub, previewS3Cat9]
      exact labelModule_agrees hsrc Scope3Cat9DownstreamTransport.labelModule (by decide) hcat hq
        hlabel (by simp only [Scope3Cat9DownstreamTransport.labelModule])
  case cat12Eol =>
      simp only [previewDispatch, batchRecords, hsub]
      exact cat12_agrees hsrc hcat hq

end Assembly

/-- The preview of an accepted request agrees with the batch module of its sub-scope exactly under
the condition of that sub-scope. -/
theorem preview_agrees_with_batch (print : Printing) (catalog : FactorCatalog) (tenantId : Uuid)
    (session : Option (List RefSite)) (req : CalcInputRequest) (hreq : req.Accepted)
    (hsingle : SinglePublished catalog tenantId req.gwpSet) (row : RawRow)
    (hrow : row.Matches req) (base : CalcRunInputs) :
    Agreement print catalog tenantId session req row base ↔
      (req.source catalog tenantId hsingle).AgreementCondition (siteMetaOf session tenantId req)
        req := by
  cases hscope : req.scope with
  | one => exact scope1_agrees hsingle hreq.scope_eq hscope hrow
  | two => exact scope2_agrees hsingle hreq.scope_eq hscope hrow
  | three => exact scope3_agrees hsingle hreq.scope_eq hscope hrow

def plainPrinting : Printing where
  dec q := toString q.num ++ "/" ++ toString q.den
  repr text := "'" ++ text ++ "'"

def commutingCatalog : FactorCatalog :=
  ⟨[publishedRow 1 Scope3Cat7Commuting.factorId "kg CO2e / km" .ar6 (17 / 100)], by decide,
    by decide⟩

theorem commutingCatalog_single : SinglePublished commutingCatalog 1 .ar6 := by
  intro r hr s hs _ _ _ _ _ _ _
  rw [List.mem_singleton.mp hr, List.mem_singleton.mp hs]

/-- A thousand kilometres of commuting under a label. -/
def commutingRequest (label : String) : CalcInputRequest where
  scope := .three
  subScope := .cat7Commuting
  anno := 2025
  codiceSito := none
  quantita := 1000
  unita := "km"
  gwpSet := .ar6
  combustibile := none
  processMode := none
  strumentoMb := none
  sottocategoria := some label
  metodo := some .distanceBased
  fonteDato := none
  qualitaDato := none
  note := none
  anno_range := requestAnno_2025
  quantita_pos := by decide

def commutingRow (label : String) : RawScope3Row where
  id := 1
  tenantId := 1
  anno := 2025
  categoriaS3 := 7
  sottocategoria := label
  quantita := (commutingRequest label).quantita
  unita := "km"
  anno_range := anno_2025
  categoria_range := by decide
  quantita_nonneg := (commutingRequest label).quantita_pos.le

def emptyInputs : CalcRunInputs where
  correlationId := .drawn 1
  anno := 2025
  sites := []
  scope1Rows := []
  scope2Rows := []
  scope3Rows := []
  calcTimestamp := 0

theorem preview_agrees_commuting_auto :
    Agreement plainPrinting commutingCatalog 1 none (commutingRequest "commuting_auto")
      (.scope3 (commutingRow "commuting_auto")) emptyInputs := by
  refine (preview_agrees_with_batch plainPrinting commutingCatalog 1 none
    (commutingRequest "commuting_auto") (by decide) commutingCatalog_single
    (.scope3 (commutingRow "commuting_auto")) ⟨rfl, rfl, rfl, rfl, rfl⟩ emptyInputs).mpr ?_
  refine ⟨fun _ => ⟨⟨_, rfl, rfl, rfl⟩, by decide +kernel, by decide +kernel⟩, fun _ => ?_⟩
  exact ⟨_, rfl, rfl, rfl⟩

/-- The preview prices a bus commute as a car, which the batch module leaves out. -/
theorem preview_of_skipped_label :
    ¬ Agreement plainPrinting commutingCatalog 1 none (commutingRequest "bus")
      (.scope3 (commutingRow "bus")) emptyInputs := by
  intro hagrees
  have hpreview : (computePreview plainPrinting (sqlFactorCatalogAdapter commutingCatalog 1) none 1
      (commutingRequest "bus")).toBool = true := by
    decide +kernel
  obtain ⟨records, hrecords, hne⟩ := hagrees.1.mp (exists_ok_of_toBool hpreview)
  have hempty : (batchRecords .cat7Commuting (sqlFactorCatalogAdapter commutingCatalog 1)
      (getGwpValues .ar6) ((RawRow.scope3 (commutingRow "bus")).alone emptyInputs)).toOption.map
        List.length = some 0 := by
    decide +kernel
  have hlength : some records.length = some 0 := by
    rw [← hempty]
    exact congrArg (fun x => Option.map List.length (Except.toOption x)) hrecords.symm
  exact hne (List.length_eq_zero_iff.mp (Option.some.inj hlength))

end GhgTool
