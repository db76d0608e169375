import GhgTool.AutoCalcHandlers

/-!
# What a preview looks up

Each handler of the auto-calc preview reads a fixed list of factors for the reporting year, reports
the first of them, and reads the catalog once more only for a biogenic share. `preview_spec` says
this of all twelve, and `preview_succeeds` when they return a value.
-/

namespace GhgTool

/-- The factors a request is computed from, the reported one first. Nothing is looked up for a label
that no factor is known for, nor for an emission that is entered directly. -/
def lookedUp (req : CalcInputRequest) (country : String) : Option (List String) :=
  match req.subScope with
  | .combustion => req.combustibile.map fun c =>
      [c.componentIds.co2, c.componentIds.ch4, c.componentIds.n2o]
  | .process =>
    match req.effectiveMode with
    | .directTco2 => some []
    | .caco3Mass => some [Scope1Process.factorId]
  | .lb => some [lbFactorIdFor country]
  | .mb => some [mbFactorId req.strumentoMb]
  | .cat1PurchasedGoods => (Scope3Cat1PurchasedGoods.resolve req.label).map ([·])
  | .cat3FuelEnergy => (cat3FactorId req.label).map ([·])
  | .cat4UpstreamTransport => (Scope3Cat4UpstreamTransport.resolveMode req.label).map ([·])
  | .cat5Waste => (Scope3Cat5Waste.resolveWasteFactor req.label).map ([·])
  | .cat6BusinessTravel => (Scope3Cat6BusinessTravel.resolveFactor req.label).map ([·])
  | .cat7Commuting => some [Scope3Cat7Commuting.factorId]
  | .cat9DownstreamTransport => (Scope3Cat9DownstreamTransport.resolveMode req.label).map ([·])
  | .cat12Eol => some [Scope3Cat12Eol.landfillFactorId, Scope3Cat12Eol.recycleFactorId]

theorem requireVintage_ok_iff {port : FactorCatalogPort} {factorId : String} {gwpSet : GwpSet}
    {anno : ℕ} {f : FactorRecord} : requireVintage port factorId gwpSet anno = .ok f ↔
      port.get factorId gwpSet (some anno) = .ok f ∧ f.value ≠ none := by
  unfold requireVintage
  cases port.get factorId gwpSet (some anno) with
  | error e => simp
  | ok record =>
      by_cases hvalue : record.value = none
      · simp only [hvalue, if_true, reduceCtorEq, Except.ok.injEq, false_iff, not_and]
        rintro rfl
        exact not_not.mpr hvalue
      · simp only [hvalue, if_false, Except.ok.injEq, iff_self_and]
        rintro rfl
        exact hvalue

section Handlers

variable (print : Printing) (port : FactorCatalogPort) (req : CalcInputRequest)

/-- The request finds a factor under this id. -/
def FindsFactor (factorId : String) (f : FactorRecord) : Prop :=
  requireVintage port factorId req.gwpSet req.anno = .ok f

/-- The share a request asks for beside its factor. -/
def memoShare (factorId : String) : Option ℚ :=
  if req.subScope = .cat1PurchasedGoods ∧
      factorId ∈ Scope3Cat1PurchasedGoods.biogenicFactorIds then
    port.getBiogenicShare factorId req.gwpSet
  else none

/-- A preview reports this factor, and a biogenic memo exactly when it got a share. -/
structure ReportsFactor (id : String) (f : FactorRecord) (p : CalcPreviewResponse) : Prop where
  factorId : p.factorId = f.factorId
  version : p.factorVersion = f.version
  source : p.factorSource = f.source
  value : p.factorValue = f.valueOrZero
  memo : p.co2BiogenicTonne.isSome = (memoShare port req id).isSome

/-- What a preview computed from the factors `ids` shows of them. -/
inductive Traced : List String → CalcPreviewResponse → Prop
  | direct {p : CalcPreviewResponse} (hid : p.factorId = "DIRECT_TCO2_INPUT")
      (hmemo : p.co2BiogenicTonne = none) : Traced [] p
  | factor {factorId : String} {ids : List String} {f : FactorRecord} {p : CalcPreviewResponse}
      (hf : FindsFactor port req factorId f) (hp : ReportsFactor port req factorId f p) :
      Traced (factorId :: ids) p

/-- What a handler promises of the factors `ids`. -/
def HandlerSpec (ids : Option (List String)) (p : CalcPreviewResponse) : Prop :=
  ∃ l, ids = some l ∧ (∀ factorId ∈ l, ∃ f, FindsFactor port req factorId f) ∧
    Traced port req l p ∧
    ((∀ factorId ∈ l, ∀ f, FindsFactor port req factorId f → 0 ≤ f.valueOrZero) → 0 ≤ p.tco2e)

variable {print port req} {country : String}

/-- One factor, multiplied by amounts that are not negative. -/
theorem handlerSpec_single {factorId : String} {f : FactorRecord} {p : CalcPreviewResponse}
    (hf : FindsFactor port req factorId f) (hp : ReportsFactor port req factorId f p) {a b : ℚ}
    (htco2e : p.tco2e = roundHalfUp 6 (f.valueOrZero * a * b)) (ha : 0 ≤ a) (hb : 0 ≤ b) :
    HandlerSpec port req (some [factorId]) p := by
  refine ⟨_, rfl, by simpa using ⟨f, hf⟩, .factor hf hp, fun hnonneg => ?_⟩
  have hvalue := hnonneg factorId (by simp) f hf
  rw [htco2e]
  exact roundHalfUp_nonneg 6 (by positivity)

theorem kgToTonne_nonneg : 0 ≤ kgToTonne :=
  kgToTonne_pos.le

theorem gwp_nonneg (gwpSet : GwpSet) :
    0 ≤ (getGwpValues gwpSet).ch4 ∧ 0 ≤ (getGwpValues gwpSet).n2o := by
  cases gwpSet with
  | ar6 => norm_num [getGwpValues, gwpAr6]
  | ar5 => norm_num [getGwpValues, gwpAr5]

theorem finds_of_bind {factorId : String} {p : CalcPreviewResponse}
    {k : FactorRecord → Except PreviewError CalcPreviewResponse}
    (h : requireVintage port factorId req.gwpSet req.anno >>= k = .ok p) :
    ∃ f, FindsFactor port req factorId f ∧ k f = .ok p :=
  bind_eq_ok.mp h

theorem spec_combustion {p : CalcPreviewResponse} (hsub : req.subScope = .combustion)
    (h : previewS1Combustion print port req = .ok p) :
    HandlerSpec port req (lookedUp req country) p := by
  unfold previewS1Combustion at h
  simp only [lookedUp, hsub]
  cases hfuel : req.combustibile with
  | none => simp [hfuel] at h
  | some c =>
      simp only [hfuel] at h
      obtain ⟨co2, hco2, h⟩ := finds_of_bind h
      obtain ⟨ch4, hch4, h⟩ := finds_of_bind h
      obtain ⟨n2o, hn2o, h⟩ := finds_of_bind h
      cases h
      refine ⟨_, rfl, ?_, .factor hco2 ⟨rfl, rfl, rfl, rfl, by simp [memoShare, hsub, factorTrace]⟩,
        fun hnonneg => roundHalfUp_nonneg 6 ?_⟩
      · intro factorId hmem
        simp only [List.mem_cons, List.not_mem_nil, or_false] at hmem
        rcases hmem with rfl | rfl | rfl
        · exact ⟨co2, hco2⟩
        · exact ⟨ch4, hch4⟩
        · exact ⟨n2o, hn2o⟩
      · obtain ⟨hgwpCh4, hgwpN2o⟩ := gwp_nonneg req.gwpSet
        have hq := req.quantita_pos
        have hkg := kgToTonne_nonneg
        have h1 := hnonneg _ (by simp) co2 hco2
        have h2 := hnonneg _ (by simp) ch4 hch4
        have h3 := hnonneg _ (by simp) n2o hn2o
        positivity

theorem memoShare_of_ne (h : req.subScope ≠ .cat1PurchasedGoods) (factorId : String) :
    memoShare port req factorId = none :=
  if_neg fun hcat => h hcat.1

theorem spec_process {p : CalcPreviewResponse} (hsub : req.subScope = .process)
    (h : previewS1Process print port req = .ok p) :
    HandlerSpec port req (lookedUp req country) p := by
  have hq := req.quantita_pos
  unfold previewS1Process at h
  simp only [lookedUp, hsub]
  cases hmode : req.effectiveMode with
  | directTco2 =>
      simp only [hmode] at h
      cases h
      exact ⟨[], rfl, by simp, .direct rfl rfl, fun _ => roundHalfUp_nonneg 6 hq.le⟩
  | caco3Mass =>
      simp only [hmode] at h
      obtain ⟨f, hf, h⟩ := finds_of_bind h
      by_cases hvalue : f.value = some (4397 / 10000)
      · simp only [hvalue, ne_eq, not_true_eq_false, if_false] at h
        cases h
        refine handlerSpec_single hf ⟨rfl, rfl, rfl, rfl, ?_⟩ (a := req.quantita) (b := 1) ?_ hq.le
          (by norm_num)
        · simp [memoShare, hsub, factorTrace]
        · simp [factorTrace, quantizeTco2e]
      · simp only [hvalue, ne_eq, not_false_eq_true, if_true] at h
        cases h

theorem quantitaKwh_nonneg {a : ℚ × Option String} (h : quantitaKwh print req = .ok a) :
    0 ≤ a.1 := by
  have hq := req.quantita_pos
  rw [fst_of_quantitaKwh h]
  unfold kwhMultiplier
  split_ifs
  · simpa using hq.le
  · rw [Option.getD_some]
    positivity
  · simp

theorem spec_lb {p : CalcPreviewResponse} (hsub : req.subScope = .lb)
    (h : previewS2Lb print port req country = .ok p) :
    HandlerSpec port req (lookedUp req country) p := by
  unfold previewS2Lb at h
  simp only [lookedUp, hsub]
  obtain ⟨f, hf, h⟩ := bind_eq_ok.mp h
  obtain ⟨a, ha, h⟩ := bind_eq_ok.mp h
  cases h
  refine handlerSpec_single (requireLbFactor_eq_ok.mp hf) ⟨rfl, rfl, rfl, rfl, ?_⟩ rfl
    (quantitaKwh_nonneg ha) kgToTonne_nonneg
  simp [memoShare, hsub, factorTrace]

theorem spec_mb {p : CalcPreviewResponse} (hsub : req.subScope = .mb)
    (h : previewS2Mb print port req = .ok p) :
    HandlerSpec port req (lookedUp req country) p := by
  unfold previewS2Mb at h
  simp only [lookedUp, hsub]
  obtain ⟨f, hf, h⟩ := finds_of_bind h
  obtain ⟨a, ha, h⟩ := bind_eq_ok.mp h
  cases h
  refine handlerSpec_single hf ⟨rfl, rfl, rfl, rfl, ?_⟩ rfl (quantitaKwh_nonneg ha)
    kgToTonne_nonneg
  simp [memoShare, hsub, factorTrace]

theorem spec_cat1 {p : CalcPreviewResponse} (hsub : req.subScope = .cat1PurchasedGoods)
    (h : previewS3Cat1 print port req = .ok p) :
    HandlerSpec port req (lookedUp req country) p := by
  unfold previewS3Cat1 at h
  simp only [lookedUp, hsub]
  cases hlabel : Scope3Cat1PurchasedGoods.resolve req.label with
  | none => simp [hlabel] at h
  | some factorId =>
      simp only [hlabel] at h
      obtain ⟨f, hf, h⟩ := finds_of_bind h
      cases h
      refine handlerSpec_single hf ⟨rfl, rfl, rfl, rfl, ?_⟩ rfl req.quantita_pos.le
        kgToTonne_nonneg
      simp [memoShare, hsub]

theorem spec_label {p : CalcPreviewResponse} {resolve : String → Option String}
    {methodology : Methodology} {unit tag : String} (hsub : req.subScope ≠ .cat1PurchasedGoods)
    (h : previewLabel print port req resolve methodology unit tag = .ok p) :
    HandlerSpec port req ((resolve req.label).map ([·])) p := by
  unfold previewLabel at h
  cases hlabel : resolve req.label with
  | none => simp [hlabel] at h
  | some factorId =>
      simp only [hlabel] at h
      obtain ⟨f, hf, h⟩ := finds_of_bind h
      cases h
      refine handlerSpec_single hf ⟨rfl, rfl, rfl, rfl, ?_⟩ rfl req.quantita_pos.le
        kgToTonne_nonneg
      rw [memoShare_of_ne hsub]
      rfl

theorem spec_cat7 {p : CalcPreviewResponse} (hsub : req.subScope = .cat7Commuting)
    (h : previewS3Cat7 print port req = .ok p) :
    HandlerSpec port req (lookedUp req country) p := by
  unfold previewS3Cat7 at h
  simp only [lookedUp, hsub]
  obtain ⟨f, hf, h⟩ := finds_of_bind h
  cases h
  refine handlerSpec_single hf ⟨rfl, rfl, rfl, rfl, ?_⟩ rfl req.quantita_pos.le kgToTonne_nonneg
  simp [memoShare, hsub, factorTrace]

theorem spec_cat12 {p : CalcPreviewResponse} (hsub : req.subScope = .cat12Eol)
    (h : previewS3Cat12 print port req = .ok p) :
    HandlerSpec port req (lookedUp req country) p := by
  unfold previewS3Cat12 at h
  simp only [lookedUp, hsub]
  obtain ⟨landfill, hlandfill, h⟩ := finds_of_bind h
  obtain ⟨recycle, hrecycle, h⟩ := finds_of_bind h
  cases h
  refine ⟨_, rfl, ?_, .factor hlandfill ⟨rfl, rfl, rfl, rfl, by
    simp [memoShare, hsub, factorTrace]⟩, fun hnonneg => roundHalfUp_nonneg 6 ?_⟩
  · intro factorId hmem
    simp only [List.mem_cons, List.not_mem_nil, or_false] at hmem
    rcases hmem with rfl | rfl
    · exact ⟨landfill, hlandfill⟩
    · exact ⟨recycle, hrecycle⟩
  · have hq := req.quantita_pos
    have hkg := kgToTonne_nonneg
    have h1 := hnonneg _ (by simp) landfill hlandfill
    have h2 := hnonneg _ (by simp) recycle hrecycle
    have hparts : 0 ≤ Scope3Cat12Eol.landfillFraction ∧ 0 ≤ Scope3Cat12Eol.recycleFraction := by
      norm_num [Scope3Cat12Eol.landfillFraction, Scope3Cat12Eol.recycleFraction]
    obtain ⟨hland, hrec⟩ := hparts
    positivity

/-- A handler that returns a value found all its factors, and reports the first of them. -/
theorem preview_spec {p : CalcPreviewResponse}
    (h : previewDispatch print port req country = .ok p) :
    HandlerSpec port req (lookedUp req country) p := by
  unfold previewDispatch at h
  cases hsub : req.subScope
  all_goals simp only [hsub] at h
  case combustion => exact spec_combustion hsub h
  case process => exact spec_process hsub h
  case lb => exact spec_lb hsub h
  case mb => exact spec_mb hsub h
  case cat1PurchasedGoods => exact spec_cat1 hsub h
  case cat7Commuting => exact spec_cat7 hsub h
  case cat12Eol => exact spec_cat12 hsub h
  all_goals
    simp only [lookedUp, hsub]
    exact spec_label (by simp [hsub]) h

/-! ## When a preview succeeds -/

/-- The unit of a Scope 2 request converts to kWh. -/
def UnitConverts (req : CalcInputRequest) : Prop :=
  req.subScope.scope = .two → (kwhMultiplier req.unita).isSome = true

theorem succeeds_label {resolve : String → Option String} {methodology : Methodology}
    {unit tag : String} {ids : List String} (hids : (resolve req.label).map ([·]) = some ids)
    (hfound : ∀ factorId ∈ ids, ∃ f, FindsFactor port req factorId f) :
    ∃ p, previewLabel print port req resolve methodology unit tag = .ok p := by
  obtain ⟨factorId, hlabel, rfl⟩ := Option.map_eq_some_iff.mp hids
  obtain ⟨f, hf⟩ := hfound factorId (by simp)
  unfold previewLabel
  simp only [hlabel]
  exact ⟨_, bind_eq_ok.mpr ⟨f, hf, rfl⟩⟩

/-- A preview succeeds once its factors are found, with the stoichiometric one at its constant. -/
theorem preview_succeeds {ids : List String} (hids : lookedUp req country = some ids)
    (hunit : UnitConverts req)
    (hfound : ∀ factorId ∈ ids, ∃ f, FindsFactor port req factorId f)
    (hconstant : ∀ f, FindsFactor port req Scope1Process.factorId f →
      f.value = some (4397 / 10000)) :
    ∃ p, previewDispatch print port req country = .ok p := by
  unfold previewDispatch
  cases hsub : req.subScope
  all_goals simp only [lookedUp, hsub] at hids
  case combustion =>
    obtain ⟨c, hfuel, rfl⟩ := Option.map_eq_some_iff.mp hids
    obtain ⟨co2, hco2⟩ := hfound c.componentIds.co2 (by simp)
    obtain ⟨ch4, hch4⟩ := hfound c.componentIds.ch4 (by simp)
    obtain ⟨n2o, hn2o⟩ := hfound c.componentIds.n2o (by simp)
    simp only [previewS1Combustion, hfuel]
    exact ⟨_, bind_eq_ok.mpr ⟨co2, hco2, bind_eq_ok.mpr ⟨ch4, hch4,
      bind_eq_ok.mpr ⟨n2o, hn2o, rfl⟩⟩⟩⟩
  case process =>
    unfold previewS1Process
    cases hmode : req.effectiveMode with
    | directTco2 => exact ⟨_, rfl⟩
    | caco3Mass =>
        simp only [hmode] at hids
        obtain ⟨f, hf⟩ := hfound Scope1Process.factorId (by simp [← Option.some.inj hids])
        refine exists_bind_ok hf ?_
        simp only [hconstant f hf, ne_eq, not_true_eq_false, if_false]
        exact ⟨_, rfl⟩
  case lb =>
    obtain ⟨f, hf⟩ := hfound (lbFactorIdFor country) (by simp [← Option.some.inj hids])
    obtain ⟨a, ha⟩ := (exists_quantitaKwh print req).mpr (hunit (by rw [hsub]; rfl))
    exact ⟨_, bind_eq_ok.mpr ⟨f, requireLbFactor_eq_ok.mpr hf, bind_eq_ok.mpr ⟨a, ha, rfl⟩⟩⟩
  case mb =>
    obtain ⟨f, hf⟩ := hfound (mbFactorId req.strumentoMb) (by simp [← Option.some.inj hids])
    obtain ⟨a, ha⟩ := (exists_quantitaKwh print req).mpr (hunit (by rw [hsub]; rfl))
    exact ⟨_, bind_eq_ok.mpr ⟨f, hf, bind_eq_ok.mpr ⟨a, ha, rfl⟩⟩⟩
  case cat1PurchasedGoods =>
    obtain ⟨factorId, hlabel, rfl⟩ := Option.map_eq_some_iff.mp hids
    obtain ⟨f, hf⟩ := hfound factorId (by simp)
    simp only [previewS3Cat1, hlabel]
    exact ⟨_, bind_eq_ok.mpr ⟨f, hf, rfl⟩⟩
  case cat7Commuting =>
    obtain ⟨f, hf⟩ := hfound Scope3Cat7Commuting.factorId (by simp [← Option.some.inj hids])
    exact ⟨_, bind_eq_ok.mpr ⟨f, hf, rfl⟩⟩
  case cat12Eol =>
    obtain ⟨landfill, hlandfill⟩ :=
      hfound Scope3Cat12Eol.landfillFactorId (by simp [← Option.some.inj hids])
    obtain ⟨recycle, hrecycle⟩ :=
      hfound Scope3Cat12Eol.recycleFactorId (by simp [← Option.some.inj hids])
    exact ⟨_, bind_eq_ok.mpr ⟨landfill, hlandfill, bind_eq_ok.mpr ⟨recycle, hrecycle, rfl⟩⟩⟩
  all_goals exact succeeds_label hids hfound

theorem unitConverts_of_preview {p : CalcPreviewResponse}
    (h : previewDispatch print port req country = .ok p) : UnitConverts req := by
  unfold previewDispatch at h
  intro hscope
  cases hsub : req.subScope
  all_goals rw [hsub] at hscope
  case lb =>
    simp only [hsub] at h
    obtain ⟨f, -, h⟩ := bind_eq_ok.mp h
    obtain ⟨a, ha, -⟩ := bind_eq_ok.mp h
    exact (exists_quantitaKwh print req).mp ⟨a, ha⟩
  case mb =>
    simp only [hsub] at h
    obtain ⟨f, -, h⟩ := bind_eq_ok.mp h
    obtain ⟨a, ha, -⟩ := bind_eq_ok.mp h
    exact (exists_quantitaKwh print req).mp ⟨a, ha⟩
  all_goals cases hscope

theorem computePreview_ok_iff {session : Option (List RefSite)} {tenantId : Uuid}
    {p : CalcPreviewResponse} : computePreview print port session tenantId req = .ok p ↔
      req.subScope.scope = req.scope ∧
        (req.subScope = .process → SiteAllows (siteMetaOf session tenantId req)) ∧
        previewDispatch print port req (countryOf (siteMetaOf session tenantId req)) = .ok p := by
  by_cases hscope : req.subScope.scope = req.scope
  · by_cases hsite : req.subScope = .process → SiteAllows (siteMetaOf session tenantId req)
    · rw [computePreview_eq_dispatch hscope hsite]
      exact ⟨fun h => ⟨hscope, hsite, h⟩, fun h => h.2.2⟩
    · obtain ⟨hsub, hrefused⟩ := Classical.not_imp.mp hsite
      have herror : ∃ e, computePreview print port session tenantId req = .error e :=
        computePreview_refused hscope hsub hrefused
      obtain ⟨e, he⟩ := herror
      rw [he]
      exact ⟨fun h => (by cases h), fun h => absurd h.2.1 hsite⟩
  · have herror : computePreview print port session tenantId req =
        .error (.noHandler req.scope req.subScope) := if_pos hscope
    rw [herror]
    exact ⟨fun h => (by cases h), fun h => absurd h.1 hscope⟩

end Handlers

end GhgTool
