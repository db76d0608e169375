import Mathlib.Tactic.Linarith
import Mathlib.Tactic.Positivity
import GhgTool.PreviewSides

/-!
# Preview and batch, handler by handler

Each side succeeds under a condition on the catalog, the label, the unit and the site, and then
yields an amount linear in the quantity; the two agree when conditions and rounded amounts do.
-/

namespace GhgTool

/-! ## When the two agree -/

/-- The site check passes: the site is unknown, or a production plant. -/
def SiteAllows (site : Option SiteMeta) : Prop :=
  ∀ s ∈ site, s.siteType = .stabilimentoProduttivo

def countryOf (site : Option SiteMeta) : String :=
  (site.map SiteMeta.country).getD "IT"

/-- The multiplier from the unit of a Scope 2 request to kWh. -/
def kwhMultiplier (unita : String) : Option ℚ :=
  if strip (lower unita) = "kwh" then some 1
  else if strip (lower unita) = "mwh" then some 1000
  else none

/-- The quantities that round to the same amount as themselves and as 0.4397 of themselves. -/
def RoundsAway (quantita : ℚ) : Prop :=
  quantita * 10 ^ 6 < 1 / 2 ∨
    1 / 2 ≤ 4397 / 10000 * quantita * 10 ^ 6 ∧ quantita * 10 ^ 6 < 3 / 2

namespace FactorSource

variable (src : FactorSource)

def biogenicOf (factorId : String) : Option ℚ :=
  (src.published factorId).bind CatalogRow.biogenicCo2KgPerUnit

/-- A factor read by both sides is found by both or by neither, and is not negative. -/
def Alike (factorId : String) : Prop :=
  src.Vintaged factorId ↔ src.Open factorId ∧ 0 ≤ src.valueOf factorId

/-- Two factors give the same rounded tonnes for a quantity. -/
def SameTonnes (quantita : ℚ) (a b : ℚ) : Prop :=
  roundHalfUp 6 (a * quantita * kgToTonne) = roundHalfUp 6 (b * quantita * kgToTonne)

def AgreementCondition (site : Option SiteMeta) (req : CalcInputRequest) : Prop :=
  match req.subScope with
  | .combustion => ∀ c ∈ req.combustibile,
      let ids := c.componentIds
      let gwp := getGwpValues req.gwpSet
      src.Vintaged ids.co2 ∧ src.Vintaged ids.ch4 ∧ src.Vintaged ids.n2o ↔
        src.Open ids.co2 ∧ src.Open ids.ch4 ∧ src.Open ids.n2o ∧ 0 ≤ src.valueOf ids.co2 ∧
          0 ≤ src.valueOf ids.co2 + src.valueOf ids.ch4 * gwp.ch4 + src.valueOf ids.n2o * gwp.n2o
  | .process =>
    let factorId := Scope1Process.factorId
    match req.effectiveMode with
    | .directTco2 =>
      (SiteAllows site ↔ src.Open factorId ∧ src.valueOf factorId = 4397 / 10000) ∧
        (SiteAllows site → RoundsAway req.quantita)
    | .caco3Mass =>
      (SiteAllows site ∧ src.Vintaged factorId ∧ src.valueOf factorId = 4397 / 10000 ↔
        src.Open factorId ∧ src.valueOf factorId = 4397 / 10000)
  | .lb =>
    let factorId := lbFactorIdFor (countryOf site)
    (src.Vintaged factorId ∧ (kwhMultiplier req.unita).isSome = true ↔
        src.Open Scope2Lb.lbFactorId ∧ 0 ≤ src.valueOf Scope2Lb.lbFactorId) ∧
      (src.Vintaged factorId → ∀ k ∈ kwhMultiplier req.unita,
        SameTonnes req.quantita (src.valueOf factorId * k) (src.valueOf Scope2Lb.lbFactorId))
  | .mb =>
    let factorId := mbFactorId req.strumentoMb
    (src.Vintaged factorId ∧ (kwhMultiplier req.unita).isSome = true ↔
        src.Open Scope2Mb.goZeroFactorId ∧ src.Open Scope2Mb.residualFactorId ∧
          0 ≤ src.valueOf Scope2Mb.residualFactorId) ∧
      (src.Vintaged factorId → ∀ k ∈ kwhMultiplier req.unita,
        SameTonnes req.quantita (src.valueOf factorId * k) (src.valueOf Scope2Mb.residualFactorId))
  | .cat1PurchasedGoods => ∀ factorId ∈ Scope3Cat1PurchasedGoods.resolve req.label,
      (src.Vintaged factorId ↔ src.Open factorId ∧ 0 ≤ src.valueOf factorId ∧
        (factorId ∈ Scope3Cat1PurchasedGoods.biogenicFactorIds →
          ∀ b ∈ src.biogenicOf factorId, 0 ≤ b))
  | .cat3FuelEnergy => ∀ factorId ∈ cat3FactorId req.label, ¬ src.Vintaged factorId
  | .cat4UpstreamTransport =>
    ∀ factorId ∈ Scope3Cat4UpstreamTransport.resolveMode req.label, src.Alike factorId
  | .cat5Waste => ∀ factorId ∈ Scope3Cat5Waste.resolveWasteFactor req.label, src.Alike factorId
  | .cat6BusinessTravel =>
    ∀ factorId ∈ Scope3Cat6BusinessTravel.resolveFactor req.label, src.Alike factorId
  | .cat7Commuting =>
    (src.Vintaged Scope3Cat7Commuting.factorId ↔ src.Open Scope3Cat7Commuting.factorId ∧
      lower (strip req.label) = "commuting_auto" ∧ 0 ≤ src.valueOf Scope3Cat7Commuting.factorId)
  | .cat9DownstreamTransport =>
    ∀ factorId ∈ Scope3Cat9DownstreamTransport.resolveMode req.label, src.Alike factorId
  | .cat12Eol =>
    let landfill := Scope3Cat12Eol.landfillFactorId
    let recycle := Scope3Cat12Eol.recycleFactorId
    (src.Vintaged landfill ∧ src.Vintaged recycle ↔
      src.Open landfill ∧ src.Open recycle ∧ 0 ≤ src.valueOf landfill ∧ 0 ≤ src.valueOf recycle)

end FactorSource

/-! ## The arithmetic of the amounts -/

theorem kgToTonne_pos : 0 < kgToTonne := by
  norm_num [kgToTonne]

theorem tonnes_nonneg_iff {v q : ℚ} (hq : 0 < q) : 0 ≤ v * q * kgToTonne ↔ 0 ≤ v := by
  rw [mul_nonneg_iff_of_pos_right kgToTonne_pos, mul_nonneg_iff_of_pos_right hq]

/-- Rounding keeps a quantity and 0.4397 of it apart from the second millionth on. -/
theorem roundHalfUp_stoichiometric {q : ℚ} (hq : 0 < q) :
    roundHalfUp 6 q = roundHalfUp 6 (4397 / 10000 * q) ↔ RoundsAway q := by
  rw [roundHalfUp_eq_iff 6 hq.le (by positivity)]
  unfold RoundsAway
  set x : ℚ := q * 10 ^ 6 with hx
  have hxpos : 0 < x := by positivity
  have hscaled : 4397 / 10000 * q * 10 ^ 6 = 4397 / 10000 * x := by rw [hx]; ring
  rw [hscaled]
  constructor
  · intro hfloor
    by_contra! hnot
    obtain ⟨hhalf, hrest⟩ := hnot
    by_cases hsmall : x < 3 / 2
    · have hlow : 4397 / 10000 * x < 1 / 2 := by
        by_contra! hge
        exact absurd (hrest hge) (not_le.mpr hsmall)
      have hone : ⌊x + 1 / 2⌋ = 1 := floor_half_eq (by norm_num; linarith) (by norm_num; linarith)
      have hzero : ⌊4397 / 10000 * x + 1 / 2⌋ = 0 :=
        floor_half_eq (by norm_num; linarith) (by norm_num; linarith)
      omega
    · have hlarge : 3 / 2 ≤ x := not_lt.mp hsmall
      have hlow := Int.lt_floor_add_one (x + 1 / 2)
      have hhigh := Int.floor_le (4397 / 10000 * x + 1 / 2)
      rw [← hfloor] at hhigh
      -- the two scaled amounts are 0.56 of `x` apart, so `x` is below 2 and rounds to 2
      have hbound : x < 2 := by linarith
      have htwo : ⌊x + 1 / 2⌋ = 2 := floor_half_eq (by norm_num; linarith) (by norm_num; linarith)
      rw [htwo] at hhigh
      push_cast at hhigh
      linarith
  · rintro (hsmall | ⟨hlow, hhigh⟩)
    · have hzero : ⌊x + 1 / 2⌋ = 0 := floor_half_eq (by norm_num; linarith) (by norm_num; linarith)
      have hzero' : ⌊4397 / 10000 * x + 1 / 2⌋ = 0 :=
        floor_half_eq (by norm_num; linarith) (by norm_num; linarith)
      rw [hzero, hzero']
    · have hone : ⌊x + 1 / 2⌋ = 1 := floor_half_eq (by norm_num; linarith) (by norm_num; linarith)
      have hone' : ⌊4397 / 10000 * x + 1 / 2⌋ = 1 :=
        floor_half_eq (by norm_num; linarith) (by norm_num; linarith)
      rw [hone, hone']

/-! ## Handler by handler -/

section Handlers

variable {print : Printing} {src : FactorSource} {req : CalcInputRequest} {ctx : RunContext}

/-- The factors are read for the GWP set and the year of the request. -/
def FactorSource.Serves (src : FactorSource) (req : CalcInputRequest) : Prop :=
  src.gwpSet = req.gwpSet ∧ src.anno = req.anno

theorem previews_requireVintage (hsrc : src.Serves req) {factorId : String} {R : Prop} {q : ℚ}
    {k : FactorRecord → Except PreviewError CalcPreviewResponse}
    (hk : ∀ f, src.Carries factorId f → Previews (k f) R q) :
    Previews (requireVintage src.port factorId req.gwpSet req.anno >>= k)
      (src.Vintaged factorId ∧ R) q := by
  rw [← hsrc.1, ← hsrc.2]
  exact FactorSource.previews_bind hk

theorem emits_requireFactor (hsrc : src.Serves req) {factorId : String} {R : Prop} {q : ℚ}
    {k : FactorRecord → Except CalcError (List EmissionRecord)}
    (hk : ∀ f, src.Carries factorId f → Emits (k f) R q) :
    Emits (requireFactor src.port factorId (getGwpValues req.gwpSet).code >>= k)
      (src.Open factorId ∧ R) q := by
  rw [getGwpValues_code, ← hsrc.1]
  exact FactorSource.emits_bind hk

/-- One Scope 3 record is emitted exactly when its factor is not negative. -/
theorem emits_scope3 {subScope : SubScope} (hsub : subScope ∈ allowedSubScopes .three)
    {methodology : Methodology} {gwp : GwpValues} {row : RawScope3Row} {factorId : String}
    {f : FactorRecord} (hf : src.Carries factorId f) {q : ℚ} (hq : 0 < q) :
    Emits (emit ctx (scope3Args subScope methodology gwp row f q)) (0 ≤ src.valueOf factorId)
      (src.valueOf factorId * q * kgToTonne) := by
  refine (emits_emit ctx _).congr ?_ ?_
  · simp only [scope3Args, hf.valueOrZero, tonnes_nonneg_iff hq, hsub, Option.mem_def,
      reduceCtorEq, IsEmpty.forall_iff, implies_true, and_true]
  · simp only [scope3Args, hf.valueOrZero]

theorem previews_previewLabel (hsrc : src.Serves req) {resolve : String → Option String}
    {methodology : Methodology} {unit tag factorId : String}
    (hres : resolve req.label = some factorId) :
    Previews (previewLabel print src.port req resolve methodology unit tag)
      (src.Vintaged factorId ∧ True) (src.valueOf factorId * req.quantita * kgToTonne) := by
  unfold previewLabel
  rw [hres]
  refine previews_requireVintage hsrc fun f hf => previews_pure _ ?_
  rw [← hf.valueOrZero]
  rfl

theorem emits_labelModule (hsrc : src.Serves req) (m : LabelModule)
    (hsub : m.subScope ∈ allowedSubScopes .three) {row : RawScope3Row}
    (hcat : row.categoriaS3 = m.categoria) (hq : 0 < row.quantita) {factorId : String}
    (hres : m.resolve row.sottocategoria = some factorId) :
    Emits (m.calculate [row] src.port (getGwpValues req.gwpSet) ctx)
      (src.Open factorId ∧ 0 ≤ src.valueOf factorId)
      (src.valueOf factorId * row.quantita * kgToTonne) := by
  unfold LabelModule.calculate
  rw [collect_singleton, if_neg (not_not.mpr hcat), hres]
  exact emits_requireFactor hsrc fun f hf => emits_scope3 hsub hf hq

theorem emits_labelModule_none (m : LabelModule) {gwp : GwpValues} {row : RawScope3Row}
    (hres : m.resolve row.sottocategoria = none) {q : ℚ} :
    Emits (m.calculate [row] src.port gwp ctx) False q := by
  refine yields_none fun records h => ?_
  unfold LabelModule.calculate at h
  rw [collect_singleton, hres] at h
  split_ifs at h <;> cases h <;> simp

theorem labelModule_agrees (hsrc : src.Serves req) (m : LabelModule)
    (hsub : m.subScope ∈ allowedSubScopes .three) {row : RawScope3Row}
    (hcat : row.categoriaS3 = m.categoria) (hq : row.quantita = req.quantita)
    (hlabel : req.sottocategoria = some row.sottocategoria) {resolve : String → Option String}
    (hresolve : m.resolve = resolve) {methodology : Methodology} {unit tag : String} :
    PreviewAgrees (previewLabel print src.port req resolve methodology unit tag)
        (m.calculate [row] src.port (getGwpValues req.gwpSet) ctx) ↔
      ∀ factorId ∈ resolve req.label, src.Alike factorId := by
  subst hresolve
  have hreq : req.label = row.sottocategoria := by rw [CalcInputRequest.label, hlabel]; rfl
  cases hres : m.resolve req.label with
  | none =>
      have hpreview : Previews (previewLabel print src.port req m.resolve methodology unit tag)
          False 0 := by
        unfold previewLabel
        rw [hres]
        exact previews_error _ 0
      rw [hreq] at hres
      rw [previewAgrees_iff hpreview (emits_labelModule_none m hres (q := 0))]
      simp
  | some factorId =>
      have hpos : 0 < row.quantita := by rw [hq]; exact req.quantita_pos
      have hbatch := hreq ▸ hres
      rw [previewAgrees_iff (previews_previewLabel hsrc hres)
        (emits_labelModule hsrc m hsub hcat hpos hbatch), hq]
      simp [FactorSource.Alike]

theorem combustion_agrees (hsrc : src.Serves req) {c : Combustibile}
    (hc : req.combustibile = some c) {row : RawScope1Row} (hfuel : row.combustibile = c.code)
    (hq : row.quantita = req.quantita) :
    let ids := c.componentIds
    let gwp := getGwpValues req.gwpSet
    PreviewAgrees (previewS1Combustion print src.port req)
        (Scope1Combustion.calculate [row] src.port gwp ctx) ↔
      (src.Vintaged ids.co2 ∧ src.Vintaged ids.ch4 ∧ src.Vintaged ids.n2o ↔
        src.Open ids.co2 ∧ src.Open ids.ch4 ∧ src.Open ids.n2o ∧ 0 ≤ src.valueOf ids.co2 ∧
          0 ≤ src.valueOf ids.co2 + src.valueOf ids.ch4 * gwp.ch4 +
            src.valueOf ids.n2o * gwp.n2o) := by
  intro ids gwp
  have hpos := req.quantita_pos
  let q := src.valueOf ids.co2 * req.quantita * kgToTonne +
    src.valueOf ids.ch4 * req.quantita * kgToTonne * gwp.ch4 +
      src.valueOf ids.n2o * req.quantita * kgToTonne * gwp.n2o
  have htotal : q = (src.valueOf ids.co2 + src.valueOf ids.ch4 * gwp.ch4 +
      src.valueOf ids.n2o * gwp.n2o) * req.quantita * kgToTonne := by
    simp only [q]
    ring
  have hpreview : Previews (previewS1Combustion print src.port req)
      (src.Vintaged ids.co2 ∧ src.Vintaged ids.ch4 ∧ src.Vintaged ids.n2o ∧ True) q := by
    unfold previewS1Combustion
    rw [hc]
    refine previews_requireVintage hsrc fun co2 hco2 => previews_requireVintage hsrc fun ch4 hch4 =>
      previews_requireVintage hsrc fun n2o hn2o => previews_pure _ ?_
    simp only [factorTrace, quantizeTco2e, hco2.valueOrZero, hch4.valueOrZero, hn2o.valueOrZero]
    rfl
  have hbatch : Emits (Scope1Combustion.calculate [row] src.port gwp ctx)
      (src.Open ids.co2 ∧ src.Open ids.ch4 ∧ src.Open ids.n2o ∧ 0 ≤ src.valueOf ids.co2 ∧
        0 ≤ src.valueOf ids.co2 + src.valueOf ids.ch4 * gwp.ch4 + src.valueOf ids.n2o * gwp.n2o)
      q := by
    unfold Scope1Combustion.calculate
    rw [collect_singleton, hfuel, lookup_code]
    refine emits_requireFactor hsrc fun co2 hco2 => emits_requireFactor hsrc fun ch4 hch4 =>
      emits_requireFactor hsrc fun n2o hn2o => (emits_emit ctx _).congr ?_ ?_
    · simp only [hco2.valueOrZero, hch4.valueOrZero, hn2o.valueOrZero, hq]
      change (0 ≤ q ∧ _) ↔ _
      rw [htotal, tonnes_nonneg_iff hpos]
      simp only [Option.mem_def, Option.some.injEq, forall_eq', tonnes_nonneg_iff hpos,
        reduceCtorEq, IsEmpty.forall_iff, implies_true, true_and, allowedSubScopes, List.mem_cons,
        true_or]
      exact and_comm
    · simp only [hco2.valueOrZero, hch4.valueOrZero, hn2o.valueOrZero, hq, q]
      rfl
  rw [previewAgrees_iff hpreview hbatch]
  simp only [and_true, implies_true]

/-- The batch module checks the constant before the row. -/
theorem emits_process (hsrc : src.Serves req) {row : RawScope1Row}
    (htag : row.categoriaS1 = Scope1Process.processCategoryTag) (hq : row.quantita = req.quantita) :
    Emits (Scope1Process.calculate [row] src.port (getGwpValues req.gwpSet) ctx)
      (src.Open Scope1Process.factorId ∧ src.valueOf Scope1Process.factorId = 4397 / 10000)
      (4397 / 10000 * req.quantita) := by
  refine emits_requireFactor hsrc fun f hf => ?_
  have hvalue : f.value = some (src.valueOf Scope1Process.factorId) := hf
  by_cases hstoich : src.valueOf Scope1Process.factorId = 4397 / 10000
  · have hpos := req.quantita_pos
    have hco2 : (getGwpValues req.gwpSet).co2 = 1 := by cases req.gwpSet <;> rfl
    have hhandles : Scope1Process.handles row = true := by simp [Scope1Process.handles, htag]
    rw [hstoich] at hvalue
    simp only [hvalue, ne_eq, not_true_eq_false, if_false, collect_singleton, hhandles, if_true]
    refine (emits_emit ctx _).congr ?_ ?_
    · simp only [Scope1Process.processArgs, hf.valueOrZero, hstoich, hq, hco2, mul_one,
        Option.mem_def, reduceCtorEq, IsEmpty.forall_iff, implies_true, and_true, iff_true]
      exact ⟨by positivity, by decide⟩
    · simp only [Scope1Process.processArgs, hf.valueOrZero, hstoich, hq, hco2, mul_one]
  · have hne : ¬ f.value = some (4397 / 10000) := by
      rw [hvalue]
      exact fun h => hstoich (Option.some.inj h)
    simp only [hne, ne_eq, not_false_eq_true, if_true, hstoich]
    exact yields_none fun _ h => by cases h

theorem computePreview_eq_dispatch {port : FactorCatalogPort} {session : Option (List RefSite)}
    {tenantId : Uuid} (hscope : req.subScope.scope = req.scope)
    (hsite : req.subScope = .process → SiteAllows (siteMetaOf session tenantId req)) :
    computePreview print port session tenantId req =
      previewDispatch print port req (countryOf (siteMetaOf session tenantId req)) := by
  unfold computePreview
  rw [if_neg (not_not.mpr hscope)]
  cases h : siteMetaOf session tenantId req with
  | none => rfl
  | some site =>
      rw [h] at hsite
      refine if_neg ?_
      rintro ⟨hprocess, htype⟩
      exact htype (hsite hprocess site rfl)

theorem computePreview_refused {port : FactorCatalogPort} {session : Option (List RefSite)}
    {tenantId : Uuid} (hscope : req.subScope.scope = req.scope) (hsub : req.subScope = .process)
    (hsite : ¬ SiteAllows (siteMetaOf session tenantId req)) :
    ∃ e, computePreview print port session tenantId req = .error e := by
  unfold computePreview
  rw [if_neg (not_not.mpr hscope)]
  cases h : siteMetaOf session tenantId req with
  | none => exact absurd (by simp [SiteAllows, h]) hsite
  | some site =>
      have htype : site.siteType ≠ .stabilimentoProduttivo := fun htype =>
        hsite (by simpa [SiteAllows, h] using htype)
      exact ⟨_, if_pos ⟨hsub, htype⟩⟩

theorem previews_process {session : Option (List RefSite)} {tenantId : Uuid}
    (hscope : req.subScope.scope = req.scope) (hsub : req.subScope = .process) {R : Prop} {q : ℚ}
    (h : Previews (previewS1Process print src.port req) R q) :
    Previews (computePreview print src.port session tenantId req)
      (SiteAllows (siteMetaOf session tenantId req) ∧ R) q := by
  by_cases hsite : SiteAllows (siteMetaOf session tenantId req)
  · rw [computePreview_eq_dispatch hscope fun _ => hsite]
    simp only [previewDispatch, hsub]
    exact h.congr (by simp [hsite]) rfl
  · obtain ⟨e, he⟩ : ∃ e, computePreview print src.port session tenantId req = .error e :=
      computePreview_refused hscope hsub hsite
    rw [he]
    exact (previews_error e q).congr (by simp [hsite]) rfl

theorem process_direct_agrees (hsrc : src.Serves req) (hmode : req.effectiveMode = .directTco2)
    (hscope : req.subScope.scope = req.scope) (hsub : req.subScope = .process)
    {row : RawScope1Row} (htag : row.categoriaS1 = Scope1Process.processCategoryTag)
    (hq : row.quantita = req.quantita) {session : Option (List RefSite)} {tenantId : Uuid} :
    let site := siteMetaOf session tenantId req
    PreviewAgrees (computePreview print src.port session tenantId req)
        (Scope1Process.calculate [row] src.port (getGwpValues req.gwpSet) ctx) ↔
      (SiteAllows site ↔ src.Open Scope1Process.factorId ∧
          src.valueOf Scope1Process.factorId = 4397 / 10000) ∧
        (SiteAllows site → RoundsAway req.quantita) := by
  intro site
  have hdirect : Previews (previewS1Process print src.port req) True req.quantita := by
    unfold previewS1Process
    rw [hmode]
    exact previews_pure _ rfl
  rw [previewAgrees_iff (previews_process hscope hsub hdirect) (emits_process hsrc htag hq),
    roundHalfUp_stoichiometric req.quantita_pos, and_true]
  refine and_congr_right fun hiff => ⟨fun h hsite => h hsite (hiff.mp hsite), ?_⟩
  exact fun h hsite _ => h hsite

theorem process_caco3_agrees (hsrc : src.Serves req) (hmode : req.effectiveMode = .caco3Mass)
    (hscope : req.subScope.scope = req.scope) (hsub : req.subScope = .process)
    {row : RawScope1Row} (htag : row.categoriaS1 = Scope1Process.processCategoryTag)
    (hq : row.quantita = req.quantita) {session : Option (List RefSite)} {tenantId : Uuid} :
    PreviewAgrees (computePreview print src.port session tenantId req)
        (Scope1Process.calculate [row] src.port (getGwpValues req.gwpSet) ctx) ↔
      (SiteAllows (siteMetaOf session tenantId req) ∧ src.Vintaged Scope1Process.factorId ∧
          src.valueOf Scope1Process.factorId = 4397 / 10000 ↔
        src.Open Scope1Process.factorId ∧ src.valueOf Scope1Process.factorId = 4397 / 10000) := by
  have hmass : Previews (previewS1Process print src.port req)
      (src.Vintaged Scope1Process.factorId ∧ src.valueOf Scope1Process.factorId = 4397 / 10000)
      (4397 / 10000 * req.quantita) := by
    unfold previewS1Process
    rw [hmode]
    refine previews_requireVintage hsrc fun f hf => ?_
    have hvalue : f.value = some (src.valueOf Scope1Process.factorId) := hf
    by_cases hstoich : src.valueOf Scope1Process.factorId = 4397 / 10000
    · rw [hstoich] at hvalue
      simp only [hvalue, ne_eq, not_true_eq_false, if_false, hstoich]
      refine previews_pure _ ?_
      simp only [factorTrace, quantizeTco2e, hf.valueOrZero, hstoich]
    · have hne : ¬ f.value = some (4397 / 10000) := by
        rw [hvalue]
        exact fun h => hstoich (Option.some.inj h)
      simp only [hne, ne_eq, not_false_eq_true, if_true, hstoich]
      exact previews_error _ _
  rw [previewAgrees_iff (previews_process hscope hsub hmass) (emits_process hsrc htag hq)]
  simp only [implies_true, and_true]

/-- The only conversion into kWh is from MWh. -/
theorem lookup_kwh (u : String) :
    unitConversion.lookup (u, "kwh") = if u = "mwh" then some 1000 else none := by
  by_cases h : u = "mwh"
  · subst h
    decide
  · have hpair : ∀ p : String × String,
        ((u, "kwh") == p) = (decide (u = p.1) && decide ("kwh" = p.2)) := by
      intro p
      rfl
    rw [if_neg h]
    simp [unitConversion, List.lookup_cons, hpair, h]

theorem normalised_kwh : strip (lower "kWh") = "kwh" := by
  decide +kernel

theorem quantitaKwh_cases (print : Printing) (req : CalcInputRequest) :
    (kwhMultiplier req.unita = none ∧ ∃ e, quantitaKwh print req = .error e) ∨
      ∃ k text, kwhMultiplier req.unita = some k ∧
        quantitaKwh print req = .ok (req.quantita * k, text) := by
  unfold kwhMultiplier quantitaKwh applyUnitConversion
  rw [normalised_kwh]
  by_cases hlower : lower req.unita = "kwh"
  · have hstrip : strip (lower req.unita) = "kwh" := by
      rw [hlower]
      decide +kernel
    refine .inr ⟨1, none, if_pos hstrip, ?_⟩
    rw [if_pos hlower, mul_one]
  · rw [if_neg hlower]
    by_cases hkwh : strip (lower req.unita) = "kwh"
    · refine .inr ⟨1, some (req.unita ++ " -> " ++ "kWh" ++ " (no conversion)"), if_pos hkwh, ?_⟩
      simp [hkwh]
    · rw [if_neg hkwh]
      by_cases hmwh : strip (lower req.unita) = "mwh"
      · refine .inr ⟨1000, ?_⟩
        simp [hmwh, lookup_kwh, ncvDependentPairs]
      · refine .inl ⟨if_neg hmwh, ?_⟩
        by_cases hncv : (strip (lower req.unita), "kwh") ∈ ncvDependentPairs
        · simp [hkwh, hncv]
        · simp [hkwh, hncv, lookup_kwh, hmwh]

theorem exists_quantitaKwh (print : Printing) (req : CalcInputRequest) :
    (∃ a, quantitaKwh print req = .ok a) ↔ (kwhMultiplier req.unita).isSome = true := by
  rcases quantitaKwh_cases print req with ⟨hnone, e, he⟩ | ⟨k, text, hk, hok⟩
  · simp [hnone, he]
  · simp [hk, hok]

theorem fst_of_quantitaKwh {a : ℚ × Option String} (h : quantitaKwh print req = .ok a) :
    a.1 = req.quantita * (kwhMultiplier req.unita).getD 0 := by
  rcases quantitaKwh_cases print req with ⟨-, e, he⟩ | ⟨k, text, hk, hok⟩
  · rw [he] at h
    cases h
  · rw [hok] at h
    cases h
    rw [hk, Option.getD_some]

theorem previews_quantitaKwh {R : Prop} {q : ℚ}
    {k : ℚ × Option String → Except PreviewError CalcPreviewResponse}
    (hk : ∀ a, a.1 = req.quantita * (kwhMultiplier req.unita).getD 0 → Previews (k a) R q) :
    Previews (quantitaKwh print req >>= k) ((kwhMultiplier req.unita).isSome = true ∧ R) q :=
  Yields.bind (exists_quantitaKwh print req) (fun _ => fst_of_quantitaKwh) hk

/-- Equal rounded amounts, for the one multiplier of the unit. -/
theorem sameTonnes_iff {v v' : ℚ} :
    ((kwhMultiplier req.unita).isSome = true →
        roundHalfUp 6 (v * (req.quantita * (kwhMultiplier req.unita).getD 0) * kgToTonne) =
          roundHalfUp 6 (v' * req.quantita * kgToTonne)) ↔
      ∀ k ∈ kwhMultiplier req.unita, FactorSource.SameTonnes req.quantita (v * k) v' := by
  cases kwhMultiplier req.unita with
  | none => simp
  | some k =>
      have hassoc : v * (req.quantita * k) * kgToTonne = v * k * req.quantita * kgToTonne := by ring
      simp [FactorSource.SameTonnes, hassoc]

theorem scope2_previewAgrees_iff {preview : Except PreviewError CalcPreviewResponse}
    {batch : Except CalcError (List EmissionRecord)} {R R' : Prop} {v v' : ℚ}
    (hpreview : Previews preview (R ∧ (kwhMultiplier req.unita).isSome = true ∧ True)
      (v * (req.quantita * (kwhMultiplier req.unita).getD 0) * kgToTonne))
    (hbatch : Emits batch R' (v' * req.quantita * kgToTonne)) :
    PreviewAgrees preview batch ↔
      (R ∧ (kwhMultiplier req.unita).isSome = true ↔ R') ∧
        (R → ∀ k ∈ kwhMultiplier req.unita,
          FactorSource.SameTonnes req.quantita (v * k) v') := by
  rw [previewAgrees_iff hpreview hbatch, ← sameTonnes_iff, and_true]
  refine and_congr_right fun hiff => ⟨fun h hR hk => h ⟨hR, hk⟩ (hiff.mp ⟨hR, hk⟩), ?_⟩
  exact fun h hready _ => h hready.1 hready.2

theorem requireLbFactor_eq_ok {port : FactorCatalogPort} {country : String} {f : FactorRecord} :
    requireLbFactor port req country = .ok f ↔
      requireVintage port (lbFactorIdFor country) req.gwpSet req.anno = .ok f := by
  unfold requireLbFactor
  cases requireVintage port (lbFactorIdFor country) req.gwpSet req.anno with
  | ok factor => rfl
  | error e =>
      by_cases hit : country = "IT"
      · simp [hit]
      · simp [hit]

theorem lb_agrees (hsrc : src.Serves req) {row : RawScope2Row} (hq : row.quantita = req.quantita)
    (country : String) :
    let factorId := lbFactorIdFor country
    PreviewAgrees (previewS2Lb print src.port req country)
        (Scope2Lb.calculate [row] src.port (getGwpValues req.gwpSet) ctx) ↔
      (src.Vintaged factorId ∧ (kwhMultiplier req.unita).isSome = true ↔
          src.Open Scope2Lb.lbFactorId ∧ 0 ≤ src.valueOf Scope2Lb.lbFactorId) ∧
        (src.Vintaged factorId → ∀ k ∈ kwhMultiplier req.unita, FactorSource.SameTonnes req.quantita
          (src.valueOf factorId * k) (src.valueOf Scope2Lb.lbFactorId)) := by
  intro factorId
  have hpreview : Previews (previewS2Lb print src.port req country)
      (src.Vintaged factorId ∧ (kwhMultiplier req.unita).isSome = true ∧ True)
      (src.valueOf factorId * (req.quantita * (kwhMultiplier req.unita).getD 0) * kgToTonne) := by
    refine Yields.bind (S := src.Carries factorId) ?_ ?_ fun f hf =>
      previews_quantitaKwh fun a ha => previews_pure _ ?_
    · rw [← FactorSource.exists_requireVintage, hsrc.1, hsrc.2]
      simp only [requireLbFactor_eq_ok, factorId]
    · intro f h
      rw [requireLbFactor_eq_ok, ← hsrc.1, ← hsrc.2] at h
      exact FactorSource.carries_of_requireVintage h
    · simp only [factorTrace, quantizeTco2e, hf.valueOrZero, ha]
  have hbatch : Emits (Scope2Lb.calculate [row] src.port (getGwpValues req.gwpSet) ctx)
      (src.Open Scope2Lb.lbFactorId ∧ 0 ≤ src.valueOf Scope2Lb.lbFactorId)
      (src.valueOf Scope2Lb.lbFactorId * req.quantita * kgToTonne) := by
    refine emits_requireFactor hsrc fun f hf => ?_
    rw [collect_singleton]
    refine (emits_emit ctx _).congr ?_ ?_
    · simp [Scope2Lb.lbArgs, hf.valueOrZero, hq, tonnes_nonneg_iff req.quantita_pos,
        allowedSubScopes]
    · simp only [Scope2Lb.lbArgs, hf.valueOrZero, hq]
  exact scope2_previewAgrees_iff hpreview hbatch

theorem mb_agrees (hsrc : src.Serves req) {row : RawScope2Row} (hq : row.quantita = req.quantita)
    (hinstrument : row.strumentoMb = req.strumentoMb.map StrumentoMb.label)
    {goEvidence : Option Scope2Mb.GoEvidenceCheck} :
    let factorId := mbFactorId req.strumentoMb
    PreviewAgrees (previewS2Mb print src.port req)
        (Scope2Mb.calculate [row] src.port (getGwpValues req.gwpSet) ctx goEvidence) ↔
      (src.Vintaged factorId ∧ (kwhMultiplier req.unita).isSome = true ↔
          src.Open Scope2Mb.goZeroFactorId ∧ src.Open Scope2Mb.residualFactorId ∧
            0 ≤ src.valueOf Scope2Mb.residualFactorId) ∧
        (src.Vintaged factorId → ∀ k ∈ kwhMultiplier req.unita, FactorSource.SameTonnes req.quantita
          (src.valueOf factorId * k) (src.valueOf Scope2Mb.residualFactorId)) := by
  intro factorId
  have hpreview : Previews (previewS2Mb print src.port req)
      (src.Vintaged factorId ∧ (kwhMultiplier req.unita).isSome = true ∧ True)
      (src.valueOf factorId * (req.quantita * (kwhMultiplier req.unita).getD 0) * kgToTonne) := by
    refine previews_requireVintage hsrc fun f hf => previews_quantitaKwh fun a ha =>
      previews_pure _ ?_
    simp only [factorTrace, quantizeTco2e, hf.valueOrZero, ha]
    rfl
  -- the API's instruments are none of them the label the batch takes for a guarantee of origin
  have hlabel : ¬ row.strumentoMb = some Scope2Mb.goInstrumentLabel := by
    rw [hinstrument]
    cases req.strumentoMb with
    | none => simp
    | some strumento => cases strumento <;> decide
  have hbatch : Emits (Scope2Mb.calculate [row] src.port (getGwpValues req.gwpSet) ctx goEvidence)
      (src.Open Scope2Mb.goZeroFactorId ∧ src.Open Scope2Mb.residualFactorId ∧
        0 ≤ src.valueOf Scope2Mb.residualFactorId)
      (src.valueOf Scope2Mb.residualFactorId * req.quantita * kgToTonne) := by
    refine emits_requireFactor hsrc fun zero _ => emits_requireFactor hsrc fun f hf => ?_
    rw [collect_singleton, Scope2Mb.buildMbRecord, if_neg hlabel]
    refine (emits_emit ctx _).congr ?_ ?_
    · simp [Scope2Mb.mbArgs, hf.valueOrZero, hq, tonnes_nonneg_iff req.quantita_pos,
        allowedSubScopes]
    · simp only [Scope2Mb.mbArgs, hf.valueOrZero, hq]
  exact scope2_previewAgrees_iff hpreview hbatch

theorem biogenicShare_of_requireFactor {factorId : String} {f : FactorRecord}
    (h : requireFactor src.port factorId src.gwpSet = .ok f) :
    src.port.getBiogenicShare factorId src.gwpSet = src.biogenicOf factorId := by
  obtain ⟨row, hrow, hvalue, hvalid, rfl⟩ := FactorSource.requireFactor_eq_published.mp h
  have hget : fetch src.catalog src.tenantId factorId src.gwpSet none =
      .ok (rowToFactorRecord row) := (requireFactor_eq_ok.mp h).1
  simp only [FactorSource.port, sqlFactorCatalogAdapter, hget, FactorSource.biogenicOf, hrow]
  rfl

theorem cat1_agrees (hsrc : src.Serves req) {row : RawScope3Row} (hcat : row.categoriaS3 = 1)
    (hq : row.quantita = req.quantita) (hlabel : req.sottocategoria = some row.sottocategoria) :
    PreviewAgrees (previewS3Cat1 print src.port req)
        (Scope3Cat1PurchasedGoods.calculate [row] src.port (getGwpValues req.gwpSet) ctx) ↔
      ∀ factorId ∈ Scope3Cat1PurchasedGoods.resolve req.label,
        (src.Vintaged factorId ↔ src.Open factorId ∧ 0 ≤ src.valueOf factorId ∧
          (factorId ∈ Scope3Cat1PurchasedGoods.biogenicFactorIds →
            ∀ b ∈ src.biogenicOf factorId, 0 ≤ b)) := by
  have hreq : req.label = row.sottocategoria := by rw [CalcInputRequest.label, hlabel]; rfl
  have hpos := req.quantita_pos
  cases hres : Scope3Cat1PurchasedGoods.resolve req.label with
  | none =>
      have hpreview : Previews (previewS3Cat1 print src.port req) False 0 := by
        unfold previewS3Cat1
        rw [hres]
        exact previews_error _ 0
      have hbatch : Emits (Scope3Cat1PurchasedGoods.calculate [row] src.port
          (getGwpValues req.gwpSet) ctx) False 0 := by
        unfold Scope3Cat1PurchasedGoods.calculate
        rw [collect_singleton, if_neg (not_not.mpr hcat), ← hreq, hres]
        exact yields_none fun records h => by cases h; simp
      rw [previewAgrees_iff hpreview hbatch]
      simp
  | some factorId =>
      have hpreview : Previews (previewS3Cat1 print src.port req) (src.Vintaged factorId ∧ True)
          (src.valueOf factorId * req.quantita * kgToTonne) := by
        unfold previewS3Cat1
        rw [hres]
        refine previews_requireVintage hsrc fun f hf => previews_pure _ ?_
        simp only [factorTrace, quantizeTco2e, hf.valueOrZero]
      have hbatch : Emits (Scope3Cat1PurchasedGoods.calculate [row] src.port
          (getGwpValues req.gwpSet) ctx)
          (src.Open factorId ∧ 0 ≤ src.valueOf factorId ∧
            (factorId ∈ Scope3Cat1PurchasedGoods.biogenicFactorIds →
              ∀ b ∈ src.biogenicOf factorId, 0 ≤ b))
          (src.valueOf factorId * req.quantita * kgToTonne) := by
        unfold Scope3Cat1PurchasedGoods.calculate
        rw [collect_singleton, if_neg (not_not.mpr hcat), ← hreq, hres]
        simp only [Scope3Cat1PurchasedGoods.buildRecord, getGwpValues_code, ← hsrc.1]
        refine Yields.bind (FactorSource.exists_requireFactor factorId) (fun _ h => h) fun f h => ?_
        have hf := FactorSource.carries_of_requireFactor h
        rw [biogenicShare_of_requireFactor h]
        refine (emits_emit ctx _).congr ?_ ?_
        · simp only [Scope3Cat1PurchasedGoods.cat1Args, scope3Args, hf.valueOrZero, hq,
            tonnes_nonneg_iff hpos]
          by_cases hbio : factorId ∈ Scope3Cat1PurchasedGoods.biogenicFactorIds
          · simp only [allowedSubScopes, Option.mem_map, forall_exists_index, and_imp,
              forall_apply_eq_imp_iff₂, tonnes_nonneg_iff hpos, hbio, forall_const]
            constructor
            · rintro ⟨hv, -, hb, -⟩
              exact ⟨hv, hb⟩
            · rintro ⟨hv, hb⟩
              exact ⟨hv, by decide, hb, fun _ _ => hv⟩
          · simp [allowedSubScopes, hbio]
        · simp only [Scope3Cat1PurchasedGoods.cat1Args, scope3Args, hf.valueOrZero, hq]
      rw [previewAgrees_iff hpreview hbatch]
      simp

/-- The batch computes category 3 from the rows of Scopes 1 and 2, and nothing from this row. -/
theorem cat3_agrees (hsrc : src.Serves req) (gwp : GwpValues) :
    PreviewAgrees (previewS3Cat3 print src.port req)
        (Scope3Cat3FuelEnergy.calculate (sigmaScope1FromRows []) (sigmaScope2FromRows []) src.port
          gwp ctx) ↔
      ∀ factorId ∈ cat3FactorId req.label, ¬ src.Vintaged factorId := by
  have hbatch : ∀ q, Emits (Scope3Cat3FuelEnergy.calculate (sigmaScope1FromRows [])
      (sigmaScope2FromRows []) src.port gwp ctx) False q := by
    intro q
    refine yields_none fun records h => ?_
    obtain ⟨fuel, hfuel, h⟩ := bind_eq_ok.mp h
    obtain ⟨elec, helec, h⟩ := bind_eq_ok.mp h
    obtain ⟨tnd, htnd, h⟩ := bind_eq_ok.mp h
    obtain ⟨_, -, helec⟩ := bind_eq_ok.mp helec
    obtain ⟨_, -, htnd⟩ := bind_eq_ok.mp htnd
    cases hfuel
    cases helec
    cases htnd
    cases h
    simp
  cases hres : cat3FactorId req.label with
  | none =>
      have hpreview : Previews (previewS3Cat3 print src.port req) False 0 := by
        unfold previewS3Cat3 previewLabel
        rw [hres]
        exact previews_error _ 0
      rw [previewAgrees_iff hpreview (hbatch 0)]
      simp
  | some factorId =>
      rw [previewS3Cat3, previewAgrees_iff (previews_previewLabel hsrc hres) (hbatch 0)]
      simp

theorem cat7_agrees (hsrc : src.Serves req) {row : RawScope3Row} (hcat : row.categoriaS3 = 7)
    (hq : row.quantita = req.quantita) (hlabel : req.sottocategoria = some row.sottocategoria) :
    PreviewAgrees (previewS3Cat7 print src.port req)
        (Scope3Cat7Commuting.calculate [row] src.port (getGwpValues req.gwpSet) ctx) ↔
      (src.Vintaged Scope3Cat7Commuting.factorId ↔ src.Open Scope3Cat7Commuting.factorId ∧
        lower (strip req.label) = "commuting_auto" ∧
          0 ≤ src.valueOf Scope3Cat7Commuting.factorId) := by
  have hreq : req.label = row.sottocategoria := by rw [CalcInputRequest.label, hlabel]; rfl
  have hpreview : Previews (previewS3Cat7 print src.port req)
      (src.Vintaged Scope3Cat7Commuting.factorId ∧ True)
      (src.valueOf Scope3Cat7Commuting.factorId * req.quantita * kgToTonne) := by
    refine previews_requireVintage hsrc fun f hf => previews_pure _ ?_
    simp only [factorTrace, quantizeTco2e, hf.valueOrZero]
  have hbatch : Emits (Scope3Cat7Commuting.calculate [row] src.port (getGwpValues req.gwpSet) ctx)
      (src.Open Scope3Cat7Commuting.factorId ∧ lower (strip req.label) = "commuting_auto" ∧
        0 ≤ src.valueOf Scope3Cat7Commuting.factorId)
      (src.valueOf Scope3Cat7Commuting.factorId * req.quantita * kgToTonne) := by
    refine emits_requireFactor hsrc fun f hf => ?_
    rw [collect_singleton]
    by_cases hauto : lower (strip req.label) = "commuting_auto"
    · have hhandles : Scope3Cat7Commuting.handles row = true := by
        simp [Scope3Cat7Commuting.handles, hcat, ← hreq, hauto]
      rw [if_pos hhandles, hq]
      exact (emits_scope3 (by decide) hf req.quantita_pos).congr (by simp [hauto]) rfl
    · have hskips : ¬ Scope3Cat7Commuting.handles row = true := by
        simp [Scope3Cat7Commuting.handles, ← hreq, hauto]
      rw [if_neg hskips]
      refine (yields_none fun records h => ?_).congr (by simp [hauto]) rfl
      cases h
      simp
  rw [previewAgrees_iff hpreview hbatch]
  simp

theorem cat12_agrees (hsrc : src.Serves req) {row : RawScope3Row} (hcat : row.categoriaS3 = 12)
    (hq : row.quantita = req.quantita) :
    let landfill := Scope3Cat12Eol.landfillFactorId
    let recycle := Scope3Cat12Eol.recycleFactorId
    PreviewAgrees (previewS3Cat12 print src.port req)
        (Scope3Cat12Eol.calculate [row] src.port (getGwpValues req.gwpSet) ctx) ↔
      (src.Vintaged landfill ∧ src.Vintaged recycle ↔ src.Open landfill ∧ src.Open recycle ∧
        0 ≤ src.valueOf landfill ∧ 0 ≤ src.valueOf recycle) := by
  intro landfill recycle
  let q := src.valueOf landfill * (req.quantita * Scope3Cat12Eol.landfillFraction) * kgToTonne +
    src.valueOf recycle * (req.quantita * Scope3Cat12Eol.recycleFraction) * kgToTonne
  have hpreview : Previews (previewS3Cat12 print src.port req)
      (src.Vintaged landfill ∧ src.Vintaged recycle ∧ True) q := by
    refine previews_requireVintage hsrc fun l hl => previews_requireVintage hsrc fun r hr =>
      previews_pure _ ?_
    simp only [factorTrace, quantizeTco2e, hl.valueOrZero, hr.valueOrZero]
    rfl
  have hbatch : Emits (Scope3Cat12Eol.calculate [row] src.port (getGwpValues req.gwpSet) ctx)
      (src.Open landfill ∧ src.Open recycle ∧ 0 ≤ src.valueOf landfill ∧
        0 ≤ src.valueOf recycle) q := by
    have hpos := req.quantita_pos
    refine emits_requireFactor hsrc fun l hl => emits_requireFactor hsrc fun r hr => ?_
    rw [collect_singleton, if_pos (by simp [Scope3Cat12Eol.handles, hcat]),
      Scope3Cat12Eol.buildRecords, hq]
    have hlandfill : 0 < req.quantita * Scope3Cat12Eol.landfillFraction :=
      mul_pos hpos (by norm_num [Scope3Cat12Eol.landfillFraction])
    have hrecycle : 0 < req.quantita * Scope3Cat12Eol.recycleFraction :=
      mul_pos hpos (by norm_num [Scope3Cat12Eol.recycleFraction])
    exact (emits_scope3 (by decide) hl hlandfill).append (emits_scope3 (by decide) hr hrecycle)
      (fun _ => ne_nil_of_emit) fun _ => ne_nil_of_emit
  rw [previewAgrees_iff hpreview hbatch]
  simp

end Handlers

end GhgTool
