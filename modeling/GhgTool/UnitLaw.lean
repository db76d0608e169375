import GhgTool.AutoCalcAgreement
import GhgTool.PreviewLookups

/-!
# Units in the auto-calc preview

The converter knows kWh and MWh, kg and t, l and m3. The Scope 2 handlers take their quantity to kWh
with it; the other ten multiply the number they get, whatever its unit. As in `AutoCalc` the numbers
are exact rationals; in the runtime the converter is exact on quantities of up to twenty-eight
digits (`applyUnitConversion_of_digits`).
-/

namespace GhgTool.UnitLaw

/-! ## The converter -/

def normalised (unit : String) : String :=
  strip (lower unit)

/-- The multiplier between two units, where the converter has one. -/
def multiplier (fromUnit toUnit : String) : Option ℚ :=
  let pair := (normalised fromUnit, normalised toUnit)
  if pair.1 = pair.2 then some 1
  else if pair ∈ ncvDependentPairs then none
  else unitConversion.lookup pair

/-- What the table says of a pair, it says of the pair turned round; no pair of it depends on a net
calorific value. -/
theorem unitConversion_symm : ∀ e ∈ unitConversion,
    unitConversion.lookup (e.1.2, e.1.1) = some e.2⁻¹ ∧ (e.1.2, e.1.1) ∉ ncvDependentPairs ∧
      (e.2 = 1000 ∨ e.2 = 1 / 1000) := by
  decide +kernel

theorem multiplier_cases {u v : String} {m : ℚ} (h : multiplier u v = some m) :
    (normalised u = normalised v ∧ m = 1) ∨
      (normalised u ≠ normalised v ∧ ((normalised u, normalised v), m) ∈ unitConversion) := by
  unfold multiplier at h
  dsimp only at h
  split_ifs at h with hsame hncv
  · exact .inl ⟨hsame, (Option.some.inj h).symm⟩
  · exact .inr ⟨hsame, entry_of_lookup h⟩

theorem multiplier_symm {u v : String} {m : ℚ} (h : multiplier u v = some m) :
    multiplier v u = some m⁻¹ := by
  rcases multiplier_cases h with ⟨hsame, rfl⟩ | ⟨hne, hmem⟩
  · simp [multiplier, hsame]
  · obtain ⟨hlookup, hncv, -⟩ := unitConversion_symm _ hmem
    unfold multiplier
    dsimp only
    rw [if_neg (Ne.symm hne), if_neg hncv]
    exact hlookup

theorem multiplier_pos {u v : String} {m : ℚ} (h : multiplier u v = some m) :
    m = 1 ∨ m = 1000 ∨ m = 1 / 1000 := by
  rcases multiplier_cases h with ⟨-, rfl⟩ | ⟨-, hmem⟩
  · exact .inl rfl
  · exact .inr (unitConversion_symm _ hmem).2.2

variable {print : Printing}

/-- The converter multiplies by the multiplier of the two units, and raises where there is none. -/
theorem applyUnitConversion_eq_ok {q q' : ℚ} {u v : String} :
    (∃ text, applyUnitConversion print q u v = .ok (q', text)) ↔
      ∃ m, multiplier u v = some m ∧ q * m = q' := by
  unfold applyUnitConversion multiplier normalised
  dsimp only
  split_ifs with hsame hncv
  · simp
  · simp
  · cases unitConversion.lookup (strip (lower u), strip (lower v)) with
    | none => simp
    | some m => simp

theorem applyUnitConversion_roundTrip {q q' : ℚ} {u v text : String}
    (h : applyUnitConversion print q u v = .ok (q', text)) :
    ∃ text', applyUnitConversion print q' v u = .ok (q, text') := by
  obtain ⟨m, hm, rfl⟩ := applyUnitConversion_eq_ok.mp ⟨text, h⟩
  refine applyUnitConversion_eq_ok.mpr ⟨m⁻¹, multiplier_symm hm, ?_⟩
  have hne : m ≠ 0 := by
    rcases multiplier_pos hm with rfl | rfl | rfl <;> norm_num
  field_simp

/-- The kWh of a normalised unit. -/
def kwhOf (unit : String) : Option ℚ :=
  if unit = "kwh" then some 1 else if unit = "mwh" then some 1000 else none

theorem kwhOf_unitConversion : ∀ e ∈ unitConversion, kwhOf e.1.1 = (kwhOf e.1.2).map (e.2 * ·) := by
  decide +kernel

theorem kwhMultiplier_eq (unit : String) : kwhMultiplier unit = kwhOf (normalised unit) :=
  rfl

theorem kwhMultiplier_of_multiplier {u v : String} {m : ℚ} (h : multiplier u v = some m) :
    kwhMultiplier u = (kwhMultiplier v).map (m * ·) := by
  rw [kwhMultiplier_eq, kwhMultiplier_eq]
  rcases multiplier_cases h with ⟨hsame, rfl⟩ | ⟨-, hmem⟩
  · simp [hsame]
  · exact kwhOf_unitConversion ((normalised u, normalised v), m) hmem

/-! ## What one unit of quantity emits -/

section Amount

variable (port : FactorCatalogPort) (req : CalcInputRequest) (country : String)

/-- The value of the factor that the request finds under this id. -/
def factorValue (factorId : String) : Option ℚ :=
  (requireVintage port factorId req.gwpSet req.anno).toOption.map FactorRecord.valueOrZero

/-- The tonnes that a preview multiplies the quantity with; none where it raises, whatever the
quantity and its unit. -/
def perUnit : Option ℚ :=
  match req.subScope with
  | .combustion => req.combustibile.bind fun c =>
      (factorValue port req c.componentIds.co2).bind fun co2 =>
      (factorValue port req c.componentIds.ch4).bind fun ch4 =>
      (factorValue port req c.componentIds.n2o).map fun n2o =>
        (co2 + ch4 * (getGwpValues req.gwpSet).ch4 + n2o * (getGwpValues req.gwpSet).n2o) * kgToTonne
  | .process =>
    match req.effectiveMode with
    | .directTco2 => some 1
    | .caco3Mass => (factorValue port req Scope1Process.factorId).filter (· = 4397 / 10000)
  | .lb => (factorValue port req (lbFactorIdFor country)).map (· * kgToTonne)
  | .mb => (factorValue port req (mbFactorId req.strumentoMb)).map (· * kgToTonne)
  | .cat12Eol =>
      (factorValue port req Scope3Cat12Eol.landfillFactorId).bind fun landfill =>
      (factorValue port req Scope3Cat12Eol.recycleFactorId).map fun recycle =>
        (landfill * Scope3Cat12Eol.landfillFraction + recycle * Scope3Cat12Eol.recycleFraction) *
          kgToTonne
  | _ => (lookedUp req country).bind fun ids =>
      ids.head?.bind fun factorId => (factorValue port req factorId).map (· * kgToTonne)

/-- The quantity that is multiplied: in kWh in Scope 2, as it stands elsewhere. -/
def amount : Option ℚ :=
  if req.subScope.scope = .two then (kwhMultiplier req.unita).map (req.quantita * ·)
  else some req.quantita

/-- The tonnes of a preview, none if it raises. -/
def tonnes (x : Except PreviewError CalcPreviewResponse) : Option ℚ :=
  x.toOption.map CalcPreviewResponse.tco2e

variable {port req country}

/-- The tonnes of `k` per unit. -/
def priced (req : CalcInputRequest) (k : ℚ) : Option ℚ :=
  (amount req).map fun q => quantizeTco2e (k * q)

theorem priced_raw (h : req.subScope.scope ≠ .two) (k : ℚ) :
    priced req k = some (quantizeTco2e (k * req.quantita)) := by
  rw [priced, amount, if_neg h]
  rfl

theorem quantize_eq_priced (h : req.subScope.scope ≠ .two) {x k : ℚ} (hx : x = k * req.quantita) :
    some (quantizeTco2e x) = priced req k := by
  rw [priced_raw h, hx]

theorem tonnes_combustion (print : Printing) (hsub : req.subScope = .combustion) :
    tonnes (previewS1Combustion print port req) = (perUnit port req country).bind (priced req) := by
  have hraw : req.subScope.scope ≠ .two := by rw [hsub]; decide
  unfold previewS1Combustion perUnit factorValue
  rw [hsub]
  cases req.combustibile with
  | none => rfl
  | some c =>
      dsimp only [Option.bind_some]
      cases requireVintage port c.componentIds.co2 req.gwpSet req.anno with
      | error e => rfl
      | ok co2 =>
          cases requireVintage port c.componentIds.ch4 req.gwpSet req.anno with
          | error e => rfl
          | ok ch4 =>
              cases requireVintage port c.componentIds.n2o req.gwpSet req.anno with
              | error e => rfl
              | ok n2o =>
                  apply quantize_eq_priced hraw
                  ring

theorem valueOrZero_eq_iff {f : FactorRecord} (h : f.value ≠ none) (v : ℚ) :
    f.valueOrZero = v ↔ f.value = some v := by
  obtain ⟨w, hw⟩ := Option.ne_none_iff_exists'.mp h
  simp [FactorRecord.valueOrZero, hw]

theorem tonnes_process (print : Printing) (hsub : req.subScope = .process) :
    tonnes (previewS1Process print port req) = (perUnit port req country).bind (priced req) := by
  have hraw : req.subScope.scope ≠ .two := by rw [hsub]; decide
  unfold previewS1Process perUnit factorValue
  rw [hsub]
  cases req.effectiveMode with
  | directTco2 =>
      apply quantize_eq_priced hraw
      ring
  | caco3Mass =>
      dsimp only
      cases hfind : requireVintage port Scope1Process.factorId req.gwpSet req.anno with
      | error e => rfl
      | ok f =>
          have hvalue := valueOrZero_eq_iff (requireVintage_ok_iff.mp hfind).2 (4397 / 10000)
          by_cases hconstant : f.value = some (4397 / 10000)
          · have hzero := hvalue.mpr hconstant
            simp only [Except.toOption, Option.map_some, Option.filter_some, hzero, decide_true,
              if_true, Option.bind_some, priced_raw hraw]
            simp [tonnes, hconstant, hzero, bind, Except.bind, factorTrace, Except.toOption,
              pure, Except.pure]
          · have hzero := mt hvalue.mp hconstant
            simp only [Except.toOption, Option.map_some, Option.filter_some, hzero, decide_false,
              Bool.false_eq_true, if_false, Option.bind_none]
            simp [tonnes, hconstant, bind, Except.bind, Except.toOption, throw, throwThe,
              MonadExceptOf.throw]

theorem ok_bind {α β : Type} (a : α) (f : α → Except PreviewError β) :
    (Except.ok a >>= f) = f a :=
  rfl

theorem tonnes_scope2 (print : Printing) (hscope : req.subScope.scope = .two) (v : ℚ)
    {g : ℚ × Option String → Except PreviewError CalcPreviewResponse}
    (hg : ∀ a, tonnes (g a) = some (quantizeTco2e (v * a.1 * kgToTonne))) :
    tonnes (quantitaKwh print req >>= g) = priced req (v * kgToTonne) := by
  unfold priced amount
  rw [if_pos hscope]
  rcases quantitaKwh_cases print req with ⟨hnone, e, he⟩ | ⟨k, text, hk, hok⟩
  · rw [hnone, he]
    rfl
  · rw [hk, hok]
    refine (hg (req.quantita * k, text)).trans ?_
    refine congrArg (fun x => some (quantizeTco2e x)) ?_
    ring

theorem tonnes_lb (print : Printing) (hsub : req.subScope = .lb) :
    tonnes (previewS2Lb print port req country) = (perUnit port req country).bind (priced req) := by
  have hscope : req.subScope.scope = .two := by rw [hsub]; rfl
  unfold previewS2Lb perUnit factorValue
  rw [hsub]
  dsimp only
  cases hfind : requireVintage port (lbFactorIdFor country) req.gwpSet req.anno with
  | error e =>
      have herror : ∃ e', requireLbFactor port req country = .error e' := by
        unfold requireLbFactor
        rw [hfind]
        dsimp only
        split_ifs
        · exact ⟨_, rfl⟩
        · exact ⟨_, rfl⟩
      obtain ⟨e', he'⟩ := herror
      rw [he']
      rfl
  | ok f =>
      rw [requireLbFactor_eq_ok.mpr hfind, ok_bind]
      exact tonnes_scope2 print hscope f.valueOrZero fun _ => rfl

theorem tonnes_mb (print : Printing) (hsub : req.subScope = .mb) :
    tonnes (previewS2Mb print port req) = (perUnit port req country).bind (priced req) := by
  have hscope : req.subScope.scope = .two := by rw [hsub]; rfl
  unfold previewS2Mb perUnit factorValue
  rw [hsub]
  dsimp only
  cases requireVintage port (mbFactorId req.strumentoMb) req.gwpSet req.anno with
  | error e => rfl
  | ok f =>
      rw [ok_bind]
      exact tonnes_scope2 print hscope f.valueOrZero fun _ => rfl

/-- The handlers that multiply the one factor of their label. -/
theorem tonnes_single {factorId : String} (hraw : req.subScope.scope ≠ .two)
    {f : FactorRecord → Except PreviewError CalcPreviewResponse}
    (hf : ∀ r, tonnes (f r) =
      some (quantizeTco2e (r.valueOrZero * req.quantita * kgToTonne))) :
    tonnes (requireVintage port factorId req.gwpSet req.anno >>= f) =
      ((factorValue port req factorId).map (· * kgToTonne)).bind (priced req) := by
  unfold factorValue
  cases requireVintage port factorId req.gwpSet req.anno with
  | error e => rfl
  | ok r =>
      refine (hf r).trans (quantize_eq_priced hraw ?_)
      ring

theorem tonnes_label {print : Printing} {resolve : String → Option String}
    {methodology : Methodology} {unit tag : String} (hraw : req.subScope.scope ≠ .two)
    (hids : lookedUp req country = (resolve req.label).map ([·])) :
    tonnes (previewLabel print port req resolve methodology unit tag) =
      ((lookedUp req country).bind fun ids => ids.head?.bind fun factorId =>
        (factorValue port req factorId).map (· * kgToTonne)).bind (priced req) := by
  unfold previewLabel
  rw [hids]
  cases resolve req.label with
  | none => rfl
  | some factorId => exact tonnes_single hraw fun _ => rfl

theorem tonnes_cat12 (print : Printing) (hsub : req.subScope = .cat12Eol) :
    tonnes (previewS3Cat12 print port req) = (perUnit port req country).bind (priced req) := by
  have hraw : req.subScope.scope ≠ .two := by rw [hsub]; decide
  unfold previewS3Cat12 perUnit factorValue
  rw [hsub]
  dsimp only
  cases requireVintage port Scope3Cat12Eol.landfillFactorId req.gwpSet req.anno with
  | error e => rfl
  | ok landfill =>
      cases requireVintage port Scope3Cat12Eol.recycleFactorId req.gwpSet req.anno with
      | error e => rfl
      | ok recycle =>
          apply quantize_eq_priced hraw
          ring

/-- Every handler gives the tonnes per unit times the amount, rounded. -/
theorem tonnes_dispatch (print : Printing) :
    tonnes (previewDispatch print port req country) =
      (perUnit port req country).bind (priced req) := by
  unfold previewDispatch
  cases hsub : req.subScope
  all_goals dsimp only
  case combustion => exact tonnes_combustion print hsub
  case process => exact tonnes_process print hsub
  case lb => exact tonnes_lb print hsub
  case mb => exact tonnes_mb print hsub
  case cat12Eol => exact tonnes_cat12 print hsub
  case cat1PurchasedGoods =>
    have hraw : req.subScope.scope ≠ .two := by rw [hsub]; decide
    unfold previewS3Cat1 perUnit lookedUp
    rw [hsub]
    dsimp only
    cases Scope3Cat1PurchasedGoods.resolve req.label with
    | none => rfl
    | some factorId => exact tonnes_single hraw fun _ => rfl
  case cat7Commuting =>
    have hraw : req.subScope.scope ≠ .two := by rw [hsub]; decide
    unfold perUnit lookedUp
    rw [hsub]
    exact tonnes_single hraw fun _ => rfl
  all_goals
    have hraw : req.subScope.scope ≠ .two := by rw [hsub]; decide
    unfold perUnit
    rw [hsub]
    exact tonnes_label hraw (by rw [lookedUp, hsub])

end Amount

/-! ## The same amount in two units -/

section Law

variable {print : Printing} {port : FactorCatalogPort} {session : Option (List RefSite)}
  {tenantId : Uuid} {req req' : CalcInputRequest}

/-- Two accepted requests that differ in quantity and unit alone, and where the converter takes the
one quantity to the other. -/
structure Twins (print : Printing) (req req' : CalcInputRequest) : Prop where
  accepted : req.Accepted
  accepted' : req'.Accepted
  same : { req' with
    quantita := req.quantita
    unita := req.unita
    quantita_pos := req.quantita_pos } = req
  converted : ∃ text,
    applyUnitConversion print req.quantita req.unita req'.unita = .ok (req'.quantita, text)

/-- A preview of the request succeeds but for its unit, at these tonnes per unit. -/
def PricedAt (port : FactorCatalogPort) (session : Option (List RefSite)) (tenantId : Uuid)
    (req : CalcInputRequest) (k : ℚ) : Prop :=
  (req.subScope = .process → SiteAllows (siteMetaOf session tenantId req)) ∧
    perUnit port req (countryOf (siteMetaOf session tenantId req)) = some k

/-- Both previews give the same tonnes, or both raise. -/
def SameOutcome (print : Printing) (port : FactorCatalogPort) (session : Option (List RefSite))
    (tenantId : Uuid) (req req' : CalcInputRequest) : Prop :=
  tonnes (computePreview print port session tenantId req) =
    tonnes (computePreview print port session tenantId req')

/-- Scope 2, the same unit but for case and blanks, or amounts that round to nothing. -/
def UnitSafe (port : FactorCatalogPort) (session : Option (List RefSite)) (tenantId : Uuid)
    (req req' : CalcInputRequest) : Prop :=
  req.subScope.scope = .two ∨ normalised req.unita = normalised req'.unita ∨
    ∀ k, PricedAt port session tenantId req k →
      |k| * max req.quantita req'.quantita * 10 ^ 6 < 1 / 2

theorem scope_of_accepted (h : req.Accepted) : req.subScope.scope = req.scope := by
  unfold CalcInputRequest.Accepted CalcInputRequest.validationErrors at h
  split_ifs at h with hunit hscope
  exact not_not.mp hscope

/-- A preview gives the tonnes per unit times the amount, rounded, unless the site is refused. -/
theorem tonnes_computePreview (haccepted : req.Accepted)
    (hsite : req.subScope = .process → SiteAllows (siteMetaOf session tenantId req)) :
    tonnes (computePreview print port session tenantId req) =
      (perUnit port req (countryOf (siteMetaOf session tenantId req))).bind (priced req) := by
  rw [computePreview_eq_dispatch (scope_of_accepted haccepted) hsite, tonnes_dispatch]

theorem tonnes_of_refused (haccepted : req.Accepted)
    (hsite : ¬ (req.subScope = .process → SiteAllows (siteMetaOf session tenantId req))) :
    tonnes (computePreview print port session tenantId req) = none := by
  obtain ⟨hsub, hrefused⟩ := Classical.not_imp.mp hsite
  have herror : ∃ e, computePreview print port session tenantId req = .error e :=
    computePreview_refused (scope_of_accepted haccepted) hsub hrefused
  obtain ⟨e, he⟩ := herror
  rw [he]
  rfl

namespace Twins

variable (h : Twins print req req')
include h

theorem subScope : req'.subScope = req.subScope := by
  rw [← h.same]

theorem site : siteMetaOf session tenantId req' = siteMetaOf session tenantId req := by
  rw [← h.same]
  rfl

theorem perUnit (country : String) : perUnit port req' country = perUnit port req country := by
  conv_rhs => rw [← h.same]
  rfl

theorem amount (hscope : req.subScope.scope = .two) : amount req' = amount req := by
  obtain ⟨m, hm, hq⟩ := applyUnitConversion_eq_ok.mp h.converted
  unfold UnitLaw.amount
  rw [h.subScope, if_pos hscope, if_pos hscope, kwhMultiplier_of_multiplier hm, Option.map_map,
    ← hq]
  refine congrArg (fun f => Option.map f (kwhMultiplier req'.unita)) (funext fun k => ?_)
  simp only [Function.comp_apply]
  ring

/-- Elsewhere the two previews agree only where the larger amount rounds to nothing. -/
theorem quantize_eq_iff (k : ℚ) :
    quantizeTco2e (k * req.quantita) = quantizeTco2e (k * req'.quantita) ↔
      normalised req.unita = normalised req'.unita ∨
        |k| * max req.quantita req'.quantita * 10 ^ 6 < 1 / 2 := by
  have hq := req.quantita_pos
  have hq' := req'.quantita_pos
  obtain ⟨m, hm, hconverted⟩ := applyUnitConversion_eq_ok.mp h.converted
  rcases multiplier_cases hm with ⟨hsame, rfl⟩ | ⟨hne, hmem⟩
  · rw [← hconverted, mul_one]
    exact ⟨fun _ => .inl hsame, fun _ => rfl⟩
  · have hor : ∀ p : Prop, (normalised req.unita = normalised req'.unita ∨ p) ↔ p :=
      fun p => or_iff_right hne
    rw [hor]
    unfold quantizeTco2e
    have hthousand : m = 1000 ∨ m = 1 / 1000 := (unitConversion_symm _ hmem).2.2
    rcases hthousand with rfl | rfl
    · have hlarger : req'.quantita = 1000 * req.quantita := by
        rw [← hconverted]
        ring
      have hmul : k * req'.quantita = 1000 * (k * req.quantita) := by
        rw [hlarger]
        ring
      rw [max_eq_right (by linarith), hmul, roundHalfUp_eq_mul_iff 6 (by norm_num), ← hmul, abs_mul,
        abs_of_pos hq']
    · have hlarger : req.quantita = 1000 * req'.quantita := by
        rw [← hconverted]
        ring
      have hmul : k * req.quantita = 1000 * (k * req'.quantita) := by
        rw [hlarger]
        ring
      rw [max_eq_left (by linarith), eq_comm, hmul, roundHalfUp_eq_mul_iff 6 (by norm_num), ← hmul,
        abs_mul, abs_of_pos hq]

theorem sameOutcome_iff :
    SameOutcome print port session tenantId req req' ↔
      UnitSafe port session tenantId req req' := by
  unfold SameOutcome UnitSafe PricedAt
  by_cases hsite : req.subScope = .process → SiteAllows (siteMetaOf session tenantId req)
  · have hsite' : req'.subScope = .process → SiteAllows (siteMetaOf session tenantId req') := by
      rw [h.subScope, h.site]
      exact hsite
    rw [tonnes_computePreview h.accepted hsite, tonnes_computePreview h.accepted' hsite', h.site,
      h.perUnit]
    cases UnitLaw.perUnit port req (countryOf (siteMetaOf session tenantId req)) with
    | none => simp
    | some k =>
        simp only [Option.bind_some, Option.some.injEq]
        by_cases hscope : req.subScope.scope = .two
        · have hpriced : priced req k = priced req' k := by
            rw [priced, priced, h.amount hscope]
          exact ⟨fun _ => .inl hscope, fun _ => hpriced⟩
        · have hscope' : req'.subScope.scope ≠ .two := by
            rw [h.subScope]
            exact hscope
          rw [priced_raw hscope, priced_raw hscope', Option.some.injEq, h.quantize_eq_iff]
          constructor
          · rintro (hsame | hsmall)
            · exact .inr (.inl hsame)
            · refine .inr (.inr ?_)
              rintro k' ⟨-, rfl⟩
              exact hsmall
          · rintro (htwo | hsame | hsmall)
            · exact absurd htwo hscope
            · exact .inl hsame
            · exact .inr (hsmall k ⟨hsite, rfl⟩)
  · have hsite' : ¬ (req'.subScope = .process →
        SiteAllows (siteMetaOf session tenantId req')) := by
      rw [h.subScope, h.site]
      exact hsite
    rw [tonnes_of_refused h.accepted hsite, tonnes_of_refused h.accepted' hsite']
    refine ⟨fun _ => .inr (.inr ?_), fun _ => rfl⟩
    rintro k ⟨hallowed, -⟩
    exact absurd hallowed hsite

end Twins

end Law

/-! ## Units that do not convert -/

section Denominator

variable (print : Printing) (port : FactorCatalogPort) (session : Option (List RefSite))
  (tenantId : Uuid) (req : CalcInputRequest)

def isUnitConversionError : PreviewError → Bool
  | .ncvDependent .. => true
  | .noConversion .. => true
  | _ => false

def RaisesUnitConversionError (x : Except PreviewError CalcPreviewResponse) : Prop :=
  ∃ e, x = .error e ∧ isUnitConversionError e = true

/-- The text behind the last slash of a factor's unit. -/
def denominator (unit : String) : String :=
  String.ofList (unit.toList.reverse.takeWhile fun c => decide (c ≠ '/')).reverse

/-- The unit of the factor that the request selects, once its site is allowed. -/
def SelectsUnit (unit : String) : Prop :=
  (req.subScope = .process → SiteAllows (siteMetaOf session tenantId req)) ∧
    match lookedUp req (countryOf (siteMetaOf session tenantId req)) with
    | none => False
    | some [] => unit = "tCO2 / tCO2"
    | some (factorId :: _) => ∃ f, FindsFactor port req factorId f ∧ f.unit = unit

/-- The converter takes the unit of the request to the unit of the denominator. -/
def Converts (unit : String) : Prop :=
  ∃ a, applyUnitConversion print req.quantita req.unita (denominator unit) = .ok a

variable {print port session tenantId req}

theorem outcome_requireVintage {factorId : String} :
    Outcome (requireVintage port factorId req.gwpSet req.anno) (fun _ => True)
      fun e => isUnitConversionError e = false := by
  unfold requireVintage
  cases port.get factorId req.gwpSet (some req.anno) with
  | error e => rfl
  | ok f =>
      dsimp only
      split_ifs
      · rfl
      · trivial

theorem outcome_label {resolve : String → Option String} {methodology : Methodology}
    {unit tag : String} :
    Outcome (previewLabel print port req resolve methodology unit tag) (fun _ => True)
      fun e => isUnitConversionError e = false := by
  unfold previewLabel
  cases resolve req.label with
  | none => rfl
  | some factorId => exact outcome_requireVintage.bind fun _ _ => trivial

/-- Outside Scope 2 no handler looks at the unit. -/
theorem outcome_dispatch {country : String} (hscope : req.subScope.scope ≠ .two) :
    Outcome (previewDispatch print port req country) (fun _ => True)
      fun e => isUnitConversionError e = false := by
  unfold previewDispatch
  cases hsub : req.subScope
  all_goals dsimp only
  case lb => exact absurd (by rw [hsub]; rfl) hscope
  case mb => exact absurd (by rw [hsub]; rfl) hscope
  case combustion =>
    unfold previewS1Combustion
    cases req.combustibile with
    | none => rfl
    | some c =>
        exact outcome_requireVintage.bind fun _ _ => outcome_requireVintage.bind fun _ _ =>
          outcome_requireVintage.bind fun _ _ => trivial
  case process =>
    unfold previewS1Process
    cases req.effectiveMode with
    | directTco2 => trivial
    | caco3Mass =>
        refine outcome_requireVintage.bind fun f _ => ?_
        by_cases hconstant : f.value = some (4397 / 10000)
        · simp only [hconstant, ne_eq, not_true_eq_false, if_false]
          trivial
        · simp only [hconstant, ne_eq, not_false_eq_true, if_true]
          rfl
  case cat1PurchasedGoods =>
    unfold previewS3Cat1
    cases Scope3Cat1PurchasedGoods.resolve req.label with
    | none => rfl
    | some factorId => exact outcome_requireVintage.bind fun _ _ => trivial
  case cat7Commuting => exact outcome_requireVintage.bind fun _ _ => trivial
  case cat12Eol =>
    exact outcome_requireVintage.bind fun _ _ => outcome_requireVintage.bind fun _ _ => trivial
  all_goals
    have hlabel := @outcome_label print port req
    exact hlabel

theorem applyUnitConversion_error {q : ℚ} {u v : String} {e : PreviewError}
    (h : applyUnitConversion print q u v = .error e) : isUnitConversionError e = true := by
  unfold applyUnitConversion at h
  dsimp only at h
  split_ifs at h with hsame hncv
  · rw [← Except.error.inj h]
    rfl
  · cases hlookup : unitConversion.lookup (strip (lower u), strip (lower v)) with
    | none =>
        rw [hlookup] at h
        rw [← Except.error.inj h]
        rfl
    | some m =>
        rw [hlookup] at h
        cases h

theorem quantitaKwh_error {e : PreviewError} (h : quantitaKwh print req = .error e) :
    isUnitConversionError e = true := by
  unfold quantitaKwh at h
  split_ifs at h
  cases happly : applyUnitConversion print req.quantita req.unita "kWh" with
  | error e' =>
      rw [happly] at h
      rw [← Except.error.inj h]
      exact applyUnitConversion_error happly
  | ok a =>
      rw [happly] at h
      cases h

/-- A Scope 2 handler that has its factor raises exactly where the unit is not one of energy. -/
theorem raises_scope2_iff {g : ℚ × Option String → CalcPreviewResponse} :
    RaisesUnitConversionError (quantitaKwh print req >>= fun a => .ok (g a)) ↔
      kwhMultiplier req.unita = none := by
  rcases quantitaKwh_cases print req with ⟨hnone, e, he⟩ | ⟨k, text, hk, hok⟩
  · rw [he, hnone]
    exact ⟨fun _ => rfl, fun _ => ⟨e, rfl, quantitaKwh_error he⟩⟩
  · rw [hok, hk]
    refine ⟨?_, fun hsome => (by cases hsome)⟩
    rintro ⟨e, he, -⟩
    cases he

/-- A request that has selected its factor raises a conversion error exactly in Scope 2, for a unit
other than kWh and MWh. -/
theorem raises_iff (haccepted : req.Accepted) {unit : String}
    (hselects : SelectsUnit port session tenantId req unit) :
    RaisesUnitConversionError (computePreview print port session tenantId req) ↔
      req.subScope.scope = .two ∧ kwhMultiplier req.unita = none := by
  obtain ⟨hsite, hunit⟩ := hselects
  rw [computePreview_eq_dispatch (scope_of_accepted haccepted) hsite]
  by_cases hscope : req.subScope.scope = .two
  · simp only [hscope, true_and]
    cases hsub : req.subScope
    case lb =>
      simp only [lookedUp, hsub] at hunit
      obtain ⟨f, hf, -⟩ := hunit
      unfold previewDispatch previewS2Lb
      simp only [hsub]
      rw [requireLbFactor_eq_ok.mpr hf, ok_bind]
      exact raises_scope2_iff
    case mb =>
      simp only [lookedUp, hsub] at hunit
      obtain ⟨f, hf, -⟩ := hunit
      unfold FindsFactor at hf
      unfold previewDispatch previewS2Mb
      simp only [hsub]
      rw [hf, ok_bind]
      exact raises_scope2_iff
    all_goals
      rw [hsub] at hscope
      cases hscope
  · constructor
    · rintro ⟨e, he, hconversion⟩
      have hother := (outcome_dispatch hscope).of_error he
      rw [hconversion] at hother
      cases hother
    · intro h
      exact absurd h.1 hscope

end Denominator

/-- The unit laws of the preview: for the same amount in two units, exactly outside Scope 2 they
fail, unless the units are one or the amounts round to nothing; for a unit that does not convert to
the denominator of the selected factor, the error is raised exactly in Scope 2, for units other than
kWh and MWh; and every conversion can be turned back. -/
theorem unit_laws_iff (print : Printing) (port : FactorCatalogPort)
    (session : Option (List RefSite)) (tenantId : Uuid) :
    (∀ req req', Twins print req req' →
      (SameOutcome print port session tenantId req req' ↔
        UnitSafe port session tenantId req req')) ∧
    (∀ req unit, req.Accepted → SelectsUnit port session tenantId req unit →
      ((¬ Converts print req unit →
          RaisesUnitConversionError (computePreview print port session tenantId req)) ↔
        Converts print req unit ∨
          (req.subScope.scope = .two ∧ kwhMultiplier req.unita = none))) ∧
    ∀ q u v q' text, applyUnitConversion print q u v = .ok (q', text) →
      ∃ text', applyUnitConversion print q' v u = .ok (q, text') := by
  refine ⟨fun req req' h => h.sameOutcome_iff, ?_, fun q u v q' text h =>
    applyUnitConversion_roundTrip h⟩
  intro req unit haccepted hselects
  rw [raises_iff haccepted hselects, or_iff_not_imp_left]

/-- Electricity of IANO, location-based. -/
def electricity (quantita : ℚ) (unita : String) (h : 0 < quantita) : CalcInputRequest where
  scope := .two
  subScope := .lb
  anno := 2025
  codiceSito := some "IANO"
  quantita := quantita
  unita := unita
  gwpSet := .ar6
  combustibile := none
  processMode := none
  strumentoMb := none
  sottocategoria := none
  metodo := none
  fonteDato := none
  qualitaDato := none
  note := none
  anno_range := requestAnno_2025
  quantita_pos := h

theorem electricity_twins :
    Twins plainPrinting (electricity 1000 "kWh" (by decide)) (electricity 1 "MWh" one_pos) where
  accepted := by decide
  accepted' := by decide
  same := rfl
  converted :=
    applyUnitConversion_eq_ok.mpr ⟨1 / 1000, by decide +kernel, by norm_num [electricity]⟩

def gridPort : FactorCatalogPort :=
  sqlFactorCatalogAdapter ⟨[publishedRow 1 (lbFactorIdFor "IT") "kg CO2e / kWh" .ar6 (1 / 4)],
    by decide, by decide⟩ 1

/-- A thousand kWh and one MWh, of a quarter of a tonne. -/
theorem unit_laws_iff_electricity :
    (computePreview plainPrinting gridPort none 1 (electricity 1 "MWh" one_pos)).map
        CalcPreviewResponse.tco2e = .ok (1 / 4) ∧
      SameOutcome plainPrinting gridPort none 1 (electricity 1000 "kWh" (by decide))
        (electricity 1 "MWh" one_pos) :=
  ⟨by decide +kernel, ((unit_laws_iff plainPrinting gridPort none 1).1 _ _
    electricity_twins).mpr (.inl rfl)⟩

/-- Cardboard packaging. -/
def cardboard (quantita : ℚ) (unita : String) (h : 0 < quantita) : CalcInputRequest :=
  { electricity quantita unita h with
    scope := .three
    subScope := .cat1PurchasedGoods
    codiceSito := none
    sottocategoria := some "imballaggi cartone"
    metodo := some .massBased }

def cardboardPort : FactorCatalogPort :=
  sqlFactorCatalogAdapter ⟨[publishedRow 1 "ECOINV_CARDBOARD_V3_10" "kg CO2e / kg" .ar6 (1 / 2)],
    by decide, by decide⟩ 1

theorem cardboard_twins :
    Twins plainPrinting (cardboard 1 "t" one_pos) (cardboard 1000 "kg" (by decide)) where
  accepted := by decide
  accepted' := by decide
  same := rfl
  converted := applyUnitConversion_eq_ok.mpr
    ⟨1000, by decide +kernel, by norm_num [cardboard, electricity]⟩

/-- One tonne of cardboard is priced like one kilogram, and a litre of it too. -/
theorem cardboard_by_number :
    ¬ SameOutcome plainPrinting cardboardPort none 1 (cardboard 1 "t" one_pos)
        (cardboard 1000 "kg" (by decide)) ∧
      SelectsUnit cardboardPort none 1 (cardboard 1 "l" one_pos) "kg CO2e / kg" ∧
      ¬ Converts plainPrinting (cardboard 1 "l" one_pos) "kg CO2e / kg" ∧
      ¬ RaisesUnitConversionError
        (computePreview plainPrinting cardboardPort none 1 (cardboard 1 "l" one_pos)) := by
  have hsite : (cardboard 1 "l" one_pos).subScope = .process →
      SiteAllows (siteMetaOf none 1 (cardboard 1 "l" one_pos)) := by
    intro h
    cases h
  have hselects :
      SelectsUnit cardboardPort none 1 (cardboard 1 "l" one_pos) "kg CO2e / kg" := by
    refine ⟨hsite, ?_⟩
    exact ⟨_, rfl, rfl⟩
  refine ⟨?_, hselects, ?_, ?_⟩
  · intro hsame
    rcases cardboard_twins.sameOutcome_iff.mp hsame with htwo | hunit | hsmall
    · cases htwo
    · exact absurd hunit (by decide +kernel)
    · have hpriced : PricedAt cardboardPort none 1 (cardboard 1 "t" one_pos) (1 / 2 * kgToTonne) :=
        ⟨fun h => (by cases h), rfl⟩
      have hlt := hsmall _ hpriced
      norm_num [cardboard, electricity, kgToTonne] at hlt
  · rintro ⟨a, ha⟩
    obtain ⟨m, hm, -⟩ := applyUnitConversion_eq_ok.mp ⟨a.2, ha⟩
    have hnone : multiplier "l" (denominator "kg CO2e / kg") = none := by decide +kernel
    exact absurd (hnone.symm.trans hm) (by simp)
  · intro hraises
    have htwo := ((raises_iff (by decide) hselects).mp hraises).1
    cases htwo

end GhgTool.UnitLaw
