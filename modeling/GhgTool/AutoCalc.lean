import GhgTool.CalcInput
import GhgTool.HalfUp
import GhgTool.Scope1
import GhgTool.Scope2
import GhgTool.Scope3FixedFactors

/-!
# The auto-calc preview

`compute_preview` with its twelve handlers. A handler resolves its factor for the reporting year,
multiplies and rounds to six decimals; only the Scope 2 handlers look at the unit. The texts of a
trace depend on how the runtime prints a decimal, with the trailing zeros that a rational does not
have, and how it quotes a string, so both are parameters.

Decimals are exact rationals here, which the numbers of the runtime are as long as no product and no
sum needs more than twenty-eight digits: `PreviewPrecision` has the handlers in the runtime's context,
and `PreviewLossless` the previews that are the same in both.
-/

namespace GhgTool

/-! ## The validators of the request -/

inductive RequestError
  | subScopeNotValid (subScope : CalcSubScope) (scope : Scope)
  | combustibileRequired
  | codiceSitoRequired (subScope : CalcSubScope)
  | unitaMustBeTco2 (unita : String)
  | strumentoMbRequired
  | sottocategoriaRequired
  | metodoRequired
  | codiceSitoMustBeNull
  | unitaEmpty
  deriving DecidableEq

def CalcSubScope.scope : CalcSubScope → Scope
  | .combustion | .process => .one
  | .lb | .mb => .two
  | _ => .three

namespace CalcInputRequest

/-- `req.process_mode or "direct_tco2"`. -/
def effectiveMode (req : CalcInputRequest) : ProcessMode :=
  req.processMode.getD .directTco2

/-- `_validate_conditional_fields`, once scope and sub-scope fit. -/
def conditionalErrors (req : CalcInputRequest) : List RequestError :=
  let siteRequired := if req.codiceSito = none then [.codiceSitoRequired req.subScope] else []
  match req.subScope with
  | .combustion =>
    (if req.combustibile = none then [.combustibileRequired] else []) ++ siteRequired
  | .process =>
    siteRequired ++ if req.effectiveMode = .directTco2 ∧ req.unita ≠ "tCO2" then
      [.unitaMustBeTco2 req.unita] else []
  | .lb => siteRequired
  | .mb => (if req.strumentoMb = none then [.strumentoMbRequired] else []) ++ siteRequired
  | _ =>
    (if req.sottocategoria = none then [.sottocategoriaRequired] else []) ++
      ((if req.metodo = none then [.metodoRequired] else []) ++
        if req.codiceSito ≠ none then [.codiceSitoMustBeNull] else [])

def validationErrors (req : CalcInputRequest) : List RequestError :=
  if req.unita = "" then [.unitaEmpty]
  else if req.subScope.scope ≠ req.scope then [.subScopeNotValid req.subScope req.scope]
  else req.conditionalErrors

/-- The schema accepts the request. -/
def Accepted (req : CalcInputRequest) : Prop :=
  req.validationErrors = []

instance (req : CalcInputRequest) : Decidable req.Accepted :=
  inferInstanceAs (Decidable (req.validationErrors = []))

end CalcInputRequest

/-! ## Sites -/

/-- `ref.site_type_enum`. -/
inductive SiteType
  | stabilimentoProduttivo | ufficio | magazzino
  deriving DecidableEq

/-- A row of `ref.sites`. -/
structure RefSite where
  id : Uuid
  tenantId : Uuid
  codiceSito : String
  siteType : SiteType
  country : String := "IT"
  isActive : Bool := true
  deriving DecidableEq

structure SiteMeta where
  codiceSito : String
  siteType : SiteType
  country : String
  deriving DecidableEq

def fetchSiteMeta (sites : List RefSite) (codiceSito : String) (tenantId : Uuid) :
    Option SiteMeta :=
  (sites.find? fun s => s.codiceSito == codiceSito && s.tenantId == tenantId && s.isActive).map
    fun s => ⟨s.codiceSito, s.siteType, s.country⟩

/-! ## Errors and units -/

inductive PreviewError
  | noHandler (scope : Scope) (subScope : CalcSubScope)
  | siteTypeInvalid (codiceSito : String) (siteType : SiteType)
  /-- `MissingFactorError` of `require_factor`. -/
  | calc (e : CalcError)
  | keyError
  | noLbFactor (country factorId : String) (gwpSet : GwpSet) (anno : ℕ)
  | noFactorForLabel (subScope : CalcSubScope) (sottocategoria : Option String)
  | stoichiometricMismatch (value : Option ℚ) (factorId : String)
  | ncvDependent (fromUnit toUnit : String)
  | noConversion (fromUnit toUnit : String)
  deriving DecidableEq

/-- `_UNIT_CONVERSION` less its identities, which the equality test before it answers. -/
def unitConversion : List ((String × String) × ℚ) :=
  [(("kwh", "mwh"), 1 / 1000), (("mwh", "kwh"), 1000),
    (("kg", "t"), 1 / 1000), (("t", "kg"), 1000),
    (("kg", "tonne"), 1 / 1000), (("tonne", "kg"), 1000),
    (("l", "m3"), 1 / 1000), (("m3", "l"), 1000),
    (("litri", "m3"), 1 / 1000), (("m3", "litri"), 1000)]

instance lawfulBEq_units : LawfulBEq (String × String) :=
  inferInstance

def ncvDependentPairs : List (String × String) :=
  [("sm3", "kwh"), ("kwh", "sm3"), ("sm3", "mwh"), ("mwh", "sm3"), ("litri", "kwh"),
    ("kwh", "litri"), ("m3", "kwh"), ("kwh", "m3"), ("l", "kwh"), ("kwh", "l")]

/-- `str` of a `Decimal` and `repr` of a string. -/
structure Printing where
  dec : ℚ → String
  repr : String → String

section Preview

variable (print : Printing)

def applyUnitConversion (quantita : ℚ) (fromUnit toUnit : String) :
    Except PreviewError (ℚ × String) :=
  let pair := (strip (lower fromUnit), strip (lower toUnit))
  if pair.1 = pair.2 then
    .ok (quantita, fromUnit ++ " -> " ++ toUnit ++ " (no conversion)")
  else if pair ∈ ncvDependentPairs then .error (.ncvDependent fromUnit toUnit)
  else match unitConversion.lookup pair with
    | none => .error (.noConversion fromUnit toUnit)
    | some multiplier =>
      .ok (quantita * multiplier, print.dec quantita ++ " " ++ fromUnit ++ " -> " ++
        print.dec (quantita * multiplier) ++ " " ++ toUnit ++ " (×" ++ print.dec multiplier ++ ")")

/-- The quantity of a Scope 2 request in kWh, with the text of a conversion if there was one. -/
def quantitaKwh (req : CalcInputRequest) : Except PreviewError (ℚ × Option String) :=
  if lower req.unita = "kwh" then .ok (req.quantita, none)
  else match applyUnitConversion print req.quantita req.unita "kWh" with
    | .error e => .error e
    | .ok (quantita, text) => .ok (quantita, some text)

def quantizeTco2e (value : ℚ) : ℚ :=
  roundHalfUp 6 value

/-- `require_factor` with the reporting year as vintage. -/
def requireVintage (catalog : FactorCatalogPort) (factorId : String) (gwpSet : GwpSet) (anno : ℕ) :
    Except PreviewError FactorRecord :=
  match catalog.get factorId gwpSet (some anno) with
  | .error e => .error (.calc e)
  | .ok record =>
    if record.value = none then .error (.calc (.noPinnedValue factorId gwpSet)) else .ok record

/-- `str(factor.vintage or req.anno)`. -/
def vintageText (factor : FactorRecord) (anno : ℕ) : String :=
  match factor.vintage with
  | none => toString anno
  | some vintage => if vintage = "" then toString anno else vintage

def vintageWarnings (factor : FactorRecord) (anno : ℕ) : List String :=
  if vintageText factor anno = toString anno then []
  else ["Vintage " ++ vintageText factor anno ++ " used (closest-prior to " ++ toString anno ++
    " request)"]

/-- The part of a trace that every handler fills in from its factor. -/
def factorTrace (req : CalcInputRequest) (factor : FactorRecord) (tco2e : ℚ)
    (methodology : Methodology) (formula : String) (warnings : List String) :
    CalcPreviewResponse where
  tco2e := tco2e
  co2BiogenicTonne := none
  co2FossilTonne := none
  factorId := factor.factorId
  factorValue := factor.valueOrZero
  factorUnit := factor.unit
  factorSource := factor.source
  factorVersion := factor.version
  factorVintage := vintageText factor req.anno
  gwpSet := req.gwpSet
  gwpValue := none
  methodology := methodology
  formulaHuman := formula
  unitConversionApplied := none
  warnings := warnings

/-! ## Scope 1 -/

def Combustibile.code : Combustibile → String
  | .gasNat => "GAS_NAT"
  | .gasolio => "GASOLIO"
  | .benzina => "BENZINA"

/-- `_FUEL_FACTOR_IDS[combustibile]`. -/
def Combustibile.componentIds : Combustibile → Scope1Combustion.ComponentIds
  | .gasNat => ⟨"COMB_GAS_NAT_CO2_DEFRA_2025", "COMB_GAS_NAT_CH4_DEFRA_2025",
      "COMB_GAS_NAT_N2O_DEFRA_2025"⟩
  | .gasolio => ⟨"COMB_GASOLIO_CO2_DEFRA_2025", "COMB_GASOLIO_CH4_DEFRA_2025",
      "COMB_GASOLIO_N2O_DEFRA_2025"⟩
  | .benzina => ⟨"COMB_BENZINA_CO2_DEFRA_2025", "COMB_BENZINA_CH4_DEFRA_2025",
      "COMB_BENZINA_N2O_DEFRA_2025"⟩

theorem lookup_code (c : Combustibile) :
    Scope1Combustion.fuelFactorIds.lookup c.code = some c.componentIds := by
  cases c <;> rfl

def previewS1Combustion (catalog : FactorCatalogPort) (req : CalcInputRequest) :
    Except PreviewError CalcPreviewResponse :=
  match req.combustibile with
  | none => .error .keyError
  | some combustibile => do
    let gwp := getGwpValues req.gwpSet
    let ids := combustibile.componentIds
    let co2Factor ← requireVintage catalog ids.co2 req.gwpSet req.anno
    let ch4Factor ← requireVintage catalog ids.ch4 req.gwpSet req.anno
    let n2oFactor ← requireVintage catalog ids.n2o req.gwpSet req.anno
    let co2Kg := co2Factor.valueOrZero * req.quantita
    let ch4Kg := ch4Factor.valueOrZero * req.quantita
    let n2oKg := n2oFactor.valueOrZero * req.quantita
    let co2Tonne := co2Kg * kgToTonne
    let ch4Tco2e := ch4Kg * kgToTonne * gwp.ch4
    let n2oTco2e := n2oKg * kgToTonne * gwp.n2o
    let tco2e := quantizeTco2e (co2Tonne + ch4Tco2e + n2oTco2e)
    let formula := print.dec req.quantita ++ " " ++ req.unita ++ " × " ++
      print.dec co2Factor.valueOrZero ++ " kg CO2/" ++ req.unita ++ " × 1e-3 = " ++
      print.dec co2Tonne ++ " tCO2 (+ CH4: " ++ print.dec ch4Tco2e ++ " tCO2e + N2O: " ++
      print.dec n2oTco2e ++ " tCO2e) = " ++ print.dec tco2e ++ " tCO2e"
    return { factorTrace req co2Factor tco2e .activityBased formula
        (vintageWarnings co2Factor req.anno) with
      co2FossilTonne := some (quantizeTco2e co2Tonne)
      gwpValue := some 1 }

/-- Mode A: the quantity is already the emission. -/
def directTco2 (req : CalcInputRequest) (warnings : List String) : CalcPreviewResponse where
  tco2e := quantizeTco2e req.quantita
  co2BiogenicTonne := none
  co2FossilTonne := none
  factorId := "DIRECT_TCO2_INPUT"
  factorValue := 1
  factorUnit := "tCO2 / tCO2"
  factorSource := "direct_input"
  factorVersion := "n/a"
  factorVintage := "n/a"
  gwpSet := req.gwpSet
  gwpValue := some 1
  methodology := .stoichiometric
  formulaHuman := print.dec req.quantita ++ " tCO2 × 1 (direct input, Mode A) = " ++
    print.dec (quantizeTco2e req.quantita) ++ " tCO2e"
  unitConversionApplied := none
  warnings := warnings

/-- `codice_sito.upper() != "IANO"` on a site that is given. -/
def ianoWarnings (codiceSito : Option String) : List String :=
  match codiceSito with
  | none => []
  | some site =>
    if site = "" ∨ upper site = "IANO" then []
    else ["S1 process is designed for site IANO; codice_sito=" ++ print.repr site ++
      " — verify applicability."]

def previewS1Process (catalog : FactorCatalogPort) (req : CalcInputRequest) :
    Except PreviewError CalcPreviewResponse :=
  let warnings := ianoWarnings print req.codiceSito
  match req.effectiveMode with
  | .directTco2 => .ok (directTco2 print req warnings)
  | .caco3Mass => do
    let factor ← requireVintage catalog Scope1Process.factorId req.gwpSet req.anno
    if factor.value ≠ some (4397 / 10000) then
      throw (.stoichiometricMismatch factor.value factor.factorId)
    let tco2e := quantizeTco2e (factor.valueOrZero * req.quantita)
    let formula := print.dec req.quantita ++ " t CaCO3 × " ++ print.dec factor.valueOrZero ++
      " tCO2/t CaCO3 = " ++ print.dec tco2e ++ " tCO2e"
    return { factorTrace req factor tco2e .stoichiometric formula
        (warnings ++ vintageWarnings factor req.anno) with gwpValue := some 1 }

/-! ## Scope 2 -/

/-- `_LB_FACTOR_ID.replace("_IT_", f"_{country}_", 1)` for a country other than Italy. -/
def lbFactorIdFor (country : String) : String :=
  if country = "IT" then Scope2Lb.lbFactorId else "LB_" ++ country ++ "_GRID_ISPRA_2024"

def requireLbFactor (catalog : FactorCatalogPort) (req : CalcInputRequest) (country : String) :
    Except PreviewError FactorRecord :=
  match requireVintage catalog (lbFactorIdFor country) req.gwpSet req.anno with
  | .ok factor => .ok factor
  | .error e =>
    if country = "IT" then .error e
    else .error (.noLbFactor country (lbFactorIdFor country) req.gwpSet req.anno)

def previewS2Lb (catalog : FactorCatalogPort) (req : CalcInputRequest) (country : String) :
    Except PreviewError CalcPreviewResponse := do
  let factor ← requireLbFactor catalog req country
  let (quantita, unitDesc) ← quantitaKwh print req
  let tco2e := quantizeTco2e (factor.valueOrZero * quantita * kgToTonne)
  let formula := print.dec quantita ++ " kWh × " ++ print.dec factor.valueOrZero ++
    " kgCO2/kWh × 1e-3 = " ++ print.dec tco2e ++ " tCO2e [LB country=" ++ country ++ "]"
  let countryWarnings := if country = "IT" then [] else
    ["Non-IT site: LB factor resolved for country='" ++ country ++ "' (factor_id=" ++
      print.repr (lbFactorIdFor country) ++ ")"]
  return { factorTrace req factor tco2e .locationBased formula
      (vintageWarnings factor req.anno ++ countryWarnings) with
    gwpValue := some 1
    unitConversionApplied := unitDesc }

def StrumentoMb.label : StrumentoMb → String
  | .go => "GO"
  | .ppa => "PPA"
  | .residual => "RESIDUAL"

def mbFactorId (strumento : Option StrumentoMb) : String :=
  if strumento = some .go then Scope2Mb.goZeroFactorId else Scope2Mb.residualFactorId

def instrumentWarnings : Option StrumentoMb → List String
  | some .go => ["GO instrument applied: tCO2e = 0 (market-based zero factor)"]
  | some .ppa => ["PPA instrument mapped to Italian AIB residual mix per market rules"]
  | _ => []

def previewS2Mb (catalog : FactorCatalogPort) (req : CalcInputRequest) :
    Except PreviewError CalcPreviewResponse := do
  let factor ← requireVintage catalog (mbFactorId req.strumentoMb) req.gwpSet req.anno
  let (quantita, unitDesc) ← quantitaKwh print req
  let tco2e := quantizeTco2e (factor.valueOrZero * quantita * kgToTonne)
  let formula := print.dec quantita ++ " kWh × " ++ print.dec factor.valueOrZero ++
    " kgCO2e/kWh × 1e-3 = " ++ print.dec tco2e ++ " tCO2e (strumento_mb=" ++
    ((req.strumentoMb.map StrumentoMb.label).map print.repr).getD "None" ++ ")"
  return { factorTrace req factor tco2e .marketBased formula
      (vintageWarnings factor req.anno ++ instrumentWarnings req.strumentoMb) with
    co2FossilTonne := if 0 < tco2e then some (quantizeTco2e tco2e) else none
    gwpValue := some 1
    unitConversionApplied := unitDesc }

/-! ## Scope 3 -/

/-- `req.sottocategoria or ""`. -/
def CalcInputRequest.label (req : CalcInputRequest) : String :=
  req.sottocategoria.getD ""

def previewS3Cat1 (catalog : FactorCatalogPort) (req : CalcInputRequest) :
    Except PreviewError CalcPreviewResponse :=
  match Scope3Cat1PurchasedGoods.resolve req.label with
  | none => .error (.noFactorForLabel .cat1PurchasedGoods req.sottocategoria)
  | some factorId => do
    let factor ← requireVintage catalog factorId req.gwpSet req.anno
    let tco2e := quantizeTco2e (factor.valueOrZero * req.quantita * kgToTonne)
    let bio := if factorId ∈ Scope3Cat1PurchasedGoods.biogenicFactorIds then
      catalog.getBiogenicShare factorId req.gwpSet else none
    let co2Biogenic := bio.map fun bio => quantizeTco2e (bio * req.quantita * kgToTonne)
    let memo := match co2Biogenic with
      | none => ""
      | some biogenic =>
        "; biogenic memo: " ++ print.dec biogenic ++ " tCO2 (ADR-007, not in tco2e)"
    let formula := print.dec req.quantita ++ " kg × " ++ print.dec factor.valueOrZero ++
      " kgCO2e/kg × 1e-3 = " ++ print.dec tco2e ++ " tCO2e [" ++ req.label ++ " via " ++ factorId ++
      "]" ++ memo
    return { factorTrace req factor tco2e (Scope3Cat1PurchasedGoods.methodologyOf factorId) formula
        (vintageWarnings factor req.anno) with
      co2BiogenicTonne := co2Biogenic
      co2FossilTonne := co2Biogenic.map fun _ => tco2e }

/-- The body that categories 4, 5, 6 and 9 share, and category 3 after its own label test. -/
def previewLabel (catalog : FactorCatalogPort) (req : CalcInputRequest)
    (resolve : String → Option String) (methodology : Methodology) (unit tag : String) :
    Except PreviewError CalcPreviewResponse :=
  match resolve req.label with
  | none => .error (.noFactorForLabel req.subScope req.sottocategoria)
  | some factorId => do
    let factor ← requireVintage catalog factorId req.gwpSet req.anno
    let tco2e := quantizeTco2e (factor.valueOrZero * req.quantita * kgToTonne)
    let formula := print.dec req.quantita ++ " " ++ unit ++ " × " ++ print.dec factor.valueOrZero ++
      " kgCO2e/" ++ unit ++ " × 1e-3 = " ++ print.dec tco2e ++ " tCO2e [" ++ tag ++ "]"
    return factorTrace req factor tco2e methodology formula (vintageWarnings factor req.anno)

/-- The keys of category 3: a fuel, or one of the names of the two electricity factors. -/
def cat3FactorId (label : String) : Option String :=
  let sub := upper (strip label)
  match Scope3Cat3FuelEnergy.fuelWttFactorIds.lookup sub with
  | some factorId => some factorId
  | none =>
    if sub ∈ ["WTT_ELEC", "ELECTRICITY_WTT", "ELEC_WTT"] then some Scope3Cat3FuelEnergy.elecWttId
    else if sub ∈ ["TND", "TND_ELEC", "T&D", "T_AND_D"] then some Scope3Cat3FuelEnergy.tndElecItId
    else none

def previewS3Cat3 (catalog : FactorCatalogPort) (req : CalcInputRequest) :
    Except PreviewError CalcPreviewResponse :=
  previewLabel print catalog req cat3FactorId .activityBased req.unita
    ("Cat3 WTT/TND " ++ req.label)

def previewS3Cat4 (catalog : FactorCatalogPort) (req : CalcInputRequest) :
    Except PreviewError CalcPreviewResponse :=
  previewLabel print catalog req Scope3Cat4UpstreamTransport.resolveMode .distanceBased "tkm"
    req.label

def previewS3Cat5 (catalog : FactorCatalogPort) (req : CalcInputRequest) :
    Except PreviewError CalcPreviewResponse :=
  previewLabel print catalog req Scope3Cat5Waste.resolveWasteFactor .massBased "t" req.label

def previewS3Cat6 (catalog : FactorCatalogPort) (req : CalcInputRequest) :
    Except PreviewError CalcPreviewResponse :=
  previewLabel print catalog req Scope3Cat6BusinessTravel.resolveFactor .spendBased req.unita
    req.label

def previewS3Cat9 (catalog : FactorCatalogPort) (req : CalcInputRequest) :
    Except PreviewError CalcPreviewResponse :=
  previewLabel print catalog req Scope3Cat9DownstreamTransport.resolveMode .distanceBased "tkm"
    req.label

/-- Every label is accepted; one that the batch module would skip only earns a warning. -/
def previewS3Cat7 (catalog : FactorCatalogPort) (req : CalcInputRequest) :
    Except PreviewError CalcPreviewResponse := do
  let factor ← requireVintage catalog Scope3Cat7Commuting.factorId req.gwpSet req.anno
  let tco2e := quantizeTco2e (factor.valueOrZero * req.quantita * kgToTonne)
  let labelWarnings := if lower (strip req.label) = "commuting_auto" then [] else
    ["Cat 7 factor is average-car (DEFRA); sottocategoria=" ++ print.repr req.label ++
      " != 'commuting_auto' — verify mode applicability."]
  let formula := print.dec req.quantita ++ " km × " ++ print.dec factor.valueOrZero ++
    " kgCO2e/km × 1e-3 = " ++ print.dec tco2e ++ " tCO2e [Cat7 commuting]"
  return factorTrace req factor tco2e .distanceBased formula
    (vintageWarnings factor req.anno ++ labelWarnings)

def previewS3Cat12 (catalog : FactorCatalogPort) (req : CalcInputRequest) :
    Except PreviewError CalcPreviewResponse := do
  let landfill ← requireVintage catalog Scope3Cat12Eol.landfillFactorId req.gwpSet req.anno
  let recycle ← requireVintage catalog Scope3Cat12Eol.recycleFactorId req.gwpSet req.anno
  let landfillMass := req.quantita * Scope3Cat12Eol.landfillFraction
  let recycleMass := req.quantita * Scope3Cat12Eol.recycleFraction
  let landfillRaw := landfill.valueOrZero * landfillMass * kgToTonne
  let recycleRaw := recycle.valueOrZero * recycleMass * kgToTonne
  let tco2e := quantizeTco2e (landfillRaw + recycleRaw)
  let formula := print.dec req.quantita ++ " t × (30% landfill: " ++ print.dec landfillMass ++
    " t × " ++ print.dec landfill.valueOrZero ++ " kgCO2e/kg × 1e-3 = " ++
    print.dec (quantizeTco2e landfillRaw) ++ " tCO2e) + (70% recycle: " ++
    print.dec recycleMass ++ " t × " ++ print.dec recycle.valueOrZero ++
    " kgCO2e/kg × 1e-3 = " ++ print.dec (quantizeTco2e recycleRaw) ++ " tCO2e) = " ++
    print.dec tco2e ++ " tCO2e"
  return factorTrace req landfill tco2e .massBased formula (vintageWarnings landfill req.anno)

/-! ## Dispatch -/

/-- `_DISPATCH`, with the country that only the location-based handler reads. -/
def previewDispatch (catalog : FactorCatalogPort) (req : CalcInputRequest) (country : String) :
    Except PreviewError CalcPreviewResponse :=
  match req.subScope with
  | .combustion => previewS1Combustion print catalog req
  | .process => previewS1Process print catalog req
  | .lb => previewS2Lb print catalog req country
  | .mb => previewS2Mb print catalog req
  | .cat1PurchasedGoods => previewS3Cat1 print catalog req
  | .cat3FuelEnergy => previewS3Cat3 print catalog req
  | .cat4UpstreamTransport => previewS3Cat4 print catalog req
  | .cat5Waste => previewS3Cat5 print catalog req
  | .cat6BusinessTravel => previewS3Cat6 print catalog req
  | .cat7Commuting => previewS3Cat7 print catalog req
  | .cat9DownstreamTransport => previewS3Cat9 print catalog req
  | .cat12Eol => previewS3Cat12 print catalog req

/-- The site of the request, looked up when a session is at hand and a site is named. -/
def siteMetaOf (session : Option (List RefSite)) (tenantId : Uuid) (req : CalcInputRequest) :
    Option SiteMeta :=
  match session, req.codiceSito with
  | some sites, some codiceSito =>
    if codiceSito = "" then none else fetchSiteMeta sites codiceSito tenantId
  | _, _ => none

def computePreview (catalog : FactorCatalogPort) (session : Option (List RefSite)) (tenantId : Uuid)
    (req : CalcInputRequest) : Except PreviewError CalcPreviewResponse :=
  if req.subScope.scope ≠ req.scope then .error (.noHandler req.scope req.subScope)
  else
    match siteMetaOf session tenantId req with
    | none => previewDispatch print catalog req "IT"
    | some site =>
      if req.subScope = .process ∧ site.siteType ≠ .stabilimentoProduttivo then
        .error (.siteTypeInvalid (req.codiceSito.getD "") site.siteType)
      else previewDispatch print catalog req site.country

end Preview

end GhgTool
