import GhgTool.DecimalContext
import GhgTool.PreviewInsert
import GhgTool.UnitLaw

/-!
# The preview in decimal arithmetic

The handlers of the auto-calc service once more, over an arithmetic that may raise: the exact one,
which gives the preview of the other modules back, and the default context of the runtime, 28 digits
and `Overflow` and `InvalidOperation` trapped. A request fails as documented when it raises nothing
but the four errors that `compute_preview` announces.
-/

namespace GhgTool.PreviewPrecision

inductive Failure
  | preview (e : PreviewError)
  | decimal (s : Signal)
  /-- The query for the site fails on a NUL character. -/
  | nulCharacter
  deriving DecidableEq

/-- The operations of the handlers; `quantize` is `_quantize_tco2e`. -/
structure Arithmetic where
  mul : ℚ → ℚ → Except Failure ℚ
  add : ℚ → ℚ → Except Failure ℚ
  quantize : ℚ → Except Failure ℚ

def exactArithmetic : Arithmetic where
  mul x y := .ok (x * y)
  add x y := .ok (x + y)
  quantize x := .ok (quantizeTco2e x)

/-- The context a thread starts with: `Emin` is -999999, and 27 digits below it lies the smallest
exponent. -/
def defaultContext : DecimalContext := ⟨28, 999999, -1000026, by decide⟩

def contextArithmetic : Arithmetic where
  mul x y := (defaultContext.mul x y).mapError .decimal
  add x y := (defaultContext.add x y).mapError .decimal
  quantize x := (defaultContext.quantize 6 x).mapError .decimal

def raised {α : Type} (x : Except PreviewError α) : Except Failure α :=
  x.mapError .preview

/-! ## The handlers -/

section Handlers

variable (a : Arithmetic) (print : Printing) (catalog : FactorCatalogPort)
  (req : CalcInputRequest)

/-- `_quantize_tco2e(value * quantita * KG_TO_TONNE)`. -/
def quantizedTonnes (value quantita : ℚ) : Except Failure ℚ := do
  let kg ← a.mul value quantita
  let tonnes ← a.mul kg kgToTonne
  a.quantize tonnes

def applyUnitConversion (quantita : ℚ) (fromUnit toUnit : String) :
    Except Failure (ℚ × String) :=
  let pair := (strip (lower fromUnit), strip (lower toUnit))
  if pair.1 = pair.2 then
    .ok (quantita, fromUnit ++ " -> " ++ toUnit ++ " (no conversion)")
  else if pair ∈ ncvDependentPairs then .error (.preview (.ncvDependent fromUnit toUnit))
  else match unitConversion.lookup pair with
    | none => .error (.preview (.noConversion fromUnit toUnit))
    | some multiplier => do
      let converted ← a.mul quantita multiplier
      return (converted, print.dec quantita ++ " " ++ fromUnit ++ " -> " ++
        print.dec converted ++ " " ++ toUnit ++ " (×" ++ print.dec multiplier ++ ")")

def quantitaKwh : Except Failure (ℚ × Option String) :=
  if lower req.unita = "kwh" then .ok (req.quantita, none)
  else do
    let (quantita, text) ← applyUnitConversion a print req.quantita req.unita "kWh"
    return (quantita, some text)

def previewS1Combustion : Except Failure CalcPreviewResponse :=
  match req.combustibile with
  | none => .error (.preview .keyError)
  | some combustibile => do
    let gwp := getGwpValues req.gwpSet
    let ids := combustibile.componentIds
    let co2Factor ← raised (requireVintage catalog ids.co2 req.gwpSet req.anno)
    let ch4Factor ← raised (requireVintage catalog ids.ch4 req.gwpSet req.anno)
    let n2oFactor ← raised (requireVintage catalog ids.n2o req.gwpSet req.anno)
    let co2Kg ← a.mul co2Factor.valueOrZero req.quantita
    let ch4Kg ← a.mul ch4Factor.valueOrZero req.quantita
    let n2oKg ← a.mul n2oFactor.valueOrZero req.quantita
    let co2Tonne ← a.mul co2Kg kgToTonne
    let ch4Tonne ← a.mul ch4Kg kgToTonne
    let ch4Tco2e ← a.mul ch4Tonne gwp.ch4
    let n2oTonne ← a.mul n2oKg kgToTonne
    let n2oTco2e ← a.mul n2oTonne gwp.n2o
    let twoGases ← a.add co2Tonne ch4Tco2e
    let threeGases ← a.add twoGases n2oTco2e
    let tco2e ← a.quantize threeGases
    let formula := print.dec req.quantita ++ " " ++ req.unita ++ " × " ++
      print.dec co2Factor.valueOrZero ++ " kg CO2/" ++ req.unita ++ " × 1e-3 = " ++
      print.dec co2Tonne ++ " tCO2 (+ CH4: " ++ print.dec ch4Tco2e ++ " tCO2e + N2O: " ++
      print.dec n2oTco2e ++ " tCO2e) = " ++ print.dec tco2e ++ " tCO2e"
    let co2FossilTonne ← a.quantize co2Tonne
    return { factorTrace req co2Factor tco2e .activityBased formula
        (vintageWarnings co2Factor req.anno) with
      co2FossilTonne := some co2FossilTonne
      gwpValue := some 1 }

def previewS1Process : Except Failure CalcPreviewResponse :=
  let warnings := ianoWarnings print req.codiceSito
  match req.effectiveMode with
  | .directTco2 => do
    let tco2e ← a.quantize req.quantita
    return { directTco2 print req warnings with
      tco2e := tco2e
      formulaHuman := print.dec req.quantita ++ " tCO2 × 1 (direct input, Mode A) = " ++
        print.dec tco2e ++ " tCO2e" }
  | .caco3Mass => do
    let factor ← raised (requireVintage catalog Scope1Process.factorId req.gwpSet req.anno)
    if factor.value ≠ some (4397 / 10000) then
      throw (.preview (.stoichiometricMismatch factor.value factor.factorId))
    let co2Tonne ← a.mul factor.valueOrZero req.quantita
    let tco2e ← a.quantize co2Tonne
    let formula := print.dec req.quantita ++ " t CaCO3 × " ++ print.dec factor.valueOrZero ++
      " tCO2/t CaCO3 = " ++ print.dec tco2e ++ " tCO2e"
    return { factorTrace req factor tco2e .stoichiometric formula
        (warnings ++ vintageWarnings factor req.anno) with gwpValue := some 1 }

def previewS2Lb (country : String) : Except Failure CalcPreviewResponse := do
  let factor ← raised (requireLbFactor catalog req country)
  let (quantita, unitDesc) ← quantitaKwh a print req
  let tco2e ← quantizedTonnes a factor.valueOrZero quantita
  let formula := print.dec quantita ++ " kWh × " ++ print.dec factor.valueOrZero ++
    " kgCO2/kWh × 1e-3 = " ++ print.dec tco2e ++ " tCO2e [LB country=" ++ country ++ "]"
  let countryWarnings := if country = "IT" then [] else
    ["Non-IT site: LB factor resolved for country='" ++ country ++ "' (factor_id=" ++
      print.repr (lbFactorIdFor country) ++ ")"]
  return { factorTrace req factor tco2e .locationBased formula
      (vintageWarnings factor req.anno ++ countryWarnings) with
    gwpValue := some 1
    unitConversionApplied := unitDesc }

def previewS2Mb : Except Failure CalcPreviewResponse := do
  let factor ← raised (requireVintage catalog (mbFactorId req.strumentoMb) req.gwpSet req.anno)
  let (quantita, unitDesc) ← quantitaKwh a print req
  let tco2e ← quantizedTonnes a factor.valueOrZero quantita
  let formula := print.dec quantita ++ " kWh × " ++ print.dec factor.valueOrZero ++
    " kgCO2e/kWh × 1e-3 = " ++ print.dec tco2e ++ " tCO2e (strumento_mb=" ++
    ((req.strumentoMb.map StrumentoMb.label).map print.repr).getD "None" ++ ")"
  let co2FossilTonne ← if 0 < tco2e then some <$> a.quantize tco2e else pure none
  return { factorTrace req factor tco2e .marketBased formula
      (vintageWarnings factor req.anno ++ instrumentWarnings req.strumentoMb) with
    co2FossilTonne := co2FossilTonne
    gwpValue := some 1
    unitConversionApplied := unitDesc }

def previewS3Cat1 : Except Failure CalcPreviewResponse :=
  match Scope3Cat1PurchasedGoods.resolve req.label with
  | none => .error (.preview (.noFactorForLabel .cat1PurchasedGoods req.sottocategoria))
  | some factorId => do
    let factor ← raised (requireVintage catalog factorId req.gwpSet req.anno)
    let tco2e ← quantizedTonnes a factor.valueOrZero req.quantita
    let bio := if factorId ∈ Scope3Cat1PurchasedGoods.biogenicFactorIds then
      catalog.getBiogenicShare factorId req.gwpSet else none
    let co2Biogenic ← match bio with
      | none => pure none
      | some bio => some <$> quantizedTonnes a bio req.quantita
    let memo := match co2Biogenic with
      | none => ""
      | some biogenic =>
        "; biogenic memo: " ++ print.dec biogenic ++ " tCO2 (ADR-007, not in tco2e)"
    let formula := print.dec req.quantita ++ " kg × " ++ print.dec factor.valueOrZero ++
      " kgCO2e/kg × 1e-3 = " ++ print.dec tco2e ++ " tCO2e [" ++ req.label ++ " via " ++ factorId ++
      "]" ++ memo
    return { factorTrace req factor tco2e (Scope3Cat1PurchasedGoods.methodologyOf factorId) formula
        (vintageWarnings factor req.anno) with
      co2BiogenicTonne := co2Biogenic
      co2FossilTonne := co2Biogenic.map fun _ => tco2e }

def previewLabel (resolve : String → Option String) (methodology : Methodology)
    (unit tag : String) : Except Failure CalcPreviewResponse :=
  match resolve req.label with
  | none => .error (.preview (.noFactorForLabel req.subScope req.sottocategoria))
  | some factorId => do
    let factor ← raised (requireVintage catalog factorId req.gwpSet req.anno)
    let tco2e ← quantizedTonnes a factor.valueOrZero req.quantita
    let formula := print.dec req.quantita ++ " " ++ unit ++ " × " ++ print.dec factor.valueOrZero ++
      " kgCO2e/" ++ unit ++ " × 1e-3 = " ++ print.dec tco2e ++ " tCO2e [" ++ tag ++ "]"
    return factorTrace req factor tco2e methodology formula (vintageWarnings factor req.anno)

def previewS3Cat3 : Except Failure CalcPreviewResponse :=
  previewLabel a print catalog req cat3FactorId .activityBased req.unita
    ("Cat3 WTT/TND " ++ req.label)

def previewS3Cat4 : Except Failure CalcPreviewResponse :=
  previewLabel a print catalog req Scope3Cat4UpstreamTransport.resolveMode .distanceBased "tkm"
    req.label

def previewS3Cat5 : Except Failure CalcPreviewResponse :=
  previewLabel a print catalog req Scope3Cat5Waste.resolveWasteFactor .massBased "t" req.label

def previewS3Cat6 : Except Failure CalcPreviewResponse :=
  previewLabel a print catalog req Scope3Cat6BusinessTravel.resolveFactor .spendBased req.unita
    req.label

def previewS3Cat9 : Except Failure CalcPreviewResponse :=
  previewLabel a print catalog req Scope3Cat9DownstreamTransport.resolveMode .distanceBased "tkm"
    req.label

def previewS3Cat7 : Except Failure CalcPreviewResponse := do
  let factor ← raised (requireVintage catalog Scope3Cat7Commuting.factorId req.gwpSet req.anno)
  let tco2e ← quantizedTonnes a factor.valueOrZero req.quantita
  let labelWarnings := if lower (strip req.label) = "commuting_auto" then [] else
    ["Cat 7 factor is average-car (DEFRA); sottocategoria=" ++ print.repr req.label ++
      " != 'commuting_auto' — verify mode applicability."]
  let formula := print.dec req.quantita ++ " km × " ++ print.dec factor.valueOrZero ++
    " kgCO2e/km × 1e-3 = " ++ print.dec tco2e ++ " tCO2e [Cat7 commuting]"
  return factorTrace req factor tco2e .distanceBased formula
    (vintageWarnings factor req.anno ++ labelWarnings)

def previewS3Cat12 : Except Failure CalcPreviewResponse := do
  let landfill ← raised
    (requireVintage catalog Scope3Cat12Eol.landfillFactorId req.gwpSet req.anno)
  let recycle ← raised
    (requireVintage catalog Scope3Cat12Eol.recycleFactorId req.gwpSet req.anno)
  let landfillMass ← a.mul req.quantita Scope3Cat12Eol.landfillFraction
  let recycleMass ← a.mul req.quantita Scope3Cat12Eol.recycleFraction
  let landfillKg ← a.mul landfill.valueOrZero landfillMass
  let landfillRaw ← a.mul landfillKg kgToTonne
  let recycleKg ← a.mul recycle.valueOrZero recycleMass
  let recycleRaw ← a.mul recycleKg kgToTonne
  let total ← a.add landfillRaw recycleRaw
  let tco2e ← a.quantize total
  let landfillTco2e ← a.quantize landfillRaw
  let recycleTco2e ← a.quantize recycleRaw
  let formula := print.dec req.quantita ++ " t × (30% landfill: " ++ print.dec landfillMass ++
    " t × " ++ print.dec landfill.valueOrZero ++ " kgCO2e/kg × 1e-3 = " ++
    print.dec landfillTco2e ++ " tCO2e) + (70% recycle: " ++
    print.dec recycleMass ++ " t × " ++ print.dec recycle.valueOrZero ++
    " kgCO2e/kg × 1e-3 = " ++ print.dec recycleTco2e ++ " tCO2e) = " ++
    print.dec tco2e ++ " tCO2e"
  return factorTrace req landfill tco2e .massBased formula (vintageWarnings landfill req.anno)

def previewDispatch (country : String) : Except Failure CalcPreviewResponse :=
  match req.subScope with
  | .combustion => previewS1Combustion a print catalog req
  | .process => previewS1Process a print catalog req
  | .lb => previewS2Lb a print catalog req country
  | .mb => previewS2Mb a print catalog req
  | .cat1PurchasedGoods => previewS3Cat1 a print catalog req
  | .cat3FuelEnergy => previewS3Cat3 a print catalog req
  | .cat4UpstreamTransport => previewS3Cat4 a print catalog req
  | .cat5Waste => previewS3Cat5 a print catalog req
  | .cat6BusinessTravel => previewS3Cat6 a print catalog req
  | .cat7Commuting => previewS3Cat7 a print catalog req
  | .cat9DownstreamTransport => previewS3Cat9 a print catalog req
  | .cat12Eol => previewS3Cat12 a print catalog req

/-- The request asks a session for a site whose code the database cannot hold. -/
def QueriesNul (session : Option (List RefSite)) : Prop :=
  session.isSome = true ∧ (req.codiceSito.any PreviewInsert.holdsNul) = true

instance (session : Option (List RefSite)) : Decidable (QueriesNul req session) :=
  inferInstanceAs (Decidable (_ ∧ _))

def computePreview (session : Option (List RefSite)) (tenantId : Uuid) :
    Except Failure CalcPreviewResponse :=
  if req.subScope.scope ≠ req.scope then .error (.preview (.noHandler req.scope req.subScope))
  else if QueriesNul req session then .error .nulCharacter
  else
    match siteMetaOf session tenantId req with
    | none => previewDispatch a print catalog req "IT"
    | some site =>
      if req.subScope = .process ∧ site.siteType ≠ .stabilimentoProduttivo then
        .error (.preview (.siteTypeInvalid (req.codiceSito.getD "") site.siteType))
      else previewDispatch a print catalog req site.country

end Handlers

/-! ## The exact arithmetic -/

section Exact

variable {print : Printing} {catalog : FactorCatalogPort} {req : CalcInputRequest}

theorem raised_bind {α β : Type} (x : Except PreviewError α) (k : α → Except PreviewError β) :
    raised (x >>= k) = raised x >>= fun v => raised (k v) := by
  cases x with
  | error e => rfl
  | ok v => rfl

theorem bind_raised_congr {α β : Type} {x : Except PreviewError α} {k : α → Except Failure β}
    {k' : α → Except PreviewError β} (h : ∀ v, k v = raised (k' v)) :
    (raised x >>= k) = raised (x >>= k') := by
  rw [raised_bind]
  exact congrArg _ (funext h)

theorem applyUnitConversion_exact (quantita : ℚ) (fromUnit toUnit : String) :
    applyUnitConversion exactArithmetic print quantita fromUnit toUnit =
      raised (GhgTool.applyUnitConversion print quantita fromUnit toUnit) := by
  unfold applyUnitConversion GhgTool.applyUnitConversion
  dsimp only
  split_ifs
  · rfl
  · rfl
  · cases unitConversion.lookup (strip (lower fromUnit), strip (lower toUnit)) with
    | none => rfl
    | some multiplier => rfl

theorem quantitaKwh_exact :
    quantitaKwh exactArithmetic print req = raised (GhgTool.quantitaKwh print req) := by
  unfold quantitaKwh GhgTool.quantitaKwh
  split_ifs
  · rfl
  · rw [applyUnitConversion_exact]
    cases GhgTool.applyUnitConversion print req.quantita req.unita "kWh" with
    | error e => rfl
    | ok converted => rfl

theorem previewS1Combustion_exact :
    previewS1Combustion exactArithmetic print catalog req =
      raised (GhgTool.previewS1Combustion print catalog req) := by
  unfold previewS1Combustion GhgTool.previewS1Combustion
  cases req.combustibile with
  | none => rfl
  | some combustibile =>
    apply bind_raised_congr
    intro co2
    apply bind_raised_congr
    intro ch4
    apply bind_raised_congr
    intro n2o
    rfl

theorem previewS1Process_exact :
    previewS1Process exactArithmetic print catalog req =
      raised (GhgTool.previewS1Process print catalog req) := by
  unfold previewS1Process GhgTool.previewS1Process
  cases req.effectiveMode with
  | directTco2 => rfl
  | caco3Mass =>
    apply bind_raised_congr
    intro factor
    by_cases hvalue : factor.value = some (4397 / 10000)
    · simp only [hvalue, ne_eq, not_true_eq_false, if_false]
      rfl
    · simp only [hvalue, ne_eq, not_false_eq_true, if_true]
      rfl

theorem previewS2Lb_exact (country : String) :
    previewS2Lb exactArithmetic print catalog req country =
      raised (GhgTool.previewS2Lb print catalog req country) := by
  unfold previewS2Lb GhgTool.previewS2Lb
  apply bind_raised_congr
  intro factor
  rw [quantitaKwh_exact]
  apply bind_raised_congr
  intro converted
  rfl

theorem previewS2Mb_exact :
    previewS2Mb exactArithmetic print catalog req =
      raised (GhgTool.previewS2Mb print catalog req) := by
  unfold previewS2Mb GhgTool.previewS2Mb
  apply bind_raised_congr
  intro factor
  rw [quantitaKwh_exact]
  apply bind_raised_congr
  intro converted
  by_cases hpos : 0 < quantizeTco2e (factor.valueOrZero * converted.1 * kgToTonne)
  · simp only [quantizedTonnes, exactArithmetic, bind, Except.bind, hpos, if_true]
    rfl
  · simp only [quantizedTonnes, exactArithmetic, bind, Except.bind, hpos, if_false]
    rfl

theorem previewS3Cat1_exact :
    previewS3Cat1 exactArithmetic print catalog req =
      raised (GhgTool.previewS3Cat1 print catalog req) := by
  unfold previewS3Cat1 GhgTool.previewS3Cat1
  cases Scope3Cat1PurchasedGoods.resolve req.label with
  | none => rfl
  | some factorId =>
    apply bind_raised_congr
    intro factor
    dsimp only
    generalize (if factorId ∈ Scope3Cat1PurchasedGoods.biogenicFactorIds then
      catalog.getBiogenicShare factorId req.gwpSet else none) = share
    cases share with
    | none => rfl
    | some bio => rfl

theorem previewLabel_exact (resolve : String → Option String) (methodology : Methodology)
    (unit tag : String) :
    previewLabel exactArithmetic print catalog req resolve methodology unit tag =
      raised (GhgTool.previewLabel print catalog req resolve methodology unit tag) := by
  unfold previewLabel GhgTool.previewLabel
  cases resolve req.label with
  | none => rfl
  | some factorId =>
    apply bind_raised_congr
    intro factor
    rfl

theorem previewS3Cat12_exact :
    previewS3Cat12 exactArithmetic print catalog req =
      raised (GhgTool.previewS3Cat12 print catalog req) := by
  unfold previewS3Cat12 GhgTool.previewS3Cat12
  apply bind_raised_congr
  intro landfill
  apply bind_raised_congr
  intro recycle
  rfl

theorem previewDispatch_exact (country : String) :
    previewDispatch exactArithmetic print catalog req country =
      raised (GhgTool.previewDispatch print catalog req country) := by
  unfold previewDispatch GhgTool.previewDispatch
  cases req.subScope with
  | combustion => exact previewS1Combustion_exact
  | process => exact previewS1Process_exact
  | lb => exact previewS2Lb_exact country
  | mb => exact previewS2Mb_exact
  | cat1PurchasedGoods => exact previewS3Cat1_exact
  | cat7Commuting =>
    apply bind_raised_congr
    intro factor
    rfl
  | cat12Eol => exact previewS3Cat12_exact
  | _ => exact previewLabel_exact _ _ _ _

/-- Without rounding between the operations the preview is the one of the other modules. -/
theorem computePreview_exact {session : Option (List RefSite)} {tenantId : Uuid}
    (hnul : ¬ QueriesNul req session) :
    computePreview exactArithmetic print catalog req session tenantId =
      raised (GhgTool.computePreview print catalog session tenantId req) := by
  unfold computePreview GhgTool.computePreview
  rw [if_neg hnul]
  split_ifs
  · rfl
  · cases siteMetaOf session tenantId req with
    | none => exact previewDispatch_exact "IT"
    | some site =>
      dsimp only
      split_ifs
      · rfl
      · exact previewDispatch_exact site.country

end Exact

end GhgTool.PreviewPrecision
