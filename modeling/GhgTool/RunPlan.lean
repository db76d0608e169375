import GhgTool.CalcOrchestrator
import GhgTool.Plan

/-!
# The records a run builds

`runArgs` lists, in the order of the modules, the arguments of every record a run builds, as a
function of catalog, GWP table and rows; `RunReady` is what the run needs besides valid records.
`run_plan` ties both to `CalcOrchestrator.run`.
-/

namespace GhgTool

/-- A factor that no lookup returns. -/
def blankFactor : FactorRecord where
  factorId := ""
  version := ""
  value := none
  unit := ""
  source := ""
  gwpSet := .na

/-- The factor a lookup ends in. -/
def factorOf (catalog : FactorCatalogPort) (gwpSet : GwpSet) (factorId : String) : FactorRecord :=
  match requireFactor catalog factorId gwpSet with
  | .ok f => f
  | .error _ => blankFactor

def Found (catalog : FactorCatalogPort) (gwpSet : GwpSet) (factorId : String) : Prop :=
  ∃ f, requireFactor catalog factorId gwpSet = .ok f

section Lookup

variable {catalog : FactorCatalogPort} {gwpSet : GwpSet} {ctx : RunContext}

theorem factorOf_eq {factorId : String} {f : FactorRecord}
    (h : requireFactor catalog factorId gwpSet = .ok f) : factorOf catalog gwpSet factorId = f := by
  rw [factorOf, h]

theorem Found.get {factorId : String} (h : Found catalog gwpSet factorId) :
    catalog.get factorId gwpSet none = .ok (factorOf catalog gwpSet factorId) := by
  obtain ⟨f, hf⟩ := h
  rw [factorOf_eq hf]
  exact (requireFactor_eq_ok.mp hf).1

theorem plan_requireFactor {factorId : String}
    {k : FactorRecord → Except CalcError (List EmissionRecord)} {R : Prop} {args : List EmissionArgs}
    (hk : Plan (makeEmission ctx) (k (factorOf catalog gwpSet factorId)) R args) :
    Plan (makeEmission ctx) (requireFactor catalog factorId gwpSet >>= k)
      (Found catalog gwpSet factorId ∧ R) args :=
  Plan.bind Iff.rfl (fun _ h => (factorOf_eq h).symm) hk

end Lookup

variable {catalog : FactorCatalogPort} {gwp : GwpValues} {ctx : RunContext}

theorem Scope1FugitiveZero.plan (sites : List String) (anno : ℕ) :
    Plan (makeEmission ctx) (calculate sites gwp anno ctx) True
      (sites.map (zeroLine gwp anno)) := by
  rw [List.map_eq_flatMap]
  exact (plan_collect fun s _ => plan_singleton (zeroLine gwp anno s)).congr (by simp)

namespace Scope1Combustion

def combustionArgs (co2Factor ch4Factor n2oFactor : FactorRecord) (gwp : GwpValues)
    (row : RawScope1Row) : EmissionArgs :=
  let co2Tonne := co2Factor.valueOrZero * row.quantita * kgToTonne
  let ch4Tco2e := ch4Factor.valueOrZero * row.quantita * kgToTonne * gwp.ch4
  let n2oTco2e := n2oFactor.valueOrZero * row.quantita * kgToTonne * gwp.n2o
  { rawRowId := some row.id, scope := .one, subScope := .combustion
    codiceSito := some row.codiceSito, anno := row.anno
    tco2e := co2Tonne + ch4Tco2e + n2oTco2e, factor := co2Factor, gwpSet := gwp.code
    methodology := .activityBased, co2Tonne := some co2Tonne, co2FossilTonne := some co2Tonne
    ch4Tco2e := some ch4Tco2e, n2oTco2e := some n2oTco2e }

def rowIds (row : RawScope1Row) : List String :=
  match fuelFactorIds.lookup row.combustibile with
  | none => []
  | some ids => [ids.co2, ids.ch4, ids.n2o]

def rowArgs (catalog : FactorCatalogPort) (gwp : GwpValues) (row : RawScope1Row) :
    List EmissionArgs :=
  match fuelFactorIds.lookup row.combustibile with
  | none => []
  | some ids => [combustionArgs (factorOf catalog gwp.code ids.co2)
      (factorOf catalog gwp.code ids.ch4) (factorOf catalog gwp.code ids.n2o) gwp row]

theorem plan (rows : List RawScope1Row) :
    Plan (makeEmission ctx) (calculate rows catalog gwp ctx)
      (∀ row ∈ rows, ∀ factorId ∈ rowIds row, Found catalog gwp.code factorId)
      (rows.flatMap (rowArgs catalog gwp)) := by
  refine plan_collect fun row _ => ?_
  unfold rowIds rowArgs
  cases fuelFactorIds.lookup row.combustibile with
  | none => exact plan_nil.congr (by simp)
  | some ids =>
      refine (plan_requireFactor (plan_requireFactor (plan_requireFactor
        (plan_singleton _)))).congr ?_
      simp

end Scope1Combustion

namespace Scope1Process

def rowArgs (factor : FactorRecord) (gwp : GwpValues) (row : RawScope1Row) : List EmissionArgs :=
  if handles row then [processArgs factor gwp row] else []

theorem plan (rows : List RawScope1Row) :
    Plan (makeEmission ctx) (calculate rows catalog gwp ctx)
      (Found catalog gwp.code factorId ∧
        (factorOf catalog gwp.code factorId).value = some (4397 / 10000))
      (rows.flatMap (rowArgs (factorOf catalog gwp.code factorId) gwp)) := by
  refine plan_requireFactor ?_
  by_cases h : (factorOf catalog gwp.code factorId).value = some (4397 / 10000)
  · have hrows : Plan (makeEmission ctx) (collect (fun row => if handles row then
        emit ctx (processArgs (factorOf catalog gwp.code factorId) gwp row) else .ok []) rows)
        True (rows.flatMap (rowArgs (factorOf catalog gwp.code factorId) gwp)) := by
      exact plan_collect_always fun row _ => (plan_singleton _).unless
    simp only [h, ne_eq, not_true_eq_false, if_false]
    exact hrows.congr (by simp)
  · simp only [h, ne_eq, not_false_eq_true, if_true]
    exact plan_error _

end Scope1Process

theorem Scope2Lb.plan (rows : List RawScope2Row) :
    Plan (makeEmission ctx) (calculate rows catalog gwp ctx)
      (Found catalog gwp.code lbFactorId)
      (rows.map (lbArgs (factorOf catalog gwp.code lbFactorId) gwp)) := by
  rw [List.map_eq_flatMap]
  refine (plan_requireFactor (plan_collect fun row _ => plan_singleton _)).congr ?_
  simp

namespace Scope2Mb

def rowArgs (zeroFactor residualFactor : FactorRecord) (gwp : GwpValues) (row : RawScope2Row) :
    EmissionArgs :=
  if row.strumentoMb = some goInstrumentLabel then mbArgs zeroFactor 0 gwp row
  else mbArgs residualFactor (residualFactor.valueOrZero * row.quantita * kgToTonne) gwp row

/-- What the market-based module asks of a row: a Guarantee of Origin passes the checker. -/
def Evidenced (goEvidence : Option GoEvidenceCheck) (row : RawScope2Row) : Prop :=
  row.strumentoMb = some goInstrumentLabel →
    goEvidence.getD defaultGoEvidenceCheck row.codiceSito row.anno row.strumentoMb = true

theorem plan (rows : List RawScope2Row) (goEvidence : Option GoEvidenceCheck) :
    Plan (makeEmission ctx) (calculate rows catalog gwp ctx goEvidence)
      (Found catalog gwp.code goZeroFactorId ∧ Found catalog gwp.code residualFactorId ∧
        ∀ row ∈ rows, Evidenced goEvidence row)
      (rows.map (rowArgs (factorOf catalog gwp.code goZeroFactorId)
        (factorOf catalog gwp.code residualFactorId) gwp)) := by
  rw [List.map_eq_flatMap]
  refine plan_requireFactor (plan_requireFactor (plan_collect fun row _ => ?_))
  unfold buildMbRecord rowArgs Evidenced
  by_cases hgo : row.strumentoMb = some goInstrumentLabel
  · rw [if_pos hgo, if_pos hgo]
    split_ifs with hcheck
    · exact (plan_singleton _).congr (by simp [hcheck])
    · exact (plan_error _).congr ⟨False.elim, fun h => hcheck (h hgo)⟩
  · rw [if_neg hgo, if_neg hgo]
    exact (plan_singleton _).congr (by simp [hgo])

end Scope2Mb

namespace LabelModule

def rowId (m : LabelModule) (row : RawScope3Row) : Option String :=
  if row.categoriaS3 ≠ m.categoria then none else m.resolve row.sottocategoria

def rowArgs (m : LabelModule) (catalog : FactorCatalogPort) (gwp : GwpValues)
    (row : RawScope3Row) : List EmissionArgs :=
  match m.rowId row with
  | none => []
  | some factorId => [scope3Args m.subScope m.methodology gwp row
      (factorOf catalog gwp.code factorId) row.quantita]

theorem plan (m : LabelModule) (rows : List RawScope3Row) :
    Plan (makeEmission ctx) (m.calculate rows catalog gwp ctx)
      (∀ row ∈ rows, ∀ factorId ∈ m.rowId row, Found catalog gwp.code factorId)
      (rows.flatMap (m.rowArgs catalog gwp)) := by
  refine plan_collect fun row _ => ?_
  unfold rowArgs rowId
  by_cases hcat : row.categoriaS3 ≠ m.categoria
  · simp only [if_pos hcat]
    exact plan_nil.congr (by simp)
  · simp only [if_neg hcat]
    cases m.resolve row.sottocategoria with
    | none => exact plan_nil.congr (by simp)
    | some factorId => exact (plan_requireFactor (plan_singleton _)).congr (by simp)

end LabelModule

namespace Scope3Cat1PurchasedGoods

def rowId (row : RawScope3Row) : Option String :=
  if row.categoriaS3 ≠ 1 then none else resolve row.sottocategoria

/-- The biogenic share of a factor, read for the two biogenic materials only. -/
def bioPerUnit (catalog : FactorCatalogPort) (gwpSet : GwpSet) (factorId : String) : Option ℚ :=
  if factorId ∈ biogenicFactorIds then catalog.getBiogenicShare factorId gwpSet else none

def rowArgs (catalog : FactorCatalogPort) (gwp : GwpValues) (row : RawScope3Row) :
    List EmissionArgs :=
  match rowId row with
  | none => []
  | some factorId => [cat1Args gwp row factorId (factorOf catalog gwp.code factorId)
      (bioPerUnit catalog gwp.code factorId)]

theorem plan (rows : List RawScope3Row) :
    Plan (makeEmission ctx) (calculate rows catalog gwp ctx)
      (∀ row ∈ rows, ∀ factorId ∈ rowId row, Found catalog gwp.code factorId)
      (rows.flatMap (rowArgs catalog gwp)) := by
  refine plan_collect fun row _ => ?_
  unfold rowArgs rowId
  by_cases hcat : row.categoriaS3 ≠ 1
  · simp only [if_pos hcat]
    exact plan_nil.congr (by simp)
  · simp only [if_neg hcat]
    cases resolve row.sottocategoria with
    | none => exact plan_nil.congr (by simp)
    | some factorId => exact (plan_requireFactor (plan_singleton _)).congr (by simp)

end Scope3Cat1PurchasedGoods

namespace Scope3Cat3FuelEnergy

def fuelArgs (catalog : FactorCatalogPort) (gwp : GwpValues) (sigma : SigmaScope1)
    (key : String × ℕ) : List EmissionArgs :=
  match fuelWttFactorIds.lookup key.1 with
  | none => []
  | some factorId => [sigmaArgs .cat3WttFuel gwp (factorOf catalog gwp.code factorId) key.2
      ((sigma.lookup key).getD 0)]

def electricityArgs (factorId : String) (subScope : SubScope) (catalog : FactorCatalogPort)
    (gwp : GwpValues) (sigma : SigmaScope2) (anno : ℕ) : EmissionArgs :=
  sigmaArgs subScope gwp (factorOf catalog gwp.code factorId) anno ((sigma.lookup anno).getD 0)

theorem plan_fuelWttRecords (sigma : SigmaScope1) :
    Plan (makeEmission ctx) (fuelWttRecords sigma catalog gwp ctx)
      (∀ key ∈ sortedFuelKeys sigma, ∀ factorId ∈ fuelWttFactorIds.lookup key.1,
        Found catalog gwp.code factorId)
      ((sortedFuelKeys sigma).flatMap (fuelArgs catalog gwp sigma)) := by
  refine plan_collect fun key _ => ?_
  unfold fuelArgs
  cases fuelWttFactorIds.lookup key.1 with
  | none => exact plan_nil.congr (by simp)
  | some factorId => exact (plan_requireFactor (plan_singleton _)).congr (by simp)

theorem plan_electricityRecords (factorId : String) (subScope : SubScope) (sigma : SigmaScope2) :
    Plan (makeEmission ctx) (electricityRecords factorId subScope sigma catalog gwp ctx)
      (Found catalog gwp.code factorId)
      ((sortedYears sigma).map (electricityArgs factorId subScope catalog gwp sigma)) := by
  rw [List.map_eq_flatMap]
  refine (plan_requireFactor (plan_collect fun anno _ => plan_singleton _)).congr ?_
  simp

def sigmaLines (catalog : FactorCatalogPort) (gwp : GwpValues) (sigmaScope1 : SigmaScope1)
    (sigmaScope2Kwh : SigmaScope2) : List EmissionArgs :=
  (sortedFuelKeys sigmaScope1).flatMap (fuelArgs catalog gwp sigmaScope1) ++
    ((sortedYears sigmaScope2Kwh).map
        (electricityArgs elecWttId .cat3WttElec catalog gwp sigmaScope2Kwh) ++
      (sortedYears sigmaScope2Kwh).map
        (electricityArgs tndElecItId .cat3Tnd catalog gwp sigmaScope2Kwh))

theorem plan (sigmaScope1 : SigmaScope1) (sigmaScope2Kwh : SigmaScope2) :
    Plan (makeEmission ctx) (calculate sigmaScope1 sigmaScope2Kwh catalog gwp ctx)
      ((∀ key ∈ sortedFuelKeys sigmaScope1, ∀ factorId ∈ fuelWttFactorIds.lookup key.1,
          Found catalog gwp.code factorId) ∧
        Found catalog gwp.code elecWttId ∧ Found catalog gwp.code tndElecItId)
      (sigmaLines catalog gwp sigmaScope1 sigmaScope2Kwh) := by
  have hseq : calculate sigmaScope1 sigmaScope2Kwh catalog gwp ctx = (do
      let fuel ← fuelWttRecords sigmaScope1 catalog gwp ctx
      let rest ← (do
        let elec ← electricityWttRecords sigmaScope2Kwh catalog gwp ctx
        let tnd ← tndRecords sigmaScope2Kwh catalog gwp ctx
        return elec ++ tnd)
      return fuel ++ rest) := by
    simp only [calculate, bind_assoc, pure_bind]
  rw [hseq]
  exact (plan_fuelWttRecords sigmaScope1).append
    ((plan_electricityRecords elecWttId .cat3WttElec sigmaScope2Kwh).append
      (plan_electricityRecords tndElecItId .cat3Tnd sigmaScope2Kwh))

end Scope3Cat3FuelEnergy

namespace Scope3Cat7Commuting

def rowArgs (factor : FactorRecord) (gwp : GwpValues) (row : RawScope3Row) : List EmissionArgs :=
  if handles row then [scope3Args .cat7 .distanceBased gwp row factor row.quantita] else []

theorem plan (rows : List RawScope3Row) :
    Plan (makeEmission ctx) (calculate rows catalog gwp ctx) (Found catalog gwp.code factorId)
      (rows.flatMap (rowArgs (factorOf catalog gwp.code factorId) gwp)) := by
  refine (plan_requireFactor (plan_collect_always fun row _ => ?_)).congr (by simp)
  exact (plan_singleton _).unless

end Scope3Cat7Commuting

namespace Scope3Cat12Eol

def rowArgs (landfill recycle : FactorRecord) (gwp : GwpValues) (row : RawScope3Row) :
    List EmissionArgs :=
  if handles row then
    [scope3Args .cat12 .massBased gwp row landfill (row.quantita * landfillFraction),
      scope3Args .cat12 .massBased gwp row recycle (row.quantita * recycleFraction)]
  else []

theorem plan (rows : List RawScope3Row) :
    Plan (makeEmission ctx) (calculate rows catalog gwp ctx)
      (Found catalog gwp.code landfillFactorId ∧ Found catalog gwp.code recycleFactorId)
      (rows.flatMap (rowArgs (factorOf catalog gwp.code landfillFactorId)
        (factorOf catalog gwp.code recycleFactorId) gwp)) := by
  refine (plan_requireFactor (plan_requireFactor
    (plan_collect_always fun row _ => ?_))).congr (by simp)
  exact (((plan_singleton _).append (plan_singleton _)).congr (by simp)).unless

end Scope3Cat12Eol

def Scope3Cat11ZeroLine.line (gwp : GwpValues) (anno : ℕ) : EmissionArgs :=
  scope3ZeroLine .cat11Zero "CAT11_ZERO_OMISSION" "FR-18 / MG-06 declared-zero" gwp anno

def Scope3CatOmittedZeroLines.line (gwp : GwpValues) (anno : ℕ) (category : SubScope × String) :
    EmissionArgs :=
  scope3ZeroLine category.1 category.2 "FR-36 / MG-07 declared-zero" gwp anno

theorem Scope3CatOmittedZeroLines.plan (anno : ℕ) :
    Plan (makeEmission ctx) (calculate gwp anno ctx) True
      (omittedCategories.map (line gwp anno)) := by
  rw [List.map_eq_flatMap]
  exact (plan_collect fun category _ => plan_singleton (line gwp anno category)).congr (by simp)

namespace CalcOrchestrator

/-- The factors a run looks up before any row is read. -/
def fixedFactorIds : List String :=
  [Scope1Process.factorId, Scope2Lb.lbFactorId, Scope2Mb.goZeroFactorId,
    Scope2Mb.residualFactorId, Scope3Cat3FuelEnergy.elecWttId, Scope3Cat3FuelEnergy.tndElecItId,
    Scope3Cat7Commuting.factorId, Scope3Cat12Eol.landfillFactorId, Scope3Cat12Eol.recycleFactorId]

def labelModules : List LabelModule :=
  [Scope3Cat2CapitalGoods.labelModule, Scope3Cat4UpstreamTransport.labelModule,
    Scope3Cat5Waste.labelModule, Scope3Cat6BusinessTravel.labelModule,
    Scope3Cat9DownstreamTransport.labelModule]

structure RunReady (catalog : FactorCatalogPort) (gwp : GwpValues) (inputs : CalcRunInputs) :
    Prop where
  fixed : ∀ factorId ∈ fixedFactorIds, Found catalog gwp.code factorId
  stoichiometric :
    (factorOf catalog gwp.code Scope1Process.factorId).value = some (4397 / 10000)
  combustion : ∀ row ∈ inputs.scope1Rows, ∀ factorId ∈ Scope1Combustion.rowIds row,
    Found catalog gwp.code factorId
  evidenced : ∀ row ∈ inputs.scope2Rows, Scope2Mb.Evidenced inputs.goEvidence row
  purchased : ∀ row ∈ inputs.scope3Rows, ∀ factorId ∈ Scope3Cat1PurchasedGoods.rowId row,
    Found catalog gwp.code factorId
  labelled : ∀ m ∈ labelModules, ∀ row ∈ inputs.scope3Rows, ∀ factorId ∈ m.rowId row,
    Found catalog gwp.code factorId
  fuels : ∀ key ∈ Scope3Cat3FuelEnergy.sortedFuelKeys (sigmaScope1FromRows inputs.scope1Rows),
    ∀ factorId ∈ Scope3Cat3FuelEnergy.fuelWttFactorIds.lookup key.1,
      Found catalog gwp.code factorId

section Lines

variable (catalog : FactorCatalogPort) (gwp : GwpValues) (inputs : CalcRunInputs)

/-- The lines of one sub-scope. -/
def linesOf : SubScope → List EmissionArgs
  | .fugitive => inputs.sites.map (Scope1FugitiveZero.zeroLine gwp inputs.anno)
  | .combustion => inputs.scope1Rows.flatMap (Scope1Combustion.rowArgs catalog gwp)
  | .process => inputs.scope1Rows.flatMap
      (Scope1Process.rowArgs (factorOf catalog gwp.code Scope1Process.factorId) gwp)
  | .lb => inputs.scope2Rows.map
      (Scope2Lb.lbArgs (factorOf catalog gwp.code Scope2Lb.lbFactorId) gwp)
  | .mb => inputs.scope2Rows.map
      (Scope2Mb.rowArgs (factorOf catalog gwp.code Scope2Mb.goZeroFactorId)
        (factorOf catalog gwp.code Scope2Mb.residualFactorId) gwp)
  | .cat1 => inputs.scope3Rows.flatMap (Scope3Cat1PurchasedGoods.rowArgs catalog gwp)
  | .cat2 => inputs.scope3Rows.flatMap (Scope3Cat2CapitalGoods.labelModule.rowArgs catalog gwp)
  | .cat3WttFuel =>
    let sigma := sigmaScope1FromRows inputs.scope1Rows
    (Scope3Cat3FuelEnergy.sortedFuelKeys sigma).flatMap
      (Scope3Cat3FuelEnergy.fuelArgs catalog gwp sigma)
  | .cat3WttElec =>
    let sigma := sigmaScope2FromRows inputs.scope2Rows
    (Scope3Cat3FuelEnergy.sortedYears sigma).map (Scope3Cat3FuelEnergy.electricityArgs
      Scope3Cat3FuelEnergy.elecWttId .cat3WttElec catalog gwp sigma)
  | .cat3Tnd =>
    let sigma := sigmaScope2FromRows inputs.scope2Rows
    (Scope3Cat3FuelEnergy.sortedYears sigma).map (Scope3Cat3FuelEnergy.electricityArgs
      Scope3Cat3FuelEnergy.tndElecItId .cat3Tnd catalog gwp sigma)
  | .cat4 => inputs.scope3Rows.flatMap (Scope3Cat4UpstreamTransport.labelModule.rowArgs catalog gwp)
  | .cat5 => inputs.scope3Rows.flatMap (Scope3Cat5Waste.labelModule.rowArgs catalog gwp)
  | .cat6 => inputs.scope3Rows.flatMap (Scope3Cat6BusinessTravel.labelModule.rowArgs catalog gwp)
  | .cat7 => inputs.scope3Rows.flatMap
      (Scope3Cat7Commuting.rowArgs (factorOf catalog gwp.code Scope3Cat7Commuting.factorId) gwp)
  | .cat9 => inputs.scope3Rows.flatMap
      (Scope3Cat9DownstreamTransport.labelModule.rowArgs catalog gwp)
  | .cat12 => inputs.scope3Rows.flatMap
      (Scope3Cat12Eol.rowArgs (factorOf catalog gwp.code Scope3Cat12Eol.landfillFactorId)
        (factorOf catalog gwp.code Scope3Cat12Eol.recycleFactorId) gwp)
  | .cat11Zero => [Scope3Cat11ZeroLine.line gwp inputs.anno]
  | .cat8Zero => [Scope3CatOmittedZeroLines.line gwp inputs.anno (.cat8Zero, "CAT8_ZERO_OMISSION")]
  | .cat10Zero =>
    [Scope3CatOmittedZeroLines.line gwp inputs.anno (.cat10Zero, "CAT10_ZERO_OMISSION")]
  | .cat13Zero =>
    [Scope3CatOmittedZeroLines.line gwp inputs.anno (.cat13Zero, "CAT13_ZERO_OMISSION")]
  | .cat14Zero =>
    [Scope3CatOmittedZeroLines.line gwp inputs.anno (.cat14Zero, "CAT14_ZERO_OMISSION")]
  | .cat15Zero =>
    [Scope3CatOmittedZeroLines.line gwp inputs.anno (.cat15Zero, "CAT15_ZERO_OMISSION")]

def subScopeOrder : List SubScope :=
  [.fugitive, .combustion, .process, .lb, .mb, .cat1, .cat2, .cat3WttFuel, .cat3WttElec, .cat3Tnd,
    .cat4, .cat5, .cat6, .cat7, .cat9, .cat12, .cat11Zero, .cat8Zero, .cat10Zero, .cat13Zero,
    .cat14Zero, .cat15Zero]

/-- A run goes through the sub-scopes one after the other. -/
def runArgs : List EmissionArgs :=
  subScopeOrder.flatMap (linesOf catalog gwp inputs)

end Lines

theorem mem_subScopeOrder (u : SubScope) : u ∈ subScopeOrder := by
  cases u <;> decide

theorem mem_runArgs {inputs : CalcRunInputs} {a : EmissionArgs} :
    a ∈ runArgs catalog gwp inputs ↔ ∃ u, a ∈ linesOf catalog gwp inputs u := by
  simp [runArgs, List.mem_flatMap, mem_subScopeOrder]

/-- The modules of a run in their order. -/
def blocks (catalog : FactorCatalogPort) (gwp : GwpValues) (inputs : CalcRunInputs) :
    List (Except CalcError (List EmissionRecord)) :=
  let ctx := commonCtx inputs
  [Scope1FugitiveZero.calculate inputs.sites gwp inputs.anno ctx,
    Scope1Combustion.calculate inputs.scope1Rows catalog gwp ctx,
    Scope1Process.calculate inputs.scope1Rows catalog gwp ctx,
    Scope2Lb.calculate inputs.scope2Rows catalog gwp ctx,
    Scope2Mb.calculate inputs.scope2Rows catalog gwp ctx inputs.goEvidence,
    Scope3Cat1PurchasedGoods.calculate inputs.scope3Rows catalog gwp ctx,
    Scope3Cat2CapitalGoods.labelModule.calculate inputs.scope3Rows catalog gwp ctx,
    Scope3Cat3FuelEnergy.calculate (sigmaScope1FromRows inputs.scope1Rows)
      (sigmaScope2FromRows inputs.scope2Rows) catalog gwp ctx,
    Scope3Cat4UpstreamTransport.labelModule.calculate inputs.scope3Rows catalog gwp ctx,
    Scope3Cat5Waste.labelModule.calculate inputs.scope3Rows catalog gwp ctx,
    Scope3Cat6BusinessTravel.labelModule.calculate inputs.scope3Rows catalog gwp ctx,
    Scope3Cat7Commuting.calculate inputs.scope3Rows catalog gwp ctx,
    Scope3Cat9DownstreamTransport.labelModule.calculate inputs.scope3Rows catalog gwp ctx,
    Scope3Cat12Eol.calculate inputs.scope3Rows catalog gwp ctx,
    Scope3Cat11ZeroLine.calculate gwp inputs.anno ctx,
    Scope3CatOmittedZeroLines.calculate gwp inputs.anno ctx]

theorem run_eq (catalog : FactorCatalogPort) (gwp : GwpValues) (inputs : CalcRunInputs) :
    run catalog gwp inputs = (do
      let records ← collect id (blocks catalog gwp inputs)
      let _ ← assertSingleGwpSet (records.map EmissionRecord.gwpSet)
      return records) := by
  have hok : (Except.ok [] : Except CalcError (List EmissionRecord)) = pure [] := rfl
  simp only [run, blocks, collect, id, hok, bind_assoc, pure_bind, List.append_nil]

theorem assertSingleGwpSet_eq_ok {gs : List GwpSet} {g : GwpSet} (hne : gs ≠ [])
    (h : ∀ x ∈ gs, x = g) : assertSingleGwpSet gs = .ok g := by
  have hrep : gs = List.replicate gs.length g := List.eq_replicate_of_mem h
  have hlen : gs.length ≠ 0 := by simpa using hne
  have hdedup : gs.dedup = [g] := by
    rw [hrep]
    exact List.replicate_dedup hlen
  rw [assertSingleGwpSet, hdedup]

section Marks

variable {inputs : CalcRunInputs} {a : EmissionArgs}

/-- A line carries the GWP set of its run and the sub-scope of its module, and shows a biogenic
amount only beside the whole line as fossil. -/
structure Marked (gwp : GwpValues) (u : SubScope) (a : EmissionArgs) : Prop where
  gwpSet : a.gwpSet = gwp.code
  subScope : a.subScope = u
  memo : a.co2BiogenicTonne.isSome = true → a.co2FossilTonne = some a.tco2e

theorem Marked.plain {u : SubScope} (hset : a.gwpSet = gwp.code) (hsub : a.subScope = u)
    (hbio : a.co2BiogenicTonne = none) : Marked gwp u a :=
  ⟨hset, hsub, by simp [hbio]⟩

/-- What a line of a sub-scope is: marked and, outside the zero-lines, built from a factor that a
ready run finds. -/
structure LineSpec (catalog : FactorCatalogPort) (gwp : GwpValues) (inputs : CalcRunInputs)
    (u : SubScope) (a : EmissionArgs) : Prop extends Marked gwp u a where
  sourced : u.isZeroLine = false → ∃ factorId, a.factor = factorOf catalog gwp.code factorId ∧
    (RunReady catalog gwp inputs → Found catalog gwp.code factorId)

theorem LineSpec.plain {u : SubScope} {factorId : String} (hset : a.gwpSet = gwp.code)
    (hsub : a.subScope = u) (hbio : a.co2BiogenicTonne = none)
    (hfactor : a.factor = factorOf catalog gwp.code factorId)
    (hfound : RunReady catalog gwp inputs → Found catalog gwp.code factorId) :
    LineSpec catalog gwp inputs u a :=
  ⟨.plain hset hsub hbio, fun _ => ⟨factorId, hfactor, hfound⟩⟩

theorem lineSpec_labelModule {m : LabelModule} (hm : m ∈ labelModules) {row : RawScope3Row}
    (hrow : row ∈ inputs.scope3Rows) (h : a ∈ m.rowArgs catalog gwp row) :
    LineSpec catalog gwp inputs m.subScope a := by
  unfold LabelModule.rowArgs at h
  split at h
  · cases h
  · next factorId hid =>
      rw [List.mem_singleton.mp h]
      exact .plain rfl rfl rfl rfl fun hready => hready.labelled m hm row hrow factorId hid

theorem lineSpec_of_mem {u : SubScope} (h : a ∈ linesOf catalog gwp inputs u) :
    LineSpec catalog gwp inputs u a := by
  have row : ∀ {α : Type} {rows : List α} {f : α → List EmissionArgs}, a ∈ rows.flatMap f →
      (∀ r ∈ rows, a ∈ f r → LineSpec catalog gwp inputs u a) →
      LineSpec catalog gwp inputs u a := by
    intro α rows f ha hf
    obtain ⟨r, hr, har⟩ := List.mem_flatMap.mp ha
    exact hf r hr har
  have label : ∀ m ∈ labelModules, m.subScope = u →
      a ∈ inputs.scope3Rows.flatMap (m.rowArgs catalog gwp) →
      LineSpec catalog gwp inputs u a := by
    rintro m hm rfl ha
    exact row ha fun r hr har => lineSpec_labelModule hm hr har
  cases u
  case combustion =>
    refine row h fun r hr ha => ?_
    unfold Scope1Combustion.rowArgs at ha
    split at ha
    · cases ha
    · next ids hids =>
        rw [List.mem_singleton.mp ha]
        refine .plain rfl rfl rfl rfl fun hready => hready.combustion r hr ids.co2 ?_
        simp [Scope1Combustion.rowIds, hids]
  case process =>
    refine row h fun r _ ha => ?_
    unfold Scope1Process.rowArgs at ha
    split_ifs at ha
    · rw [List.mem_singleton.mp ha]
      exact .plain rfl rfl rfl rfl fun hready => hready.fixed _ (by decide)
    · cases ha
  case lb =>
    obtain ⟨r, -, rfl⟩ := List.mem_map.mp h
    exact .plain rfl rfl rfl rfl fun hready => hready.fixed _ (by decide)
  case mb =>
    obtain ⟨r, -, rfl⟩ := List.mem_map.mp h
    unfold Scope2Mb.rowArgs
    split_ifs
    · exact .plain rfl rfl rfl rfl fun hready => hready.fixed Scope2Mb.goZeroFactorId (by decide)
    · exact .plain rfl rfl rfl rfl fun hready => hready.fixed Scope2Mb.residualFactorId (by decide)
  case cat1 =>
    refine row h fun r hr ha => ?_
    unfold Scope3Cat1PurchasedGoods.rowArgs at ha
    split at ha
    · cases ha
    · next factorId hid =>
        rw [List.mem_singleton.mp ha]
        refine ⟨⟨rfl, rfl, fun hbio => ?_⟩, fun _ =>
          ⟨factorId, rfl, fun hready => hready.purchased r hr factorId hid⟩⟩
        obtain ⟨bio, hbio⟩ := Option.isSome_iff_exists.mp (Option.isSome_map ▸ hbio)
        simp only [Scope3Cat1PurchasedGoods.cat1Args, hbio, Option.map_some, scope3Args]
  case cat3WttFuel =>
    refine row h fun key hkey ha => ?_
    unfold Scope3Cat3FuelEnergy.fuelArgs at ha
    split at ha
    · cases ha
    · next factorId hid =>
        rw [List.mem_singleton.mp ha]
        exact .plain rfl rfl rfl rfl fun hready => hready.fuels key hkey factorId hid
  case cat3WttElec =>
    obtain ⟨r, -, rfl⟩ := List.mem_map.mp h
    exact .plain rfl rfl rfl rfl fun hready => hready.fixed Scope3Cat3FuelEnergy.elecWttId
      (by decide)
  case cat3Tnd =>
    obtain ⟨r, -, rfl⟩ := List.mem_map.mp h
    exact .plain rfl rfl rfl rfl fun hready => hready.fixed Scope3Cat3FuelEnergy.tndElecItId
      (by decide)
  case cat7 =>
    refine row h fun r _ ha => ?_
    unfold Scope3Cat7Commuting.rowArgs at ha
    split_ifs at ha
    · rw [List.mem_singleton.mp ha]
      exact .plain rfl rfl rfl rfl fun hready => hready.fixed _ (by decide)
    · cases ha
  case cat12 =>
    refine row h fun r _ ha => ?_
    unfold Scope3Cat12Eol.rowArgs at ha
    split_ifs at ha
    · simp only [List.mem_cons, List.not_mem_nil, or_false] at ha
      rcases ha with rfl | rfl
      · exact .plain rfl rfl rfl rfl fun hready =>
          hready.fixed Scope3Cat12Eol.landfillFactorId (by decide)
      · exact .plain rfl rfl rfl rfl fun hready =>
          hready.fixed Scope3Cat12Eol.recycleFactorId (by decide)
    · cases ha
  case cat2 => exact label _ (by simp [labelModules]) rfl h
  case cat4 => exact label _ (by simp [labelModules]) rfl h
  case cat5 => exact label _ (by simp [labelModules]) rfl h
  case cat6 => exact label _ (by simp [labelModules]) rfl h
  case cat9 => exact label _ (by simp [labelModules]) rfl h
  case fugitive =>
    obtain ⟨s, -, rfl⟩ := List.mem_map.mp h
    exact ⟨⟨rfl, rfl, fun _ => rfl⟩, fun hzero => absurd hzero (by decide)⟩
  all_goals
    rw [List.mem_singleton.mp h]
    exact ⟨⟨rfl, rfl, fun _ => rfl⟩, fun hzero => absurd hzero (by decide)⟩

theorem marked_of_mem {u : SubScope} (h : a ∈ linesOf catalog gwp inputs u) : Marked gwp u a :=
  (lineSpec_of_mem h).toMarked

theorem filter_runArgs (u : SubScope) :
    (runArgs catalog gwp inputs).filter (fun a => a.subScope = u) =
      linesOf catalog gwp inputs u := by
  have hblock : ∀ v, (linesOf catalog gwp inputs v).filter (fun a => a.subScope = u) =
      if v = u then linesOf catalog gwp inputs v else [] := by
    intro v
    by_cases h : v = u
    · rw [if_pos h, List.filter_eq_self]
      intro a ha
      simpa using (marked_of_mem ha).subScope.trans h
    · rw [if_neg h, List.filter_eq_nil_iff]
      intro a ha hu
      exact h ((marked_of_mem ha).subScope.symm.trans (by simpa using hu))
  rw [runArgs, List.filter_flatMap]
  simp only [hblock]
  exact flatMap_ite_eq _ (by decide) (mem_subScopeOrder u)

theorem mem_runArgs_subScope {u : SubScope} :
    a ∈ runArgs catalog gwp inputs ∧ a.subScope = u ↔ a ∈ linesOf catalog gwp inputs u := by
  rw [← filter_runArgs, List.mem_filter, decide_eq_true_iff]

end Marks

theorem plan_blocks (inputs : CalcRunInputs) :
    Plan (makeEmission (commonCtx inputs)) (collect id (blocks catalog gwp inputs))
      (RunReady catalog gwp inputs) (runArgs catalog gwp inputs) := by
  dsimp only [blocks]
  refine ((Plan.cons (Scope1FugitiveZero.plan _ _) <| .cons (Scope1Combustion.plan _) <|
    .cons (Scope1Process.plan _) <| .cons (Scope2Lb.plan _) <| .cons (Scope2Mb.plan _ _) <|
    .cons (Scope3Cat1PurchasedGoods.plan _) <| .cons (LabelModule.plan _ _) <|
    .cons (Scope3Cat3FuelEnergy.plan _ _) <| .cons (LabelModule.plan _ _) <|
    .cons (LabelModule.plan _ _) <| .cons (LabelModule.plan _ _) <|
    .cons (Scope3Cat7Commuting.plan _) <| .cons (LabelModule.plan _ _) <|
    .cons (Scope3Cat12Eol.plan _) <|
    .cons (plan_singleton (Scope3Cat11ZeroLine.line gwp inputs.anno)) <|
    .cons (Scope3CatOmittedZeroLines.plan _) plan_nil).congr ?_).congr_args ?_
  · constructor
    · rintro ⟨-, hcomb, ⟨hproc, hvalue⟩, hlb, ⟨hgo, hres, hevid⟩, h1, h2, ⟨hfuel, hwtt, htnd⟩, h4,
        h5, h6, h7, h9, ⟨hland, hrec⟩, -⟩
      refine ⟨?_, hvalue, hcomb, hevid, h1, ?_, hfuel⟩
      · simp only [fixedFactorIds, List.forall_mem_cons]
        exact ⟨hproc, hlb, hgo, hres, hwtt, htnd, h7, hland, hrec, by simp⟩
      · simp only [labelModules, List.forall_mem_cons]
        exact ⟨h2, h4, h5, h6, h9, by simp⟩
    · rintro ⟨hfixed, hvalue, hcomb, hevid, h1, hlabel, hfuel⟩
      simp only [fixedFactorIds, List.forall_mem_cons] at hfixed
      simp only [labelModules, List.forall_mem_cons] at hlabel
      obtain ⟨hproc, hlb, hgo, hres, hwtt, htnd, h7, hland, hrec, -⟩ := hfixed
      obtain ⟨h2, h4, h5, h6, h9, -⟩ := hlabel
      exact ⟨trivial, hcomb, ⟨hproc, hvalue⟩, hlb, ⟨hgo, hres, hevid⟩, h1, h2,
        ⟨hfuel, hwtt, htnd⟩, h4, h5, h6, h7, h9, ⟨hland, hrec⟩, trivial, trivial, trivial⟩
  · simp only [runArgs, subScopeOrder, linesOf, Scope3Cat3FuelEnergy.sigmaLines,
      Scope3CatOmittedZeroLines.omittedCategories, List.flatMap_cons, List.flatMap_nil,
      List.map_cons, List.map_nil, List.append_nil, List.append_assoc, List.cons_append,
      List.nil_append]

/-- A run succeeds exactly when it is ready and each of its lines is a valid record, and returns
those records. -/
theorem run_plan (catalog : FactorCatalogPort) (gwp : GwpValues) (inputs : CalcRunInputs) :
    Plan (makeEmission (commonCtx inputs)) (run catalog gwp inputs)
      (RunReady catalog gwp inputs) (runArgs catalog gwp inputs) := by
  rw [run_eq]
  refine (plan_blocks inputs).verified fun records hbuilt => ⟨gwp.code, ?_⟩
  have hsets : records.map EmissionRecord.gwpSet =
      (runArgs catalog gwp inputs).map EmissionArgs.gwpSet :=
    map_of_built (fun a r h => (builtFrom_of_makeEmission h).gwpSet) hbuilt
  rw [hsets]
  refine assertSingleGwpSet_eq_ok ?_ fun g hg => ?_
  · simp [runArgs, subScopeOrder, linesOf]
  · obtain ⟨a, ha, rfl⟩ := List.mem_map.mp hg
    obtain ⟨u, hu⟩ := mem_runArgs.mp ha
    exact (marked_of_mem hu).gwpSet

theorem mem_run_subScope {inputs : CalcRunInputs} {records : List EmissionRecord}
    (h : run catalog gwp inputs = .ok records) {u : SubScope} {r : EmissionRecord} :
    r ∈ records ∧ r.subScope = u ↔
      ∃ a ∈ linesOf catalog gwp inputs u, makeEmission (commonCtx inputs) a = .ok r := by
  have hmem := mem_built (b := r) ((run_plan catalog gwp inputs).builds records h)
  constructor
  · rintro ⟨hr, hsub⟩
    obtain ⟨a, ha, hbuild⟩ := hmem.mp hr
    have hsub' : a.subScope = u := by
      rw [← (builtFrom_of_makeEmission hbuild).subScope, hsub]
    exact ⟨a, mem_runArgs_subScope.mp ⟨ha, hsub'⟩, hbuild⟩
  · rintro ⟨a, ha, hbuild⟩
    obtain ⟨ha, hsub⟩ := mem_runArgs_subScope.mpr ha
    exact ⟨hmem.mpr ⟨a, ha, hbuild⟩, by rw [(builtFrom_of_makeEmission hbuild).subScope, hsub]⟩

end CalcOrchestrator

end GhgTool
