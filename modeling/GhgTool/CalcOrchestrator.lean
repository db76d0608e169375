import Mathlib.Data.List.Dedup
import GhgTool.Blocks
import GhgTool.Scope1
import GhgTool.Scope2
import GhgTool.Scope3FixedFactors

/-!
# The calculation orchestrator

`run` wires the sixteen modules in their fixed order. `outcome_run` says all that later results
need about a run: which slots its records take, as tagged blocks read off the inputs, and that
every record is stamped; the errors a run can end in are those of its lookups and checks.
-/

namespace GhgTool

structure CalcRunInputs where
  correlationId : CorrelationId
  anno : ℕ
  sites : List String
  scope1Rows : List RawScope1Row
  scope2Rows : List RawScope2Row
  scope3Rows : List RawScope3Row
  createdBy : String := "calc_orchestrator"
  regulatoryStream : RegulatoryStream := .csrdEsrsE1
  goEvidence : Option Scope2Mb.GoEvidenceCheck := none
  calcTimestamp : Timestamp

def commonCtx (inputs : CalcRunInputs) : RunContext where
  correlationId := inputs.correlationId
  createdBy := inputs.createdBy
  regulatoryStream := inputs.regulatoryStream
  calcTimestamp := inputs.calcTimestamp

def fuelKey (row : RawScope1Row) : Option (String × ℕ) :=
  if row.categoriaS1 = "Processo_Decarb" then none else some (row.combustibile, row.anno)

def sigmaScope1FromRows (rows : List RawScope1Row) : Scope3Cat3FuelEnergy.SigmaScope1 :=
  tally fuelKey RawScope1Row.quantita rows

def sigmaScope2FromRows (rows : List RawScope2Row) : Scope3Cat3FuelEnergy.SigmaScope2 :=
  tally (fun row => some row.anno) RawScope2Row.quantita rows

def assertSingleGwpSet (gwpSets : List GwpSet) : Except CalcError GwpSet :=
  match gwpSets.dedup with
  | [] => .error .emptyGwpSets
  | [g] => .ok g
  | gs => .error (.mixedGwpSets gs)

namespace CalcOrchestrator

def run (catalog : FactorCatalogPort) (gwp : GwpValues) (inputs : CalcRunInputs) :
    Except CalcError (List EmissionRecord) := do
  let ctx := commonCtx inputs
  let fugitive ← Scope1FugitiveZero.calculate inputs.sites gwp inputs.anno ctx
  let combustion ← Scope1Combustion.calculate inputs.scope1Rows catalog gwp ctx
  let process ← Scope1Process.calculate inputs.scope1Rows catalog gwp ctx
  let sigmaS1 := sigmaScope1FromRows inputs.scope1Rows
  let sigmaS2 := sigmaScope2FromRows inputs.scope2Rows
  let lb ← Scope2Lb.calculate inputs.scope2Rows catalog gwp ctx
  let mb ← Scope2Mb.calculate inputs.scope2Rows catalog gwp ctx inputs.goEvidence
  let cat1 ← Scope3Cat1PurchasedGoods.calculate inputs.scope3Rows catalog gwp ctx
  let cat2 ← Scope3Cat2CapitalGoods.labelModule.calculate inputs.scope3Rows catalog gwp ctx
  let cat3 ← Scope3Cat3FuelEnergy.calculate sigmaS1 sigmaS2 catalog gwp ctx
  let cat4 ← Scope3Cat4UpstreamTransport.labelModule.calculate inputs.scope3Rows catalog gwp ctx
  let cat5 ← Scope3Cat5Waste.labelModule.calculate inputs.scope3Rows catalog gwp ctx
  let cat6 ← Scope3Cat6BusinessTravel.labelModule.calculate inputs.scope3Rows catalog gwp ctx
  let cat7 ← Scope3Cat7Commuting.calculate inputs.scope3Rows catalog gwp ctx
  let cat9 ← Scope3Cat9DownstreamTransport.labelModule.calculate inputs.scope3Rows catalog gwp ctx
  let cat12 ← Scope3Cat12Eol.calculate inputs.scope3Rows catalog gwp ctx
  let cat11 ← Scope3Cat11ZeroLine.calculate gwp inputs.anno ctx
  let omitted ← Scope3CatOmittedZeroLines.calculate gwp inputs.anno ctx
  let rows := fugitive ++ (combustion ++ (process ++ (lb ++ (mb ++ (cat1 ++ (cat2 ++ (cat3 ++
    (cat4 ++ (cat5 ++ (cat6 ++ (cat7 ++ (cat9 ++ (cat12 ++ (cat11 ++ omitted))))))))))))))
  let _ ← assertSingleGwpSet (rows.map EmissionRecord.gwpSet)
  return rows

/-- Every factor id some module may look up. -/
def referencedFactorIds : List String :=
  Scope1Combustion.factorIds ++ [Scope1Process.factorId, Scope2Lb.lbFactorId,
    Scope2Mb.goZeroFactorId, Scope2Mb.residualFactorId] ++ Scope3Cat1PurchasedGoods.factorIds ++
  Scope3Cat2CapitalGoods.factorMap.map Prod.snd ++ Scope3Cat3FuelEnergy.factorIds ++
  Scope3Cat4UpstreamTransport.modeFactorIds.map Prod.snd ++ Scope3Cat5Waste.factorIds ++
  Scope3Cat6BusinessTravel.travelFactorIds.map Prod.snd ++ [Scope3Cat7Commuting.factorId] ++
  Scope3Cat9DownstreamTransport.modeFactorIds.map Prod.snd ++
  [Scope3Cat12Eol.landfillFactorId, Scope3Cat12Eol.recycleFactorId]

def fuelKeys (inputs : CalcRunInputs) : List (String × ℕ) :=
  (Scope3Cat3FuelEnergy.sortedFuelKeys (sigmaScope1FromRows inputs.scope1Rows)).filter
    Scope3Cat3FuelEnergy.handles

def electricityYears (inputs : CalcRunInputs) : List ℕ :=
  Scope3Cat3FuelEnergy.sortedYears (sigmaScope2FromRows inputs.scope2Rows)

/-- Site and year of the records of a run, block by block. -/
def slotBlocks (inputs : CalcRunInputs) : List (SubScope × List (Option String × ℕ)) :=
  let corporate := fun handles : RawScope3Row → Bool =>
    (inputs.scope3Rows.filter handles).map fun row => ((none : Option String), row.anno)
  [(.fugitive, inputs.sites.map fun s => (some s, inputs.anno)),
    (.combustion, (inputs.scope1Rows.filter Scope1Combustion.handles).map
      fun row => (some row.codiceSito, row.anno)),
    (.process, (inputs.scope1Rows.filter Scope1Process.handles).map
      fun row => (some row.codiceSito, row.anno)),
    (.lb, inputs.scope2Rows.map fun row => (some row.codiceSito, row.anno)),
    (.mb, inputs.scope2Rows.map fun row => (some row.codiceSito, row.anno)),
    (.cat1, corporate Scope3Cat1PurchasedGoods.handles),
    (.cat2, corporate Scope3Cat2CapitalGoods.labelModule.handles),
    (.cat3WttFuel, (fuelKeys inputs).map fun key => (none, key.2)),
    (.cat3WttElec, (electricityYears inputs).map fun anno => (none, anno)),
    (.cat3Tnd, (electricityYears inputs).map fun anno => (none, anno)),
    (.cat4, corporate Scope3Cat4UpstreamTransport.labelModule.handles),
    (.cat5, corporate Scope3Cat5Waste.labelModule.handles),
    (.cat6, corporate Scope3Cat6BusinessTravel.labelModule.handles),
    (.cat7, corporate Scope3Cat7Commuting.handles),
    (.cat9, corporate Scope3Cat9DownstreamTransport.labelModule.handles),
    (.cat12, inputs.scope3Rows.flatMap fun row =>
      if Scope3Cat12Eol.handles row then [(none, row.anno), (none, row.anno)] else []),
    (.cat11Zero, [(none, inputs.anno)]),
    (.cat8Zero, [(none, inputs.anno)]), (.cat10Zero, [(none, inputs.anno)]),
    (.cat13Zero, [(none, inputs.anno)]), (.cat14Zero, [(none, inputs.anno)]),
    (.cat15Zero, [(none, inputs.anno)])]

variable {catalog : FactorCatalogPort} {gwp : GwpValues} {E : CalcError → Prop}

theorem outcome_assertSingleGwpSet (hE : ErrorsWithin catalog gwp.code [] E) (gs : List GwpSet) :
    Outcome (assertSingleGwpSet gs) (fun _ => True) E := by
  unfold assertSingleGwpSet
  split
  · exact hE.other .emptyGwpSets rfl
  · trivial
  · exact hE.other (.mixedGwpSets _) rfl

theorem tagBlocks_slotBlocks (inputs : CalcRunInputs) :
    tagBlocks (slotBlocks inputs) =
      inputs.sites.map (fun s => (SubScope.fugitive, some s, inputs.anno)) ++
      ((inputs.scope1Rows.filter Scope1Combustion.handles).map
          (fun row => (SubScope.combustion, some row.codiceSito, row.anno)) ++
      ((inputs.scope1Rows.filter Scope1Process.handles).map
          (fun row => (SubScope.process, some row.codiceSito, row.anno)) ++
      (inputs.scope2Rows.map (fun row => (SubScope.lb, some row.codiceSito, row.anno)) ++
      (inputs.scope2Rows.map (fun row => (SubScope.mb, some row.codiceSito, row.anno)) ++
      ((inputs.scope3Rows.filter Scope3Cat1PurchasedGoods.handles).map
          (fun row => (SubScope.cat1, none, row.anno)) ++
      ((inputs.scope3Rows.filter Scope3Cat2CapitalGoods.labelModule.handles).map
          (fun row => (SubScope.cat2, none, row.anno)) ++
      (((fuelKeys inputs).map (fun key => (SubScope.cat3WttFuel, none, key.2)) ++
        ((electricityYears inputs).map (fun anno => (SubScope.cat3WttElec, none, anno)) ++
        (electricityYears inputs).map (fun anno => (SubScope.cat3Tnd, none, anno)))) ++
      ((inputs.scope3Rows.filter Scope3Cat4UpstreamTransport.labelModule.handles).map
          (fun row => (SubScope.cat4, none, row.anno)) ++
      ((inputs.scope3Rows.filter Scope3Cat5Waste.labelModule.handles).map
          (fun row => (SubScope.cat5, none, row.anno)) ++
      ((inputs.scope3Rows.filter Scope3Cat6BusinessTravel.labelModule.handles).map
          (fun row => (SubScope.cat6, none, row.anno)) ++
      ((inputs.scope3Rows.filter Scope3Cat7Commuting.handles).map
          (fun row => (SubScope.cat7, none, row.anno)) ++
      ((inputs.scope3Rows.filter Scope3Cat9DownstreamTransport.labelModule.handles).map
          (fun row => (SubScope.cat9, none, row.anno)) ++
      (inputs.scope3Rows.flatMap (fun row => if Scope3Cat12Eol.handles row then
          [(SubScope.cat12, none, row.anno), (SubScope.cat12, none, row.anno)] else []) ++
      ([(SubScope.cat11Zero, none, inputs.anno)] ++
      Scope3CatOmittedZeroLines.omittedCategories.map
        (fun category => (category.1, none, inputs.anno)))))))))))))))) := by
  simp only [slotBlocks, tagBlocks_cons, tagBlocks_nil, List.map_map, List.map_flatMap,
    apply_ite (List.map (Prod.mk SubScope.cat12)), List.append_assoc, List.append_nil,
    Scope3CatOmittedZeroLines.omittedCategories]
  rfl

theorem outcome_run (hE : ErrorsWithin catalog gwp.code referencedFactorIds E)
    (inputs : CalcRunInputs) :
    Outcome (run catalog gwp inputs) (Shows EmissionRecord.slot
      (Stamped catalog gwp.code (commonCtx inputs)) (tagBlocks (slotBlocks inputs))) E := by
  have sub : ∀ ids : List String, (∀ x ∈ ids, x ∈ referencedFactorIds) →
      ErrorsWithin catalog gwp.code ids E := fun ids h => hE.subset h
  rw [tagBlocks_slotBlocks]
  refine (Scope1FugitiveZero.outcome (sub _ (by simp)) _ _).bind fun _ h₁ => ?_
  refine (Scope1Combustion.outcome (sub _ (by decide)) _).bind fun _ h₂ => ?_
  refine (Scope1Process.outcome (sub _ (by decide)) _).bind fun _ h₃ => ?_
  refine (Scope2Lb.outcome (sub _ (by decide)) _).bind fun _ h₄ => ?_
  refine (Scope2Mb.outcome (sub _ (by decide)) _ _).bind fun _ h₅ => ?_
  refine (Scope3Cat1PurchasedGoods.outcome (sub _ (by decide)) _).bind fun _ h₆ => ?_
  refine (LabelModule.outcome _ Scope3Cat2CapitalGoods.mem_of_resolve rfl
    (sub _ (by decide)) _).bind fun _ h₇ => ?_
  refine (Scope3Cat3FuelEnergy.outcome (sub _ (by decide)) _ _).bind fun _ h₈ => ?_
  refine (LabelModule.outcome _ Scope3Cat4UpstreamTransport.mem_of_resolve rfl
    (sub _ (by decide)) _).bind fun _ h₉ => ?_
  refine (LabelModule.outcome _ Scope3Cat5Waste.mem_of_resolve rfl
    (sub _ (by decide)) _).bind fun _ h₁₀ => ?_
  refine (LabelModule.outcome _ Scope3Cat6BusinessTravel.mem_of_resolve rfl
    (sub _ (by decide)) _).bind fun _ h₁₁ => ?_
  refine (Scope3Cat7Commuting.outcome (sub _ (by decide)) _).bind fun _ h₁₂ => ?_
  refine (LabelModule.outcome _ Scope3Cat9DownstreamTransport.mem_of_resolve rfl
    (sub _ (by decide)) _).bind fun _ h₁₃ => ?_
  refine (Scope3Cat12Eol.outcome (sub _ (by decide)) _).bind fun _ h₁₄ => ?_
  refine (Scope3Cat11ZeroLine.outcome (sub _ (by simp)) _).bind fun _ h₁₅ => ?_
  refine (Scope3CatOmittedZeroLines.outcome (sub _ (by simp)) _).bind fun _ h₁₆ => ?_
  refine (outcome_assertSingleGwpSet (sub _ (by simp)) _).bind fun _ _ => ?_
  exact h₁.append (h₂.append (h₃.append (h₄.append (h₅.append (h₆.append (h₇.append (h₈.append
    (h₉.append (h₁₀.append (h₁₁.append (h₁₂.append (h₁₃.append (h₁₄.append
      (h₁₅.append h₁₆))))))))))))))

end CalcOrchestrator

end GhgTool
