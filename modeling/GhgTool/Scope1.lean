import GhgTool.CalcModule

/-!
# Scope 1 modules

Fugitive zero-lines, combustion and process emissions. Each `outcome` lists the slots of the
emitted records as a function of the input rows alone.
-/

namespace GhgTool

variable {catalog : FactorCatalogPort} {gwp : GwpValues} {ctx : RunContext}
  {E : CalcError → Prop}

namespace Scope1FugitiveZero

def synthFactorRecord (gwpSet : GwpSet) : FactorRecord where
  factorId := "FUGITIVE_ZERO_OI_10"
  version := "2026-05-13"
  value := some 0
  unit := "tCO2e"
  source := "OI-10 user confirmation"
  gwpSet := gwpSet.tag

def zeroLine (gwp : GwpValues) (anno : ℕ) (codiceSito : String) : EmissionArgs where
  rawRowId := none
  scope := .one
  subScope := .fugitive
  codiceSito := some codiceSito
  anno := anno
  tco2e := 0
  factor := synthFactorRecord gwp.code
  gwpSet := gwp.code
  methodology := .declaredZero
  co2Tonne := some 0
  co2BiogenicTonne := some 0
  co2FossilTonne := some 0

def calculate (sites : List String) (gwp : GwpValues) (anno : ℕ) (ctx : RunContext) :
    Except CalcError (List EmissionRecord) :=
  collect (fun codiceSito => emit ctx (zeroLine gwp anno codiceSito)) sites

theorem outcome (hE : ErrorsWithin catalog gwp.code [] E) (sites : List String) (anno : ℕ) :
    Outcome (calculate sites gwp anno ctx)
      (Shows EmissionRecord.slot (Stamped catalog gwp.code ctx)
        (sites.map fun s => (.fugitive, some s, anno))) E := by
  rw [List.map_eq_flatMap]
  refine outcome_collect fun s _ => ?_
  exact outcome_emit hE (zeroLine gwp anno s) rfl (fun _ => rfl)
    fun h => absurd h (by simp [zeroLine, SubScope.isZeroLine])

end Scope1FugitiveZero

namespace Scope1Combustion

structure ComponentIds where
  co2 : String
  ch4 : String
  n2o : String

def fuelFactorIds : List (String × ComponentIds) :=
  [("GAS_NAT", ⟨"COMB_GAS_NAT_CO2_DEFRA_2025", "COMB_GAS_NAT_CH4_DEFRA_2025",
      "COMB_GAS_NAT_N2O_DEFRA_2025"⟩),
    ("GASOLIO", ⟨"COMB_GASOLIO_CO2_DEFRA_2025", "COMB_GASOLIO_CH4_DEFRA_2025",
      "COMB_GASOLIO_N2O_DEFRA_2025"⟩),
    ("BENZINA", ⟨"COMB_BENZINA_CO2_DEFRA_2025", "COMB_BENZINA_CH4_DEFRA_2025",
      "COMB_BENZINA_N2O_DEFRA_2025"⟩)]

def factorIds : List String :=
  fuelFactorIds.flatMap fun entry => [entry.2.co2, entry.2.ch4, entry.2.n2o]

def buildRecord (row : RawScope1Row) (ids : ComponentIds) (catalog : FactorCatalogPort)
    (gwp : GwpValues) (ctx : RunContext) : Except CalcError (List EmissionRecord) := do
  let co2Factor ← requireFactor catalog ids.co2 gwp.code
  let ch4Factor ← requireFactor catalog ids.ch4 gwp.code
  let n2oFactor ← requireFactor catalog ids.n2o gwp.code
  let co2Kg := co2Factor.valueOrZero * row.quantita
  let ch4Kg := ch4Factor.valueOrZero * row.quantita
  let n2oKg := n2oFactor.valueOrZero * row.quantita
  let co2Tonne := co2Kg * kgToTonne
  let ch4Tco2e := ch4Kg * kgToTonne * gwp.ch4
  let n2oTco2e := n2oKg * kgToTonne * gwp.n2o
  emit ctx
    { rawRowId := some row.id, scope := .one, subScope := .combustion
      codiceSito := some row.codiceSito, anno := row.anno
      tco2e := co2Tonne + ch4Tco2e + n2oTco2e, factor := co2Factor, gwpSet := gwp.code
      methodology := .activityBased, co2Tonne := some co2Tonne, co2FossilTonne := some co2Tonne
      ch4Tco2e := some ch4Tco2e, n2oTco2e := some n2oTco2e }

def calculate (rows : List RawScope1Row) (catalog : FactorCatalogPort) (gwp : GwpValues)
    (ctx : RunContext) : Except CalcError (List EmissionRecord) :=
  collect (fun row =>
    match fuelFactorIds.lookup row.combustibile with
    | none => .ok []
    | some ids => buildRecord row ids catalog gwp ctx) rows

def handles (row : RawScope1Row) : Bool :=
  (fuelFactorIds.lookup row.combustibile).isSome

theorem componentIds_mem {fuel : String} {ids : ComponentIds}
    (h : fuelFactorIds.lookup fuel = some ids) :
    ids.co2 ∈ factorIds ∧ ids.ch4 ∈ factorIds ∧ ids.n2o ∈ factorIds := by
  simp only [fuelFactorIds, List.lookup_cons, List.lookup_nil] at h
  split at h
  · cases h; decide
  · split at h
    · cases h; decide
    · split at h
      · cases h; decide
      · cases h

theorem outcome (hE : ErrorsWithin catalog gwp.code factorIds E) (rows : List RawScope1Row) :
    Outcome (calculate rows catalog gwp ctx)
      (Shows EmissionRecord.slot (Stamped catalog gwp.code ctx)
        ((rows.filter handles).map fun row => (.combustion, some row.codiceSito, row.anno))) E := by
  refine outcome_collect_filter ?_ ?_
  · intro row h
    rw [handles, Option.isSome_eq_false_iff, Option.isNone_iff_eq_none] at h
    simp only [h]
  · intro row h
    obtain ⟨ids, hids⟩ := Option.isSome_iff_exists.mp h
    obtain ⟨hco2, hch4, hn2o⟩ := componentIds_mem hids
    simp only [hids, buildRecord]
    refine (outcome_requireFactor hE hco2).bind fun f hf => ?_
    refine (outcome_requireFactor hE hch4).bind fun _ _ => ?_
    refine (outcome_requireFactor hE hn2o).bind fun _ _ => ?_
    exact outcome_emit hE _ rfl (fun h => absurd h (by simp [SubScope.isZeroLine]))
      fun _ => ⟨ids.co2, hf⟩

end Scope1Combustion

namespace Scope1Process

def factorId : String := "STOICH_CACO3_IPCC_2006"

def processCategoryTag : String := "Processo_Decarb"

def handles (row : RawScope1Row) : Bool :=
  row.categoriaS1 == processCategoryTag

def processArgs (factor : FactorRecord) (gwp : GwpValues) (row : RawScope1Row) : EmissionArgs :=
  let co2Tonne := factor.valueOrZero * row.quantita
  { rawRowId := some row.id, scope := .one, subScope := .process
    codiceSito := some row.codiceSito, anno := row.anno, tco2e := co2Tonne * gwp.co2
    factor := factor, gwpSet := gwp.code, methodology := .stoichiometric
    co2Tonne := some co2Tonne }

def calculate (rows : List RawScope1Row) (catalog : FactorCatalogPort) (gwp : GwpValues)
    (ctx : RunContext) : Except CalcError (List EmissionRecord) := do
  let factor ← requireFactor catalog factorId gwp.code
  -- the chemistry constant is checked before any row is looked at
  if factor.value ≠ some (4397 / 10000) then
    throw (.stoichiometricMismatch factor.value)
  collect (fun row => if handles row then emit ctx (processArgs factor gwp row) else .ok []) rows

theorem outcome (hE : ErrorsWithin catalog gwp.code [factorId] E) (rows : List RawScope1Row) :
    Outcome (calculate rows catalog gwp ctx)
      (Shows EmissionRecord.slot (Stamped catalog gwp.code ctx)
        ((rows.filter handles).map fun row => (.process, some row.codiceSito, row.anno))) E := by
  refine (outcome_requireFactor hE (by simp)).bind fun f hf => ?_
  by_cases hvalue : f.value ≠ some (4397 / 10000)
  · simp only [if_pos hvalue]
    exact hE.other (.stoichiometricMismatch f.value) rfl
  · simp only [if_neg hvalue]
    refine outcome_collect_filter (fun row h => by simp [h]) fun row h => ?_
    simp only [h, if_true]
    exact outcome_emit hE _ rfl
      (fun h => absurd h (by simp [processArgs, SubScope.isZeroLine])) fun _ => ⟨factorId, hf⟩

end Scope1Process

end GhgTool
