import GhgTool.Tally
import GhgTool.Text
import GhgTool.Scope3

/-!
# Scope 3 modules with fixed factors

Category 3 works on the aggregates of Scope 1 and Scope 2, category 7 on one exact label,
category 12 splits every row into two records, and the omitted categories are declared zero.
-/

namespace GhgTool

variable {catalog : FactorCatalogPort} {gwp : GwpValues} {ctx : RunContext}
  {E : CalcError → Prop}

namespace Scope3Cat3FuelEnergy

/-- `(combustibile, anno) -> Σ quantita`. -/
abbrev SigmaScope1 := List ((String × ℕ) × ℚ)

/-- `anno -> Σ kWh`. -/
abbrev SigmaScope2 := List (ℕ × ℚ)

def fuelWttFactorIds : List (String × String) :=
  [("GAS_NAT", "WTT_GAS_NAT_DEFRA_2025"), ("GASOLIO", "WTT_GASOLIO_DEFRA_2025"),
    ("BENZINA", "WTT_BENZINA_DEFRA_2025")]

def elecWttId : String := "WTT_ELEC_DEFRA_2025"

def tndElecItId : String := "TND_ELEC_IT_DEFRA_2025"

def factorIds : List String :=
  fuelWttFactorIds.map Prod.snd ++ [elecWttId, tndElecItId]

/-- The order of Python's pairs of a string and an integer. -/
def KeyLe (a b : String × ℕ) : Prop :=
  a.1 < b.1 ∨ a.1 = b.1 ∧ a.2 ≤ b.2

instance : DecidableRel KeyLe :=
  fun a b => inferInstanceAs (Decidable (a.1 < b.1 ∨ a.1 = b.1 ∧ a.2 ≤ b.2))

def sortedFuelKeys (sigma : SigmaScope1) : List (String × ℕ) :=
  (sigma.map Prod.fst).insertionSort KeyLe

def sortedYears (sigma : SigmaScope2) : List ℕ :=
  (sigma.map Prod.fst).insertionSort (· ≤ ·)

def sigmaArgs (subScope : SubScope) (gwp : GwpValues) (factor : FactorRecord) (anno : ℕ)
    (sigma : ℚ) : EmissionArgs where
  rawRowId := none
  scope := .three
  subScope := subScope
  codiceSito := none
  anno := anno
  tco2e := factor.valueOrZero * sigma * kgToTonne
  factor := factor
  gwpSet := gwp.code
  methodology := .activityBased

def fuelWttRecords (sigma : SigmaScope1) (catalog : FactorCatalogPort) (gwp : GwpValues)
    (ctx : RunContext) : Except CalcError (List EmissionRecord) :=
  collect (fun key =>
    match fuelWttFactorIds.lookup key.1 with
    | none => .ok []
    | some factorId => do
      let factor ← requireFactor catalog factorId gwp.code
      emit ctx (sigmaArgs .cat3WttFuel gwp factor key.2 ((sigma.lookup key).getD 0)))
    (sortedFuelKeys sigma)

/-- The body of `_electricity_wtt_records` and `_tnd_records`. -/
def electricityRecords (factorId : String) (subScope : SubScope) (sigma : SigmaScope2)
    (catalog : FactorCatalogPort) (gwp : GwpValues) (ctx : RunContext) :
    Except CalcError (List EmissionRecord) := do
  let factor ← requireFactor catalog factorId gwp.code
  collect (fun anno => emit ctx (sigmaArgs subScope gwp factor anno ((sigma.lookup anno).getD 0)))
    (sortedYears sigma)

def electricityWttRecords := electricityRecords elecWttId .cat3WttElec

def tndRecords := electricityRecords tndElecItId .cat3Tnd

def calculate (sigmaScope1 : SigmaScope1) (sigmaScope2Kwh : SigmaScope2)
    (catalog : FactorCatalogPort) (gwp : GwpValues) (ctx : RunContext) :
    Except CalcError (List EmissionRecord) := do
  let fuel ← fuelWttRecords sigmaScope1 catalog gwp ctx
  let elec ← electricityWttRecords sigmaScope2Kwh catalog gwp ctx
  let tnd ← tndRecords sigmaScope2Kwh catalog gwp ctx
  return fuel ++ (elec ++ tnd)

def handles (key : String × ℕ) : Bool :=
  (fuelWttFactorIds.lookup key.1).isSome

theorem outcome_fuelWttRecords (hE : ErrorsWithin catalog gwp.code factorIds E)
    (sigma : SigmaScope1) :
    Outcome (fuelWttRecords sigma catalog gwp ctx)
      (Shows EmissionRecord.slot (Stamped catalog gwp.code ctx)
        (((sortedFuelKeys sigma).filter handles).map fun key => (.cat3WttFuel, none, key.2))) E := by
  refine outcome_collect_filter ?_ ?_
  · intro key h
    rw [handles, Option.isSome_eq_false_iff, Option.isNone_iff_eq_none] at h
    simp only [h]
  · intro key h
    obtain ⟨factorId, hid⟩ := Option.isSome_iff_exists.mp h
    simp only [hid]
    have hmem : factorId ∈ factorIds := List.mem_append_left _ (mem_of_lookup hid)
    refine (outcome_requireFactor hE hmem).bind fun f hf => ?_
    exact outcome_emit hE _ rfl (fun h => absurd h (by simp [sigmaArgs, SubScope.isZeroLine]))
      fun _ => ⟨factorId, hf⟩

theorem outcome_electricityRecords (hE : ErrorsWithin catalog gwp.code factorIds E)
    {factorId : String} (hid : factorId ∈ factorIds) {subScope : SubScope}
    (hsub : subScope.isZeroLine = false) (sigma : SigmaScope2) :
    Outcome (electricityRecords factorId subScope sigma catalog gwp ctx)
      (Shows EmissionRecord.slot (Stamped catalog gwp.code ctx)
        ((sortedYears sigma).map fun anno => (subScope, none, anno))) E := by
  refine (outcome_requireFactor hE hid).bind fun f hf => ?_
  rw [List.map_eq_flatMap]
  refine outcome_collect fun anno _ => ?_
  exact outcome_emit hE _ rfl (fun h => absurd h (by simp [sigmaArgs, hsub]))
    fun _ => ⟨factorId, hf⟩

theorem outcome (hE : ErrorsWithin catalog gwp.code factorIds E) (sigmaScope1 : SigmaScope1)
    (sigmaScope2Kwh : SigmaScope2) :
    Outcome (calculate sigmaScope1 sigmaScope2Kwh catalog gwp ctx)
      (Shows EmissionRecord.slot (Stamped catalog gwp.code ctx)
        (((sortedFuelKeys sigmaScope1).filter handles).map (fun key => (.cat3WttFuel, none, key.2))
          ++ ((sortedYears sigmaScope2Kwh).map (fun anno => (.cat3WttElec, none, anno))
            ++ (sortedYears sigmaScope2Kwh).map fun anno => (.cat3Tnd, none, anno)))) E := by
  refine (outcome_fuelWttRecords hE sigmaScope1).bind fun fuel hfuel => ?_
  refine (outcome_electricityRecords hE (by decide) rfl sigmaScope2Kwh).bind fun elec helec => ?_
  refine (outcome_electricityRecords hE (by decide) rfl sigmaScope2Kwh).bind fun tnd htnd => ?_
  exact hfuel.append (helec.append htnd)

end Scope3Cat3FuelEnergy

namespace Scope3Cat7Commuting

def factorId : String := "COMMUTE_CAR_DEFRA_2025"

def handles (row : RawScope3Row) : Bool :=
  row.categoriaS3 == 7 && lower (strip row.sottocategoria) == "commuting_auto"

def calculate (rows : List RawScope3Row) (catalog : FactorCatalogPort) (gwp : GwpValues)
    (ctx : RunContext) : Except CalcError (List EmissionRecord) := do
  let factor ← requireFactor catalog factorId gwp.code
  collect (fun row =>
    if handles row then emit ctx (scope3Args .cat7 .distanceBased gwp row factor row.quantita)
    else .ok []) rows

theorem outcome (hE : ErrorsWithin catalog gwp.code [factorId] E) (rows : List RawScope3Row) :
    Outcome (calculate rows catalog gwp ctx)
      (Shows EmissionRecord.slot (Stamped catalog gwp.code ctx)
        ((rows.filter handles).map fun row => (.cat7, none, row.anno))) E := by
  refine (outcome_requireFactor hE (by simp)).bind fun f hf => ?_
  refine outcome_collect_filter (fun row h => by simp [h]) fun row h => ?_
  simp only [h, if_true]
  exact outcome_emit hE _ rfl (fun h => absurd h (by simp [scope3Args, SubScope.isZeroLine]))
    fun _ => ⟨factorId, hf⟩

end Scope3Cat7Commuting

namespace Scope3Cat12Eol

def landfillFactorId : String := "ECOINV_LANDFILL_INERT_V3_10"

def recycleFactorId : String := "ECOINV_CDW_RECYCLE_V3_10"

def landfillFraction : ℚ := 30 / 100

def recycleFraction : ℚ := 70 / 100

def handles (row : RawScope3Row) : Bool :=
  row.categoriaS3 == 12

def buildRecords (landfill recycle : FactorRecord) (gwp : GwpValues) (ctx : RunContext)
    (row : RawScope3Row) : Except CalcError (List EmissionRecord) := do
  let landfillRecord ← emit ctx
    (scope3Args .cat12 .massBased gwp row landfill (row.quantita * landfillFraction))
  let recycleRecord ← emit ctx
    (scope3Args .cat12 .massBased gwp row recycle (row.quantita * recycleFraction))
  return landfillRecord ++ recycleRecord

def calculate (rows : List RawScope3Row) (catalog : FactorCatalogPort) (gwp : GwpValues)
    (ctx : RunContext) : Except CalcError (List EmissionRecord) := do
  let landfill ← requireFactor catalog landfillFactorId gwp.code
  let recycle ← requireFactor catalog recycleFactorId gwp.code
  collect (fun row =>
    if handles row then buildRecords landfill recycle gwp ctx row else .ok []) rows

theorem outcome (hE : ErrorsWithin catalog gwp.code [landfillFactorId, recycleFactorId] E)
    (rows : List RawScope3Row) :
    Outcome (calculate rows catalog gwp ctx)
      (Shows EmissionRecord.slot (Stamped catalog gwp.code ctx)
        (rows.flatMap fun row =>
          if handles row then [(.cat12, none, row.anno), (.cat12, none, row.anno)] else [])) E := by
  refine (outcome_requireFactor hE (by simp)).bind fun landfill hlandfill => ?_
  refine (outcome_requireFactor hE (by simp)).bind fun recycle hrecycle => ?_
  refine outcome_collect fun row _ => ?_
  by_cases h : handles row = true
  · simp only [h, if_true]
    refine (outcome_emit hE _ rfl ?_ fun _ => ⟨landfillFactorId, hlandfill⟩).bind fun xs hxs =>
      (outcome_emit hE _ rfl ?_ fun _ => ⟨recycleFactorId, hrecycle⟩).bind fun ys hys =>
        hxs.append hys
    · exact fun h => absurd h (by simp [scope3Args, SubScope.isZeroLine])
    · exact fun h => absurd h (by simp [scope3Args, SubScope.isZeroLine])
  · simp only [h]
    exact shows_nil _ _

end Scope3Cat12Eol

/-- A declared zero-line of a Scope 3 category: the factor is synthesised, without catalog row. -/
def scope3ZeroLine (subScope : SubScope) (factorId source : String) (gwp : GwpValues) (anno : ℕ) :
    EmissionArgs where
  rawRowId := none
  scope := .three
  subScope := subScope
  codiceSito := none
  anno := anno
  tco2e := 0
  factor :=
    { factorId := factorId, version := "2026-05-13", value := some 0, unit := "tCO2e"
      source := source, gwpSet := gwp.code.tag }
  gwpSet := gwp.code
  methodology := .declaredZero
  co2Tonne := some 0
  co2BiogenicTonne := some 0
  co2FossilTonne := some 0

namespace Scope3Cat11ZeroLine

def calculate (gwp : GwpValues) (anno : ℕ) (ctx : RunContext) :
    Except CalcError (List EmissionRecord) :=
  emit ctx (scope3ZeroLine .cat11Zero "CAT11_ZERO_OMISSION" "FR-18 / MG-06 declared-zero" gwp anno)

theorem outcome (hE : ErrorsWithin catalog gwp.code [] E) (anno : ℕ) :
    Outcome (calculate gwp anno ctx)
      (Shows EmissionRecord.slot (Stamped catalog gwp.code ctx) [(.cat11Zero, none, anno)]) E :=
  outcome_emit hE _ rfl (fun _ => rfl)
    fun h => absurd h (by simp [scope3ZeroLine, SubScope.isZeroLine])

end Scope3Cat11ZeroLine

namespace Scope3CatOmittedZeroLines

def omittedCategories : List (SubScope × String) :=
  [(.cat8Zero, "CAT8_ZERO_OMISSION"), (.cat10Zero, "CAT10_ZERO_OMISSION"),
    (.cat13Zero, "CAT13_ZERO_OMISSION"), (.cat14Zero, "CAT14_ZERO_OMISSION"),
    (.cat15Zero, "CAT15_ZERO_OMISSION")]

def calculate (gwp : GwpValues) (anno : ℕ) (ctx : RunContext) :
    Except CalcError (List EmissionRecord) :=
  collect (fun category =>
    emit ctx (scope3ZeroLine category.1 category.2 "FR-36 / MG-07 declared-zero" gwp anno))
    omittedCategories

theorem isZeroLine_of_mem : ∀ category ∈ omittedCategories, category.1.isZeroLine = true := by
  decide

theorem outcome (hE : ErrorsWithin catalog gwp.code [] E) (anno : ℕ) :
    Outcome (calculate gwp anno ctx)
      (Shows EmissionRecord.slot (Stamped catalog gwp.code ctx)
        (omittedCategories.map fun category => (category.1, none, anno))) E := by
  rw [List.map_eq_flatMap]
  refine outcome_collect fun category hmem => ?_
  exact outcome_emit hE _ rfl (fun _ => rfl)
    fun h => absurd h (by simp [scope3ZeroLine, isZeroLine_of_mem category hmem])

end Scope3CatOmittedZeroLines

end GhgTool
