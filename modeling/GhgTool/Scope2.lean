import GhgTool.CalcModule

/-!
# Scope 2 modules

Location-based and market-based electricity. Both fetch their factors before any row is looked
at, so a missing factor ends the run even when there is no row.
-/

namespace GhgTool

variable {catalog : FactorCatalogPort} {gwp : GwpValues} {ctx : RunContext}
  {E : CalcError → Prop}

namespace Scope2Lb

def lbFactorId : String := "LB_IT_GRID_ISPRA_2024"

def lbArgs (factor : FactorRecord) (gwp : GwpValues) (row : RawScope2Row) : EmissionArgs where
  rawRowId := some row.id
  scope := .two
  subScope := .lb
  codiceSito := some row.codiceSito
  anno := row.anno
  tco2e := factor.valueOrZero * row.quantita * kgToTonne
  factor := factor
  gwpSet := gwp.code
  methodology := .locationBased

def calculate (rows : List RawScope2Row) (catalog : FactorCatalogPort) (gwp : GwpValues)
    (ctx : RunContext) : Except CalcError (List EmissionRecord) := do
  let factor ← requireFactor catalog lbFactorId gwp.code
  collect (fun row => emit ctx (lbArgs factor gwp row)) rows

theorem outcome (hE : ErrorsWithin catalog gwp.code [lbFactorId] E) (rows : List RawScope2Row) :
    Outcome (calculate rows catalog gwp ctx)
      (Shows EmissionRecord.slot (Stamped catalog gwp.code ctx)
        (rows.map fun row => (.lb, some row.codiceSito, row.anno))) E := by
  refine (outcome_requireFactor hE (by simp)).bind fun f hf => ?_
  rw [List.map_eq_flatMap]
  refine outcome_collect fun row _ => ?_
  exact outcome_emit hE _ rfl (fun h => absurd h (by simp [lbArgs, SubScope.isZeroLine]))
    fun _ => ⟨lbFactorId, hf⟩

end Scope2Lb

namespace Scope2Mb

def goZeroFactorId : String := "MB_GO_ZERO"

def residualFactorId : String := "MB_IT_RESIDUAL_AIB_2024"

def goInstrumentLabel : String := "GO_GSE"

/-- `GOEvidenceCheck.is_validated`. -/
abbrev GoEvidenceCheck := String → ℕ → Option String → Bool

def defaultGoEvidenceCheck : GoEvidenceCheck :=
  fun _ _ strumentoMb => strumentoMb == some goInstrumentLabel

def mbArgs (factor : FactorRecord) (tco2e : ℚ) (gwp : GwpValues) (row : RawScope2Row) :
    EmissionArgs where
  rawRowId := some row.id
  scope := .two
  subScope := .mb
  codiceSito := some row.codiceSito
  anno := row.anno
  tco2e := tco2e
  factor := factor
  gwpSet := gwp.code
  methodology := .marketBased
  co2Tonne := some tco2e
  co2FossilTonne := some tco2e

def buildMbRecord (zeroFactor residualFactor : FactorRecord) (gwp : GwpValues)
    (checker : GoEvidenceCheck) (ctx : RunContext) (row : RawScope2Row) :
    Except CalcError (List EmissionRecord) :=
  if row.strumentoMb = some goInstrumentLabel then
    if checker row.codiceSito row.anno row.strumentoMb then
      emit ctx (mbArgs zeroFactor 0 gwp row)
    else .error (.goValidation row.codiceSito row.anno)
  else emit ctx (mbArgs residualFactor (residualFactor.valueOrZero * row.quantita * kgToTonne)
    gwp row)

def calculate (rows : List RawScope2Row) (catalog : FactorCatalogPort) (gwp : GwpValues)
    (ctx : RunContext) (goEvidence : Option GoEvidenceCheck) :
    Except CalcError (List EmissionRecord) := do
  let checker := goEvidence.getD defaultGoEvidenceCheck
  let zeroFactor ← requireFactor catalog goZeroFactorId gwp.code
  let residualFactor ← requireFactor catalog residualFactorId gwp.code
  collect (buildMbRecord zeroFactor residualFactor gwp checker ctx) rows

theorem outcome (hE : ErrorsWithin catalog gwp.code [goZeroFactorId, residualFactorId] E)
    (rows : List RawScope2Row) (goEvidence : Option GoEvidenceCheck) :
    Outcome (calculate rows catalog gwp ctx goEvidence)
      (Shows EmissionRecord.slot (Stamped catalog gwp.code ctx)
        (rows.map fun row => (.mb, some row.codiceSito, row.anno))) E := by
  refine (outcome_requireFactor hE (by simp)).bind fun zero hzero => ?_
  refine (outcome_requireFactor hE (by simp)).bind fun residual hresidual => ?_
  rw [List.map_eq_flatMap]
  refine outcome_collect fun row _ => ?_
  unfold buildMbRecord
  split_ifs
  · exact outcome_emit hE _ rfl (fun h => absurd h (by simp [mbArgs, SubScope.isZeroLine]))
      fun _ => ⟨goZeroFactorId, hzero⟩
  · exact hE.other (.goValidation row.codiceSito row.anno) rfl
  · exact outcome_emit hE _ rfl (fun h => absurd h (by simp [mbArgs, SubScope.isZeroLine]))
      fun _ => ⟨residualFactorId, hresidual⟩

end Scope2Mb

end GhgTool
