import Mathlib.Algebra.Order.Field.Rat
import GhgTool.Loop

/-!
# Emission records

The output type of every calculation module. A record can only be built by `makeEmission`, which
raises where `EmissionRecord.__post_init__` raises, so a record carries its checks as fields.
Decimals are exact rationals.
-/

namespace GhgTool

abbrev Uuid := ℕ

def nilUuid : Uuid := 0

abbrev Timestamp := ℕ

inductive Scope
  | one | two | three
  deriving DecidableEq, Repr

inductive SubScope
  | combustion | process | fugitive
  | lb | mb
  | cat1 | cat2 | cat3WttFuel | cat3WttElec | cat3Tnd | cat4 | cat5 | cat6 | cat7
  | cat8Zero | cat9 | cat10Zero | cat11Zero | cat12 | cat13Zero | cat14Zero | cat15Zero
  deriving DecidableEq, Repr

def allowedSubScopes : Scope → List SubScope
  | .one => [.combustion, .process, .fugitive]
  | .two => [.lb, .mb]
  | .three => [.cat1, .cat2, .cat3WttFuel, .cat3WttElec, .cat3Tnd, .cat4, .cat5, .cat6, .cat7,
      .cat8Zero, .cat9, .cat10Zero, .cat11Zero, .cat12, .cat13Zero, .cat14Zero, .cat15Zero]

theorem scope_unique {s s' : Scope} {u : SubScope} (h : u ∈ allowedSubScopes s)
    (h' : u ∈ allowedSubScopes s') : s = s' := by
  revert h h'
  cases s <;> cases s' <;> cases u <;> decide

inductive GwpSet
  | ar6 | ar5
  deriving DecidableEq, Repr

/-- The tags of the catalog column `gwp_set`, which also admits `n/a`. -/
inductive GwpTag
  | ar6 | ar5 | na
  deriving DecidableEq, Repr

def GwpSet.tag : GwpSet → GwpTag
  | .ar6 => .ar6
  | .ar5 => .ar5

inductive Methodology
  | activityBased | massBased | spendBased | distanceBased | stoichiometric | declaredZero
  | locationBased | marketBased
  deriving DecidableEq, Repr

inductive RegulatoryStream
  | csrdEsrsE1 | euEtsPhaseIv
  deriving DecidableEq, Repr

/-- Run identifiers: a `uuid4` draw, or the `uuid5` the scheduler derives from the reporting year,
the stream and the UTC day. -/
inductive CorrelationId
  | drawn (n : ℕ)
  | scheduled (anno : ℕ) (stream : RegulatoryStream) (day : ℕ)
  deriving DecidableEq

/-- `GWPValues`: the GWP100 multipliers of one assessment report. -/
structure GwpValues where
  code : GwpSet
  co2 : ℚ
  ch4 : ℚ
  n2o : ℚ
  deriving DecidableEq

def gwpAr6 : GwpValues := ⟨.ar6, 1, 279 / 10, 273⟩

def gwpAr5 : GwpValues := ⟨.ar5, 1, 28, 265⟩

def getGwpValues : GwpSet → GwpValues
  | .ar6 => gwpAr6
  | .ar5 => gwpAr5

theorem getGwpValues_code (g : GwpSet) : (getGwpValues g).code = g := by
  cases g <;> rfl

/-- `FactorRecord`: the domain projection of a row of the factor catalog. -/
structure FactorRecord where
  factorId : String
  version : String
  value : Option ℚ
  unit : String
  source : String
  gwpSet : GwpTag
  biogenicCo2KgPerUnit : Option ℚ := none
  vintage : Option String := none
  factorDbId : Option Uuid := none
  deriving DecidableEq

/-- `factor.value or Decimal("0")`. -/
def FactorRecord.valueOrZero (f : FactorRecord) : ℚ :=
  f.value.getD 0

inductive CalcError
  | missingFactor (factorId : String) (gwpSet : GwpSet)
  | noPinnedValue (factorId : String) (gwpSet : GwpSet)
  | stoichiometricMismatch (value : Option ℚ)
  | goValidation (codiceSito : String) (anno : ℕ)
  | negativeEmission (tco2e : ℚ) (scope : Scope) (subScope : SubScope)
  | invalidSubScope (scope : Scope) (subScope : SubScope)
  | negativeBiogenic (value : Option ℚ)
  | negativeFossil (value : Option ℚ)
  | emptyGwpSets
  | mixedGwpSets (gwpSets : List GwpSet)
  deriving DecidableEq

/-- Both are `MissingFactorError`: no row was found, or the row found has no value. -/
def CalcError.isMissingFactor : CalcError → Bool
  | .missingFactor _ _ => true
  | .noPinnedValue _ _ => true
  | _ => false

/-- The keyword arguments shared by all calculation modules. -/
structure RunContext where
  correlationId : CorrelationId
  createdBy : String
  regulatoryStream : RegulatoryStream
  calcTimestamp : Timestamp
  deriving DecidableEq

/-- The remaining keyword arguments of `make_emission`, with its defaults. -/
structure EmissionArgs where
  rawRowId : Option Uuid
  scope : Scope
  subScope : SubScope
  codiceSito : Option String
  anno : ℕ
  tco2e : ℚ
  factor : FactorRecord
  gwpSet : GwpSet
  methodology : Methodology
  co2Tonne : Option ℚ := none
  co2BiogenicTonne : Option ℚ := none
  co2FossilTonne : Option ℚ := none
  ch4Tco2e : Option ℚ := none
  n2oTco2e : Option ℚ := none

structure EmissionRecord where
  correlationId : CorrelationId
  rawRowId : Option Uuid
  scope : Scope
  subScope : SubScope
  codiceSito : Option String
  anno : ℕ
  tco2e : ℚ
  factorId : String
  factorVersion : String
  factorSource : String
  gwpSet : GwpSet
  methodology : Methodology
  regulatoryStream : RegulatoryStream
  calcTimestamp : Timestamp
  createdBy : String
  co2Tonne : Option ℚ
  co2BiogenicTonne : Option ℚ
  co2FossilTonne : Option ℚ
  ch4Tco2e : Option ℚ
  n2oTco2e : Option ℚ
  factorIdUuid : Option Uuid
  tco2e_nonneg : 0 ≤ tco2e
  subScope_allowed : subScope ∈ allowedSubScopes scope
  biogenic_nonneg : ∀ x ∈ co2BiogenicTonne, 0 ≤ x
  fossil_nonneg : ∀ x ∈ co2FossilTonne, 0 ≤ x

def makeEmission (ctx : RunContext) (a : EmissionArgs) : Except CalcError EmissionRecord :=
  if htco2e : 0 ≤ a.tco2e then
    if hsub : a.subScope ∈ allowedSubScopes a.scope then
      if hbio : ∀ x ∈ a.co2BiogenicTonne, 0 ≤ x then
        if hfossil : ∀ x ∈ a.co2FossilTonne, 0 ≤ x then
          .ok
            { correlationId := ctx.correlationId, rawRowId := a.rawRowId, scope := a.scope
              subScope := a.subScope, codiceSito := a.codiceSito, anno := a.anno, tco2e := a.tco2e
              factorId := a.factor.factorId, factorVersion := a.factor.version
              factorSource := a.factor.source, gwpSet := a.gwpSet, methodology := a.methodology
              regulatoryStream := ctx.regulatoryStream, calcTimestamp := ctx.calcTimestamp
              createdBy := ctx.createdBy, co2Tonne := a.co2Tonne
              co2BiogenicTonne := a.co2BiogenicTonne, co2FossilTonne := a.co2FossilTonne
              ch4Tco2e := a.ch4Tco2e, n2oTco2e := a.n2oTco2e
              factorIdUuid := a.factor.factorDbId, tco2e_nonneg := htco2e
              subScope_allowed := hsub, biogenic_nonneg := hbio, fossil_nonneg := hfossil }
        else .error (.negativeFossil a.co2FossilTonne)
      else .error (.negativeBiogenic a.co2BiogenicTonne)
    else .error (.invalidSubScope a.scope a.subScope)
  else .error (.negativeEmission a.tco2e a.scope a.subScope)

/-- What a record shows of the arguments it was built from. -/
structure BuiltFrom (ctx : RunContext) (a : EmissionArgs) (r : EmissionRecord) : Prop where
  correlationId : r.correlationId = ctx.correlationId
  rawRowId : r.rawRowId = a.rawRowId
  scope : r.scope = a.scope
  subScope : r.subScope = a.subScope
  codiceSito : r.codiceSito = a.codiceSito
  anno : r.anno = a.anno
  tco2e : r.tco2e = a.tco2e
  factorId : r.factorId = a.factor.factorId
  factorIdUuid : r.factorIdUuid = a.factor.factorDbId
  gwpSet : r.gwpSet = a.gwpSet
  regulatoryStream : r.regulatoryStream = ctx.regulatoryStream

theorem builtFrom_of_makeEmission {ctx : RunContext} {a : EmissionArgs} {r : EmissionRecord}
    (h : makeEmission ctx a = .ok r) : BuiltFrom ctx a r := by
  unfold makeEmission at h
  split_ifs at h
  cases h
  constructor <;> rfl

/-- The component amounts of a record are those it was built with. -/
structure AmountsFrom (a : EmissionArgs) (r : EmissionRecord) : Prop where
  co2Tonne : r.co2Tonne = a.co2Tonne
  co2BiogenicTonne : r.co2BiogenicTonne = a.co2BiogenicTonne
  co2FossilTonne : r.co2FossilTonne = a.co2FossilTonne
  ch4Tco2e : r.ch4Tco2e = a.ch4Tco2e
  n2oTco2e : r.n2oTco2e = a.n2oTco2e

theorem amountsFrom_of_makeEmission {ctx : RunContext} {a : EmissionArgs} {r : EmissionRecord}
    (h : makeEmission ctx a = .ok r) : AmountsFrom a r := by
  unfold makeEmission at h
  split_ifs at h
  cases h
  constructor <;> rfl

/-- Exactly when the checks of a record pass. -/
theorem makeEmission_succeeds {ctx : RunContext} {a : EmissionArgs} :
    (∃ r, makeEmission ctx a = .ok r) ↔ 0 ≤ a.tco2e ∧ a.subScope ∈ allowedSubScopes a.scope ∧
      (∀ x ∈ a.co2BiogenicTonne, 0 ≤ x) ∧ ∀ x ∈ a.co2FossilTonne, 0 ≤ x := by
  constructor
  · rintro ⟨r, h⟩
    unfold makeEmission at h
    split_ifs at h with htco2e hsub hbio hfossil
    exact ⟨htco2e, hsub, hbio, hfossil⟩
  · rintro ⟨htco2e, hsub, hbio, hfossil⟩
    refine ⟨?_, ?_⟩
    rotate_left
    · unfold makeEmission
      rw [dif_pos htco2e, dif_pos hsub, dif_pos hbio, dif_pos hfossil]

/-- Building a record never reports a missing factor. -/
theorem isMissingFactor_of_makeEmission {ctx : RunContext} {a : EmissionArgs} {e : CalcError}
    (h : makeEmission ctx a = .error e) : e.isMissingFactor = false := by
  unfold makeEmission at h
  split_ifs at h <;> cases h <;> rfl

/-! ## Years and amounts of concrete rows -/

theorem anno_2024 : 2020 ≤ 2024 ∧ 2024 ≤ 2099 := by
  decide

theorem anno_2025 : 2020 ≤ 2025 ∧ 2025 ≤ 2099 := by
  decide

theorem requestAnno_2025 : 2000 ≤ 2025 ∧ 2025 ≤ 2100 := by
  decide

theorem none_nonneg : ∀ x ∈ (none : Option ℚ), 0 ≤ x := by
  simp

end GhgTool
