import GhgTool.FactorCatalog

/-!
# What the calculation modules share

The raw rows, with the checks of the raw tables as fields, and the one way a module emits a
record. `Stamped` and `slot` are what a run shows of its records; `outcome_emit` and
`outcome_requireFactor` are the two rules from which every module's outcome is derived.
-/

namespace GhgTool

/-- A row of `raw.scope1_ingestions`. -/
structure RawScope1Row where
  id : Uuid
  tenantId : Uuid
  anno : ℕ
  codiceSito : String
  categoriaS1 : String
  combustibile : String
  quantita : ℚ
  anno_range : 2020 ≤ anno ∧ anno ≤ 2099
  quantita_nonneg : 0 ≤ quantita
  deriving DecidableEq

/-- A row of `raw.scope2_ingestions`. -/
structure RawScope2Row where
  id : Uuid
  tenantId : Uuid
  anno : ℕ
  codiceSito : String
  quantita : ℚ
  strumentoMb : Option String
  anno_range : 2020 ≤ anno ∧ anno ≤ 2099
  quantita_nonneg : 0 ≤ quantita
  deriving DecidableEq

/-- A row of `raw.scope3_ingestions`. -/
structure RawScope3Row where
  id : Uuid
  tenantId : Uuid
  anno : ℕ
  categoriaS3 : ℕ
  sottocategoria : String
  quantita : ℚ
  unita : String
  anno_range : 2020 ≤ anno ∧ anno ≤ 2099
  categoria_range : 1 ≤ categoriaS3 ∧ categoriaS3 ≤ 15
  quantita_nonneg : 0 ≤ quantita
  deriving DecidableEq

def kgToTonne : ℚ := 1 / 1000

/-- `records.append(make_emission(...))`. -/
def emit (ctx : RunContext) (a : EmissionArgs) : Except CalcError (List EmissionRecord) := do
  let record ← makeEmission ctx a
  return [record]

/-- The part of the natural key in which the records of one run can differ. -/
def EmissionRecord.slot (r : EmissionRecord) : SubScope × Option String × ℕ :=
  (r.subScope, r.codiceSito, r.anno)

/-- The declared zero-lines, whose factor is synthesised and has no catalog row. -/
def SubScope.isZeroLine : SubScope → Bool
  | .fugitive | .cat8Zero | .cat10Zero | .cat11Zero | .cat13Zero | .cat14Zero | .cat15Zero => true
  | _ => false

/-- Every record of a run carries the run's GWP set, stream and identifier, and the key of the
catalog row its factor was read from unless it is a zero-line. -/
structure Stamped (catalog : FactorCatalogPort) (code : GwpSet) (ctx : RunContext)
    (r : EmissionRecord) : Prop where
  gwpSet : r.gwpSet = code
  regulatoryStream : r.regulatoryStream = ctx.regulatoryStream
  correlationId : r.correlationId = ctx.correlationId
  zeroLine : r.subScope.isZeroLine = true → r.factorIdUuid = none
  catalogued : r.subScope.isZeroLine = false →
    ∃ factorId f, catalog.get factorId code none = .ok f ∧ r.factorIdUuid = f.factorDbId

/-- The errors admitted when a module looks up the factors `ids`. -/
structure ErrorsWithin (catalog : FactorCatalogPort) (gwpSet : GwpSet) (ids : List String)
    (E : CalcError → Prop) : Prop where
  other : ∀ e : CalcError, e.isMissingFactor = false → E e
  lookup : ∀ factorId ∈ ids, ∀ e, requireFactor catalog factorId gwpSet = .error e → E e

section Rules

variable {catalog : FactorCatalogPort} {gwpSet : GwpSet} {ctx : RunContext} {ids : List String}
  {E : CalcError → Prop}

theorem ErrorsWithin.subset {ids' : List String} (h : ErrorsWithin catalog gwpSet ids E)
    (hsub : ∀ x ∈ ids', x ∈ ids) : ErrorsWithin catalog gwpSet ids' E :=
  ⟨h.other, fun factorId hid => h.lookup factorId (hsub factorId hid)⟩

theorem outcome_requireFactor (hE : ErrorsWithin catalog gwpSet ids E) {factorId : String}
    (hid : factorId ∈ ids) :
    Outcome (requireFactor catalog factorId gwpSet)
      (fun f => catalog.get factorId gwpSet none = .ok f) E :=
  (Outcome.self _ (hE.lookup factorId hid)).mono
    (fun _ h => (requireFactor_eq_ok.mp h).1) fun _ h => h

theorem outcome_makeEmission (hE : ErrorsWithin catalog gwpSet ids E) (a : EmissionArgs)
    (hgwp : a.gwpSet = gwpSet)
    (hzero : a.subScope.isZeroLine = true → a.factor.factorDbId = none)
    (hcat : a.subScope.isZeroLine = false →
      ∃ factorId, catalog.get factorId gwpSet none = .ok a.factor) :
    Outcome (makeEmission ctx a) (fun r => r.slot = (a.subScope, a.codiceSito, a.anno) ∧
      Stamped catalog gwpSet ctx r) E := by
  refine (Outcome.self (makeEmission ctx a) fun e h =>
    hE.other e (isMissingFactor_of_makeEmission h)).mono ?_ fun _ h => h
  intro r hr
  have hb := builtFrom_of_makeEmission hr
  refine ⟨by rw [EmissionRecord.slot, hb.subScope, hb.codiceSito, hb.anno],
    ⟨hb.gwpSet.trans hgwp, hb.regulatoryStream, hb.correlationId, ?_, ?_⟩⟩
  · intro h
    rw [hb.subScope] at h
    rw [hb.factorIdUuid, hzero h]
  · intro h
    rw [hb.subScope] at h
    obtain ⟨factorId, hget⟩ := hcat h
    exact ⟨factorId, a.factor, hget, hb.factorIdUuid⟩

theorem outcome_emit (hE : ErrorsWithin catalog gwpSet ids E) (a : EmissionArgs)
    (hgwp : a.gwpSet = gwpSet)
    (hzero : a.subScope.isZeroLine = true → a.factor.factorDbId = none)
    (hcat : a.subScope.isZeroLine = false →
      ∃ factorId, catalog.get factorId gwpSet none = .ok a.factor) :
    Outcome (emit ctx a) (Shows EmissionRecord.slot (Stamped catalog gwpSet ctx)
      [(a.subScope, a.codiceSito, a.anno)]) E :=
  (outcome_makeEmission hE a hgwp hzero hcat).bind fun _ h => shows_singleton h.1 h.2

end Rules

end GhgTool
