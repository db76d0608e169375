import GhgTool.Tally
import GhgTool.Text
import GhgTool.CalcModule

/-!
# Scope 3 modules

Categories 2, 4, 5, 6 and 9 share one body: resolve the label to a factor, multiply, convert to
tonnes. Categories 1, 3, 7 and 12 and the declared zero-lines keep bodies of their own.
-/

namespace GhgTool

variable {catalog : FactorCatalogPort} {gwp : GwpValues} {ctx : RunContext}
  {E : CalcError → Prop}

/-- One value record for a Scope 3 row: factor times quantity, in tonnes, without a site. -/
def scope3Args (subScope : SubScope) (methodology : Methodology) (gwp : GwpValues)
    (row : RawScope3Row) (factor : FactorRecord) (quantita : ℚ) : EmissionArgs where
  rawRowId := some row.id
  scope := .three
  subScope := subScope
  codiceSito := none
  anno := row.anno
  tco2e := factor.valueOrZero * quantita * kgToTonne
  factor := factor
  gwpSet := gwp.code
  methodology := methodology

/-- A module that resolves the label of each row of its category to one factor. -/
structure LabelModule where
  categoria : ℕ
  subScope : SubScope
  methodology : Methodology
  resolve : String → Option String

namespace LabelModule

def calculate (m : LabelModule) (rows : List RawScope3Row) (catalog : FactorCatalogPort)
    (gwp : GwpValues) (ctx : RunContext) : Except CalcError (List EmissionRecord) :=
  collect (fun row =>
    if row.categoriaS3 ≠ m.categoria then .ok []
    else match m.resolve row.sottocategoria with
      | none => .ok []
      | some factorId => do
        let factor ← requireFactor catalog factorId gwp.code
        emit ctx (scope3Args m.subScope m.methodology gwp row factor row.quantita)) rows

def handles (m : LabelModule) (row : RawScope3Row) : Bool :=
  row.categoriaS3 == m.categoria && (m.resolve row.sottocategoria).isSome

theorem outcome (m : LabelModule) {ids : List String}
    (hids : ∀ label factorId, m.resolve label = some factorId → factorId ∈ ids)
    (hzero : m.subScope.isZeroLine = false) (hE : ErrorsWithin catalog gwp.code ids E)
    (rows : List RawScope3Row) :
    Outcome (m.calculate rows catalog gwp ctx)
      (Shows EmissionRecord.slot (Stamped catalog gwp.code ctx)
        ((rows.filter m.handles).map fun row => (m.subScope, none, row.anno))) E := by
  refine outcome_collect_filter ?_ ?_
  · intro row h
    by_cases hc : row.categoriaS3 = m.categoria
    · have hnone : m.resolve row.sottocategoria = none := by
        simpa [handles, hc] using h
      simp [hc, hnone]
    · simp [hc]
  · intro row h
    obtain ⟨hc, hsome⟩ := (Bool.and_eq_true _ _).mp h
    obtain ⟨factorId, hres⟩ := Option.isSome_iff_exists.mp hsome
    have hc' : ¬ row.categoriaS3 ≠ m.categoria := by simpa using hc
    simp only [if_neg hc', hres]
    refine (outcome_requireFactor hE (hids _ _ hres)).bind fun f hf => ?_
    exact outcome_emit hE _ rfl (fun h => absurd h (by simp [scope3Args, hzero]))
      fun _ => ⟨factorId, hf⟩

end LabelModule

namespace Scope3Cat2CapitalGoods

def factorMap : List (String × String) :=
  [("impiantistica", "EXIO_MACHINERY_NACE_C28"),
    ("materiali di consumo", "EXIO_CONSUMABLES_NACE_C27")]

def labelModule : LabelModule where
  categoria := 2
  subScope := .cat2
  methodology := .spendBased
  resolve sottocategoria := factorMap.lookup (lower (strip sottocategoria))

theorem mem_of_resolve (label factorId : String)
    (h : labelModule.resolve label = some factorId) : factorId ∈ factorMap.map Prod.snd := by
  simp only [labelModule] at h
  exact mem_of_lookup h

end Scope3Cat2CapitalGoods

namespace Scope3Cat4UpstreamTransport

def modeFactorIds : List (String × String) :=
  [("strada", "FREIGHT_HGV_DEFRA_2025"), ("hgv", "FREIGHT_HGV_DEFRA_2025"),
    ("camion", "FREIGHT_HGV_DEFRA_2025"), ("treno", "FREIGHT_RAIL_DEFRA_2025"),
    ("rail", "FREIGHT_RAIL_DEFRA_2025"), ("nave", "FREIGHT_SEA_DEFRA_2025"),
    ("sea", "FREIGHT_SEA_DEFRA_2025"), ("mare", "FREIGHT_SEA_DEFRA_2025")]

def resolveMode (sottocategoria : String) : Option String :=
  firstKeyword modeFactorIds (lower sottocategoria)

def labelModule : LabelModule where
  categoria := 4
  subScope := .cat4
  methodology := .distanceBased
  resolve := resolveMode

theorem mem_of_resolve (label factorId : String)
    (h : labelModule.resolve label = some factorId) : factorId ∈ modeFactorIds.map Prod.snd := by
  simp only [labelModule, resolveMode] at h
  exact mem_of_firstKeyword h

end Scope3Cat4UpstreamTransport

namespace Scope3Cat5Waste

def factorIds : List String :=
  ["WASTE_LANDFILL_PERIC_DEFRA_2025", "WASTE_LANDFILL_NONPERIC_DEFRA_2025",
    "WASTE_RECYCLE_PERIC_DEFRA_2025", "WASTE_RECYCLE_NONPERIC_DEFRA_2025"]

def resolveWasteFactor (sottocategoria : String) : Option String :=
  let label := lower sottocategoria
  let isPerilous := Contains label "pericol" ∧ ¬ Contains label "non pericol"
  let isLandfill := Contains label "discarica" ∨ Contains label "landfill"
  let isRecycle := Contains label "ricicl" ∨ Contains label "recycl"
  if isLandfill ∧ isPerilous then some "WASTE_LANDFILL_PERIC_DEFRA_2025"
  else if isLandfill then some "WASTE_LANDFILL_NONPERIC_DEFRA_2025"
  else if isRecycle ∧ isPerilous then some "WASTE_RECYCLE_PERIC_DEFRA_2025"
  else if isRecycle then some "WASTE_RECYCLE_NONPERIC_DEFRA_2025"
  else none

def labelModule : LabelModule where
  categoria := 5
  subScope := .cat5
  methodology := .massBased
  resolve := resolveWasteFactor

theorem mem_of_resolve (label factorId : String)
    (h : labelModule.resolve label = some factorId) : factorId ∈ factorIds := by
  simp only [labelModule, resolveWasteFactor] at h
  split_ifs at h <;> cases h <;> decide

end Scope3Cat5Waste

namespace Scope3Cat6BusinessTravel

def travelFactorIds : List (String × String) :=
  [("voli", "TRAVEL_SPEND_FLIGHTS_DEFRA_2025"),
    ("auto noleggio", "TRAVEL_SPEND_HIRECAR_DEFRA_2025"),
    ("hotel", "TRAVEL_SPEND_HOTEL_DEFRA_2025")]

def resolveFactor (sottocategoria : String) : Option String :=
  firstKeyword travelFactorIds (lower sottocategoria)

def labelModule : LabelModule where
  categoria := 6
  subScope := .cat6
  methodology := .spendBased
  resolve := resolveFactor

theorem mem_of_resolve (label factorId : String)
    (h : labelModule.resolve label = some factorId) : factorId ∈ travelFactorIds.map Prod.snd := by
  simp only [labelModule, resolveFactor] at h
  exact mem_of_firstKeyword h

end Scope3Cat6BusinessTravel

namespace Scope3Cat9DownstreamTransport

def modeFactorIds : List (String × String) :=
  [("strada", "FREIGHT_HGV_DEFRA_2025"), ("hgv", "FREIGHT_HGV_DEFRA_2025"),
    ("nave", "FREIGHT_SEA_DEFRA_2025"), ("sea", "FREIGHT_SEA_DEFRA_2025")]

def resolveMode (sottocategoria : String) : Option String :=
  firstKeyword modeFactorIds (lower sottocategoria)

def labelModule : LabelModule where
  categoria := 9
  subScope := .cat9
  methodology := .distanceBased
  resolve := resolveMode

theorem mem_of_resolve (label factorId : String)
    (h : labelModule.resolve label = some factorId) : factorId ∈ modeFactorIds.map Prod.snd := by
  simp only [labelModule, resolveMode] at h
  exact mem_of_firstKeyword h

end Scope3Cat9DownstreamTransport

namespace Scope3Cat1PurchasedGoods

def materialFactorMap : List (String × String) :=
  [("argille", "ECOINV_CLAY_V3_10"), ("feldspati", "ECOINV_FELDSPAR_V3_10"),
    ("sabbie silicee", "ECOINV_SILICA_V3_10"), ("fritte", "ECOINV_FRIT_V3_10"),
    ("smalti", "ECOINV_FRIT_V3_10"), ("pigmenti", "ECOINV_PIGMENT_V3_10"),
    ("additivi", "ECOINV_ADDITIVES_V3_10"), ("imballaggi cartone", "ECOINV_CARDBOARD_V3_10"),
    ("pallet legno", "ECOINV_PALLET_V3_10"), ("film plastico", "ECOINV_LDPE_V3_10"),
    ("reggette pp", "ECOINV_PP_V3_10")]

def spendFactorMap : List (String × String) :=
  [("servizi vari", "EXIO_SERVICES_NACE_M")]

def factorIds : List String :=
  materialFactorMap.map Prod.snd ++ spendFactorMap.map Prod.snd

def biogenicFactorIds : List String :=
  ["ECOINV_CARDBOARD_V3_10", "ECOINV_PALLET_V3_10"]

def resolve (sottocategoria : String) : Option String :=
  let sub := lower (strip sottocategoria)
  (materialFactorMap.lookup sub).or (spendFactorMap.lookup sub)

def methodologyOf (factorId : String) : Methodology :=
  if "ECOINV_".toList <+: factorId.toList then .massBased else .spendBased

def cat1Args (gwp : GwpValues) (row : RawScope3Row) (factorId : String) (factor : FactorRecord)
    (bioPerUnit : Option ℚ) : EmissionArgs :=
  let tco2eTotal := factor.valueOrZero * row.quantita * kgToTonne
  { scope3Args .cat1 (methodologyOf factorId) gwp row factor row.quantita with
    co2BiogenicTonne := bioPerUnit.map fun bio => bio * row.quantita * kgToTonne
    co2FossilTonne := bioPerUnit.map fun _ => tco2eTotal }

def buildRecord (row : RawScope3Row) (factorId : String) (catalog : FactorCatalogPort)
    (gwp : GwpValues) (ctx : RunContext) : Except CalcError (List EmissionRecord) := do
  let factor ← requireFactor catalog factorId gwp.code
  let bioPerUnit :=
    if factorId ∈ biogenicFactorIds then catalog.getBiogenicShare factorId gwp.code else none
  emit ctx (cat1Args gwp row factorId factor bioPerUnit)

def calculate (rows : List RawScope3Row) (catalog : FactorCatalogPort) (gwp : GwpValues)
    (ctx : RunContext) : Except CalcError (List EmissionRecord) :=
  collect (fun row =>
    if row.categoriaS3 ≠ 1 then .ok []
    else match resolve row.sottocategoria with
      | none => .ok []
      | some factorId => buildRecord row factorId catalog gwp ctx) rows

def handles (row : RawScope3Row) : Bool :=
  row.categoriaS3 == 1 && (resolve row.sottocategoria).isSome

theorem mem_of_resolve {label factorId : String} (h : resolve label = some factorId) :
    factorId ∈ factorIds := by
  rw [resolve, Option.or_eq_some_iff] at h
  rcases h with h | ⟨-, h⟩
  · exact List.mem_append_left _ (mem_of_lookup h)
  · exact List.mem_append_right _ (mem_of_lookup h)

theorem outcome (hE : ErrorsWithin catalog gwp.code factorIds E) (rows : List RawScope3Row) :
    Outcome (calculate rows catalog gwp ctx)
      (Shows EmissionRecord.slot (Stamped catalog gwp.code ctx)
        ((rows.filter handles).map fun row => (.cat1, none, row.anno))) E := by
  refine outcome_collect_filter ?_ ?_
  · intro row h
    by_cases hc : row.categoriaS3 = 1
    · have hnone : resolve row.sottocategoria = none := by
        simpa [handles, hc] using h
      simp [hc, hnone]
    · simp [hc]
  · intro row h
    obtain ⟨hc, hsome⟩ := (Bool.and_eq_true _ _).mp h
    obtain ⟨factorId, hres⟩ := Option.isSome_iff_exists.mp hsome
    have hc' : ¬ row.categoriaS3 ≠ 1 := by simpa using hc
    simp only [if_neg hc', hres, buildRecord]
    refine (outcome_requireFactor hE (mem_of_resolve hres)).bind fun f hf => ?_
    exact outcome_emit hE _ rfl
      (fun h => absurd h (by simp [cat1Args, scope3Args, SubScope.isZeroLine]))
      fun _ => ⟨factorId, hf⟩

end Scope3Cat1PurchasedGoods

end GhgTool
