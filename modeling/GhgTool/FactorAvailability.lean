import GhgTool.CalcOrchestrator

/-!
# Which factors a run finds

A factor is available to a run when the catalog holds a published, valid row with a value for it,
tagged with the run's GWP set or with `n/a`, the tag of constants that do not depend on a GWP set.
The lookup compares the tag for equality and takes the newest row before it looks at the value, so
it finds less than what is available.
-/

namespace GhgTool

/-- A published, valid row with a value, under the run's GWP set or the neutral tag. -/
structure CatalogRow.Available (tenantId : Uuid) (factorId : String) (gwpSet : GwpSet)
    (row : CatalogRow) : Prop where
  tenantId : row.tenantId = tenantId
  factorId : row.factorId = factorId
  isPublished : row.isPublished = true
  validTo : row.validTo = none
  value : row.value.isSome = true
  gwpSet : row.gwpSet = gwpSet.tag ∨ row.gwpSet = .na

instance (tenantId : Uuid) (factorId : String) (gwpSet : GwpSet) (row : CatalogRow) :
    Decidable (row.Available tenantId factorId gwpSet) :=
  decidable_of_iff (row.tenantId = tenantId ∧ row.factorId = factorId ∧ row.isPublished = true ∧
      row.validTo = none ∧ row.value.isSome = true ∧
        (row.gwpSet = gwpSet.tag ∨ row.gwpSet = .na))
    ⟨fun ⟨h₁, h₂, h₃, h₄, h₅, h₆⟩ => ⟨h₁, h₂, h₃, h₄, h₅, h₆⟩,
      fun ⟨h₁, h₂, h₃, h₄, h₅, h₆⟩ => ⟨h₁, h₂, h₃, h₄, h₅, h₆⟩⟩

/-- The rows the lookup chooses from, in the order in which ties are broken. -/
def candidates (catalog : FactorCatalog) (tenantId : Uuid) (factorId : String)
    (gwpSet : GwpSet) : List CatalogRow :=
  catalog.rows.filter fun r => decide (r.Selected tenantId factorId gwpSet none)

/-- The first of the newest rows tagged exactly with the GWP set carries a value. -/
def NewestHasValue (catalog : FactorCatalog) (tenantId : Uuid) (gwpSet : GwpSet)
    (factorId : String) : Prop :=
  ∃ row ∈ candidates catalog tenantId factorId gwpSet, row.value.isSome = true ∧
    ∀ other ∈ candidates catalog tenantId factorId gwpSet, other.validFrom < row.validFrom ∨
      other.validFrom = row.validFrom ∧
        (candidates catalog tenantId factorId gwpSet).idxOf row ≤
          (candidates catalog tenantId factorId gwpSet).idxOf other

/-- Every referenced factor is found through the adapter as one of the available rows, and no run
on this catalog ends in a `MissingFactorError`. -/
def FactorsFound (catalog : FactorCatalog) (tenantId : Uuid) (gwp : GwpValues) : Prop :=
  (∀ factorId ∈ CalcOrchestrator.referencedFactorIds, ∃ row ∈ catalog.rows,
    row.Available tenantId factorId gwp.code ∧
      (sqlFactorCatalogAdapter catalog tenantId).get factorId gwp.code none =
        .ok (rowToFactorRecord row)) ∧
  ∀ inputs e, CalcOrchestrator.run (sqlFactorCatalogAdapter catalog tenantId) gwp inputs =
    .error e → e.isMissingFactor = false

variable {catalog : FactorCatalog} {tenantId : Uuid} {factorId : String} {gwpSet : GwpSet}

theorem mem_candidates {row : CatalogRow} :
    row ∈ candidates catalog tenantId factorId gwpSet ↔
      row ∈ catalog.rows ∧ row.Selected tenantId factorId gwpSet none := by
  rw [candidates, List.mem_filter, decide_eq_true_iff]

theorem CatalogRow.Selected.available {row : CatalogRow}
    (h : row.Selected tenantId factorId gwpSet none) (hvalue : row.value.isSome = true) :
    row.Available tenantId factorId gwpSet := by
  obtain ⟨htenant, hid, htag, hpublished, hvalid⟩ := h
  exact ⟨htenant, hid, hpublished, hvalid, hvalue, .inl htag⟩

theorem selectFactor_eq_some_iff {row : CatalogRow} :
    selectFactor catalog tenantId factorId gwpSet none = some row ↔
      row ∈ candidates catalog tenantId factorId gwpSet ∧
        ∀ other ∈ candidates catalog tenantId factorId gwpSet, other.validFrom < row.validFrom ∨
          other.validFrom = row.validFrom ∧
            (candidates catalog tenantId factorId gwpSet).idxOf row ≤
              (candidates catalog tenantId factorId gwpSet).idxOf other := by
  rw [selectFactor, ← candidates, List.argmax_eq_some_iff]
  constructor
  · rintro ⟨hmem, hmax, hfirst⟩
    refine ⟨hmem, fun other hother => ?_⟩
    rcases lt_or_eq_of_le (hmax other hother) with hlt | heq
    · exact .inl hlt
    · exact .inr ⟨heq, hfirst other hother heq.ge⟩
  · rintro ⟨hmem, hnewest⟩
    refine ⟨hmem, fun other hother => ?_, fun other hother hle => ?_⟩
    · rcases hnewest other hother with hlt | ⟨heq, -⟩
      · exact hlt.le
      · exact heq.le
    · rcases hnewest other hother with hlt | ⟨-, hfirst⟩
      · exact absurd hlt (not_lt.mpr hle)
      · exact hfirst

theorem fetch_eq_ok_iff {f : FactorRecord} :
    fetch catalog tenantId factorId gwpSet none = .ok f ↔
      ∃ row, selectFactor catalog tenantId factorId gwpSet none = some row ∧
        f = rowToFactorRecord row := by
  unfold fetch
  cases selectFactor catalog tenantId factorId gwpSet none with
  | none => simp
  | some row =>
      constructor
      · intro h
        cases h
        exact ⟨row, rfl, rfl⟩
      · rintro ⟨row', hrow, rfl⟩
        cases hrow
        rfl

/-- A factor with a value is obtained exactly when the newest exactly tagged row has one. -/
theorem requireFactor_succeeds_iff :
    (∃ f, requireFactor (sqlFactorCatalogAdapter catalog tenantId) factorId gwpSet = .ok f) ↔
      NewestHasValue catalog tenantId gwpSet factorId := by
  constructor
  · rintro ⟨f, hf⟩
    obtain ⟨hget, hvalue⟩ := requireFactor_eq_ok.mp hf
    obtain ⟨row, hrow, rfl⟩ := fetch_eq_ok_iff.mp hget
    obtain ⟨hmem, hnewest⟩ := selectFactor_eq_some_iff.mp hrow
    exact ⟨row, hmem, hvalue, hnewest⟩
  · rintro ⟨row, hmem, hvalue, hnewest⟩
    have hrow := selectFactor_eq_some_iff.mpr ⟨hmem, hnewest⟩
    exact ⟨rowToFactorRecord row,
      requireFactor_eq_ok.mpr ⟨fetch_eq_ok_iff.mpr ⟨row, hrow, rfl⟩, hvalue⟩⟩

/-- Runs whose lookups all succeed never end in a `MissingFactorError`. -/
theorem isMissingFactor_of_run {port : FactorCatalogPort} {gwp : GwpValues}
    (hfound : ∀ factorId ∈ CalcOrchestrator.referencedFactorIds,
      ∃ f, requireFactor port factorId gwp.code = .ok f)
    {inputs : CalcRunInputs} {e : CalcError}
    (h : CalcOrchestrator.run port gwp inputs = .error e) : e.isMissingFactor = false := by
  refine (CalcOrchestrator.outcome_run (E := fun e => e.isMissingFactor = false)
    ⟨fun _ he => he, ?_⟩ inputs).of_error h
  intro factorId hid e he
  obtain ⟨f, hf⟩ := hfound factorId hid
  rw [hf] at he
  cases he

/-- The factors are found, for every run on the catalog, exactly when for each of them the newest
published row tagged with the run's own GWP set carries a value. -/
theorem factors_found_iff (catalog : FactorCatalog) (tenantId : Uuid) (gwp : GwpValues) :
    FactorsFound catalog tenantId gwp ↔ ∀ factorId ∈ CalcOrchestrator.referencedFactorIds,
      NewestHasValue catalog tenantId gwp.code factorId := by
  constructor
  · rintro ⟨hlookup, -⟩ factorId hid
    obtain ⟨row, -, havailable, hget⟩ := hlookup factorId hid
    exact requireFactor_succeeds_iff.mp
      ⟨_, requireFactor_eq_ok.mpr ⟨hget, havailable.value⟩⟩
  · intro hnewest
    refine ⟨fun factorId hid => ?_, fun inputs e he => ?_⟩
    · obtain ⟨row, hmem, hvalue, hfirst⟩ := hnewest factorId hid
      obtain ⟨hrow, hselected⟩ := mem_candidates.mp hmem
      refine ⟨row, hrow, hselected.available hvalue, ?_⟩
      exact fetch_eq_ok_iff.mpr ⟨row, selectFactor_eq_some_iff.mpr ⟨hmem, hfirst⟩, rfl⟩
    · exact isMissingFactor_of_run
        (fun factorId hid => requireFactor_succeeds_iff.mpr (hnewest factorId hid)) he

/-- The seeded factors with their units and tags. The values are those the seed and the later
pinning migration give; a factor whose value is left to the licensee stands at one. -/
def seedFactors : List (String × String × GwpTag × ℚ) :=
  [("LB_IT_GRID_ISPRA_2024", "kg CO2 / kWh", .ar6, 216 / 1000),
    ("MB_IT_RESIDUAL_AIB_2024", "kg CO2e / kWh", .ar6, 441 / 1000),
    ("MB_GO_ZERO", "kg CO2e / kWh", .na, 0),
    ("COMB_GAS_NAT_CO2_DEFRA_2025", "kg CO2 / Sm3", .ar6, 1),
    ("COMB_GAS_NAT_CH4_DEFRA_2025", "kg CH4 / Sm3", .ar6, 1),
    ("COMB_GAS_NAT_N2O_DEFRA_2025", "kg N2O / Sm3", .ar6, 1),
    ("COMB_GASOLIO_CO2_DEFRA_2025", "kg CO2 / litre", .ar6, 1),
    ("COMB_GASOLIO_CH4_DEFRA_2025", "kg CH4 / litre", .ar6, 1),
    ("COMB_GASOLIO_N2O_DEFRA_2025", "kg N2O / litre", .ar6, 1),
    ("COMB_BENZINA_CO2_DEFRA_2025", "kg CO2 / litre", .ar6, 1),
    ("COMB_BENZINA_CH4_DEFRA_2025", "kg CH4 / litre", .ar6, 1),
    ("COMB_BENZINA_N2O_DEFRA_2025", "kg N2O / litre", .ar6, 1),
    ("STOICH_CACO3_IPCC_2006", "t CO2 / t CaCO3", .na, 4397 / 10000),
    ("WTT_GAS_NAT_DEFRA_2025", "kg CO2e / Sm3", .ar6, 46 / 100),
    ("WTT_GASOLIO_DEFRA_2025", "kg CO2e / litre", .ar6, 60 / 100),
    ("WTT_BENZINA_DEFRA_2025", "kg CO2e / litre", .ar6, 59 / 100),
    ("WTT_ELEC_DEFRA_2025", "kg CO2e / kWh", .ar6, 39 / 1000),
    ("TND_ELEC_IT_DEFRA_2025", "kg CO2e / kWh", .ar6, 1),
    ("FREIGHT_HGV_DEFRA_2025", "kg CO2e / tkm", .ar6, 1),
    ("FREIGHT_RAIL_DEFRA_2025", "kg CO2e / tkm", .ar6, 1),
    ("FREIGHT_SEA_DEFRA_2025", "kg CO2e / tkm", .ar6, 1),
    ("TRAVEL_SPEND_FLIGHTS_DEFRA_2025", "kg CO2e / GBP", .ar6, 1),
    ("TRAVEL_SPEND_HIRECAR_DEFRA_2025", "kg CO2e / GBP", .ar6, 1),
    ("TRAVEL_SPEND_HOTEL_DEFRA_2025", "kg CO2e / GBP", .ar6, 1),
    ("COMMUTE_CAR_DEFRA_2025", "kg CO2e / km", .ar6, 1),
    ("WASTE_LANDFILL_PERIC_DEFRA_2025", "kg CO2e / tonne", .ar6, 1),
    ("WASTE_LANDFILL_NONPERIC_DEFRA_2025", "kg CO2e / tonne", .ar6, 1),
    ("WASTE_RECYCLE_PERIC_DEFRA_2025", "kg CO2e / tonne", .ar6, 1),
    ("WASTE_RECYCLE_NONPERIC_DEFRA_2025", "kg CO2e / tonne", .ar6, 1),
    ("ECOINV_CLAY_V3_10", "kg CO2e / kg", .ar6, 1),
    ("ECOINV_FELDSPAR_V3_10", "kg CO2e / kg", .ar6, 1),
    ("ECOINV_SILICA_V3_10", "kg CO2e / kg", .ar6, 1),
    ("ECOINV_FRIT_V3_10", "kg CO2e / kg", .ar6, 1),
    ("ECOINV_PIGMENT_V3_10", "kg CO2e / kg", .ar6, 1),
    ("ECOINV_ADDITIVES_V3_10", "kg CO2e / kg", .ar6, 1),
    ("ECOINV_CARDBOARD_V3_10", "kg CO2e / kg", .ar6, 1),
    ("ECOINV_PALLET_V3_10", "kg CO2e / kg", .ar6, 1),
    ("ECOINV_LDPE_V3_10", "kg CO2e / kg", .ar6, 1),
    ("ECOINV_PP_V3_10", "kg CO2e / kg", .ar6, 1),
    ("EXIO_SERVICES_NACE_M", "kg CO2e / EUR", .ar6, 1),
    ("EXIO_MACHINERY_NACE_C28", "kg CO2e / EUR", .ar6, 1),
    ("EXIO_CONSUMABLES_NACE_C27", "kg CO2e / EUR", .ar6, 1),
    ("ECOINV_LANDFILL_INERT_V3_10", "kg CO2e / kg", .ar6, 1),
    ("ECOINV_CDW_RECYCLE_V3_10", "kg CO2e / kg", .ar6, 1)]

def seedRows : List CatalogRow :=
  seedFactors.zipIdx.map fun s => publishedRow (s.2 + 1) s.1.1 s.1.2.1 s.1.2.2.1 s.1.2.2.2

/-- The seed of the factor catalog, published. -/
def seedCatalog : FactorCatalog :=
  ⟨seedRows, by decide +kernel, by decide +kernel⟩

/-- On the published seed every factor is available to an AR6 run, yet the two neutral ones are
not found, and even a run without raw rows ends in a `MissingFactorError`. -/
theorem seed_neutral_factors_not_found :
    (∀ factorId ∈ CalcOrchestrator.referencedFactorIds, ∃ row ∈ seedCatalog.rows,
      row.Available 1 factorId .ar6) ∧
    (sqlFactorCatalogAdapter seedCatalog 1).get "STOICH_CACO3_IPCC_2006" .ar6 none =
      .error (.missingFactor "STOICH_CACO3_IPCC_2006" .ar6) ∧
    (sqlFactorCatalogAdapter seedCatalog 1).get "MB_GO_ZERO" .ar6 none =
      .error (.missingFactor "MB_GO_ZERO" .ar6) ∧
    ∃ inputs e, CalcOrchestrator.run (sqlFactorCatalogAdapter seedCatalog 1) gwpAr6 inputs =
      .error e ∧ e.isMissingFactor = true := by
  let inputs : CalcRunInputs :=
    { correlationId := .drawn 1, anno := 2024, sites := [], scope1Rows := [], scope2Rows := [],
      scope3Rows := [], calcTimestamp := 0 }
  have hrun : (CalcOrchestrator.run (sqlFactorCatalogAdapter seedCatalog 1) gwpAr6 inputs).map
      List.length = .error (.missingFactor "STOICH_CACO3_IPCC_2006" .ar6) := by
    decide +kernel
  exact ⟨by decide +kernel, by decide +kernel, by decide +kernel, inputs, _,
    eq_error_of_map hrun, rfl⟩

end GhgTool
