import Mathlib.Data.List.MinMax
import GhgTool.EmissionRecord

/-!
# The factor catalog and its SQL adapter

`ref.factor_catalog` with its primary key and its `UNIQUE (tenant_id, factor_id, version,
gwp_set)`, and the two queries of `SqlFactorCatalogAdapter`. `ORDER BY valid_from DESC LIMIT 1`
leaves the choice among equally new rows open; here the first of them in the list is taken.
The adapter's cache only repeats what its query returned, so it is not part of the model.
-/

namespace GhgTool

structure CatalogRow where
  id : Uuid
  tenantId : Uuid
  factorId : String
  version : String
  source : String
  value : Option ℚ
  biogenicCo2KgPerUnit : Option ℚ
  unit : String
  gwpSet : GwpTag
  vintage : Option String
  validFrom : ℕ
  validTo : Option ℕ
  isPublished : Bool
  deriving DecidableEq

def CatalogRow.versionKey (r : CatalogRow) : Uuid × String × String × GwpTag :=
  (r.tenantId, r.factorId, r.version, r.gwpSet)

structure FactorCatalog where
  rows : List CatalogRow
  pk : (rows.map CatalogRow.id).Nodup
  version_unique : (rows.map CatalogRow.versionKey).Nodup

def FactorCatalog.ids (catalog : FactorCatalog) : List Uuid :=
  catalog.rows.map CatalogRow.id

/-- The `WHERE` clauses of `_SELECT_FACTOR` and `_SELECT_FACTOR_VINTAGE`. -/
def CatalogRow.Selected (tenantId : Uuid) (factorId : String) (gwpSet : GwpSet)
    (vintageYear : Option ℕ) (r : CatalogRow) : Prop :=
  r.tenantId = tenantId ∧ r.factorId = factorId ∧ r.gwpSet = gwpSet.tag ∧ r.isPublished = true ∧
    match vintageYear with
    | none => r.validTo = none
    | some year => r.vintage = some (toString year)

instance (tenantId : Uuid) (factorId : String) (gwpSet : GwpSet) (vintageYear : Option ℕ)
    (r : CatalogRow) : Decidable (r.Selected tenantId factorId gwpSet vintageYear) :=
  match vintageYear with
  | none => inferInstanceAs (Decidable (_ ∧ _ ∧ _ ∧ _ ∧ r.validTo = none))
  | some year => inferInstanceAs (Decidable (_ ∧ _ ∧ _ ∧ _ ∧ r.vintage = some (toString year)))

def selectFactor (catalog : FactorCatalog) (tenantId : Uuid) (factorId : String)
    (gwpSet : GwpSet) (vintageYear : Option ℕ) : Option CatalogRow :=
  (catalog.rows.filter fun r => decide (r.Selected tenantId factorId gwpSet vintageYear)).argmax
    CatalogRow.validFrom

def rowToFactorRecord (r : CatalogRow) : FactorRecord where
  factorId := r.factorId
  version := r.version
  value := r.value
  unit := r.unit
  source := r.source
  gwpSet := r.gwpSet
  biogenicCo2KgPerUnit := r.biogenicCo2KgPerUnit
  vintage := r.vintage
  factorDbId := some r.id

/-- `FactorCatalogPort`: all the calculation modules see of a catalog. -/
structure FactorCatalogPort where
  get : String → GwpSet → Option ℕ → Except CalcError FactorRecord
  getBiogenicShare : String → GwpSet → Option ℚ

def fetch (catalog : FactorCatalog) (tenantId : Uuid) (factorId : String) (gwpSet : GwpSet)
    (vintageYear : Option ℕ) : Except CalcError FactorRecord :=
  match selectFactor catalog tenantId factorId gwpSet vintageYear with
  | none => .error (.missingFactor factorId gwpSet)
  | some row => .ok (rowToFactorRecord row)

def sqlFactorCatalogAdapter (catalog : FactorCatalog) (tenantId : Uuid) : FactorCatalogPort where
  get := fetch catalog tenantId
  getBiogenicShare factorId gwpSet :=
    match fetch catalog tenantId factorId gwpSet none with
    | .error _ => none
    | .ok record => record.biogenicCo2KgPerUnit

def requireFactor (catalog : FactorCatalogPort) (factorId : String) (gwpSet : GwpSet) :
    Except CalcError FactorRecord := do
  let record ← catalog.get factorId gwpSet none
  match record.value with
  | none => throw (.noPinnedValue factorId gwpSet)
  | some _ => return record

theorem requireFactor_eq_ok {catalog : FactorCatalogPort} {factorId : String} {gwpSet : GwpSet}
    {f : FactorRecord} :
    requireFactor catalog factorId gwpSet = .ok f ↔
      catalog.get factorId gwpSet none = .ok f ∧ f.value.isSome := by
  rw [requireFactor, bind_eq_ok]
  constructor
  · rintro ⟨record, hget, hvalue⟩
    split at hvalue
    · exact absurd hvalue (by simp [throw, throwThe, MonadExceptOf.throw])
    · rename_i v hv
      obtain rfl : record = f := by simpa [pure, Except.pure] using hvalue
      exact ⟨hget, by simp [hv]⟩
  · rintro ⟨hget, hvalue⟩
    obtain ⟨v, hv⟩ := Option.isSome_iff_exists.mp hvalue
    exact ⟨f, hget, by simp [hv, pure, Except.pure]⟩

theorem factorDbId_of_fetch {catalog : FactorCatalog} {tenantId : Uuid} {factorId : String}
    {gwpSet : GwpSet} {vintageYear : Option ℕ} {f : FactorRecord}
    (h : fetch catalog tenantId factorId gwpSet vintageYear = .ok f) :
    ∃ row ∈ catalog.rows, row.Selected tenantId factorId gwpSet vintageYear ∧
      f = rowToFactorRecord row := by
  unfold fetch at h
  split at h
  · cases h
  · rename_i row hrow
    have hmem := List.argmax_mem hrow
    rw [List.mem_filter] at hmem
    exact ⟨row, hmem.1, by simpa using hmem.2, by cases h; rfl⟩

/-- A published and valid row of tenant 1 that carries a value. -/
def publishedRow (id : Uuid) (factorId unit : String) (gwpSet : GwpTag) (value : ℚ) :
    CatalogRow where
  id := id
  tenantId := 1
  factorId := factorId
  version := "2025"
  source := "DEFRA"
  value := some value
  biogenicCo2KgPerUnit := none
  unit := unit
  gwpSet := gwpSet
  vintage := some "2025"
  validFrom := 0
  validTo := none
  isPublished := true

end GhgTool
