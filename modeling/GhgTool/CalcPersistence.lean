import GhgTool.EmissionsTable
import GhgTool.CalcOrchestrator

/-!
# Running a calculation and persisting its records

The three raw tables, the catalog, the ledger and `ops.calc_runs` as one database; the loaders
and the two persistence transactions over it. A transaction that fails leaves the database as it
was, since its result is then an error and no state. `uuid4` draws are ids not yet in use.
-/

namespace GhgTool

/-- A row of `ops.calc_runs`. -/
structure CalcRun where
  id : Uuid
  tenantId : Uuid
  correlationId : CorrelationId
  anno : ℕ
  emissionsWritten : ℕ
  gwpSet : GwpSet
  regulatoryStream : RegulatoryStream
  createdBy : String
  dualRunId : Option Uuid
  deriving DecidableEq

structure Database where
  catalog : FactorCatalog
  scope1 : List RawScope1Row
  scope2 : List RawScope2Row
  scope3 : List RawScope3Row
  emissions : EmissionsTable
  calcRuns : List CalcRun
  clock : Timestamp

/-- An `INSERT` into `ops.calc_runs`. The foreign key of `dual_run_id` is not deferrable, so the
statement itself checks it against the rows already there. -/
def insertCalcRun (runs : List CalcRun) (r : CalcRun) : Except Violation (List CalcRun) :=
  if r.id ∈ runs.map CalcRun.id then .error .calcRunsPkey
  else if r.dualRunId = some r.id then .error .ckCalcRunsNoSelfDual
  else if ∀ i ∈ r.dualRunId, i ∈ runs.map CalcRun.id then .ok (runs ++ [r])
  else .error .fkCalcRunsDualRunId

/-- `ops.enforce_dual_run_reciprocity`, fired for an inserted row when its transaction commits. -/
def enforceDualRunReciprocity (runs : List CalcRun) (r : CalcRun) : Except Violation Unit :=
  match r.dualRunId with
  | none => .ok ()
  | some i =>
    match runs.find? fun p => p.id == i with
    | none => .error .dualRunReciprocity
    | some paired =>
      if paired.tenantId = r.tenantId ∧ paired.anno = r.anno ∧
          paired.regulatoryStream ≠ r.regulatoryStream ∧ ∀ j ∈ paired.dualRunId, j = r.id then
        .ok ()
      else .error .dualRunReciprocity

def freshRunId (runs : List CalcRun) : Uuid :=
  (runs.map CalcRun.id).foldr (fun i m => max (i + 1) m) 1

theorem lt_freshRunId {runs : List CalcRun} {i : ℕ} (h : i ∈ runs.map CalcRun.id) :
    i < freshRunId runs :=
  lt_foldr_max (fun j => j) h

theorem freshRunId_notMem (runs : List CalcRun) : freshRunId runs ∉ runs.map CalcRun.id :=
  fun h => lt_irrefl _ (lt_freshRunId h)

/-- What `_load_raw_rows` returns. -/
structure RawRows where
  scope1 : List RawScope1Row
  scope2 : List RawScope2Row
  scope3 : List RawScope3Row
  sites : List String

def loadRawRows (db : Database) (tenantId : Uuid) (anno : ℕ) : RawRows :=
  let scope1 := db.scope1.filter fun r => r.tenantId == tenantId && r.anno == anno
  { scope1 := scope1
    scope2 := db.scope2.filter fun r => r.tenantId == tenantId && r.anno == anno
    scope3 := db.scope3.filter fun r => r.tenantId == tenantId && r.anno == anno
    sites := (scope1.map RawScope1Row.codiceSito).dedup }

def emissionToParams (tenantId : Uuid) (now : Timestamp) (id : Uuid) (record : EmissionRecord) :
    EmissionRow where
  id := id
  tenantId := tenantId
  correlationId := record.correlationId
  rawRowId := record.rawRowId.getD nilUuid
  rawScope := record.scope
  scope := record.scope
  subScope := record.subScope
  codiceSito := record.codiceSito
  anno := record.anno
  tco2e := record.tco2e
  co2Tonne := record.co2Tonne
  ch4Tco2e := record.ch4Tco2e
  n2oTco2e := record.n2oTco2e
  co2BiogenicTonne := record.co2BiogenicTonne
  co2FossilTonne := record.co2FossilTonne
  factorId := record.factorIdUuid.getD nilUuid
  factorVersion := record.factorVersion
  factorSource := record.factorSource
  gwpSet := record.gwpSet
  methodology := record.methodology
  regulatoryStream := record.regulatoryStream
  calcTimestamp := record.calcTimestamp
  createdBy := record.createdBy
  validFrom := now
  validTo := none
  supersededBy := none
  reasonCode := none

/-- `param_list`, the ids drawn upwards from an unused one. -/
def emissionParams (tenantId : Uuid) (now : Timestamp) : Uuid → List EmissionRecord →
    List EmissionRow
  | _, [] => []
  | id, record :: records =>
    emissionToParams tenantId now id record :: emissionParams tenantId now (id + 1) records

def insertEmissions (db : Database) (tenantId : Uuid) (t : EmissionsTable)
    (records : List EmissionRecord) : Except Violation EmissionsTable :=
  (emissionParams tenantId db.clock t.freshId records).foldlM
    (EmissionsTable.insert db.catalog) t

/-- The parameters of one calculation run. -/
structure RunSpec where
  tenantId : Uuid
  anno : ℕ
  correlationId : CorrelationId
  gwpSet : GwpSet := .ar6
  regulatoryStream : RegulatoryStream := .csrdEsrsE1
  createdBy : String := "calc_service"
  deriving DecidableEq

/-- The `ops.calc_runs` row of a run. -/
def calcRunRow (spec : RunSpec) (id : Uuid) (dualRunId : Option Uuid)
    (records : List EmissionRecord) : CalcRun where
  id := id
  tenantId := spec.tenantId
  correlationId := spec.correlationId
  anno := spec.anno
  emissionsWritten := records.length
  gwpSet := spec.gwpSet
  regulatoryStream := spec.regulatoryStream
  createdBy := spec.createdBy
  dualRunId := dualRunId

def persistEmissions (db : Database) (spec : RunSpec) (records : List EmissionRecord) :
    Except Violation Database := do
  let emissions ← insertEmissions db spec.tenantId db.emissions records
  let run := calcRunRow spec (freshRunId db.calcRuns) none records
  let calcRuns ← insertCalcRun db.calcRuns run
  enforceDualRunReciprocity calcRuns run
  return { db with emissions := emissions, calcRuns := calcRuns }

/-- Both record lists, then both `ops.calc_runs` rows with reciprocal `dual_run_id`. -/
def persistDualTrackEmissions (db : Database) (csrd ets : RunSpec)
    (csrdRecords etsRecords : List EmissionRecord) : Except Violation Database := do
  let emissions ← insertEmissions db csrd.tenantId db.emissions csrdRecords
  let emissions ← insertEmissions db ets.tenantId emissions etsRecords
  let csrdRunId := freshRunId db.calcRuns
  let etsRunId := csrdRunId + 1
  let csrdRun := calcRunRow csrd csrdRunId (some etsRunId) csrdRecords
  let etsRun := calcRunRow ets etsRunId (some csrdRunId) etsRecords
  let calcRuns ← insertCalcRun db.calcRuns csrdRun
  let calcRuns ← insertCalcRun calcRuns etsRun
  enforceDualRunReciprocity calcRuns csrdRun
  enforceDualRunReciprocity calcRuns etsRun
  return { db with emissions := emissions, calcRuns := calcRuns }

inductive RunError
  | calc (e : CalcError)
  | db (v : Violation)
  deriving DecidableEq

def runInputs (db : Database) (spec : RunSpec) : CalcRunInputs :=
  let raw := loadRawRows db spec.tenantId spec.anno
  { correlationId := spec.correlationId, anno := spec.anno, sites := raw.sites
    scope1Rows := raw.scope1, scope2Rows := raw.scope2, scope3Rows := raw.scope3
    createdBy := spec.createdBy, regulatoryStream := spec.regulatoryStream
    calcTimestamp := db.clock }

/-- The orchestrator as a run wires it: the tenant's catalog and the set's GWP table. -/
def orchestrate (db : Database) (spec : RunSpec) : Except CalcError (List EmissionRecord) :=
  CalcOrchestrator.run (sqlFactorCatalogAdapter db.catalog spec.tenantId)
    (getGwpValues spec.gwpSet) (runInputs db spec)

def runCalcAndPersist (db : Database) (spec : RunSpec) : Except RunError Database :=
  match orchestrate db spec with
  | .error e => .error (.calc e)
  | .ok records =>
    match persistEmissions db spec records with
    | .error v => .error (.db v)
    | .ok db' => .ok db'

def csrdTrack (tenantId : Uuid) (anno : ℕ) (correlationId : CorrelationId) : RunSpec :=
  { tenantId := tenantId, anno := anno, correlationId := correlationId }

def etsTrack (tenantId : Uuid) (anno : ℕ) (correlationId : CorrelationId) : RunSpec :=
  { tenantId := tenantId, anno := anno, correlationId := correlationId, gwpSet := .ar5
    regulatoryStream := .euEtsPhaseIv }

def runDualTrackAndPersist (db : Database) (tenantId : Uuid) (anno : ℕ)
    (correlationId : CorrelationId) : Except RunError Database :=
  let csrd := csrdTrack tenantId anno correlationId
  let ets := etsTrack tenantId anno correlationId
  match orchestrate db csrd with
  | .error e => .error (.calc e)
  | .ok csrdRecords =>
    match orchestrate db ets with
    | .error e => .error (.calc e)
    | .ok etsRecords =>
      match persistDualTrackEmissions db csrd ets csrdRecords etsRecords with
      | .error v => .error (.db v)
      | .ok db' => .ok db'

end GhgTool
