import GhgTool.CalcInput
import GhgTool.EmissionsTable
import GhgTool.ReadCommitted
import GhgTool.Runs

/-!
# `POST /calc/insert` with an idempotency key

Each request is one transaction of three steps, `check_idempotency`, `compute_and_insert` and
`store_response`, and a commit; requests of any number of tenants
interleave. `cache.idempotency_keys` has the key alone as primary key, and `store_response` uses
it with `ON CONFLICT (key) DO NOTHING`, while the lookup filters by key and tenant.

A digest of a request body is identified with the body it digests. The `uuid4` drawn for the
emission of request `n` is `firstId + n`, above every id in the ledger.
-/

namespace GhgTool

/-- One request as the endpoint receives it. -/
structure InsertCall where
  tenantId : Uuid
  sub : String
  idempotencyKey : Option String
  body : CalcInputRequest
  correlationId : CorrelationId

/-- A row of `cache.idempotency_keys`. -/
structure IdempotencyRow where
  key : String
  tenantId : Uuid
  requestHash : CalcInputRequest
  responseBody : CalcInsertResponse
  expiresAt : Timestamp

def IdempotencyRow.SameKey (c d : IdempotencyRow) : Prop :=
  c.key = d.key

instance : DecidableRel IdempotencyRow.SameKey :=
  fun c d => inferInstanceAs (Decidable (c.key = d.key))

instance : DecidableRel EmissionRow.Clash :=
  fun r s => inferInstanceAs (Decidable (r.id = s.id ∨ r.NaturalKeyClash s ∨ r.TemporalClash s))

inductive InsertAnswer
  | created (response : CalcInsertResponse)
  | replayed (response : CalcInsertResponse)
  | keyReused
  | calculationError (detail : String)
  | integrityError
  deriving DecidableEq

/-- The response of a request that answers 201 or 200. -/
def InsertAnswer.success : InsertAnswer → Option CalcInsertResponse
  | .created response => some response
  | .replayed response => some response
  | _ => none

inductive InsertPhase
  | received
  | checked
  | inserted (response : CalcInsertResponse)
  | stored (response : CalcInsertResponse)
  | answered (answer : InsertAnswer)
  | aborted
  deriving DecidableEq

/-- What does not change while requests are served. -/
structure InsertService where
  catalog : FactorCatalog
  computePreview : Uuid → CalcInputRequest → Except String CalcPreviewResponse
  calls : ℕ → InsertCall
  firstId : ℕ
  rawEntryId : ℕ → Uuid

structure InsertState where
  clock : Timestamp
  phase : ℕ → InsertPhase
  emissions : List (Version ℕ EmissionRow)
  idempotencyKeys : List (Version ℕ IdempotencyRow)

inductive InsertEvent
  | check (n : ℕ)
  | insert (n : ℕ)
  | store (n : ℕ)
  | commit (n : ℕ)
  | abort (n : ℕ)
  | tick (seconds : ℕ)
  deriving DecidableEq

def InsertEvent.request : InsertEvent → Option ℕ
  | .check n => some n
  | .insert n => some n
  | .store n => some n
  | .commit n => some n
  | .abort n => some n
  | .tick _ => none

/-- `_TTL_HOURS`, in seconds. -/
def idempotencyTtl : ℕ := 24 * 3600

/-- The `factor_id` of the new row: the newest row under the code of the factor, published or
not, and the nil UUID when there is none. -/
def resolveFactorUuid (catalog : FactorCatalog) (tenantId : Uuid) (code : String)
    (gwpSet : GwpSet) : Uuid :=
  (((catalog.rows.filter fun r => decide (r.tenantId = tenantId ∧ r.factorId = code ∧
    r.gwpSet = gwpSet.tag)).argmax CatalogRow.validFrom).map CatalogRow.id).getD nilUuid

namespace InsertService

variable (svc : InsertService)

def emissionId (n : ℕ) : Uuid :=
  svc.firstId + n

/-- The row `compute_and_insert` appends. -/
def emissionRow (n : ℕ) (preview : CalcPreviewResponse) (now : Timestamp) : EmissionRow where
  id := svc.emissionId n
  tenantId := (svc.calls n).tenantId
  correlationId := (svc.calls n).correlationId
  rawRowId := svc.rawEntryId n
  rawScope := (svc.calls n).body.scope
  scope := (svc.calls n).body.scope
  subScope := (svc.calls n).body.subScope.db
  codiceSito := (svc.calls n).body.codiceSito
  anno := (svc.calls n).body.anno
  tco2e := preview.tco2e
  co2Tonne := none
  ch4Tco2e := none
  n2oTco2e := none
  co2BiogenicTonne := preview.co2BiogenicTonne
  co2FossilTonne := preview.co2FossilTonne
  factorId := resolveFactorUuid svc.catalog (svc.calls n).tenantId preview.factorId
    (svc.calls n).body.gwpSet
  factorVersion := preview.factorVersion
  factorSource := preview.factorSource
  gwpSet := (svc.calls n).body.gwpSet
  methodology := preview.methodology
  regulatoryStream := .csrdEsrsE1
  calcTimestamp := now
  createdBy := "api:" ++ (svc.calls n).sub
  validFrom := now
  validTo := none
  supersededBy := none
  reasonCode := none

def insertResponse (n : ℕ) (preview : CalcPreviewResponse) (now : Timestamp) :
    CalcInsertResponse :=
  { preview with
    emissionId := svc.emissionId n
    correlationId := (svc.calls n).correlationId
    createdAt := now }

end InsertService

def InsertState.setPhase (s : InsertState) (n : ℕ) (phase : InsertPhase) : InsertState :=
  { s with phase := Function.update s.phase n phase }

theorem InsertState.setPhase_self (s : InsertState) (n : ℕ) (phase : InsertPhase) :
    (s.setPhase n phase).phase n = phase := by
  simp [InsertState.setPhase]

theorem InsertState.setPhase_of_ne (s : InsertState) {m n : ℕ} (h : m ≠ n) (phase : InsertPhase) :
    (s.setPhase n phase).phase m = s.phase m := by
  simp [InsertState.setPhase, h]

/-- The lookup of `check_idempotency`: committed rows under key and tenant that have not expired. -/
def lookupIdempotency (s : InsertState) (key : String) (tenantId : Uuid) :
    Option IdempotencyRow :=
  (s.idempotencyKeys.find? fun v => decide (v.owner = none ∧ v.row.key = key ∧
    v.row.tenantId = tenantId ∧ s.clock < v.row.expiresAt)).map Version.row

section Steps

variable (svc : InsertService) (n : ℕ) (s : InsertState)

def checkIdempotency : InsertState :=
  match (svc.calls n).idempotencyKey with
  | none => s.setPhase n .checked
  | some key =>
    match lookupIdempotency s key (svc.calls n).tenantId with
    | none => s.setPhase n .checked
    | some hit =>
      if hit.requestHash = (svc.calls n).body then
        s.setPhase n (.answered (.replayed hit.responseBody))
      else s.setPhase n (.answered .keyReused)

def computeAndInsert : InsertState :=
  match svc.computePreview (svc.calls n).tenantId (svc.calls n).body with
  | .error detail => s.setPhase n (.answered (.calculationError detail))
  | .ok preview =>
    let row := svc.emissionRow n preview s.clock
    if (2020 ≤ row.anno ∧ row.anno ≤ 2099) ∧ 0 ≤ row.tco2e then
      match insertVersion EmissionRow.Clash n row s.emissions with
      | .conflict => s.setPhase n (.answered .integrityError)
      | .blocked => s
      | .inserted emissions =>
        if row.factorId ∈ svc.catalog.ids then
          { s with emissions := emissions }.setPhase n
            (.inserted (svc.insertResponse n preview s.clock))
        else s.setPhase n (.answered .integrityError)
    else s.setPhase n (.answered .integrityError)

def storeResponse (response : CalcInsertResponse) : InsertState :=
  match (svc.calls n).idempotencyKey with
  | none => s.setPhase n (.stored response)
  | some key =>
    let row : IdempotencyRow := ⟨key, (svc.calls n).tenantId, (svc.calls n).body, response,
      s.clock + idempotencyTtl⟩
    match insertVersion IdempotencyRow.SameKey n row s.idempotencyKeys with
    | .conflict => s.setPhase n (.stored response)
    | .blocked => s
    | .inserted rows => { s with idempotencyKeys := rows }.setPhase n (.stored response)

def commitRequest (response : CalcInsertResponse) : InsertState :=
  { s with
    emissions := commitVersions n s.emissions
    idempotencyKeys := commitVersions n s.idempotencyKeys }.setPhase n
      (.answered (.created response))

def abortRequest : InsertState :=
  { s with
    emissions := rollbackVersions n s.emissions
    idempotencyKeys := rollbackVersions n s.idempotencyKeys }.setPhase n .aborted

end Steps

/-- One step. An event that does not fit the phase of its request does nothing, and neither does
a statement that has to wait. -/
def InsertService.step (svc : InsertService) (s : InsertState) : InsertEvent → InsertState
  | .check n =>
    match s.phase n with
    | .received => checkIdempotency svc n s
    | _ => s
  | .insert n =>
    match s.phase n with
    | .checked => computeAndInsert svc n s
    | _ => s
  | .store n =>
    match s.phase n with
    | .inserted response => storeResponse svc n s response
    | _ => s
  | .commit n =>
    match s.phase n with
    | .stored response => commitRequest n s response
    | _ => s
  | .abort n =>
    match s.phase n with
    | .answered _ => s
    | _ => abortRequest n s
  | .tick seconds => { s with clock := s.clock + seconds }

/-- No request has arrived yet; the ledger holds whatever it held, the cache nothing. -/
def InsertState.initial (t : EmissionsTable) (clock : Timestamp) : InsertState where
  clock := clock
  phase := fun _ => .received
  emissions := t.rows.map fun r => ⟨r, none⟩
  idempotencyKeys := []

end GhgTool
