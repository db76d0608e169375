import GhgTool.AuthState
import GhgTool.FactorCatalog
import GhgTool.KeyedRows
import GhgTool.ReadCommitted
import GhgTool.Runs
import Mathlib.Logic.Function.Basic

/-!
# Publishing factors, statement by statement

`create_factor`, `patch_factor`, `publish` of the `FactorPublishService` and `reject_approval`, each one
transaction, interleaved statement by statement. A reader sees what is committed and never waits; an
`UPDATE` takes the row lock and then sees the latest committed row; the triggers refuse to change
a published factor or a decided approval; an insertion that clashes with a row another open
transaction has inserted or locked waits for that transaction.
-/

namespace GhgTool

open Function (update)

/-! ## The two tables -/

/-- A row of `ref.factor_catalog`, with the columns of the publication workflow. -/
structure FactorRow extends CatalogRow where
  isLicenceOnly : Bool
  isTbc : Bool
  applicabilityNote : Option String
  pdfSourceUri : Option String
  createdBy : Option Uuid
  publishedBy : Option Uuid
  deriving DecidableEq

inductive Decision where
  | pending
  | approved
  | rejected
  deriving DecidableEq, Repr

inductive PublishReasonCode where
  | initialPublication
  | versionBump
  | methodologyUpdate
  | sourceRevision
  | correctionReplacement
  deriving DecidableEq, Repr

/-- A row of `calc.factor_publish_approvals`. -/
structure Approval where
  id : Uuid
  tenantId : Uuid
  factorId : Uuid
  proposedBy : Uuid
  approvedBy : Option Uuid
  decision : Decision
  decisionNotes : Option String
  reasonCode : PublishReasonCode
  deriving DecidableEq

/-- `UNIQUE (tenant_id, factor_id, version, gwp_set)` and the primary key. -/
def FactorRow.Clash (r r' : FactorRow) : Prop :=
  r.id = r'.id ∨ r.versionKey = r'.versionKey

/-- `uq_fpa_tenant_factor_pending` and the primary key. -/
def Approval.Clash (a a' : Approval) : Prop :=
  a.id = a'.id ∨ (a.decision = .pending ∧ a'.decision = .pending ∧ a.tenantId = a'.tenantId ∧
    a.factorId = a'.factorId)

instance : DecidableRel FactorRow.Clash :=
  fun _ _ => inferInstanceAs (Decidable (_ ∨ _))

instance : DecidableRel Approval.Clash :=
  fun _ _ => inferInstanceAs (Decidable (_ ∨ _))

/-- What a publication is about: value, unit, vintage, biogenic share and validity date. -/
structure FactorContent where
  value : Option ℚ
  unit : String
  vintage : Option String
  biogenicCo2KgPerUnit : Option ℚ
  validFrom : ℕ
  deriving DecidableEq

def FactorRow.content (r : FactorRow) : FactorContent :=
  ⟨r.value, r.unit, r.vintage, r.biogenicCo2KgPerUnit, r.validFrom⟩

/-! ## Requests -/

structure UserContext where
  sub : Uuid
  role : RoleCode
  tenantId : Uuid
  deriving DecidableEq

structure FactorCatalogCreate where
  factorId : String
  version : String
  source : String
  value : Option ℚ
  isLicenceOnly : Bool
  unit : String
  gwpSet : GwpTag
  vintage : Option String
  validFrom : ℕ
  applicabilityNote : Option String
  pdfSourceUri : Option String
  biogenicCo2KgPerUnit : Option ℚ
  value_nonneg : ∀ v ∈ value, 0 ≤ v
  biogenic_nonneg : ∀ v ∈ biogenicCo2KgPerUnit, 0 ≤ v

/-- `FactorCatalogUpdate`: a field is unset, null or a value. -/
structure FactorCatalogUpdate where
  value : Option (Option ℚ) := none
  unit : Option (Option String) := none
  applicabilityNote : Option (Option String) := none
  pdfSourceUri : Option (Option String) := none
  biogenicCo2KgPerUnit : Option (Option ℚ) := none
  isLicenceOnly : Option (Option Bool) := none
  isTbc : Option (Option Bool) := none
  vintage : Option (Option String) := none
  validFrom : Option (Option ℕ) := none
  deriving DecidableEq

inductive FactorRequest where
  | create (body : FactorCatalogCreate)
  | patch (factorUuid : Uuid) (body : FactorCatalogUpdate)
  | publish (factorUuid : Uuid) (reasonCode : PublishReasonCode)
  | reject (approvalUuid : Uuid) (rejectionReason : String)

/-- The actions on `factor_catalog` in `PERMISSION_MATRIX`. -/
inductive FactorAction where
  | write
  | publish
  | approve
  deriving DecidableEq, Repr

def FactorAction.code : FactorAction → String
  | write => "write"
  | publish => "publish"
  | approve => "approve"

/-- The one role that may perform the action. -/
def FactorAction.role : FactorAction → RoleCode
  | write => .editor
  | publish => .admin
  | approve => .admin

def FactorRequest.action : FactorRequest → FactorAction
  | create _ => .write
  | patch .. => .write
  | publish .. => .publish
  | reject .. => .approve

structure FactorCall where
  user : UserContext
  request : FactorRequest

/-- What a request answers; a publication and a rejection name the approval they decided, as the audit
row does. -/
inductive FactorReply where
  | created (factorUuid : Uuid)
  | updated (factorUuid : Uuid)
  | approvalRequested (approvalId : Uuid)
  | published (approvalId : Uuid)
  | rejected (approvalId : Uuid)
  deriving DecidableEq, Repr

/-! ## Checks and writes -/

def factorNotFound (factorUuid : Uuid) : Problem :=
  ⟨404, "Factor " ++ toString factorUuid ++ " not found."⟩

def FactorRow.name (r : FactorRow) : String :=
  "Factor " ++ r.factorId ++ "/" ++ r.version

def alreadyPublished (r : FactorRow) : Problem :=
  ⟨409, r.name ++ " is already published and immutable. No action taken."⟩

def tbcFactor (r : FactorRow) : Problem :=
  ⟨422, r.name ++ " is marked as TBC (to-be-confirmed). Pin the numeric value before publishing."⟩

def nullValue (r : FactorRow) : Problem :=
  ⟨422, r.name ++ " has a NULL value but is_licence_only=False. Set a numeric value or mark as " ++
    "is_licence_only before publishing."⟩

def selfApprovalForbidden : Problem :=
  ⟨409, "The same admin who proposed the approval cannot also approve it (ISAE 3000 two-eyes " ++
    "principle)."⟩

def selfApprovalCreator : Problem :=
  ⟨409, "The factor creator cannot also approve publication (ISAE 3000)."⟩

def publishRaceConflict (r : FactorRow) : Problem :=
  ⟨409, r.name ++ " was published by another user concurrently. No action taken."⟩

def factorAlreadyPublished (r : FactorRow) : Problem :=
  ⟨422, r.name ++ " is already published and immutable per ADR-007. Use the correction workflow " ++
    "instead."⟩

def approvalNotFound (approvalUuid : Uuid) : Problem :=
  ⟨404, "Approval " ++ toString approvalUuid ++ " not found."⟩

def Decision.text : Decision → String
  | pending => "PENDING"
  | approved => "APPROVED"
  | rejected => "REJECTED"

def approvalNotPending (a : Approval) : Problem :=
  ⟨409, "Approval " ++ toString a.id ++ " is already " ++ a.decision.text ++
    " and cannot be rejected."⟩

/-- An error the database raises and no handler maps. -/
def databaseError : Problem := ⟨500, "Internal Server Error"⟩

/-- `require_permission("factor_catalog", action)`. -/
def requireFactorPermission (user : UserContext) (action : FactorAction) : Except Problem Unit :=
  if user.role = action.role then .ok ()
  else
    .error ⟨403, "Role '" ++ user.role.code ++ "' cannot perform '" ++ action.code ++
      "' on 'factor_catalog'."⟩

def assertPublishable (r : FactorRow) : Except Problem Unit :=
  if r.isTbc then .error (tbcFactor r)
  else if r.value.isNone && !r.isLicenceOnly then .error (nullValue r)
  else .ok ()

/-- The row `create_factor` builds. -/
def newFactor (user : UserContext) (id : Uuid) (body : FactorCatalogCreate) : FactorRow where
  id := id
  tenantId := user.tenantId
  factorId := body.factorId
  version := body.version
  source := body.source
  value := body.value
  biogenicCo2KgPerUnit := body.biogenicCo2KgPerUnit
  unit := body.unit
  gwpSet := body.gwpSet
  vintage := body.vintage
  validFrom := body.validFrom
  validTo := none
  isPublished := false
  isLicenceOnly := body.isLicenceOnly
  isTbc := false
  applicabilityNote := body.applicabilityNote
  pdfSourceUri := body.pdfSourceUri
  createdBy := some user.sub
  publishedBy := none

def newApproval (user : UserContext) (id factorId : Uuid) (reasonCode : PublishReasonCode) :
    Approval where
  id := id
  tenantId := user.tenantId
  factorId := factorId
  proposedBy := user.sub
  approvedBy := none
  decision := .pending
  decisionNotes := none
  reasonCode := reasonCode

namespace FactorCatalogUpdate

variable (body : FactorCatalogUpdate) (r : FactorRow)

/-- The fields that differ from the row read; the unit of work writes no others. -/
def against : FactorCatalogUpdate where
  value := body.value.filter fun v => v ≠ r.value
  unit := body.unit.filter fun v => v ≠ some r.unit
  applicabilityNote := body.applicabilityNote.filter fun v => v ≠ r.applicabilityNote
  pdfSourceUri := body.pdfSourceUri.filter fun v => v ≠ r.pdfSourceUri
  biogenicCo2KgPerUnit := body.biogenicCo2KgPerUnit.filter fun v => v ≠ r.biogenicCo2KgPerUnit
  isLicenceOnly := body.isLicenceOnly.filter fun v => v ≠ some r.isLicenceOnly
  isTbc := body.isTbc.filter fun v => v ≠ some r.isTbc
  vintage := body.vintage.filter fun v => v ≠ r.vintage
  validFrom := body.validFrom.filter fun v => v ≠ some r.validFrom

/-- A `NOT NULL` column is set to null. -/
def violatesNotNull : Bool :=
  body.unit == some none || body.isLicenceOnly == some none || body.isTbc == some none ||
    body.validFrom == some none

def apply : FactorRow :=
  { r with
    value := body.value.getD r.value
    unit := (body.unit.getD none).getD r.unit
    applicabilityNote := body.applicabilityNote.getD r.applicabilityNote
    pdfSourceUri := body.pdfSourceUri.getD r.pdfSourceUri
    biogenicCo2KgPerUnit := body.biogenicCo2KgPerUnit.getD r.biogenicCo2KgPerUnit
    isLicenceOnly := (body.isLicenceOnly.getD none).getD r.isLicenceOnly
    isTbc := (body.isTbc.getD none).getD r.isTbc
    vintage := body.vintage.getD r.vintage
    validFrom := (body.validFrom.getD none).getD r.validFrom }

end FactorCatalogUpdate

def FactorRow.publish (user : UserContext) (r : FactorRow) : FactorRow :=
  { r with isPublished := true, publishedBy := some user.sub }

def Approval.approve (user : UserContext) (a : Approval) : Approval :=
  { a with decision := .approved, approvedBy := some user.sub }

def Approval.reject (user : UserContext) (rejectionReason : String) (a : Approval) : Approval :=
  { a with
    decision := .rejected
    approvedBy := some user.sub
    decisionNotes := some rejectionReason }

/-! ## The interleaving -/

/-- How far a request has come, with what it has read. -/
inductive FactorPhase where
  | received
  /-- The new factor is inserted. -/
  | created (row : FactorRow)
  /-- The draft is read, with the fields to write. -/
  | drafted (factorUuid : Uuid) (changes : FactorCatalogUpdate)
  /-- The draft is updated. -/
  | patched (factorUuid : Uuid) (changes : FactorCatalogUpdate)
  /-- The factor to publish is read and publishable. -/
  | fetched (factor : FactorRow) (reasonCode : PublishReasonCode)
  /-- No pending approval was found. -/
  | unproposed (factor : FactorRow) (reasonCode : PublishReasonCode)
  /-- The proposal is inserted. -/
  | proposed (approval : Approval)
  /-- The pending approval is read and may be approved by this user. -/
  | approving (factor : FactorRow) (approval : Approval)
  /-- The factor is updated. -/
  | publishing (factor : FactorRow) (approval : Approval)
  /-- The factor and the approval are updated. -/
  | approved (factor : FactorRow) (approval : Approval)
  /-- The approval to reject is read and pending. -/
  | undecided (approval : Approval) (rejectionReason : String)
  /-- The approval is updated. -/
  | rejected (approval : Approval) (rejectionReason : String)
  | answered (reply : Except Problem FactorReply)
  deriving DecidableEq

/-- `factors` and `approvals` hold what is committed; the rows inserted by open transactions stand
beside them. `proposedContent` is history: the content of the factor when each proposal was inserted. -/
structure FactorState where
  factors : List FactorRow
  newFactors : List (ℕ × FactorRow) := []
  approvals : List Approval := []
  newApprovals : List (ℕ × Approval) := []
  factorLock : Uuid → Option ℕ := fun _ => none
  approvalLock : Uuid → Option ℕ := fun _ => none
  phase : ℕ → FactorPhase := fun _ => .received
  nextUuid : Uuid
  proposedContent : List (Uuid × FactorContent) := []

inductive FactorEvent where
  /-- The next statement of a request. -/
  | advance (n : ℕ)
  /-- The request fails at the point it has come to. -/
  | abort (n : ℕ)
  deriving DecidableEq

namespace FactorState

variable (calls : ℕ → FactorCall) (s : FactorState) (n : ℕ)

def factorById (factorUuid : Uuid) : Option FactorRow :=
  findRow (fun r : FactorRow => r.id) factorUuid s.factors

def approvalById (approvalUuid : Uuid) : Option Approval :=
  findRow Approval.id approvalUuid s.approvals

/-- `get_by_uuid`, scoped to the tenant. -/
def getByUuid (tenantId factorUuid : Uuid) : Option FactorRow :=
  (s.factorById factorUuid).filter fun r => r.tenantId = tenantId

def pendingApprovals (tenantId factorUuid : Uuid) : List Approval :=
  s.approvals.filter fun a =>
    a.factorId = factorUuid ∧ a.tenantId = tenantId ∧ a.decision = .pending

/-- The rows an insertion can clash with; a row that a transaction has locked counts as its own. -/
def factorVersions : List (Version ℕ FactorRow) :=
  s.factors.map (fun r => ⟨r, s.factorLock r.id⟩) ++ s.newFactors.map fun e => ⟨e.2, some e.1⟩

def approvalVersions : List (Version ℕ Approval) :=
  s.approvals.map (fun a => ⟨a, s.approvalLock a.id⟩) ++
    s.newApprovals.map fun e => ⟨e.2, some e.1⟩

def enter (phase : FactorPhase) : FactorState :=
  { s with phase := update s.phase n phase }

/-- The end of a transaction: its locks and its own insertions are gone, and the request is
answered. -/
def finish (reply : Except Problem FactorReply) : FactorState :=
  { s with
    newFactors := s.newFactors.filter fun e => e.1 ≠ n
    newApprovals := s.newApprovals.filter fun e => e.1 ≠ n
    factorLock := fun i => if s.factorLock i = some n then none else s.factorLock i
    approvalLock := fun i => if s.approvalLock i = some n then none else s.approvalLock i
    phase := update s.phase n (.answered reply) }

theorem finish_phase_self (reply : Except Problem FactorReply) :
    (s.finish n reply).phase n = .answered reply :=
  Function.update_self _ _ _

theorem finish_phase_of_ne {m : ℕ} (hm : m ≠ n) (reply : Except Problem FactorReply) :
    (s.finish n reply).phase m = s.phase m :=
  Function.update_of_ne hm _ _

def fail (problem : Problem) : FactorState :=
  s.finish n (.error problem)

/-- The permission check and the first statement of each endpoint. -/
def receive : FactorState :=
  let user := (calls n).user
  match requireFactorPermission user (calls n).request.action with
  | .error problem => s.fail n problem
  | .ok () =>
      match (calls n).request with
      | .create body =>
          let row := newFactor user s.nextUuid body
          match insertVersion FactorRow.Clash n row s.factorVersions with
          | .conflict => s.fail n databaseError
          | .blocked => s
          | .inserted _ =>
              { s with newFactors := s.newFactors ++ [(n, row)], nextUuid := s.nextUuid + 1 }.enter n
                (.created row)
      | .patch factorUuid body =>
          match s.getByUuid user.tenantId factorUuid with
          | none => s.fail n (factorNotFound factorUuid)
          | some r =>
              if r.isPublished then s.fail n (factorAlreadyPublished r)
              -- nothing to flush
              else if body.against r = {} then s.finish n (.ok (.updated r.id))
              else s.enter n (.drafted r.id (body.against r))
      | .publish factorUuid reasonCode =>
          match s.getByUuid user.tenantId factorUuid with
          | none => s.fail n (factorNotFound factorUuid)
          | some r =>
              if r.isPublished then s.fail n (alreadyPublished r)
              else
                match assertPublishable r with
                | .error problem => s.fail n problem
                | .ok () => s.enter n (.fetched r reasonCode)
      | .reject approvalUuid rejectionReason =>
          match (s.approvalById approvalUuid).filter fun a => a.tenantId = user.tenantId with
          | none => s.fail n (approvalNotFound approvalUuid)
          | some a =>
              if a.decision ≠ .pending then s.fail n (approvalNotPending a)
              else s.enter n (.undecided a rejectionReason)

/-- The `SELECT` for a pending approval and the checks on what it returns. -/
def branch (factor : FactorRow) (reasonCode : PublishReasonCode) : FactorState :=
  let user := (calls n).user
  match s.pendingApprovals user.tenantId factor.id with
  | [] => s.enter n (.unproposed factor reasonCode)
  | [a] =>
      if a.proposedBy = user.sub then s.fail n selfApprovalForbidden
      else if factor.createdBy = some user.sub then s.fail n selfApprovalCreator
      else s.enter n (.approving factor a)
  -- `scalar_one_or_none` raises on several rows
  | _ => s.fail n databaseError

/-- The `INSERT` of a proposal. -/
def propose (factor : FactorRow) (reasonCode : PublishReasonCode) : FactorState :=
  let a := newApproval (calls n).user s.nextUuid factor.id reasonCode
  match insertVersion Approval.Clash n a s.approvalVersions with
  | .conflict => s.fail n databaseError
  | .blocked => s
  | .inserted _ =>
      { s with
        newApprovals := s.newApprovals ++ [(n, a)]
        nextUuid := s.nextUuid + 1
        proposedContent :=
          (a.id, ((s.factorById factor.id).getD factor).content) :: s.proposedContent }.enter n
        (.proposed a)

/-- The `UPDATE` of a draft. -/
def patch (factorUuid : Uuid) (changes : FactorCatalogUpdate) : FactorState :=
  -- the statement waits while another transaction holds the row
  if (s.factorLock factorUuid).isSome then s
  else if changes.violatesNotNull then s.fail n databaseError
  else
    match s.factorById factorUuid with
    | none => s.fail n databaseError
    | some r =>
        -- `ops.deny_factor_mutation`
        if r.isPublished then s.fail n databaseError
        else
          { s with factorLock := update s.factorLock factorUuid (some n) }.enter n
            (.patched factorUuid changes)

/-- The conditional `UPDATE` of the factor in `_do_publish`. -/
def publishFactor (factor : FactorRow) (approval : Approval) : FactorState :=
  if (s.factorLock factor.id).isSome then s
  else
    match s.getByUuid (calls n).user.tenantId factor.id with
    | none => s.fail n (publishRaceConflict factor)
    | some r =>
        if r.isPublished then s.fail n (publishRaceConflict factor)
        else
          { s with factorLock := update s.factorLock factor.id (some n) }.enter n
            (.publishing factor approval)

/-- The `UPDATE` of an approval, under `trg_fpa_deny_mutation` and `chk_no_self_approval`. -/
def decide (approval : Approval) (next : FactorPhase) : FactorState :=
  if (s.approvalLock approval.id).isSome then s
  else
    match s.approvalById approval.id with
    | none => s.fail n databaseError
    | some a =>
        if a.decision ≠ .pending then s.fail n databaseError
        else if a.proposedBy = (calls n).user.sub then s.fail n databaseError
        else { s with approvalLock := update s.approvalLock approval.id (some n) }.enter n next

def advance : FactorState :=
  let user := (calls n).user
  match s.phase n with
  | .received => s.receive calls n
  | .created row => { s with factors := s.factors ++ [row] }.finish n (.ok (.created row.id))
  | .drafted factorUuid changes => s.patch n factorUuid changes
  | .patched factorUuid changes =>
      { s with factors := updateRow (fun r : FactorRow => r.id) factorUuid changes.apply s.factors }.finish n
        (.ok (.updated factorUuid))
  | .fetched factor reasonCode => s.branch calls n factor reasonCode
  | .unproposed factor reasonCode => s.propose calls n factor reasonCode
  | .proposed approval =>
      { s with approvals := s.approvals ++ [approval] }.finish n
        (.ok (.approvalRequested approval.id))
  | .approving factor approval => s.publishFactor calls n factor approval
  | .publishing factor approval => s.decide calls n approval (.approved factor approval)
  | .approved factor approval =>
      { s with
        factors := updateRow (fun r : FactorRow => r.id) factor.id (FactorRow.publish user) s.factors
        approvals := updateRow Approval.id approval.id (Approval.approve user) s.approvals }.finish n
        (.ok (.published approval.id))
  | .undecided approval rejectionReason =>
      s.decide calls n approval (.rejected approval rejectionReason)
  | .rejected approval rejectionReason =>
      { s with
        approvals := updateRow Approval.id approval.id (Approval.reject user rejectionReason)
          s.approvals }.finish n
        (.ok (.rejected approval.id))
  | .answered _ => s

def step : FactorEvent → FactorState
  | .advance n => s.advance calls n
  | .abort n =>
      match s.phase n with
      | .answered _ => s
      | _ => s.fail n databaseError

/-- No request has begun, no approval exists, and the ids are unique. -/
structure Initial : Prop where
  factorIds : (s.factors.map fun r => r.id).Nodup
  factor_lt : ∀ r ∈ s.factors, r.id < s.nextUuid
  noApprovals : s.approvals = []
  noProposals : s.proposedContent = []
  phase : ∀ n, s.phase n = .received

section Reads

variable {s}

theorem mem_of_factorById {factorUuid : Uuid} {r : FactorRow} (h : s.factorById factorUuid = some r) :
    r ∈ s.factors ∧ r.id = factorUuid :=
  findRow_some h

theorem mem_of_approvalById {approvalUuid : Uuid} {a : Approval}
    (h : s.approvalById approvalUuid = some a) : a ∈ s.approvals ∧ a.id = approvalUuid :=
  findRow_some h

theorem mem_of_getByUuid {tenantId factorUuid : Uuid} {r : FactorRow}
    (h : s.getByUuid tenantId factorUuid = some r) : r ∈ s.factors ∧ r.id = factorUuid :=
  mem_of_factorById (Option.filter_eq_some_iff.mp h).1

theorem mem_of_pendingApprovals {tenantId factorUuid : Uuid} {a : Approval}
    (h : s.pendingApprovals tenantId factorUuid = [a]) :
    a ∈ s.approvals ∧ a.factorId = factorUuid := by
  have hmem : a ∈ s.pendingApprovals tenantId factorUuid := by
    rw [h]
    exact List.mem_singleton_self a
  obtain ⟨ha, hfound⟩ := List.mem_filter.mp hmem
  rw [decide_eq_true_eq] at hfound
  exact ⟨ha, hfound.1⟩

end Reads

end FactorState

/-! ## What a step can do -/

/-- The states a step of request `n` can lead to, with what the request has seen when it takes it. -/
inductive FactorTransition (calls : ℕ → FactorCall) (s : FactorState) (n : ℕ) : FactorState → Prop
  | wait : FactorTransition calls s n s
  | fail (problem : Problem) : FactorTransition calls s n (s.fail n problem)
  | unchanged (factorUuid : Uuid) :
      FactorTransition calls s n (s.finish n (.ok (.updated factorUuid)))
  | create (body : FactorCatalogCreate) :
      FactorTransition calls s n
        ({ s with
          newFactors := s.newFactors ++ [(n, newFactor (calls n).user s.nextUuid body)]
          nextUuid := s.nextUuid + 1 }.enter n
          (.created (newFactor (calls n).user s.nextUuid body)))
  | draft (factorUuid : Uuid) (changes : FactorCatalogUpdate) :
      FactorTransition calls s n (s.enter n (.drafted factorUuid changes))
  | fetch (r : FactorRow) (reasonCode : PublishReasonCode) (hr : r ∈ s.factors)
      (hok : assertPublishable r = .ok ()) :
      FactorTransition calls s n (s.enter n (.fetched r reasonCode))
  | consider (a : Approval) (rejectionReason : String) :
      FactorTransition calls s n (s.enter n (.undecided a rejectionReason))
  | unproposed (r : FactorRow) (reasonCode : PublishReasonCode)
      (hphase : s.phase n = .fetched r reasonCode) :
      FactorTransition calls s n (s.enter n (.unproposed r reasonCode))
  | approving (r : FactorRow) (reasonCode : PublishReasonCode) (a : Approval)
      (hphase : s.phase n = .fetched r reasonCode) (ha : a ∈ s.approvals) (hfactor : a.factorId = r.id)
      (hproposer : a.proposedBy ≠ (calls n).user.sub)
      (hcreator : r.createdBy ≠ some (calls n).user.sub) :
      FactorTransition calls s n (s.enter n (.approving r a))
  | propose (r : FactorRow) (reasonCode : PublishReasonCode)
      (hphase : s.phase n = .unproposed r reasonCode) :
      FactorTransition calls s n
        ({ s with
          newApprovals :=
            s.newApprovals ++ [(n, newApproval (calls n).user s.nextUuid r.id reasonCode)]
          nextUuid := s.nextUuid + 1
          proposedContent :=
            (s.nextUuid, ((s.factorById r.id).getD r).content) :: s.proposedContent }.enter n
          (.proposed (newApproval (calls n).user s.nextUuid r.id reasonCode)))
  | patch (r : FactorRow) (changes : FactorCatalogUpdate) (hr : r ∈ s.factors)
      (hdraft : r.isPublished = false) (hfree : s.factorLock r.id = none) :
      FactorTransition calls s n
        ({ s with factorLock := update s.factorLock r.id (some n) }.enter n (.patched r.id changes))
  | publish (r r' : FactorRow) (a : Approval) (hphase : s.phase n = .approving r a)
      (hr : r' ∈ s.factors) (hid : r'.id = r.id) (hdraft : r'.isPublished = false)
      (hfree : s.factorLock r.id = none) :
      FactorTransition calls s n
        ({ s with factorLock := update s.factorLock r.id (some n) }.enter n (.publishing r a))
  | approve (r : FactorRow) (a a' : Approval) (hphase : s.phase n = .publishing r a)
      (ha : a' ∈ s.approvals) (hid : a'.id = a.id) (hpending : a'.decision = .pending)
      (hfree : s.approvalLock a.id = none) :
      FactorTransition calls s n
        ({ s with approvalLock := update s.approvalLock a.id (some n) }.enter n (.approved r a))
  | reject (a a' : Approval) (rejectionReason : String) (ha : a' ∈ s.approvals) (hid : a'.id = a.id)
      (hpending : a'.decision = .pending) (hfree : s.approvalLock a.id = none) :
      FactorTransition calls s n
        ({ s with approvalLock := update s.approvalLock a.id (some n) }.enter n
          (.rejected a rejectionReason))
  | commitCreated (row : FactorRow) (hphase : s.phase n = .created row) :
      FactorTransition calls s n
        ({ s with factors := s.factors ++ [row] }.finish n (.ok (.created row.id)))
  | commitPatched (factorUuid : Uuid) (changes : FactorCatalogUpdate)
      (hphase : s.phase n = .patched factorUuid changes) :
      FactorTransition calls s n
        ({ s with
          factors := updateRow (fun r : FactorRow => r.id) factorUuid changes.apply s.factors }.finish n
          (.ok (.updated factorUuid)))
  | commitProposed (a : Approval) (hphase : s.phase n = .proposed a) :
      FactorTransition calls s n
        ({ s with approvals := s.approvals ++ [a] }.finish n (.ok (.approvalRequested a.id)))
  | commitApproved (r : FactorRow) (a : Approval) (hphase : s.phase n = .approved r a) :
      FactorTransition calls s n
        ({ s with
          factors :=
            updateRow (fun r : FactorRow => r.id) r.id (FactorRow.publish (calls n).user) s.factors
          approvals :=
            updateRow Approval.id a.id (Approval.approve (calls n).user) s.approvals }.finish n
          (.ok (.published a.id)))
  | commitRejected (a : Approval) (rejectionReason : String)
      (hphase : s.phase n = .rejected a rejectionReason) :
      FactorTransition calls s n
        ({ s with
          approvals := updateRow Approval.id a.id (Approval.reject (calls n).user rejectionReason)
            s.approvals }.finish n
          (.ok (.rejected a.id)))

namespace FactorTransition

variable {calls : ℕ → FactorCall} {s : FactorState} {n : ℕ}

theorem receive : FactorTransition calls s n (s.receive calls n) := by
  unfold FactorState.receive
  dsimp only
  split
  · exact .fail _
  cases (calls n).request with
  | create body =>
      dsimp only
      split
      · exact .fail _
      · exact .wait
      · exact .create body
  | patch factorUuid body =>
      dsimp only
      split
      · exact .fail _
      · split_ifs
        · exact .fail _
        · exact .unchanged _
        · exact .draft _ _
  | publish factorUuid reasonCode =>
      dsimp only
      split
      · exact .fail _
      · next r hr =>
          split_ifs
          · exact .fail _
          · split
            · exact .fail _
            · next hok => exact .fetch r reasonCode (FactorState.mem_of_getByUuid hr).1 hok
  | reject approvalUuid rejectionReason =>
      dsimp only
      split
      · exact .fail _
      · split_ifs
        · exact .fail _
        · exact .consider _ _

theorem branch {r : FactorRow} {reasonCode : PublishReasonCode}
    (hphase : s.phase n = .fetched r reasonCode) :
    FactorTransition calls s n (s.branch calls n r reasonCode) := by
  unfold FactorState.branch
  dsimp only
  split
  · exact .unproposed r reasonCode hphase
  · next a ha =>
      obtain ⟨hmem, hfactor⟩ := FactorState.mem_of_pendingApprovals ha
      split_ifs with hproposer hcreator
      · exact .fail _
      · exact .fail _
      · exact .approving r reasonCode a hphase hmem hfactor hproposer hcreator
  · exact .fail _

theorem propose_cases {r : FactorRow} {reasonCode : PublishReasonCode}
    (hphase : s.phase n = .unproposed r reasonCode) :
    FactorTransition calls s n (s.propose calls n r reasonCode) := by
  unfold FactorState.propose
  dsimp only
  split
  · exact .fail _
  · exact .wait
  · exact .propose r reasonCode hphase

theorem patch_cases (factorUuid : Uuid) (changes : FactorCatalogUpdate) :
    FactorTransition calls s n (s.patch n factorUuid changes) := by
  unfold FactorState.patch
  split_ifs with hlock
  · exact .wait
  · exact .fail _
  · split
    · exact .fail _
    · next r hr =>
        obtain ⟨hmem, rfl⟩ := FactorState.mem_of_factorById hr
        split_ifs with hpublished
        · exact .fail _
        · exact .patch r changes hmem (Bool.eq_false_iff.mpr hpublished) (by simpa using hlock)

theorem publishFactor {r : FactorRow} {a : Approval} (hphase : s.phase n = .approving r a) :
    FactorTransition calls s n (s.publishFactor calls n r a) := by
  unfold FactorState.publishFactor
  split_ifs with hlock
  · exact .wait
  · split
    · exact .fail _
    · next r' hr =>
        obtain ⟨hmem, hid⟩ := FactorState.mem_of_getByUuid hr
        split_ifs with hpublished
        · exact .fail _
        · exact .publish r r' a hphase hmem hid (Bool.eq_false_iff.mpr hpublished)
            (by simpa using hlock)

theorem decide {a : Approval} {next : FactorPhase}
    (hnext : ∀ a' ∈ s.approvals, a'.id = a.id → a'.decision = .pending → s.approvalLock a.id = none →
      FactorTransition calls s n
        ({ s with approvalLock := update s.approvalLock a.id (some n) }.enter n next)) :
    FactorTransition calls s n (s.decide calls n a next) := by
  unfold FactorState.decide
  split_ifs with hlock
  · exact .wait
  · split
    · exact .fail _
    · next a' ha =>
        obtain ⟨hmem, hid⟩ := FactorState.mem_of_approvalById ha
        split_ifs with hpending
        · exact .fail _
        · exact .fail _
        · exact hnext a' hmem hid (not_not.mp hpending) (by simpa using hlock)

theorem advance : FactorTransition calls s n (s.advance calls n) := by
  unfold FactorState.advance
  cases hphase : s.phase n with
  | received => exact receive
  | created row => exact .commitCreated row hphase
  | drafted factorUuid changes => exact patch_cases factorUuid changes
  | patched factorUuid changes => exact .commitPatched factorUuid changes hphase
  | fetched r reasonCode => exact branch hphase
  | unproposed r reasonCode => exact propose_cases hphase
  | proposed a => exact .commitProposed a hphase
  | approving r a => exact publishFactor hphase
  | publishing r a =>
      exact decide fun a' ha hid hpending hfree => .approve r a a' hphase ha hid hpending hfree
  | approved r a => exact .commitApproved r a hphase
  | undecided a rejectionReason =>
      exact decide fun a' ha hid hpending hfree =>
        .reject a a' rejectionReason ha hid hpending hfree
  | rejected a rejectionReason => exact .commitRejected a rejectionReason hphase
  | answered reply => exact .wait

end FactorTransition

def FactorEvent.request : FactorEvent → ℕ
  | advance n => n
  | abort n => n

theorem FactorState.step_transition (calls : ℕ → FactorCall) (s : FactorState) (e : FactorEvent) :
    FactorTransition calls s e.request (s.step calls e) := by
  cases e with
  | advance n => exact .advance
  | abort n =>
      rw [FactorState.step]
      split
      · exact .wait
      · exact .fail _

end GhgTool
