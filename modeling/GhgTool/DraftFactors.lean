import GhgTool.FactorPublish
import GhgTool.RowTriggers
import GhgTool.SeedLoader

/-!
# Deleting drafts

`create_factor`, `patch_factor` and `delete_factor` on `ref.factor_catalog`, one transaction a
request, and the downgrade of the seed. The trigger `ops.deny_factor_mutation` serves updates and
deletions and ends with `RETURN NEW`, which is `NULL` for a deletion: the row stays, no error is
raised, and the endpoint goes on to write its audit row and to answer 204.
-/

namespace GhgTool.DraftFactors

/-! ## The catalog -/

def immutableMessage (r : FactorRow) : String :=
  "Factor " ++ r.factorId ++ "/" ++ r.version ++ " is published and immutable"

/-- `ops.deny_factor_mutation` with the row that `RETURN NEW` returns, `none` for a deletion. -/
def denyFactorMutation (old : FactorRow) (new : Option FactorRow) : Verdict FactorRow :=
  if old.isPublished then .raise (immutableMessage old)
  else
    match new with
    | some row => .proceed row
    | none => .skip

/-- `ref.factor_catalog` with `trg_factor_immutable`. -/
def factorCatalog : TableRules FactorRow where
  check r := decide (r.source ∈ SeedLoader.sources)
  clash a b := decide (a.Clash b)
  beforeUpdate old new := denyFactorMutation old (some new)
  beforeDelete old := denyFactorMutation old none

/-- A row of `calc.audit_log`. -/
structure AuditEntry where
  tenantId : Uuid
  userRole : RoleCode
  action : String
  resource : String
  resourceId : Uuid
  requestMethod : String
  statusCode : ℕ
  deriving DecidableEq

structure Database where
  factors : List FactorRow
  audit : List AuditEntry
  deriving DecidableEq

/-! ## The endpoints -/

inductive Request where
  | create (body : FactorCatalogCreate)
  | patch (factorUuid : Uuid) (body : FactorCatalogUpdate)
  | delete (factorUuid : Uuid)

/-- A request with its user and what `uuid4` draws for it. -/
structure Call where
  user : UserContext
  request : Request
  draw : Uuid

inductive Reply where
  | created (row : FactorRow)
  | updated (factorUuid : Uuid)
  /-- 204 -/
  | noContent
  deriving DecidableEq

def publishedNotDeletable (r : FactorRow) : Problem :=
  ⟨422, r.name ++ " is already published and immutable per ADR-007. Published rows cannot be " ++
    "deleted."⟩

def auditDraft (user : UserContext) (action method : String) (status : ℕ) (factorUuid : Uuid) :
    AuditEntry where
  tenantId := user.tenantId
  userRole := user.role
  action := action
  resource := "factor_catalog"
  resourceId := factorUuid
  requestMethod := method
  statusCode := status

variable (db : Database) (call : Call)

def Database.getByUuid (tenantId factorUuid : Uuid) : Option FactorRow :=
  db.factors.find? fun r => decide (r.tenantId = tenantId ∧ r.id = factorUuid)

def createFactor (body : FactorCatalogCreate) : Except Problem (Reply × Database) :=
  let row := newFactor call.user call.draw body
  match insertRow factorCatalog row db.factors with
  | .error _ => .error databaseError
  | .ok factors => .ok (.created row, { db with factors := factors })

/-- The `UPDATE` that the unit of work sends for the row, none when no field differs. -/
def flushPatch (r : FactorRow) (changes : FactorCatalogUpdate) : Except Problem (List FactorRow) :=
  if changes = {} then .ok db.factors
  else if changes.violatesNotNull then .error databaseError
  else
    match updateRows factorCatalog (fun r' => decide (r'.id = r.id)) changes.apply db.factors with
    | .error _ => .error databaseError
    | .ok factors => .ok factors

def patchFactor (factorUuid : Uuid) (body : FactorCatalogUpdate) :
    Except Problem (Reply × Database) :=
  match db.getByUuid call.user.tenantId factorUuid with
  | none => .error (factorNotFound factorUuid)
  | some r =>
      if r.isPublished then .error (factorAlreadyPublished r)
      else
        match flushPatch db r (body.against r) with
        | .error problem => .error problem
        | .ok factors =>
            .ok (.updated r.id,
              ⟨factors, db.audit ++ [auditDraft call.user "factor_draft_updated" "PATCH" 200 r.id]⟩)

/-- `session.delete` and the audit row; a deletion that finds no row to delete is a warning. -/
def deleteFactor (factorUuid : Uuid) : Except Problem (Reply × Database) :=
  match db.getByUuid call.user.tenantId factorUuid with
  | none => .error (factorNotFound factorUuid)
  | some r =>
      if r.isPublished then .error (publishedNotDeletable r)
      else
        match deleteRows factorCatalog (fun r' => decide (r'.id = r.id)) db.factors with
        | .error _ => .error databaseError
        | .ok factors =>
            .ok (.noContent,
              ⟨factors, db.audit ++
                [auditDraft call.user "factor_draft_deleted" "DELETE" 204 factorUuid]⟩)

def respond : Except Problem (Reply × Database) :=
  match requireFactorPermission call.user .write with
  | .error problem => .error problem
  | .ok () =>
      match call.request with
      | .create body => createFactor db call body
      | .patch factorUuid body => patchFactor db call factorUuid body
      | .delete factorUuid => deleteFactor db call factorUuid

def step : Database :=
  match respond db call with
  | .ok (_, db') => db'
  | .error _ => db

/-- The factors that `0003_M2` seeds. -/
def seedFactorIds : List String :=
  ["LB_IT_GRID_ISPRA_2024", "MB_IT_RESIDUAL_AIB_2024", "MB_GO_ZERO",
    "COMB_GAS_NAT_CO2_DEFRA_2025", "COMB_GAS_NAT_CH4_DEFRA_2025",
    "COMB_GAS_NAT_N2O_DEFRA_2025", "COMB_GASOLIO_CO2_DEFRA_2025",
    "COMB_GASOLIO_CH4_DEFRA_2025", "COMB_GASOLIO_N2O_DEFRA_2025",
    "COMB_BENZINA_CO2_DEFRA_2025", "COMB_BENZINA_CH4_DEFRA_2025",
    "COMB_BENZINA_N2O_DEFRA_2025", "STOICH_CACO3_IPCC_2006",
    "WTT_GAS_NAT_DEFRA_2025", "WTT_GASOLIO_DEFRA_2025", "WTT_BENZINA_DEFRA_2025",
    "WTT_ELEC_DEFRA_2025", "TND_ELEC_IT_DEFRA_2025",
    "FREIGHT_HGV_DEFRA_2025", "FREIGHT_RAIL_DEFRA_2025", "FREIGHT_SEA_DEFRA_2025",
    "TRAVEL_SPEND_FLIGHTS_DEFRA_2025", "TRAVEL_SPEND_HIRECAR_DEFRA_2025",
    "TRAVEL_SPEND_HOTEL_DEFRA_2025", "COMMUTE_CAR_DEFRA_2025",
    "WASTE_LANDFILL_PERIC_DEFRA_2025", "WASTE_LANDFILL_NONPERIC_DEFRA_2025",
    "WASTE_RECYCLE_PERIC_DEFRA_2025", "WASTE_RECYCLE_NONPERIC_DEFRA_2025",
    "ECOINV_CLAY_V3_10", "ECOINV_FELDSPAR_V3_10", "ECOINV_SILICA_V3_10",
    "ECOINV_FRIT_V3_10", "ECOINV_PIGMENT_V3_10", "ECOINV_ADDITIVES_V3_10",
    "ECOINV_CARDBOARD_V3_10", "ECOINV_PALLET_V3_10",
    "ECOINV_LDPE_V3_10", "ECOINV_PP_V3_10",
    "EXIO_SERVICES_NACE_M", "EXIO_MACHINERY_NACE_C28", "EXIO_CONSUMABLES_NACE_C27",
    "ECOINV_LANDFILL_INERT_V3_10", "ECOINV_CDW_RECYCLE_V3_10"]

/-- The `DELETE` of the downgrade of `0003_M2`. -/
def downgrade (rows : List FactorRow) : Except StatementError (List FactorRow) :=
  deleteRows factorCatalog (fun r => decide (r.factorId ∈ seedFactorIds)) rows

/-! ## The trigger -/

/-- What a row may become: a published one stays as it is. -/
def Frozen (r r' : FactorRow) : Prop :=
  r.isPublished = true → r' = r

theorem frozen_refl (r : FactorRow) : Frozen r r :=
  fun _ => rfl

theorem frozen_trans (a b c : FactorRow) (hab : Frozen a b) (hbc : Frozen b c) : Frozen a c := by
  intro ha
  have hb := hab ha
  rw [hbc (hb ▸ ha), hb]

theorem denyFactorMutation_ne_proceed (old new : FactorRow) :
    denyFactorMutation old none ≠ .proceed new := by
  unfold denyFactorMutation
  split_ifs <;> simp

theorem frozen_of_proceed {old new row : FactorRow}
    (h : denyFactorMutation old (some new) = .proceed row) : Frozen old row := by
  intro hpublished
  rw [denyFactorMutation, if_pos hpublished] at h
  cases h

/-- No `DELETE` on the catalog removes a row. -/
theorem deleteRows_keeps {hit : FactorRow → Bool} {rows rows' : List FactorRow}
    (h : deleteRows factorCatalog hit rows = .ok rows') : rows' = rows :=
  deleteRows_eq (fun row _ _ new => denyFactorMutation_ne_proceed row new) h

/-- It raises only where it hits a published row. -/
theorem deleteRows_ok {hit : FactorRow → Bool} {rows : List FactorRow}
    (h : ∀ r ∈ rows, hit r = true → r.isPublished = false) :
    deleteRows factorCatalog hit rows = .ok rows := by
  induction rows with
  | nil => rfl
  | cons row rest ih =>
      have hrest := ih fun r hr => h r (by simp [hr])
      rw [deleteRows, hrest]
      split_ifs with hhit
      · have hverdict : factorCatalog.beforeDelete row = .skip := by
          simp [factorCatalog, denyFactorMutation, h row (by simp) hhit]
        rw [hverdict]
        rfl
      · rfl

/-! ## Runs -/

/-- An editor deletes a draft of the tenant. -/
def DeletesDraft (db : Database) (call : Call) : Prop :=
  ∃ factorUuid, call.request = .delete factorUuid ∧ call.user.role = .editor ∧
    (∃ r ∈ db.factors, r.tenantId = call.user.tenantId ∧ r.id = factorUuid) ∧
    ∀ r ∈ db.factors, r.id = factorUuid → r.isPublished = false

/-- An editor creates a factor under the key of the row. -/
def Recreates (r : FactorRow) (again : Call) : Prop :=
  ∃ body, again.request = .create body ∧ again.user.role = .editor ∧
    body.source ∈ SeedLoader.sources ∧
    (again.user.tenantId, body.factorId, body.version, body.gwpSet) = r.versionKey

/-- What a deletion answered with 204 promises: the row is gone, and its key is free. -/
def Removes (db : Database) (call : Call) : Prop :=
  ∀ factorUuid db', call.request = .delete factorUuid →
    respond db call = .ok (.noContent, db') →
    (∀ r ∈ db'.factors, r.id ≠ factorUuid) ∧
    ∀ r ∈ db.factors, r.id = factorUuid → ∀ again, Recreates r again →
      (∀ r' ∈ db'.factors, r'.id ≠ again.draw) → ∃ reply, respond db' again = .ok reply

variable {db call} {tenantId factorUuid : Uuid} {r : FactorRow}

theorem getByUuid_some (h : db.getByUuid tenantId factorUuid = some r) :
    r ∈ db.factors ∧ r.tenantId = tenantId ∧ r.id = factorUuid := by
  refine ⟨List.mem_of_find?_eq_some h, ?_⟩
  simpa using List.find?_some h

theorem exists_getByUuid (hr : r ∈ db.factors) :
    ∃ r', db.getByUuid r.tenantId r.id = some r' := by
  cases hfind : db.getByUuid r.tenantId r.id with
  | none => exact absurd (List.find?_eq_none.mp hfind r hr) (by simp)
  | some r' => exact ⟨r', rfl⟩

theorem permitted_iff (user : UserContext) :
    requireFactorPermission user .write = .ok () ↔ user.role = .editor := by
  unfold requireFactorPermission FactorAction.role
  split_ifs with h <;> simp [h]

/-- A draft is deleted with 204 and an audit row, and is still there. -/
theorem respond_of_deletesDraft (h : DeletesDraft db call) :
    ∃ factorUuid, call.request = .delete factorUuid ∧
      (∃ r ∈ db.factors, r.id = factorUuid) ∧
      respond db call = .ok (.noContent,
        { db with audit := db.audit ++
            [auditDraft call.user "factor_draft_deleted" "DELETE" 204 factorUuid] }) := by
  obtain ⟨factorUuid, hrequest, hrole, ⟨r, hr, htenant, rfl⟩, hdraft⟩ := h
  refine ⟨r.id, hrequest, ⟨r, hr, rfl⟩, ?_⟩
  obtain ⟨found, hfound⟩ := exists_getByUuid hr
  obtain ⟨hmem, -, hid⟩ := getByUuid_some hfound
  have hdelete : deleteRows factorCatalog (fun r' => decide (r'.id = found.id)) db.factors =
      .ok db.factors := by
    apply deleteRows_ok
    intro r' hr' hhit
    exact hdraft r' hr' ((of_decide_eq_true hhit).trans hid)
  have hunpublished : found.isPublished = false := hdraft found hmem hid
  unfold respond
  rw [(permitted_iff call.user).mpr hrole, hrequest]
  dsimp only
  unfold deleteFactor
  rw [← htenant, hfound]
  dsimp only
  rw [hunpublished, hdelete]
  rfl

theorem deletesDraft_of_noContent {db' : Database} (hrequest : call.request = .delete factorUuid)
    (h : respond db call = .ok (.noContent, db')) : DeletesDraft db call := by
  unfold respond at h
  cases hpermitted : requireFactorPermission call.user .write with
  | error problem => simp [hpermitted] at h
  | ok u =>
      rw [hpermitted, hrequest] at h
      dsimp only at h
      unfold deleteFactor at h
      cases hfound : db.getByUuid call.user.tenantId factorUuid with
      | none => simp [hfound] at h
      | some r =>
          obtain ⟨hmem, htenant, hid⟩ := getByUuid_some hfound
          simp only [hfound] at h
          split_ifs at h with hpublished
          cases hdelete : deleteRows factorCatalog (fun r' => decide (r'.id = r.id))
              db.factors with
          | error e => simp [hdelete] at h
          | ok factors =>
              refine ⟨factorUuid, hrequest, (permitted_iff call.user).mp hpermitted,
                ⟨r, hmem, htenant, hid⟩, ?_⟩
              intro r' hr' hid'
              have hverdict := beforeDelete_ne_raise hdelete hr'
                (by simp [hid, hid']) (immutableMessage r')
              by_contra hne
              apply hverdict
              simp [factorCatalog, denyFactorMutation, hne]

theorem removes_iff : Removes db call ↔ ¬ DeletesDraft db call := by
  constructor
  · intro hremoves hdeletes
    obtain ⟨factorUuid, hrequest, ⟨r, hr, hid⟩, hrespond⟩ := respond_of_deletesDraft hdeletes
    exact (hremoves factorUuid _ hrequest hrespond).1 r hr hid
  · intro hnot factorUuid db' hrequest hrespond
    exact absurd (deletesDraft_of_noContent hrequest hrespond) hnot

variable (db call)

theorem createFactor_evolves {body : FactorCatalogCreate} {reply : Reply} {db' : Database}
    (h : createFactor db call body = .ok (reply, db')) :
    Evolves Frozen db.factors db'.factors := by
  unfold createFactor at h
  dsimp only at h
  cases hinsert : insertRow factorCatalog (newFactor call.user call.draw body) db.factors with
  | error e => simp [hinsert] at h
  | ok factors =>
      rw [hinsert] at h
      cases h
      exact insertRow_evolves frozen_refl hinsert

theorem flushPatch_evolves {changes : FactorCatalogUpdate} {factors : List FactorRow}
    (h : flushPatch db r changes = .ok factors) : Evolves Frozen db.factors factors := by
  unfold flushPatch at h
  split_ifs at h
  · cases h
    exact evolves_refl frozen_refl _
  · cases hupdate : updateRows factorCatalog (fun r' => decide (r'.id = r.id)) changes.apply
        db.factors with
    | error e => simp [hupdate] at h
    | ok updated =>
        rw [hupdate] at h
        cases h
        apply updateRows_evolves frozen_refl frozen_trans _ hupdate
        intro old _ new _ hproceed
        exact frozen_of_proceed hproceed

theorem patchFactor_evolves {body : FactorCatalogUpdate} {reply : Reply} {db' : Database}
    (h : patchFactor db call factorUuid body = .ok (reply, db')) :
    Evolves Frozen db.factors db'.factors := by
  unfold patchFactor at h
  cases hfound : db.getByUuid call.user.tenantId factorUuid with
  | none => simp [hfound] at h
  | some r =>
      simp only [hfound] at h
      split_ifs at h
      cases hflush : flushPatch db r (body.against r) with
      | error problem => simp [hflush] at h
      | ok factors =>
          rw [hflush] at h
          cases h
          exact flushPatch_evolves db hflush

theorem deleteFactor_evolves {reply : Reply} {db' : Database}
    (h : deleteFactor db call factorUuid = .ok (reply, db')) :
    Evolves Frozen db.factors db'.factors := by
  unfold deleteFactor at h
  cases hfound : db.getByUuid call.user.tenantId factorUuid with
  | none => simp [hfound] at h
  | some r =>
      simp only [hfound] at h
      split_ifs at h
      cases hdelete : deleteRows factorCatalog (fun r' => decide (r'.id = r.id)) db.factors with
      | error e => simp [hdelete] at h
      | ok factors =>
          rw [hdelete] at h
          cases h
          rw [deleteRows_keeps hdelete]
          exact evolves_refl frozen_refl _

theorem step_evolves : Evolves Frozen db.factors (step db call).factors := by
  unfold step
  cases hrespond : respond db call with
  | error problem => exact evolves_refl frozen_refl _
  | ok result =>
      obtain ⟨reply, db'⟩ := result
      unfold respond at hrespond
      cases hpermitted : requireFactorPermission call.user .write with
      | error problem => simp [hpermitted] at hrespond
      | ok u =>
          rw [hpermitted] at hrespond
          dsimp only at hrespond
          cases hrequest : call.request with
          | create body =>
              rw [hrequest] at hrespond
              exact createFactor_evolves db call hrespond
          | patch factorUuid body =>
              rw [hrequest] at hrespond
              exact patchFactor_evolves db call hrespond
          | delete factorUuid =>
              rw [hrequest] at hrespond
              exact deleteFactor_evolves db call hrespond

theorem run_evolves (calls : List Call) :
    Evolves Frozen db.factors (run step db calls).factors := by
  induction calls generalizing db with
  | nil => exact evolves_refl frozen_refl _
  | cons call calls ih =>
      exact (step_evolves db call).trans frozen_trans (ih (step db call))

/-- The downgrade leaves the catalog as it is: it deletes no row, or fails on a published one. -/
theorem downgrade_keeps (rows : List FactorRow) : settle rows (downgrade rows) = rows := by
  cases hdelete : downgrade rows with
  | error e => rfl
  | ok rows' => exact deleteRows_keeps hdelete

/-- A run keeps the promise of its deletions exactly when it deletes no draft; no run removes a row
or changes a published one; and the downgrade leaves no unpublished row of the seed exactly when
there was none. -/
theorem drafts_removed_iff (db : Database) (calls : List Call) :
    (Along step Removes db calls ↔
      Along step (fun db call => ¬ DeletesDraft db call) db calls) ∧
    Evolves Frozen db.factors (run step db calls).factors ∧
    ((∀ r ∈ settle db.factors (downgrade db.factors), r.factorId ∈ seedFactorIds →
        r.isPublished = true) ↔
      ∀ r ∈ db.factors, r.factorId ∈ seedFactorIds → r.isPublished = true) := by
  refine ⟨?_, run_evolves db calls, ?_⟩
  · have hsame : Removes = fun db call => ¬ DeletesDraft db call := by
      funext db call
      exact propext removes_iff
    rw [hsame]
  · rw [downgrade_keeps]

def editor : UserContext := ⟨7, .editor, 1⟩

/-- A draft of the Italian grid factor, as the seed and an editor would create it. -/
def gridDraft : FactorCatalogCreate where
  factorId := "LB_IT_GRID_ISPRA_2024"
  version := "2024"
  source := "ISPRA"
  value := none
  isLicenceOnly := false
  unit := "kg CO2e / kWh"
  gwpSet := .ar6
  vintage := some "2024"
  validFrom := 0
  applicabilityNote := none
  pdfSourceUri := none
  biogenicCo2KgPerUnit := none
  value_nonneg := none_nonneg
  biogenic_nonneg := none_nonneg

def empty : Database := ⟨[], []⟩

/-- The draft is created, deleted with 204 and an audit row, and still there: its key is taken, and
the downgrade leaves it. -/
theorem deleted_draft_stays :
    let created := step empty ⟨editor, .create gridDraft, 40⟩
    let deleted : Call := ⟨editor, .delete 40, 41⟩
    respond created deleted = .ok (.noContent,
      ⟨[newFactor editor 40 gridDraft],
        [auditDraft editor "factor_draft_deleted" "DELETE" 204 40]⟩) ∧
      respond (step created deleted) ⟨editor, .create gridDraft, 42⟩ = .error databaseError ∧
      settle (step created deleted).factors (downgrade (step created deleted).factors) =
        [newFactor editor 40 gridDraft] := by
  refine ⟨rfl, rfl, ?_⟩
  rw [downgrade_keeps]
  rfl

end GhgTool.DraftFactors
