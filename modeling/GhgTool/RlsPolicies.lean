import GhgTool.AuthState
import GhgTool.SecuredRuns
import Mathlib.Tactic.IntervalCases
import Mathlib.Tactic.SplitIfs

/-!
# The row-level security of the schema

The migrations enable row-level security on nineteen tables, and create, drop and recreate their
policies. Every policy compares the tenant column of the row (`id` in `ref.tenants`) with the
setting `app.tenant_id`, the role with `app.role_code`, or both; the rest of a row, `content`, no
policy looks at. `set_session_gucs` makes both settings for the transaction.
-/

namespace GhgTool

inductive RlsTable
  | scope1Ingestions | scope2Ingestions | scope3Ingestions | ingestionBatches
  | intensityReferences
  | factorCatalog | goCertificateEvidence | sbtiTargets | users | tenants
  | emissionsConsolidated | dqFindings | dlq | auditLog | reportSnapshots
  | factorPublishApprovals
  | sessions
  | calcRuns | chartAnnotations
  deriving DecidableEq, Repr

structure TenantRow (α : Type*) where
  tenantId : Uuid
  content : α
  deriving DecidableEq

/-! ## The text of a UUID -/

def uuidHex (u : Uuid) : List Char :=
  (Nat.toDigits 16 u).leftpad 32 '0'

/-- `str(tenant_id)`, and `tenant_id::text`. -/
def uuidText (u : Uuid) : String :=
  let hex := uuidHex u
  String.ofList (hex.take 8 ++ '-' :: ((hex.drop 8).take 4 ++ '-' :: ((hex.drop 12).take 4 ++
    '-' :: ((hex.drop 16).take 4 ++ '-' :: hex.drop 20))))

def hexDigit (c : Char) : ℕ :=
  if c.isDigit then c.toNat - 48 else c.toNat - 87

def hexValue (hex : List Char) : ℕ :=
  hex.foldl (fun v c => 16 * v + hexDigit c) 0

theorem hexDigit_digitChar {d : ℕ} (hd : d < 16) : hexDigit d.digitChar = d := by
  interval_cases d <;> decide

theorem hexValue_toDigits (n : ℕ) : hexValue (Nat.toDigits 16 n) = n := by
  induction n using Nat.strongRecOn with
  | ind n ih =>
      rw [Nat.toDigits_eq_if (by decide)]
      split_ifs with hn
      · simp [hexValue, hexDigit_digitChar hn]
      · have hquot : hexValue (Nat.toDigits 16 (n / 16)) = n / 16 := ih (n / 16) (by omega)
        unfold hexValue at hquot ⊢
        rw [List.foldl_append, hquot, List.foldl_cons, List.foldl_nil,
          hexDigit_digitChar (Nat.mod_lt n (by decide))]
        exact Nat.div_add_mod n 16

theorem hexValue_uuidHex (u : Uuid) : hexValue (uuidHex u) = u := by
  have hzeros : ∀ k, (List.replicate k '0').foldl (fun v c => 16 * v + hexDigit c) 0 = 0 := by
    intro k
    induction k with
    | zero => rfl
    | succ k ih => rw [List.replicate_succ, List.foldl_cons]; exact ih
  unfold uuidHex List.leftpad hexValue
  rw [List.foldl_append, hzeros]
  exact hexValue_toDigits u

theorem dash_not_mem_toDigits (n : ℕ) : '-' ∉ Nat.toDigits 16 n := by
  induction n using Nat.strongRecOn with
  | ind n ih =>
      rw [Nat.toDigits_eq_if (by decide)]
      split_ifs with hn
      · simp
      · have hrest : '-' ∉ Nat.toDigits 16 (n / 16) := ih (n / 16) (by omega)
        simp [hrest]

theorem dash_not_mem_uuidHex (u : Uuid) : '-' ∉ uuidHex u := by
  unfold uuidHex List.leftpad
  simp [dash_not_mem_toDigits]

theorem filter_uuidText (u : Uuid) :
    (uuidText u).toList.filter (fun c => c ≠ '-') = uuidHex u := by
  have hkeep : ∀ l, l ⊆ uuidHex u → l.filter (fun c => c ≠ '-') = l := by
    intro l hl
    refine List.filter_eq_self.mpr fun c hc => ?_
    have hne : c ≠ '-' := fun h => dash_not_mem_uuidHex u (h ▸ hl hc)
    simpa using hne
  have htake : ∀ i k, ((uuidHex u).drop i).take k ⊆ uuidHex u := fun i k c hc =>
    List.mem_of_mem_drop (List.mem_of_mem_take hc)
  have hdash : ∀ l : List Char, ('-' :: l).filter (fun c => decide (c ≠ '-')) =
      l.filter fun c => decide (c ≠ '-') := fun l => List.filter_cons_of_neg (by decide)
  unfold uuidText
  simp only [String.toList_ofList, List.filter_append, hdash]
  rw [hkeep _ (List.take_subset 8 _), hkeep _ (htake 8 4), hkeep _ (htake 12 4), hkeep _ (htake 16 4),
    hkeep _ fun c hc => List.mem_of_mem_drop hc]
  rw [show (uuidHex u).drop 20 = ((uuidHex u).drop 16).drop 4 by simp, List.take_append_drop,
    show (uuidHex u).drop 16 = ((uuidHex u).drop 12).drop 4 by simp, List.take_append_drop,
    show (uuidHex u).drop 12 = ((uuidHex u).drop 8).drop 4 by simp, List.take_append_drop,
    List.take_append_drop]

theorem uuidText_injective : Function.Injective uuidText := by
  intro u v h
  have hhex : uuidHex u = uuidHex v := by rw [← filter_uuidText u, h, filter_uuidText v]
  rw [← hexValue_uuidHex u, hhex, hexValue_uuidHex v]

/-! ## Sessions -/

/-- A connection: the settings of its transaction, a setting that was never made being null, and
its role. The statements of a `SECURITY DEFINER` function have the role of its owner. -/
structure DbSession where
  tenantId : Option Uuid
  roleCode : Option String
  isOwner : Bool
  bypassesRls : Bool
  deriving DecidableEq

def dbStanding : Standing DbSession :=
  ⟨DbSession.isOwner, DbSession.bypassesRls⟩

def setSessionGucs (s : DbSession) (tenantId : Uuid) (roleCode : String) : DbSession :=
  { s with tenantId := some tenantId, roleCode := some roleCode }

/-! ## Policy expressions -/

inductive PolicyExpr
  /-- `tenant_id = current_setting('app.tenant_id', true)::uuid` -/
  | tenantUuid
  /-- `tenant_id::text = current_setting('app.tenant_id', true)` -/
  | tenantText
  /-- `current_setting('app.role_code', true) IN (…)` -/
  | roleIn (codes : List String)
  | and (a b : PolicyExpr)
  deriving DecidableEq

/-- A null counts as false. -/
def PolicyExpr.eval {α : Type*} : PolicyExpr → DbSession → TenantRow α → Bool
  | tenantUuid, s, row => s.tenantId = some row.tenantId
  | tenantText, s, row => s.tenantId.map uuidText = some (uuidText row.tenantId)
  | roleIn codes, s, _ => s.roleCode.any codes.contains
  | and a b, s, row => a.eval s row && b.eval s row

inductive PolicyName
  | emissionsTenantIsolation | emissionsAuditorSelect | emissionsStewardInsert
  | rawSelect (table : RlsTable) | rawInsert (table : RlsTable)
  | factorSelectAll | factorInsertSteward
  | goSelect | goInsertSteward
  | dqSelectAll | dqInsert
  | dlqSelect | dlqInsert
  | auditSelect | auditInsert
  | reportSnapshotsSelect | reportSnapshotsInsert
  | sbtiTargetsTenant | chartAnnotationsTenant
  | sessionsTenantIsolation | calcRunsTenantIsolation | fpaTenantIsolation | usersTenantIsolation
  | tenantsSelf | tenantsAdmin
  deriving DecidableEq

structure CreatedPolicy where
  name : PolicyName
  command : Option SqlCommand
  using_ : Option PolicyExpr
  withCheck : Option PolicyExpr
  deriving DecidableEq

inductive PolicyDdl
  | enable (table : RlsTable)
  | force (table : RlsTable)
  | create (table : RlsTable) (policy : CreatedPolicy)
  | drop (name : PolicyName) (table : RlsTable)

structure TableSecurity where
  enabled : Bool
  forced : Bool
  policies : List CreatedPolicy
  deriving DecidableEq

/-- The security of every table. -/
abbrev RlsCatalog := RlsTable → TableSecurity

def RlsCatalog.empty : RlsCatalog :=
  fun _ => ⟨false, false, []⟩

def RlsCatalog.execute (catalog : RlsCatalog) : PolicyDdl → RlsCatalog
  | .enable table => Function.update catalog table { catalog table with enabled := true }
  | .force table => Function.update catalog table { catalog table with forced := true }
  | .create table policy =>
      Function.update catalog table
        { catalog table with policies := (catalog table).policies ++ [policy] }
  | .drop name table =>
      Function.update catalog table
        { catalog table with policies := (catalog table).policies.filter fun p => p.name ≠ name }

def RlsCatalog.migrate (catalog : RlsCatalog) (ddl : List PolicyDdl) : RlsCatalog :=
  ddl.foldl RlsCatalog.execute catalog

/-- What a statement does to the security of the table `t`. -/
def PolicyDdl.on (t : RlsTable) (sec : TableSecurity) : PolicyDdl → TableSecurity
  | enable table => if t = table then { sec with enabled := true } else sec
  | force table => if t = table then { sec with forced := true } else sec
  | create table policy =>
      if t = table then { sec with policies := sec.policies ++ [policy] } else sec
  | drop name table =>
      if t = table then { sec with policies := sec.policies.filter fun p => p.name ≠ name }
      else sec

theorem migrate_apply (catalog : RlsCatalog) (ddl : List PolicyDdl) (t : RlsTable) :
    catalog.migrate ddl t = ddl.foldl (PolicyDdl.on t) (catalog t) := by
  have hstep : ∀ (catalog : RlsCatalog) (d : PolicyDdl),
      catalog.execute d t = d.on t (catalog t) := by
    intro catalog d
    cases d <;> simp only [RlsCatalog.execute, PolicyDdl.on, Function.update_apply] <;>
      split_ifs with ht <;> first | rfl | rw [ht]
  induction ddl generalizing catalog with
  | nil => rfl
  | cons d ddl ih =>
      refine (ih (catalog.execute d)).trans ?_
      rw [hstep, List.foldl_cons]

/-! ## The migrations -/

/-- `FOR SELECT USING (…)`. -/
def selectPolicy (name : PolicyName) (expr : PolicyExpr) : CreatedPolicy :=
  ⟨name, some .select, some expr, none⟩

/-- `FOR INSERT WITH CHECK (…)`. -/
def insertPolicy (name : PolicyName) (expr : PolicyExpr) : CreatedPolicy :=
  ⟨name, some .insert, none, some expr⟩

/-- `FOR ALL USING (…)`, the default of a policy that names no command. -/
def allPolicy (name : PolicyName) (expr : PolicyExpr) : CreatedPolicy :=
  ⟨name, none, some expr, none⟩

/-- `FOR ALL USING (…) WITH CHECK (…)`, with the same expression. -/
def isolationPolicy (name : PolicyName) (expr : PolicyExpr) : CreatedPolicy :=
  ⟨name, none, some expr, some expr⟩

def roleAndTenant (codes : List String) : PolicyExpr :=
  .and (.roleIn codes) .tenantUuid

def enableAndForce (table : RlsTable) : List PolicyDdl :=
  [.enable table, .force table]

/-- The tables of the loop in `0005_M4`. -/
def rawTables : List RlsTable :=
  [.scope1Ingestions, .scope2Ingestions, .scope3Ingestions, .ingestionBatches]

/-- `upgrade` of `0005_M4`. -/
def upgrade0005 : List PolicyDdl :=
  [.scope1Ingestions, .scope2Ingestions, .scope3Ingestions, .ingestionBatches, .factorCatalog,
      .goCertificateEvidence, .emissionsConsolidated, .dqFindings, .dlq,
      .auditLog].flatMap enableAndForce ++
    [.create .emissionsConsolidated (allPolicy .emissionsTenantIsolation .tenantUuid),
      .create .emissionsConsolidated (selectPolicy .emissionsAuditorSelect
        (roleAndTenant ["auditor", "esg_manager", "data_steward"])),
      .create .emissionsConsolidated (insertPolicy .emissionsStewardInsert
        (roleAndTenant ["data_steward", "esg_manager"]))] ++
    (rawTables.flatMap fun table =>
      [.create table (selectPolicy (.rawSelect table) .tenantUuid),
        .create table (insertPolicy (.rawInsert table) (roleAndTenant ["data_steward"]))]) ++
    [.create .factorCatalog (selectPolicy .factorSelectAll .tenantUuid),
      .create .factorCatalog (insertPolicy .factorInsertSteward (roleAndTenant ["data_steward"])),
      .create .goCertificateEvidence (selectPolicy .goSelect .tenantUuid),
      .create .goCertificateEvidence (insertPolicy .goInsertSteward
        (roleAndTenant ["data_steward"])),
      .create .dqFindings (selectPolicy .dqSelectAll .tenantUuid),
      .create .dqFindings (insertPolicy .dqInsert
        (roleAndTenant ["data_steward", "esg_manager"])),
      .create .dlq (selectPolicy .dlqSelect .tenantUuid),
      .create .dlq (insertPolicy .dlqInsert (roleAndTenant ["data_steward"])),
      .create .auditLog (selectPolicy .auditSelect .tenantUuid),
      .create .auditLog (insertPolicy .auditInsert .tenantUuid)]

/-- `upgrade` of `0007_M6`. -/
def upgrade0007 : List PolicyDdl :=
  enableAndForce .intensityReferences ++
    [.create .intensityReferences (selectPolicy (.rawSelect .intensityReferences) .tenantUuid),
      .create .intensityReferences (insertPolicy (.rawInsert .intensityReferences)
        (roleAndTenant ["data_steward"]))]

/-- `upgrade` of `0013_M12`. -/
def upgrade0013 : List PolicyDdl :=
  enableAndForce .sbtiTargets ++
    [.create .sbtiTargets (isolationPolicy .sbtiTargetsTenant .tenantText)]

def upgrade0013b : List PolicyDdl :=
  enableAndForce .reportSnapshots ++
    [.create .reportSnapshots (selectPolicy .reportSnapshotsSelect .tenantUuid),
      .create .reportSnapshots (insertPolicy .reportSnapshotsInsert
        (roleAndTenant ["esg_manager"]))]

/-- `upgrade` of `0018_M17`. -/
def upgrade0018 : List PolicyDdl :=
  [.enable .chartAnnotations,
    .create .chartAnnotations (allPolicy .chartAnnotationsTenant .tenantText)]

/-- `upgrade` of `0019_M18`. -/
def upgrade0019 : List PolicyDdl :=
  enableAndForce .sessions ++
    [.create .sessions (isolationPolicy .sessionsTenantIsolation .tenantUuid)] ++
    enableAndForce .calcRuns ++
    [.create .calcRuns (isolationPolicy .calcRunsTenantIsolation .tenantUuid)] ++
    enableAndForce .factorPublishApprovals ++
    [.create .factorPublishApprovals (isolationPolicy .fpaTenantIsolation .tenantUuid)] ++
    enableAndForce .users ++
    [.create .users (isolationPolicy .usersTenantIsolation .tenantUuid)] ++
    [.force .chartAnnotations]

def recreate (table : RlsTable) (policy : CreatedPolicy) : List PolicyDdl :=
  [.drop policy.name table, .create table policy]

/-- The codes of the three roles. -/
structure RoleCodes where
  steward : String
  manager : String
  auditor : String

/-- The codes of `ref.roles` up to `0025_M24`. -/
def seededCodes : RoleCodes :=
  ⟨"data_steward", "esg_manager", "auditor"⟩

/-- The codes since `0025_M24`. -/
def genericCodes : RoleCodes :=
  ⟨"editor", "admin", "viewer"⟩

/-- The policies that `0025_M24` drops and recreates, with the codes that it writes. -/
def recreatePolicies (codes : RoleCodes) : List PolicyDdl :=
  recreate .emissionsConsolidated (selectPolicy .emissionsAuditorSelect
      (roleAndTenant [codes.auditor, codes.manager, codes.steward])) ++
    recreate .emissionsConsolidated (insertPolicy .emissionsStewardInsert
      (roleAndTenant [codes.steward, codes.manager])) ++
    recreate .scope1Ingestions (insertPolicy (.rawInsert .scope1Ingestions)
      (roleAndTenant [codes.steward])) ++
    recreate .scope2Ingestions (insertPolicy (.rawInsert .scope2Ingestions)
      (roleAndTenant [codes.steward])) ++
    recreate .scope3Ingestions (insertPolicy (.rawInsert .scope3Ingestions)
      (roleAndTenant [codes.steward])) ++
    recreate .ingestionBatches (insertPolicy (.rawInsert .ingestionBatches)
      (roleAndTenant [codes.steward])) ++
    recreate .factorCatalog (insertPolicy .factorInsertSteward (roleAndTenant [codes.steward])) ++
    recreate .goCertificateEvidence (insertPolicy .goInsertSteward
      (roleAndTenant [codes.steward])) ++
    recreate .intensityReferences (insertPolicy (.rawInsert .intensityReferences)
      (roleAndTenant [codes.steward])) ++
    recreate .dqFindings (insertPolicy .dqInsert
      (roleAndTenant [codes.steward, codes.manager])) ++
    recreate .dlq (insertPolicy .dlqInsert (roleAndTenant [codes.steward])) ++
    recreate .reportSnapshots (insertPolicy .reportSnapshotsInsert
      (roleAndTenant [codes.manager]))

/-- The policies in `upgrade` of `0025_M24`. -/
def upgrade0025 : List PolicyDdl :=
  recreatePolicies genericCodes

/-- The policies in `downgrade` of `0025_M24`. -/
def downgrade0025 : List PolicyDdl :=
  recreatePolicies seededCodes

/-- `upgrade` of `0030_M10`. -/
def upgrade0030 : List PolicyDdl :=
  enableAndForce .tenants ++
    [.create .tenants (isolationPolicy .tenantsSelf .tenantUuid),
      .create .tenants (allPolicy .tenantsAdmin (.roleIn ["admin"]))]

/-- The policies before `0025_M24`. -/
def catalogBeforeRename : RlsCatalog :=
  RlsCatalog.empty.migrate (upgrade0005 ++ upgrade0007 ++ upgrade0013 ++ upgrade0013b ++
    upgrade0018 ++ upgrade0019)

/-- The policies of the current schema. -/
def headCatalog : RlsCatalog :=
  catalogBeforeRename.migrate (upgrade0025 ++ upgrade0030)

/-! ## The security of a table -/

section Security

variable {α : Type*}

def CreatedPolicy.policy (p : CreatedPolicy) : Policy DbSession (TenantRow α) :=
  ⟨p.command, p.using_.map PolicyExpr.eval, p.withCheck.map PolicyExpr.eval⟩

def TableSecurity.security (t : TableSecurity) : RowSecurity DbSession (TenantRow α) :=
  ⟨t.enabled, t.forced, t.policies.map CreatedPolicy.policy⟩

/-- What the foreign keys with an action read and write in a row. -/
structure RowColumns (α : Type*) where
  id : α → Uuid
  userId : α → Option Uuid
  createdBy : α → Option Uuid
  clearCreatedBy : α → α
  dualRunId : α → Option Uuid
  clearDualRunId : α → α

variable (cols : RowColumns α)

def RowColumns.primaryKey (t : RlsTable) (row : TenantRow α) : Uuid :=
  if t = .tenants then row.tenantId else cols.id row.content

/-- The primary key, and the triggers that leave rows out: `ops.deny_factor_mutation` and
`calc.trg_fn_fpa_deny_mutation` return `NEW`, which is null on a deletion. What can only refuse a
statement is not here. -/
def migratedRules (t : RlsTable) : TableRules (TenantRow α) where
  check _ := true
  clash a b := cols.primaryKey t a = cols.primaryKey t b
  beforeUpdate _ new := .proceed new
  beforeDelete row :=
    if t = .factorCatalog ∨ t = .factorPublishApprovals then .skip else .proceed row

/-- The foreign keys of `0017_M16`, `0020_M19` and `0021_M20`. -/
def migratedForeignKeys : List (ForeignKey RlsTable Uuid (TenantRow α)) :=
  [⟨.sessions, .users, fun row => cols.userId row.content, cols.primaryKey .users, .cascade⟩,
    ⟨.sessions, .tenants, fun row => some row.tenantId, cols.primaryKey .tenants, .cascade⟩,
    ⟨.factorCatalog, .users, fun row => cols.createdBy row.content, cols.primaryKey .users,
      .setNull fun row => { row with content := cols.clearCreatedBy row.content }⟩,
    ⟨.calcRuns, .calcRuns, fun row => cols.dualRunId row.content, cols.primaryKey .calcRuns,
      .setNull fun row => { row with content := cols.clearDualRunId row.content }⟩]

/-- The schema of a catalog; `refuses` and `commits` stand for the constraints, triggers and
privileges that can only refuse. -/
def RlsCatalog.schema (catalog : RlsCatalog)
    (refuses : (RlsTable → List (TenantRow α)) → DbSession → RlsTable →
      RowStatement (TenantRow α) → Option StatementError)
    (commits : (RlsTable → List (TenantRow α)) → DbSession → Bool) :
    SecuredSchema DbSession RlsTable Uuid (TenantRow α) where
  tables t := ⟨(catalog t).security, migratedRules cols t⟩
  foreignKeys := migratedForeignKeys cols
  refuses := refuses
  commits := commits

end Security

end GhgTool
