import GhgTool.RlsPolicies

/-!
# Isolation of tenants

What a session may do on each table follows from the policies that the migrations leave, unless its
role bypasses them. Apart from `ref.tenants`, where the role `admin` meets every row, a session meets
and writes the rows of its tenant only; on the tables of the imports, the factors, the findings and
the audit trail it can at most add rows. The foreign keys pass by the policies: a draft of
`ref.factor_catalog` loses its author with the deletion of the user.
-/

namespace GhgTool

/-! ## The policies that are left -/

/-- The policies of a table with given role codes, those of `ref.tenants` apart. -/
def RlsTable.policies (codes : RoleCodes) : RlsTable → List CreatedPolicy
  | emissionsConsolidated =>
      [allPolicy .emissionsTenantIsolation .tenantUuid,
        selectPolicy .emissionsAuditorSelect
          (roleAndTenant [codes.auditor, codes.manager, codes.steward]),
        insertPolicy .emissionsStewardInsert (roleAndTenant [codes.steward, codes.manager])]
  | scope1Ingestions => raw .scope1Ingestions
  | scope2Ingestions => raw .scope2Ingestions
  | scope3Ingestions => raw .scope3Ingestions
  | ingestionBatches => raw .ingestionBatches
  | intensityReferences => raw .intensityReferences
  | factorCatalog => pair .factorSelectAll .factorInsertSteward (roleAndTenant [codes.steward])
  | goCertificateEvidence => pair .goSelect .goInsertSteward (roleAndTenant [codes.steward])
  | dqFindings => pair .dqSelectAll .dqInsert (roleAndTenant [codes.steward, codes.manager])
  | dlq => pair .dlqSelect .dlqInsert (roleAndTenant [codes.steward])
  | auditLog => pair .auditSelect .auditInsert .tenantUuid
  | reportSnapshots =>
      pair .reportSnapshotsSelect .reportSnapshotsInsert (roleAndTenant [codes.manager])
  | sbtiTargets => [isolationPolicy .sbtiTargetsTenant .tenantText]
  | chartAnnotations => [allPolicy .chartAnnotationsTenant .tenantText]
  | sessions => [isolationPolicy .sessionsTenantIsolation .tenantUuid]
  | calcRuns => [isolationPolicy .calcRunsTenantIsolation .tenantUuid]
  | factorPublishApprovals => [isolationPolicy .fpaTenantIsolation .tenantUuid]
  | users => [isolationPolicy .usersTenantIsolation .tenantUuid]
  | tenants => []
where
  pair (select insert : PolicyName) (expr : PolicyExpr) : List CreatedPolicy :=
    [selectPolicy select .tenantUuid, insertPolicy insert expr]
  raw (table : RlsTable) : List CreatedPolicy :=
    pair (.rawSelect table) (.rawInsert table) (roleAndTenant [codes.steward])

/-- Before the rename, every table but `ref.tenants` is under forced row-level security. -/
theorem catalogBeforeRename_apply (t : RlsTable) : catalogBeforeRename t =
    ⟨t ≠ .tenants, t ≠ .tenants, t.policies seededCodes⟩ := by
  rw [catalogBeforeRename, migrate_apply]
  cases t <;> rfl

theorem headCatalog_policies (t : RlsTable) (ht : t ≠ .tenants) :
    (headCatalog t).policies = t.policies genericCodes := by
  cases t
  case tenants => exact absurd rfl ht
  all_goals rfl

theorem headCatalog_tenants : (headCatalog .tenants).policies =
    [isolationPolicy .tenantsSelf .tenantUuid, allPolicy .tenantsAdmin (.roleIn ["admin"])] :=
  rfl

/-- Whom the policies of a table let do what: the own tenant anything; that, and the administrators
of every tenant anything; or the own tenant reads, and adds rows where the role is one of
`inserters`, if it is asked for. -/
inductive RlsAccess
  | isolated
  | administered
  | appendOnly (inserters : Option (List String))
  deriving DecidableEq

def RlsTable.access : RlsTable → RlsAccess
  | scope1Ingestions | scope2Ingestions | scope3Ingestions | ingestionBatches
  | intensityReferences | factorCatalog | goCertificateEvidence | dlq => .appendOnly (some ["editor"])
  | dqFindings => .appendOnly (some ["editor", "admin"])
  | reportSnapshots => .appendOnly (some ["admin"])
  | auditLog => .appendOnly none
  | tenants => .administered
  | sbtiTargets | users | emissionsConsolidated | factorPublishApprovals | sessions | calcRuns
  | chartAnnotations => .isolated

/-- The rows of the session's tenant. -/
def DbSession.owns {α : Type*} (s : DbSession) (row : TenantRow α) : Bool :=
  s.tenantId = some row.tenantId

def DbSession.isAdmin (s : DbSession) : Bool :=
  s.roleCode = some "admin"

/-- The session meets the row with a `SELECT`, an `UPDATE` or a `DELETE`. -/
def RlsAccess.reads {α : Type*} (command : SqlCommand) (s : DbSession) (row : TenantRow α) :
    RlsAccess → Bool
  | isolated => s.owns row
  | administered => s.owns row || s.isAdmin
  | appendOnly _ => command = .select && s.owns row

/-- The session may write the row with an `INSERT` or an `UPDATE`. -/
def RlsAccess.writes {α : Type*} (command : SqlCommand) (s : DbSession) (row : TenantRow α) :
    RlsAccess → Bool
  | isolated => s.owns row
  | administered => s.owns row || s.isAdmin
  | appendOnly inserters =>
      command = .insert && (inserters.all fun codes => s.roleCode.any codes.contains) && s.owns row

section Decisions

variable {α : Type*} {s : DbSession} {row : TenantRow α}

theorem eval_tenantText : PolicyExpr.tenantText.eval s row = s.owns row := by
  simp only [PolicyExpr.eval, DbSession.owns]
  cases s.tenantId with
  | none => simp
  | some tenantId => simp [uuidText_injective.eq_iff]

theorem eval_roleAndTenant (codes : List String) :
    (roleAndTenant codes).eval s row = (s.roleCode.any codes.contains && s.owns row) :=
  rfl

theorem eval_tenantUuid : PolicyExpr.tenantUuid.eval s row = s.owns row :=
  rfl

theorem eval_adminOnly : (PolicyExpr.roleIn ["admin"]).eval s row = s.isAdmin := by
  simp only [PolicyExpr.eval, DbSession.isAdmin]
  cases s.roleCode with
  | none => rfl
  | some code => simp

variable (s row)

theorem headCatalog_forced (t : RlsTable) :
    (headCatalog t).enabled = true ∧ (headCatalog t).forced = true := by
  cases t <;> exact ⟨rfl, rfl⟩

theorem headCatalog_applies (t : RlsTable) (hs : s.bypassesRls = false) :
    ((headCatalog t).security (α := α)).applies dbStanding s = true := by
  obtain ⟨henabled, hforced⟩ := headCatalog_forced t
  simp [RowSecurity.applies, TableSecurity.security, dbStanding, henabled, hforced, hs]

/-- Some policy of the list lets the session meet the row. -/
def meetsAny (command : SqlCommand) (policies : List CreatedPolicy) : Bool :=
  (policies.map CreatedPolicy.policy).any fun p => p.appliesTo command && p.reads s row

/-- Some policy of the list lets the session write the row. -/
def writesAny (command : SqlCommand) (policies : List CreatedPolicy) : Bool :=
  (policies.map CreatedPolicy.policy).any fun p => p.appliesTo command && p.checks s row

variable {s row} {name name' : PolicyName} {expr : PolicyExpr} {command : SqlCommand}

theorem meetsAny_all (hexpr : expr.eval s row = s.owns row) :
    meetsAny s row command [allPolicy name expr] = s.owns row := by
  simp [meetsAny, allPolicy, CreatedPolicy.policy, Policy.appliesTo, Policy.reads, hexpr]

theorem meetsAny_isolation (hexpr : expr.eval s row = s.owns row) :
    meetsAny s row command [isolationPolicy name expr] = s.owns row := by
  simp [meetsAny, isolationPolicy, CreatedPolicy.policy, Policy.appliesTo, Policy.reads, hexpr]

theorem writesAny_all (hexpr : expr.eval s row = s.owns row) :
    writesAny s row command [allPolicy name expr] = s.owns row := by
  simp [writesAny, allPolicy, CreatedPolicy.policy, Policy.appliesTo, Policy.checks, Policy.reads,
    hexpr]

theorem writesAny_isolation (hexpr : expr.eval s row = s.owns row) :
    writesAny s row command [isolationPolicy name expr] = s.owns row := by
  simp [writesAny, isolationPolicy, CreatedPolicy.policy, Policy.appliesTo, Policy.checks, hexpr]

/-- The policies of a table to which rows can only be added. -/
theorem meetsAny_pair :
    meetsAny s row command (RlsTable.policies.pair name name' expr) =
      (decide (command = .select) && s.owns row) := by
  cases command <;>
    simp [meetsAny, RlsTable.policies.pair, selectPolicy, insertPolicy, CreatedPolicy.policy,
      Policy.appliesTo, Policy.reads, eval_tenantUuid]

theorem writesAny_pair (hcommand : command = .insert ∨ command = .update) :
    writesAny s row command (RlsTable.policies.pair name name' expr) =
      (decide (command = .insert) && expr.eval s row) := by
  rcases hcommand with rfl | rfl <;>
    simp [writesAny, RlsTable.policies.pair, selectPolicy, insertPolicy, CreatedPolicy.policy,
      Policy.appliesTo, Policy.checks]

/-- The isolation policy of the ledger is for all commands: next to it, those that ask for a role
neither grant nor refuse anything. -/
theorem meetsAny_emissions (codes : RoleCodes) :
    meetsAny s row command (RlsTable.policies codes .emissionsConsolidated) = s.owns row := by
  cases command <;>
    simp [meetsAny, RlsTable.policies, allPolicy, selectPolicy, insertPolicy,
      CreatedPolicy.policy, Policy.appliesTo, Policy.reads, eval_tenantUuid, eval_roleAndTenant]

theorem writesAny_emissions (codes : RoleCodes) :
    writesAny s row command (RlsTable.policies codes .emissionsConsolidated) =
      s.owns row := by
  cases command <;>
    simp [writesAny, RlsTable.policies, allPolicy, selectPolicy, insertPolicy,
      CreatedPolicy.policy, Policy.appliesTo, Policy.checks, Policy.reads, eval_tenantUuid,
      eval_roleAndTenant]

variable (s row)

theorem permits_eq_meetsAny (t : RlsTable) (hs : s.bypassesRls = false) :
    ((headCatalog t).security).permits dbStanding command s row =
      meetsAny s row command (headCatalog t).policies := by
  unfold RowSecurity.permits
  rw [headCatalog_applies s t hs]
  rfl

theorem admits_eq_writesAny (t : RlsTable) (hs : s.bypassesRls = false) :
    ((headCatalog t).security).admits dbStanding command s row =
      writesAny s row command (headCatalog t).policies := by
  unfold RowSecurity.admits
  rw [headCatalog_applies s t hs]
  rfl

theorem permits_head (t : RlsTable) (hs : s.bypassesRls = false) :
    ((headCatalog t).security).permits dbStanding command s row =
      t.access.reads command s row := by
  rw [permits_eq_meetsAny s row t hs]
  by_cases ht : t = .tenants
  · subst ht
    rw [headCatalog_tenants]
    simp [meetsAny, isolationPolicy, allPolicy, CreatedPolicy.policy, Policy.appliesTo,
      Policy.reads, eval_tenantUuid, eval_adminOnly, RlsTable.access, RlsAccess.reads]
  · rw [headCatalog_policies t ht]
    cases t
    case tenants => exact absurd rfl ht
    case emissionsConsolidated => exact meetsAny_emissions _
    case chartAnnotations => exact meetsAny_all eval_tenantText
    case sbtiTargets => exact meetsAny_isolation eval_tenantText
    case sessions | calcRuns | factorPublishApprovals | users =>
      exact meetsAny_isolation eval_tenantUuid
    all_goals exact meetsAny_pair

theorem admits_head (t : RlsTable) (hs : s.bypassesRls = false)
    (hcommand : command = .insert ∨ command = .update) :
    ((headCatalog t).security).admits dbStanding command s row =
      t.access.writes command s row := by
  rw [admits_eq_writesAny s row t hs]
  by_cases ht : t = .tenants
  · subst ht
    rw [headCatalog_tenants]
    simp [writesAny, isolationPolicy, allPolicy, CreatedPolicy.policy, Policy.appliesTo,
      Policy.checks, Policy.reads, eval_tenantUuid, eval_adminOnly, RlsTable.access,
      RlsAccess.writes]
  · rw [headCatalog_policies t ht]
    cases t
    case tenants => exact absurd rfl ht
    case emissionsConsolidated => exact writesAny_emissions _
    case chartAnnotations => exact writesAny_all eval_tenantText
    case sbtiTargets => exact writesAny_isolation eval_tenantText
    case sessions | calcRuns | factorPublishApprovals | users =>
      exact writesAny_isolation eval_tenantUuid
    case auditLog =>
      refine (writesAny_pair hcommand).trans ?_
      simp [eval_tenantUuid, RlsTable.access, RlsAccess.writes]
    all_goals
      refine (writesAny_pair hcommand).trans ?_
      simp [eval_roleAndTenant, genericCodes, RlsTable.access, RlsAccess.writes, Bool.and_assoc]

end Decisions

/-! ## Isolation -/

section Isolation

variable {α : Type*} {cols : RowColumns α}
  {refuses : (RlsTable → List (TenantRow α)) → DbSession → RlsTable →
    RowStatement (TenantRow α) → Option StatementError}
  {commits : (RlsTable → List (TenantRow α)) → DbSession → Bool}
  {txs : List (Transaction DbSession RlsTable (TenantRow α))}

def TenantRow.home (row : TenantRow α) : Option Uuid :=
  some row.tenantId

theorem owns_eq_true {s : DbSession} {row : TenantRow α} :
    s.owns row = true ↔ row.home = s.tenantId := by
  unfold DbSession.owns TenantRow.home
  rw [decide_eq_true_eq, eq_comm]

/-- The policies confine a session to its tenant, except an administrator on `ref.tenants`. -/
theorem confines_head {t : RlsTable} {s : DbSession} (hs : s.bypassesRls = false)
    (h : t = .tenants → s.isAdmin = false) :
    Confines (TenantRow.home (α := α)) DbSession.tenantId dbStanding
      ((headCatalog t).security) s := by
  have hreads : ∀ command (row : TenantRow α), t.access.reads command s row = true →
      s.owns row = true := by
    intro command row hrow
    cases haccess : t.access with
    | isolated => simpa [haccess, RlsAccess.reads] using hrow
    | administered =>
        have ht : t = .tenants := by cases t <;> first | rfl | cases haccess
        simpa [haccess, RlsAccess.reads, h ht] using hrow
    | appendOnly inserters =>
        rw [haccess] at hrow
        exact (Bool.and_eq_true_iff.mp hrow).2
  have hwrites : ∀ command (row : TenantRow α), t.access.writes command s row = true →
      s.owns row = true := by
    intro command row hrow
    cases haccess : t.access with
    | isolated => simpa [haccess, RlsAccess.writes] using hrow
    | administered =>
        have ht : t = .tenants := by cases t <;> first | rfl | cases haccess
        simpa [haccess, RlsAccess.writes, h ht] using hrow
    | appendOnly inserters =>
        rw [haccess] at hrow
        exact (Bool.and_eq_true_iff.mp hrow).2
  refine ⟨fun command row hrow => ?_, fun row hrow => ?_, fun row hrow => ?_⟩
  · rw [permits_head _ _ _ hs] at hrow
    exact owns_eq_true.mp (hreads command row hrow)
  · rw [admits_head _ _ _ hs (.inl rfl)] at hrow
    exact owns_eq_true.mp (hwrites .insert row hrow)
  · rw [admits_head _ _ _ hs (.inr rfl)] at hrow
    exact owns_eq_true.mp (hwrites .update row hrow)

theorem keysSound_head : KeysSound TenantRow.home (headCatalog.schema cols refuses commits) where
  symm _ _ _ := decide_eq_decide.mpr eq_comm
  unique fk hfk a b hkey := by
    simp only [RlsCatalog.schema, migratedForeignKeys, List.mem_cons, List.not_mem_nil,
      or_false] at hfk
    rcases hfk with rfl | rfl | rfl | rfl <;> exact decide_eq_true hkey
  stays fk hfk clear hclear row new hnew := by
    simp only [RlsCatalog.schema, migratedForeignKeys, List.mem_cons, List.not_mem_nil,
      or_false] at hfk
    obtain rfl := Verdict.proceed.inj hnew
    rcases hfk with rfl | rfl | rfl | rfl <;> cases hclear <;> rfl

/-- The steps of the database: transactions under the policies of the current schema. -/
abbrev rlsTransact (cols : RowColumns α)
    (refuses : (RlsTable → List (TenantRow α)) → DbSession → RlsTable →
      RowStatement (TenantRow α) → Option StatementError)
    (commits : (RlsTable → List (TenantRow α)) → DbSession → Bool) :
    SecuredState DbSession RlsTable (TenantRow α) →
      Transaction DbSession RlsTable (TenantRow α) → SecuredState DbSession RlsTable (TenantRow α) :=
  transact dbStanding (headCatalog.schema cols refuses commits)

/-- The role is under the policies, and an administrator leaves `ref.tenants` alone. -/
def UnderPolicies (tx : Transaction DbSession RlsTable (TenantRow α)) : Prop :=
  tx.session.bypassesRls = false ∧
    (tx.session.isAdmin = true → tx.program.Within fun t => t ≠ .tenants)

theorem confined_of_underPolicies {tx : Transaction DbSession RlsTable (TenantRow α)}
    (htx : UnderPolicies tx) :
    tx.Confined TenantRow.home DbSession.tenantId dbStanding
      (headCatalog.schema cols refuses commits) := by
  cases hadmin : tx.session.isAdmin with
  | false =>
      exact SessionProgram.within_of_forall (fun _ => confines_head htx.1 fun _ => hadmin) _
  | true =>
      refine (htx.2 hadmin).imp fun t ht => confines_head htx.1 fun htenants => ?_
      exact absurd htenants ht

/-- Whatever transactions are run: no session is told of a row that is not of its tenant; and those
of other tenants leave the rows of a tenant as they are, where these refer to rows of the tenant and
the primary keys are unique. What the schema refuses besides makes no difference. -/
theorem tenants_do_not_interfere (cols : RowColumns α)
    (refuses : (RlsTable → List (TenantRow α)) → DbSession → RlsTable →
      RowStatement (TenantRow α) → Option StatementError)
    (commits : (RlsTable → List (TenantRow α)) → DbSession → Bool)
    (htxs : ∀ tx ∈ txs, UnderPolicies tx) (st : SecuredState DbSession RlsTable (TenantRow α)) :
    (∀ entry ∈ (run (rlsTransact cols refuses commits) st txs).history, entry ∈ st.history ∨
      ∀ returned, .ok returned ∈ entry.2 → ∀ row ∈ returned,
        entry.1.tenantId = some row.tenantId) ∧
    ∀ tenant : Uuid, (∀ tx ∈ txs, tx.session.tenantId ≠ some tenant) →
      AllLawful (headCatalog.schema cols refuses commits) st.rows →
      RefersHome TenantRow.home (headCatalog.schema cols refuses commits) (some tenant) st.rows →
      ∀ t, ofHome TenantRow.home (some tenant)
          ((run (rlsTransact cols refuses commits) st txs).rows t) =
        ofHome TenantRow.home (some tenant) (st.rows t) := by
  constructor
  · intro entry hentry
    refine (transact_run_answers (fun tx htx => confined_of_underPolicies (htxs tx htx)) entry
      hentry).imp_right fun htold returned hreturned row hrow => ?_
    exact (htold returned hreturned row hrow).symm
  · intro tenant hothers hrows hrefers t
    exact transact_run_frame keysSound_head
      (fun tx htx => ⟨confined_of_underPolicies (htxs tx htx), hothers tx htx⟩) hrows hrefers t

structure KeyColumns where
  id : Uuid
  userId : Option Uuid := none
  createdBy : Option Uuid := none
  dualRunId : Option Uuid := none
  deriving DecidableEq

def keyColumns : RowColumns KeyColumns where
  id := KeyColumns.id
  userId := KeyColumns.userId
  createdBy := KeyColumns.createdBy
  clearCreatedBy c := { c with createdBy := none }
  dualRunId := KeyColumns.dualRunId
  clearDualRunId c := { c with dualRunId := none }

/-- A user of each of two tenants, with a session and a draft. -/
def twoTenantRows : RlsTable → List (TenantRow KeyColumns)
  | .users => [⟨1, { id := 11 }⟩, ⟨2, { id := 12 }⟩]
  | .sessions => [⟨1, { id := 21, userId := some 11 }⟩, ⟨2, { id := 22, userId := some 12 }⟩]
  | .factorCatalog =>
      [⟨1, { id := 31, createdBy := some 11 }⟩, ⟨2, { id := 32, createdBy := some 12 }⟩]
  | .tenants => [⟨1, { id := 1 }⟩, ⟨2, { id := 2 }⟩]
  | _ => []

def appSession (tenantId : Uuid) (role : RoleCode) : DbSession :=
  setSessionGucs ⟨none, none, true, false⟩ tenantId role.code

/-- The second tenant deletes all the users it meets and adds a finding. -/
def secondTenant : List (Transaction DbSession RlsTable (TenantRow KeyColumns)) :=
  [⟨appSession 2 .admin, .perform .users (.delete fun _ => true) fun _ => .commit⟩,
    ⟨appSession 2 .editor, .perform .dqFindings (.insert ⟨2, { id := 41 }⟩ true) fun _ => .commit⟩]

theorem underPolicies_secondTenant : ∀ tx ∈ secondTenant, UnderPolicies tx := by
  intro tx htx
  simp only [secondTenant, List.mem_cons, List.not_mem_nil, or_false] at htx
  rcases htx with rfl | rfl
  · exact ⟨rfl, fun _ => ⟨by decide, fun _ => trivial⟩⟩
  · exact ⟨rfl, fun _ => ⟨by decide, fun _ => trivial⟩⟩

theorem lawful_twoTenantRows {refuses commits} :
    AllLawful (headCatalog.schema keyColumns refuses commits) twoTenantRows := by
  intro t
  refine ⟨fun _ _ => rfl, ?_⟩
  cases t <;> simp [twoTenantRows, RlsCatalog.schema, migratedRules, RowColumns.primaryKey,
    keyColumns]

theorem refersHome_twoTenantRows {refuses commits} :
    RefersHome TenantRow.home (headCatalog.schema keyColumns refuses commits) (some 1)
      twoTenantRows := by
  intro fk hfk
  simp only [RlsCatalog.schema, migratedForeignKeys, List.mem_cons, List.not_mem_nil,
    or_false] at hfk
  rcases hfk with rfl | rfl | rfl | rfl <;>
    simp [twoTenantRows, ofHome, TenantRow.home, RowColumns.primaryKey, keyColumns]

/-- The session of the deleted user goes with it, and the draft loses its author. -/
theorem tenants_do_not_interfere_of_deletion :
    (run (rlsTransact keyColumns (fun _ _ _ _ => none) fun _ _ => true) ⟨twoTenantRows, []⟩
        secondTenant).rows .factorCatalog =
      [⟨1, { id := 31, createdBy := some 11 }⟩, ⟨2, { id := 32 }⟩] ∧
    ∀ t, ofHome TenantRow.home (some 1)
        ((run (rlsTransact keyColumns (fun _ _ _ _ => none) fun _ _ => true) ⟨twoTenantRows, []⟩
          secondTenant).rows t) =
      ofHome TenantRow.home (some 1) (twoTenantRows t) :=
  ⟨by decide +kernel, (tenants_do_not_interfere keyColumns (fun _ _ _ _ => none)
    (fun _ _ => true) underPolicies_secondTenant ⟨twoTenantRows, []⟩).2 1
      (by decide) lawful_twoTenantRows refersHome_twoTenantRows⟩

/-! ## The tables that only grow -/

theorem frozen_head {t : RlsTable} {inserters : Option (List String)}
    (ht : t.access = .appendOnly inserters) {s : DbSession} (hs : s.bypassesRls = false) :
    Frozen dbStanding ((headCatalog t).security (α := α)) s := by
  intro row
  rw [permits_head _ _ _ hs, permits_head _ _ _ hs, ht]
  exact ⟨rfl, rfl⟩

/-- On a table whose policies name no update and no deletion, whatever statements are run: the rows
stay, unchanged and in their order, and a row is added for its own tenant by a session with one of
the roles that may. Only in `ref.factor_catalog` a foreign key changes rows. -/
theorem append_only_run (cols : RowColumns α)
    (refuses : (RlsTable → List (TenantRow α)) → DbSession → RlsTable →
      RowStatement (TenantRow α) → Option StatementError)
    (commits : (RlsTable → List (TenantRow α)) → DbSession → Bool)
    {t : RlsTable} {inserters : Option (List String)} (ht : t.access = .appendOnly inserters)
    (hkeys : t ≠ .factorCatalog) (htxs : ∀ tx ∈ txs, tx.session.bypassesRls = false)
    (st : SecuredState DbSession RlsTable (TenantRow α)) :
    GrownBy (fun row => ∃ tx ∈ txs, tx.session.tenantId = some row.tenantId ∧
        ∀ codes ∈ inserters, ∃ code ∈ tx.session.roleCode, code ∈ codes)
      (st.rows t) ((run (rlsTransact cols refuses commits) st txs).rows t) := by
  have hchildren : ∀ fk ∈ (headCatalog.schema cols refuses commits).foreignKeys,
      fk.child ≠ t := by
    intro fk hfk
    simp only [RlsCatalog.schema, migratedForeignKeys, List.mem_cons, List.not_mem_nil,
      or_false] at hfk
    rcases hfk with rfl | rfl | rfl | rfl
    · rintro rfl
      cases ht
    · rintro rfl
      cases ht
    · exact hkeys.symm
    · rintro rfl
      cases ht
  refine (transact_run_grownBy (fun tx htx => frozen_head ht (htxs tx htx)) hchildren st).imp ?_
  rintro row ⟨tx, htx, hrow⟩
  change ((headCatalog t).security).admits dbStanding .insert tx.session row = true at hrow
  rw [admits_head _ _ _ (htxs tx htx) (.inl rfl), ht] at hrow
  simp only [RlsAccess.writes, Bool.and_eq_true, decide_true, true_and] at hrow
  refine ⟨tx, htx, (owns_eq_true.mp hrow.2).symm, fun codes hcodes => ?_⟩
  have hinserter := hrow.1
  rw [Option.mem_def.mp hcodes, Option.all_some] at hinserter
  simpa [Option.any_eq_true] using hinserter

theorem dqFindings_append_only :
    (run (rlsTransact keyColumns (fun _ _ _ _ => none) fun _ _ => true) ⟨twoTenantRows, []⟩
        secondTenant).rows .dqFindings = [⟨2, { id := 41 }⟩] ∧
      GrownBy (fun row => ∃ tx ∈ secondTenant, tx.session.tenantId = some row.tenantId ∧
          ∀ codes ∈ some ["editor", "admin"], ∃ code ∈ tx.session.roleCode, code ∈ codes)
        (twoTenantRows .dqFindings)
        ((run (rlsTransact keyColumns (fun _ _ _ _ => none) fun _ _ => true) ⟨twoTenantRows, []⟩
          secondTenant).rows .dqFindings) :=
  ⟨by decide +kernel, append_only_run keyColumns (fun _ _ _ _ => none) (fun _ _ => true) rfl
    (by decide) (fun tx htx => (underPolicies_secondTenant tx htx).1) ⟨twoTenantRows, []⟩⟩

end Isolation

end GhgTool
