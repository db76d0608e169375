import GhgTool.TenantIsolation

/-!
# The rename of the roles

`0025_M24` gives the three roles their generic codes, in `ref.roles` with one update for each role,
and in the policies that name a code. Neither side may change what a user can do.
-/

namespace GhgTool

structure RoleRow where
  id : Uuid
  roleCode : String
  description : String
  deriving DecidableEq

/-- The primary key, and `UNIQUE (role_code)`. -/
def roleRules : TableRules RoleRow where
  check _ := true
  clash a b := a.id = b.id || a.roleCode = b.roleCode
  beforeUpdate _ new := .proceed new
  beforeDelete row := .proceed row

/-- `UPDATE ref.roles SET role_code = …, description = … WHERE role_code = …`. -/
structure RoleUpdate where
  source : String
  target : String
  description : String

def RoleUpdate.set (u : RoleUpdate) (row : RoleRow) : RoleRow :=
  { row with roleCode := u.target, description := u.description }

def RoleUpdate.hits (u : RoleUpdate) (row : RoleRow) : Bool :=
  row.roleCode = u.source

def updateRole (rows : List RoleRow) (u : RoleUpdate) : Except StatementError (List RoleRow) :=
  updateRows roleRules u.hits u.set rows

/-- The updates of `ref.roles` in `upgrade`. -/
def roleUpgrades : List RoleUpdate :=
  [⟨"esg_manager", "admin",
      "Approves reports, signs off CSRD disclosure, manages factor catalog publish workflow"⟩,
    ⟨"data_steward", "editor", "Inputs and corrects data; manages factor catalog drafts"⟩,
    ⟨"auditor", "viewer", "Read-only review — ISAE 3000 Limited assurance provider"⟩]

/-- The updates of `ref.roles` in `downgrade`. -/
def roleDowngrades : List RoleUpdate :=
  [⟨"admin", "esg_manager", "Approves reports, signs off CSRD disclosure, waives DQ-WARN"⟩,
    ⟨"editor", "data_steward", "Inputs and validates raw activity data; manages factor catalog"⟩,
    ⟨"viewer", "auditor", "Read-only review — ISAE 3000 Limited assurance provider"⟩]

def upgradeRoles (rows : List RoleRow) : Except StatementError (List RoleRow) :=
  roleUpgrades.foldlM updateRole rows

def downgradeRoles (rows : List RoleRow) : Except StatementError (List RoleRow) :=
  roleDowngrades.foldlM updateRole rows

/-- The roles that `0001_M0` seeds, with ids that the database draws. -/
def seededRoles : List RoleRow :=
  [⟨1, "data_steward", "Inputs and validates raw activity data; manages factor catalog"⟩,
    ⟨2, "esg_manager", "Approves reports, signs off CSRD disclosure, waives DQ-WARN"⟩,
    ⟨3, "auditor", "Read-only review — ISAE 3000 Limited assurance provider"⟩]

/-! ## One update -/

def HasCode (rows : List RoleRow) (code : String) : Prop :=
  ∃ r ∈ rows, r.roleCode = code

def RoleUpdate.apply (u : RoleUpdate) (row : RoleRow) : RoleRow :=
  if u.hits row then u.set row else row

section Update

variable {u : RoleUpdate} {rows rows' : List RoleRow} {code : String}

theorem roleClash_symm (a b : RoleRow) : roleRules.clash a b = roleRules.clash b a := by
  simp only [roleRules]
  congr 1 <;> exact decide_eq_decide.mpr eq_comm

/-- At most one role has the code that is updated. -/
theorem split_at_code (hrows : Lawful roleRules rows) (hcode : HasCode rows u.source) :
    ∃ before row after, rows = before ++ row :: after ∧ u.hits row = true ∧
      (∀ r ∈ before, u.hits r = false) ∧ ∀ r ∈ after, u.hits r = false := by
  obtain ⟨row, hmem, hrow⟩ := hcode
  obtain ⟨before, after, rfl⟩ := List.append_of_mem hmem
  obtain ⟨-, hafter, hcross⟩ := List.pairwise_append.mp hrows.unique
  have hne : ∀ r, roleRules.clash row r = false → u.hits r = false := by
    intro r hclash
    have hcodes : ¬ row.roleCode = r.roleCode := by
      intro h
      simp [roleRules, h] at hclash
    simpa [RoleUpdate.hits, ← hrow, eq_comm] using hcodes
  refine ⟨before, row, after, rfl, by simpa [RoleUpdate.hits] using hrow, fun r hr => ?_,
    fun r hr => ?_⟩
  · refine hne r ?_
    rw [roleClash_symm]
    exact hcross r hr row (by simp)
  · exact hne r ((List.pairwise_cons.mp hafter).1 r hr)

theorem map_apply_of_not_hit (h : ∀ r ∈ rows, u.hits r = false) : rows.map u.apply = rows := by
  refine (List.map_congr_left fun r hr => ?_).trans (List.map_id rows)
  rw [RoleUpdate.apply, if_neg (by simp [h r hr]), id]

theorem id_ne_of_lawful {before after : List RoleRow} {row r : RoleRow}
    (hrows : Lawful roleRules (before ++ row :: after)) (hr : r ∈ before ++ after) :
    r.id ≠ row.id := by
  obtain ⟨-, hpost, hcross⟩ := List.pairwise_append.mp hrows.unique
  intro hid
  rcases List.mem_append.mp hr with hr | hr
  · have := hcross r hr row (by simp)
    simp [roleRules, hid] at this
  · have := (List.pairwise_cons.mp hpost).1 r hr
    simp [roleRules, hid] at this

/-- The updated row clashes with another when that has the target code already. -/
theorem any_clash_set_iff {before after : List RoleRow} {row : RoleRow}
    (hrows : Lawful roleRules (before ++ row :: after)) (hhit : u.hits row = true)
    (hothers : ∀ r ∈ before ++ after, u.hits r = false) :
    (before ++ after).any (roleRules.clash (u.set row)) = true ↔
      HasCode (before ++ row :: after) u.target ∧ u.source ≠ u.target := by
  have hmem : ∀ r, r ∈ before ++ row :: after ↔ r = row ∨ r ∈ before ++ after := fun r =>
    List.perm_middle.mem_iff.trans List.mem_cons
  rw [List.any_eq_true]
  constructor
  · rintro ⟨r, hr, hr'⟩
    have hcode : u.target = r.roleCode := by
      simp only [roleRules, RoleUpdate.set, Bool.or_eq_true, decide_eq_true_eq] at hr'
      exact hr'.resolve_left fun h => id_ne_of_lawful hrows hr h.symm
    refine ⟨⟨r, (hmem r).mpr (.inr hr), hcode.symm⟩, fun hsame => ?_⟩
    have hmiss := hothers r hr
    simp [RoleUpdate.hits, hsame, hcode] at hmiss
  · rintro ⟨⟨r, hr, hcode⟩, hne⟩
    refine ⟨r, ?_, by simp [roleRules, RoleUpdate.set, hcode]⟩
    rcases (hmem r).mp hr with rfl | hr
    · have : r.roleCode = u.source := by simpa [RoleUpdate.hits] using hhit
      exact absurd (this.symm.trans hcode) hne
    · exact hr

theorem updateRole_spec (hrows : Lawful roleRules rows) :
    (HasCode rows u.source ∧ HasCode rows u.target ∧ u.source ≠ u.target ∧
        updateRole rows u = .error .uniqueViolation) ∨
      (¬ (HasCode rows u.source ∧ HasCode rows u.target ∧ u.source ≠ u.target) ∧
        updateRole rows u = .ok (rows.map u.apply)) := by
  by_cases hsource : HasCode rows u.source
  · obtain ⟨before, row, after, rfl, hhit, hbefore, hafter⟩ := split_at_code hrows hsource
    have hupdate : updateRole (before ++ row :: after) u =
        if (before ++ after).any (roleRules.clash (u.set row)) then .error .uniqueViolation
        else .ok (before ++ u.set row :: after) :=
      updateRows_single hhit hbefore hafter rfl rfl
    have hmap : (before ++ row :: after).map u.apply = before ++ u.set row :: after := by
      rw [List.map_append, List.map_cons, map_apply_of_not_hit hbefore,
        map_apply_of_not_hit hafter, RoleUpdate.apply, if_pos hhit]
    have hothers : ∀ r ∈ before ++ after, u.hits r = false := fun r hr =>
      (List.mem_append.mp hr).elim (hbefore r) (hafter r)
    have hclash := any_clash_set_iff hrows hhit hothers
    rw [hupdate, hmap]
    by_cases htarget : (before ++ after).any (roleRules.clash (u.set row)) = true
    · rw [if_pos htarget]
      exact .inl ⟨hsource, (hclash.mp htarget).1, (hclash.mp htarget).2, rfl⟩
    · rw [if_neg htarget]
      exact .inr ⟨fun h => htarget (hclash.mpr h.2), rfl⟩
  · have hmiss : ∀ r ∈ rows, u.hits r = false := by
      intro r hr
      have : ¬ r.roleCode = u.source := fun h => hsource ⟨r, hr, h⟩
      simpa [RoleUpdate.hits] using this
    refine .inr ⟨fun h => hsource h.1, ?_⟩
    rw [map_apply_of_not_hit hmiss, updateRole, updateRows, ← List.append_nil rows,
      updateFrom_skip hmiss, updateFrom, List.append_nil, List.nil_append]

end Update

/-! ## All updates of a migration -/

def applyAll (us : List RoleUpdate) (row : RoleRow) : RoleRow :=
  us.foldl (fun row u => u.apply row) row

/-- No update touches the codes of another. -/
def Separate (us : List RoleUpdate) : Prop :=
  us.Pairwise fun u v => v.source ≠ u.source ∧ v.source ≠ u.target ∧ v.target ≠ u.source ∧
    v.target ≠ u.target

instance (us : List RoleUpdate) : Decidable (Separate us) :=
  inferInstanceAs (Decidable (us.Pairwise _))

section Updates

variable {u : RoleUpdate} {us : List RoleUpdate} {rows rows' : List RoleRow} {code : String}

theorem hasCode_map_apply (hsource : code ≠ u.source) (htarget : code ≠ u.target) :
    HasCode (rows.map u.apply) code ↔ HasCode rows code := by
  have hcode : ∀ r : RoleRow, (u.apply r).roleCode = code ↔ r.roleCode = code := by
    intro r
    by_cases hhit : u.hits r = true
    · have hr : r.roleCode = u.source := by simpa [RoleUpdate.hits] using hhit
      simp [RoleUpdate.apply, hhit, RoleUpdate.set, hr, hsource.symm, htarget.symm]
    · rw [RoleUpdate.apply, if_neg hhit]
  simp [HasCode, hcode]

theorem updateRole_lawful (hrows : Lawful roleRules rows) (h : updateRole rows u = .ok rows') :
    Lawful roleRules rows' :=
  updateRows_lawful roleClash_symm hrows h

/-- The updates of a migration succeed if none finds both of its codes, and then rename each row. -/
theorem foldlM_updateRole (hrows : Lawful roleRules rows) (hsep : Separate us)
    (hmoves : ∀ u ∈ us, u.source ≠ u.target) :
    ((∀ u ∈ us, ¬ (HasCode rows u.source ∧ HasCode rows u.target)) ∧
        us.foldlM updateRole rows = .ok (rows.map (applyAll us)) ∧
        Lawful roleRules (rows.map (applyAll us))) ∨
      (∃ u ∈ us, HasCode rows u.source ∧ HasCode rows u.target) ∧
        us.foldlM updateRole rows = .error .uniqueViolation := by
  induction us generalizing rows with
  | nil =>
      have hid : rows.map (applyAll []) = rows := List.map_id rows
      rw [hid]
      exact .inl ⟨by simp, rfl, hrows⟩
  | cons u us ih =>
      obtain ⟨hfirst, hrest⟩ := List.pairwise_cons.mp hsep
      rw [List.foldlM_cons]
      rcases updateRole_spec (u := u) hrows with ⟨hs, ht, -, herror⟩ | ⟨hnot, hok⟩
      · rw [herror]
        exact .inr ⟨⟨u, by simp, hs, ht⟩, rfl⟩
      · have hu : ¬ (HasCode rows u.source ∧ HasCode rows u.target) := fun h =>
          hnot ⟨h.1, h.2, hmoves u (by simp)⟩
        -- the codes of the later updates are as present as before
        have hsame : ∀ v ∈ us, (HasCode (rows.map u.apply) v.source ∧
            HasCode (rows.map u.apply) v.target ↔
              HasCode rows v.source ∧ HasCode rows v.target) := by
          intro v hv
          obtain ⟨h₁, h₂, h₃, h₄⟩ := hfirst v hv
          rw [hasCode_map_apply h₁ h₂, hasCode_map_apply h₃ h₄]
        rw [hok]
        rcases ih (updateRole_lawful hrows hok) hrest fun v hv => hmoves v (by simp [hv]) with
          ⟨hfree, hdone, hlawful⟩ | ⟨⟨v, hv, hboth⟩, herror⟩
        · rw [List.map_map] at hdone hlawful
          refine .inl ⟨fun v hv => ?_, hdone, hlawful⟩
          rcases List.mem_cons.mp hv with rfl | hv
          · exact hu
          · rw [← hsame v hv]
            exact hfree v hv
        · refine .inr ⟨⟨v, by simp [hv], (hsame v hv).mp hboth⟩, ?_⟩
          change us.foldlM updateRole (rows.map u.apply) = _
          exact herror

theorem separate_roleUpgrades : Separate roleUpgrades ∧ ∀ u ∈ roleUpgrades, u.source ≠ u.target := by
  simp [Separate, roleUpgrades]

theorem separate_roleDowngrades :
    Separate roleDowngrades ∧ ∀ u ∈ roleDowngrades, u.source ≠ u.target := by
  simp [Separate, roleDowngrades]

theorem applyAll_id (us : List RoleUpdate) (row : RoleRow) : (applyAll us row).id = row.id := by
  induction us generalizing row with
  | nil => rfl
  | cons u us ih =>
      refine (ih (u.apply row)).trans ?_
      unfold RoleUpdate.apply
      split_ifs <;> rfl

end Updates

/-! ## What a user may do -/

def RoleCodes.all (codes : RoleCodes) : List String :=
  [codes.steward, codes.manager, codes.auditor]

/-- The code of the role, which a token carries and a session sets. -/
def roleCodeOf (roles : List RoleRow) (roleId : Uuid) : Option String :=
  (roles.find? fun r => r.id = roleId).map RoleRow.roleCode

def renamedCode (code : String) : String :=
  if code = seededCodes.manager then genericCodes.manager
  else if code = seededCodes.steward then genericCodes.steward
  else if code = seededCodes.auditor then genericCodes.auditor
  else code

section Authority

variable {roles : List RoleRow}

theorem roleCode_upgraded (row : RoleRow) :
    (applyAll roleUpgrades row).roleCode = renamedCode row.roleCode := by
  simp only [applyAll, roleUpgrades, List.foldl_cons, List.foldl_nil, RoleUpdate.apply,
    RoleUpdate.hits, RoleUpdate.set, renamedCode, seededCodes, genericCodes, decide_eq_true_eq]
  by_cases hm : row.roleCode = "esg_manager"
  · simp [hm]
  · by_cases hs : row.roleCode = "data_steward"
    · simp [hs]
    · by_cases ha : row.roleCode = "auditor"
      · simp [ha]
      · simp [hm, hs, ha]

theorem roleCodeOf_upgraded (roleId : Uuid) :
    roleCodeOf (roles.map (applyAll roleUpgrades)) roleId =
      (roleCodeOf roles roleId).map renamedCode := by
  unfold roleCodeOf
  rw [List.find?_map]
  have hid : ((fun r : RoleRow => decide (r.id = roleId)) ∘ applyAll roleUpgrades) =
      fun r => decide (r.id = roleId) := by
    funext r
    simp [applyAll_id]
  rw [hid, Option.map_map, Option.map_map]
  congr 1
  funext r
  exact roleCode_upgraded r

theorem renamedCode_eq_iff {code : String} (hcode : code ∉ genericCodes.all) :
    (renamedCode code = genericCodes.steward ↔ code = seededCodes.steward) ∧
      (renamedCode code = genericCodes.manager ↔ code = seededCodes.manager) := by
  simp only [RoleCodes.all, genericCodes, List.mem_cons, List.not_mem_nil, or_false,
    not_or] at hcode
  simp only [renamedCode, seededCodes, genericCodes]
  by_cases hm : code = "esg_manager"
  · simp [hm]
  · by_cases hs : code = "data_steward"
    · simp [hs]
    · by_cases ha : code = "auditor"
      · simp [ha]
      · simp [hm, hs, ha, hcode]

theorem renamedCode_not_mem (code : String) : renamedCode code ∉ seededCodes.all := by
  simp only [renamedCode, seededCodes, genericCodes, RoleCodes.all]
  by_cases hm : code = "esg_manager"
  · simp [hm]
  · by_cases hs : code = "data_steward"
    · simp [hs]
    · by_cases ha : code = "auditor"
      · simp [ha]
      · simp [hm, hs, ha]

/-- The session of a user whose role has the code. -/
def sessionWith (isOwner bypassesRls : Bool) (tenantId : Uuid) (roleCode : Option String) :
    DbSession :=
  ⟨some tenantId, roleCode, isOwner, bypassesRls⟩

variable {α : Type*} {isOwner bypassesRls : Bool} {tenantId : Uuid} {code : Option String}
  {row : TenantRow α} {command : SqlCommand} {t : RlsTable}

theorem roleAndTenant_renamed (hcode : ∀ c ∈ code, c ∉ genericCodes.all) {olds news : List String}
    (hcodes : ∀ c, c ∉ genericCodes.all → (renamedCode c ∈ news ↔ c ∈ olds)) :
    (roleAndTenant news).eval (sessionWith isOwner bypassesRls tenantId (code.map renamedCode)) row =
      (roleAndTenant olds).eval (sessionWith isOwner bypassesRls tenantId code) row := by
  cases code with
  | none => rfl
  | some c =>
      rw [eval_roleAndTenant, eval_roleAndTenant]
      have hsame : news.contains (renamedCode c) = olds.contains c := by
        rw [Bool.eq_iff_iff, List.contains_iff_mem, List.contains_iff_mem]
        exact hcodes c (hcode c rfl)
      simp only [sessionWith, Option.map_some, Option.any_some, hsame]
      rfl

theorem meetsAny_renamed (t : RlsTable) :
    meetsAny (sessionWith isOwner bypassesRls tenantId (code.map renamedCode)) row command
        (t.policies genericCodes) =
      meetsAny (sessionWith isOwner bypassesRls tenantId code) row command
        (t.policies seededCodes) := by
  cases t
  case tenants => rfl
  case emissionsConsolidated =>
    rw [meetsAny_emissions, meetsAny_emissions]
    rfl
  case chartAnnotations =>
    refine (meetsAny_all eval_tenantText).trans ?_
    exact (meetsAny_all eval_tenantText).symm
  case sbtiTargets =>
    refine (meetsAny_isolation eval_tenantText).trans ?_
    exact (meetsAny_isolation eval_tenantText).symm
  case sessions | calcRuns | factorPublishApprovals | users =>
    refine (meetsAny_isolation eval_tenantUuid).trans ?_
    exact (meetsAny_isolation eval_tenantUuid).symm
  all_goals
    refine meetsAny_pair.trans ?_
    exact meetsAny_pair.symm

theorem writesAny_renamed (t : RlsTable) (hcode : ∀ c ∈ code, c ∉ genericCodes.all)
    (hcommand : command = .insert ∨ command = .update) :
    writesAny (sessionWith isOwner bypassesRls tenantId (code.map renamedCode)) row command
        (t.policies genericCodes) =
      writesAny (sessionWith isOwner bypassesRls tenantId code) row command
        (t.policies seededCodes) := by
  have hsteward : ∀ c, c ∉ genericCodes.all →
      (renamedCode c ∈ [genericCodes.steward] ↔ c ∈ [seededCodes.steward]) := by
    intro c hc
    rw [List.mem_singleton, List.mem_singleton]
    exact (renamedCode_eq_iff hc).1
  have hmanager : ∀ c, c ∉ genericCodes.all →
      (renamedCode c ∈ [genericCodes.manager] ↔ c ∈ [seededCodes.manager]) := by
    intro c hc
    rw [List.mem_singleton, List.mem_singleton]
    exact (renamedCode_eq_iff hc).2
  have hboth : ∀ c, c ∉ genericCodes.all →
      (renamedCode c ∈ [genericCodes.steward, genericCodes.manager] ↔
        c ∈ [seededCodes.steward, seededCodes.manager]) := by
    intro c hc
    simp only [List.mem_cons, List.not_mem_nil, or_false]
    exact or_congr (renamedCode_eq_iff hc).1 (renamedCode_eq_iff hc).2
  have hpair : ∀ {name name' : PolicyName} {expr expr' : PolicyExpr},
      expr'.eval (sessionWith isOwner bypassesRls tenantId (code.map renamedCode)) row =
        expr.eval (sessionWith isOwner bypassesRls tenantId code) row →
      writesAny (sessionWith isOwner bypassesRls tenantId (code.map renamedCode)) row command
          (RlsTable.policies.pair name name' expr') =
        writesAny (sessionWith isOwner bypassesRls tenantId code) row command
          (RlsTable.policies.pair name name' expr) := by
    intro name name' expr expr' h
    rw [writesAny_pair hcommand, writesAny_pair hcommand, h]
  cases t
  case tenants => rfl
  case emissionsConsolidated =>
    rw [writesAny_emissions, writesAny_emissions]
    rfl
  case chartAnnotations =>
    refine (writesAny_all eval_tenantText).trans ?_
    exact (writesAny_all eval_tenantText).symm
  case sbtiTargets =>
    refine (writesAny_isolation eval_tenantText).trans ?_
    exact (writesAny_isolation eval_tenantText).symm
  case sessions | calcRuns | factorPublishApprovals | users =>
    refine (writesAny_isolation eval_tenantUuid).trans ?_
    exact (writesAny_isolation eval_tenantUuid).symm
  case auditLog => exact hpair rfl
  case reportSnapshots => exact hpair (roleAndTenant_renamed hcode hmanager)
  case dqFindings => exact hpair (roleAndTenant_renamed hcode hboth)
  all_goals exact hpair (roleAndTenant_renamed hcode hsteward)

/-! ### The catalog after the migration -/

/-- The policies after `0025_M24`. -/
def renamedCatalog : RlsCatalog :=
  catalogBeforeRename.migrate upgrade0025

theorem renamedCatalog_apply (t : RlsTable) : renamedCatalog t =
    { catalogBeforeRename t with policies := t.policies genericCodes } := by
  rw [renamedCatalog, migrate_apply, catalogBeforeRename_apply]
  cases t <;> rfl

/-- `downgrade` leaves the policies as they were, in their order. -/
theorem downgrade_upgrade_policies :
    renamedCatalog.migrate downgrade0025 = catalogBeforeRename := by
  funext t
  rw [migrate_apply, renamedCatalog_apply, catalogBeforeRename_apply]
  cases t <;> rfl

/-- Both decisions of a table depend on the flags, which stay, and on the policies. -/
theorem decisions_renamed (t : RlsTable) (hcode : ∀ c ∈ code, c ∉ genericCodes.all) :
    ((renamedCatalog t).security).permits dbStanding command
        (sessionWith isOwner bypassesRls tenantId (code.map renamedCode)) row =
      ((catalogBeforeRename t).security).permits dbStanding command
        (sessionWith isOwner bypassesRls tenantId code) row ∧
    ((command = .insert ∨ command = .update) →
      ((renamedCatalog t).security).admits dbStanding command
          (sessionWith isOwner bypassesRls tenantId (code.map renamedCode)) row =
        ((catalogBeforeRename t).security).admits dbStanding command
          (sessionWith isOwner bypassesRls tenantId code) row) := by
  have happlies : ((renamedCatalog t).security (α := α)).applies dbStanding
      (sessionWith isOwner bypassesRls tenantId (code.map renamedCode)) =
        ((catalogBeforeRename t).security (α := α)).applies dbStanding
          (sessionWith isOwner bypassesRls tenantId code) := by
    rw [renamedCatalog_apply]
    rfl
  have hold : (catalogBeforeRename t).policies = t.policies seededCodes := by
    rw [catalogBeforeRename_apply]
  have hnew : (renamedCatalog t).policies = t.policies genericCodes := by
    rw [renamedCatalog_apply]
  constructor
  · unfold RowSecurity.permits
    rw [happlies]
    change (_ || meetsAny _ row command (renamedCatalog t).policies) =
      (_ || meetsAny _ row command (catalogBeforeRename t).policies)
    rw [hold, hnew, meetsAny_renamed]
  · intro hcommand
    unfold RowSecurity.admits
    rw [happlies]
    change (_ || writesAny _ row command (renamedCatalog t).policies) =
      (_ || writesAny _ row command (catalogBeforeRename t).policies)
    rw [hold, hnew, writesAny_renamed t hcode hcommand]

/-! ### The migration as a whole -/

/-- The upgrade of `ref.roles` succeeds exactly if no role is there under both of its codes. -/
theorem upgradeRoles_isOk_iff (hroles : Lawful roleRules roles) :
    (∃ roles', upgradeRoles roles = .ok roles') ↔
      ∀ u ∈ roleUpgrades, ¬ (HasCode roles u.source ∧ HasCode roles u.target) := by
  rcases foldlM_updateRole hroles separate_roleUpgrades.1 separate_roleUpgrades.2 with
    ⟨hfree, hok, -⟩ | ⟨⟨u, hu, hboth⟩, herror⟩
  · exact iff_of_true ⟨_, hok⟩ hfree
  · refine iff_of_false ?_ fun h => h u hu hboth
    rintro ⟨roles', hok⟩
    rw [upgradeRoles, herror] at hok
    cases hok

theorem upgradeRoles_of_fresh (hroles : Lawful roleRules roles)
    (hfresh : ∀ r ∈ roles, r.roleCode ∉ genericCodes.all) :
    upgradeRoles roles = .ok (roles.map (applyAll roleUpgrades)) ∧
      Lawful roleRules (roles.map (applyAll roleUpgrades)) := by
  rcases foldlM_updateRole hroles separate_roleUpgrades.1 separate_roleUpgrades.2 with
    ⟨-, hok⟩ | ⟨⟨u, hu, -, r, hr, hcode⟩, -⟩
  · exact hok
  · have hgeneric : ∀ u ∈ roleUpgrades, u.target ∈ genericCodes.all := by
      simp [roleUpgrades, RoleCodes.all, genericCodes]
    exact absurd (hcode ▸ hgeneric u hu) (hfresh r hr)

/-- The migration succeeds, and no user can do more or less afterwards: for a role with whichever
code, every table gives the decisions that it gave for the old code of that role. -/
theorem rename_keeps_authority (hroles : Lawful roleRules roles)
    (hfresh : ∀ r ∈ roles, r.roleCode ∉ genericCodes.all) :
    ∃ roles', upgradeRoles roles = .ok roles' ∧
      ∀ (roleId tenantId : Uuid) (isOwner bypassesRls : Bool) (t : RlsTable) (command : SqlCommand)
        (row : TenantRow α),
        let before := sessionWith isOwner bypassesRls tenantId (roleCodeOf roles roleId)
        let after := sessionWith isOwner bypassesRls tenantId (roleCodeOf roles' roleId)
        (renamedCatalog t).security.permits dbStanding command after row =
            (catalogBeforeRename t).security.permits dbStanding command before row ∧
          ((command = .insert ∨ command = .update) →
            (renamedCatalog t).security.admits dbStanding command after row =
              (catalogBeforeRename t).security.admits dbStanding command before row) := by
  refine ⟨_, (upgradeRoles_of_fresh hroles hfresh).1, ?_⟩
  intro roleId tenantId isOwner bypassesRls t command row before after
  have hcode : ∀ c ∈ roleCodeOf roles roleId, c ∉ genericCodes.all := by
    intro c hc
    obtain ⟨r, hr, rfl⟩ := Option.map_eq_some_iff.mp hc
    exact hfresh r (List.mem_of_find?_eq_some hr)
  have hafter : after = sessionWith isOwner bypassesRls tenantId
      ((roleCodeOf roles roleId).map renamedCode) :=
    congrArg (sessionWith isOwner bypassesRls tenantId) (roleCodeOf_upgraded roleId)
  rw [hafter]
  exact decisions_renamed t hcode

theorem seededRoles_lawful : Lawful roleRules seededRoles :=
  ⟨by simp [roleRules], by simp [seededRoles, roleRules]⟩

theorem seededRoles_fresh : ∀ r ∈ seededRoles, r.roleCode ∉ genericCodes.all := by
  simp [seededRoles, RoleCodes.all, genericCodes]

theorem rename_keeps_authority_of_seed :
    ∃ roles', upgradeRoles seededRoles = .ok roles' ∧
      ∀ (roleId tenantId : Uuid) (isOwner bypassesRls : Bool) (t : RlsTable) (command : SqlCommand)
        (row : TenantRow Unit),
        let before := sessionWith isOwner bypassesRls tenantId (roleCodeOf seededRoles roleId)
        let after := sessionWith isOwner bypassesRls tenantId (roleCodeOf roles' roleId)
        (renamedCatalog t).security.permits dbStanding command after row =
            (catalogBeforeRename t).security.permits dbStanding command before row ∧
          ((command = .insert ∨ command = .update) →
            (renamedCatalog t).security.admits dbStanding command after row =
              (catalogBeforeRename t).security.admits dbStanding command before row) :=
  rename_keeps_authority seededRoles_lawful seededRoles_fresh

theorem downgraded_upgraded (row : RoleRow) (hfresh : row.roleCode ∉ genericCodes.all) :
    applyAll roleDowngrades (applyAll roleUpgrades row) = row ↔
      ∀ u ∈ roleDowngrades, row.roleCode = u.target → row.description = u.description := by
  obtain ⟨id, roleCode, description⟩ := row
  simp only [RoleCodes.all, genericCodes, List.mem_cons, List.not_mem_nil, or_false,
    not_or] at hfresh
  simp only [applyAll, roleUpgrades, roleDowngrades, List.foldl_cons, List.foldl_nil,
    RoleUpdate.apply, RoleUpdate.hits, RoleUpdate.set]
  by_cases hm : roleCode = "esg_manager"
  · simp [hm, eq_comm]
  · by_cases hs : roleCode = "data_steward"
    · simp [hs, eq_comm]
    · by_cases ha : roleCode = "auditor"
      · simp [ha, eq_comm]
      · simp [hm, hs, ha, hfresh]

theorem map_eq_self_iff {f : RoleRow → RoleRow} {rows : List RoleRow} :
    rows.map f = rows ↔ ∀ r ∈ rows, f r = r := by
  conv_lhs => rw [← List.map_id rows, List.map_map]
  exact List.map_inj_left

/-- `downgrade` after `upgrade` puts back every policy, and the roles exactly if the descriptions of
the three were those that `downgrade` writes. -/
theorem rename_round_trip (hroles : Lawful roleRules roles)
    (hfresh : ∀ r ∈ roles, r.roleCode ∉ genericCodes.all) :
    renamedCatalog.migrate downgrade0025 = catalogBeforeRename ∧
      ∃ roles' roles'', upgradeRoles roles = .ok roles' ∧ downgradeRoles roles' = .ok roles'' ∧
        (roles'' = roles ↔ ∀ r ∈ roles, ∀ u ∈ roleDowngrades,
          r.roleCode = u.target → r.description = u.description) := by
  obtain ⟨hup, hlawful⟩ := upgradeRoles_of_fresh hroles hfresh
  refine ⟨downgrade_upgrade_policies, _, (roles.map (applyAll roleUpgrades)).map
    (applyAll roleDowngrades), hup, ?_, ?_⟩
  · rcases foldlM_updateRole hlawful separate_roleDowngrades.1 separate_roleDowngrades.2 with
      ⟨-, hok, -⟩ | ⟨⟨u, hu, -, r, hr, hcode⟩, -⟩
    · exact hok
    · -- after the upgrade no role has one of the old codes
      obtain ⟨row, -, rfl⟩ := List.mem_map.mp hr
      have hseeded : ∀ u ∈ roleDowngrades, u.target ∈ seededCodes.all := by
        simp [roleDowngrades, RoleCodes.all, seededCodes]
      rw [roleCode_upgraded] at hcode
      exact absurd (hcode ▸ hseeded u hu) (renamedCode_not_mem row.roleCode)
  · rw [List.map_map, map_eq_self_iff]
    refine forall₂_congr fun r hr => ?_
    rw [Function.comp_apply, downgraded_upgraded r (hfresh r hr)]

theorem rename_round_trip_of_seed :
    renamedCatalog.migrate downgrade0025 = catalogBeforeRename ∧
      ∃ roles' roles'', upgradeRoles seededRoles = .ok roles' ∧
        downgradeRoles roles' = .ok roles'' ∧
        (roles'' = seededRoles ↔ ∀ r ∈ seededRoles, ∀ u ∈ roleDowngrades,
          r.roleCode = u.target → r.description = u.description) :=
  rename_round_trip seededRoles_lawful seededRoles_fresh

end Authority

end GhgTool
