import GhgTool.AuthInvariant
import Mathlib.Data.List.Nodup
import Mathlib.Logic.Function.Basic

/-!
# The last active administrator

Role changes, activation changes and erasures, statement by statement. A request reads its target,
counts the active administrators of the tenant where its guard asks for that, updates the row, which
takes the row lock, and commits. Nothing holds the count: other requests commit between the guard and
the update. An erasure has no such guard.
-/

namespace GhgTool

open Function (update)

inductive AdminAction where
  | patchUserActive (uid : Uuid) (isActive : Bool)
  | patchUserRole (uid : Uuid) (role : RoleCode)
  | eraseUser (uid : Uuid)
  deriving DecidableEq, Repr

namespace AdminAction

def uid : AdminAction → Uuid
  | patchUserActive uid _ => uid
  | patchUserRole uid _ => uid
  | eraseUser uid => uid

def toAction : AdminAction → Action
  | patchUserActive uid isActive => .patchUserActive uid isActive
  | patchUserRole uid role => .patchUserRole uid role
  | eraseUser uid => .eraseUser uid

variable (env : Platform) (s : AuthState) (caller : CurrentUser)

/-- What the endpoint checks on the row it has read; the result is the count it asked for. -/
def guard (target : User) : AdminAction → Except Problem (Option ℕ)
  | patchUserActive uid isActive =>
      if !isActive && uid == caller.sub then .error selfDeactivationForbidden
      else if !isActive && target.role == .admin then
        if countActiveAdmins s caller.tenantId ≤ 1 then .error lastAdminDeactivated
        else .ok (some (countActiveAdmins s caller.tenantId))
      else .ok none
  | patchUserRole _ role =>
      if target.role == .admin && role != .admin && target.isActive then
        if countActiveAdmins s caller.tenantId ≤ 1 then .error lastAdminDemoted
        else .ok (some (countActiveAdmins s caller.tenantId))
      else .ok none
  | eraseUser uid =>
      if target.passwordHash = erasedHash then .error (userAlreadyErased uid) else .ok none

/-- The columns the endpoint writes. -/
def write : AdminAction → User → User
  | patchUserActive _ isActive, u => { u with isActive := isActive }
  | patchUserRole _ role, u => { u with role := role }
  | eraseUser uid, u =>
      { u with
        username := "erased_" ++ env.pseudonym uid
        email := "erased_" ++ env.pseudonym uid ++ "@erased.invalid"
        passwordHash := erasedHash
        isActive := false }

def effect (action : AdminAction) : AuthState :=
  match action with
  | patchUserActive .. | patchUserRole .. =>
      updateUserInTenant s action.uid caller.tenantId (action.write env)
  | eraseUser uid =>
      revokeUserSessions (updateUserInTenant s uid caller.tenantId (action.write env)) uid

end AdminAction

structure AdminCall where
  caller : CurrentUser
  action : AdminAction

inductive AdminPhase where
  | received
  | fetched (target : User)
  | guarded (target : User) (count : Option ℕ)
  | written (target : User) (count : Option ℕ)
  | answered (reply : Except Problem Reply)
  deriving DecidableEq

structure AdminState where
  auth : AuthState
  lock : Uuid → Option ℕ := fun _ => none
  phase : ℕ → AdminPhase := fun _ => .received

inductive AdminEvent where
  /-- The next statement of a request. -/
  | advance (n : ℕ)
  /-- The request fails at the point it has come to. -/
  | abort (n : ℕ)
  deriving DecidableEq

namespace AdminState

variable (env : Platform) (calls : ℕ → AdminCall) (s : AdminState) (n : ℕ)

def enter (phase : AdminPhase) : AdminState :=
  { s with phase := update s.phase n phase }

/-- The end of a transaction, with what is committed after it. -/
def finish (auth : AuthState) (reply : Except Problem Reply) : AdminState :=
  { auth := auth
    lock := fun uid => if s.lock uid = some n then none else s.lock uid
    phase := update s.phase n (.answered reply) }

def advance : AdminState :=
  let ⟨caller, action⟩ := calls n
  match s.phase n with
  | .received =>
      match requireUsersWrite caller with
      | .error problem => s.enter n (.answered (.error problem))
      | .ok () =>
          match fetchUserInTenant s.auth action.uid caller.tenantId with
          | .error problem => s.enter n (.answered (.error problem))
          | .ok target => s.enter n (.fetched target)
  | .fetched target =>
      match action.guard s.auth caller target with
      | .error problem => s.enter n (.answered (.error problem))
      | .ok count => s.enter n (.guarded target count)
  | .guarded target count =>
      -- the statement waits while another transaction holds the row
      if (s.lock action.uid).isSome then s
      else { s with lock := update s.lock action.uid (some n) }.enter n (.written target count)
  | .written _ _ => s.finish n (action.effect env s.auth caller) (.ok .done)
  | .answered _ => s

def step : AdminEvent → AdminState
  | .advance n => s.advance env calls n
  | .abort n =>
      match s.phase n with
      | .answered _ => s
      | _ => s.finish n s.auth (.error ⟨500, "Internal Server Error"⟩)

/-- No request has begun. -/
def Quiet : Prop :=
  ∀ n, s.phase n = .received

end AdminState

/-! ## Active administrators -/

def User.ActiveAdminOf (tenantId : Uuid) (u : User) : Prop :=
  u.tenantId = tenantId ∧ u.role = .admin ∧ u.isActive = true

theorem countActiveAdmins_pos_iff {s : AuthState} {tenantId : Uuid} :
    0 < countActiveAdmins s tenantId ↔ ∃ u ∈ s.users, u.ActiveAdminOf tenantId := by
  unfold countActiveAdmins User.ActiveAdminOf
  rw [List.countP_pos_iff]
  simp only [Bool.and_eq_true, beq_iff_eq, and_assoc]

/-- With unique ids, two active administrators are not both the user `uid`. -/
theorem exists_other_admin {s : AuthState} {tenantId : Uuid} (hids : (s.users.map User.id).Nodup)
    (h : 1 < countActiveAdmins s tenantId) (uid : Uuid) :
    ∃ u ∈ s.users, u.ActiveAdminOf tenantId ∧ u.id ≠ uid := by
  by_contra hnone
  have hall : ∀ u ∈ s.users,
      (u.tenantId == tenantId && u.role == .admin && u.isActive) = true → (u.id == uid) = true := by
    intro u hu hadmin
    by_contra hne
    simp only [Bool.and_eq_true, beq_iff_eq] at hadmin
    exact hnone ⟨u, hu, ⟨hadmin.1.1, hadmin.1.2, hadmin.2⟩, by simpa using hne⟩
  have hcount : countActiveAdmins s tenantId ≤ s.users.countP fun u => u.id == uid :=
    List.countP_mono_left hall
  have hone : (s.users.map User.id).count uid ≤ 1 := List.nodup_iff_count_le_one.mp hids uid
  rw [List.count, List.countP_map] at hone
  exact absurd (Nat.lt_of_lt_of_le h (hcount.trans hone)) (Nat.lt_irrefl 1)

/-! ## When a commit is safe -/

namespace AdminCall

variable (s : AuthState) (call : AdminCall) (target : User) (count : Option ℕ)

/-- The role, the flag and the count that the guard has read are still those of the table. -/
def ReadsCurrent : Prop :=
  (∀ u ∈ s.users, u.id = call.action.uid → u.tenantId = call.caller.tenantId →
    u.role = target.role ∧ u.isActive = target.isActive) ∧
  ∀ k ∈ count, k = countActiveAdmins s call.caller.tenantId

/-- The target is not the only active administrator. -/
def LeavesAdmin : Prop :=
  ∀ u ∈ s.users, u.id = call.action.uid → u.ActiveAdminOf call.caller.tenantId →
    1 < countActiveAdmins s call.caller.tenantId

/-- A request that can take an administrator away commits on current reads; an erasure, which reads
no count, does not meet the only administrator. -/
def SafeCommit : Prop :=
  match call.action with
  | .patchUserActive _ true => True
  | .patchUserActive _ false => call.ReadsCurrent s target count
  | .patchUserRole _ role => role ≠ .admin → call.ReadsCurrent s target count
  | .eraseUser _ => call.LeavesAdmin s

/-- What the guard has established on its reads. -/
def GuardPassed : Prop :=
  match call.action with
  | .patchUserActive _ isActive =>
      isActive = false → target.role = .admin → ∃ k ∈ count, 1 < k
  | .patchUserRole _ role =>
      target.role = .admin → role ≠ .admin → target.isActive = true → ∃ k ∈ count, 1 < k
  | .eraseUser _ => True

end AdminCall

/-- The reads a request commits on. -/
def AdminPhase.toCommit : AdminPhase → Option (User × Option ℕ)
  | written target count => some (target, count)
  | _ => none

/-- If the event commits a request, the commit is safe. -/
def CommitsSafely (calls : ℕ → AdminCall) (s : AdminState) : AdminEvent → Prop
  | .advance n => ∀ reads ∈ (s.phase n).toCommit, (calls n).SafeCommit s.auth reads.1 reads.2
  | .abort _ => True

section Instances

variable (s : AuthState) (call : AdminCall) (target : User) (count : Option ℕ)

instance (tenantId : Uuid) (u : User) : Decidable (u.ActiveAdminOf tenantId) :=
  inferInstanceAs (Decidable (_ ∧ _ ∧ _))

instance : Decidable (call.ReadsCurrent s target count) :=
  inferInstanceAs (Decidable ((∀ u ∈ s.users, _) ∧ ∀ k ∈ count, _))

instance : Decidable (call.LeavesAdmin s) :=
  inferInstanceAs (Decidable (∀ u ∈ s.users, _))

instance : Decidable (call.SafeCommit s target count) :=
  match call with
  | ⟨_, .patchUserActive _ true⟩ => inferInstanceAs (Decidable True)
  | ⟨caller, .patchUserActive uid false⟩ =>
      inferInstanceAs
        (Decidable (AdminCall.ReadsCurrent s ⟨caller, .patchUserActive uid false⟩ target count))
  | ⟨caller, .patchUserRole uid role⟩ =>
      inferInstanceAs (Decidable (role ≠ .admin →
        AdminCall.ReadsCurrent s ⟨caller, .patchUserRole uid role⟩ target count))
  | ⟨caller, .eraseUser uid⟩ =>
      inferInstanceAs (Decidable (AdminCall.LeavesAdmin s ⟨caller, .eraseUser uid⟩))

instance (calls : ℕ → AdminCall) (s : AdminState) (e : AdminEvent) :
    Decidable (CommitsSafely calls s e) :=
  match e with
  | .advance n => inferInstanceAs (Decidable (∀ reads ∈ (s.phase n).toCommit, _))
  | .abort _ => inferInstanceAs (Decidable True)

end Instances

variable {env : Platform} {calls : ℕ → AdminCall} {s : AdminState} {n : ℕ}

theorem guardPassed_of_ok {auth : AuthState} {call : AdminCall} {target : User} {count : Option ℕ}
    (h : call.action.guard auth call.caller target = .ok count) : call.GuardPassed target count := by
  obtain ⟨caller, action⟩ := call
  cases action with
  | patchUserActive uid isActive =>
      rintro rfl hrole
      simp only [AdminAction.guard, Bool.not_false, Bool.true_and, hrole, beq_self_eq_true,
        if_true] at h
      split_ifs at h with hself hcount
      cases h
      exact ⟨_, rfl, by omega⟩
  | patchUserRole uid role =>
      intro hrole hother hactive
      have hdemotes : (role != RoleCode.admin) = true := by simpa using hother
      simp only [AdminAction.guard, hrole, beq_self_eq_true, hdemotes, hactive, Bool.and_self,
        if_true] at h
      split_ifs at h with hcount
      cases h
      exact ⟨_, rfl, by omega⟩
  | eraseUser uid => trivial

theorem AdminCall.SafeCommit.two_admins {auth : AuthState} {call : AdminCall} {target : User}
    {count : Option ℕ} (hsafe : call.SafeCommit auth target count)
    (hguard : call.GuardPassed target count) {u : User} (hu : u ∈ auth.users)
    (hid : u.id = call.action.uid) (hadmin : u.ActiveAdminOf call.caller.tenantId)
    (hremoved : ¬ (call.action.write env u).ActiveAdminOf call.caller.tenantId) :
    1 < countActiveAdmins auth call.caller.tenantId := by
  obtain ⟨caller, action⟩ := call
  obtain ⟨htenant, hrole, hactive⟩ := hadmin
  have hcurrent : AdminCall.ReadsCurrent auth ⟨caller, action⟩ target count →
      (∃ k ∈ count, 1 < k) → 1 < countActiveAdmins auth caller.tenantId := by
    rintro hreads ⟨k, hk, hlt⟩
    rw [hreads.2 k hk] at hlt
    exact hlt
  cases action with
  | patchUserActive uid isActive =>
      cases isActive with
      | true => exact absurd ⟨htenant, hrole, rfl⟩ hremoved
      | false =>
          have hread := hsafe.1 u hu hid htenant
          exact hcurrent hsafe (hguard rfl (hread.1 ▸ hrole))
  | patchUserRole uid role =>
      have hother : role ≠ .admin := by
        rintro rfl
        exact hremoved ⟨htenant, rfl, hactive⟩
      have hread := (hsafe hother).1 u hu hid htenant
      exact hcurrent (hsafe hother) (hguard (hread.1 ▸ hrole) hother (hread.2 ▸ hactive))
  | eraseUser uid => exact hsafe u hu hid ⟨htenant, hrole, hactive⟩

theorem AdminAction.effect_users (auth : AuthState) (caller : CurrentUser) (action : AdminAction) :
    (action.effect env auth caller).users = auth.users.map fun u =>
      if u.id == action.uid && u.tenantId == caller.tenantId then action.write env u else u := by
  cases action <;> rfl

theorem AdminAction.write_id (action : AdminAction) (u : User) : (action.write env u).id = u.id := by
  cases action <;> rfl

theorem nodup_effect {auth : AuthState} (hids : (auth.users.map User.id).Nodup)
    (caller : CurrentUser) (action : AdminAction) :
    ((action.effect env auth caller).users.map User.id).Nodup := by
  have hkey : ∀ u : User, (if u.id == action.uid && u.tenantId == caller.tenantId then
      action.write env u else u).id = u.id := by
    intro u
    split
    · exact action.write_id u
    · rfl
  rw [AdminAction.effect_users, List.map_map]
  simp only [Function.comp_def, hkey]
  exact hids

/-- A row the update does not reach is still there. -/
theorem mem_effect_of_ne {auth : AuthState} {caller : CurrentUser} {action : AdminAction} {u : User}
    (hu : u ∈ auth.users) (hne : ¬ (u.id = action.uid ∧ u.tenantId = caller.tenantId)) :
    u ∈ (action.effect env auth caller).users := by
  rw [AdminAction.effect_users]
  refine List.mem_map.mpr ⟨u, hu, ?_⟩
  exact if_neg (by simpa using hne)

theorem mem_effect_of_eq {auth : AuthState} {caller : CurrentUser} {action : AdminAction} {u : User}
    (hu : u ∈ auth.users) (hid : u.id = action.uid) (htenant : u.tenantId = caller.tenantId) :
    action.write env u ∈ (action.effect env auth caller).users := by
  rw [AdminAction.effect_users]
  refine List.mem_map.mpr ⟨u, hu, ?_⟩
  exact if_pos (by simp [hid, htenant])

theorem countActiveAdmins_effect_pos {auth : AuthState} {call : AdminCall} {target : User}
    {count : Option ℕ} {tenantId : Uuid} (hids : (auth.users.map User.id).Nodup)
    (hsafe : call.SafeCommit auth target count) (hguard : call.GuardPassed target count)
    (h : 0 < countActiveAdmins auth tenantId) :
    0 < countActiveAdmins (call.action.effect env auth call.caller) tenantId := by
  obtain ⟨u, hu, hadmin⟩ := countActiveAdmins_pos_iff.mp h
  apply countActiveAdmins_pos_iff.mpr
  by_cases htarget : u.id = call.action.uid ∧ u.tenantId = call.caller.tenantId
  · obtain ⟨hid, htenant⟩ := htarget
    obtain rfl : call.caller.tenantId = tenantId := htenant.symm.trans hadmin.1
    by_cases hkept : (call.action.write env u).ActiveAdminOf call.caller.tenantId
    · exact ⟨_, mem_effect_of_eq hu hid htenant, hkept⟩
    · have htwo := hsafe.two_admins hguard hu hid hadmin hkept
      obtain ⟨v, hv, hadmin', hne⟩ := exists_other_admin hids htwo call.action.uid
      exact ⟨v, mem_effect_of_ne hv fun hv' => hne hv'.1, hadmin'⟩
  · exact ⟨u, mem_effect_of_ne hu htarget, hadmin⟩

/-! ## Every run -/

/-- The reads a request has passed its guard with. -/
def AdminPhase.reads : AdminPhase → Option (User × Option ℕ)
  | guarded target count => some (target, count)
  | written target count => some (target, count)
  | _ => none

structure AdminInvariant (calls : ℕ → AdminCall) (tenantId : Uuid) (s : AdminState) : Prop where
  ids : (s.auth.users.map User.id).Nodup
  guarded : ∀ n, ∀ reads ∈ (s.phase n).reads, (calls n).GuardPassed reads.1 reads.2
  admin : 0 < countActiveAdmins s.auth tenantId

namespace AdminInvariant

variable {tenantId : Uuid} {s' : AdminState}

/-- A request moves on; the table is not written. -/
theorem move {ph : AdminPhase} (h : AdminInvariant calls tenantId s) (hauth : s'.auth = s.auth)
    (hphase : s'.phase = update s.phase n ph)
    (hreads : ∀ reads ∈ ph.reads, (calls n).GuardPassed reads.1 reads.2) :
    AdminInvariant calls tenantId s' := by
  refine ⟨?_, ?_, ?_⟩
  · rw [hauth]
    exact h.ids
  · rw [hphase]
    apply (Function.forall_update_iff s.phase fun m ph => ∀ reads ∈ ph.reads,
      (calls m).GuardPassed reads.1 reads.2).mpr
    exact ⟨hreads, fun m _ => h.guarded m⟩
  · rw [hauth]
    exact h.admin

theorem answer (h : AdminInvariant calls tenantId s) (reply : Except Problem Reply) :
    AdminInvariant calls tenantId (s.enter n (.answered reply)) :=
  h.move rfl rfl fun _ hreads => by cases hreads

theorem commit {target : User} {count : Option ℕ} (h : AdminInvariant calls tenantId s)
    (hphase : s.phase n = .written target count)
    (hsafe : (calls n).SafeCommit s.auth target count) :
    AdminInvariant calls tenantId
      (s.finish n ((calls n).action.effect env s.auth (calls n).caller) (.ok .done)) := by
  have hguard : (calls n).GuardPassed target count :=
    h.guarded n (target, count) (by rw [hphase]; rfl)
  refine ⟨nodup_effect h.ids _ _, ?_, countActiveAdmins_effect_pos h.ids hsafe hguard h.admin⟩
  exact (h.answer (n := n) (.ok .done)).guarded

theorem advance (h : AdminInvariant calls tenantId s) (n : ℕ)
    (hsafe : CommitsSafely calls s (.advance n)) :
    AdminInvariant calls tenantId (s.advance env calls n) := by
  unfold AdminState.advance
  dsimp only
  split
  · split
    · exact h.answer _
    · split
      · exact h.answer _
      · exact h.move rfl rfl fun _ hreads => by cases hreads
  · next target hphase =>
      split
      · exact h.answer _
      · next count hguard =>
          refine h.move rfl rfl ?_
          rintro _ ⟨⟩
          exact guardPassed_of_ok hguard
  · next target count hphase =>
      split
      · exact h
      · refine h.move rfl rfl ?_
        rintro _ ⟨⟩
        exact h.guarded n (target, count) (by rw [hphase]; rfl)
  · next target count hphase =>
      exact h.commit hphase (hsafe (target, count) (by rw [hphase]; rfl))
  · exact h

theorem step (h : AdminInvariant calls tenantId s) (e : AdminEvent)
    (hsafe : CommitsSafely calls s e) :
    AdminInvariant calls tenantId (s.step env calls e) := by
  cases e with
  | advance n => exact h.advance n hsafe
  | abort n =>
      rw [AdminState.step]
      split
      · exact h
      · exact h.move rfl rfl fun _ hreads => by cases hreads

end AdminInvariant

/-- In every interleaving whose commits are safe, a tenant with an active administrator keeps one. -/
theorem last_admin_kept (env : Platform) (calls : ℕ → AdminCall) {s₀ : AdminState}
    (hids : (s₀.auth.users.map User.id).Nodup) (hquiet : s₀.Quiet) (es : List AdminEvent)
    (hsafe : Along (AdminState.step env calls) (CommitsSafely calls) s₀ es) (tenantId : Uuid)
    (hadmin : 0 < countActiveAdmins s₀.auth tenantId) :
    0 < countActiveAdmins (run (AdminState.step env calls) s₀ es).auth tenantId := by
  have h₀ : AdminInvariant calls tenantId s₀ := by
    refine ⟨hids, ?_, hadmin⟩
    intro n reads hreads
    rw [hquiet n] at hreads
    cases hreads
  have hrun : AdminInvariant calls tenantId (run (AdminState.step env calls) s₀ es) :=
    hsafe.run_invariant h₀ fun _ e h he => h.step e he
  exact hrun.admin

def adminState (auth : AuthState) : AdminState :=
  { auth := auth }

/-- One tenant with two administrators. -/
def twoAdmins : AuthState where
  users :=
    [⟨0, 0, "ada", "ada@example.org", "correct horse", .admin, true, none, false, 0⟩,
      ⟨1, 0, "bob", "bob@example.org", "battery staple", .admin, true, none, false, 0⟩]
  nextUuid := 2
  now := 1000

/-- Each of the two makes the other an editor. -/
def mutualDemotion (n : ℕ) : AdminCall :=
  if n = 0 then ⟨⟨0, .admin, 0, 2⟩, .patchUserRole 1 .editor⟩
  else ⟨⟨1, .admin, 0, 5⟩, .patchUserRole 0 .editor⟩

/-- The requests run one after the other; the second one's guard refuses it. -/
theorem last_admin_kept_in_turn :
    0 < countActiveAdmins (run (AdminState.step plainPlatform mutualDemotion) (adminState twoAdmins)
      [.advance 0, .advance 0, .advance 0, .advance 0, .advance 1, .advance 1]).auth 0 :=
  last_admin_kept plainPlatform mutualDemotion (by decide) (fun _ => rfl) _ (by decide +kernel) 0
    (by decide)

/-- The only administrator erases the own account. -/
def selfErasure (_ : ℕ) : AdminCall :=
  ⟨⟨1, .admin, 0, 5⟩, .eraseUser 1⟩

/-- An erasure takes the only administrator away, and so do two administrators who demote each other
with both guards before both updates. -/
theorem last_admin_lost :
    (0 < countActiveAdmins editorAndAdmin 0 ∧
      countActiveAdmins (run (AdminState.step plainPlatform selfErasure)
        (adminState editorAndAdmin) [.advance 0, .advance 0, .advance 0, .advance 0]).auth 0 = 0) ∧
    0 < countActiveAdmins twoAdmins 0 ∧
      countActiveAdmins (run (AdminState.step plainPlatform mutualDemotion) (adminState twoAdmins)
        [.advance 0, .advance 0, .advance 1, .advance 1, .advance 0, .advance 0, .advance 1,
          .advance 1]).auth 0 = 0 := by
  refine ⟨⟨by decide, ?_⟩, by decide, ?_⟩
  all_goals decide +kernel

/-! ## A request alone

Run without interruption, the statements do what the endpoint does in one piece. -/

theorem perform_toAction (env : Platform) (auth : AuthState) (caller : CurrentUser)
    (action : AdminAction) :
    action.toAction.perform env auth caller =
      (do
        requireUsersWrite caller
        let target ← fetchUserInTenant auth action.uid caller.tenantId
        let _ ← action.guard auth caller target
        .ok (.done, action.effect env auth caller)) := by
  cases action with
  | patchUserActive uid isActive =>
      simp only [AdminAction.toAction, Action.perform, patchUserActive, AdminAction.uid,
        AdminAction.guard]
      congr 1
      funext _
      congr 1
      funext target
      by_cases hself : (!isActive && uid == caller.sub) = true
      · simp only [hself, if_true]
        rfl
      · by_cases hadmin : (!isActive && target.role == .admin) = true
        · by_cases hlast : countActiveAdmins auth caller.tenantId ≤ 1
          · simp only [hself, hadmin, hlast, if_true]
            rfl
          · simp only [hself, hadmin, hlast, if_true]
            rfl
        · simp only [hself, hadmin]
          rfl
  | patchUserRole uid role =>
      simp only [AdminAction.toAction, Action.perform, patchUserRole, AdminAction.uid,
        AdminAction.guard]
      congr 1
      funext _
      congr 1
      funext target
      by_cases hadmin : (target.role == .admin && role != .admin && target.isActive) = true
      · by_cases hlast : countActiveAdmins auth caller.tenantId ≤ 1
        · simp only [hadmin, hlast, if_true]
          rfl
        · simp only [hadmin, hlast, if_true]
          rfl
      · simp only [hadmin]
        rfl
  | eraseUser uid =>
      simp only [AdminAction.toAction, Action.perform, eraseUser, AdminAction.uid,
        AdminAction.guard]
      congr 1
      funext _
      congr 1
      funext target
      split_ifs <;> rfl

theorem run_admin_alone (hphase : s.phase n = .received)
    (hlock : s.lock (calls n).action.uid = none) :
    let s' := run (AdminState.step env calls) s [.advance n, .advance n, .advance n, .advance n]
    let result := commit s.auth ((calls n).action.toAction.perform env s.auth (calls n).caller)
    s'.auth = result.2 ∧ s'.phase n = .answered result.1 := by
  rw [perform_toAction]
  cases hwrite : requireUsersWrite (calls n).caller with
  | error problem =>
      simp [run, AdminState.step, AdminState.advance, AdminState.enter, hphase, hwrite, bind,
        Except.bind, commit]
  | ok _ =>
      cases hfetch :
          fetchUserInTenant s.auth (calls n).action.uid (calls n).caller.tenantId with
      | error problem =>
          simp [run, AdminState.step, AdminState.advance, AdminState.enter, hphase, hwrite, hfetch,
            bind, Except.bind, commit]
      | ok target =>
          cases hguard : (calls n).action.guard s.auth (calls n).caller target with
          | error problem =>
              simp [run, AdminState.step, AdminState.advance, AdminState.enter, hphase, hwrite,
                hfetch, hguard, bind, Except.bind, commit]
          | ok count =>
              simp [run, AdminState.step, AdminState.advance, AdminState.enter, AdminState.finish,
                hphase, hwrite, hfetch, hguard, hlock, bind, Except.bind, commit]

end GhgTool
