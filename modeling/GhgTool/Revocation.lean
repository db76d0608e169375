import GhgTool.RefreshRotation
import GhgTool.SessionLiveness

/-!
# Revocation of credentials

A password reset and an erasure revoke every session of the user, `DELETE /sessions/all` every session
of the caller but the current one. A deactivation and an erasure clear `is_active`, which `refresh`
reads. Both effects last: a revoked row stays revoked, and an inactive user stays inactive until
an administrator activates the account again.
-/

namespace GhgTool

/-- The action revokes the sessions of the tokens with the claims `c`. -/
def Action.Revokes (caller : CurrentUser) (c : Claims) : Action → Prop
  | resetUserPassword uid _ => c.sub = uid
  | eraseUser uid => c.sub = uid
  | revokeAllExceptCurrent => c.sub = caller.sub ∧ c.jti ≠ caller.jti
  | _ => False

def Action.Deactivates (uid : Uuid) : Action → Prop
  | patchUserActive uid' isActive => uid' = uid ∧ isActive = false
  | eraseUser uid' => uid' = uid
  | _ => False

variable (env : Platform) (s : AuthState)

/-- The request is the caller's action and its transaction commits. -/
def Commits (r : Request) (action : Action) (caller : CurrentUser) : Prop :=
  ∃ header, r = .authenticated header action ∧
    authenticate env s action.path header = .ok caller ∧
      (action.perform env s caller).toBool = true

/-- The header presents a token with the claims `c` under the scheme `Bearer`. -/
def Carries (header : Option String) (c : Claims) : Prop :=
  ∃ token, header = some ("Bearer" ++ " " ++ token) ∧ env.verify token = some c

def SessionRevoked (jti : Jti) : Prop :=
  ∃ row ∈ s.sessions, row.jti = jti ∧ row.revokedAt.isSome

def Inactive (uid : Uuid) : Prop :=
  ∀ u ∈ s.users, u.id = uid → u.isActive = false

variable {env s} {s' : AuthState} {r : Request} {action : Action} {caller : CurrentUser}

theorem Commits.step_eq (h : Commits env s r action caller) :
    ∃ reply, action.perform env s caller = .ok (reply, step env s r) := by
  obtain ⟨header, rfl, hauth, hperform⟩ := h
  obtain ⟨⟨reply, s'⟩, hok⟩ := exists_ok_of_toBool hperform
  refine ⟨reply, ?_⟩
  have hresult : performAuthenticated env s header action = .ok (reply, s') :=
    bind_eq_ok.mpr ⟨caller, hauth, hok⟩
  rw [hok, step, handle, hresult]
  rfl

/-! ## Revoked sessions -/

theorem SessionRevoked.write {jti : Jti} (h : SessionRevoked s jti) (hw : Write env r s s') :
    SessionRevoked s' jti := by
  cases hw with
  | revokeSessions p =>
      obtain ⟨row, hrow, hjti, hrevoked⟩ := h
      exact ⟨_, List.mem_map_of_mem hrow, by rw [revokeRow_jti, hjti],
        revokeRow_revoked _ _ _ hrevoked⟩
  | issueSession sub role tenantId _ =>
      obtain ⟨row, hrow, hmatch⟩ := h
      exact ⟨row, List.mem_append_left _ hrow, hmatch⟩
  | _ => exact h

theorem SessionRevoked.writes {jti : Jti} (h : SessionRevoked s jti) (hw : Writes env r s s') :
    SessionRevoked s' jti := by
  induction hw with
  | refl => exact h
  | tail _ hlast ih => exact ih.write hlast

theorem SessionRevoked.run {jti : Jti} (h : SessionRevoked s jti) (rs : List Request) :
    SessionRevoked (run (step env) s rs) jti := by
  induction rs generalizing s with
  | nil => exact h
  | cons r rs ih => exact ih (h.writes (step_writes r))

theorem sessionRevoked_of_mem {p : SessionRow → Bool} {row : SessionRow} (hrow : row ∈ s.sessions)
    (hp : p row = true) : SessionRevoked (revokeSessions s p) row.jti :=
  ⟨_, List.mem_map_of_mem hrow, revokeRow_jti _ _ _, revokeRow_of_mem _ _ _ hp⟩

theorem Consistent.tenantId_eq (h : Consistent s) {c c' : Claims} (hc : c ∈ s.issued)
    (hc' : c' ∈ s.issued) (hsub : c.sub = c'.sub) : c.tenantId = c'.tenantId := by
  obtain ⟨u, hu, hid, htenant⟩ := h.owner c hc
  obtain ⟨u', hu', hid', htenant'⟩ := h.owner c' hc'
  have heq : u = u' := by
    apply List.inj_on_of_nodup_map h.userIds hu hu'
    rw [hid, hid', hsub]
  rw [← htenant, ← htenant', heq]

theorem Commits.sessionRevoked (h : Consistent s) (hcommit : Commits env s r action caller)
    {c : Claims} (hc : c ∈ s.issued) (htype : c.tokenType = .access) (hfull : c.pre2fa = false)
    (hrevokes : action.Revokes caller c) : SessionRevoked (step env s r) c.jti := by
  obtain ⟨reply, hperform⟩ := hcommit.step_eq
  obtain ⟨row, hrow, hjti, huser, htenant⟩ := h.recorded c hc htype hfull
  rw [← hjti]
  cases action with
  | resetUserPassword uid newPassword =>
      obtain ⟨-, -, hreset⟩ := bind_eq_ok.mp hperform
      rw [resetUserPassword_eq_ok hreset]
      exact sessionRevoked_of_mem hrow (by simp [huser, show c.sub = uid from hrevokes])
  | eraseUser uid =>
      obtain ⟨-, -, herase⟩ := bind_eq_ok.mp hperform
      rw [(eraseUser_eq_ok herase).2]
      exact sessionRevoked_of_mem hrow (by simp [huser, show c.sub = uid from hrevokes])
  | revokeAllExceptCurrent =>
      obtain ⟨hsub, hother⟩ : c.sub = caller.sub ∧ c.jti ≠ caller.jti := hrevokes
      have hstep : step env s r = (revokeAllExceptCurrent s caller).2 :=
        (congrArg Prod.snd (Except.ok.inj hperform)).symm
      -- the caller's token names the same user, hence the same tenant
      obtain ⟨header, -, hauth, -⟩ := hcommit
      obtain ⟨⟨⟩, -, hcurrent⟩ := bind_eq_ok.mp hauth
      obtain ⟨token, c', -, hdecode, -, -, -, hsub', htenant', -⟩ :=
        getCurrentUser_eq_ok env s hcurrent
      have hsame : c.tenantId = c'.tenantId :=
        h.tenantId_eq hc (decodeToken_eq_ok env s hdecode).2.1 (hsub.trans hsub')
      rw [hstep]
      apply sessionRevoked_of_mem hrow
      simp [huser, htenant, hjti, hsub, hother, hsame, htenant']
  | _ => exact absurd hrevokes id

/-- A token whose session is revoked is refused wherever the middleware looks. -/
theorem Consistent.authenticate_ne_ok (h : Consistent s) {c : Claims} {path : String}
    {header : Option String} (hexcluded : path ∉ excludedPaths) (hsession : path ∉ noSessionPaths)
    (hcarries : Carries env header c)
    (hrevoked : c.tokenType = .access → c.pre2fa = false → SessionRevoked s c.jti)
    (user : CurrentUser) : authenticate env s path header ≠ .ok user := by
  intro hauth
  obtain ⟨token, rfl, hverify⟩ := hcarries
  have hscheme : schemeOf (some ("Bearer" ++ " " ++ token)) = "Bearer" := by
    rw [schemeOf, Option.getD_some, partitionSpace_append (by decide)]
  obtain ⟨hlive, -, htoken⟩ :=
    h.livenessEnforced hexcluded hsession (.inl hscheme) user hauth
  obtain ⟨⟨⟩, -, huser⟩ := bind_eq_ok.mp hauth
  obtain ⟨token', c', hbearer, hdecode, -⟩ := getCurrentUser_eq_ok env s huser
  obtain ⟨hjti, htype, hfull⟩ := htoken token' c' hbearer hdecode
  have hsplit := congrArg partitionSpace (Option.some.inj (httpBearer_some hbearer).2)
  rw [hscheme, partitionSpace_append (by decide), partitionSpace_append (by decide)] at hsplit
  have hsame : token = token' := congrArg Prod.snd hsplit
  have heq : c' = c := by
    have hverify' := (decodeToken_eq_ok env s hdecode).1
    rw [← hsame, hverify] at hverify'
    exact (Option.some.inj hverify').symm
  rw [heq] at hjti htype hfull
  obtain ⟨row, hrow, hrowjti, hnone⟩ := hlive
  obtain ⟨row', hrow', hrowjti', hsome⟩ := hrevoked htype hfull
  -- one row for each jti
  have hrows : row = row' := by
    apply List.inj_on_of_nodup_map h.sessionJtis hrow hrow'
    rw [hrowjti, hrowjti', hjti]
  rw [← hrows, hnone] at hsome
  cases hsome

/-! ## Inactive users -/

theorem Inactive.write {uid : Uuid} (h : Inactive s uid) (hlt : uid < s.nextUuid)
    (hkeep : ¬ r.Activates uid) (hw : Write env r s s') : Inactive s' uid := by
  cases hw with
  | updateUsers p f hid _ hactive =>
      intro u hu huid
      obtain ⟨v, hv, rfl⟩ := List.mem_map.mp hu
      by_cases hp : p v = true
      · simp only [hp, if_true] at huid ⊢
        have hvid : v.id = uid := (hid v).symm.trans huid
        by_contra hnew
        rcases hactive v hp (by simpa using hnew) with hold | hactivates
        · rw [h v hv hvid] at hold
          cases hold
        · exact hkeep (hvid ▸ hactivates)
      · simp only [hp, Bool.false_eq_true, if_false] at huid ⊢
        exact h v hv huid
  | insertUser u hid =>
      intro v hv hvid
      rcases List.mem_append.mp hv with hv | hv
      · exact h v hv hvid
      · rw [List.mem_singleton.mp hv, hid] at hvid
        rw [hvid] at hlt
        exact absurd hlt (Nat.lt_irrefl _)
  | _ => exact h

theorem Write.nextUuid_le (hw : Write env r s s') : s.nextUuid ≤ s'.nextUuid := by
  cases hw with
  | insertUser u hid => exact Nat.le_add_right _ 1
  | issueSession sub role tenantId _ => exact Nat.le_add_right _ 3
  | issuePartial sub role tenantId _ => exact Nat.le_add_right _ 1
  | drawUuids n => exact Nat.le_add_right _ n
  | _ => exact Nat.le_refl _

theorem step_nextUuid_le (r : Request) : s.nextUuid ≤ (step env s r).nextUuid := by
  have hw : Writes env r s (step env s r) := step_writes r
  generalize step env s r = s' at hw
  induction hw with
  | refl => exact Nat.le_refl _
  | tail _ hlast ih => exact Nat.le_trans ih hlast.nextUuid_le

theorem Inactive.writes {uid : Uuid} (h : Inactive s uid) (hlt : uid < s.nextUuid)
    (hkeep : ¬ r.Activates uid) (hw : Writes env r s s') :
    Inactive s' uid ∧ uid < s'.nextUuid := by
  induction hw with
  | refl => exact ⟨h, hlt⟩
  | tail _ hlast ih =>
      exact ⟨ih.1.write ih.2 hkeep hlast, Nat.lt_of_lt_of_le ih.2 hlast.nextUuid_le⟩

theorem Inactive.run {uid : Uuid} (h : Inactive s uid) (hlt : uid < s.nextUuid) {rs : List Request}
    (hkeep : ∀ r ∈ rs, ¬ r.Activates uid) : Inactive (run (step env) s rs) uid := by
  induction rs generalizing s with
  | nil => exact h
  | cons r rs ih =>
      have hw : Writes env r s (step env s r) := step_writes r
      obtain ⟨hstep, hlt'⟩ := h.writes hlt (hkeep r List.mem_cons_self) hw
      exact ih hstep hlt' fun r' hr' => hkeep r' (List.mem_cons_of_mem _ hr')

theorem Consistent.inactive_of_update (h : Consistent s) {uid tenantId : Uuid} {user : User}
    {f : User → User} (hfetch : fetchUserInTenant s uid tenantId = .ok user)
    (hf : ∀ u, (f u).isActive = false) :
    Inactive (updateUserInTenant s uid tenantId f) uid := by
  obtain ⟨hmem, huid, htenant⟩ := fetchUserInTenant_eq_ok hfetch
  intro u hu hkey
  obtain ⟨v, hv, rfl⟩ := List.mem_map.mp hu
  split at hkey
  · next hp => simp only [hp, if_true, hf]
  · next hp =>
      -- the row with this id is the one fetched, and the update reaches it
      have heq : v = user := by
        apply List.inj_on_of_nodup_map h.userIds hv hmem
        rw [hkey, huid]
      exact absurd (by simp [heq, huid, htenant]) hp

theorem Commits.inactive (h : Consistent s) (hcommit : Commits env s r action caller) {uid : Uuid}
    (hdeactivates : action.Deactivates uid) : Inactive (step env s r) uid := by
  obtain ⟨reply, hperform⟩ := hcommit.step_eq
  cases action with
  | patchUserActive uid' isActive =>
      obtain ⟨rfl, rfl⟩ := hdeactivates
      obtain ⟨-, -, hpatch⟩ := bind_eq_ok.mp hperform
      obtain ⟨⟨user, hfetch⟩, hstep⟩ := patchUserActive_eq_ok hpatch
      rw [hstep]
      exact h.inactive_of_update hfetch fun _ => rfl
  | eraseUser uid' =>
      obtain rfl : uid' = uid := hdeactivates
      obtain ⟨-, -, herase⟩ := bind_eq_ok.mp hperform
      obtain ⟨⟨user, hfetch⟩, hstep⟩ := eraseUser_eq_ok herase
      rw [hstep]
      exact h.inactive_of_update hfetch fun _ => rfl
  | _ => exact absurd hdeactivates id

theorem Inactive.refreshAccepts_eq_false {c : Claims} (h : Inactive s c.sub) {token : String}
    (hverify : env.verify token = some c) : refreshAccepts env s token = false := by
  by_contra haccepts
  obtain ⟨⟨reply, s'⟩, hok⟩ := exists_ok_of_toBool (Bool.not_eq_false _ ▸ haccepts)
  obtain ⟨c', user, hdecode, -, huser, hactive, -⟩ := refresh_eq_ok env s hok
  have heq : c = c' := Option.some.inj (hverify.symm.trans (decodeToken_eq_ok env s hdecode).1)
  obtain ⟨hmem, hid⟩ := userById_some huser
  rw [h user hmem (by rw [hid, heq])] at hactive
  cases hactive

/-- Once a password reset or an erasure of a user, or the user's own `DELETE /sessions/all`, has
committed, every token issued to the user before is refused for good, the token of that last
request apart; once a deactivation or an erasure has committed, `refresh` refuses the user's tokens
until an administrator activates the account again. -/
theorem revocation_complete (env : Platform) {s₀ : AuthState} (h₀ : Initial s₀)
    (before after : List Request) {r : Request} {action : Action} {caller : CurrentUser}
    (hcommit : Commits env (run (step env) s₀ before) r action caller) {c : Claims}
    (hissued : c ∈ (run (step env) s₀ before).issued) :
    (action.Revokes caller c → ∀ (path : String) (header : Option String), path ∉ excludedPaths →
      path ∉ noSessionPaths → Carries env header c → ∀ user,
        authenticate env (run (step env) s₀ (before ++ r :: after)) path header ≠ .ok user) ∧
    (action.Deactivates c.sub → (∀ r' ∈ after, ¬ r'.Activates c.sub) → ∀ token,
      env.verify token = some c →
        refreshAccepts env (run (step env) s₀ (before ++ r :: after)) token = false) := by
  have hbefore : Consistent (run (step env) s₀ before) := h₀.consistent.run before
  rw [run_append, run_cons]
  constructor
  · intro hrevokes path header hexcluded hsession hcarries user
    apply ((hbefore.step r).run after).authenticate_ne_ok hexcluded hsession hcarries
    intro htype hfull
    exact (hcommit.sessionRevoked hbefore hissued htype hfull hrevokes).run after
  · intro hdeactivates hkeep token hverify
    obtain ⟨u, hu, hid, -⟩ := hbefore.owner c hissued
    have hlt : c.sub < (step env (run (step env) s₀ before) r).nextUuid :=
      Nat.lt_of_lt_of_le (hid ▸ hbefore.user_lt u hu) (step_nextUuid_le r)
    exact ((hcommit.inactive hbefore hdeactivates).run hlt hkeep).refreshAccepts_eq_false hverify

/-- The administrator erases the editor. -/
theorem revocation_complete_erased :
    (∀ user, authenticate plainPlatform
      (run (step plainPlatform) editorAndAdmin
        (bothLogins ++ .authenticated (bearer secondAccess) (.eraseUser 0) :: [.tick 60]))
      "/api/v1/users" (bearer firstAccess) ≠ .ok user) ∧
    refreshAccepts plainPlatform
      (run (step plainPlatform) editorAndAdmin
        (bothLogins ++ .authenticated (bearer secondAccess) (.eraseUser 0) :: [.tick 60]))
      (plainPlatform.encode firstRefresh) = false := by
  have hcommit : Commits plainPlatform (run (step plainPlatform) editorAndAdmin bothLogins)
      (.authenticated (bearer secondAccess) (.eraseUser 0)) (.eraseUser 0) ⟨1, .admin, 0, 5⟩ :=
    ⟨bearer secondAccess, rfl, by decide +kernel, by decide +kernel⟩
  have hkeep : ∀ r ∈ [Request.tick 60], ¬ r.Activates 0 := by
    rintro r hr ⟨header, rfl⟩
    simp at hr
  constructor
  · exact (revocation_complete plainPlatform (by decide) bothLogins [.tick 60] hcommit
      (c := firstAccess) (by decide +kernel)).1 rfl "/api/v1/users" _ (by decide) (by decide)
      ⟨_, rfl, plainPlatform.verify_encode firstAccess⟩
  · exact (revocation_complete plainPlatform (by decide) bothLogins [.tick 60] hcommit
      (c := firstRefresh) (by decide +kernel)).2 rfl hkeep _
      (plainPlatform.verify_encode firstRefresh)

/-- The token of the request itself outlives it. -/
theorem current_session_survives_revoke_all :
    Initial editorAndAdmin ∧
      firstAccess ∈ (run (step plainPlatform) editorAndAdmin bothLogins).issued ∧
      Commits plainPlatform (run (step plainPlatform) editorAndAdmin bothLogins)
        (.authenticated (bearer firstAccess) .revokeAllExceptCurrent) .revokeAllExceptCurrent
        ⟨0, .editor, 0, 2⟩ ∧
      authenticate plainPlatform
        (run (step plainPlatform) editorAndAdmin
          (bothLogins ++ [.authenticated (bearer firstAccess) .revokeAllExceptCurrent]))
        "/api/v1/users" (bearer firstAccess) = .ok ⟨0, .editor, 0, 2⟩ := by
  refine ⟨by decide, by decide +kernel, ⟨bearer firstAccess, rfl, ?_, ?_⟩, ?_⟩
  all_goals decide +kernel

end GhgTool
