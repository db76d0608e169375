import GhgTool.Revocation

/-!
# What a request does to the row of a user

No endpoint deletes a row of `ref.users`, and each writes its own columns of one row. What a request
can do to the row of a given user is listed once; the lasting properties of an account follow.
-/

namespace GhgTool

/-- The columns an erasure writes. -/
def User.erased (env : Platform) (u : User) : User :=
  { u with
    username := "erased_" ++ env.pseudonym u.id
    email := "erased_" ++ env.pseudonym u.id ++ "@erased.invalid"
    passwordHash := erasedHash
    isActive := false }

section

variable (env : Platform) (s : AuthState) (r : Request) (u : User)

/-- The row of the user `u` after the request `r`, with the request that explains it. -/
inductive RowChange : User → Prop
  | kept : RowChange u
  | counter (n : ℕ) : RowChange { u with totpLastCounter := n }
  | active (caller : CurrentUser) (isActive : Bool)
      (h : Commits env s r (.patchUserActive u.id isActive) caller) :
      RowChange { u with isActive := isActive }
  | role (caller : CurrentUser) (role : RoleCode)
      (h : Commits env s r (.patchUserRole u.id role) caller) : RowChange { u with role := role }
  | password (caller : CurrentUser) (newPassword : String)
      (h : Commits env s r (.resetUserPassword u.id newPassword) caller) :
      RowChange { u with passwordHash := env.hashPassword newPassword }
  | erased (caller : CurrentUser) (h : Commits env s r (.eraseUser u.id) caller) :
      RowChange (u.erased env)
  | enrolled (caller : CurrentUser) (currentOtp : Option Otp) (secret : Secret) (n : ℕ)
      (h : Commits env s r (.enroll currentOtp secret) caller) (hsub : caller.sub = u.id) :
      RowChange { u with totpSecret := some secret, totpEnabled := false, totpLastCounter := n }
  | verified (caller : CurrentUser) (otp : Otp) (n : ℕ)
      (h : Commits env s r (.verify otp) caller) (hsub : caller.sub = u.id) :
      RowChange { u with totpEnabled := true, totpLastCounter := n }
  | disabled (caller : CurrentUser) (otp : Otp) (n : ℕ)
      (h : Commits env s r (.disable otp) caller) (hsub : caller.sub = u.id) :
      RowChange { u with totpEnabled := false, totpLastCounter := n }

end

variable {env : Platform} {s s' : AuthState} {r : Request} {uid : Uuid} {u : User}
  {reply : Reply} {caller : CurrentUser}

/-! ## Reading a row after a write -/

theorem userById_updateUser_some {uid' : Uuid} {f : User → User} (hid : ∀ u, (f u).id = u.id)
    (h : userById s uid = some u) :
    userById (updateUser s uid' f) uid = some (if u.id = uid' then f u else u) := by
  rw [updateUser, userById_updateUsers hid, h, Option.map_some]
  simp only [beq_iff_eq]

theorem userById_updateUser_again {uid' : Uuid} {f g : User → User} (hid : ∀ u, (f u).id = u.id)
    (hg : (g u).id = u.id) (h : userById s uid = some (if u.id = uid' then g u else u)) :
    userById (updateUser s uid' f) uid = some (if u.id = uid' then f (g u) else u) := by
  rw [userById_updateUser_some hid h]
  by_cases hkey : u.id = uid'
  · simp only [hkey, if_true, hg.trans hkey]
  · simp only [hkey, if_false]

theorem userById_updateUserInTenant {uid' tenantId : Uuid} {f : User → User}
    (hid : ∀ u, (f u).id = u.id) (h : userById s uid = some u) :
    userById (updateUserInTenant s uid' tenantId f) uid =
      some (if u.id = uid' ∧ u.tenantId = tenantId then f u else u) := by
  rw [updateUserInTenant, userById_updateUsers hid, h, Option.map_some]
  simp only [Bool.and_eq_true, beq_iff_eq]

theorem userById_createUser {username email password : String} {role : RoleCode}
    (hok : createUser env s caller username email password role = .ok (reply, s'))
    (h : userById s uid = some u) : userById s' uid = some u := by
  rw [createUser_eq_ok hok]
  unfold userById at h ⊢
  rw [List.find?_append, h, Option.some_or]

theorem userById_verifyOtp {uid' : Uuid} {secret : Secret} {otp : Otp} {last : ℕ}
    (hok : verifyOtpNoReplay s uid' secret otp last = .ok s') (h : userById s uid = some u) :
    ∃ n, userById s' uid = some (if u.id = uid' then { u with totpLastCounter := n } else u) := by
  obtain ⟨counter, -, rfl⟩ := verifyOtpNoReplay_eq_ok hok
  exact ⟨counter, userById_updateUser_some (fun _ => rfl) h⟩

/-! ## The actions of an authenticated caller -/

/-- An update of the row of `uid'` in the caller's tenant. -/
theorem rowChange_updateUserInTenant {uid' tenantId : Uuid} {f : User → User}
    (hid : ∀ u, (f u).id = u.id) (h : userById s uid = some u)
    (hchange : u.id = uid' → RowChange env s r u (f u)) :
    ∃ u', userById (updateUserInTenant s uid' tenantId f) uid = some u' ∧
      RowChange env s r u u' := by
  refine ⟨_, userById_updateUserInTenant hid h, ?_⟩
  split
  · next hkey => exact hchange hkey.1
  · exact .kept

theorem userById_enroll {currentOtp : Option Otp} {secret : Secret}
    (hok : enroll s caller currentOtp secret = .ok (reply, s')) (h : userById s uid = some u) :
    ∃ n, userById s' uid = some (if u.id = caller.sub then
      { u with totpSecret := some secret, totpEnabled := false, totpLastCounter := n } else u) := by
  obtain ⟨s₁, hprove, rfl⟩ := enroll_eq_ok hok
  have hprove' : ∃ n, userById s₁ uid =
      some (if u.id = caller.sub then { u with totpLastCounter := n } else u) := by
    rcases proveCurrentOtp_eq_ok hprove with rfl | ⟨_, _, _, hotp⟩
    · exact ⟨u.totpLastCounter, by rw [h, ite_self]⟩
    · exact userById_verifyOtp hotp h
  obtain ⟨n, hn⟩ := hprove'
  refine ⟨n, ?_⟩
  exact userById_updateUser_again
    (f := fun u => { u with totpSecret := some secret, totpEnabled := false })
    (g := fun u => { u with totpLastCounter := n }) (fun _ => rfl) rfl hn

/-- `verify` and `disable`: the counter, then the flag. -/
theorem userById_setTotp {secret : Secret} {otp : Otp} {last : ℕ} {s₁ : AuthState}
    (enabled : Bool) (hotp : verifyOtpNoReplay s caller.sub secret otp last = .ok s₁)
    (h : userById s uid = some u) :
    ∃ n, userById (updateUser s₁ caller.sub fun u => { u with totpEnabled := enabled }) uid =
      some (if u.id = caller.sub then { u with totpEnabled := enabled, totpLastCounter := n }
        else u) := by
  obtain ⟨n, hn⟩ := userById_verifyOtp hotp h
  refine ⟨n, ?_⟩
  exact userById_updateUser_again (f := fun u => { u with totpEnabled := enabled })
    (g := fun u => { u with totpLastCounter := n }) (fun _ => rfl) rfl hn

theorem Commits.rowChange {action : Action} (hcommit : Commits env s r action caller)
    (h : userById s uid = some u) :
    ∃ u', userById (step env s r) uid = some u' ∧ RowChange env s r u u' := by
  obtain ⟨reply, hperform⟩ := hcommit.step_eq
  generalize hs' : step env s r = s' at hperform ⊢
  cases action with
  | createUser username email password role =>
      obtain ⟨_, -, hcreate⟩ := bind_eq_ok.mp hperform
      exact ⟨u, userById_createUser hcreate h, .kept⟩
  | patchUserActive uid' isActive =>
      obtain ⟨_, -, hpatch⟩ := bind_eq_ok.mp hperform
      rw [(patchUserActive_eq_ok hpatch).2]
      refine rowChange_updateUserInTenant (fun _ => rfl) h ?_
      rintro rfl
      exact .active caller isActive hcommit
  | patchUserRole uid' role =>
      obtain ⟨_, -, hpatch⟩ := bind_eq_ok.mp hperform
      rw [patchUserRole_eq_ok hpatch]
      refine rowChange_updateUserInTenant (fun _ => rfl) h ?_
      rintro rfl
      exact .role caller role hcommit
  | resetUserPassword uid' newPassword =>
      obtain ⟨_, -, hreset⟩ := bind_eq_ok.mp hperform
      rw [resetUserPassword_eq_ok hreset]
      refine rowChange_updateUserInTenant (fun _ => rfl) h ?_
      rintro rfl
      exact .password caller newPassword hcommit
  | eraseUser uid' =>
      obtain ⟨_, -, herase⟩ := bind_eq_ok.mp hperform
      rw [(eraseUser_eq_ok herase).2]
      refine rowChange_updateUserInTenant (fun _ => rfl) h ?_
      rintro rfl
      exact .erased caller hcommit
  | revokeAllExceptCurrent =>
      cases hperform
      exact ⟨u, h, .kept⟩
  | revokeSession sid =>
      rw [revokeSession_eq_ok hperform]
      exact ⟨u, h, .kept⟩
  | enroll currentOtp secret =>
      obtain ⟨n, hn⟩ := userById_enroll hperform h
      refine ⟨_, hn, ?_⟩
      split
      · next hsub => exact .enrolled caller currentOtp secret n hcommit hsub.symm
      · exact .kept
  | verify otp =>
      obtain ⟨secret, s₁, -, hotp, rfl⟩ := verify_eq_ok hperform
      obtain ⟨n, hn⟩ := userById_setTotp _ hotp h
      refine ⟨_, hn, ?_⟩
      split
      · next hsub => exact .verified caller otp n hcommit hsub.symm
      · exact .kept
  | disable otp =>
      obtain ⟨secret, s₁, -, hotp, rfl⟩ := disable_eq_ok hperform
      obtain ⟨n, hn⟩ := userById_setTotp _ hotp h
      refine ⟨_, hn, ?_⟩
      split
      · next hsub => exact .disabled caller otp n hcommit hsub.symm
      · exact .kept

/-! ## Every request -/

theorem rowChange_challenge {worker : ℕ} {partialToken : String} {otp : Otp}
    (h : userById s uid = some u) :
    ∃ u', userById (challenge env s worker partialToken otp).2 uid = some u' ∧
      RowChange env s r u u' := by
  rcases challenge_cases env s worker partialToken otp with
    ⟨entries, hcache⟩ | ⟨c, role, entries, reply, -, -, -, -, htransaction⟩
  · rw [hcache]
    exact ⟨u, h, .kept⟩
  · obtain ⟨-, secret, counter, -, -, hs'⟩ := challengeTransaction_eq_ok htransaction
    rw [hs']
    refine ⟨_, userById_updateUser_some (fun _ => rfl) h, ?_⟩
    split
    · exact .counter counter
    · exact .kept

theorem commits_of_ok {header : Option String} {action : Action}
    (h : performAuthenticated env s header action = .ok (reply, s')) :
    ∃ caller, Commits env s (.authenticated header action) action caller := by
  obtain ⟨caller, hauth, hperform⟩ := bind_eq_ok.mp h
  exact ⟨caller, header, rfl, hauth, by rw [hperform]; rfl⟩

/-- No request removes a row, and each changes it in one of the ways of `RowChange`. -/
theorem userById_step (env : Platform) (r : Request) (h : userById s uid = some u) :
    ∃ u', userById (step env s r) uid = some u' ∧ RowChange env s r u u' := by
  cases r with
  | login username password tenantCode =>
      refine ⟨u, ?_, .kept⟩
      rw [← h]
      apply userById_of_users
      rw [step, handle]
      cases hlogin : login env s username password tenantCode with
      | error problem => rfl
      | ok result =>
          obtain ⟨user, -, -, -, -, ⟨-, -, hs'⟩ | ⟨-, hs'⟩⟩ := login_eq_ok env s hlogin
          · rw [commit, hs']
            rfl
          · rw [commit, hs']
            rfl
  | refresh refreshToken =>
      refine ⟨u, ?_, .kept⟩
      rw [← h]
      apply userById_of_users
      rw [step, handle]
      cases hrefresh : refresh env s refreshToken with
      | error problem => rfl
      | ok result =>
          obtain ⟨c, user, -, -, -, -, hs'⟩ := refresh_eq_ok env s hrefresh
          rw [commit, hs']
          exact retireRefreshToken_users c
  | logout header refreshToken =>
      refine ⟨u, ?_, .kept⟩
      rw [← h]
      apply userById_of_users
      obtain ⟨sessions, blacklist, hframe⟩ := logout_frame env s header refreshToken
      rw [step, handle, commit, hframe]
  | challenge worker partialToken otp => exact rowChange_challenge h
  | authenticated header action =>
      cases hperform : performAuthenticated env s header action with
      | error problem =>
          refine ⟨u, ?_, .kept⟩
          rw [step, handle, hperform]
          exact h
      | ok result =>
          obtain ⟨caller, hcommit⟩ := commits_of_ok hperform
          exact hcommit.rowChange h
  | tick seconds => exact ⟨u, h, .kept⟩

theorem userById_step_of_ne (env : Platform) (hr : ∀ header action, r ≠ .authenticated header action)
    (h : userById s uid = some u) :
    ∃ n, userById (step env s r) uid = some { u with totpLastCounter := n } := by
  obtain ⟨u', hu', hchange⟩ := userById_step env r h
  have hcommit : ∀ action caller, ¬ Commits env s r action caller := by
    rintro action caller ⟨header, heq, -⟩
    exact hr header action heq
  cases hchange with
  | kept => exact ⟨u.totpLastCounter, hu'⟩
  | counter n => exact ⟨n, hu'⟩
  | active caller isActive h => exact absurd h (hcommit _ _)
  | role caller role h => exact absurd h (hcommit _ _)
  | password caller newPassword h => exact absurd h (hcommit _ _)
  | erased caller h => exact absurd h (hcommit _ _)
  | enrolled caller currentOtp secret n h _ => exact absurd h (hcommit _ _)
  | verified caller otp n h _ => exact absurd h (hcommit _ _)
  | disabled caller otp n h _ => exact absurd h (hcommit _ _)

end GhgTool
