import GhgTool.AuthRouter

/-!
# The user-administration, session and TOTP endpoints

Every endpoint here has an authenticated caller; those of `/api/v1/users` require the permission
`users.write`, which only administrators have. A one-time password is identified by the secret and the
30-second step it was generated for.
-/

namespace GhgTool

variable (env : Platform) (s : AuthState) (caller : CurrentUser)

/-! ## Users -/

def userNotFound (uid : Uuid) : Problem := ⟨404, "User " ++ toString uid ++ " not found."⟩

def selfDeactivationForbidden : Problem := ⟨422, "You cannot deactivate your own account."⟩

def lastAdminDeactivated : Problem :=
  ⟨422, "Cannot deactivate the last active admin in this tenant."⟩

def lastAdminDemoted : Problem := ⟨422, "Cannot demote the last active admin in this tenant."⟩

def userAlreadyErased (uid : Uuid) : Problem :=
  ⟨409, "User " ++ toString uid ++ " has already been erased."⟩

def userExists : Problem :=
  ⟨409, "A user with that username or email already exists in this tenant."⟩

def fetchUserInTenant (uid tenantId : Uuid) : Except Problem User :=
  match s.users.find? fun u => u.id == uid && u.tenantId == tenantId with
  | none => .error (userNotFound uid)
  | some u => .ok u

def countActiveAdmins (tenantId : Uuid) : ℕ :=
  s.users.countP fun u => u.tenantId == tenantId && u.role == .admin && u.isActive

/-- `UPDATE ref.users SET f WHERE id = uid AND tenant_id = tenant`. -/
def updateUserInTenant (uid tenantId : Uuid) (f : User → User) : AuthState :=
  updateUsers s (fun u => u.id == uid && u.tenantId == tenantId) f

def revokeUserSessions (uid : Uuid) : AuthState :=
  revokeSessions s fun row => row.userId == uid

def createUser (username email password : String) (role : RoleCode) :
    Except Problem (Reply × AuthState) :=
  if s.users.any fun u =>
      u.tenantId == caller.tenantId && (u.username == username || u.email == email) then
    .error userExists
  else
    .ok (.done,
      { s with
        users := s.users ++
          [{ id := s.nextUuid, tenantId := caller.tenantId, username := username, email := email,
             passwordHash := env.hashPassword password, role := role }]
        nextUuid := s.nextUuid + 1 })

def patchUserActive (uid : Uuid) (isActive : Bool) : Except Problem (Reply × AuthState) := do
  let target ← fetchUserInTenant s uid caller.tenantId
  if !isActive && uid == caller.sub then .error selfDeactivationForbidden
  else if !isActive && target.role == .admin && countActiveAdmins s caller.tenantId ≤ 1 then
    .error lastAdminDeactivated
  else
    .ok (.done, updateUserInTenant s uid caller.tenantId fun u => { u with isActive := isActive })

def patchUserRole (uid : Uuid) (role : RoleCode) : Except Problem (Reply × AuthState) := do
  let target ← fetchUserInTenant s uid caller.tenantId
  if target.role == .admin && role != .admin && target.isActive &&
      countActiveAdmins s caller.tenantId ≤ 1 then
    .error lastAdminDemoted
  else
    .ok (.done, updateUserInTenant s uid caller.tenantId fun u => { u with role := role })

/-- The new password is the one supplied or the one `_generate_password` draws. -/
def resetUserPassword (uid : Uuid) (newPassword : String) : Except Problem (Reply × AuthState) := do
  let _ ← fetchUserInTenant s uid caller.tenantId
  .ok (.done,
    revokeUserSessions
      (updateUserInTenant s uid caller.tenantId fun u =>
        { u with passwordHash := env.hashPassword newPassword }) uid)

def erasedHash : String := "!erased"

def eraseUser (uid : Uuid) : Except Problem (Reply × AuthState) := do
  let target ← fetchUserInTenant s uid caller.tenantId
  if target.passwordHash = erasedHash then .error (userAlreadyErased uid)
  else
    .ok (.done,
      revokeUserSessions
        (updateUserInTenant s uid caller.tenantId fun u =>
          { u with
            username := "erased_" ++ env.pseudonym uid
            email := "erased_" ++ env.pseudonym uid ++ "@erased.invalid"
            passwordHash := erasedHash
            isActive := false }) uid)

/-! ## Sessions -/

def sessionGone (sid : Uuid) : Problem :=
  ⟨404, "Session " ++ toString sid ++ " not found or already revoked."⟩

def sessionOwnershipMismatch : Problem := ⟨403, "This session does not belong to your account."⟩

def cannotRevokeCurrentSession : Problem :=
  ⟨422, "Cannot revoke the current session. Use POST /api/v1/auth/logout instead."⟩

def revokeAllExceptCurrent : Reply × AuthState :=
  (.done, revokeSessions s fun row =>
    row.userId == caller.sub && row.tenantId == caller.tenantId && row.jti != caller.jti)

def revokeSession (sid : Uuid) : Except Problem (Reply × AuthState) :=
  match s.sessions.find? fun row => row.id == sid with
  | none => .error (sessionGone sid)
  | some row =>
      if row.revokedAt.isSome then .error (sessionGone sid)
      else if row.userId ≠ caller.sub ∨ row.tenantId ≠ caller.tenantId then
        .error sessionOwnershipMismatch
      else if row.jti = caller.jti then .error cannotRevokeCurrentSession
      else .ok (.done, revokeSessions s fun row => row.id == sid)

/-! ## TOTP -/

structure Otp where
  secret : Secret
  step : ℕ
  deriving DecidableEq, Repr

/-- `pyotp.TOTP(secret).verify(otp, valid_window=1)` at the step `now / 30`. -/
def totpVerify (now : ℕ) (secret : Secret) (otp : Otp) : Bool :=
  otp.secret == secret && now / 30 ≤ otp.step + 1 && otp.step ≤ now / 30 + 1

def currentTotpCounter (now : ℕ) : ℕ := now / 30

def invalidOtp : Problem := ⟨401, "Invalid OTP."⟩

def otpAlreadyUsed : Problem := ⟨401, "OTP already used. Wait for the next 30-second window."⟩

/-- The checks of `_verify_otp_no_replay`; the result is the counter it persists. -/
def checkOtp (now : ℕ) (secret : Secret) (otp : Otp) (lastCounter : ℕ) : Except Problem ℕ :=
  if !totpVerify now secret otp then .error invalidOtp
  else if currentTotpCounter now ≤ lastCounter then .error otpAlreadyUsed
  else .ok (currentTotpCounter now)

def updateUser (uid : Uuid) (f : User → User) : AuthState :=
  updateUsers s (fun u => u.id == uid) f

def verifyOtpNoReplay (uid : Uuid) (secret : Secret) (otp : Otp) (lastCounter : ℕ) :
    Except Problem AuthState := do
  let counter ← checkOtp s.now secret otp lastCounter
  .ok (updateUser s uid fun u => { u with totpLastCounter := counter })

def reenrollNeedsOtp : Problem :=
  ⟨401, "Re-enrollment requires current_otp when TOTP is already enabled."⟩

def enrollmentNotStarted : Problem :=
  ⟨401, "TOTP enrollment not started. Call /enroll first."⟩

def totpNotEnabled : Problem := ⟨401, "TOTP 2FA is not enabled for this account."⟩

/-- pyotp cannot be given a missing secret. -/
def secretMissing : Problem := ⟨500, "Internal Server Error"⟩

/-- A user with TOTP enabled proves possession of the existing secret first. -/
def proveCurrentOtp (currentOtp : Option Otp) : Except Problem AuthState :=
  match userById s caller.sub with
  | none => .ok s
  | some row =>
      if !row.totpEnabled then .ok s
      else
        match currentOtp, row.totpSecret with
        | none, _ => .error reenrollNeedsOtp
        | some _, none => .error secretMissing
        | some otp, some secret => verifyOtpNoReplay s caller.sub secret otp row.totpLastCounter

/-- `secret` is the draw of `pyotp.random_base32`. -/
def enroll (currentOtp : Option Otp) (secret : Secret) : Except Problem (Reply × AuthState) := do
  let s₁ ← proveCurrentOtp s caller currentOtp
  .ok (.done,
    updateUser s₁ caller.sub fun u => { u with totpSecret := some secret, totpEnabled := false })

/-- The secret `/disable` and `/challenge` check the password against. -/
def enabledSecret (row : Option User) : Option Secret :=
  row.bind fun u => if u.totpEnabled then u.totpSecret else none

def lastCounter (row : Option User) : ℕ :=
  (row.map User.totpLastCounter).getD 0

def verify (otp : Otp) : Except Problem (Reply × AuthState) :=
  let row := userById s caller.sub
  match row.bind User.totpSecret with
  | none => .error enrollmentNotStarted
  | some secret => do
      let s₁ ← verifyOtpNoReplay s caller.sub secret otp (lastCounter row)
      .ok (.done, updateUser s₁ caller.sub fun u => { u with totpEnabled := true })

def disable (otp : Otp) : Except Problem (Reply × AuthState) :=
  let row := userById s caller.sub
  match enabledSecret row with
  | none => .error totpNotEnabled
  | some secret => do
      let s₁ ← verifyOtpNoReplay s caller.sub secret otp (lastCounter row)
      .ok (.done, updateUser s₁ caller.sub fun u => { u with totpEnabled := false })

def invalidPartialToken : Problem := ⟨401, "Invalid or expired partial token."⟩

def notPartialToken : Problem := ⟨401, "Token is not a pre-2FA partial token."⟩

def partialTokenReplayed : Problem := ⟨401, "partial_token_replayed"⟩

def totpNotConfigured : Problem := ⟨401, "TOTP not configured for this user."⟩

/-- `_mark_partial_jti_consumed`: evicts the worker's expired entries, then records the jti unless it
is there. -/
def markPartialJtiConsumed (worker : ℕ) (jti : Jti) (exp : ℕ) : Bool × AuthState :=
  let cache := s.workerCache.filter fun e => e.1 ≠ worker ∨ s.now ≤ e.2.2
  if cache.any fun e => e.1 == worker && e.2.1 == jti then
    (false, { s with workerCache := cache })
  else (true, { s with workerCache := (worker, jti, exp) :: cache })

/-- The transaction of `challenge`, from the insert into `auth.consumed_partial_jti` on. -/
def challengeTransaction (c : Claims) (role : RoleCode) (otp : Otp) :
    Except Problem (Reply × AuthState) :=
  if c.jti ∈ s.consumedPartialJti then .error partialTokenReplayed
  else
    let s₁ := { s with consumedPartialJti := c.jti :: s.consumedPartialJti }
    let row := userById s₁ c.sub
    match enabledSecret row with
    | none => .error totpNotConfigured
    | some secret => do
        let s₂ ← verifyOtpNoReplay s₁ c.sub secret otp (lastCounter row)
        let (pair, s₃) := createTokenPair env s₂ c.sub role c.tenantId
        .ok (.tokenResponse (env.encode pair.access) (env.encode pair.refresh),
          startSession s₃ pair)

/-- `challenge`. The worker's cache is kept when the transaction rolls back. -/
def challenge (worker : ℕ) (partialToken : String) (otp : Otp) :
    Except Problem Reply × AuthState :=
  match decodeToken env s partialToken with
  | .error _ => (.error invalidPartialToken, s)
  | .ok c =>
      match c.pre2fa, c.role with
      | true, some role =>
          let (firstUse, s₁) := markPartialJtiConsumed s worker c.jti c.exp
          if !firstUse then (.error partialTokenReplayed, s₁)
          else
            match challengeTransaction env s₁ c role otp with
            | .error problem => (.error problem, s₁)
            | .ok (reply, s₂) => (.ok reply, s₂)
      -- only access tokens carry `pre_2fa`, and they carry a role
      | _, _ => (.error notPartialToken, s)

end GhgTool
