import GhgTool.AuthState
import GhgTool.Loop
import GhgTool.Text

/-!
# Bearer credentials and the authentication endpoints

`login`, `refresh` and `logout`, the session-check middleware and `get_current_user`. An endpoint runs
in one transaction: a raised problem leaves the tables as they were.
-/

namespace GhgTool

variable (env : Platform) (s : AuthState)

/-! ## Login -/

def ambiguousUsername : Problem := ⟨401, "ambiguous_username_tenant_required"⟩

def invalidCredentials : Problem := ⟨401, "Invalid credentials"⟩

/-- The answer to an exception that nothing catches. -/
def internalServerError : Problem := ⟨500, "Internal Server Error"⟩

/-- An empty tenant code counts as none; without one, a username of several tenants is refused. -/
def lookupUser (username : String) (tenantCode : Option String) : Except Problem (Option User) :=
  match tenantCode.filter (· ≠ "") with
  | some _ =>
      -- the query asks for `t.tenant_code`, and the column of `ref.tenants` is `code`
      .error internalServerError
  | none =>
      let rows := s.users.filter fun u => u.username == username
      if 1 < rows.length then .error ambiguousUsername else .ok rows.head?

def authenticateUser (row : Option User) (password : String) :
    Option (User × TokenPair × AuthState) :=
  match row with
  | none => none
  | some user =>
      if !user.isActive then none
      else if !env.verifyPassword password user.passwordHash then none
      else some (user, createTokenPair env s user.id user.role user.tenantId)

def login (username password : String) (tenantCode : Option String) :
    Except Problem (Reply × AuthState) := do
  let row ← lookupUser s username tenantCode
  match authenticateUser env s row password with
  | none => .error invalidCredentials
  | some (user, pair, s₁) =>
      if user.totpEnabled then
        -- the pair that `authenticate_user` has created is dropped unseen
        let (partialToken, s₂) :=
          createAccessToken s₁ user.id user.role user.tenantId true partialTokenTtl
        .ok (.requiresTotp (env.encode partialToken), deliver s₂ [partialToken])
      else
        .ok (.tokenResponse (env.encode pair.access) (env.encode pair.refresh),
          startSession s₁ pair)

theorem lookupUser_some {username : String} {tenantCode : Option String} {user : User}
    (h : lookupUser s username tenantCode = .ok (some user)) :
    user ∈ s.users ∧ user.username = username := by
  unfold lookupUser at h
  split at h
  · cases h
  · dsimp only at h
    split at h
    · cases h
    · have hmem := List.mem_of_head? (Except.ok.inj h)
      simpa using hmem

theorem authenticateUser_some {row : Option User} {password : String} {user : User}
    {issued : TokenPair × AuthState} (h : authenticateUser env s row password = some (user, issued)) :
    row = some user ∧ user.isActive = true ∧
      env.verifyPassword password user.passwordHash = true ∧
      issued = createTokenPair env s user.id user.role user.tenantId := by
  unfold authenticateUser at h
  split at h
  · cases h
  · split at h
    · cases h
    · split at h
      · cases h
      · cases h
        simp_all

/-- What a successful login has checked, and the two ways it answers. -/
theorem login_eq_ok {username password : String} {tenantCode : Option String} {reply : Reply}
    {s' : AuthState} (h : login env s username password tenantCode = .ok (reply, s')) :
    ∃ user ∈ s.users, user.username = username ∧ user.isActive = true ∧
      env.verifyPassword password user.passwordHash = true ∧
      ((user.totpEnabled = true ∧ (∃ token, reply = .requiresTotp token) ∧
          s' = issuePartial { s with nextUuid := s.nextUuid + 2 } user.id user.role user.tenantId) ∨
        (user.totpEnabled = false ∧
          s' = issueSession env s user.id user.role user.tenantId)) := by
  obtain ⟨row, hrow, hauth⟩ := bind_eq_ok.mp h
  split at hauth
  · cases hauth
  · next user pair s₁ hsome =>
      obtain ⟨rfl, hactive, hpassword, hpair⟩ := authenticateUser_some env s hsome
      obtain ⟨hmem, hname⟩ := lookupUser_some s hrow
      refine ⟨user, hmem, hname, hactive, hpassword, ?_⟩
      cases hpair
      split at hauth
      · next htotp =>
          cases hauth
          exact .inl ⟨htotp, ⟨_, rfl⟩, rfl⟩
      · next htotp =>
          cases hauth
          exact .inr ⟨by simpa using htotp, rfl⟩

/-! ## Refresh -/

def invalidRefreshToken : Problem := ⟨401, "Refresh token is invalid or expired"⟩

def notRefreshToken : Problem := ⟨401, "Provided token is not a refresh token"⟩

def refreshTokenReused : Problem := ⟨401, "refresh_token_reused"⟩

def refreshUserRefused : Problem := ⟨401, "Invalid refresh token"⟩

/-- The state after the old refresh token is retired and before the new pair is created. -/
def retireRefreshToken (c : Claims) : AuthState :=
  let s₁ :=
    if (sessionByJti s c.jti).isSome then revokeSessions s fun row => row.jti == c.jti else s
  revokeFromClaims s₁ c

def refresh (refreshToken : String) : Except Problem (Reply × AuthState) :=
  match decodeToken env s refreshToken with
  | .error _ => .error invalidRefreshToken
  | .ok c =>
      if c.tokenType ≠ .refresh then .error notRefreshToken
      else if (sessionByJti s c.jti).any fun row => row.revokedAt.isSome then
        .error refreshTokenReused
      else
        match userById s c.sub with
        | none => .error refreshUserRefused
        | some user =>
            if !user.isActive then .error refreshUserRefused
            else
              let (pair, s₁) :=
                createTokenPair env (retireRefreshToken s c) c.sub user.role user.tenantId
              .ok (.tokenResponse (env.encode pair.access) (env.encode pair.refresh),
                startSession s₁ pair)

theorem refresh_eq_ok {refreshToken : String} {reply : Reply} {s' : AuthState}
    (h : refresh env s refreshToken = .ok (reply, s')) :
    ∃ c user, decodeToken env s refreshToken = .ok c ∧ c.tokenType = .refresh ∧
      userById s c.sub = some user ∧ user.isActive = true ∧
      s' = issueSession env (retireRefreshToken s c) c.sub user.role user.tenantId := by
  unfold refresh at h
  split at h
  · cases h
  · next c hdecode =>
      split at h
      · cases h
      · next htype =>
          split at h
          · cases h
          · split at h
            · cases h
            · next user huser =>
                split at h
                · cases h
                · next hactive =>
                    cases h
                    exact ⟨c, user, hdecode, by simpa using htype, huser, by simpa using hactive,
                      rfl⟩

/-! ## Bearer credentials -/

/-- `str.partition(" ")`: the text before the first space and the text after it. -/
def partitionSpace (header : String) : String × String :=
  (String.ofList (header.toList.takeWhile (· ≠ ' ')),
    String.ofList ((header.toList.dropWhile (· ≠ ' ')).drop 1))

/-- FastAPI's `HTTPBearer(auto_error=False)`. -/
def httpBearer (header : Option String) : Option String :=
  match header with
  | none => none
  | some header =>
      let (scheme, credentials) := partitionSpace header
      if scheme = "" ∨ credentials = "" then none
      else if lower scheme ≠ "bearer" then none
      else some credentials

/-! ## Logout -/

def logoutAccess (credentials : Option String) : AuthState :=
  match credentials with
  | none => s
  | some token =>
      match decodeToken env s token with
      | .error _ => s
      | .ok c => revokeFromClaims (revokeAuthSessionByJti s c.jti c.sub) c

def logoutRefresh (refreshToken : Option String) : AuthState :=
  match refreshToken with
  | none => s
  | some token =>
      match decodeToken env s token with
      | .error _ => s
      | .ok c => revokeFromClaims s c

/-- Logout answers 204 whatever it is given. -/
def logout (header : Option String) (refreshToken : Option String) : Reply × AuthState :=
  (.done, logoutRefresh env (logoutAccess env s (httpBearer header)) refreshToken)

/-! ## Authenticated requests -/

def excludedPaths : List String := ["/healthz", "/readyz"]

def noSessionPaths : List String :=
  ["/api/v1/auth/login", "/api/v1/auth/totp/challenge", "/api/v1/auth/refresh",
    "/api/v1/auth/logout", "/openapi.json", "/docs", "/redoc"]

/-- `header.removeprefix("Bearer ")` when the header starts so. -/
def bearerToken (header : String) : Option String :=
  if "Bearer ".toList <+: header.toList then some (String.ofList (header.toList.drop 7)) else none

def sessionNotFound : Problem := ⟨401, "session_not_found"⟩

def sessionRevoked : Problem := ⟨401, "session_revoked"⟩

/-- `SessionCheckMiddleware.dispatch`: the request is passed on, or answered here. -/
def dispatch (path : String) (header : Option String) : Except Problem Unit :=
  if path ∈ excludedPaths ∨ path ∈ noSessionPaths then .ok ()
  else
    match bearerToken (header.getD "") with
    | none => .ok ()
    | some token =>
        match decodeToken env s token with
        | .error _ => .ok ()
        | .ok c =>
            match sessionByJti s c.jti with
            | none => .error sessionNotFound
            | some row => if row.revokedAt.isSome then .error sessionRevoked else .ok ()

structure CurrentUser where
  sub : Uuid
  role : RoleCode
  tenantId : Uuid
  jti : Jti
  deriving DecidableEq, Repr

def missingHeader : Problem := ⟨401, "Missing or malformed Authorization header"⟩

def tokenExpired : Problem := ⟨401, "Token has expired"⟩

def invalidToken : Problem := ⟨401, "Invalid token"⟩

def unknownRole : Problem := ⟨401, "Unknown role in token: ''"⟩

def partialTokenRefused : Problem :=
  ⟨401, "Partial 2FA token cannot be used as Bearer. Complete TOTP challenge first."⟩

def tokenRevoked : Problem := ⟨401, "Token has been revoked"⟩

def getCurrentUser (header : Option String) : Except Problem CurrentUser :=
  match httpBearer header with
  | none => .error missingHeader
  | some token =>
      match decodeToken env s token with
      | .error .expired => .error tokenExpired
      | .error .invalid => .error invalidToken
      | .ok c =>
          match c.role with
          | none => .error unknownRole
          | some role =>
              if c.pre2fa then .error partialTokenRefused
              else if isRevoked s c.jti then .error tokenRevoked
              else .ok ⟨c.sub, role, c.tenantId, c.jti⟩

theorem getCurrentUser_eq_ok {header : Option String} {user : CurrentUser}
    (h : getCurrentUser env s header = .ok user) :
    ∃ token c, httpBearer header = some token ∧ decodeToken env s token = .ok c ∧
      c.role = some user.role ∧ c.pre2fa = false ∧ isRevoked s c.jti = false ∧
      user.sub = c.sub ∧ user.tenantId = c.tenantId ∧ user.jti = c.jti := by
  unfold getCurrentUser at h
  split at h
  · cases h
  · next token htoken =>
      split at h
      · cases h
      · cases h
      · next c hdecode =>
          split at h
          · cases h
          · next role hrole =>
              split at h
              · cases h
              · next hpre =>
                  split at h
                  · cases h
                  · next hblacklist =>
                      cases h
                      exact ⟨token, c, htoken, hdecode, hrole, by simpa using hpre,
                        by simpa using hblacklist, rfl, rfl, rfl⟩

/-- A request to an endpoint with the `get_current_user` dependency. -/
def authenticate (path : String) (header : Option String) : Except Problem CurrentUser := do
  dispatch env s path header
  getCurrentUser env s header

end GhgTool
