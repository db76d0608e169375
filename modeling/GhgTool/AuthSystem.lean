import GhgTool.UsersRouter
import GhgTool.Loop
import GhgTool.Runs
import Mathlib.Logic.Relation
import Mathlib.Tactic.SplitIfs

/-!
# The authentication system

The requests a client can send, one transaction each, and the passing of time. Every request is a
chain of the writes below; what a write keeps, every run keeps.
-/

namespace GhgTool

inductive Action where
  | createUser (username email password : String) (role : RoleCode)
  | patchUserActive (uid : Uuid) (isActive : Bool)
  | patchUserRole (uid : Uuid) (role : RoleCode)
  | resetUserPassword (uid : Uuid) (newPassword : String)
  | eraseUser (uid : Uuid)
  | revokeAllExceptCurrent
  | revokeSession (sid : Uuid)
  | enroll (currentOtp : Option Otp) (secret : Secret)
  | verify (otp : Otp)
  | disable (otp : Otp)
  deriving DecidableEq, Repr

def Action.path : Action → String
  | createUser .. => "/api/v1/users"
  | patchUserActive uid _ => "/api/v1/users/" ++ toString uid ++ "/active"
  | patchUserRole uid _ => "/api/v1/users/" ++ toString uid ++ "/role"
  | resetUserPassword uid _ => "/api/v1/users/" ++ toString uid ++ "/password-reset"
  | eraseUser uid => "/api/v1/users/" ++ toString uid
  | revokeAllExceptCurrent => "/api/v1/auth/sessions/all"
  | revokeSession sid => "/api/v1/auth/sessions/" ++ toString sid
  | enroll .. => "/api/v1/auth/totp/enroll"
  | verify _ => "/api/v1/auth/totp/verify"
  | disable _ => "/api/v1/auth/totp/disable"

inductive Request where
  | login (username password : String) (tenantCode : Option String)
  | refresh (refreshToken : String)
  | logout (header : Option String) (refreshToken : Option String)
  | challenge (worker : ℕ) (partialToken : String) (otp : Otp)
  | authenticated (header : Option String) (action : Action)
  | tick (seconds : ℕ)
  deriving DecidableEq, Repr

variable (env : Platform) (s : AuthState)

/-- `require_permission("users", "write")`. -/
def requireUsersWrite (caller : CurrentUser) : Except Problem Unit :=
  if caller.role = .admin then .ok ()
  else .error ⟨403, "Role '" ++ caller.role.code ++ "' cannot perform 'write' on 'users'."⟩

def Action.perform (caller : CurrentUser) : Action → Except Problem (Reply × AuthState)
  | createUser username email password role => do
      requireUsersWrite caller
      GhgTool.createUser env s caller username email password role
  | patchUserActive uid isActive => do
      requireUsersWrite caller
      GhgTool.patchUserActive s caller uid isActive
  | patchUserRole uid role => do
      requireUsersWrite caller
      GhgTool.patchUserRole s caller uid role
  | resetUserPassword uid newPassword => do
      requireUsersWrite caller
      GhgTool.resetUserPassword env s caller uid newPassword
  | eraseUser uid => do
      requireUsersWrite caller
      GhgTool.eraseUser env s caller uid
  | revokeAllExceptCurrent => .ok (GhgTool.revokeAllExceptCurrent s caller)
  | revokeSession sid => GhgTool.revokeSession s caller sid
  | enroll currentOtp secret => GhgTool.enroll s caller currentOtp secret
  | verify otp => GhgTool.verify s caller otp
  | disable otp => GhgTool.disable s caller otp

/-- The end of a request: commit, or roll back and answer with the problem. -/
def commit (x : Except Problem (Reply × AuthState)) : Except Problem Reply × AuthState :=
  match x with
  | .ok (reply, s') => (.ok reply, s')
  | .error problem => (.error problem, s)

def performAuthenticated (header : Option String) (action : Action) :
    Except Problem (Reply × AuthState) := do
  let caller ← authenticate env s action.path header
  action.perform env s caller

def handle : Request → Except Problem Reply × AuthState
  | .login username password tenantCode => commit s (login env s username password tenantCode)
  | .refresh refreshToken => commit s (refresh env s refreshToken)
  | .logout header refreshToken => commit s (.ok (logout env s header refreshToken))
  | .challenge worker partialToken otp => challenge env s worker partialToken otp
  | .authenticated header action => commit s (performAuthenticated env s header action)
  | .tick seconds => (.ok .done, { s with now := s.now + seconds })

def step (r : Request) : AuthState :=
  (handle env s r).2

/-! ## Writes -/

/-- The user named by a row of `ref.users` or by a token. -/
def AuthState.Known (sub tenantId : Uuid) : Prop :=
  (∃ u ∈ s.users, u.id = sub ∧ u.tenantId = tenantId) ∨
    ∃ c ∈ s.issued, c.sub = sub ∧ c.tenantId = tenantId

/-- The request asks to activate the user. -/
def Request.Activates (r : Request) (uid : Uuid) : Prop :=
  ∃ header, r = .authenticated header (.patchUserActive uid true)

/-- The writes a request is made of. -/
inductive Write (r : Request) : AuthState → AuthState → Prop
  | revokeSessions (s : AuthState) (p : SessionRow → Bool) : Write r s (revokeSessions s p)
  | blacklist (s : AuthState) (c : Claims) : Write r s (revokeFromClaims s c)
  | updateUsers (s : AuthState) (p : User → Bool) (f : User → User) (hid : ∀ u, (f u).id = u.id)
      (htenant : ∀ u, (f u).tenantId = u.tenantId)
      (hactive : ∀ u, p u → (f u).isActive → u.isActive ∨ r.Activates u.id) :
      Write r s (updateUsers s p f)
  | insertUser (s : AuthState) (u : User) (hid : u.id = s.nextUuid) :
      Write r s { s with users := s.users ++ [u], nextUuid := s.nextUuid + 1 }
  | issueSession (s : AuthState) (sub : Uuid) (role : RoleCode) (tenantId : Uuid)
      (hknown : s.Known sub tenantId) : Write r s (issueSession env s sub role tenantId)
  | issuePartial (s : AuthState) (sub : Uuid) (role : RoleCode) (tenantId : Uuid)
      (hknown : s.Known sub tenantId) : Write r s (issuePartial s sub role tenantId)
  | drawUuids (s : AuthState) (n : ℕ) : Write r s { s with nextUuid := s.nextUuid + n }
  | consume (s : AuthState) (jtis : List Jti) : Write r s { s with consumedPartialJti := jtis }
  | cache (s : AuthState) (entries : List (ℕ × Jti × ℕ)) :
      Write r s { s with workerCache := entries }
  | tick (s : AuthState) (seconds : ℕ) : Write r s { s with now := s.now + seconds }

abbrev Writes (r : Request) : AuthState → AuthState → Prop :=
  Relation.ReflTransGen (Write env r)

variable {env s} {r : Request} {caller : CurrentUser} {reply : Reply} {s' : AuthState}

theorem Write.writes (h : Write env r s s') : Writes env r s s' :=
  .single h

theorem writes_commit {x : Except Problem (Reply × AuthState)}
    (h : ∀ reply s', x = .ok (reply, s') → Writes env r s s') : Writes env r s (commit s x).2 := by
  cases x with
  | error problem => exact .refl
  | ok result => exact h result.1 result.2 rfl

theorem login_writes {username password : String} {tenantCode : Option String}
    (h : login env s username password tenantCode = .ok (reply, s')) : Writes env r s s' := by
  obtain ⟨user, hmem, -, -, -, ⟨-, -, rfl⟩ | ⟨-, rfl⟩⟩ := login_eq_ok env s h
  · have hdraw : Writes env r s { s with nextUuid := s.nextUuid + 2 } := (Write.drawUuids s 2).writes
    exact hdraw.tail (.issuePartial _ _ _ _ (.inl ⟨user, hmem, rfl, rfl⟩))
  · exact (Write.issueSession s _ _ _ (.inl ⟨user, hmem, rfl, rfl⟩)).writes

theorem retireRefreshToken_writes (c : Claims) : Writes env r s (retireRefreshToken s c) := by
  unfold retireRefreshToken
  dsimp only
  split
  · exact (Write.revokeSessions s _).writes.tail (.blacklist _ c)
  · exact (Write.blacklist s c).writes

theorem retireRefreshToken_users (c : Claims) : (retireRefreshToken s c).users = s.users := by
  unfold retireRefreshToken
  dsimp only
  split <;> rfl

theorem userById_some {uid : Uuid} {user : User} (h : userById s uid = some user) :
    user ∈ s.users ∧ user.id = uid :=
  ⟨List.mem_of_find?_eq_some h, by simpa using List.find?_some h⟩

theorem userById_of_users {uid : Uuid} (h : s'.users = s.users) :
    userById s' uid = userById s uid := by
  unfold userById
  rw [h]

theorem userById_updateUsers {uid : Uuid} {p : User → Bool} {f : User → User}
    (hid : ∀ u, (f u).id = u.id) :
    userById (updateUsers s p f) uid = (userById s uid).map fun u => if p u then f u else u := by
  have hkey : ((fun u : User => u.id == uid) ∘ fun u => if p u then f u else u) =
      fun u => u.id == uid := by
    funext u
    dsimp only [Function.comp_apply]
    split
    · rw [hid]
    · rfl
  unfold userById updateUsers
  rw [List.find?_map, hkey]

theorem refresh_writes {refreshToken : String}
    (h : refresh env s refreshToken = .ok (reply, s')) : Writes env r s s' := by
  obtain ⟨c, user, -, -, huser, -, rfl⟩ := refresh_eq_ok env s h
  obtain ⟨hmem, hid⟩ := userById_some huser
  refine (retireRefreshToken_writes c).tail (.issueSession _ _ _ _ (.inl ⟨user, ?_, hid, rfl⟩))
  rwa [retireRefreshToken_users]

theorem logoutAccess_writes (credentials : Option String) :
    Writes env r s (logoutAccess env s credentials) := by
  unfold logoutAccess
  split
  · exact .refl
  · split
    · exact .refl
    · next c _ => exact (Write.revokeSessions s _).writes.tail (.blacklist _ c)

theorem logoutRefresh_writes (refreshToken : Option String) :
    Writes env r s (logoutRefresh env s refreshToken) := by
  unfold logoutRefresh
  split
  · exact .refl
  · split
    · exact .refl
    · next c _ => exact (Write.blacklist s c).writes

theorem fetchUserInTenant_eq_ok {uid tenantId : Uuid} {user : User}
    (h : fetchUserInTenant s uid tenantId = .ok user) :
    user ∈ s.users ∧ user.id = uid ∧ user.tenantId = tenantId := by
  unfold fetchUserInTenant at h
  split at h
  · cases h
  · next u hfind =>
      cases h
      have hkey := List.find?_some hfind
      simp only [Bool.and_eq_true, beq_iff_eq] at hkey
      exact ⟨List.mem_of_find?_eq_some hfind, hkey⟩

theorem createUser_eq_ok {username email password : String} {role : RoleCode}
    (h : createUser env s caller username email password role = .ok (reply, s')) :
    s' = { s with
      users := s.users ++
        [{ id := s.nextUuid, tenantId := caller.tenantId, username := username, email := email,
           passwordHash := env.hashPassword password, role := role }]
      nextUuid := s.nextUuid + 1 } := by
  unfold createUser at h
  split at h
  · cases h
  · cases h
    rfl

theorem updateUserInTenant_write {uid tenantId : Uuid} {f : User → User}
    (hid : ∀ u, (f u).id = u.id) (htenant : ∀ u, (f u).tenantId = u.tenantId)
    (hactive : ∀ u, (f u).isActive → u.isActive ∨ r.Activates uid) :
    Write env r s (updateUserInTenant s uid tenantId f) := by
  refine .updateUsers s _ f hid htenant fun u hu hactive' => ?_
  have hkey : u.id = uid := by
    simp only [Bool.and_eq_true, beq_iff_eq] at hu
    exact hu.1
  rw [hkey]
  exact hactive u hactive'

/-- An update that leaves `is_active` alone. -/
theorem updateUser_write {uid : Uuid} {f : User → User} (hid : ∀ u, (f u).id = u.id)
    (htenant : ∀ u, (f u).tenantId = u.tenantId) (hactive : ∀ u, (f u).isActive = u.isActive) :
    Write env r s (updateUser s uid f) :=
  .updateUsers s _ f hid htenant fun u _ h => .inl (hactive u ▸ h)

theorem patchUserActive_eq_ok {uid : Uuid} {isActive : Bool}
    (h : patchUserActive s caller uid isActive = .ok (reply, s')) :
    (∃ user, fetchUserInTenant s uid caller.tenantId = .ok user) ∧
      s' = updateUserInTenant s uid caller.tenantId fun u => { u with isActive := isActive } := by
  obtain ⟨user, hfetch, h⟩ := bind_eq_ok.mp h
  refine ⟨⟨user, hfetch⟩, ?_⟩
  split at h
  · cases h
  · split at h
    · cases h
    · cases h
      rfl

theorem patchUserRole_eq_ok {uid : Uuid} {role : RoleCode}
    (h : patchUserRole s caller uid role = .ok (reply, s')) :
    s' = updateUserInTenant s uid caller.tenantId fun u => { u with role := role } := by
  obtain ⟨user, -, h⟩ := bind_eq_ok.mp h
  split at h
  · cases h
  · cases h
    rfl

theorem resetUserPassword_eq_ok {uid : Uuid} {newPassword : String}
    (h : resetUserPassword env s caller uid newPassword = .ok (reply, s')) :
    s' = revokeUserSessions
      (updateUserInTenant s uid caller.tenantId fun u =>
        { u with passwordHash := env.hashPassword newPassword }) uid := by
  obtain ⟨user, -, h⟩ := bind_eq_ok.mp h
  cases h
  rfl

theorem eraseUser_eq_ok {uid : Uuid} (h : eraseUser env s caller uid = .ok (reply, s')) :
    (∃ user, fetchUserInTenant s uid caller.tenantId = .ok user) ∧
      s' = revokeUserSessions
        (updateUserInTenant s uid caller.tenantId fun u =>
          { u with
            username := "erased_" ++ env.pseudonym uid
            email := "erased_" ++ env.pseudonym uid ++ "@erased.invalid"
            passwordHash := erasedHash
            isActive := false }) uid := by
  obtain ⟨user, hfetch, h⟩ := bind_eq_ok.mp h
  refine ⟨⟨user, hfetch⟩, ?_⟩
  split at h
  · cases h
  · cases h
    rfl

theorem revokeSession_eq_ok {sid : Uuid} (h : revokeSession s caller sid = .ok (reply, s')) :
    s' = revokeSessions s fun row => row.id == sid := by
  unfold revokeSession at h
  split at h
  · cases h
  · split_ifs at h
    cases h
    rfl

theorem verifyOtpNoReplay_eq_ok {uid : Uuid} {secret : Secret} {otp : Otp} {last : ℕ}
    (h : verifyOtpNoReplay s uid secret otp last = .ok s') :
    ∃ counter, checkOtp s.now secret otp last = .ok counter ∧
      s' = updateUser s uid fun u => { u with totpLastCounter := counter } := by
  obtain ⟨counter, hcheck, h⟩ := bind_eq_ok.mp h
  cases h
  exact ⟨counter, hcheck, rfl⟩

theorem verifyOtpNoReplay_write {uid : Uuid} {secret : Secret} {otp : Otp} {last : ℕ}
    (h : verifyOtpNoReplay s uid secret otp last = .ok s') : Write env r s s' := by
  obtain ⟨counter, -, rfl⟩ := verifyOtpNoReplay_eq_ok h
  apply updateUser_write <;> exact fun _ => rfl

theorem proveCurrentOtp_eq_ok {currentOtp : Option Otp}
    (h : proveCurrentOtp s caller currentOtp = .ok s') :
    s' = s ∨ ∃ secret otp last, verifyOtpNoReplay s caller.sub secret otp last = .ok s' := by
  unfold proveCurrentOtp at h
  split at h
  · cases h
    exact .inl rfl
  · split at h
    · cases h
      exact .inl rfl
    · split at h
      · cases h
      · cases h
      · exact .inr ⟨_, _, _, h⟩

theorem enroll_eq_ok {currentOtp : Option Otp} {secret : Secret}
    (h : enroll s caller currentOtp secret = .ok (reply, s')) :
    ∃ s₁, proveCurrentOtp s caller currentOtp = .ok s₁ ∧
      s' = updateUser s₁ caller.sub fun u =>
        { u with totpSecret := some secret, totpEnabled := false } := by
  obtain ⟨s₁, hprove, h⟩ := bind_eq_ok.mp h
  cases h
  exact ⟨s₁, hprove, rfl⟩

theorem verify_eq_ok {otp : Otp} (h : verify s caller otp = .ok (reply, s')) :
    ∃ secret s₁, (userById s caller.sub).bind User.totpSecret = some secret ∧
      verifyOtpNoReplay s caller.sub secret otp (lastCounter (userById s caller.sub)) = .ok s₁ ∧
      s' = updateUser s₁ caller.sub fun u => { u with totpEnabled := true } := by
  unfold verify at h
  dsimp only at h
  split at h
  · cases h
  · next secret hsecret =>
      obtain ⟨s₁, hotp, h⟩ := bind_eq_ok.mp h
      cases h
      exact ⟨secret, s₁, hsecret, hotp, rfl⟩

theorem disable_eq_ok {otp : Otp} (h : disable s caller otp = .ok (reply, s')) :
    ∃ secret s₁, enabledSecret (userById s caller.sub) = some secret ∧
      verifyOtpNoReplay s caller.sub secret otp (lastCounter (userById s caller.sub)) = .ok s₁ ∧
      s' = updateUser s₁ caller.sub fun u => { u with totpEnabled := false } := by
  unfold disable at h
  dsimp only at h
  split at h
  · cases h
  · next secret hsecret =>
      obtain ⟨s₁, hotp, h⟩ := bind_eq_ok.mp h
      cases h
      exact ⟨secret, s₁, hsecret, hotp, rfl⟩

theorem setTotp_writes {secret : Secret} {otp : Otp} {last : ℕ} {s₁ : AuthState} (enabled : Bool)
    (hotp : verifyOtpNoReplay s caller.sub secret otp last = .ok s₁) :
    Writes env r s (updateUser s₁ caller.sub fun u => { u with totpEnabled := enabled }) := by
  refine (verifyOtpNoReplay_write hotp).writes.tail ?_
  apply updateUser_write <;> exact fun _ => rfl

theorem enroll_writes {currentOtp : Option Otp} {secret : Secret}
    (h : enroll s caller currentOtp secret = .ok (reply, s')) : Writes env r s s' := by
  obtain ⟨s₁, hprove, rfl⟩ := enroll_eq_ok h
  have hs₁ : Writes env r s s₁ := by
    rcases proveCurrentOtp_eq_ok hprove with rfl | ⟨_, _, _, hotp⟩
    · exact .refl
    · exact (verifyOtpNoReplay_write hotp).writes
  refine hs₁.tail ?_
  apply updateUser_write <;> exact fun _ => rfl

theorem perform_writes {header : Option String} {action : Action}
    (h : action.perform env s caller = .ok (reply, s')) :
    Writes env (.authenticated header action) s s' := by
  cases action with
  | createUser username email password role =>
      obtain ⟨-, -, h⟩ := bind_eq_ok.mp h
      rw [createUser_eq_ok h]
      exact (Write.insertUser s _ rfl).writes
  | patchUserActive uid isActive =>
      obtain ⟨-, -, h⟩ := bind_eq_ok.mp h
      rw [(patchUserActive_eq_ok h).2]
      apply Write.writes
      apply updateUserInTenant_write
      · exact fun _ => rfl
      · exact fun _ => rfl
      · intro u hactive
        obtain rfl : isActive = true := hactive
        exact .inr ⟨header, rfl⟩
  | patchUserRole uid role =>
      obtain ⟨-, -, h⟩ := bind_eq_ok.mp h
      rw [patchUserRole_eq_ok h]
      apply Write.writes
      apply updateUserInTenant_write
      · exact fun _ => rfl
      · exact fun _ => rfl
      · exact fun u hactive => .inl hactive
  | resetUserPassword uid newPassword =>
      obtain ⟨-, -, h⟩ := bind_eq_ok.mp h
      rw [resetUserPassword_eq_ok h]
      refine .tail (Write.writes ?_) (.revokeSessions _ _)
      apply updateUserInTenant_write
      · exact fun _ => rfl
      · exact fun _ => rfl
      · exact fun u hactive => .inl hactive
  | eraseUser uid =>
      obtain ⟨-, -, h⟩ := bind_eq_ok.mp h
      rw [(eraseUser_eq_ok h).2]
      refine .tail (Write.writes ?_) (.revokeSessions _ _)
      apply updateUserInTenant_write
      · exact fun _ => rfl
      · exact fun _ => rfl
      · intro u hactive
        cases hactive
  | revokeAllExceptCurrent =>
      cases h
      exact (Write.revokeSessions s _).writes
  | revokeSession sid =>
      rw [revokeSession_eq_ok h]
      exact (Write.revokeSessions s _).writes
  | enroll currentOtp secret => exact enroll_writes h
  | verify otp =>
      obtain ⟨secret, s₁, -, hotp, rfl⟩ := verify_eq_ok h
      exact setTotp_writes true hotp
  | disable otp =>
      obtain ⟨secret, s₁, -, hotp, rfl⟩ := disable_eq_ok h
      exact setTotp_writes false hotp

/-- The actions of an authenticated caller write `ref.users` and `auth.sessions` only. -/
theorem perform_frame {action : Action} (h : action.perform env s caller = .ok (reply, s')) :
    ∃ users sessions nextUuid,
      s' = { s with users := users, sessions := sessions, nextUuid := nextUuid } := by
  have hotp_frame : ∀ {uid secret otp last s₁}, verifyOtpNoReplay s uid secret otp last = .ok s₁ →
      ∃ users, s₁ = { s with users := users } := by
    intro uid secret otp last s₁ hotp
    obtain ⟨counter, -, rfl⟩ := verifyOtpNoReplay_eq_ok hotp
    exact ⟨_, rfl⟩
  cases action with
  | createUser username email password role =>
      obtain ⟨_, -, h⟩ := bind_eq_ok.mp h
      exact ⟨_, _, _, createUser_eq_ok h⟩
  | patchUserActive uid isActive =>
      obtain ⟨_, -, h⟩ := bind_eq_ok.mp h
      exact ⟨_, _, _, (patchUserActive_eq_ok h).2⟩
  | patchUserRole uid role =>
      obtain ⟨_, -, h⟩ := bind_eq_ok.mp h
      exact ⟨_, _, _, patchUserRole_eq_ok h⟩
  | resetUserPassword uid newPassword =>
      obtain ⟨_, -, h⟩ := bind_eq_ok.mp h
      exact ⟨_, _, _, resetUserPassword_eq_ok h⟩
  | eraseUser uid =>
      obtain ⟨_, -, h⟩ := bind_eq_ok.mp h
      exact ⟨_, _, _, (eraseUser_eq_ok h).2⟩
  | revokeAllExceptCurrent =>
      cases h
      exact ⟨_, _, _, rfl⟩
  | revokeSession sid => exact ⟨_, _, _, revokeSession_eq_ok h⟩
  | enroll currentOtp secret =>
      obtain ⟨s₁, hprove, rfl⟩ := enroll_eq_ok h
      rcases proveCurrentOtp_eq_ok hprove with rfl | ⟨_, _, _, hotp⟩
      · exact ⟨_, _, _, rfl⟩
      · obtain ⟨users, rfl⟩ := hotp_frame hotp
        exact ⟨_, _, _, rfl⟩
  | verify otp =>
      obtain ⟨secret, s₁, -, hotp, rfl⟩ := verify_eq_ok h
      obtain ⟨users, rfl⟩ := hotp_frame hotp
      exact ⟨_, _, _, rfl⟩
  | disable otp =>
      obtain ⟨secret, s₁, -, hotp, rfl⟩ := disable_eq_ok h
      obtain ⟨users, rfl⟩ := hotp_frame hotp
      exact ⟨_, _, _, rfl⟩

theorem logout_frame (env : Platform) (s : AuthState) (header refreshToken : Option String) :
    ∃ sessions blacklist, (logout env s header refreshToken).2 =
      { s with sessions := sessions, blacklist := blacklist } := by
  have haccess : ∀ credentials, ∃ sessions blacklist, logoutAccess env s credentials =
      { s with sessions := sessions, blacklist := blacklist } := by
    intro credentials
    unfold logoutAccess
    split
    · exact ⟨_, _, rfl⟩
    · split <;> exact ⟨_, _, rfl⟩
  obtain ⟨sessions, blacklist, hs₁⟩ := haccess (httpBearer header)
  unfold logout logoutRefresh
  dsimp only
  rw [hs₁]
  split
  · exact ⟨_, _, rfl⟩
  · split <;> exact ⟨_, _, rfl⟩

theorem challengeTransaction_eq_ok {c : Claims} {role : RoleCode} {otp : Otp}
    (h : challengeTransaction env s c role otp = .ok (reply, s')) :
    c.jti ∉ s.consumedPartialJti ∧ ∃ secret counter,
      enabledSecret (userById s c.sub) = some secret ∧
      checkOtp s.now secret otp (lastCounter (userById s c.sub)) = .ok counter ∧
      s' = issueSession env
        (updateUser { s with consumedPartialJti := c.jti :: s.consumedPartialJti } c.sub fun u =>
          { u with totpLastCounter := counter }) c.sub role c.tenantId := by
  unfold challengeTransaction at h
  split at h
  · cases h
  · next hfresh =>
      refine ⟨hfresh, ?_⟩
      dsimp only at h
      split at h
      · cases h
      · next secret hsecret =>
          obtain ⟨s₂, hotp, h⟩ := bind_eq_ok.mp h
          obtain ⟨counter, hcheck, rfl⟩ := verifyOtpNoReplay_eq_ok hotp
          cases h
          exact ⟨secret, counter, hsecret, hcheck, rfl⟩

theorem challengeTransaction_of (env : Platform) (s : AuthState) {c : Claims} (role : RoleCode)
    {otp : Otp} {secret : Secret} {counter : ℕ} (hfresh : c.jti ∉ s.consumedPartialJti)
    (hsecret : enabledSecret (userById s c.sub) = some secret)
    (hcheck : checkOtp s.now secret otp (lastCounter (userById s c.sub)) = .ok counter) :
    ∃ reply, challengeTransaction env s c role otp =
      .ok (reply, issueSession env
        (updateUser { s with consumedPartialJti := c.jti :: s.consumedPartialJti } c.sub fun u =>
          { u with totpLastCounter := counter }) c.sub role c.tenantId) := by
  have hrow : userById { s with consumedPartialJti := c.jti :: s.consumedPartialJti } c.sub =
      userById s c.sub := rfl
  let pair := (createTokenPair env s c.sub role c.tenantId).1
  refine ⟨.tokenResponse (env.encode pair.access) (env.encode pair.refresh), ?_⟩
  unfold challengeTransaction
  rw [if_neg hfresh]
  dsimp only
  rw [hrow, hsecret]
  dsimp only
  rw [verifyOtpNoReplay, hcheck]
  rfl

theorem markPartialJtiConsumed_eq (worker : ℕ) (jti : Jti) (exp : ℕ) :
    ∃ entries, (markPartialJtiConsumed s worker jti exp).2 = { s with workerCache := entries } := by
  unfold markPartialJtiConsumed
  dsimp only
  split
  · exact ⟨_, rfl⟩
  · exact ⟨_, rfl⟩

/-- A challenge touches the worker's cache only, or its transaction commits. -/
theorem challenge_cases (env : Platform) (s : AuthState) (worker : ℕ) (partialToken : String)
    (otp : Otp) :
    (∃ entries, (challenge env s worker partialToken otp).2 = { s with workerCache := entries }) ∨
    ∃ c role entries reply, decodeToken env s partialToken = .ok c ∧ c.pre2fa = true ∧
      c.role = some role ∧ (markPartialJtiConsumed s worker c.jti c.exp).1 = true ∧
      challengeTransaction env { s with workerCache := entries } c role otp =
        .ok (reply, (challenge env s worker partialToken otp).2) := by
  unfold challenge
  split
  · exact .inl ⟨s.workerCache, rfl⟩
  · next c hdecode =>
      split
      · next role hpre hrole =>
          obtain ⟨entries, hmark⟩ := markPartialJtiConsumed_eq (s := s) worker c.jti c.exp
          dsimp only
          split
          · exact .inl ⟨entries, hmark⟩
          · next hfirst =>
              split
              · exact .inl ⟨entries, hmark⟩
              · next reply s₂ htransaction =>
                  rw [hmark] at htransaction
                  exact .inr ⟨c, role, entries, reply, hdecode, hpre, hrole, by simpa using hfirst,
                    htransaction⟩
      · exact .inl ⟨s.workerCache, rfl⟩

theorem challenge_writes (worker : ℕ) (partialToken : String) (otp : Otp) :
    Writes env r s (challenge env s worker partialToken otp).2 := by
  rcases challenge_cases env s worker partialToken otp with
    ⟨entries, hcache⟩ | ⟨c, role, entries, reply, hdecode, -, -, -, htransaction⟩
  · rw [hcache]
    exact (Write.cache s entries).writes
  · obtain ⟨-, secret, counter, -, -, hs'⟩ := challengeTransaction_eq_ok htransaction
    rw [hs']
    have hc : c ∈ s.issued := (decodeToken_eq_ok env s hdecode).2.1
    refine .tail (.tail (.tail (Write.cache s entries).writes
      (.consume _ (c.jti :: s.consumedPartialJti))) (updateUser_write ?_ ?_ ?_))
      (.issueSession _ _ role _ (.inr ⟨c, hc, rfl, rfl⟩))
    all_goals exact fun _ => rfl

theorem step_writes (r : Request) : Writes env r s (step env s r) := by
  unfold step
  cases r with
  | login username password tenantCode => exact writes_commit fun _ _ => login_writes
  | refresh refreshToken => exact writes_commit fun _ _ => refresh_writes
  | logout header refreshToken =>
      exact (logoutAccess_writes _).trans (logoutRefresh_writes refreshToken)
  | challenge worker partialToken otp => exact challenge_writes worker partialToken otp
  | authenticated header action =>
      refine writes_commit fun reply s' h => ?_
      obtain ⟨caller, -, h⟩ := bind_eq_ok.mp h
      exact perform_writes h
  | tick seconds => exact (Write.tick s seconds).writes

end GhgTool
