import GhgTool.EmissionRecord

/-!
# Users, tokens and sessions

The state shared by the authentication endpoints: `ref.users`, `auth.sessions`, the Redis blacklist,
`auth.consumed_partial_jti` and the per-worker cache of consumed partial tokens. What a client
presents is text; a signature verifies only on claims the server has handed out, so `issued`
records them. A draw of `uuid4` is the next unused number, and the clock counts seconds.
-/

namespace GhgTool

abbrev Jti := ℕ

abbrev Secret := ℕ

inductive RoleCode where
  | editor
  | admin
  | viewer
  deriving DecidableEq, Repr

def RoleCode.code : RoleCode → String
  | editor => "editor"
  | admin => "admin"
  | viewer => "viewer"

inductive TokenType where
  | access
  | refresh
  deriving DecidableEq, Repr

/-- The payload of a signed token. Only access tokens carry a role. -/
structure Claims where
  sub : Uuid
  role : Option RoleCode
  tenantId : Uuid
  jti : Jti
  exp : ℕ
  tokenType : TokenType
  pre2fa : Bool
  deriving DecidableEq, Repr

/-- The two tokens of a `TokenResponse`, as the claims they carry. -/
structure TokenPair where
  access : Claims
  refresh : Claims
  deriving DecidableEq, Repr

/-- A row of `ref.users`, with the role joined in. -/
structure User where
  id : Uuid
  tenantId : Uuid
  username : String
  email : String
  passwordHash : String
  role : RoleCode
  isActive : Bool := true
  totpSecret : Option Secret := none
  totpEnabled : Bool := false
  totpLastCounter : ℕ := 0
  deriving DecidableEq, Repr

structure SessionRow where
  id : Uuid
  userId : Uuid
  tenantId : Uuid
  jti : Jti
  revokedAt : Option ℕ := none
  deriving DecidableEq, Repr

structure AuthState where
  users : List User
  sessions : List SessionRow := []
  /-- Key and deadline of each `jwt:blacklist:` entry. -/
  blacklist : List (Jti × ℕ) := []
  consumedPartialJti : List Jti := []
  /-- Worker, jti and expiry of each `_consumed_partial_jtis` entry. -/
  workerCache : List (ℕ × Jti × ℕ) := []
  issued : List Claims := []
  nextUuid : ℕ
  now : ℕ
  deriving DecidableEq, Repr

structure Problem where
  status : ℕ
  detail : String
  deriving DecidableEq, Repr

inductive Reply where
  | tokenResponse (accessToken refreshToken : String)
  | requiresTotp (partialToken : String)
  | done
  deriving DecidableEq, Repr

/-- The sentinel of the demo mode, refused before any decoding. -/
def demoTokenSentinel : String := "demo-jwt-token"

/-- The libraries and settings the endpoints rely on: PyJWT with the signing key, bcrypt, the
pseudonym digest of an erased user, the token lifetimes and the codes of `ref.tenants`. -/
structure Platform where
  encode : Claims → String
  verify : String → Option Claims
  verify_encode : ∀ c, verify (encode c) = some c
  -- a compact token is three parts joined by dots
  dot_mem_encode : ∀ c, '.' ∈ (encode c).toList
  hashPassword : String → String
  verifyPassword : String → String → Bool
  -- bcrypt reads at most 72 bytes of a password
  verify_hash : ∀ p, p.utf8ByteSize ≤ 72 → verifyPassword p (hashPassword p) = true
  pseudonym : Uuid → String
  accessTokenTtl : ℕ
  accessTokenTtl_pos : 0 < accessTokenTtl
  refreshTokenTtl : ℕ

def partialTokenTtl : ℕ := 300

variable (env : Platform) (s : AuthState)

/-! ## Tokens -/

def createAccessToken (sub : Uuid) (role : RoleCode) (tenantId : Uuid) (pre2fa : Bool)
    (ttl : ℕ) : Claims × AuthState :=
  ({ sub := sub, role := some role, tenantId := tenantId, jti := s.nextUuid, exp := s.now + ttl,
     tokenType := .access, pre2fa := pre2fa },
   { s with nextUuid := s.nextUuid + 1 })

def createRefreshToken (sub tenantId : Uuid) : Claims × AuthState :=
  ({ sub := sub, role := none, tenantId := tenantId, jti := s.nextUuid,
     exp := s.now + env.refreshTokenTtl, tokenType := .refresh, pre2fa := false },
   { s with nextUuid := s.nextUuid + 1 })

/-- The access and the refresh token that `authenticate_user`, `refresh` and `challenge` create. -/
def createTokenPair (sub : Uuid) (role : RoleCode) (tenantId : Uuid) : TokenPair × AuthState :=
  let (access, s₁) := createAccessToken s sub role tenantId false env.accessTokenTtl
  let (refresh, s₂) := createRefreshToken env s₁ sub tenantId
  (⟨access, refresh⟩, s₂)

/-- A response hands its tokens to the client. -/
def deliver (cs : List Claims) : AuthState :=
  { s with issued := cs ++ s.issued }

inductive DecodeError where
  | expired
  | invalid
  deriving DecidableEq, Repr

def decodeToken (token : String) : Except DecodeError Claims :=
  if token = demoTokenSentinel then .error .invalid
  else
    match env.verify token with
    | none => .error .invalid
    | some c =>
        if c ∉ s.issued then .error .invalid
        else if c.exp ≤ s.now then .error .expired
        else .ok c

theorem decodeToken_eq_ok {token : String} {c : Claims} (h : decodeToken env s token = .ok c) :
    env.verify token = some c ∧ c ∈ s.issued ∧ s.now < c.exp := by
  unfold decodeToken at h
  split at h
  · cases h
  · split at h
    · cases h
    · next hverify =>
        split at h
        · cases h
        · next hmem =>
            split at h
            · cases h
            · next hexp =>
                cases h
                exact ⟨hverify, by simpa using hmem, by omega⟩

theorem Platform.encode_ne_sentinel (c : Claims) : env.encode c ≠ demoTokenSentinel := by
  intro hc
  have hdot := env.dot_mem_encode c
  rw [hc] at hdot
  exact absurd hdot (by decide)

theorem Platform.encode_ne_empty (c : Claims) : env.encode c ≠ "" := by
  intro hc
  have hdot := env.dot_mem_encode c
  rw [hc] at hdot
  exact absurd hdot (by decide)

theorem decodeToken_encode {c : Claims} (hmem : c ∈ s.issued) (hexp : s.now < c.exp) :
    decodeToken env s (env.encode c) = .ok c := by
  have hne := env.encode_ne_sentinel c
  have hle : ¬ c.exp ≤ s.now := by omega
  simp [decodeToken, hne, env.verify_encode, hmem, hle]

/-! ## A platform that computes

Tokens written out bit by bit and passwords stored as they are, for runs on concrete data. -/

namespace PlainPlatform

/-- The binary digits of a number up to `fuel`, lowest first. -/
def digits : ℕ → ℕ → List Char
  | 0, _ => []
  | fuel + 1, n =>
      if n = 0 then [] else (if n % 2 = 1 then '1' else '0') :: digits fuel (n / 2)

def numbers : List Char → List ℕ
  | [] => []
  | ch :: chs =>
      if ch = '.' then 0 :: numbers chs
      else
        match numbers chs with
        | [] => []
        | n :: ns => ((if ch = '1' then 1 else 0) + 2 * n) :: ns

theorem numbers_digits {fuel n : ℕ} (h : n ≤ fuel) (rest : List Char) :
    numbers (digits fuel n ++ '.' :: rest) = n :: numbers rest := by
  induction fuel generalizing n with
  | zero =>
      obtain rfl : n = 0 := by omega
      simp [digits, numbers]
  | succ fuel ih =>
      by_cases hn : n = 0
      · simp [hn, digits, numbers]
      · have hhalf := ih (n := n / 2) (by omega)
        by_cases hodd : n % 2 = 1
        · simp [digits, hn, hodd, numbers, hhalf]
          omega
        · simp [digits, hn, hodd, numbers, hhalf]
          omega

def roleNumber : Option RoleCode → ℕ
  | none => 0
  | some .editor => 1
  | some .admin => 2
  | some .viewer => 3

def roleOfNumber : ℕ → Option RoleCode
  | 1 => some .editor
  | 2 => some .admin
  | 3 => some .viewer
  | _ => none

def claimNumbers (c : Claims) : List ℕ :=
  [c.sub, roleNumber c.role, c.tenantId, c.jti, c.exp, if c.tokenType = .refresh then 1 else 0,
    if c.pre2fa then 1 else 0]

def encode (c : Claims) : String :=
  String.ofList ((claimNumbers c).flatMap fun n => digits n n ++ ['.'])

def verify (token : String) : Option Claims :=
  match numbers token.toList with
  | [sub, role, tenantId, jti, exp, tokenType, pre2fa] =>
      some ⟨sub, roleOfNumber role, tenantId, jti, exp,
        if tokenType = 1 then .refresh else .access, pre2fa = 1⟩
  | _ => none

theorem numbers_flatMap_digits (ns : List ℕ) :
    numbers (ns.flatMap fun n => digits n n ++ ['.']) = ns := by
  induction ns with
  | nil => rfl
  | cons n ns ih =>
      have hn := numbers_digits (le_refl n) (ns.flatMap fun n => digits n n ++ ['.'])
      rw [ih] at hn
      simpa [List.flatMap_cons] using hn

theorem verify_encode (c : Claims) : verify (encode c) = some c := by
  obtain ⟨sub, role, tenantId, jti, exp, tokenType, pre2fa⟩ := c
  simp only [verify, encode, String.toList_ofList, numbers_flatMap_digits, claimNumbers]
  have hrole : roleOfNumber (roleNumber role) = role := by
    cases role with
    | none => rfl
    | some role => cases role <;> rfl
  cases tokenType <;> cases pre2fa <;> simp [hrole]

end PlainPlatform

def plainPlatform : Platform where
  encode := PlainPlatform.encode
  verify := PlainPlatform.verify
  verify_encode := PlainPlatform.verify_encode
  dot_mem_encode c := by simp [PlainPlatform.encode, PlainPlatform.claimNumbers]
  hashPassword p := p
  verifyPassword p hash := p == hash
  verify_hash := by simp
  pseudonym uid := toString uid
  accessTokenTtl := 3600
  accessTokenTtl_pos := by decide
  refreshTokenTtl := 7 * 86400

/-! ## The blacklist -/

def minTtl : ℕ := 5

def maxTtl : ℕ := 86400 * 8

def clampTtl (ttl : ℕ) : ℕ :=
  if ttl < minTtl then minTtl
  else if ttl > maxTtl then maxTtl
  else ttl

def revokeFromClaims (c : Claims) : AuthState :=
  let ttl := if s.now < c.exp then c.exp - s.now else minTtl
  { s with
    blacklist := (c.jti, s.now + clampTtl ttl) :: s.blacklist.filter fun e => e.1 ≠ c.jti }

def isRevoked (jti : Jti) : Bool :=
  s.blacklist.any fun e => e.1 == jti && s.now < e.2

/-! ## The session table -/

def insertAuthSession (userId tenantId : Uuid) (jti : Jti) : AuthState :=
  { s with
    sessions := s.sessions ++ [⟨s.nextUuid, userId, tenantId, jti, none⟩]
    nextUuid := s.nextUuid + 1 }

/-- Every issuance hands out the pair and records the jti of its access token. -/
def startSession (pair : TokenPair) : AuthState :=
  insertAuthSession (deliver s [pair.access, pair.refresh]) pair.access.sub pair.access.tenantId
    pair.access.jti

/-- A new pair for the user, with its session. -/
def issueSession (sub : Uuid) (role : RoleCode) (tenantId : Uuid) : AuthState :=
  startSession (createTokenPair env s sub role tenantId).2 (createTokenPair env s sub role tenantId).1

/-- A pre-2FA token, which opens no session. -/
def issuePartial (sub : Uuid) (role : RoleCode) (tenantId : Uuid) : AuthState :=
  deliver (createAccessToken s sub role tenantId true partialTokenTtl).2
    [(createAccessToken s sub role tenantId true partialTokenTtl).1]

def revokeRow (now : ℕ) (p : SessionRow → Bool) (row : SessionRow) : SessionRow :=
  if p row && row.revokedAt.isNone then { row with revokedAt := some now } else row

/-- `UPDATE auth.sessions SET revoked_at = now() WHERE p AND revoked_at IS NULL`. -/
def revokeSessions (p : SessionRow → Bool) : AuthState :=
  { s with sessions := s.sessions.map (revokeRow s.now p) }

def revokeAuthSessionByJti (jti : Jti) (userId : Uuid) : AuthState :=
  revokeSessions s fun row => row.jti == jti && row.userId == userId

def sessionByJti (jti : Jti) : Option SessionRow :=
  s.sessions.find? fun row => row.jti == jti

/-! ## The user table -/

def userById (id : Uuid) : Option User :=
  s.users.find? fun u => u.id == id

def updateUsers (p : User → Bool) (f : User → User) : AuthState :=
  { s with users := s.users.map fun u => if p u then f u else u }

end GhgTool
