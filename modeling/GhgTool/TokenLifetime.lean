import Mathlib.Data.Rat.Floor
import GhgTool.AuthState
import GhgTool.Runs
import GhgTool.Text

/-!
# How long a revocation lasts

A token carries its expiry in whole seconds; a revocation is a key of the store that dies after the
TTL it was set with. The TTL is what is left of the token, bounded above by eight days, while the
lifetime of a token comes from the environment. Here the clock is the one of the machine, which
does not tick in seconds.
-/

namespace GhgTool.TokenBlacklist

/-! ## Tokens -/

/-- The settings of the environment that decide lifetimes; an absent variable is empty. -/
structure TtlSettings where
  accessTokenTtl : Option String := none
  refreshTokenTtl : String := ""
  refreshTokenTtlDays : String := ""

-- `int` on a text; none when it raises `ValueError`
variable (parseInt : String → Option ℤ)

/-- `ACCESS_TOKEN_TTL_S`; none when the module fails to import. -/
def TtlSettings.accessTokenTtlS (env : TtlSettings) : Option ℤ :=
  parseInt (env.accessTokenTtl.getD "3600")

def TtlSettings.resolveRefreshTtl (env : TtlSettings) : Option ℤ :=
  if strip env.refreshTokenTtl ≠ "" then parseInt env.refreshTokenTtl
  else if strip env.refreshTokenTtlDays ≠ "" then
    (parseInt env.refreshTokenTtlDays).map (· * 86400)
  else some (7 * 86400)

inductive ExpClaim where
  | missing
  | number (seconds : ℚ)
  | text (s : String)
  deriving DecidableEq, Repr

/-- The decoded claims that a revocation reads. -/
structure DecodedClaims where
  jti : String
  exp : ExpClaim
  deriving DecidableEq, Repr

/-- PyJWT writes a time as its whole seconds. -/
def encodeTime (t : ℚ) : ExpClaim :=
  .number ⌊t⌋

/-- `create_access_token` at `now`: the claims it signs, as they are read back. -/
def createAccessToken (accessTtl : ℤ) (ttlSeconds : Option ℤ) (jti : String) (now : ℚ) :
    DecodedClaims :=
  { jti := jti, exp := encodeTime (now + ttlSeconds.getD accessTtl) }

def createRefreshToken (refreshTtl : ℤ) (jti : String) (now : ℚ) : DecodedClaims :=
  { jti := jti, exp := encodeTime (now + refreshTtl) }

/-- The tokens of a deployment: `uuid4` never draws an empty text. -/
inductive Issued (env : TtlSettings) : DecodedClaims → Prop
  | access {accessTtl : ℤ} (h : env.accessTokenTtlS parseInt = some accessTtl) (ttlSeconds : Option ℤ)
      {jti : String} (hjti : jti ≠ "") (now : ℚ) :
      Issued env (createAccessToken accessTtl ttlSeconds jti now)
  | refresh {refreshTtl : ℤ} (h : env.resolveRefreshTtl parseInt = some refreshTtl)
      {jti : String} (hjti : jti ≠ "") (now : ℚ) :
      Issued env (createRefreshToken refreshTtl jti now)

/-! ## The store -/

/-- Each key with the time at which it dies. -/
abbrev Store := String → Option ℚ

def Store.prune (s : Store) (now : ℚ) : Store :=
  fun name => (s name).filter fun deadline => decide (now < deadline)

/-- `setex`, for a positive time to live. -/
def Store.setex (s : Store) (name : String) (ttl : ℤ) (now : ℚ) : Store :=
  Function.update (s.prune now) name (some (now + ttl))

def Store.exists (s : Store) (name : String) (now : ℚ) : Bool × Store :=
  ((s.prune now name).isSome, s.prune now)

/-! ## The blacklist -/

def makeKey (jti : String) : String :=
  "jwt:blacklist:" ++ jti

def minTtlS : ℤ := 5

def maxTtlS : ℤ := 86400 * 8

def clampTtlS (ttlSeconds : ℤ) : ℤ :=
  if ttlSeconds < minTtlS then minTtlS
  else if ttlSeconds > maxTtlS then maxTtlS
  else ttlSeconds

def revoke (s : Store) (jti : String) (ttlSeconds : ℤ) (now : ℚ) : Store :=
  s.setex (makeKey jti) (clampTtlS ttlSeconds) now

/-- `int(exp_raw)`, with 0 where there is nothing to read. -/
def expInt : ExpClaim → ℤ
  | .missing => 0
  | .number x => if 0 ≤ x then ⌊x⌋ else ⌈x⌉
  | .text t => (parseInt t).getD 0

def revokeFromClaims (s : Store) (claims : DecodedClaims) (time : ℚ) : Store :=
  if claims.jti = "" then s
  else
    let now := ⌊time⌋
    let ttl := if now < expInt parseInt claims.exp then expInt parseInt claims.exp - now else minTtlS
    revoke s claims.jti ttl time

def isRevoked (s : Store) (jti : String) (now : ℚ) : Bool × Store :=
  if jti = "" then (false, s) else s.exists (makeKey jti) now

/-! ## What happens after a revocation -/

inductive Operation where
  | revoke (claims : DecodedClaims)
  | query (jti : String)
  deriving DecidableEq, Repr

def perform (s : Store) (o : ℚ × Operation) : Store :=
  match o.2 with
  | .revoke claims => revokeFromClaims parseInt s claims o.1
  | .query jti => (isRevoked s jti o.1).2

/-- `decode_token` finds a token expired from its `exp` on. -/
def DecodedClaims.Unexpired (claims : DecodedClaims) (now : ℚ) : Prop :=
  ∃ x, claims.exp = .number x ∧ now < x

/-- What may follow the revocation of a token up to `t`: any operations on other tokens, and on the
token itself. No two tokens have one `jti`. -/
def Follows (claims : DecodedClaims) (t₀ t : ℚ) (later : List (ℚ × Operation)) : Prop :=
  ∀ o ∈ later, t₀ ≤ o.1 ∧ o.1 ≤ t ∧
    ∀ other, o.2 = .revoke other → other.jti = claims.jti → other = claims

/-- Revoked at `t₀`, a token is found revoked as long as it has not expired. -/
def RevokedForLife (claims : DecodedClaims) (t₀ : ℚ) (s : Store) : Prop :=
  ∀ t later, t₀ ≤ t → claims.Unexpired t → Follows claims t₀ t later →
    (isRevoked (run (perform parseInt) (revokeFromClaims parseInt s claims t₀) later)
      claims.jti t).1 = true

variable {parseInt} {env : TtlSettings} {claims : DecodedClaims}

/-- A token has a `jti` and expires at a whole second. -/
theorem Issued.spec (h : Issued parseInt env claims) :
    claims.jti ≠ "" ∧ ∃ exp : ℤ, claims.exp = .number exp := by
  cases h with
  | access _ ttlSeconds hjti now => exact ⟨hjti, _, rfl⟩
  | refresh _ hjti now => exact ⟨hjti, _, rfl⟩

theorem expInt_number (exp : ℤ) : expInt parseInt (.number exp) = exp := by
  simp [expInt]

theorem unexpired_iff {exp : ℤ} (h : claims.exp = .number exp) (t : ℚ) :
    claims.Unexpired t ↔ t < exp := by
  simp [DecodedClaims.Unexpired, h]

theorem makeKey_inj {a b : String} : makeKey a = makeKey b ↔ a = b := by
  simp [makeKey]

theorem revokeFromClaims_self (hjti : claims.jti ≠ "") {exp : ℤ} (hexp : claims.exp = .number exp)
    {t : ℚ} (ht : t < exp) (s : Store) :
    revokeFromClaims parseInt s claims t (makeKey claims.jti) =
      some (t + clampTtlS (exp - ⌊t⌋)) := by
  have hlt : ⌊t⌋ < exp := by exact_mod_cast (Int.floor_le t).trans_lt ht
  unfold revokeFromClaims
  rw [if_neg hjti]
  simp only [hexp, expInt_number, if_pos hlt]
  exact Function.update_self _ _ _

theorem prune_alive {s : Store} {name : String} {deadline t : ℚ} (hs : s name = some deadline)
    (ht : t < deadline) : s.prune t name = some deadline := by
  rw [Store.prune, hs, Option.filter_some, if_pos (by simpa using ht)]

theorem revokeFromClaims_other {other : DecodedClaims} {jti : String} (h : other.jti ≠ jti)
    {s : Store} {deadline t : ℚ} (hs : s (makeKey jti) = some deadline) (ht : t < deadline) :
    revokeFromClaims parseInt s other t (makeKey jti) = some deadline := by
  unfold revokeFromClaims
  split
  · exact hs
  · have hkey : makeKey jti ≠ makeKey other.jti := fun hk => h (makeKey_inj.mp hk).symm
    dsimp only [revoke, Store.setex]
    rw [Function.update_of_ne hkey]
    exact prune_alive hs ht

theorem isRevoked_keeps {s : Store} {jti asked : String} {deadline t : ℚ}
    (hs : s (makeKey jti) = some deadline) (ht : t < deadline) :
    (isRevoked s asked t).2 (makeKey jti) = some deadline := by
  unfold isRevoked
  split
  · exact hs
  · exact prune_alive hs ht

theorem isRevoked_eq {s : Store} {jti : String} (hjti : jti ≠ "") {deadline : ℚ}
    (hs : s (makeKey jti) = some deadline) (t : ℚ) :
    (isRevoked s jti t).1 = decide (t < deadline) := by
  unfold isRevoked
  rw [if_neg hjti, Store.exists, Store.prune, hs, Option.filter_some]
  by_cases ht : t < deadline <;> simp [ht]

def Outlives (jti : String) (exp : ℤ) (s : Store) : Prop :=
  ∃ deadline, s (makeKey jti) = some deadline ∧ exp ≤ deadline

theorem exp_le_deadline {exp : ℤ} {t₀ t : ℚ} (hfits : exp - ⌊t₀⌋ ≤ maxTtlS) (ht₀ : t₀ ≤ t) :
    (exp : ℚ) ≤ t + clampTtlS (exp - ⌊t⌋) := by
  have hfloor : ⌊t₀⌋ ≤ ⌊t⌋ := Int.floor_mono ht₀
  have hclamp : exp - ⌊t⌋ ≤ clampTtlS (exp - ⌊t⌋) := by
    unfold clampTtlS minTtlS maxTtlS at *
    split_ifs <;> omega
  calc (exp : ℚ) = ⌊t⌋ + ((exp - ⌊t⌋ : ℤ) : ℚ) := by push_cast; ring
    _ ≤ t + clampTtlS (exp - ⌊t⌋) :=
        add_le_add (Int.floor_le t) (by exact_mod_cast hclamp)

theorem revoke_outlives (hjti : claims.jti ≠ "") {exp : ℤ} (hexp : claims.exp = .number exp)
    {t₀ t : ℚ} (hfits : exp - ⌊t₀⌋ ≤ maxTtlS) (ht₀ : t₀ ≤ t) (ht : t < exp) (s : Store) :
    Outlives claims.jti exp (revokeFromClaims parseInt s claims t) :=
  ⟨_, revokeFromClaims_self hjti hexp ht s, exp_le_deadline hfits ht₀⟩

/-- What follows a revocation, one step at a time: the key still outlives the token. -/
theorem perform_outlives (hjti : claims.jti ≠ "") {exp : ℤ} (hexp : claims.exp = .number exp)
    {t₀ : ℚ} (hfits : exp - ⌊t₀⌋ ≤ maxTtlS) {o : ℚ × Operation} (ht₀ : t₀ ≤ o.1) (ho : o.1 < exp)
    (hsame : ∀ other, o.2 = .revoke other → other.jti = claims.jti → other = claims) {s : Store}
    (hs : Outlives claims.jti exp s) : Outlives claims.jti exp (perform parseInt s o) := by
  obtain ⟨deadline, hdeadline, hle⟩ := hs
  have halive : o.1 < deadline := ho.trans_le hle
  unfold perform
  cases hop : o.2 with
  | query jti => exact ⟨deadline, isRevoked_keeps hdeadline halive, hle⟩
  | revoke other =>
      by_cases hother : other.jti = claims.jti
      · rw [hsame other hop hother]
        exact revoke_outlives hjti hexp hfits ht₀ ho s
      · exact ⟨deadline, revokeFromClaims_other hother hdeadline halive, hle⟩

theorem run_outlives (hjti : claims.jti ≠ "") {exp : ℤ} (hexp : claims.exp = .number exp)
    {t₀ t : ℚ} (hfits : exp - ⌊t₀⌋ ≤ maxTtlS) (ht : t < exp) {later : List (ℚ × Operation)}
    (hlater : Follows claims t₀ t later) {s : Store} (hs : Outlives claims.jti exp s) :
    Outlives claims.jti exp (run (perform parseInt) s later) := by
  induction later generalizing s with
  | nil => exact hs
  | cons o later ih =>
      obtain ⟨ht₀, hle, hsame⟩ := hlater o (by simp)
      have hstep : Outlives claims.jti exp (perform parseInt s o) :=
        perform_outlives hjti hexp hfits ht₀ (hle.trans_lt ht) hsame hs
      exact ih (fun o' ho' => hlater o' (by simp [ho'])) hstep

/-- A lifetime of at most eight days leaves no more than that at any time after the issue. -/
theorem left_le_lifetime (lifetime : ℤ) {now t₀ : ℚ} (h : now ≤ t₀) :
    ⌊now + lifetime⌋ - ⌊t₀⌋ ≤ lifetime := by
  have hfloor : ⌊now⌋ ≤ ⌊t₀⌋ := Int.floor_mono h
  rw [Int.floor_add_intCast]
  omega

/-- A revocation lasts as long as the token exactly when no more than the ceiling of eight days is
left of it, counted from the whole second of the revocation. -/
theorem revoked_for_life_iff (h : Issued parseInt env claims) {t₀ : ℚ}
    (ht₀ : claims.Unexpired t₀) (s : Store) :
    RevokedForLife parseInt claims t₀ s ↔ expInt parseInt claims.exp - ⌊t₀⌋ ≤ maxTtlS := by
  obtain ⟨hjti, exp, hexp⟩ := h.spec
  rw [unexpired_iff hexp] at ht₀
  rw [hexp, expInt_number]
  constructor
  · intro hlife
    by_contra hlong
    have hceiling : clampTtlS (exp - ⌊t₀⌋) = maxTtlS := by
      unfold clampTtlS minTtlS maxTtlS at *
      split_ifs <;> omega
    have hself : revokeFromClaims parseInt s claims t₀ (makeKey claims.jti) =
        some (t₀ + clampTtlS (exp - ⌊t₀⌋)) := revokeFromClaims_self hjti hexp ht₀ s
    rw [hceiling] at hself
    -- The key is dead when the ceiling has passed, and the token is not.
    have hunexpired : t₀ + maxTtlS < exp := by
      have hroom : (⌊t₀⌋ : ℚ) + 1 + maxTtlS ≤ exp := by
        have : ⌊t₀⌋ + 1 + maxTtlS ≤ exp := by omega
        exact_mod_cast this
      linarith [Int.lt_floor_add_one t₀]
    have hpos : (0 : ℚ) ≤ maxTtlS := by simp [maxTtlS]
    have hrevoked := hlife (t₀ + maxTtlS) [] (by linarith) ((unexpired_iff hexp _).mpr hunexpired)
      (by simp [Follows])
    rw [run_nil, isRevoked_eq hjti hself] at hrevoked
    simp at hrevoked
  · intro hfits t later hle ht hlater
    rw [unexpired_iff hexp] at ht
    have hrevoked : Outlives claims.jti exp (revokeFromClaims parseInt s claims t₀) :=
      revoke_outlives hjti hexp hfits le_rfl ht₀ s
    obtain ⟨deadline, hdeadline, hout⟩ := run_outlives hjti hexp hfits ht hlater hrevoked
    rw [isRevoked_eq hjti hdeadline]
    simpa using ht.trans_le hout

/-- `int` on the decimal numerals of the settings below. -/
def parseNumeral (s : String) : Option ℤ :=
  if s = "3600" then some 3600 else if s = "30" then some 30 else none

/-- `GHG_REFRESH_TOKEN_TTL_DAYS=30`. -/
def thirtyDays : TtlSettings :=
  { refreshTokenTtlDays := "30" }

theorem resolveRefreshTtl_thirtyDays :
    thirtyDays.resolveRefreshTtl parseNumeral = some 2592000 := by
  decide

/-- A refresh token of the default lifetime, revoked a minute after its issue. -/
theorem revoked_for_life_iff_default :
    RevokedForLife parseNumeral (createRefreshToken 604800 "9f3c" 0) 60 (fun _ => none) := by
  have hissued : Issued parseNumeral {} (createRefreshToken 604800 "9f3c" 0) :=
    .refresh (by decide) (by decide) 0
  refine (revoked_for_life_iff hissued ⟨_, rfl, by norm_num⟩ _).mpr ?_
  have hleft := left_le_lifetime 604800 (show (0 : ℚ) ≤ 60 by norm_num)
  simp only [createRefreshToken, encodeTime, expInt_number]
  unfold maxTtlS
  omega

/-- With refresh tokens of thirty days, one revoked at once is accepted again after eight days. -/
theorem revocation_forgotten :
    Issued parseNumeral thirtyDays (createRefreshToken 2592000 "9f3c" 0) ∧
      (createRefreshToken 2592000 "9f3c" 0).Unexpired 700000 ∧
      (isRevoked (revokeFromClaims parseNumeral (fun _ => none)
        (createRefreshToken 2592000 "9f3c" 0) 0) "9f3c" 700000).1 = false := by
  have hexp : (createRefreshToken 2592000 "9f3c" 0).exp = .number ((2592000 : ℤ) : ℚ) := by
    simp [createRefreshToken, encodeTime]
  refine ⟨.refresh resolveRefreshTtl_thirtyDays (by decide) 0, ?_, ?_⟩
  · rw [unexpired_iff hexp]
    norm_num
  · have hself : revokeFromClaims parseNumeral (fun _ => none)
        (createRefreshToken 2592000 "9f3c" 0) 0 (makeKey "9f3c") = some 691200 := by
      refine (revokeFromClaims_self (by decide) hexp (by norm_num) fun _ => none).trans ?_
      simp [clampTtlS, minTtlS, maxTtlS]
    rw [isRevoked_eq (by decide) hself]
    norm_num

end GhgTool.TokenBlacklist
