import GhgTool.SecondFactor

/-!
# The authority of issued tokens

Tokens are minted in three places. `login` and `refresh` read the user's row first; `challenge` takes the
role and the tenant from the claims of the partial token and reads neither `role_id` nor `is_active`.
-/

namespace GhgTool

section

variable (env : Platform) (s : AuthState)

/-- Every check of `challenge` passes for the partial token with the claims `c`. -/
structure ChallengePasses (worker : ℕ) (partialToken : String) (otp : Otp) (c : Claims)
    (role : RoleCode) : Prop where
  decodes : decodeToken env s partialToken = .ok c
  pre2fa : c.pre2fa = true
  role : c.role = some role
  unmarked : (markPartialJtiConsumed s worker c.jti c.exp).1 = true
  unconsumed : c.jti ∉ s.consumedPartialJti
  otp : ∃ secret ∈ enabledSecret (userById s c.sub), ∃ counter,
    checkOtp s.now secret otp (lastCounter (userById s c.sub)) = .ok counter

/-- The claims of a pair created in the state. -/
def pairClaims (sub : Uuid) (role : RoleCode) (tenantId : Uuid) : List Claims :=
  [(createTokenPair env s sub role tenantId).1.access,
    (createTokenPair env s sub role tenantId).1.refresh]

/-- The claims a request hands out, and what it has read for them. -/
inductive Issues : Request → List Claims → Prop
  | nothing (r : Request) : Issues r []
  | loginPartial (username password : String) (tenantCode : Option String) (user : User)
      (hmem : user ∈ s.users) (hactive : user.isActive = true) (jti : Jti) (exp : ℕ) :
      Issues (.login username password tenantCode)
        [⟨user.id, some user.role, user.tenantId, jti, exp, .access, true⟩]
  | login (username password : String) (tenantCode : Option String) (user : User)
      (hmem : user ∈ s.users) (hactive : user.isActive = true) :
      Issues (.login username password tenantCode)
        (pairClaims env s user.id user.role user.tenantId)
  | refresh (refreshToken : String) (c : Claims) (user : User)
      (huser : userById s c.sub = some user) (hactive : user.isActive = true) :
      Issues (.refresh refreshToken) (pairClaims env s c.sub user.role user.tenantId)
  | challenge (worker : ℕ) (partialToken : String) (otp : Otp) (c : Claims) (role : RoleCode)
      (hpasses : ChallengePasses env s worker partialToken otp c role) :
      Issues (.challenge worker partialToken otp) (pairClaims env s c.sub role c.tenantId)

end

variable {env : Platform} {s s' : AuthState} {r : Request} {reply : Reply} {caller : CurrentUser}

/-! ## What every request issues -/

theorem ChallengePasses.issued {worker : ℕ} {partialToken : String} {otp : Otp} {c : Claims}
    {role : RoleCode} (h : ChallengePasses env s worker partialToken otp c role) :
    (challenge env s worker partialToken otp).2.issued =
      pairClaims env s c.sub role c.tenantId ++ s.issued := by
  obtain ⟨entries, hmark⟩ := markPartialJtiConsumed_eq (s := s) worker c.jti c.exp
  obtain ⟨secret, hsecret, counter, hcheck⟩ := h.otp
  obtain ⟨reply, htransaction⟩ := challengeTransaction_of env
    { s with workerCache := entries } role h.unconsumed hsecret hcheck
  unfold challenge
  rw [h.decodes]
  dsimp only
  rw [h.pre2fa, h.role]
  dsimp only
  rw [h.unmarked, hmark, htransaction]
  rfl

theorem issues_step (env : Platform) (s : AuthState) (r : Request) :
    ∃ cs, (step env s r).issued = cs ++ s.issued ∧ Issues env s r cs := by
  cases r with
  | login username password tenantCode =>
      rw [step, handle]
      cases hlogin : login env s username password tenantCode with
      | error problem => exact ⟨[], rfl, .nothing _⟩
      | ok result =>
          obtain ⟨user, hmem, -, hactive, -, ⟨-, -, hs'⟩ | ⟨-, hs'⟩⟩ := login_eq_ok env s hlogin
          · rw [commit, hs']
            exact ⟨_, rfl, .loginPartial _ _ _ user hmem hactive _ _⟩
          · rw [commit, hs']
            exact ⟨_, rfl, .login _ _ _ user hmem hactive⟩
  | refresh refreshToken =>
      rw [step, handle]
      cases hrefresh : refresh env s refreshToken with
      | error problem => exact ⟨[], rfl, .nothing _⟩
      | ok result =>
          obtain ⟨c, user, -, -, huser, hactive, hs'⟩ := refresh_eq_ok env s hrefresh
          rw [commit, hs']
          refine ⟨_, ?_, .refresh _ c user huser hactive⟩
          unfold retireRefreshToken
          dsimp only
          split <;> rfl
  | logout header refreshToken => 
      obtain ⟨sessions, blacklist, hframe⟩ := logout_frame env s header refreshToken
      refine ⟨[], ?_, .nothing _⟩
      rw [step, handle, commit, hframe, List.nil_append]
  | challenge worker partialToken otp =>
      rcases challenge_cases env s worker partialToken otp with
        ⟨entries, hcache⟩ | ⟨c, role, entries, reply, hdecode, hpre, hrole, hmark, htransaction⟩
      · refine ⟨[], ?_, .nothing _⟩
        rw [step, handle, hcache]
        rfl
      · obtain ⟨hfresh, secret, counter, hsecret, hcheck, hs'⟩ :=
          challengeTransaction_eq_ok htransaction
        refine ⟨_, ?_, .challenge _ _ _ c role
          ⟨hdecode, hpre, hrole, hmark, hfresh, secret, hsecret, counter, hcheck⟩⟩
        rw [step, handle, hs']
        rfl
  | authenticated header action =>
      refine ⟨[], ?_, .nothing _⟩
      cases hperform : performAuthenticated env s header action with
      | error problem => rw [step, handle, hperform, commit, List.nil_append]
      | ok result =>
          obtain ⟨caller, -, hok⟩ := bind_eq_ok.mp hperform
          obtain ⟨users, sessions, nextUuid, hframe⟩ := perform_frame hok
          rw [step, handle, hperform, commit, hframe, List.nil_append]
  | tick seconds => exact ⟨[], rfl, .nothing _⟩

/-! ## Current authority -/

/-- Role and tenant of the claims are those of the user's row, and the user is active. -/
def AuthorityCurrent (s : AuthState) (c : Claims) : Prop :=
  ∃ user, userById s c.sub = some user ∧ c.role = some user.role ∧ c.tenantId = user.tenantId ∧
    user.isActive = true

instance (s : AuthState) (c : Claims) : Decidable (AuthorityCurrent s c) :=
  decidable_of_iff
    ((userById s c.sub).any fun user =>
      c.role = some user.role ∧ c.tenantId = user.tenantId ∧ user.isActive = true)
    (by simp [AuthorityCurrent, Option.any_eq_true])

/-- Every access token the request issues has current authority. -/
def IssuesCurrent (env : Platform) (s : AuthState) (r : Request) : Prop :=
  ∀ c ∈ (step env s r).issued, c ∉ s.issued → c.tokenType = .access →
    AuthorityCurrent (step env s r) c

instance (env : Platform) (s : AuthState) (r : Request) : Decidable (IssuesCurrent env s r) :=
  inferInstanceAs (Decidable (∀ c ∈ (step env s r).issued, _))

/-- A challenge that passes finds its user active and in the role of the partial token. -/
def ChallengeCurrent (env : Platform) (s : AuthState) (r : Request) : Prop :=
  ∀ worker partialToken otp c role, r = .challenge worker partialToken otp →
    ChallengePasses env s worker partialToken otp c role →
      ∃ user, userById s c.sub = some user ∧ user.role = role ∧ user.isActive = true

theorem authorityCurrent_step {c : Claims} {user : User}
    (hr : ∀ header action, r ≠ .authenticated header action)
    (huser : userById s c.sub = some user) (hrole : c.role = some user.role)
    (htenant : c.tenantId = user.tenantId) (hactive : user.isActive = true) :
    AuthorityCurrent (step env s r) c := by
  obtain ⟨n, hn⟩ := userById_step_of_ne env hr huser
  exact ⟨_, hn, hrole, htenant, hactive⟩

/-- The access token of a pair is the only access token in it. -/
theorem eq_access_of_mem_pairClaims {sub : Uuid} {role : RoleCode} {tenantId : Uuid} {c : Claims}
    (hc : c ∈ pairClaims env s sub role tenantId) (htype : c.tokenType = .access) :
    c = (createTokenPair env s sub role tenantId).1.access := by
  rcases List.mem_cons.mp hc with rfl | hc
  · rfl
  · obtain rfl := List.mem_singleton.mp hc
    cases htype

theorem Consistent.tenantId_of_userById (h : Consistent s) {c : Claims} {user : User}
    (hc : c ∈ s.issued) (huser : userById s c.sub = some user) : c.tenantId = user.tenantId := by
  obtain ⟨owner, howner, hid, htenant⟩ := h.owner c hc
  have hfind := h.userById_of_mem howner
  rw [hid, huser] at hfind
  rw [← htenant, Option.some.inj hfind]

theorem Consistent.issuesCurrent (h : Consistent s) (hchallenge : ChallengeCurrent env s r) :
    IssuesCurrent env s r := by
  intro c hc hnew htype
  obtain ⟨cs, hcs, hissues⟩ := issues_step env s r
  rw [hcs] at hc
  replace hc : c ∈ cs := (List.mem_append.mp hc).resolve_right hnew
  cases hissues with
  | nothing => cases hc
  | loginPartial username password tenantCode user hmem hactive jti exp =>
      obtain rfl := List.mem_singleton.mp hc
      exact authorityCurrent_step (by simp) (h.userById_of_mem hmem) rfl rfl hactive
  | login username password tenantCode user hmem hactive =>
      obtain rfl := eq_access_of_mem_pairClaims hc htype
      exact authorityCurrent_step (by simp) (h.userById_of_mem hmem) rfl rfl hactive
  | refresh refreshToken token user huser hactive =>
      obtain rfl := eq_access_of_mem_pairClaims hc htype
      exact authorityCurrent_step (by simp) huser rfl rfl hactive
  | challenge worker partialToken otp token role hpasses =>
      obtain rfl := eq_access_of_mem_pairClaims hc htype
      obtain ⟨user, huser, rfl, hactive⟩ := hchallenge _ _ _ _ _ rfl hpasses
      have htoken : token ∈ s.issued := (decodeToken_eq_ok env s hpasses.decodes).2.1
      have htenant : token.tenantId = user.tenantId := h.tenantId_of_userById htoken huser
      exact authorityCurrent_step (by simp) huser rfl htenant hactive

/-- The token a challenge issues carries the role of the partial token, whatever the row says. -/
theorem Consistent.challengeCurrent (h : Consistent s) (hissues : IssuesCurrent env s r) :
    ChallengeCurrent env s r := by
  rintro worker partialToken otp c role rfl hpasses
  have hc : c ∈ s.issued := (decodeToken_eq_ok env s hpasses.decodes).2.1
  obtain ⟨owner, howner, hid, -⟩ := h.owner c hc
  have huser : userById s c.sub = some owner := hid ▸ h.userById_of_mem howner
  obtain ⟨n, hn⟩ := userById_step_of_ne (r := .challenge worker partialToken otp) env (by simp) huser
  let access := (createTokenPair env s c.sub role c.tenantId).1.access
  have hmem : access ∈ (GhgTool.step env s (.challenge worker partialToken otp)).issued := by
    rw [GhgTool.step, handle, hpasses.issued]
    exact List.mem_append_left _ List.mem_cons_self
  have hnew : access ∉ s.issued := fun hold => absurd (h.issued_lt _ hold) (Nat.lt_irrefl _)
  obtain ⟨user, huser', hrole, -, hactive⟩ := hissues access hmem hnew rfl
  replace huser' : userById (GhgTool.step env s (.challenge worker partialToken otp)) c.sub = some user :=
    huser'
  rw [hn] at huser'
  obtain rfl := Option.some.inj huser'
  exact ⟨owner, huser, (Option.some.inj hrole).symm, hactive⟩

/-- In every run, all issued authority is current exactly when every challenge that passes finds its
user active and in the role the partial token was issued with. -/
theorem issued_authority_iff (env : Platform) {s₀ : AuthState} (h₀ : Initial s₀)
    (rs : List Request) :
    Along (step env) (IssuesCurrent env) s₀ rs ↔ Along (step env) (ChallengeCurrent env) s₀ rs := by
  have hstep : ∀ s r, Consistent s → Consistent (step env s r) := fun _ r h => h.step r
  constructor
  · intro hissues
    exact hissues.imp (I := Consistent) h₀.consistent (fun s r h _ => hstep s r h)
      fun _ _ h hr => h.challengeCurrent hr
  · intro hchallenge
    exact hchallenge.imp (I := Consistent) h₀.consistent (fun s r h _ => hstep s r h)
      fun _ _ h hr => h.issuesCurrent hr

/-- The enrolled editor logs in with the password, and the administrator logs in. -/
def partialLogin : List Request :=
  enrolment ++ [firstVerify, .tick 30, .login "ada" "correct horse" none,
    .login "bob" "battery staple" none]

def partialToken : Claims := ⟨0, some .editor, 0, 7, 1330, .access, true⟩

def adminToken : Claims := ⟨1, some .admin, 0, 8, 4630, .access, false⟩

/-- The administrator makes the editor a viewer before the editor answers the challenge. -/
def demotedBeforeChallenge : List Request :=
  partialLogin ++ [.authenticated (bearer adminToken) (.patchUserRole 0 .viewer),
    .challenge 0 (plainPlatform.encode partialToken) ⟨7, 34⟩]

/-- Without the change of role, everything that is issued is current. -/
theorem issued_authority_challenge :
    Along (step plainPlatform) (ChallengeCurrent plainPlatform) editorAndAdmin
      (partialLogin ++ [.challenge 0 (plainPlatform.encode partialToken) ⟨7, 34⟩]) := by
  apply (issued_authority_iff plainPlatform (by decide) _).mp
  decide +kernel

/-- The challenge hands the demoted user a token with the old role. -/
theorem demoted_user_gets_old_role :
    Initial editorAndAdmin ∧ ¬ Along (step plainPlatform) (IssuesCurrent plainPlatform)
      editorAndAdmin demotedBeforeChallenge := by
  refine ⟨by decide, ?_⟩
  decide +kernel

end GhgTool
