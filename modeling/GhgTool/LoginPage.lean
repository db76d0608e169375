import GhgTool.Base64
import GhgTool.IssuedAuthority
import GhgTool.RlsPolicies
import GhgTool.SessionLiveness

/-!
# The login pages

The Streamlit pages keep the access token of a browser session, and they read the role and the tenant
that they show from its payload, without a key. Here they run against the authentication system, whose
answers may be lost on the way. The token that they send is never the one that waits for the second
factor; and what they call logging out the server never hears of.
-/

namespace GhgTool

/-! ## Tokens -/

/-- The compact form: between the first two dots stands what `json.dumps` makes of the claims, in
Base64 without padding. -/
structure CompactJwt (env : Platform) where
  header : String
  dumps : Claims → List Base64.Octet
  loads : List Base64.Octet → Option Claims
  signature : Claims → String
  loads_dumps : ∀ c, loads (dumps c) = some c
  header_no_dot : '.' ∉ header.toList
  encode_eq : ∀ c, (env.encode c).toList = header.toList ++
    '.' :: (Base64.unpadded (Base64.urlsafe.encode (dumps c)) ++ '.' :: (signature c).toList)

/-- `_decode_jwt_claims`; `none` is the empty dict. -/
def decodeJwtClaims (loads : List Base64.Octet → Option Claims) (token : String) : Option Claims :=
  match token.toList.splitOn '.' with
  | _ :: payload :: _ =>
      (Base64.urlsafe.decode (payload ++ Base64.padding payload.length)).bind loads
  | _ => none

theorem urlsafe_encode_no_dot (octets : List Base64.Octet) :
    '.' ∉ Base64.unpadded (Base64.urlsafe.encode octets) := by
  intro hdot
  rcases Base64.urlsafe.mem_encode (List.mem_of_mem_filter hdot) with heq | ⟨d, hd⟩
  · cases heq
  · exact Base64.urlsafeDigit_ne_dot d hd.symm

theorem decodeJwtClaims_of_compact (loads : List Base64.Octet → Option Claims) {token : String}
    {header signature : List Char} {octets : List Base64.Octet} (hheader : '.' ∉ header)
    (htoken : token.toList =
      header ++ '.' :: (Base64.unpadded (Base64.urlsafe.encode octets) ++ '.' :: signature)) :
    decodeJwtClaims loads token = loads octets := by
  unfold decodeJwtClaims
  rw [htoken, List.splitOn_append_cons_self_of_not_mem hheader,
    List.splitOn_append_cons_self_of_not_mem (urlsafe_encode_no_dot octets)]
  dsimp only
  rw [Base64.urlsafe.decode_unpadded, Option.bind_some]

theorem decodeJwtClaims_encode {env : Platform} (J : CompactJwt env) (c : Claims) :
    decodeJwtClaims J.loads (env.encode c) = some c :=
  (decodeJwtClaims_of_compact J.loads J.header_no_dot (J.encode_eq c)).trans (J.loads_dumps c)

/-! A platform whose tokens are compact and that verifies a token by making it again. -/

namespace CompactPlatform

def dumps (c : Claims) : List Base64.Octet := Base64.latin1 (PlainPlatform.encode c)

def loads (octets : List Base64.Octet) : Option Claims :=
  PlainPlatform.verify (Base64.ofLatin1 octets)

theorem plain_lt {c : Claims} {ch : Char} (h : ch ∈ (PlainPlatform.encode c).toList) :
    ch.toNat < 256 := by
  have hdigits : ∀ fuel n, ∀ ch ∈ PlainPlatform.digits fuel n, ch.toNat < 256 := by
    intro fuel
    induction fuel with
    | zero => nofun
    | succ fuel ih =>
        intro n ch hch
        unfold PlainPlatform.digits at hch
        split at hch
        · cases hch
        · rcases List.mem_cons.mp hch with rfl | hrest
          · split
            · decide
            · decide
          · exact ih _ ch hrest
  unfold PlainPlatform.encode at h
  rw [String.toList_ofList] at h
  obtain ⟨n, -, hn⟩ := List.mem_flatMap.mp h
  rcases List.mem_append.mp hn with hdigit | hdot
  · exact hdigits n n ch hdigit
  · rw [List.mem_singleton.mp hdot]
    decide

theorem loads_dumps (c : Claims) : loads (dumps c) = some c := by
  unfold loads dumps
  rw [Base64.ofLatin1_latin1 fun _ => plain_lt, PlainPlatform.verify_encode]

def encode (c : Claims) : String :=
  String.ofList ("h".toList ++
    '.' :: (Base64.unpadded (Base64.urlsafe.encode (dumps c)) ++ '.' :: "s".toList))

def verify (token : String) : Option Claims :=
  (decodeJwtClaims loads token).filter fun c => encode c = token

theorem verify_encode (c : Claims) : verify (encode c) = some c := by
  have hdecode : decodeJwtClaims loads (encode c) = loads (dumps c) :=
    decodeJwtClaims_of_compact loads (by decide) String.toList_ofList
  unfold verify
  rw [hdecode, loads_dumps]
  simp

end CompactPlatform

def compactPlatform : Platform :=
  { plainPlatform with
    encode := CompactPlatform.encode
    verify := CompactPlatform.verify
    verify_encode := CompactPlatform.verify_encode
    dot_mem_encode := fun c => by simp [CompactPlatform.encode] }

def compactJwt : CompactJwt compactPlatform where
  header := "h"
  dumps := CompactPlatform.dumps
  loads := CompactPlatform.loads
  signature _ := "s"
  loads_dumps := CompactPlatform.loads_dumps
  header_no_dot := by decide
  encode_eq _ := String.toList_ofList

/-! ## The pages -/

/-- `st.session_state`, as far as the login goes. -/
structure BrowserSession where
  token : Option String := none
  role : Option String := none
  userSub : Option String := none
  tenantId : Option String := none
  totpPartialToken : Option String := none
  totpPending : Bool := false
  deriving DecidableEq, Repr

/-- `_DEMO_MODE` and `_DEMO_TENANT`. -/
structure PageSettings where
  demoMode : Bool
  demoTenant : String

/-- `username[:8]`. -/
def shownUser (username : String) : String := String.ofList (username.toList.take 8)

def credentialsValidShape (username password : String) : Bool :=
  3 ≤ (strip username).length && 4 ≤ password.length

/-- `str(role_claim) if role_claim else "admin"`. -/
def shownRole (claims : Option Claims) : String :=
  ((claims.bind Claims.role).map RoleCode.code).getD "admin"

def shownTenant (absent : String) (claims : Option Claims) : String :=
  (claims.map fun c => uuidText c.tenantId).getD absent

def enableDemoSession (settings : PageSettings) (st : BrowserSession) (username : String) :
    BrowserSession :=
  { st with
    token := some demoTokenSentinel
    role := some "admin"
    userSub := some (shownUser username)
    tenantId := some settings.demoTenant }

/-- What arrives of a request: the answer of the API, or `none` where the connection fails or times
out. -/
abbrev ApiAnswer := Option (Except Problem Reply)

/-- What `_do_login` makes of the answer. -/
def afterLogin (settings : PageSettings) (loads : List Base64.Octet → Option Claims)
    (st : BrowserSession) (username : String) : ApiAnswer → BrowserSession
  | some (.ok (.tokenResponse accessToken _)) =>
      let claims := decodeJwtClaims loads accessToken
      { st with
        token := some accessToken
        role := some (shownRole claims)
        userSub := some (shownUser username)
        tenantId := some (shownTenant settings.demoTenant claims) }
  | some (.ok (.requiresTotp partialToken)) =>
      { st with
        totpPartialToken := some partialToken
        totpPending := true
        userSub := some (shownUser username) }
  | some (.ok .done) => st
  | some (.error problem) =>
      if problem.status = 503 ∧ settings.demoMode then enableDemoSession settings st username else st
  | none => if settings.demoMode then enableDemoSession settings st username else st

/-- What `_render_totp_challenge_form` makes of the answer. -/
def afterChallenge (loads : List Base64.Octet → Option Claims) (st : BrowserSession) :
    ApiAnswer → BrowserSession
  | some (.ok (.tokenResponse accessToken _)) =>
      let claims := decodeJwtClaims loads accessToken
      { st with
        token := some accessToken
        role := some (shownRole claims)
        tenantId := some (shownTenant "" claims)
        totpPartialToken := none
        totpPending := false }
  | _ => st

def BrowserSession.logout (_ : BrowserSession) : BrowserSession := {}

/-- The button `Torna al login`. -/
def BrowserSession.backToLogin (st : BrowserSession) : BrowserSession :=
  { st with totpPartialToken := none, totpPending := false, userSub := none }

/-- The header `Authorization` of `_get_headers`. -/
def authorizationHeader (settings : PageSettings) (st : BrowserSession) : Option String :=
  match st.token with
  | some token => some ("Bearer" ++ " " ++ token)
  | none => if settings.demoMode then some ("Bearer" ++ " " ++ demoTokenSentinel) else none

/-! ## Pages and server -/

/-- The fate of a request: it is answered; the answer is lost, when the server may have handled it or
not; or the answer is 503 and the server has not seen it. -/
inductive Delivery
  | answered
  | lost (handled : Bool)
  | unavailable
  deriving DecidableEq, Repr

def serviceUnavailable : Problem := ⟨503, "Service Unavailable"⟩

/-- `LoginRequest`: the bounds are those of the raw texts, the username is stripped. -/
def loginRequest (username password : String) : Except Problem Request :=
  if username.length ≤ 120 ∧ password.length ≤ 200 then
    .ok (.login (strip username) password none)
  else .error ⟨422, "Request validation failed"⟩

/-- A request that the schema refuses is answered without a transaction. -/
def receive (env : Platform) (s : AuthState) (request : Except Problem Request) :
    Except Problem Reply × AuthState :=
  match request with
  | .ok r => handle env s r
  | .error problem => (.error problem, s)

def exchange (env : Platform) (s : AuthState) (request : Except Problem Request) :
    Delivery → ApiAnswer × AuthState
  | .answered => (some (receive env s request).1, (receive env s request).2)
  | .lost handled => (none, if handled then (receive env s request).2 else s)
  | .unavailable => (some (.error serviceUnavailable), s)

structure PageWorld where
  browser : BrowserSession
  server : AuthState

/-- What the user of the browser does, and what anyone else does to the server. A code that is not of
six digits is `none`. -/
inductive PageEvent
  | login (username password : String) (delivery : Delivery)
  | challenge (worker : ℕ) (otp : Option Otp) (delivery : Delivery)
  | backToLogin
  | logout
  | other (r : Request)

section

variable {env : Platform} (settings : PageSettings) (J : CompactJwt env)

def doLogin (w : PageWorld) (username password : String) (delivery : Delivery) : PageWorld :=
  if credentialsValidShape username password then
    let (answer, s) := exchange env w.server (loginRequest username password) delivery
    ⟨afterLogin settings J.loads w.browser username answer, s⟩
  else w

/-- The form of `_render_totp_challenge_form`. -/
def submitChallenge (w : PageWorld) (worker : ℕ) (otp : Option Otp) (delivery : Delivery) :
    PageWorld :=
  match w.browser.totpPartialToken, otp with
  | none, _ => { w with browser := { w.browser with totpPending := false } }
  | some _, none => w
  | some partialToken, some otp =>
      let (answer, s) := exchange env w.server (.ok (.challenge worker partialToken otp)) delivery
      ⟨afterChallenge J.loads w.browser answer, s⟩

/-- `require_auth` shows the forms while there is no token, and the second one while a code is asked
for; the pages with the button to log out show only with one. -/
def pageStep (w : PageWorld) : PageEvent → PageWorld
  | .login username password delivery =>
      if w.browser.token = none then doLogin settings J w username password delivery else w
  | .challenge worker otp delivery =>
      if w.browser.token = none ∧ w.browser.totpPending then submitChallenge J w worker otp delivery
      else w
  | .backToLogin =>
      if w.browser.token = none ∧ w.browser.totpPending then
        { w with browser := w.browser.backToLogin }
      else w
  | .logout => if w.browser.token = none then w else { w with browser := w.browser.logout }
  | .other r => { w with server := step env w.server r }

end

/-! ## What the server answers -/

section Server

variable {env : Platform} {s : AuthState} {reply : Reply}

theorem issued_subset_step (env : Platform) (s : AuthState) (r : Request) :
    s.issued ⊆ (step env s r).issued := by
  obtain ⟨cs, hcs, -⟩ := issues_step env s r
  rw [hcs]
  exact List.subset_append_right _ _

/-- The token is that of an access token of full rights, with its role. -/
structure FullToken (env : Platform) (s : AuthState) (token : String) (c : Claims)
    (role : RoleCode) : Prop where
  issued : c ∈ s.issued
  token_eq : token = env.encode c
  access : c.tokenType = .access
  full : c.pre2fa = false
  role_eq : c.role = some role

/-- The token is one that waits for the second factor. -/
structure PartialToken (env : Platform) (s : AuthState) (token : String) (c : Claims) : Prop where
  issued : c ∈ s.issued
  token_eq : token = env.encode c
  pre2fa : c.pre2fa = true

theorem FullToken.mono {s' : AuthState} {token : String} {c : Claims} {role : RoleCode}
    (h : FullToken env s token c role) (hsub : s.issued ⊆ s'.issued) :
    FullToken env s' token c role :=
  ⟨hsub h.issued, h.token_eq, h.access, h.full, h.role_eq⟩

theorem PartialToken.mono {s' : AuthState} {token : String} {c : Claims}
    (h : PartialToken env s token c) (hsub : s.issued ⊆ s'.issued) : PartialToken env s' token c :=
  ⟨hsub h.issued, h.token_eq, h.pre2fa⟩

/-- The tokens of the reply are among those handed out. -/
def IssuedReply (env : Platform) (s : AuthState) (reply : Reply) : Prop :=
  (∃ token c, reply = .requiresTotp token ∧ PartialToken env s token c) ∨
    ∃ token refreshToken c role, reply = .tokenResponse token refreshToken ∧
      FullToken env s token c role

theorem login_reply {username password : String} {tenantCode : Option String} {s' : AuthState}
    (h : login env s username password tenantCode = .ok (reply, s')) : IssuedReply env s' reply := by
  obtain ⟨row, hrow, hauth⟩ := bind_eq_ok.mp h
  split at hauth
  · cases hauth
  · next user pair s₁ hsome =>
      obtain ⟨-, -, -, hpair⟩ := authenticateUser_some env s hsome
      cases hpair
      split at hauth
      · cases hauth
        exact .inl ⟨_, _, rfl, List.mem_cons_self, rfl, rfl⟩
      · cases hauth
        exact .inr ⟨_, _, _, _, rfl, List.mem_cons_self, rfl, rfl, rfl, rfl⟩

theorem challengeTransaction_reply {claims : Claims} {role : RoleCode} {otp : Otp} {s' : AuthState}
    (h : challengeTransaction env s claims role otp = .ok (reply, s')) :
    IssuedReply env s' reply := by
  unfold challengeTransaction at h
  split at h
  · cases h
  · dsimp only at h
    split at h
    · cases h
    · obtain ⟨s₂, -, hpair⟩ := bind_eq_ok.mp h
      cases hpair
      exact .inr ⟨_, _, _, _, rfl, List.mem_cons_self, rfl, rfl, rfl, rfl⟩

theorem challenge_reply {worker : ℕ} {partialToken : String} {otp : Otp}
    (h : (challenge env s worker partialToken otp).1 = .ok reply) :
    IssuedReply env (challenge env s worker partialToken otp).2 reply := by
  unfold challenge at h ⊢
  split at h
  · cases h
  · split at h
    · dsimp only at h ⊢
      split at h
      · cases h
      · next hfirst =>
          split at h
          · cases h
          · next htransaction =>
              cases h
              rw [if_neg hfirst]
              exact challengeTransaction_reply htransaction
    · cases h

end Server

/-! ## What the pages hold -/

section Sound

variable {env : Platform} {settings : PageSettings} {J : CompactJwt env} {w : PageWorld}

/-- The token of the pages and what they show with it. -/
def ShowsToken (settings : PageSettings) (env : Platform) (st : BrowserSession) (s : AuthState)
    (token : String) : Prop :=
  (settings.demoMode = true ∧ token = demoTokenSentinel) ∨
    ∃ c role, FullToken env s token c role ∧ st.role = some role.code ∧
      st.tenantId = some (uuidText c.tenantId)

/-- The token came with what the pages show; what waits for the second factor came as such. -/
structure PageWorld.Sound (settings : PageSettings) (env : Platform) (w : PageWorld) : Prop where
  token : ∀ token ∈ w.browser.token, ShowsToken settings env w.browser w.server token
  partialToken : ∀ token ∈ w.browser.totpPartialToken, ∃ c, PartialToken env w.server token c

theorem PageWorld.Sound.serve (h : w.Sound settings env) {s : AuthState}
    (hsub : w.server.issued ⊆ s.issued) : PageWorld.Sound settings env ⟨w.browser, s⟩ where
  token token htoken := by
    rcases h.token token htoken with hdemo | ⟨c, role, hfull, hshown⟩
    · exact .inl hdemo
    · exact .inr ⟨c, role, hfull.mono hsub, hshown⟩
  partialToken token htoken := by
    obtain ⟨c, hwaiting⟩ := h.partialToken token htoken
    exact ⟨c, hwaiting.mono hsub⟩

theorem exchange_server (env : Platform) (s : AuthState) (request : Except Problem Request)
    (delivery : Delivery) : (exchange env s request delivery).2 = s ∨
      ∃ r, request = .ok r ∧ (exchange env s request delivery).2 = step env s r := by
  have hreceive : (receive env s request).2 = s ∨
      ∃ r, request = .ok r ∧ (receive env s request).2 = step env s r := by
    cases request with
    | error problem => exact .inl rfl
    | ok r => exact .inr ⟨r, rfl, rfl⟩
  cases delivery with
  | answered => exact hreceive
  | lost handled =>
      cases handled with
      | false => exact .inl rfl
      | true => exact hreceive
  | unavailable => exact .inl rfl

theorem exchange_issued (env : Platform) (s : AuthState) (request : Except Problem Request)
    (delivery : Delivery) : s.issued ⊆ (exchange env s request delivery).2.issued := by
  rcases exchange_server env s request delivery with hsame | ⟨r, -, hstep⟩
  · rw [hsame]
    exact List.Subset.refl _
  · rw [hstep]
    exact issued_subset_step env s r

theorem showsToken_of_full (J : CompactJwt env) {st : BrowserSession} {s : AuthState}
    {token : String} {c : Claims} {role : RoleCode} (h : FullToken env s token c role)
    {absent : String} (hrole : st.role = some (shownRole (decodeJwtClaims J.loads token)))
    (htenant : st.tenantId = some (shownTenant absent (decodeJwtClaims J.loads token))) :
    ShowsToken settings env st s token := by
  rw [h.token_eq, decodeJwtClaims_encode J c] at hrole htenant
  refine .inr ⟨c, role, h, hrole.trans ?_, htenant⟩
  simp [shownRole, h.role_eq]

theorem sound_demo {st : BrowserSession} {s : AuthState} (hdemo : settings.demoMode = true)
    (h : PageWorld.Sound settings env ⟨st, s⟩) (username : String) :
    PageWorld.Sound settings env ⟨enableDemoSession settings st username, s⟩ where
  token _ htoken := .inl ⟨hdemo, (Option.some.inj htoken).symm⟩
  partialToken := h.partialToken

theorem sound_afterLogin {st : BrowserSession} {s : AuthState} {answer : ApiAnswer}
    (h : PageWorld.Sound settings env ⟨st, s⟩)
    (hanswer : ∀ reply, answer = some (.ok reply) → IssuedReply env s reply) (username : String) :
    PageWorld.Sound settings env ⟨afterLogin settings J.loads st username answer, s⟩ := by
  unfold afterLogin
  split
  · next accessToken refreshToken =>
      refine ⟨fun token htoken => ?_, h.partialToken⟩
      obtain rfl := Option.some.inj htoken
      rcases hanswer _ rfl with ⟨_, _, hreply, -⟩ | ⟨_, _, c, role, hreply, hfull⟩
      · cases hreply
      · cases hreply
        exact showsToken_of_full J hfull rfl rfl
  · next partialToken =>
      refine ⟨h.token, fun token htoken => ?_⟩
      obtain rfl := Option.some.inj htoken
      rcases hanswer _ rfl with ⟨_, c, hreply, hwaiting⟩ | ⟨_, _, _, _, hreply, -⟩
      · cases hreply
        exact ⟨c, hwaiting⟩
      · cases hreply
  · exact h
  · split
    · next hdemo => exact sound_demo hdemo.2 h username
    · exact h
  · split
    · next hdemo => exact sound_demo hdemo h username
    · exact h

theorem sound_afterChallenge {st : BrowserSession} {s : AuthState} {answer : ApiAnswer}
    (h : PageWorld.Sound settings env ⟨st, s⟩)
    (hanswer : ∀ reply, answer = some (.ok reply) → IssuedReply env s reply) :
    PageWorld.Sound settings env ⟨afterChallenge J.loads st answer, s⟩ := by
  unfold afterChallenge
  split
  · next accessToken refreshToken =>
      refine ⟨fun token htoken => ?_, nofun⟩
      obtain rfl := Option.some.inj htoken
      rcases hanswer _ rfl with ⟨_, _, hreply, -⟩ | ⟨_, _, c, role, hreply, hfull⟩
      · cases hreply
      · cases hreply
        exact showsToken_of_full J hfull rfl rfl
  · exact h

theorem exchange_reply {s : AuthState} {request : Except Problem Request} {delivery : Delivery}
    {reply : Reply} (hanswer : (exchange env s request delivery).1 = some (.ok reply)) :
    ∃ r, request = .ok r ∧ (exchange env s request delivery).2 = step env s r ∧
      (handle env s r).1 = .ok reply := by
  cases delivery with
  | answered =>
      cases request with
      | error problem => cases hanswer
      | ok r => exact ⟨r, rfl, rfl, Option.some.inj hanswer⟩
  | lost handled => cases hanswer
  | unavailable => cases hanswer

theorem handle_login_reply {s : AuthState} {username password : String} {reply : Reply}
    (h : (handle env s (.login username password none)).1 = .ok reply) :
    IssuedReply env (step env s (.login username password none)) reply := by
  rw [step]
  rw [handle] at h ⊢
  cases hlogin : login env s username password none with
  | error problem =>
      rw [hlogin] at h
      cases h
  | ok result =>
      rw [hlogin] at h
      cases h
      exact login_reply hlogin

theorem loginRequest_eq_ok {username password : String} {r : Request}
    (h : loginRequest username password = .ok r) :
    r = .login (strip username) password none := by
  unfold loginRequest at h
  split at h
  · exact (Except.ok.inj h).symm
  · cases h

theorem sound_doLogin (h : w.Sound settings env) (username password : String)
    (delivery : Delivery) : (doLogin settings J w username password delivery).Sound settings env := by
  unfold doLogin
  split
  · refine sound_afterLogin (h.serve (exchange_issued env w.server _ delivery)) ?_ username
    intro reply hanswer
    obtain ⟨r, hrequest, hserver, hreply⟩ := exchange_reply hanswer
    obtain rfl := loginRequest_eq_ok hrequest
    rw [hserver]
    exact handle_login_reply hreply
  · exact h

theorem sound_submitChallenge (h : w.Sound settings env) (worker : ℕ) (otp : Option Otp)
    (delivery : Delivery) : (submitChallenge J w worker otp delivery).Sound settings env := by
  unfold submitChallenge
  split
  · exact ⟨h.token, h.partialToken⟩
  · exact h
  · next partialToken otp hwaiting =>
      let request : Except Problem Request := .ok (.challenge worker partialToken otp)
      have hserved := h.serve (exchange_issued env w.server request delivery)
      have hreplied : ∀ reply, (exchange env w.server request delivery).1 = some (.ok reply) →
          IssuedReply env (exchange env w.server request delivery).2 reply := by
        intro reply hanswer
        obtain ⟨r, hrequest, hserver, hreply⟩ := exchange_reply hanswer
        obtain rfl : Request.challenge worker partialToken otp = r := Except.ok.inj hrequest
        rw [hserver]
        exact challenge_reply hreply
      exact sound_afterChallenge hserved hreplied

theorem sound_step (h : w.Sound settings env) (event : PageEvent) :
    (pageStep settings J w event).Sound settings env := by
  unfold pageStep
  split
  · split
    · exact sound_doLogin h _ _ _
    · exact h
  · split
    · exact sound_submitChallenge h _ _ _
    · exact h
  · split
    · exact ⟨h.token, nofun⟩
    · exact h
  · split
    · exact h
    · exact ⟨nofun, nofun⟩
  · exact h.serve (issued_subset_step env _ _)

theorem sound_run (s₀ : AuthState) (events : List PageEvent) :
    (run (pageStep settings J) ⟨{}, s₀⟩ events).Sound settings env := by
  have hstart : PageWorld.Sound settings env ⟨{}, s₀⟩ := ⟨nofun, nofun⟩
  generalize (⟨{}, s₀⟩ : PageWorld) = w at hstart ⊢
  induction events generalizing w with
  | nil => exact hstart
  | cons event events ih => exact ih _ (sound_step hstart event)

/-- The request that an event may bring before the server. -/
def PageEvent.Sends : PageEvent → Request → Prop
  | .login _ _ _, r => ∃ username password, r = .login username password none
  | .challenge worker _ _, r => ∃ partialToken otp, r = .challenge worker partialToken otp
  | .other r', r => r = r'
  | _, _ => False

theorem server_doLogin (settings : PageSettings) (J : CompactJwt env) (w : PageWorld)
    (username password : String) (delivery : Delivery) :
    (doLogin settings J w username password delivery).server = w.server ∨
      (doLogin settings J w username password delivery).server =
        (exchange env w.server (loginRequest username password) delivery).2 := by
  unfold doLogin
  split
  · generalize exchange env w.server (loginRequest username password) delivery = result
    exact .inr rfl
  · exact .inl rfl

theorem server_submitChallenge (J : CompactJwt env) (w : PageWorld) (worker : ℕ)
    (otp : Option Otp) (delivery : Delivery) :
    (submitChallenge J w worker otp delivery).server = w.server ∨
      ∃ partialToken code, (submitChallenge J w worker otp delivery).server =
        (exchange env w.server (.ok (.challenge worker partialToken code)) delivery).2 := by
  unfold submitChallenge
  split
  · exact .inl rfl
  · exact .inl rfl
  · next partialToken code _ =>
      refine .inr ⟨partialToken, code, ?_⟩
      generalize exchange env w.server (.ok (.challenge worker partialToken code)) delivery = result
      rfl

theorem server_pageStep (settings : PageSettings) (J : CompactJwt env) (w : PageWorld)
    (event : PageEvent) : (pageStep settings J w event).server = w.server ∨
      ∃ r, event.Sends r ∧ (pageStep settings J w event).server = step env w.server r := by
  cases event with
  | login username password delivery =>
      rw [pageStep]
      split
      · rcases server_doLogin settings J w username password delivery with hsame | hexchange
        · exact .inl hsame
        · rcases exchange_server env w.server (loginRequest username password) delivery with
            hsame | ⟨r, hrequest, hstep⟩
          · exact .inl (hexchange.trans hsame)
          · exact .inr ⟨r, ⟨_, _, loginRequest_eq_ok hrequest⟩, hexchange.trans hstep⟩
      · exact .inl rfl
  | challenge worker otp delivery =>
      rw [pageStep]
      split
      · rcases server_submitChallenge J w worker otp delivery with
          hsame | ⟨partialToken, code, hexchange⟩
        · exact .inl hsame
        · rcases exchange_server env w.server (.ok (.challenge worker partialToken code)) delivery
            with hsame | ⟨r, hrequest, hstep⟩
          · exact .inl (hexchange.trans hsame)
          · refine .inr ⟨r, ⟨partialToken, code, ?_⟩, hexchange.trans hstep⟩
            exact (Except.ok.inj hrequest).symm
      · exact .inl rfl
  | backToLogin =>
      rw [pageStep]
      split
      · exact .inl rfl
      · exact .inl rfl
  | logout =>
      rw [pageStep]
      split
      · exact .inl rfl
      · exact .inl rfl
  | other r => exact .inr ⟨r, rfl, rfl⟩

theorem consistent_run {s₀ : AuthState} (h₀ : Initial s₀) (events : List PageEvent) :
    Consistent (run (pageStep settings J) ⟨{}, s₀⟩ events).server := by
  have hstart : Consistent (PageWorld.mk {} s₀).server := h₀.consistent
  generalize (⟨{}, s₀⟩ : PageWorld) = w at hstart ⊢
  induction events generalizing w with
  | nil => exact hstart
  | cons event events ih =>
      refine ih _ ?_
      rcases server_pageStep settings J w event with hsame | ⟨r, -, hstep⟩
      · rw [hsame]
        exact hstart
      · rw [hstep]
        exact hstart.step r

end Sound

/-! ## What the server makes of the token -/

section Authority

variable {env : Platform} {s : AuthState} {token : String} {c : Claims} {role : RoleCode}

theorem lower_bearer : lower "Bearer" = "bearer" := by decide

theorem authenticate_of_dispatch {path : String} {header : Option String}
    (hpassed : dispatch env s path header = .ok ()) :
    authenticate env s path header = getCurrentUser env s header := by
  unfold authenticate
  rw [hpassed]
  rfl

theorem getCurrentUser_of_decode_error {header : Option String} {e : DecodeError}
    (hbearer : httpBearer header = some token) (hdecode : decodeToken env s token = .error e) :
    getCurrentUser env s header = .error (if e = .expired then tokenExpired else invalidToken) := by
  unfold getCurrentUser
  rw [hbearer]
  dsimp only
  rw [hdecode]
  cases e with
  | expired => rfl
  | invalid => rfl

theorem getCurrentUser_of_revoked {header : Option String}
    (hbearer : httpBearer header = some token) (hdecode : decodeToken env s token = .ok c)
    (hrole : c.role = some role) (hfull : c.pre2fa = false) (hrevoked : isRevoked s c.jti = true) :
    getCurrentUser env s header = .error tokenRevoked := by
  unfold getCurrentUser
  rw [hbearer]
  dsimp only
  rw [hdecode]
  simp [hrole, hfull, hrevoked]

theorem dispatch_of_decode_error (env : Platform) (s : AuthState) (path : String) {e : DecodeError}
    (hdecode : decodeToken env s token = .error e) :
    dispatch env s path (some ("Bearer" ++ " " ++ token)) = .ok () := by
  simp only [dispatch, Option.getD_some, bearerToken_append, hdecode]
  split <;> rfl

/-- The ways in which the server refuses a token that was once good. -/
def staleTokenProblems : List Problem := [sessionRevoked, tokenExpired, tokenRevoked]

theorem authenticate_full (h : FullToken env s token c role) (hconsistent : Consistent s)
    (path : String) :
    authenticate env s path (some ("Bearer" ++ " " ++ token)) =
        .ok ⟨c.sub, role, c.tenantId, c.jti⟩ ∨
      ∃ problem ∈ staleTokenProblems,
        authenticate env s path (some ("Bearer" ++ " " ++ token)) = .error problem := by
  rw [h.token_eq]
  have hbearer := httpBearer_append lower_bearer (by decide) (env.encode_ne_empty c)
  by_cases hexp : s.now < c.exp
  · have hdecode := decodeToken_encode env s h.issued hexp
    obtain ⟨row, hmem, hjti, -⟩ := hconsistent.recorded c h.issued h.access h.full
    obtain ⟨found, hrow⟩ : ∃ found, sessionByJti s c.jti = some found := by
      refine Option.isSome_iff_exists.mp (List.find?_isSome.mpr ⟨row, hmem, ?_⟩)
      rw [hjti, beq_self_eq_true]
    have hdispatch : dispatch env s path (some ("Bearer" ++ " " ++ env.encode c)) = .ok () ∨
        dispatch env s path (some ("Bearer" ++ " " ++ env.encode c)) = .error sessionRevoked := by
      simp only [dispatch, Option.getD_some, bearerToken_append, hdecode, hrow]
      split
      · exact .inl rfl
      · split
        · exact .inr rfl
        · exact .inl rfl
    rcases hdispatch with hpassed | hrevoked
    · by_cases hblacklist : isRevoked s c.jti = true
      · refine .inr ⟨tokenRevoked, by simp [staleTokenProblems], ?_⟩
        rw [authenticate_of_dispatch hpassed]
        exact getCurrentUser_of_revoked hbearer hdecode h.role_eq h.full hblacklist
      · left
        rw [authenticate_of_dispatch hpassed]
        exact getCurrentUser_of_issued env lower_bearer h.issued hexp h.role_eq h.full
          (Bool.eq_false_iff.mpr hblacklist)
    · refine .inr ⟨sessionRevoked, by simp [staleTokenProblems], ?_⟩
      unfold authenticate
      rw [hrevoked]
      rfl
  · have hdecode : decodeToken env s (env.encode c) = .error .expired := by
      simp [decodeToken, env.encode_ne_sentinel c, env.verify_encode, h.issued,
        Nat.le_of_not_lt hexp]
    refine .inr ⟨tokenExpired, by simp [staleTokenProblems], ?_⟩
    rw [authenticate_of_dispatch (dispatch_of_decode_error env s path hdecode)]
    exact getCurrentUser_of_decode_error hbearer hdecode

theorem authenticate_sentinel (env : Platform) (s : AuthState) (path : String) :
    authenticate env s path (some ("Bearer" ++ " " ++ demoTokenSentinel)) =
      .error invalidToken := by
  have hdecode : decodeToken env s demoTokenSentinel = .error .invalid := by simp [decodeToken]
  have hbearer : httpBearer (some ("Bearer" ++ " " ++ demoTokenSentinel)) =
      some demoTokenSentinel := httpBearer_append lower_bearer (by decide) (by decide)
  rw [authenticate_of_dispatch (dispatch_of_decode_error env s path hdecode)]
  exact getCurrentUser_of_decode_error hbearer hdecode

/-- However the answers of the API are lost, and whatever else is asked of the server: where it takes
the header that the pages send, the caller has the role and the tenant that they show; it refuses a
session of the demo mode, and otherwise only a token that was revoked or has expired. -/
theorem page_shows_authority (settings : PageSettings) (J : CompactJwt env) {s₀ : AuthState}
    (h₀ : Initial s₀) (events : List PageEvent) (path : String) :
    let w := run (pageStep settings J) ⟨{}, s₀⟩ events
    (∀ token ∈ w.browser.token, w.browser.totpPartialToken ≠ some token) ∧
      ∀ header, authorizationHeader settings w.browser = some header →
        (∃ caller, authenticate env w.server path (some header) = .ok caller ∧
            w.browser.role = some caller.role.code ∧
            w.browser.tenantId = some (uuidText caller.tenantId)) ∨
          (∃ problem ∈ staleTokenProblems,
            authenticate env w.server path (some header) = .error problem) ∨
          settings.demoMode = true ∧ header = "Bearer" ++ " " ++ demoTokenSentinel ∧
            authenticate env w.server path (some header) = .error invalidToken := by
  intro w
  have hsound : w.Sound settings env := sound_run s₀ events
  have hconsistent : Consistent w.server := consistent_run h₀ events
  constructor
  · intro token htoken hwaits
    obtain ⟨c', hwaiting⟩ := hsound.partialToken token hwaits
    rcases hsound.token token htoken with ⟨-, hsentinel⟩ | ⟨c, role, hfull, -⟩
    · exact env.encode_ne_sentinel c' (hwaiting.token_eq.symm.trans hsentinel)
    · have hverify := congrArg env.verify (hfull.token_eq.symm.trans hwaiting.token_eq)
      rw [env.verify_encode, env.verify_encode] at hverify
      cases hverify
      have hcontra := hwaiting.pre2fa
      rw [hfull.full] at hcontra
      cases hcontra
  · intro header hheader
    unfold authorizationHeader at hheader
    split at hheader
    · next token htoken =>
        obtain rfl := Option.some.inj hheader
        rcases hsound.token token htoken with ⟨hdemo, rfl⟩ | ⟨c, role, hfull, hrole, htenant⟩
        · exact .inr (.inr ⟨hdemo, rfl, authenticate_sentinel env _ path⟩)
        · rcases authenticate_full hfull hconsistent path with hok | hstale
          · exact .inl ⟨_, hok, hrole, htenant⟩
          · exact .inr (.inl hstale)
    · split at hheader
      · next hdemo =>
          obtain rfl := Option.some.inj hheader
          exact .inr (.inr ⟨hdemo, rfl, authenticate_sentinel env _ path⟩)
      · cases hheader

end Authority

/-- Pages outside the demo mode, with the session of the editor who has just logged in. -/
def productionPages : PageSettings := ⟨false, "demo"⟩

def editorAtHome : PageWorld :=
  run (pageStep productionPages compactJwt) ⟨{}, editorAndAdmin⟩
    [.login "ada" "correct horse" .answered]

def editorHeader : String :=
  "Bearer" ++ " " ++ compactPlatform.encode ⟨0, some .editor, 0, 2, 4600, .access, false⟩

theorem editorAtHome_header :
    authorizationHeader productionPages editorAtHome.browser = some editorHeader := by
  decide +kernel

theorem editorAtHome_caller :
    authenticate compactPlatform editorAtHome.server "/api/v1/kpis" (some editorHeader) =
      .ok ⟨0, .editor, 0, 2⟩ := by
  decide +kernel

theorem page_shows_authority_of_editor :
    ∃ caller, authenticate compactPlatform editorAtHome.server "/api/v1/kpis" (some editorHeader) =
        .ok caller ∧ editorAtHome.browser.role = some caller.role.code ∧
      editorAtHome.browser.tenantId = some (uuidText caller.tenantId) := by
  have hshown := page_shows_authority productionPages compactJwt (by decide : Initial editorAndAdmin)
    [.login "ada" "correct horse" .answered] "/api/v1/kpis"
  rcases hshown.2 editorHeader editorAtHome_header with hok | ⟨problem, -, herror⟩ | ⟨hdemo, -⟩
  · exact hok
  · cases editorAtHome_caller.symm.trans herror
  · cases hdemo

/-! ## What the server hears of -/

section Access

variable {env : Platform} {settings : PageSettings} {J : CompactJwt env} {s s' s'' : AuthState}

/-- Nothing that was granted is taken back. -/
structure KeepsAccess (s s' : AuthState) : Prop where
  issued : s.issued ⊆ s'.issued
  sessions : ∃ rows, s'.sessions = s.sessions ++ rows
  blacklist : s'.blacklist = s.blacklist
  now : s.now ≤ s'.now

theorem KeepsAccess.refl (s : AuthState) : KeepsAccess s s :=
  ⟨List.Subset.refl _, ⟨[], (List.append_nil _).symm⟩, rfl, le_rfl⟩

theorem KeepsAccess.trans (h : KeepsAccess s s') (h' : KeepsAccess s' s'') : KeepsAccess s s'' := by
  obtain ⟨rows, hrows⟩ := h.sessions
  obtain ⟨rows', hrows'⟩ := h'.sessions
  refine ⟨List.Subset.trans h.issued h'.issued, ⟨rows ++ rows', ?_⟩,
    h'.blacklist.trans h.blacklist, h.now.trans h'.now⟩
  rw [hrows', hrows, List.append_assoc]

theorem keepsAccess_issueSession (env : Platform) (s : AuthState) (sub : Uuid) (role : RoleCode)
    (tenantId : Uuid) : KeepsAccess s (issueSession env s sub role tenantId) :=
  ⟨List.subset_append_right _ _, ⟨_, rfl⟩, rfl, le_rfl⟩

theorem keepsAccess_login {username password : String} {tenantCode : Option String} {reply : Reply}
    (h : login env s username password tenantCode = .ok (reply, s')) : KeepsAccess s s' := by
  obtain ⟨user, -, -, -, -, ⟨-, -, rfl⟩ | ⟨-, rfl⟩⟩ := login_eq_ok env s h
  · exact ⟨List.subset_append_right _ _, ⟨[], (List.append_nil _).symm⟩, rfl, le_rfl⟩
  · exact keepsAccess_issueSession env s user.id user.role user.tenantId

theorem keepsAccess_challenge (env : Platform) (s : AuthState) (worker : ℕ) (partialToken : String)
    (otp : Otp) : KeepsAccess s (challenge env s worker partialToken otp).2 := by
  have hcache : ∀ entries, KeepsAccess s { s with workerCache := entries } := fun _ =>
    ⟨List.Subset.refl _, ⟨[], (List.append_nil _).symm⟩, rfl, le_rfl⟩
  rcases challenge_cases env s worker partialToken otp with
    ⟨entries, hentries⟩ | ⟨c, role, entries, reply, -, -, -, -, htransaction⟩
  · rw [hentries]
    exact hcache entries
  · obtain ⟨-, secret, counter, -, -, hs'⟩ := challengeTransaction_eq_ok htransaction
    rw [hs']
    exact (hcache entries).trans ⟨List.subset_append_right _ _, ⟨_, rfl⟩, rfl, le_rfl⟩

/-- The event is one of the pages, or time passes. -/
def PageEvent.OfBrowser : PageEvent → Prop
  | .other r => ∃ seconds, r = .tick seconds
  | _ => True

theorem keepsAccess_pageStep (settings : PageSettings) (J : CompactJwt env) (w : PageWorld)
    {event : PageEvent} (hevent : event.OfBrowser) :
    KeepsAccess w.server (pageStep settings J w event).server := by
  rcases server_pageStep settings J w event with hsame | ⟨r, hsends, hstep⟩
  · rw [hsame]
    exact .refl _
  · rw [hstep]
    cases event with
    | login _ _ _ =>
        obtain ⟨username, password, rfl⟩ := hsends
        rw [step, handle]
        cases hlogin : login env w.server username password none with
        | error problem => exact .refl _
        | ok result => exact keepsAccess_login hlogin
    | challenge worker _ _ =>
        obtain ⟨partialToken, otp, rfl⟩ := hsends
        exact keepsAccess_challenge env w.server worker partialToken otp
    | backToLogin => exact hsends.elim
    | logout => exact hsends.elim
    | other r' =>
        obtain ⟨seconds, rfl⟩ := hevent
        obtain rfl := hsends
        exact ⟨List.Subset.refl _, ⟨[], (List.append_nil _).symm⟩, rfl, Nat.le_add_right _ _⟩

theorem keepsAccess_run (w : PageWorld) {events : List PageEvent}
    (hevents : ∀ event ∈ events, event.OfBrowser) :
    KeepsAccess w.server (run (pageStep settings J) w events).server := by
  induction events generalizing w with
  | nil => exact .refl _
  | cons event events ih =>
      have hstep := keepsAccess_pageStep settings J w (hevents event List.mem_cons_self)
      exact hstep.trans (ih _ fun event' h => hevents event' (List.mem_cons_of_mem _ h))

theorem KeepsAccess.sessionByJti {jti : Jti} {row : SessionRow} (h : KeepsAccess s s')
    (hrow : sessionByJti s jti = some row) : sessionByJti s' jti = some row := by
  obtain ⟨rows, hrows⟩ := h.sessions
  unfold GhgTool.sessionByJti at hrow ⊢
  rw [hrows, List.find?_append, hrow, Option.some_or]

/-- An entry of the blacklist lapses, but none comes. -/
theorem KeepsAccess.isRevoked {jti : Jti} (h : KeepsAccess s s') (hfree : isRevoked s jti = false) :
    isRevoked s' jti = false := by
  unfold GhgTool.isRevoked at hfree ⊢
  rw [h.blacklist]
  rw [List.any_eq_false] at hfree ⊢
  intro e he hrevoked
  rw [Bool.and_eq_true, decide_eq_true_eq] at hrevoked
  exact hfree e he (by simpa [hrevoked.1] using h.now.trans_lt hrevoked.2)

theorem KeepsAccess.authenticate {token : String} {c : Claims} {role : RoleCode} {path : String}
    {caller : CurrentUser} (h : KeepsAccess s s') (hfull : FullToken env s token c role)
    (hlive : s'.now < c.exp)
    (hcaller : authenticate env s path (some ("Bearer" ++ " " ++ token)) = .ok caller) :
    GhgTool.authenticate env s' path (some ("Bearer" ++ " " ++ token)) = .ok caller := by
  obtain rfl := hfull.token_eq
  have hdecode := decodeToken_encode env s hfull.issued (h.now.trans_lt hlive)
  have hdecode' := decodeToken_encode env s' (h.issued hfull.issued) hlive
  have hbearer := httpBearer_append lower_bearer (by decide) (env.encode_ne_empty c)
  obtain ⟨_, hdispatch, huser⟩ := bind_eq_ok.mp hcaller
  have hdispatch' : dispatch env s' path (some ("Bearer" ++ " " ++ env.encode c)) = .ok () := by
    simp only [dispatch, Option.getD_some, bearerToken_append, hdecode, hdecode'] at hdispatch ⊢
    split
    · rfl
    · next hpath =>
        rw [if_neg hpath] at hdispatch
        cases hrow : GhgTool.sessionByJti s c.jti with
        | none =>
            rw [hrow] at hdispatch
            cases hdispatch
        | some row =>
            rw [hrow] at hdispatch
            rw [h.sessionByJti hrow]
            exact hdispatch
  obtain ⟨token, c', hbearer', hdecoded, -, -, hfree, -⟩ := getCurrentUser_eq_ok env s huser
  obtain rfl := Option.some.inj (hbearer.symm.trans hbearer')
  obtain rfl := Except.ok.inj (hdecode.symm.trans hdecoded)
  rw [authenticate_of_dispatch hdispatch']
  have hbefore := getCurrentUser_of_issued env lower_bearer hfull.issued (h.now.trans_lt hlive)
    hfull.role_eq hfull.full hfree
  rw [← huser, hbefore]
  exact getCurrentUser_of_issued env lower_bearer (h.issued hfull.issued) hlive hfull.role_eq
    hfull.full (h.isRevoked hfree)

/-- The pages never tell the server of a logout: what the server took before, it takes after, and
whatever the browser does next, until the token expires. -/
theorem page_logout_revokes_nothing (settings : PageSettings) (J : CompactJwt env) (s₀ : AuthState)
    (events later : List PageEvent) (hlater : ∀ event ∈ later, event.OfBrowser) {header : String}
    {path : String} {caller : CurrentUser} :
    let w := run (pageStep settings J) ⟨{}, s₀⟩ events
    let w' := run (pageStep settings J) (pageStep settings J w .logout) later
    authorizationHeader settings w.browser = some header →
      authenticate env w.server path (some header) = .ok caller →
        ∃ c ∈ w.server.issued, header = "Bearer" ++ " " ++ env.encode c ∧
          (w'.server.now < c.exp → authenticate env w'.server path (some header) = .ok caller) := by
  intro w w' hheader hcaller
  have hsound : w.Sound settings env := sound_run s₀ events
  have hrefused : header ≠ "Bearer" ++ " " ++ demoTokenSentinel := by
    rintro rfl
    rw [authenticate_sentinel] at hcaller
    cases hcaller
  unfold authorizationHeader at hheader
  split at hheader
  · next token htoken =>
      obtain rfl := Option.some.inj hheader
      rcases hsound.token token htoken with ⟨-, rfl⟩ | ⟨c, role, hfull, -⟩
      · exact absurd rfl hrefused
      · refine ⟨c, hfull.issued, congrArg _ hfull.token_eq, fun hlive => ?_⟩
        have hlogout : KeepsAccess w.server (pageStep settings J w .logout).server :=
          keepsAccess_pageStep settings J w trivial
        exact (hlogout.trans (keepsAccess_run _ hlater)).authenticate hfull hlive hcaller
  · split at hheader
    · exact absurd (Option.some.inj hheader).symm hrefused
    · cases hheader

end Access

theorem page_logout_revokes_nothing_of_editor :
    authenticate compactPlatform (run (pageStep productionPages compactJwt)
        (pageStep productionPages compactJwt editorAtHome .logout) [.other (.tick 60)]).server
      "/api/v1/kpis" (some editorHeader) = .ok ⟨0, .editor, 0, 2⟩ := by
  have hlater : ∀ event ∈ [PageEvent.other (.tick 60)], event.OfBrowser := by
    simp [PageEvent.OfBrowser]
  have hexp : ∀ c ∈ editorAtHome.server.issued, 1060 < c.exp := by decide +kernel
  obtain ⟨c, hc, -, hkept⟩ := page_logout_revokes_nothing productionPages compactJwt editorAndAdmin
    [.login "ada" "correct horse" .answered] [.other (.tick 60)] hlater editorAtHome_header
    editorAtHome_caller
  exact hkept (hexp c hc)

end GhgTool
