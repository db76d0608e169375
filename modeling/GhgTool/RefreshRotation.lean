import GhgTool.AuthInvariant

/-!
# Rotation of refresh tokens

A refresh token is retired when it is exchanged, when it is posted at logout, and when the session
of its pair is logged out. `refresh` looks a token up in `auth.sessions` by its own jti, and the table
holds the jti of the access token; the blacklist, where retired refresh tokens are entered, is not
consulted. What is left to decide is the user's `is_active`.
-/

namespace GhgTool

variable (env : Platform) (s : AuthState)

def refreshAccepts (refreshToken : String) : Bool :=
  (refresh env s refreshToken).toBool

/-- The tokens of one pair take consecutive draws. -/
def SameSession (access refresh : Claims) : Prop :=
  refresh.jti = access.jti + 1

/-- The request, handled in the state, retires the refresh token with the claims `c`. -/
def Retires (r : Request) (c : Claims) : Prop :=
  c.tokenType = .refresh ∧
    match r with
    | .refresh token => decodeToken env s token = .ok c ∧ refreshAccepts env s token = true
    | .logout header refreshToken =>
        (∃ token ∈ refreshToken, decodeToken env s token = .ok c) ∨
          ∃ token ∈ httpBearer header, ∃ access,
            decodeToken env s token = .ok access ∧ SameSession access c
    | _ => False

def ActiveUser (uid : Uuid) : Prop :=
  ∃ user, userById s uid = some user ∧ user.isActive = true

instance (uid : Uuid) : Decidable (ActiveUser s uid) :=
  decidable_of_iff ((userById s uid).any User.isActive) (by simp [ActiveUser, Option.any_eq_true])

variable {env s}

theorem Consistent.sessionByJti_refresh (h : Consistent s) {c : Claims} (hc : c ∈ s.issued)
    (htype : c.tokenType = .refresh) : sessionByJti s c.jti = none := by
  apply List.find?_eq_none.mpr
  intro row hrow hjti
  exact h.unrecorded c hc htype row hrow (by simpa using hjti)

/-- A refresh token that decodes is accepted exactly while its user is active. -/
theorem Consistent.refreshAccepts_iff (h : Consistent s) {token : String} {c : Claims}
    (hdecode : decodeToken env s token = .ok c) (htype : c.tokenType = .refresh) :
    refreshAccepts env s token = true ↔ ActiveUser s c.sub := by
  constructor
  · intro haccepts
    obtain ⟨⟨reply, s'⟩, hok⟩ := exists_ok_of_toBool haccepts
    obtain ⟨c', user, hdecode', -, huser, hactive, -⟩ := refresh_eq_ok env s hok
    obtain rfl : c' = c := Except.ok.inj (hdecode'.symm.trans hdecode)
    exact ⟨user, huser, hactive⟩
  · rintro ⟨user, huser, hactive⟩
    have hrow := h.sessionByJti_refresh (decodeToken_eq_ok env s hdecode).2.1 htype
    simp [refreshAccepts, refresh, hdecode, htype, hrow, huser, hactive, Except.toBool]

/-- A retired refresh token that has not expired is rejected exactly when its user is inactive. -/
theorem retired_rejected_iff (env : Platform) {s₀ : AuthState} (h₀ : Initial s₀)
    (before after : List Request) (r : Request) {c : Claims} {token : String}
    (hretired : Retires env (run (step env) s₀ before) r c)
    (hlive : decodeToken env (run (step env) s₀ (before ++ r :: after)) token = .ok c) :
    refreshAccepts env (run (step env) s₀ (before ++ r :: after)) token = false ↔
      ¬ ActiveUser (run (step env) s₀ (before ++ r :: after)) c.sub := by
  have hconsistent : Consistent (run (step env) s₀ (before ++ r :: after)) :=
    h₀.consistent.run _
  rw [← hconsistent.refreshAccepts_iff hlive hretired.1, Bool.not_eq_true]

/-- The tokens of the first login, by the editor. -/
def firstAccess : Claims := ⟨0, some .editor, 0, 2, 4600, .access, false⟩

def firstRefresh : Claims := ⟨0, none, 0, 3, 605800, .refresh, false⟩

/-- The access token of the second login, by the administrator. -/
def secondAccess : Claims := ⟨1, some .admin, 0, 5, 4600, .access, false⟩

def bothLogins : List Request :=
  [.login "ada" "correct horse" none, .login "bob" "battery staple" none]

def bearer (c : Claims) : Option String :=
  some ("Bearer" ++ " " ++ plainPlatform.encode c)

/-- The editor logs out and is then deactivated. -/
theorem retired_rejected_deactivated :
    refreshAccepts plainPlatform
      (run (step plainPlatform) editorAndAdmin
        (bothLogins ++ .logout (bearer firstAccess) none ::
          [.authenticated (bearer secondAccess) (.patchUserActive 0 false)]))
      (plainPlatform.encode firstRefresh) = false := by
  have hretired : Retires plainPlatform (run (step plainPlatform) editorAndAdmin bothLogins)
      (.logout (bearer firstAccess) none) firstRefresh :=
    ⟨rfl, .inr ⟨plainPlatform.encode firstAccess, by decide +kernel, firstAccess,
      by decide +kernel, rfl⟩⟩
  apply (retired_rejected_iff plainPlatform (by decide) bothLogins _ _ hretired ?_).mpr
  · decide +kernel
  · decide +kernel

/-- A refresh token is exchanged a second time. -/
theorem rotated_accepted_again :
    Initial editorAndAdmin ∧
      Retires plainPlatform (run (step plainPlatform) editorAndAdmin bothLogins)
        (.refresh (plainPlatform.encode firstRefresh)) firstRefresh ∧
      refreshAccepts plainPlatform
        (run (step plainPlatform) editorAndAdmin
          (bothLogins ++ [.refresh (plainPlatform.encode firstRefresh)]))
        (plainPlatform.encode firstRefresh) = true := by
  refine ⟨by decide, ⟨rfl, ?_, ?_⟩, ?_⟩
  all_goals decide +kernel

end GhgTool
