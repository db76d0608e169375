import GhgTool.AuthInvariant

/-!
# Session liveness behind the middleware

The middleware and `HTTPBearer` read the same `Authorization` header: the first looks for the prefix
`"Bearer "`, the second splits at the first space and compares the scheme in lower case. They read the
same token from a header whose scheme is exactly `Bearer`. Any other spelling of the scheme is a token
to `HTTPBearer` and no token to the middleware, which then lets the request pass unchecked.
-/

namespace GhgTool

variable (env : Platform) (s : AuthState)

/-- The text of the header before its first space. -/
def schemeOf (header : Option String) : String :=
  (partitionSpace (header.getD "")).1

def LiveSession (jti : Jti) : Prop :=
  ∃ row ∈ s.sessions, row.jti = jti ∧ row.revokedAt = none

instance (jti : Jti) : Decidable (LiveSession s jti) :=
  inferInstanceAs (Decidable (∃ row ∈ s.sessions, row.jti = jti ∧ row.revokedAt = none))

/-- What an authenticated request says about the token it carried. -/
def LivenessEnforced (path : String) (header : Option String) : Prop :=
  ∀ user, authenticate env s path header = .ok user →
    LiveSession s user.jti ∧ isRevoked s user.jti = false ∧
      ∀ token c, httpBearer header = some token → decodeToken env s token = .ok c →
        c.jti = user.jti ∧ c.tokenType = .access ∧ c.pre2fa = false

variable {env s}

/-! ## The two readings of a header -/

theorem partitionSpace_append {scheme : String} (h : ' ' ∉ scheme.toList) (credentials : String) :
    partitionSpace (scheme ++ " " ++ credentials) = (scheme, credentials) := by
  have hscheme : ∀ ch ∈ scheme.toList, (!decide (ch = ' ')) = true := by
    intro ch hch
    have hne : ch ≠ ' ' := fun heq => h (heq ▸ hch)
    simpa using hne
  simp [partitionSpace, List.takeWhile_append_of_pos hscheme, List.dropWhile_append_of_pos hscheme]

theorem eq_append_of_partitionSpace {header : String} (h : (partitionSpace header).2 ≠ "") :
    header = (partitionSpace header).1 ++ " " ++ (partitionSpace header).2 := by
  cases hrest : header.toList.dropWhile (· ≠ ' ') with
  | nil =>
      exfalso
      apply h
      rw [partitionSpace, hrest]
      rfl
  | cons ch rest =>
      have hspace : ch = ' ' := by
        have hne : header.toList.dropWhile (· ≠ ' ') ≠ [] := by
          rw [hrest]
          exact List.cons_ne_nil _ _
        have hhead := List.head_dropWhile_not (· ≠ ' ') (l := header.toList) hne
        simp only [hrest, List.head_cons] at hhead
        simpa using hhead
      have hsplit := List.takeWhile_append_dropWhile (p := (· ≠ ' ')) (l := header.toList)
      apply String.toList_injective
      rw [hrest, hspace] at hsplit
      simp only [partitionSpace, hrest, String.toList_append, String.toList_ofList]
      simpa using hsplit.symm

theorem bearerToken_some {header token : String} (h : bearerToken header = some token) :
    header = "Bearer" ++ " " ++ token := by
  unfold bearerToken at h
  split at h
  · next hprefix =>
      obtain ⟨rest, hrest⟩ := hprefix
      have htoken := Option.some.inj h
      rw [← hrest] at htoken
      apply String.toList_injective
      rw [← hrest, ← htoken]
      simp
  · cases h

theorem bearerToken_append (token : String) :
    bearerToken ("Bearer" ++ " " ++ token) = some token := by
  simp [bearerToken]

theorem httpBearer_some {header : Option String} {token : String}
    (h : httpBearer header = some token) :
    lower (schemeOf header) = "bearer" ∧ header = some (schemeOf header ++ " " ++ token) := by
  cases header with
  | none => cases h
  | some header =>
      simp only [httpBearer] at h
      split at h
      · cases h
      · next hparts =>
          split at h
          · cases h
          · next hscheme =>
              obtain rfl := Option.some.inj h
              refine ⟨not_not.mp hscheme, ?_⟩
              rw [schemeOf, Option.getD_some]
              exact congrArg some (eq_append_of_partitionSpace fun hempty => hparts (.inr hempty))

theorem httpBearer_append {scheme token : String} (hscheme : lower scheme = "bearer")
    (hspace : ' ' ∉ scheme.toList) (htoken : token ≠ "") :
    httpBearer (some (scheme ++ " " ++ token)) = some token := by
  have hne : scheme ≠ "" := by
    intro hempty
    rw [hempty] at hscheme
    exact absurd hscheme (by decide)
  simp [httpBearer, partitionSpace_append hspace, hscheme, hne, htoken]

/-- Lower-casing keeps a space, and `"bearer"` has none. -/
theorem space_not_mem_of_lower {scheme : String} (h : lower scheme = "bearer") :
    ' ' ∉ scheme.toList := by
  intro hmem
  have hlower : ' ' ∈ lowerChars scheme.toList :=
    List.mem_flatMap.mpr ⟨' ', hmem, by decide⟩
  have hlist : lowerChars scheme.toList = "bearer".toList := by
    rw [← h, lower, String.toList_ofList]
  rw [hlist] at hlower
  exact absurd hlower (by decide)

/-! ## What the middleware establishes -/

section Dispatch

variable {header : Option String} {c : Claims}

theorem sessionByJti_some {jti : Jti} {row : SessionRow} (h : sessionByJti s jti = some row) :
    row ∈ s.sessions ∧ row.jti = jti :=
  ⟨List.mem_of_find?_eq_some h, by simpa using List.find?_some h⟩

/-- On a path it does not exempt, the middleware passes a token it reads only with a live session. -/
theorem dispatch_live {path token : String} (hexcluded : path ∉ excludedPaths)
    (hsession : path ∉ noSessionPaths) (htoken : bearerToken (header.getD "") = some token)
    (hdecode : decodeToken env s token = .ok c) (h : dispatch env s path header = .ok ()) :
    LiveSession s c.jti := by
  simp only [dispatch, hexcluded, hsession, or_self, if_false, htoken, hdecode] at h
  split at h
  · cases h
  · next row hrow =>
      obtain ⟨hmem, hjti⟩ := sessionByJti_some hrow
      split at h
      · cases h
      · next hlive => exact ⟨row, hmem, hjti, by simpa using hlive⟩

theorem dispatch_of_live (env : Platform) (path : String) {row : SessionRow} (hc : c ∈ s.issued)
    (hexp : s.now < c.exp) (hrow : sessionByJti s c.jti = some row) (hlive : row.revokedAt = none) :
    dispatch env s path (some ("Bearer" ++ " " ++ env.encode c)) = .ok () := by
  simp only [dispatch, Option.getD_some, bearerToken_append, decodeToken_encode env s hc hexp, hrow,
    hlive]
  split <;> rfl

theorem dispatch_of_other_scheme (env : Platform) (s : AuthState) (path token : String)
    {scheme : String} (hscheme : scheme ≠ "Bearer") (hspace : ' ' ∉ scheme.toList) :
    dispatch env s path (some (scheme ++ " " ++ token)) = .ok () := by
  have hnone : bearerToken (scheme ++ " " ++ token) = none := by
    cases htoken : bearerToken (scheme ++ " " ++ token) with
    | none => rfl
    | some token' =>
        have hparts := congrArg partitionSpace (bearerToken_some htoken)
        rw [partitionSpace_append hspace, partitionSpace_append (by decide)] at hparts
        exact absurd (congrArg Prod.fst hparts) hscheme
  simp only [dispatch, Option.getD_some, hnone]
  split <;> rfl

theorem getCurrentUser_of_issued (env : Platform) {scheme : String} {role : RoleCode}
    (hscheme : lower scheme = "bearer") (hc : c ∈ s.issued) (hexp : s.now < c.exp)
    (hrole : c.role = some role) (hfull : c.pre2fa = false) (hblacklist : isRevoked s c.jti = false) :
    getCurrentUser env s (some (scheme ++ " " ++ env.encode c)) =
      .ok ⟨c.sub, role, c.tenantId, c.jti⟩ := by
  have htoken := httpBearer_append hscheme (space_not_mem_of_lower hscheme) (env.encode_ne_empty c)
  simp [getCurrentUser, htoken, decodeToken_encode env s hc hexp, hrole, hfull, hblacklist]

end Dispatch

/-- A header with the scheme `Bearer` is read alike by both. -/
theorem Consistent.livenessEnforced (h : Consistent s) {path : String} {header : Option String}
    (hexcluded : path ∉ excludedPaths) (hsession : path ∉ noSessionPaths)
    (hscheme : schemeOf header = "Bearer" ∨ lower (schemeOf header) ≠ "bearer") :
    LivenessEnforced env s path header := by
  intro user hauth
  obtain ⟨⟨⟩, hdispatch, huser⟩ := bind_eq_ok.mp hauth
  obtain ⟨token, c, htoken, hdecode, hrole, hfull, hblacklist, -, -, hjti⟩ :=
    getCurrentUser_eq_ok env s huser
  obtain ⟨hbearer, hheader⟩ := httpBearer_some htoken
  have hexact : schemeOf header = "Bearer" := hscheme.resolve_right (not_not_intro hbearer)
  rw [hexact] at hheader
  have hread : bearerToken (header.getD "") = some token := by
    rw [hheader, Option.getD_some, bearerToken_append]
  rw [hjti]
  refine ⟨dispatch_live hexcluded hsession hread hdecode hdispatch, hblacklist, ?_⟩
  intro token' c' htoken' hdecode'
  obtain rfl : token' = token := Option.some.inj (htoken'.symm.trans htoken)
  obtain rfl : c' = c := Except.ok.inj (hdecode'.symm.trans hdecode)
  refine ⟨rfl, ?_, hfull⟩
  -- refresh tokens carry no role
  cases htype : c'.tokenType with
  | access => rfl
  | refresh =>
      have hnone := h.roleless c' (decodeToken_eq_ok env s hdecode).2.1 htype
      rw [hrole] at hnone
      cases hnone

/-! ## The other spellings of the scheme -/

def oneAdmin (env : Platform) : AuthState where
  users :=
    [⟨0, 0, "bob", "bob@example.org", env.hashPassword "battery staple", .admin, true, none, false,
      0⟩]
  nextUuid := 1
  now := 1000

def adminAccess (env : Platform) : Claims :=
  ⟨0, some .admin, 0, 1, 1000 + env.accessTokenTtl, .access, false⟩

/-- The administrator logs in and resets the password of the own account. -/
def selfReset (env : Platform) : List Request :=
  [.login "bob" "battery staple" none,
    .authenticated (some ("Bearer" ++ " " ++ env.encode (adminAccess env)))
      (.resetUserPassword 0 "correct horse")]

theorem oneAdmin_login :
    step env (oneAdmin env) (.login "bob" "battery staple" none) =
      issueSession env (oneAdmin env) 0 .admin 0 := by
  have hpassword : env.verifyPassword "battery staple" (env.hashPassword "battery staple") = true :=
    env.verify_hash _ (by decide)
  simp [step, handle, commit, login, lookupUser, authenticateUser, oneAdmin, hpassword, bind,
    Except.bind, issueSession]

/-- The state after the reset: the only session is revoked, nothing is blacklisted. -/
def afterReset (env : Platform) : AuthState :=
  revokeUserSessions
    (updateUserInTenant (issueSession env (oneAdmin env) 0 .admin 0) 0 0 fun u =>
      { u with passwordHash := env.hashPassword "correct horse" }) 0

theorem adminAccess_exp : (issueSession env (oneAdmin env) 0 .admin 0).now < (adminAccess env).exp :=
  Nat.lt_add_of_pos_right env.accessTokenTtl_pos

theorem run_selfReset : run (step env) (oneAdmin env) (selfReset env) = afterReset env := by
  let s₁ := issueSession env (oneAdmin env) 0 .admin 0
  have hissued : adminAccess env ∈ s₁.issued := List.mem_cons_self
  have hrow : sessionByJti s₁ (adminAccess env).jti = some ⟨3, 0, 0, 1, none⟩ := rfl
  have hbearer : lower "Bearer" = "bearer" := by decide
  have hdispatch := dispatch_of_live env (Action.resetUserPassword 0 "correct horse").path hissued
    adminAccess_exp hrow rfl
  have huser := getCurrentUser_of_issued env (s := s₁) hbearer hissued adminAccess_exp rfl rfl rfl
  have hauth : authenticate env s₁ (Action.resetUserPassword 0 "correct horse").path
      (some ("Bearer" ++ " " ++ env.encode (adminAccess env))) = .ok ⟨0, .admin, 0, 1⟩ :=
    bind_eq_ok.mpr ⟨(), hdispatch, huser⟩
  have hreset : performAuthenticated env s₁
      (some ("Bearer" ++ " " ++ env.encode (adminAccess env)))
      (.resetUserPassword 0 "correct horse") = .ok (.done, afterReset env) :=
    bind_eq_ok.mpr ⟨_, hauth, rfl⟩
  rw [selfReset, run_cons, oneAdmin_login, run_cons, run_nil]
  simp only [step, handle]
  rw [hreset]
  rfl

/-- The scheme of a header decides whether the session table is consulted for it. -/
theorem liveness_enforced_iff (env : Platform) (scheme : String) :
    (∀ s₀, Initial s₀ → ∀ (rs : List Request) (path : String) (header : Option String),
        path ∉ excludedPaths → path ∉ noSessionPaths → schemeOf header = scheme →
        LivenessEnforced env (run (step env) s₀ rs) path header) ↔
      scheme = "Bearer" ∨ lower scheme ≠ "bearer" := by
  constructor
  · intro henforced
    by_contra hother
    have hne : scheme ≠ "Bearer" := fun heq => hother (.inl heq)
    have hlower : lower scheme = "bearer" := not_not.mp fun hne => hother (.inr hne)
    have hspace := space_not_mem_of_lower hlower
    -- after the reset the token is still accepted under this scheme, without a live session
    have hinitial : Initial (oneAdmin env) :=
      ⟨List.nodup_singleton 0, by simp [oneAdmin], rfl, rfl⟩
    have hlive := henforced (oneAdmin env) hinitial (selfReset env) "/api/v1/users"
      (some (scheme ++ " " ++ env.encode (adminAccess env))) (by decide) (by decide)
      (by rw [schemeOf, Option.getD_some, partitionSpace_append hspace])
    rw [run_selfReset] at hlive
    have hdispatch := dispatch_of_other_scheme env (afterReset env) "/api/v1/users"
      (env.encode (adminAccess env)) hne hspace
    have huser := getCurrentUser_of_issued env (s := afterReset env) (c := adminAccess env) hlower
      List.mem_cons_self adminAccess_exp rfl rfl rfl
    obtain ⟨⟨row, hrow, -, hnone⟩, -, -⟩ := hlive _ (bind_eq_ok.mpr ⟨(), hdispatch, huser⟩)
    obtain rfl : row = ⟨3, 0, 0, 1, some 1000⟩ := List.mem_singleton.mp hrow
    cases hnone
  · intro hscheme s₀ h₀ rs path header hexcluded hsession heq
    exact (h₀.consistent.run rs).livenessEnforced hexcluded hsession (heq ▸ hscheme)

/-- A password reset, and the revoked token presented as `bearer`. -/
theorem lower_case_bearer_accepted :
    Initial (oneAdmin plainPlatform) ∧ "/api/v1/users" ∉ excludedPaths ∧
      "/api/v1/users" ∉ noSessionPaths ∧
      ¬ LivenessEnforced plainPlatform
        (run (step plainPlatform) (oneAdmin plainPlatform) (selfReset plainPlatform))
        "/api/v1/users" (some ("bearer " ++ plainPlatform.encode (adminAccess plainPlatform))) := by
  refine ⟨by decide, by decide, by decide, ?_⟩
  intro henforced
  have hauth : authenticate plainPlatform
      (run (step plainPlatform) (oneAdmin plainPlatform) (selfReset plainPlatform)) "/api/v1/users"
      (some ("bearer " ++ plainPlatform.encode (adminAccess plainPlatform))) =
        .ok ⟨0, .admin, 0, 1⟩ := by decide +kernel
  exact absurd (henforced _ hauth).1 (by decide +kernel)

end GhgTool
