import GhgTool.UserRow

/-!
# The second factor

`verify` turns `totp_enabled` on. From then on `login` hands the user a partial token only, until the user
disables the factor or starts a new enrolment: `enroll` asks an enrolled user for a current code,
stores the new secret and clears the flag until the next `verify`.
-/

namespace GhgTool

def TotpEnabled (s : AuthState) (uid : Uuid) : Prop :=
  ∃ user, userById s uid = some user ∧ user.totpEnabled = true

instance (s : AuthState) (uid : Uuid) : Decidable (TotpEnabled s uid) :=
  decidable_of_iff ((userById s uid).any User.totpEnabled)
    (by simp [TotpEnabled, Option.any_eq_true])

def Action.ClearsTotp : Action → Prop
  | enroll _ _ => True
  | disable _ => True
  | _ => False

/-- The request is a `/disable` or an `/enroll` of the user, and it succeeds. -/
def TurnsTotpOff (env : Platform) (s : AuthState) (r : Request) (uid : Uuid) : Prop :=
  ∃ action caller, Commits env s r action caller ∧ caller.sub = uid ∧ action.ClearsTotp

variable {env : Platform} {s s' : AuthState} {r : Request} {uid : Uuid} {caller : CurrentUser}

theorem TotpEnabled.step (h : TotpEnabled s uid) (hkeep : ¬ TurnsTotpOff env s r uid) :
    TotpEnabled (step env s r) uid := by
  obtain ⟨user, huser, htotp⟩ := h
  have hid : user.id = uid := (userById_some huser).2
  obtain ⟨user', huser', hchange⟩ := userById_step env r huser
  refine ⟨user', huser', ?_⟩
  cases hchange with
  | kept => exact htotp
  | counter n => exact htotp
  | active caller isActive _ => exact htotp
  | role caller role _ => exact htotp
  | password caller newPassword _ => exact htotp
  | erased caller _ => exact htotp
  | verified caller otp n _ _ => rfl
  | enrolled caller currentOtp secret n hcommit hsub =>
      exact absurd ⟨_, caller, hcommit, hsub.trans hid, trivial⟩ hkeep
  | disabled caller otp n hcommit hsub =>
      exact absurd ⟨_, caller, hcommit, hsub.trans hid, trivial⟩ hkeep

theorem TotpEnabled.run {rs : List Request} (h : TotpEnabled s uid)
    (hkeep : Along (GhgTool.step env) (fun s r => ¬ TurnsTotpOff env s r uid) s rs) :
    TotpEnabled (run (GhgTool.step env) s rs) uid :=
  hkeep.run_invariant (I := fun s => TotpEnabled s uid) h fun _ _ h hr => h.step hr

/-- A successful `/verify` turns the factor on. -/
theorem Commits.totpEnabled {otp : Otp} (hcommit : Commits env s r (.verify otp) caller) :
    TotpEnabled (GhgTool.step env s r) caller.sub := by
  obtain ⟨reply, hperform⟩ := hcommit.step_eq
  generalize GhgTool.step env s r = s' at hperform ⊢
  obtain ⟨secret, s₁, hsecret, hotp, rfl⟩ := verify_eq_ok hperform
  obtain ⟨user, huser, -⟩ := Option.bind_eq_some_iff.mp hsecret
  obtain ⟨n, hn⟩ := userById_setTotp true hotp huser
  refine ⟨_, hn, ?_⟩
  rw [if_pos (userById_some huser).2]

/-! ## What login answers -/

/-- A login that finds a user with the factor enabled hands out one partial token and nothing else. -/
theorem login_totpEnabled {username password : String} {tenantCode : Option String} {user : User}
    {reply : Reply} (hlookup : lookupUser s username tenantCode = .ok (some user))
    (htotp : user.totpEnabled = true)
    (h : login env s username password tenantCode = .ok (reply, s')) :
    (∃ token, reply = .requiresTotp token) ∧
      ∃ c, s'.issued = c :: s.issued ∧ c.pre2fa = true := by
  obtain ⟨row, hrow, h⟩ := bind_eq_ok.mp h
  obtain rfl : some user = row := Except.ok.inj (hlookup.symm.trans hrow)
  split at h
  · cases h
  · next found pair s₁ hsome =>
      obtain ⟨hfound, -, -, hpair⟩ := authenticateUser_some env s hsome
      obtain rfl : user = found := Option.some.inj hfound
      rw [if_pos htotp] at h
      cases h
      cases hpair
      exact ⟨⟨_, rfl⟩, _, rfl, rfl⟩

theorem Consistent.userById_of_mem (h : Consistent s) {user : User} (hmem : user ∈ s.users) :
    userById s user.id = some user := by
  cases hfind : userById s user.id with
  | none =>
      have hnone := List.find?_eq_none.mp hfind user hmem
      exact absurd (beq_self_eq_true _) hnone
  | some found =>
      obtain ⟨hfound, hid⟩ := userById_some hfind
      rw [List.inj_on_of_nodup_map h.userIds hfound hmem hid]

/-- The editor logs in, enrols and verifies. -/
def enrolment : List Request :=
  [.login "ada" "correct horse" none, .authenticated (bearer firstAccess) (.enroll none 7)]

def firstVerify : Request := .authenticated (bearer firstAccess) (.verify ⟨7, 33⟩)

/-- The editor starts a new enrolment with the code of the next step. -/
def reenrolment : List Request :=
  [.tick 30, .authenticated (bearer firstAccess) (.enroll (some ⟨7, 34⟩) 8)]

theorem firstVerify_commits :
    Commits plainPlatform (run (step plainPlatform) editorAndAdmin enrolment) firstVerify
      (.verify ⟨7, 33⟩) ⟨0, .editor, 0, 2⟩ :=
  ⟨bearer firstAccess, rfl, by decide +kernel, by decide +kernel⟩

/-- The editor logs in once more, an hour after the verification. -/
def laterLogin : List Request :=
  [.tick 3600, .login "ada" "correct horse" none]

end GhgTool
