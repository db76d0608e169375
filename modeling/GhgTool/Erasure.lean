import GhgTool.IssuedAuthority

/-!
# Erased accounts

An erasure replaces the username, the e-mail address and the password hash and clears `is_active`; the
row stays. Nothing marks it as erased for the other endpoints: an administrator can activate it and
set a password, and a partial token handed out before the erasure still answers its challenge.
-/

namespace GhgTool

/-- The request leaves the erased account alone: it does not activate it, and it is no challenge that
passes with a partial token of the account. -/
def LeavesErased (env : Platform) (uid : Uuid) (s : AuthState) (r : Request) : Prop :=
  (∀ caller, ¬ Commits env s r (.patchUserActive uid true) caller) ∧
    ∀ worker partialToken otp c role, r = .challenge worker partialToken otp →
      ChallengePasses env s worker partialToken otp c role → c.sub ≠ uid

/-- The request hands out no token for the user. -/
def IssuesNoneFor (env : Platform) (uid : Uuid) (s : AuthState) (r : Request) : Prop :=
  ∀ c ∈ (step env s r).issued, c ∉ s.issued → c.sub ≠ uid

instance (env : Platform) (uid : Uuid) (s : AuthState) (r : Request) :
    Decidable (IssuesNoneFor env uid s r) :=
  inferInstanceAs (Decidable (∀ c ∈ (step env s r).issued, _))

def InactiveRow (s : AuthState) (uid : Uuid) : Prop :=
  ∃ user, userById s uid = some user ∧ user.isActive = false

variable {env : Platform} {s : AuthState} {r : Request} {uid : Uuid} {caller : CurrentUser}

theorem Commits.inactiveRow (hconsistent : Consistent s)
    (hcommit : Commits env s r (.eraseUser uid) caller) : InactiveRow (step env s r) uid := by
  obtain ⟨reply, hperform⟩ := hcommit.step_eq
  obtain ⟨_, -, herase⟩ := bind_eq_ok.mp hperform
  obtain ⟨⟨user, hfetch⟩, hs'⟩ := eraseUser_eq_ok herase
  obtain ⟨hmem, hid, htenant⟩ := fetchUserInTenant_eq_ok hfetch
  have huser : userById s uid = some user := hid ▸ hconsistent.userById_of_mem hmem
  rw [hs']
  refine ⟨_, userById_updateUserInTenant (fun _ => rfl) huser, ?_⟩
  rw [if_pos ⟨hid, htenant⟩]

theorem InactiveRow.step (h : InactiveRow s uid)
    (hkeep : ∀ caller, ¬ Commits env s r (.patchUserActive uid true) caller) :
    InactiveRow (step env s r) uid := by
  obtain ⟨user, huser, hinactive⟩ := h
  have hid : user.id = uid := (userById_some huser).2
  obtain ⟨user', huser', hchange⟩ := userById_step env r huser
  refine ⟨user', huser', ?_⟩
  cases hchange with
  | kept => exact hinactive
  | counter n => exact hinactive
  | role caller role _ => exact hinactive
  | password caller newPassword _ => exact hinactive
  | erased caller _ => rfl
  | enrolled caller currentOtp secret n _ _ => exact hinactive
  | verified caller otp n _ _ => exact hinactive
  | disabled caller otp n _ _ => exact hinactive
  | active caller isActive hcommit =>
      cases isActive with
      | false => rfl
      | true =>
          rw [hid] at hcommit
          exact absurd hcommit (hkeep caller)

/-- `login` and `refresh` read `is_active`. -/
theorem InactiveRow.issuesNoneFor (hconsistent : Consistent s) (h : InactiveRow s uid)
    (hkeep : LeavesErased env uid s r) : IssuesNoneFor env uid s r := by
  obtain ⟨erased, herased, hinactive⟩ := h
  -- an active row is not the erased one
  have hother : ∀ user, userById s user.id = some user → user.isActive = true → user.id ≠ uid := by
    intro user huser hactive hid
    rw [hid, herased] at huser
    rw [Option.some.inj huser, hactive] at hinactive
    cases hinactive
  have hpair : ∀ {sub role tenantId c}, c ∈ pairClaims env s sub role tenantId → c.sub = sub := by
    intro sub role tenantId c hc
    rcases List.mem_cons.mp hc with rfl | hc
    · rfl
    · rw [List.mem_singleton.mp hc]
      rfl
  intro c hc hnew
  obtain ⟨cs, hcs, hissues⟩ := issues_step env s r
  rw [hcs] at hc
  replace hc : c ∈ cs := (List.mem_append.mp hc).resolve_right hnew
  cases hissues with
  | nothing => cases hc
  | loginPartial username password tenantCode user hmem hactive jti exp =>
      rw [List.mem_singleton.mp hc]
      exact hother user (hconsistent.userById_of_mem hmem) hactive
  | login username password tenantCode user hmem hactive =>
      rw [hpair hc]
      exact hother user (hconsistent.userById_of_mem hmem) hactive
  | refresh refreshToken token user huser hactive =>
      rw [hpair hc]
      have hid : user.id = token.sub := (userById_some huser).2
      rw [← hid] at huser ⊢
      exact hother user huser hactive
  | challenge worker partialToken otp token role hpasses =>
      rw [hpair hc]
      exact hkeep.2 _ _ _ _ _ rfl hpasses

/-- Once an erasure has committed, and while nobody activates the account and no challenge passes with
one of its partial tokens, no request hands out a token for it. -/
theorem erasure_permanent (env : Platform) {s₀ : AuthState} (h₀ : Initial s₀)
    (before after : List Request) {r : Request} {uid : Uuid} {caller : CurrentUser}
    (herase : Commits env (run (step env) s₀ before) r (.eraseUser uid) caller)
    (hkeep : Along (step env) (LeavesErased env uid) (step env (run (step env) s₀ before) r) after) :
    Along (step env) (IssuesNoneFor env uid) (step env (run (step env) s₀ before) r) after := by
  have hbefore : Consistent (run (step env) s₀ before) := h₀.consistent.run before
  refine hkeep.imp (I := fun s => Consistent s ∧ InactiveRow s uid)
    ⟨hbefore.step r, herase.inactiveRow hbefore⟩ ?_ ?_
  · rintro s r ⟨hconsistent, hinactive⟩ hr
    exact ⟨hconsistent.step r, hinactive.step hr.1⟩
  · rintro s r ⟨hconsistent, hinactive⟩ hr
    exact hinactive.issuesNoneFor hconsistent hr

def eraseEditor : Request := .authenticated (bearer secondAccess) (.eraseUser 0)

theorem eraseEditor_commits :
    Commits plainPlatform (run (step plainPlatform) editorAndAdmin bothLogins) eraseEditor
      (.eraseUser 0) ⟨1, .admin, 0, 5⟩ :=
  ⟨bearer secondAccess, rfl, by decide +kernel, by decide +kernel⟩

/-- A new password alone does not bring the account back. -/
theorem erasure_permanent_reset :
    Along (step plainPlatform) (IssuesNoneFor plainPlatform 0)
      (step plainPlatform (run (step plainPlatform) editorAndAdmin bothLogins) eraseEditor)
      [.authenticated (bearer secondAccess) (.resetUserPassword 0 "open sesame"),
        .login "erased_0" "open sesame" none] := by
  apply erasure_permanent plainPlatform (by decide) bothLogins _ eraseEditor_commits
  refine ⟨⟨?_, ?_⟩, ⟨?_, ?_⟩, trivial⟩
  · rintro caller ⟨header, hr, -⟩
    cases hr
  · rintro worker partialToken otp c role hr
    cases hr
  · rintro caller ⟨header, hr, -⟩
    cases hr
  · rintro worker partialToken otp c role hr
    cases hr

/-- The administrator activates the erased account and sets a password; the login hands out a pair. -/
theorem erased_user_logs_in :
    Initial editorAndAdmin ∧
      Commits plainPlatform (run (step plainPlatform) editorAndAdmin bothLogins) eraseEditor
        (.eraseUser 0) ⟨1, .admin, 0, 5⟩ ∧
      ¬ Along (step plainPlatform) (IssuesNoneFor plainPlatform 0)
        (step plainPlatform (run (step plainPlatform) editorAndAdmin bothLogins) eraseEditor)
        [.authenticated (bearer secondAccess) (.patchUserActive 0 true),
          .authenticated (bearer secondAccess) (.resetUserPassword 0 "open sesame"),
          .login "erased_0" "open sesame" none] := by
  refine ⟨by decide, eraseEditor_commits, ?_⟩
  decide +kernel

end GhgTool
