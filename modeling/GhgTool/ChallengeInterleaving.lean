import GhgTool.AuthSystem
import GhgTool.ReadCommitted
import Mathlib.Data.List.Nodup
import Mathlib.Data.Set.Subsingleton
import Mathlib.Logic.Function.Basic

/-!
# The challenge endpoint, statement by statement

Any number of challenge requests on any number of workers. A request decodes its partial token, marks
the jti in the cache of its worker, and then runs one transaction: it inserts the jti into
`auth.consumed_partial_jti`, reads the user row, checks the code, writes the counter and commits. An
insert of a jti that another transaction has inserted and not committed waits for that transaction; any
error rolls the transaction back, and the jti with it. All other requests run between these
statements.
-/

namespace GhgTool

open Function (update)

structure ChallengeCall where
  worker : ℕ
  partialToken : String
  otp : Otp

/-- How far a request has come. -/
inductive ChallengePhase where
  | received
  | marked (c : Claims) (role : RoleCode)
  | inserted (c : Claims) (role : RoleCode)
  | fetched (c : Claims) (role : RoleCode) (row : Option User)
  | checked (c : Claims) (role : RoleCode) (counter : ℕ)
  | written (c : Claims) (role : RoleCode) (counter : ℕ)
  | answered (reply : Except Problem Reply)
  deriving DecidableEq

/-- `auth` holds what is committed, `pending` the jtis inserted by open transactions. -/
structure ChallengeState where
  auth : AuthState
  pending : List (ℕ × Jti) := []
  lock : Uuid → Option ℕ := fun _ => none
  phase : ℕ → ChallengePhase := fun _ => .received

inductive ChallengeEvent where
  /-- The next statement of a request. -/
  | advance (n : ℕ)
  /-- The request fails at the point it has come to. -/
  | abort (n : ℕ)
  /-- Another request, or the passing of time. -/
  | other (r : Request)

namespace ChallengeState

variable (env : Platform) (calls : ℕ → ChallengeCall) (s : ChallengeState) (n : ℕ)

/-- `auth.consumed_partial_jti`, with the rows of open transactions. -/
def consumed : List (Version ℕ Jti) :=
  s.auth.consumedPartialJti.map (fun jti => ⟨jti, none⟩) ++ s.pending.map fun e => ⟨e.2, some e.1⟩

def enter (phase : ChallengePhase) : ChallengeState :=
  { s with phase := update s.phase n phase }

def rollback (problem : Problem) : ChallengeState :=
  { s with
    pending := s.pending.filter fun e => e.1 ≠ n
    lock := fun uid => if s.lock uid = some n then none else s.lock uid
    phase := update s.phase n (.answered (.error problem)) }

/-- The writes of the transaction become visible, and the pair is returned. -/
def commit (c : Claims) (role : RoleCode) (counter : ℕ) : ChallengeState :=
  let auth :=
    updateUser { s.auth with consumedPartialJti := c.jti :: s.auth.consumedPartialJti } c.sub fun u =>
      { u with totpLastCounter := counter }
  let pair := (createTokenPair env auth c.sub role c.tenantId).1
  { auth := issueSession env auth c.sub role c.tenantId
    pending := s.pending.filter fun e => e.1 ≠ n
    lock := fun uid => if s.lock uid = some n then none else s.lock uid
    phase := update s.phase n
      (.answered (.ok (.tokenResponse (env.encode pair.access) (env.encode pair.refresh)))) }

def advance : ChallengeState :=
  match s.phase n with
  | .received =>
      match decodeToken env s.auth (calls n).partialToken with
      | .error _ => s.enter n (.answered (.error invalidPartialToken))
      | .ok c =>
          match c.pre2fa, c.role with
          | true, some role =>
              let (firstUse, auth) :=
                markPartialJtiConsumed s.auth (calls n).worker c.jti c.exp
              if !firstUse then
                { s with auth := auth }.enter n (.answered (.error partialTokenReplayed))
              else { s with auth := auth }.enter n (.marked c role)
          | _, _ => s.enter n (.answered (.error notPartialToken))
  | .marked c role =>
      match insertVersion (· = ·) n c.jti s.consumed with
      | .conflict => s.enter n (.answered (.error partialTokenReplayed))
      -- the statement waits for the other transaction
      | .blocked => s
      | .inserted _ => { s with pending := (n, c.jti) :: s.pending }.enter n (.inserted c role)
  | .inserted c role => s.enter n (.fetched c role (userById s.auth c.sub))
  | .fetched c role row =>
      match enabledSecret row with
      | none => s.rollback n totpNotConfigured
      | some secret =>
          match checkOtp s.auth.now secret (calls n).otp (lastCounter row) with
          | .error problem => s.rollback n problem
          | .ok counter => s.enter n (.checked c role counter)
  | .checked c role counter =>
      -- the statement waits while another transaction holds the row
      if (s.lock c.sub).isSome then s
      else { s with lock := update s.lock c.sub (some n) }.enter n (.written c role counter)
  | .written c role counter => s.commit env n c role counter
  | .answered _ => s

def abort : ChallengeState :=
  match s.phase n with
  | .answered _ => s
  | _ => s.rollback n internalServerError

def step : ChallengeEvent → ChallengeState
  | .advance n => s.advance env calls n
  | .abort n => s.abort n
  | .other r =>
      match r with
      | .challenge .. => s
      | r => { s with auth := GhgTool.step env s.auth r }

/-- The request has committed and returned a pair. -/
def Exchanged : Prop :=
  ∃ access refresh, s.phase n = .answered (.ok (.tokenResponse access refresh))

variable {env s n} in
theorem commit_phase_of_ne {c : Claims} {role : RoleCode} {counter m : ℕ} (h : m ≠ n) :
    (s.commit env n c role counter).phase m = s.phase m :=
  Function.update_of_ne h _ _

theorem commit_exchanged (c : Claims) (role : RoleCode) (counter : ℕ) :
    (s.commit env n c role counter).Exchanged n :=
  ⟨_, _, Function.update_self _ _ _⟩

/-- No request has begun. -/
structure Quiet : Prop where
  pending : s.pending = []
  lock : ∀ uid, s.lock uid = none
  phase : ∀ n, s.phase n = .received

end ChallengeState

/-! ## The invariant -/

namespace ChallengePhase

/-- The claims a request carries between the marker and its answer. -/
def claims : ChallengePhase → Option Claims
  | received => none
  | marked c _ => some c
  | inserted c _ => some c
  | fetched c _ _ => some c
  | checked c _ _ => some c
  | written c _ _ => some c
  | answered _ => none

/-- The claims whose jti the open transaction of the request has inserted. -/
def entered : ChallengePhase → Option Claims
  | received => none
  | marked _ _ => none
  | inserted c _ => some c
  | fetched c _ _ => some c
  | checked c _ _ => some c
  | written c _ _ => some c
  | answered _ => none

end ChallengePhase

/-- An open transaction owns its jti, and a request that has been answered with a pair has left its
jti in the table. -/
structure SingleExchange (env : Platform) (calls : ℕ → ChallengeCall) (s : ChallengeState) :
    Prop where
  verified : ∀ n c, (s.phase n).claims = some c → env.verify (calls n).partialToken = some c
  entered : ∀ n c, (s.phase n).entered = some c → (n, c.jti) ∈ s.pending
  distinct : (s.pending.map Prod.snd).Nodup
  fresh : ∀ e ∈ s.pending, e.2 ∉ s.auth.consumedPartialJti
  spent : ∀ n, s.Exchanged n → ∃ c, env.verify (calls n).partialToken = some c ∧
    c.jti ∈ s.auth.consumedPartialJti
  single : ∀ n m, s.Exchanged n → s.Exchanged m →
    env.verify (calls n).partialToken = env.verify (calls m).partialToken → n = m

namespace SingleExchange

variable {env : Platform} {calls : ℕ → ChallengeCall} {s s' : ChallengeState} {n : ℕ}

theorem of_quiet (h : s.Quiet) : SingleExchange env calls s where
  verified n c hc := by simp [h.phase n, ChallengePhase.claims] at hc
  entered n c hc := by simp [h.phase n, ChallengePhase.entered] at hc
  distinct := by simp [h.pending]
  fresh := by simp [h.pending]
  spent n hn := by simp [ChallengeState.Exchanged, h.phase n] at hn
  single n m hn := by simp [ChallengeState.Exchanged, h.phase n] at hn

theorem exchanged_update {phase : ℕ → ChallengePhase} {ph : ChallengePhase} {m : ℕ}
    (hph : ∀ access refresh, ph ≠ .answered (.ok (.tokenResponse access refresh)))
    (hm : ∃ access refresh, update phase n ph m = .answered (.ok (.tokenResponse access refresh))) :
    ∃ access refresh, phase m = .answered (.ok (.tokenResponse access refresh)) := by
  obtain ⟨access, refresh, hm⟩ := hm
  by_cases hmn : m = n
  · rw [hmn, Function.update_self] at hm
    exact absurd hm (hph access refresh)
  · rw [Function.update_of_ne hmn] at hm
    exact ⟨access, refresh, hm⟩

/-- A request moves on or is rolled back: of the table of jtis, it can only remove its own. -/
theorem move {ph : ChallengePhase} (h : SingleExchange env calls s)
    (hconsumed : s'.auth.consumedPartialJti = s.auth.consumedPartialJti)
    (hsub : s'.pending.Sublist s.pending) (hkeep : ∀ e ∈ s.pending, e.1 ≠ n → e ∈ s'.pending)
    (hphase : s'.phase = update s.phase n ph)
    (hverified : ∀ c, ph.claims = some c → env.verify (calls n).partialToken = some c)
    (hentered : ∀ c, ph.entered = some c → (n, c.jti) ∈ s'.pending)
    (hph : ∀ access refresh, ph ≠ .answered (.ok (.tokenResponse access refresh))) :
    SingleExchange env calls s' := by
  have hexchanged : ∀ m, s'.Exchanged m → s.Exchanged m := by
    intro m hm
    unfold ChallengeState.Exchanged at hm
    rw [hphase] at hm
    exact exchanged_update hph hm
  refine ⟨?_, ?_, ?_, ?_, ?_, ?_⟩
  · rw [hphase]
    apply (Function.forall_update_iff s.phase fun m ph => ∀ c, ph.claims = some c →
      env.verify (calls m).partialToken = some c).mpr
    exact ⟨hverified, fun m _ => h.verified m⟩
  · rw [hphase]
    apply (Function.forall_update_iff s.phase fun m ph => ∀ c, ph.entered = some c →
      (m, c.jti) ∈ s'.pending).mpr
    exact ⟨hentered, fun m hmn c hc => hkeep _ (h.entered m c hc) hmn⟩
  · exact h.distinct.sublist (hsub.map Prod.snd)
  · intro e he
    rw [hconsumed]
    exact h.fresh e (hsub.subset he)
  · intro m hm
    rw [hconsumed]
    exact h.spent m (hexchanged m hm)
  · intro m m' hm hm'
    exact h.single m m' (hexchanged m hm) (hexchanged m' hm')

theorem enter (h : SingleExchange env calls s) {ph : ChallengePhase}
    (hclaims : ∀ c, ph.claims = some c → (s.phase n).claims = some c)
    (hentered : ∀ c, ph.entered = some c → (s.phase n).entered = some c)
    (hph : ∀ access refresh, ph ≠ .answered (.ok (.tokenResponse access refresh))) :
    SingleExchange env calls (s.enter n ph) :=
  h.move rfl (List.Sublist.refl _) (fun _ he _ => he) rfl
    (fun c hc => h.verified n c (hclaims c hc)) (fun c hc => h.entered n c (hentered c hc)) hph

theorem answer (h : SingleExchange env calls s) (problem : Problem) :
    SingleExchange env calls (s.enter n (.answered (.error problem))) :=
  h.enter (fun c hc => by cases hc) (fun c hc => by cases hc) fun _ _ hph => by cases hph

theorem rollback (h : SingleExchange env calls s) (problem : Problem) :
    SingleExchange env calls (s.rollback n problem) := by
  refine h.move rfl List.filter_sublist ?_ rfl ?_ ?_ ?_
  · intro e he hne
    exact List.mem_filter.mpr ⟨he, by simpa using hne⟩
  · intro c hc
    cases hc
  · intro c hc
    cases hc
  · intro access refresh hph
    cases hph

theorem auth_eq (h : SingleExchange env calls s) {auth : AuthState}
    (hconsumed : auth.consumedPartialJti = s.auth.consumedPartialJti) :
    SingleExchange env calls { s with auth := auth } where
  verified := h.verified
  entered := h.entered
  distinct := h.distinct
  fresh e he := by
    rw [hconsumed]
    exact h.fresh e he
  spent m hm := by
    rw [hconsumed]
    exact h.spent m hm
  single := h.single

/-- The jti is entered when no row of the table has it, committed or not. -/
theorem insert {c : Claims} {role : RoleCode} {table : List (Version ℕ Jti)}
    (h : SingleExchange env calls s) (hphase : s.phase n = .marked c role)
    (hinsert : insertVersion (· = ·) n c.jti s.consumed = .inserted table) :
    SingleExchange env calls
      ({ s with pending := (n, c.jti) :: s.pending }.enter n (.inserted c role)) := by
  have hfree := (insertVersion_eq_inserted.mp hinsert).2
  have hcommitted : c.jti ∉ s.auth.consumedPartialJti := by
    intro hmem
    exact hfree ⟨c.jti, none⟩ (List.mem_append_left _ (List.mem_map_of_mem hmem)) rfl
  have hopen : c.jti ∉ s.pending.map Prod.snd := by
    intro hmem
    obtain ⟨e, he, hjti⟩ := List.mem_map.mp hmem
    exact hfree ⟨e.2, some e.1⟩ (List.mem_append_right _ (List.mem_map_of_mem he)) hjti
  have hpending : SingleExchange env calls { s with pending := (n, c.jti) :: s.pending } :=
    { verified := h.verified
      entered := fun m c' hc' => List.mem_cons_of_mem _ (h.entered m c' hc')
      distinct := List.nodup_cons.mpr ⟨hopen, h.distinct⟩
      fresh := by
        intro e he
        rcases List.mem_cons.mp he with rfl | he
        · exact hcommitted
        · exact h.fresh e he
      spent := h.spent
      single := h.single }
  have hverify := h.verified n c (by rw [hphase]; rfl)
  refine hpending.move rfl (List.Sublist.refl _) (fun _ he _ => he) rfl ?_ ?_ ?_
  · rintro _ ⟨⟩
    exact hverify
  · rintro _ ⟨⟩
    exact List.mem_cons_self
  · intro access refresh hph
    cases hph

/-- The committing transaction owned the jti, so no request has been answered for it before. -/
theorem commit {c : Claims} {role : RoleCode} {counter : ℕ} (h : SingleExchange env calls s)
    (hphase : s.phase n = .written c role counter) :
    SingleExchange env calls (s.commit env n c role counter) := by
  have hverify := h.verified n c (by rw [hphase]; rfl)
  have hown : (n, c.jti) ∈ s.pending := h.entered n c (by rw [hphase]; rfl)
  have hnew : ∀ m, s.Exchanged m → env.verify (calls m).partialToken ≠ some c := by
    intro m hm hsame
    obtain ⟨c', hverify', hspent⟩ := h.spent m hm
    rw [hsame] at hverify'
    rw [← Option.some.inj hverify'] at hspent
    exact h.fresh _ hown hspent
  have hother : ∀ m, m ≠ n → (s.commit env n c role counter).Exchanged m → s.Exchanged m := by
    rintro m hmn ⟨access, refresh, hm⟩
    rw [ChallengeState.commit_phase_of_ne hmn] at hm
    exact ⟨access, refresh, hm⟩
  obtain ⟨access, refresh, hanswered⟩ := s.commit_exchanged env n c role counter
  refine ⟨?_, ?_, ?_, ?_, ?_, ?_⟩
  · intro m c' hc'
    by_cases hmn : m = n
    · rw [hmn, hanswered] at hc'
      cases hc'
    · rw [ChallengeState.commit_phase_of_ne hmn] at hc'
      exact h.verified m c' hc'
  · intro m c' hc'
    by_cases hmn : m = n
    · rw [hmn, hanswered] at hc'
      cases hc'
    · rw [ChallengeState.commit_phase_of_ne hmn] at hc'
      exact List.mem_filter.mpr ⟨h.entered m c' hc', by simpa using hmn⟩
  · exact h.distinct.sublist (List.filter_sublist.map Prod.snd)
  · intro e he hspent
    obtain ⟨he, hne⟩ := List.mem_filter.mp he
    rcases List.mem_cons.mp hspent with hjti | hspent
    · -- one open transaction for each jti
      have heq : e = (n, c.jti) := List.inj_on_of_nodup_map h.distinct he hown hjti
      rw [heq] at hne
      simp at hne
    · exact h.fresh e he hspent
  · intro m hm
    by_cases hmn : m = n
    · rw [hmn]
      exact ⟨c, hverify, List.mem_cons_self⟩
    · obtain ⟨c', hverify', hspent⟩ := h.spent m (hother m hmn hm)
      exact ⟨c', hverify', List.mem_cons_of_mem _ hspent⟩
  · intro m m' hm hm' hsame
    by_cases hmn : m = n
    · by_cases hmn' : m' = n
      · rw [hmn, hmn']
      · rw [hmn, hverify] at hsame
        exact absurd hsame.symm (hnew m' (hother m' hmn' hm'))
    · by_cases hmn' : m' = n
      · rw [hmn', hverify] at hsame
        exact absurd hsame (hnew m (hother m hmn hm))
      · exact h.single m m' (hother m hmn hm) (hother m' hmn' hm') hsame

end SingleExchange

/-! ## Every run -/

variable {env : Platform} {calls : ℕ → ChallengeCall} {s : ChallengeState} {n : ℕ}

theorem markPartialJtiConsumed_consumed (auth : AuthState) (worker : ℕ) (jti : Jti) (exp : ℕ) :
    (markPartialJtiConsumed auth worker jti exp).2.consumedPartialJti =
      auth.consumedPartialJti := by
  obtain ⟨entries, hmark⟩ := markPartialJtiConsumed_eq (s := auth) worker jti exp
  rw [hmark]

/-- No other endpoint writes the table of jtis. -/
theorem step_consumed (env : Platform) (auth : AuthState) {r : Request}
    (hr : ∀ worker partialToken otp, r ≠ .challenge worker partialToken otp) :
    (step env auth r).consumedPartialJti = auth.consumedPartialJti := by
  rw [step]
  cases r with
  | login username password tenantCode =>
      rw [handle]
      cases hlogin : login env auth username password tenantCode with
      | error problem => rfl
      | ok result =>
          obtain ⟨user, -, -, -, -, ⟨-, -, hs'⟩ | ⟨-, hs'⟩⟩ := login_eq_ok env auth hlogin
          · rw [GhgTool.commit, hs']
            rfl
          · rw [GhgTool.commit, hs']
            rfl
  | refresh refreshToken =>
      rw [handle]
      cases hrefresh : refresh env auth refreshToken with
      | error problem => rfl
      | ok result =>
          obtain ⟨c, user, -, -, -, -, hs'⟩ := refresh_eq_ok env auth hrefresh
          rw [GhgTool.commit, hs']
          unfold retireRefreshToken
          dsimp only
          split <;> rfl
  | logout header refreshToken =>
      obtain ⟨sessions, blacklist, hframe⟩ := logout_frame env auth header refreshToken
      rw [handle, GhgTool.commit, hframe]
  | challenge worker partialToken otp => exact absurd rfl (hr worker partialToken otp)
  | authenticated header action =>
      rw [handle]
      cases hperform : performAuthenticated env auth header action with
      | error problem => rfl
      | ok result =>
          obtain ⟨caller, -, hok⟩ := bind_eq_ok.mp hperform
          obtain ⟨users, sessions, nextUuid, hframe⟩ := perform_frame hok
          rw [GhgTool.commit, hframe]
  | tick seconds => rfl

theorem SingleExchange.advance (h : SingleExchange env calls s) (n : ℕ) :
    SingleExchange env calls (s.advance env calls n) := by
  unfold ChallengeState.advance
  split
  · split
    · exact h.answer invalidPartialToken
    · next c hdecode =>
        split
        · next role _ _ =>
            have hmark := h.auth_eq
              (markPartialJtiConsumed_consumed s.auth (calls n).worker c.jti c.exp)
            dsimp only
            split
            · exact hmark.answer partialTokenReplayed
            · refine hmark.move rfl (List.Sublist.refl _) (fun _ he _ => he) rfl ?_ ?_ ?_
              · rintro _ ⟨⟩
                exact (decodeToken_eq_ok env s.auth hdecode).1
              · rintro _ ⟨⟩
              · intro access refresh hph
                cases hph
        · exact h.answer notPartialToken
  · next c role hphase =>
      split
      · exact h.answer partialTokenReplayed
      · exact h
      · next table hinsert => exact h.insert hphase hinsert
  · next c role hphase =>
      refine h.enter ?_ ?_ fun _ _ hph => by cases hph
      · rw [hphase]
        exact fun _ hc => hc
      · rw [hphase]
        exact fun _ hc => hc
  · next c role row hphase =>
      split
      · exact h.rollback totpNotConfigured
      · split
        · next problem _ => exact h.rollback problem
        · refine h.enter ?_ ?_ fun _ _ hph => by cases hph
          · rw [hphase]
            exact fun _ hc => hc
          · rw [hphase]
            exact fun _ hc => hc
  · next c role counter hphase =>
      split
      · exact h
      · refine h.move rfl (List.Sublist.refl _) (fun _ he _ => he) rfl ?_ ?_ ?_
        · intro c' hc'
          exact h.verified n c' (by rw [hphase]; exact hc')
        · intro c' hc'
          exact h.entered n c' (by rw [hphase]; exact hc')
        · intro access refresh hph
          cases hph
  · next c role counter hphase => exact h.commit hphase
  · exact h

theorem SingleExchange.step (h : SingleExchange env calls s) (e : ChallengeEvent) :
    SingleExchange env calls (s.step env calls e) := by
  cases e with
  | advance n => exact h.advance n
  | abort n =>
      rw [ChallengeState.step, ChallengeState.abort]
      split
      · exact h
      · exact h.rollback internalServerError
  | other r =>
      cases r with
      | challenge worker partialToken otp => exact h
      | _ => exact h.auth_eq (step_consumed env s.auth (by simp))

theorem SingleExchange.run (h : SingleExchange env calls s) (es : List ChallengeEvent) :
    SingleExchange env calls (run (ChallengeState.step env calls) s es) := by
  induction es generalizing s with
  | nil => exact h
  | cons e es ih => exact ih (h.step e)

/-- At most one of the requests that carry a given partial token is answered with a pair, in every
interleaving. -/
theorem partial_token_exchanged_once (env : Platform) (calls : ℕ → ChallengeCall)
    {s₀ : ChallengeState} (h₀ : s₀.Quiet) (es : List ChallengeEvent) (token : String) :
    {n | (calls n).partialToken = token ∧
      (run (ChallengeState.step env calls) s₀ es).Exchanged n}.Subsingleton := by
  have hrun : SingleExchange env calls (run (ChallengeState.step env calls) s₀ es) :=
    (SingleExchange.of_quiet h₀).run es
  rintro n ⟨hn, hexchanged⟩ m ⟨hm, hexchanged'⟩
  exact hrun.single n m hexchanged hexchanged' (by rw [hn, hm])

/-- One user, with the second factor on. -/
def enrolledEditor : AuthState where
  users :=
    [⟨0, 0, "ada", "ada@example.org", "correct horse", .editor, true, some 7, true, 0⟩]
  nextUuid := 1
  now := 1000

/-- Every request carries the user's first partial token and a valid code, each on a worker of
its own. -/
def sameToken (n : ℕ) : ChallengeCall :=
  ⟨n, plainPlatform.encode ⟨0, some .editor, 0, 3, 1300, .access, true⟩, ⟨7, 33⟩⟩

/-- Two requests overlap; the second one's insert waits and then fails. -/
def overlapping : List ChallengeEvent :=
  [.other (.login "ada" "correct horse" none), .advance 0, .advance 1, .advance 0, .advance 1,
    .advance 0, .advance 0, .advance 0, .advance 0, .advance 1]

theorem partial_token_exchanged_once_overlapping :
    (run (ChallengeState.step plainPlatform sameToken) ⟨enrolledEditor, [], fun _ => none,
      fun _ => .received⟩ overlapping).Exchanged 0 ∧
    {n | (sameToken n).partialToken = (sameToken 0).partialToken ∧
      (run (ChallengeState.step plainPlatform sameToken) ⟨enrolledEditor, [], fun _ => none,
        fun _ => .received⟩ overlapping).Exchanged n}.Subsingleton := by
  constructor
  · refine ⟨plainPlatform.encode ⟨0, some .editor, 0, 4, 4600, .access, false⟩,
      plainPlatform.encode ⟨0, none, 0, 5, 605800, .refresh, false⟩, ?_⟩
    decide +kernel
  · exact partial_token_exchanged_once plainPlatform sameToken ⟨rfl, fun _ => rfl, fun _ => rfl⟩
      overlapping _

/-! ## A request alone

Run without interruption, the statements do what `challenge` does in one piece. -/

theorem insertVersion_consumed (jti : Jti) (hpending : s.pending = []) :
    insertVersion (· = ·) n jti s.consumed =
      if jti ∈ s.auth.consumedPartialJti then .conflict
      else .inserted (s.consumed ++ [⟨jti, some n⟩]) := by
  unfold insertVersion ChallengeState.consumed
  rw [hpending]
  by_cases hjti : jti ∈ s.auth.consumedPartialJti
  · simp [Version.Visible, hjti]
  · simp [Version.Visible, hjti]

theorem run_advances_answered {reply : Except Problem Reply} (h : s.phase n = .answered reply)
    (k : ℕ) : run (ChallengeState.step env calls) s (List.replicate k (.advance n)) = s := by
  induction k with
  | zero => rfl
  | succ k ih =>
      have hstay : s.step env calls (.advance n) = s := by
        rw [ChallengeState.step, ChallengeState.advance, h]
      rw [List.replicate_succ, run_cons, hstay, ih]

theorem run_transaction (env : Platform) (calls : ℕ → ChallengeCall) {c : Claims}
    {role : RoleCode} (hphase : s.phase n = .marked c role)
    (hpending : s.pending = []) (hlock : s.lock c.sub = none) :
    let s' := run (ChallengeState.step env calls) s (List.replicate 5 (.advance n))
    match challengeTransaction env s.auth c role (calls n).otp with
    | .error problem => s'.auth = s.auth ∧ s'.phase n = .answered (.error problem)
    | .ok (reply, auth) => s'.auth = auth ∧ s'.phase n = .answered (.ok reply) := by
  have hinsert := insertVersion_consumed (s := s) (n := n) c.jti hpending
  have hrow : userById { s.auth with consumedPartialJti := c.jti :: s.auth.consumedPartialJti }
      c.sub = userById s.auth c.sub := rfl
  unfold challengeTransaction
  by_cases hjti : c.jti ∈ s.auth.consumedPartialJti
  · rw [if_pos hjti] at hinsert
    simp [run, ChallengeState.step, ChallengeState.advance, hphase, hinsert, hjti,
      ChallengeState.enter]
  · rw [if_neg hjti] at hinsert
    dsimp only
    rw [if_neg hjti, hrow]
    cases hsecret : enabledSecret (userById s.auth c.sub) with
    | none =>
        simp [run, ChallengeState.step, ChallengeState.advance, hphase, hinsert, hsecret,
          ChallengeState.enter, ChallengeState.rollback]
    | some secret =>
        dsimp only
        rw [verifyOtpNoReplay]
        cases hcheck :
            checkOtp s.auth.now secret (calls n).otp (lastCounter (userById s.auth c.sub)) with
        | error problem =>
            simp [run, ChallengeState.step, ChallengeState.advance, hphase, hinsert, hsecret,
              hcheck, ChallengeState.enter, ChallengeState.rollback, bind, Except.bind]
        | ok counter =>
            simp [run, ChallengeState.step, ChallengeState.advance, hphase, hinsert, hsecret,
              hcheck, hlock, ChallengeState.enter, ChallengeState.commit, bind, Except.bind,
              issueSession]

/-- A request that nothing interrupts ends in the state and with the answer of `challenge`. -/
theorem run_challenge_alone (hphase : s.phase n = .received) (hpending : s.pending = [])
    (hlock : ∀ uid, s.lock uid = none) :
    let s' := run (ChallengeState.step env calls) s (List.replicate 6 (.advance n))
    s'.auth = (challenge env s.auth (calls n).worker (calls n).partialToken (calls n).otp).2 ∧
      s'.phase n = .answered
        (challenge env s.auth (calls n).worker (calls n).partialToken (calls n).otp).1 := by
  rw [List.replicate_succ, run_cons]
  have hadvance : s.step env calls (.advance n) = s.advance env calls n := rfl
  rw [hadvance]
  unfold challenge ChallengeState.advance
  rw [hphase]
  dsimp only
  cases hdecode : decodeToken env s.auth (calls n).partialToken with
  | error problem =>
      dsimp only
      rw [run_advances_answered (Function.update_self _ _ _)]
      exact ⟨rfl, Function.update_self _ _ _⟩
  | ok c =>
      dsimp only
      cases hpre : c.pre2fa with
      | false =>
          rw [run_advances_answered (Function.update_self _ _ _)]
          exact ⟨rfl, Function.update_self _ _ _⟩
      | true =>
          cases hrole : c.role with
          | none =>
              rw [run_advances_answered (Function.update_self _ _ _)]
              exact ⟨rfl, Function.update_self _ _ _⟩
          | some role =>
              dsimp only
              cases hmark : (markPartialJtiConsumed s.auth (calls n).worker c.jti c.exp).1 with
              | false =>
                  rw [run_advances_answered (Function.update_self _ _ _)]
                  exact ⟨rfl, Function.update_self _ _ _⟩
              | true =>
                  let marked : ChallengeState :=
                    { s with
                      auth := (markPartialJtiConsumed s.auth (calls n).worker c.jti c.exp).2 }
                  have htransaction := run_transaction (s := marked.enter n (.marked c role)) env
                    calls (Function.update_self _ _ _) hpending (hlock c.sub)
                  have hauth : (marked.enter n (.marked c role)).auth = marked.auth := rfl
                  dsimp only at htransaction
                  rw [hauth] at htransaction
                  rw [Bool.not_true, if_neg Bool.false_ne_true]
                  cases hresult : challengeTransaction env marked.auth c role (calls n).otp with
                  | error problem =>
                      rw [hresult] at htransaction
                      exact htransaction
                  | ok result =>
                      rw [hresult] at htransaction
                      exact htransaction

end GhgTool
