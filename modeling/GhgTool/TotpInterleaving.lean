import GhgTool.AuthSystem
import Mathlib.Logic.Function.Basic

/-!
# The TOTP endpoints, statement by statement

A request reads the user row, checks the password against what it has read, writes the row, which
takes the row lock, and commits; requests interleave freely between these steps, and a reader never
waits for a writer. `accepted` lists the passwords that `_verify_otp_no_replay` has let through, with
the user, the secret and the 30-second step of each.
-/

namespace GhgTool

inductive TotpEndpoint where
  | enroll (currentOtp : Option Otp) (secret : Secret)
  | verify (otp : Otp)
  | disable (otp : Otp)
  | challenge (otp : Otp)
  deriving DecidableEq, Repr

namespace TotpEndpoint

def otp : TotpEndpoint → Option Otp
  | enroll currentOtp _ => currentOtp
  | verify otp => some otp
  | disable otp => some otp
  | challenge otp => some otp

/-- What the endpoint checks on the row it has read: the counter to persist, or none when no password
is asked for. -/
def gate (now : ℕ) (row : Option User) : TotpEndpoint → Except Problem (Option ℕ)
  | enroll currentOtp _ =>
      match row with
      | none => .ok none
      | some user =>
          if !user.totpEnabled then .ok none
          else
            match currentOtp, user.totpSecret with
            | none, _ => .error reenrollNeedsOtp
            | some _, none => .error secretMissing
            | some otp, some secret => (checkOtp now secret otp user.totpLastCounter).map some
  | verify otp =>
      match row.bind User.totpSecret with
      | none => .error enrollmentNotStarted
      | some secret => (checkOtp now secret otp (lastCounter row)).map some
  | disable otp =>
      match enabledSecret row with
      | none => .error totpNotEnabled
      | some secret => (checkOtp now secret otp (lastCounter row)).map some
  | challenge otp =>
      match enabledSecret row with
      | none => .error totpNotConfigured
      | some secret => (checkOtp now secret otp (lastCounter row)).map some

def setCounter (counter : Option ℕ) (u : User) : User :=
  match counter with
  | none => u
  | some counter => { u with totpLastCounter := counter }

/-- What the endpoint writes to the row once the password is accepted. -/
def write (counter : Option ℕ) (endpoint : TotpEndpoint) (u : User) : User :=
  match endpoint with
  | enroll _ secret => { setCounter counter u with totpSecret := some secret, totpEnabled := false }
  | verify _ => { setCounter counter u with totpEnabled := true }
  | disable _ => { setCounter counter u with totpEnabled := false }
  | challenge _ => setCounter counter u

end TotpEndpoint

/-! ## The interleaving -/

inductive Phase where
  | fetched
  | checked (counter : Option ℕ)
  | written (counter : Option ℕ)
  deriving DecidableEq, Repr

/-- A request in flight, with the row that `_fetch_totp_row` returned. -/
structure Flight where
  uid : Uuid
  endpoint : TotpEndpoint
  row : Option User
  phase : Phase
  deriving DecidableEq, Repr

structure OtpState where
  users : Uuid → Option User
  lock : Uuid → Option ℕ := fun _ => none
  flights : ℕ → Option Flight := fun _ => none
  accepted : List (Uuid × Secret × ℕ) := []
  now : ℕ

inductive OtpEvent where
  | fetch (rid : ℕ) (uid : Uuid) (endpoint : TotpEndpoint)
  | check (rid : ℕ)
  | update (rid : ℕ)
  | commit (rid : ℕ)
  | abort (rid : ℕ)
  | tick (seconds : ℕ)
  deriving DecidableEq, Repr

/-- The passwords an update lets through. -/
def Flight.acceptances (flight : Flight) (counter : Option ℕ) : List (Uuid × Secret × ℕ) :=
  match counter, flight.endpoint.otp with
  | some _, some otp => [(flight.uid, otp.secret, otp.step)]
  | _, _ => []

open Function (update)

def otpStep (s : OtpState) : OtpEvent → OtpState
  | .fetch rid uid endpoint =>
      match s.flights rid with
      | some _ => s
      | none =>
          { s with flights := update s.flights rid (some ⟨uid, endpoint, s.users uid, .fetched⟩) }
  | .check rid =>
      match s.flights rid with
      | some ⟨uid, endpoint, row, .fetched⟩ =>
          match endpoint.gate s.now row with
          | .error _ => { s with flights := update s.flights rid none }
          | .ok counter =>
              { s with flights := update s.flights rid (some ⟨uid, endpoint, row, .checked counter⟩) }
      | _ => s
  | .update rid =>
      match s.flights rid with
      | some ⟨uid, endpoint, row, .checked counter⟩ =>
          -- the statement waits while another transaction holds the row
          if (s.lock uid).isSome then s
          else
            { s with
              lock := update s.lock uid (some rid)
              flights := update s.flights rid (some ⟨uid, endpoint, row, .written counter⟩)
              accepted :=
                Flight.acceptances ⟨uid, endpoint, row, .checked counter⟩ counter ++ s.accepted }
      | _ => s
  | .commit rid =>
      match s.flights rid with
      | some ⟨uid, endpoint, _, .written counter⟩ =>
          { s with
            users := update s.users uid ((s.users uid).map (endpoint.write counter))
            lock := update s.lock uid none
            flights := update s.flights rid none }
      | _ => s
  | .abort rid =>
      match s.flights rid with
      | some ⟨uid, _, _, .written _⟩ =>
          { s with
            lock := update s.lock uid none
            flights := update s.flights rid none }
      | _ => { s with flights := update s.flights rid none }
  | .tick seconds => { s with now := s.now + seconds }

/-! ## A request alone

Run without interruption, the statements do what the endpoint does in one piece. -/

def alone (rid : ℕ) (uid : Uuid) (endpoint : TotpEndpoint) : List OtpEvent :=
  [.fetch rid uid endpoint, .check rid, .update rid, .commit rid]

theorem run_alone_users {t : OtpState} {rid : ℕ} {uid : Uuid} {endpoint : TotpEndpoint}
    (hfree : t.flights rid = none) (hlock : t.lock uid = none) :
    (run otpStep t (alone rid uid endpoint)).users =
      match endpoint.gate t.now (t.users uid) with
      | .error _ => t.users
      | .ok counter => update t.users uid ((t.users uid).map (endpoint.write counter)) := by
  cases hgate : endpoint.gate t.now (t.users uid) with
  | error problem => simp [alone, run, otpStep, hfree, hgate]
  | ok counter => simp [alone, run, otpStep, hfree, hgate, hlock]

theorem userById_updateUser (s : AuthState) (uid : Uuid) {f : User → User}
    (hid : ∀ u, (f u).id = u.id) :
    userById (updateUser s uid f) = update (userById s) uid ((userById s uid).map f) := by
  funext uid'
  rw [updateUser, userById_updateUsers hid]
  simp only [beq_iff_eq]
  by_cases heq : uid' = uid
  · rw [heq, Function.update_self]
    apply Option.map_congr
    intro u hu
    simp [(userById_some hu).2]
  · rw [Function.update_of_ne heq]
    cases huser : userById s uid' with
    | none => rfl
    | some u =>
        have hne : u.id ≠ uid := fun hu => heq ((userById_some huser).2.symm.trans hu)
        simp [hne]

theorem TotpEndpoint.write_id (counter : Option ℕ) (endpoint : TotpEndpoint) (u : User) :
    (endpoint.write counter u).id = u.id := by
  cases endpoint <;> cases counter <;> rfl

theorem updateUser_updateUser (s : AuthState) (uid : Uuid) {f g : User → User}
    (hid : ∀ u, (f u).id = u.id) :
    updateUser (updateUser s uid f) uid g = updateUser s uid (g ∘ f) := by
  simp only [updateUser, updateUsers, List.map_map]
  congr 1
  apply List.map_congr_left
  intro u _
  by_cases hu : u.id = uid
  · simp [hu, hid]
  · simp [hu]

/-- The action of an authenticated endpoint; `challenge` takes a partial token instead. -/
def TotpEndpoint.action : TotpEndpoint → Option Action
  | enroll currentOtp secret => some (.enroll currentOtp secret)
  | verify otp => some (.verify otp)
  | disable otp => some (.disable otp)
  | challenge _ => none

theorem verifyOtpNoReplay_update (s : AuthState) (uid : Uuid) (secret : Secret) (otp : Otp)
    (last : ℕ) (g : User → User) :
    (verifyOtpNoReplay s uid secret otp last >>= fun s₁ =>
        Except.ok (Reply.done, updateUser s₁ uid g)) =
      (checkOtp s.now secret otp last).map fun counter =>
        (Reply.done, updateUser s uid (g ∘ TotpEndpoint.setCounter (some counter))) := by
  unfold verifyOtpNoReplay
  cases checkOtp s.now secret otp last with
  | error problem => rfl
  | ok counter =>
      have hupdate := updateUser_updateUser s uid (g := g)
        (f := TotpEndpoint.setCounter (some counter)) fun _ => rfl
      exact congrArg (fun s' => Except.ok (Reply.done, s')) hupdate

theorem perform_eq_gate (env : Platform) (s : AuthState) (caller : CurrentUser)
    {endpoint : TotpEndpoint} {action : Action} (haction : endpoint.action = some action) :
    action.perform env s caller =
      (endpoint.gate s.now (userById s caller.sub)).map fun counter =>
        (.done, updateUser s caller.sub (endpoint.write counter)) := by
  cases endpoint with
  | enroll currentOtp secret =>
      cases haction
      simp only [Action.perform, enroll, proveCurrentOtp, TotpEndpoint.gate]
      cases userById s caller.sub with
      | none => rfl
      | some user =>
          dsimp only
          cases user.totpEnabled with
          | false => rfl
          | true =>
              cases currentOtp with
              | none => rfl
              | some otp =>
                  cases user.totpSecret with
                  | none => rfl
                  | some current =>
                      refine (verifyOtpNoReplay_update s caller.sub current otp _ _).trans ?_
                      dsimp only [Bool.not_true, Bool.false_eq_true, if_false]
                      cases checkOtp s.now current otp user.totpLastCounter <;> rfl
  | verify otp =>
      cases haction
      simp only [Action.perform, verify, TotpEndpoint.gate]
      cases (userById s caller.sub).bind User.totpSecret with
      | none => rfl
      | some secret =>
          refine (verifyOtpNoReplay_update s caller.sub secret otp _ _).trans ?_
          dsimp only
          cases checkOtp s.now secret otp (lastCounter (userById s caller.sub)) <;> rfl
  | disable otp =>
      cases haction
      simp only [Action.perform, disable, TotpEndpoint.gate]
      cases enabledSecret (userById s caller.sub) with
      | none => rfl
      | some secret =>
          refine (verifyOtpNoReplay_update s caller.sub secret otp _ _).trans ?_
          dsimp only
          cases checkOtp s.now secret otp (lastCounter (userById s caller.sub)) <;> rfl
  | challenge otp => cases haction

theorem alone_eq_perform (env : Platform) {t : OtpState} {s : AuthState} {caller : CurrentUser}
    {rid : ℕ} {endpoint : TotpEndpoint} {action : Action} (hfree : t.flights rid = none)
    (hlock : t.lock caller.sub = none) (husers : t.users = userById s) (hnow : t.now = s.now)
    (haction : endpoint.action = some action) :
    (run otpStep t (alone rid caller.sub endpoint)).users =
      userById (commit s (action.perform env s caller)).2 := by
  rw [run_alone_users hfree hlock, perform_eq_gate env s caller haction, husers, hnow]
  cases endpoint.gate s.now (userById s caller.sub) with
  | error problem => rfl
  | ok counter => exact (userById_updateUser s caller.sub (endpoint.write_id counter)).symm

theorem alone_eq_challenge (env : Platform) {t : OtpState} {s : AuthState} {c : Claims} {rid : ℕ}
    (role : RoleCode) (otp : Otp) (hfree : t.flights rid = none) (hlock : t.lock c.sub = none)
    (husers : t.users = userById s) (hnow : t.now = s.now) (hfresh : c.jti ∉ s.consumedPartialJti) :
    (run otpStep t (alone rid c.sub (.challenge otp))).users =
      userById (commit s (challengeTransaction env s c role otp)).2 := by
  rw [run_alone_users hfree hlock, husers, hnow, challengeTransaction, if_neg hfresh]
  -- the insert into `auth.consumed_partial_jti` does not touch the users
  have hrow : userById { s with consumedPartialJti := c.jti :: s.consumedPartialJti } c.sub =
      userById s c.sub := rfl
  simp only [TotpEndpoint.gate, hrow]
  cases enabledSecret (userById s c.sub) with
  | none => rfl
  | some secret =>
      dsimp only [verifyOtpNoReplay]
      cases checkOtp s.now secret otp (lastCounter (userById s c.sub)) with
      | error problem => rfl
      | ok counter =>
          exact (userById_updateUser s c.sub
            ((TotpEndpoint.challenge otp).write_id (some counter))).symm

end GhgTool
