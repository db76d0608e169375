import GhgTool.TotpInterleaving
import Mathlib.Data.List.Nodup

/-!
# Single use of one-time passwords

The counter that `_verify_otp_no_replay` stores is the step of the server's clock, not the step of the
password, while pyotp accepts passwords of the neighbouring steps too; the counter is compared as read
before, and it is stored by a transaction that may still fail. Where none of this matters, the steps
accepted for a user increase.
-/

namespace GhgTool

open Function (update)

def Flight.isAccepted (flight : Flight) : Bool :=
  match flight.phase with
  | .written (some _) => true
  | _ => false

/-- A step that keeps clear of the three gaps: a password of a neighbouring step is not presented, the
counter a request has read is still the stored one when it writes, and a request whose password was
accepted is not rolled back. -/
def Orderly (s : OtpState) : OtpEvent → Prop
  | .check rid =>
      ∀ flight ∈ s.flights rid, ∀ otp ∈ flight.endpoint.otp,
        otp.step + 1 ≠ currentTotpCounter s.now ∧ otp.step ≠ currentTotpCounter s.now + 1
  | .update rid =>
      ∀ flight ∈ s.flights rid, lastCounter flight.row = lastCounter (s.users flight.uid)
  | .abort rid => ∀ flight ∈ s.flights rid, flight.isAccepted = false
  | _ => True

instance (s : OtpState) : (e : OtpEvent) → Decidable (Orderly s e)
  | .fetch .. => inferInstanceAs (Decidable True)
  | .check rid =>
      inferInstanceAs (Decidable (∀ flight ∈ s.flights rid, ∀ otp ∈ flight.endpoint.otp,
        otp.step + 1 ≠ currentTotpCounter s.now ∧ otp.step ≠ currentTotpCounter s.now + 1))
  | .update rid =>
      inferInstanceAs (Decidable (∀ flight ∈ s.flights rid,
        lastCounter flight.row = lastCounter (s.users flight.uid)))
  | .commit _ => inferInstanceAs (Decidable True)
  | .abort rid => inferInstanceAs (Decidable (∀ flight ∈ s.flights rid, flight.isAccepted = false))
  | .tick _ => inferInstanceAs (Decidable True)

/-- The counter an accepted but uncommitted request is about to store. -/
def OtpState.pending (s : OtpState) (uid : Uuid) : Option ℕ :=
  ((s.lock uid).bind s.flights).bind fun flight =>
    match flight.phase with
    | .written counter => counter
    | _ => none

def OtpState.counterOf (s : OtpState) (uid : Uuid) : ℕ :=
  (s.pending uid).getD (lastCounter (s.users uid))

theorem OtpState.counterOf_congr {s t : OtpState} {uid : Uuid} (hlock : t.lock uid = s.lock uid)
    (hflights : ∀ rid, s.lock uid = some rid → t.flights rid = s.flights rid)
    (husers : t.users uid = s.users uid) : t.counterOf uid = s.counterOf uid := by
  unfold counterOf pending
  rw [hlock, husers]
  cases hheld : s.lock uid with
  | none => rfl
  | some rid =>
      simp only [Option.bind_some]
      rw [hflights rid hheld]

/-- What the flights of an orderly run have established. -/
def Flight.Sound (s : OtpState) (flight : Flight) : Prop :=
  (flight.row.isSome → (s.users flight.uid).isSome) ∧
    match flight.phase with
    | .fetched => True
    | .checked counter => ∀ c ∈ counter, flight.row.isSome ∧ lastCounter flight.row < c ∧
        ∃ otp, flight.endpoint.otp = some otp ∧ otp.step = c
    | .written counter => ∀ c ∈ counter, flight.row.isSome

/-- A request that has passed its check writes the row. -/
def OtpState.acquired (s : OtpState) (rid : ℕ) (flight : Flight) (counter : Option ℕ) : OtpState :=
  { s with
    lock := update s.lock flight.uid (some rid)
    flights := update s.flights rid (some { flight with phase := .written counter })
    accepted := flight.acceptances counter ++ s.accepted }

structure OtpInvariant (s : OtpState) : Prop where
  sound : ∀ rid, ∀ flight ∈ s.flights rid, flight.Sound s
  held : ∀ uid rid, s.lock uid = some rid →
    ∃ flight counter, s.flights rid = some flight ∧ flight.uid = uid ∧
      flight.phase = .written counter
  locked : ∀ rid flight counter, s.flights rid = some flight → flight.phase = .written counter →
    s.lock flight.uid = some rid
  bounded : ∀ a ∈ s.accepted, a.2.2 ≤ s.counterOf a.1
  nodup : s.accepted.Nodup

theorem checkOtp_eq_ok {now : ℕ} {secret : Secret} {otp : Otp} {last counter : ℕ}
    (h : checkOtp now secret otp last = .ok counter) :
    counter = currentTotpCounter now ∧ last < counter ∧
      currentTotpCounter now ≤ otp.step + 1 ∧ otp.step ≤ currentTotpCounter now + 1 := by
  unfold checkOtp at h
  split at h
  · cases h
  · next hverify =>
      split at h
      · cases h
      · next hlast =>
          cases h
          simp only [totpVerify, Bool.not_eq_true', Bool.not_eq_false, Bool.and_eq_true, beq_iff_eq,
            decide_eq_true_eq] at hverify
          exact ⟨rfl, by omega, hverify.1.2, hverify.2⟩

theorem map_some_eq_ok {x : Except Problem ℕ} {c : ℕ} (h : x.map some = .ok (some c)) :
    x = .ok c := by
  obtain ⟨a, ha, hsome⟩ := map_eq_ok.mp h
  rw [ha, Option.some.inj hsome]

theorem isSome_of_bind {row : Option User} {f : User → Option Secret} {secret : Secret}
    (h : row.bind f = some secret) : row.isSome :=
  Option.isSome_of_isSome_bind (Option.isSome_of_eq_some h)

/-- A password that passes the gate was checked against the row read, in the window around now. -/
theorem gate_eq_ok {now c : ℕ} {row : Option User} {endpoint : TotpEndpoint}
    (h : endpoint.gate now row = .ok (some c)) :
    row.isSome ∧ ∃ otp secret, endpoint.otp = some otp ∧
      checkOtp now secret otp (lastCounter row) = .ok c := by
  cases endpoint with
  | enroll currentOtp newSecret =>
      simp only [TotpEndpoint.gate] at h
      split at h
      · cases h
      · next user =>
          split at h
          · cases h
          · split at h
            · cases h
            · cases h
            · next otp secret _ => exact ⟨rfl, otp, secret, rfl, map_some_eq_ok h⟩
  | verify otp =>
      simp only [TotpEndpoint.gate] at h
      split at h
      · cases h
      · next secret hsecret =>
          exact ⟨isSome_of_bind hsecret, otp, secret, rfl, map_some_eq_ok h⟩
  | disable otp =>
      simp only [TotpEndpoint.gate] at h
      split at h
      · cases h
      · next secret hsecret =>
          exact ⟨isSome_of_bind hsecret, otp, secret, rfl, map_some_eq_ok h⟩
  | challenge otp =>
      simp only [TotpEndpoint.gate] at h
      split at h
      · cases h
      · next secret hsecret =>
          exact ⟨isSome_of_bind hsecret, otp, secret, rfl, map_some_eq_ok h⟩

theorem TotpEndpoint.write_counter (counter : Option ℕ) (endpoint : TotpEndpoint) (u : User) :
    (endpoint.write counter u).totpLastCounter = counter.getD u.totpLastCounter := by
  cases endpoint <;> cases counter <;> rfl

namespace OtpInvariant

variable {s : OtpState}

theorem counterOf_written (h : OtpInvariant s) {rid : ℕ} {uid : Uuid} {endpoint : TotpEndpoint}
    {row : Option User} {counter : Option ℕ}
    (hflight : s.flights rid = some ⟨uid, endpoint, row, .written counter⟩) :
    s.counterOf uid = counter.getD (lastCounter (s.users uid)) := by
  have hlock : s.lock uid = some rid := h.locked rid _ counter hflight rfl
  simp [OtpState.counterOf, OtpState.pending, hlock, hflight]

theorem lock_ne (h : OtpInvariant s) {rid : ℕ}
    (hphase : ∀ flight ∈ s.flights rid, ∀ counter, flight.phase ≠ .written counter) (uid : Uuid) :
    s.lock uid ≠ some rid := by
  intro hlock
  obtain ⟨flight, counter, hflight, -, hwritten⟩ := h.held uid rid hlock
  exact hphase flight hflight counter hwritten

theorem setFlight (h : OtpInvariant s) {rid : ℕ} {next : Option Flight}
    (hphase : ∀ flight ∈ s.flights rid, ∀ counter, flight.phase ≠ .written counter)
    (hsound : ∀ flight ∈ next, flight.Sound s)
    (hnext : ∀ flight ∈ next, ∀ counter, flight.phase ≠ .written counter) :
    OtpInvariant { s with flights := update s.flights rid next } := by
  have hfree := h.lock_ne hphase
  have hother : ∀ uid rid', s.lock uid = some rid' →
      update s.flights rid next rid' = s.flights rid' := by
    intro uid rid' hlock
    apply Function.update_of_ne
    intro heq
    exact hfree uid (heq ▸ hlock)
  refine ⟨?_, ?_, ?_, ?_, h.nodup⟩
  · apply (Function.forall_update_iff s.flights fun _ next => ∀ flight ∈ next, flight.Sound s).mpr
    exact ⟨hsound, fun rid' _ => h.sound rid'⟩
  · intro uid rid' hlock
    obtain ⟨flight, counter, hflight, hrest⟩ := h.held uid rid' hlock
    exact ⟨flight, counter, (hother uid rid' hlock).trans hflight, hrest⟩
  · intro rid' flight counter hflight hwritten
    by_cases heq : rid' = rid
    · rw [heq] at hflight
      simp only [Function.update_self] at hflight
      exact absurd hwritten (hnext flight hflight counter)
    · simp only [Function.update_of_ne heq] at hflight
      exact h.locked rid' flight counter hflight hwritten
  · intro a ha
    refine le_of_le_of_eq (h.bounded a ha) (Eq.symm ?_)
    exact OtpState.counterOf_congr rfl (hother a.1) rfl

/-- The transaction ends: its lock is released, and the row has the counter it was to store. -/
theorem release (h : OtpInvariant s) {rid : ℕ} {flight : Flight} {counter : Option ℕ}
    {users : Uuid → Option User} (hflight : s.flights rid = some flight)
    (hphase : flight.phase = .written counter)
    (husers : ∀ uid, (users uid).isSome = (s.users uid).isSome)
    (hother : ∀ uid, uid ≠ flight.uid → users uid = s.users uid)
    (hcounter : lastCounter (users flight.uid) = s.counterOf flight.uid) :
    OtpInvariant
      { s with
        users := users
        lock := update s.lock flight.uid none
        flights := update s.flights rid none } := by
  have hlock := h.locked rid flight counter hflight hphase
  have hkeep : ∀ uid rid', uid ≠ flight.uid → s.lock uid = some rid' →
      update s.flights rid none rid' = s.flights rid' := by
    intro uid rid' hne hlock'
    apply Function.update_of_ne
    intro heq
    obtain ⟨flight', counter', hflight', huid, -⟩ := h.held uid rid' hlock'
    rw [heq, hflight] at hflight'
    cases hflight'
    exact hne huid.symm
  refine ⟨?_, ?_, ?_, ?_, h.nodup⟩
  · intro rid' flight' hflight'
    by_cases heq : rid' = rid
    · rw [heq] at hflight'
      simp at hflight'
    · simp only [Function.update_of_ne heq] at hflight'
      obtain ⟨hrow, hrest⟩ := h.sound rid' flight' hflight'
      exact ⟨fun hsome => (husers _).trans (hrow hsome), hrest⟩
  · intro uid rid' hlock'
    by_cases heq : uid = flight.uid
    · rw [heq] at hlock'
      simp at hlock'
    · simp only [Function.update_of_ne heq] at hlock'
      obtain ⟨flight', counter', hflight', hrest⟩ := h.held uid rid' hlock'
      exact ⟨flight', counter', (hkeep uid rid' heq hlock').trans hflight', hrest⟩
  · intro rid' flight' counter' hflight' hphase'
    by_cases heq : rid' = rid
    · rw [heq] at hflight'
      simp at hflight'
    · simp only [Function.update_of_ne heq] at hflight'
      have hlock' := h.locked rid' flight' counter' hflight' hphase'
      have hne : flight'.uid ≠ flight.uid := by
        intro huid
        rw [huid, hlock] at hlock'
        exact heq (Option.some.inj hlock').symm
      simpa only [Function.update_of_ne hne] using hlock'
  · intro a ha
    have hle := h.bounded a ha
    by_cases heq : a.1 = flight.uid
    · rw [heq] at hle ⊢
      simpa [OtpState.counterOf, OtpState.pending, hcounter] using hle
    · rw [OtpState.counterOf_congr (s := s) (Function.update_of_ne heq _ _)
        (fun rid' => hkeep a.1 rid' heq) (hother a.1 heq)]
      exact hle

section Acquire

variable {rid : ℕ} {flight : Flight} {counter : Option ℕ}

theorem checked (h : OtpInvariant s) (hflight : s.flights rid = some flight)
    (hphase : flight.phase = .checked counter) :
    (flight.row.isSome → (s.users flight.uid).isSome) ∧
      ∀ c ∈ counter, flight.row.isSome ∧ lastCounter flight.row < c ∧
        ∃ otp, flight.endpoint.otp = some otp ∧ otp.step = c := by
  have hsound := h.sound rid flight hflight
  rw [Flight.Sound, hphase] at hsound
  exact hsound

theorem acquired_flights (h : OtpInvariant s) (hflight : s.flights rid = some flight)
    (hphase : flight.phase = .checked counter) {uid rid' : ℕ} (hlock : s.lock uid = some rid') :
    (s.acquired rid flight counter).flights rid' = s.flights rid' := by
  apply Function.update_of_ne
  rintro rfl
  apply h.lock_ne _ uid hlock
  intro flight' hflight' counter' hwritten
  rw [hflight] at hflight'
  cases hflight'
  rw [hphase] at hwritten
  cases hwritten

theorem acquired_held (h : OtpInvariant s) (hflight : s.flights rid = some flight)
    (hphase : flight.phase = .checked counter) {uid rid' : ℕ}
    (hlock : (s.acquired rid flight counter).lock uid = some rid') :
    ∃ flight' counter', (s.acquired rid flight counter).flights rid' = some flight' ∧
      flight'.uid = uid ∧ flight'.phase = .written counter' := by
  by_cases heq : uid = flight.uid
  · rw [heq] at hlock
    simp only [OtpState.acquired, Function.update_self, Option.some.injEq] at hlock
    rw [heq, ← hlock]
    exact ⟨_, counter, Function.update_self .., rfl, rfl⟩
  · simp only [OtpState.acquired, Function.update_of_ne heq] at hlock
    obtain ⟨flight', counter', hflight', hrest⟩ := h.held uid rid' hlock
    exact ⟨flight', counter', (h.acquired_flights hflight hphase hlock).trans hflight', hrest⟩

theorem acquired_locked (h : OtpInvariant s) (hlock : s.lock flight.uid = none) {rid' : ℕ}
    {flight' : Flight} {counter' : Option ℕ}
    (hflight' : (s.acquired rid flight counter).flights rid' = some flight')
    (hwritten : flight'.phase = .written counter') :
    (s.acquired rid flight counter).lock flight'.uid = some rid' := by
  by_cases heq : rid' = rid
  · rw [heq] at hflight' ⊢
    simp only [OtpState.acquired, Function.update_self] at hflight'
    cases hflight'
    exact Function.update_self ..
  · simp only [OtpState.acquired, Function.update_of_ne heq] at hflight'
    have hlock' := h.locked rid' flight' counter' hflight' hwritten
    have hne : flight'.uid ≠ flight.uid := by
      intro huid
      rw [huid, hlock] at hlock'
      cases hlock'
    simpa only [OtpState.acquired, Function.update_of_ne hne] using hlock'

theorem counterOf_acquired (hread : lastCounter flight.row = lastCounter (s.users flight.uid)) :
    (s.acquired rid flight counter).counterOf flight.uid =
      counter.getD (lastCounter flight.row) := by
  simp [OtpState.acquired, OtpState.counterOf, OtpState.pending, hread]

theorem counterOf_unlocked (hlock : s.lock flight.uid = none)
    (hread : lastCounter flight.row = lastCounter (s.users flight.uid)) :
    s.counterOf flight.uid = lastCounter flight.row := by
  simp [OtpState.counterOf, OtpState.pending, hlock, hread]

/-- The new password belongs to the step that is stored now, and the old ones to steps before it. -/
theorem acquired_bounded (h : OtpInvariant s) (hflight : s.flights rid = some flight)
    (hphase : flight.phase = .checked counter) (hlock : s.lock flight.uid = none)
    (hread : lastCounter flight.row = lastCounter (s.users flight.uid)) :
    ∀ a ∈ (s.acquired rid flight counter).accepted,
      a.2.2 ≤ (s.acquired rid flight counter).counterOf a.1 := by
  intro a ha
  obtain ⟨-, hchecked⟩ := h.checked hflight hphase
  rcases List.mem_append.mp ha with ha | ha
  · cases counter with
    | none => simp [Flight.acceptances] at ha
    | some c =>
        obtain ⟨-, -, otp, hotp, hstep⟩ := hchecked c rfl
        simp only [Flight.acceptances, hotp, List.mem_singleton] at ha
        rw [ha, counterOf_acquired hread]
        exact le_of_eq hstep
  · have hle := h.bounded a ha
    by_cases heq : a.1 = flight.uid
    · rw [heq, counterOf_unlocked hlock hread] at hle
      rw [heq, counterOf_acquired hread]
      cases counter with
      | none => exact hle
      | some c => exact le_trans hle (le_of_lt (hchecked c rfl).2.1)
    · apply le_of_le_of_eq hle
      apply Eq.symm
      exact OtpState.counterOf_congr (Function.update_of_ne heq _ _)
        (fun rid' => h.acquired_flights hflight hphase) rfl

/-- A password accepted before belongs to a step that the check has excluded. -/
theorem acquired_nodup (h : OtpInvariant s) (hflight : s.flights rid = some flight)
    (hphase : flight.phase = .checked counter) (hlock : s.lock flight.uid = none)
    (hread : lastCounter flight.row = lastCounter (s.users flight.uid)) :
    (s.acquired rid flight counter).accepted.Nodup := by
  cases counter with
  | none => exact h.nodup
  | some c =>
      obtain ⟨-, hlt, otp, hotp, hstep⟩ := (h.checked hflight hphase).2 c rfl
      simp only [OtpState.acquired, Flight.acceptances, hotp, List.singleton_append,
        List.nodup_cons]
      refine ⟨?_, h.nodup⟩
      intro hmem
      have hle : otp.step ≤ s.counterOf flight.uid := h.bounded _ hmem
      rw [counterOf_unlocked hlock hread, hstep] at hle
      exact absurd hlt (Nat.not_lt.mpr hle)

/-- The row is written: the accepted password belongs to a step after every step accepted before. -/
theorem acquire (h : OtpInvariant s) (hflight : s.flights rid = some flight)
    (hphase : flight.phase = .checked counter) (hlock : s.lock flight.uid = none)
    (hread : lastCounter flight.row = lastCounter (s.users flight.uid)) :
    OtpInvariant (s.acquired rid flight counter) where
  sound := by
    obtain ⟨hrow, hchecked⟩ := h.checked hflight hphase
    apply (Function.forall_update_iff s.flights fun _ next => ∀ flight ∈ next, flight.Sound s).mpr
    constructor
    · intro flight' hflight'
      cases hflight'
      exact ⟨hrow, fun c hc => (hchecked c hc).1⟩
    · exact fun rid' _ => h.sound rid'
  held _ _ := h.acquired_held hflight hphase
  locked _ _ _ := h.acquired_locked hlock
  bounded := h.acquired_bounded hflight hphase hlock hread
  nodup := h.acquired_nodup hflight hphase hlock hread

end Acquire

theorem check (h : OtpInvariant s) {rid : ℕ} (horderly : Orderly s (.check rid)) :
    OtpInvariant (otpStep s (.check rid)) := by
  simp only [otpStep]
  split
  · next uid endpoint row hflight =>
      have hfetched : ∀ flight ∈ s.flights rid, ∀ counter, flight.phase ≠ .written counter := by
        intro flight hf counter hphase
        rw [hflight] at hf
        cases hf
        cases hphase
      split
      · exact h.setFlight hfetched (by simp) (by simp)
      · next counter hgate =>
          apply h.setFlight hfetched
          · intro flight hf
            cases hf
            refine ⟨(h.sound rid _ hflight).1, ?_⟩
            intro c hc
            obtain rfl : counter = some c := hc
            obtain ⟨hrow, otp, secret, hotp, hcheck⟩ := gate_eq_ok hgate
            obtain ⟨rfl, hlt, hlow, hhigh⟩ := checkOtp_eq_ok hcheck
            obtain ⟨hprev, hnext⟩ := horderly _ hflight otp hotp
            exact ⟨hrow, hlt, otp, hotp, by omega⟩
          · intro flight hf counter' hphase
            cases hf
            cases hphase
  · exact h

theorem lastCounter_write (h : OtpInvariant s) {rid : ℕ} {uid : Uuid} {endpoint : TotpEndpoint}
    {row : Option User} {counter : Option ℕ}
    (hflight : s.flights rid = some ⟨uid, endpoint, row, .written counter⟩) :
    lastCounter ((s.users uid).map (endpoint.write counter)) = s.counterOf uid := by
  rw [h.counterOf_written hflight]
  cases huser : s.users uid with
  | some user => simp [lastCounter, TotpEndpoint.write_counter]
  | none =>
      cases counter with
      | none => rfl
      | some c =>
          obtain ⟨hpresent, hrow⟩ := h.sound rid _ hflight
          have huser' : (s.users uid).isSome := hpresent (hrow c rfl)
          rw [huser] at huser'
          cases huser'

theorem commit (h : OtpInvariant s) (rid : ℕ) : OtpInvariant (otpStep s (.commit rid)) := by
  simp only [otpStep]
  split
  · next uid endpoint row counter hflight =>
      apply h.release hflight rfl
      · intro uid'
        by_cases heq : uid' = uid
        · simp [heq]
        · simp [Function.update_of_ne heq]
      · intro uid' hne
        exact Function.update_of_ne hne _ _
      · simp only [Function.update_self]
        exact h.lastCounter_write hflight
  · exact h

theorem abort (h : OtpInvariant s) {rid : ℕ} (horderly : Orderly s (.abort rid)) :
    OtpInvariant (otpStep s (.abort rid)) := by
  simp only [otpStep]
  split
  · next uid endpoint row counter hflight =>
      apply h.release hflight rfl (fun _ => rfl) (fun _ _ => rfl)
      rw [h.counterOf_written hflight]
      cases counter with
      | none => rfl
      | some c => exact absurd (horderly _ hflight) (by simp [Flight.isAccepted])
  · next hphase =>
      apply h.setFlight
      · intro flight hf counter hwritten
        obtain ⟨uid, endpoint, row, phase⟩ := flight
        obtain rfl : phase = .written counter := hwritten
        exact hphase uid endpoint row counter hf
      · simp
      · simp

theorem step (h : OtpInvariant s) {e : OtpEvent} (horderly : Orderly s e) :
    OtpInvariant (otpStep s e) := by
  cases e with
  | fetch rid uid endpoint =>
      simp only [otpStep]
      split
      · exact h
      · next hfree =>
          apply h.setFlight
          · simp [hfree]
          · intro flight hflight
            cases hflight
            exact ⟨id, trivial⟩
          · intro flight hflight counter hphase
            cases hflight
            cases hphase
  | check rid => exact h.check horderly
  | update rid =>
      simp only [otpStep]
      split
      · next uid endpoint row counter hflight =>
          split
          · exact h
          · next hlock => exact h.acquire hflight rfl (by simpa using hlock) (horderly _ hflight)
      · exact h
  | commit rid => exact h.commit rid
  | abort rid => exact h.abort horderly
  | tick seconds => exact ⟨h.sound, h.held, h.locked, h.bounded, h.nodup⟩

end OtpInvariant

/-- No request is in flight. -/
structure Quiet (s : OtpState) : Prop where
  flights : s.flights = fun _ => none
  lock : s.lock = fun _ => none
  accepted : s.accepted = []

theorem Quiet.invariant {s : OtpState} (h : Quiet s) : OtpInvariant s where
  sound := by simp [h.flights]
  held := by simp [h.lock]
  locked := by simp [h.flights]
  bounded := by simp [h.accepted]
  nodup := by simp [h.accepted]

/-- In an orderly run the password of one step is accepted at most once, whatever the interleaving. -/
theorem otp_single_use {s₀ : OtpState} (h₀ : Quiet s₀) {es : List OtpEvent}
    (horderly : Along otpStep Orderly s₀ es) (uid : Uuid) (secret : Secret) (k : ℕ) :
    (run otpStep s₀ es).accepted.count (uid, secret, k) ≤ 1 := by
  have hinvariant : OtpInvariant (run otpStep s₀ es) :=
    horderly.run_invariant h₀.invariant fun _ _ h he => h.step he
  exact List.nodup_iff_count_le_one.mp hinvariant.nodup (uid, secret, k)

/-- One user with a verified secret. -/
def enrolledUser : OtpState where
  users := fun uid =>
    if uid = 0 then
      some ⟨0, 0, "ada", "ada@example.org", "correct horse", .editor, true, some 7, true, 0⟩
    else none
  now := 3000

/-- Two challenges in consecutive steps, each with the password of its own step. -/
theorem otp_single_use_consecutive :
    (run otpStep enrolledUser
      (alone 0 0 (.challenge ⟨7, 100⟩) ++
        .tick 30 :: alone 1 0 (.challenge ⟨7, 101⟩))).accepted.count (0, 7, 100) ≤ 1 :=
  otp_single_use ⟨rfl, rfl, rfl⟩ (by decide +kernel) 0 7 100

-- two requests that read the row before either writes it
example :
    (run otpStep enrolledUser
      [.fetch 0 0 (.challenge ⟨7, 100⟩), .fetch 1 0 (.challenge ⟨7, 100⟩), .check 0, .check 1,
        .update 0, .commit 0, .update 1, .commit 1]).accepted.count (0, 7, 100) = 2 := by
  decide +kernel

-- a request that is rolled back after its password was accepted
example :
    (run otpStep enrolledUser
      ([.fetch 0 0 (.challenge ⟨7, 100⟩), .check 0, .update 0, .abort 0] ++
        alone 1 0 (.challenge ⟨7, 100⟩))).accepted.count (0, 7, 100) = 2 := by
  decide +kernel

/-- The password of step 100, presented in step 100 and again in step 101. -/
theorem otp_replayed_in_next_step :
    Quiet enrolledUser ∧
      (run otpStep enrolledUser
        (alone 0 0 (.challenge ⟨7, 100⟩) ++
          .tick 30 :: alone 1 0 (.challenge ⟨7, 100⟩))).accepted.count (0, 7, 100) = 2 :=
  ⟨⟨rfl, rfl, rfl⟩, by decide +kernel⟩

end GhgTool
