import GhgTool.TenantIndependence

/-!
# Expired idempotency keys

A scheduled job deletes the expired rows of `cache.idempotency_keys`. A lookup never sees them, but
they hold their key against a store. The runs of the endpoint with and without the job are the same
as long as no store meets an expired row of its key, and no row expires between the start of a
transaction, whose `now()` its lookup goes by, and the lookup. Without the job such a key is never
answered from the cache again.
-/

namespace GhgTool

def IdempotencyRow.Expired (now : Timestamp) (row : IdempotencyRow) : Prop :=
  row.expiresAt < now

instance (now : Timestamp) (row : IdempotencyRow) : Decidable (row.Expired now) :=
  inferInstanceAs (Decidable (row.expiresAt < now))

/-- `DELETE FROM cache.idempotency_keys WHERE expires_at < now()`, which sees committed rows. -/
def InsertState.cleanup (s : InsertState) : InsertState :=
  { s with
    idempotencyKeys := s.idempotencyKeys.filter fun v =>
      ¬ (v.owner = none ∧ v.row.Expired s.clock) }

/-- The endpoint with the transactions that are open: `begun n` is the `now()` of request `n`. -/
structure CacheState where
  endpoint : InsertState
  begun : ℕ → Option Timestamp

/-- The start of a transaction, an event of the endpoint, or a run of `idempotency_keys_cleanup`. -/
inductive CacheEvent
  | start (n : ℕ)
  | request (event : InsertEvent)
  | cleanup
  deriving DecidableEq

/-- The lookup of request `n`, which reads the clock of the start of its transaction. -/
def checkAsOf (svc : InsertService) (n : ℕ) (now : Timestamp) (s : InsertState) : InsertState :=
  { svc.step { s with clock := now } (.check n) with clock := s.clock }

def InsertService.cacheStep (svc : InsertService) (c : CacheState) : CacheEvent → CacheState
  | .start n =>
      match c.begun n with
      | none => { c with begun := Function.update c.begun n (some c.endpoint.clock) }
      | some _ => c
  | .request (.check n) =>
      match c.begun n with
      | none => c
      | some now => { c with endpoint := checkAsOf svc n now c.endpoint }
  | .request event => { c with endpoint := svc.step c.endpoint event }
  | .cleanup => { c with endpoint := c.endpoint.cleanup }

/-- The event meets no expired row of its key: a lookup none that had not expired when its
transaction began, a store none at all. -/
def MeetsNoExpired (svc : InsertService) (c : CacheState) : CacheEvent → Prop
  | .request (.check n) => ∀ now ∈ c.begun n, ∀ key ∈ (svc.calls n).idempotencyKey,
      ∀ v ∈ c.endpoint.idempotencyKeys, v.owner = none → v.row.key = key →
        v.row.Expired c.endpoint.clock → v.row.expiresAt ≤ now
  | .request (.store n) => ∀ key ∈ (svc.calls n).idempotencyKey,
      ∀ v ∈ c.endpoint.idempotencyKeys, v.owner = none → v.row.Expired c.endpoint.clock →
        v.row.key ≠ key
  | _ => True

instance (svc : InsertService) (c : CacheState) (event : CacheEvent) :
    Decidable (MeetsNoExpired svc c event) :=
  match event with
  | .start _ => isTrue trivial
  | .cleanup => isTrue trivial
  | .request (.check n) => inferInstanceAs (Decidable (∀ now ∈ c.begun n,
      ∀ key ∈ (svc.calls n).idempotencyKey, ∀ v ∈ c.endpoint.idempotencyKeys, _ → _ → _ → _))
  | .request (.store n) => inferInstanceAs (Decidable (∀ key ∈ (svc.calls n).idempotencyKey,
      ∀ v ∈ c.endpoint.idempotencyKeys, _ → _ → _))
  | .request (.insert _) => isTrue trivial
  | .request (.commit _) => isTrue trivial
  | .request (.abort _) => isTrue trivial
  | .request (.tick _) => isTrue trivial

/-- The second state lacks expired rows of the first, and differs in nothing else. -/
def CleanedUp (s s' : InsertState) : Prop :=
  ∃ keys, s' = { s with idempotencyKeys := keys } ∧
    Swept (IdempotencyRow.Expired s.clock) s.idempotencyKeys keys

namespace CleanedUp

variable {svc : InsertService} {s s' : InsertState} {n : ℕ}

theorem refl (s : InsertState) : CleanedUp s s := ⟨s.idempotencyKeys, rfl, .refl _⟩

theorem setPhase (h : CleanedUp s s') (n : ℕ) (phase : InsertPhase) :
    CleanedUp (s.setPhase n phase) (s'.setPhase n phase) := by
  obtain ⟨keys, rfl, hkeys⟩ := h
  exact ⟨keys, rfl, hkeys⟩

/-- A lookup goes by a clock at which none of the rows that may be gone has not yet expired. -/
theorem lookupAsOf (h : CleanedUp s s') {key : String} {now : Timestamp}
    (hfree : ∀ v ∈ s.idempotencyKeys, v.owner = none → v.row.key = key →
      v.row.Expired s.clock → v.row.expiresAt ≤ now) (tenantId : Uuid) :
    lookupIdempotency { s' with clock := now } key tenantId =
      lookupIdempotency { s with clock := now } key tenantId := by
  obtain ⟨keys, rfl, hkeys⟩ := h
  unfold lookupIdempotency
  rw [hkeys.find?_eq]
  intro v hv howner hexpired
  refine decide_eq_false fun hfound => ?_
  exact absurd hfound.2.2.2 (Nat.not_lt.mpr (hfree v hv howner hfound.2.1 hexpired))

theorem lookup (h : CleanedUp s s') (key : String) (tenantId : Uuid) :
    lookupIdempotency s' key tenantId = lookupIdempotency s key tenantId := by
  have hexpired : ∀ v ∈ s.idempotencyKeys, v.owner = none → v.row.key = key →
      v.row.Expired s.clock → v.row.expiresAt ≤ s.clock := fun _ _ _ _ hexpired => hexpired.le
  have hnow := h.lookupAsOf hexpired tenantId
  obtain ⟨keys, rfl, hkeys⟩ := h
  exact hnow

theorem checkAsOf (h : CleanedUp s s') {now : Timestamp}
    (hfree : ∀ key ∈ (svc.calls n).idempotencyKey, ∀ v ∈ s.idempotencyKeys, v.owner = none →
      v.row.key = key → v.row.Expired s.clock → v.row.expiresAt ≤ now) :
    CleanedUp (GhgTool.checkAsOf svc n now s) (GhgTool.checkAsOf svc n now s') := by
  have hfound := fun key hkey => h.lookupAsOf (hfree key hkey) (svc.calls n).tenantId
  obtain ⟨keys, rfl, hkeys⟩ := h
  have hsame : CleanedUp s { s with idempotencyKeys := keys } := ⟨keys, rfl, hkeys⟩
  unfold GhgTool.checkAsOf
  simp only [InsertService.step]
  split
  · unfold checkIdempotency
    cases hkey : (svc.calls n).idempotencyKey with
    | none => exact hsame.setPhase n _
    | some key =>
        simp only [hfound key hkey]
        cases lookupIdempotency { s with clock := now } key (svc.calls n).tenantId with
        | none => exact hsame.setPhase n _
        | some hit =>
            by_cases hbody : hit.requestHash = (svc.calls n).body
            · simp only [if_pos hbody]
              exact hsame.setPhase n _
            · simp only [if_neg hbody]
              exact hsame.setPhase n _
  · exact hsame

theorem computeAndInsert (h : CleanedUp s s') :
    CleanedUp (GhgTool.computeAndInsert svc n s) (GhgTool.computeAndInsert svc n s') := by
  obtain ⟨keys, rfl, hkeys⟩ := h
  have hsame : CleanedUp s { s with idempotencyKeys := keys } := ⟨keys, rfl, hkeys⟩
  unfold GhgTool.computeAndInsert
  dsimp only
  split
  · exact hsame.setPhase n _
  · split
    · split
      · exact hsame.setPhase n _
      · exact hsame
      · split
        · exact ⟨keys, rfl, hkeys⟩
        · exact hsame.setPhase n _
    · exact hsame.setPhase n _

theorem storeResponse (h : CleanedUp s s') (response : CalcInsertResponse)
    (hfree : ∀ key ∈ (svc.calls n).idempotencyKey, ∀ v ∈ s.idempotencyKeys, v.owner = none →
      v.row.Expired s.clock → v.row.key ≠ key) :
    CleanedUp (GhgTool.storeResponse svc n s response)
      (GhgTool.storeResponse svc n s' response) := by
  obtain ⟨keys, rfl, hkeys⟩ := h
  have hsame : CleanedUp s { s with idempotencyKeys := keys } := ⟨keys, rfl, hkeys⟩
  unfold GhgTool.storeResponse
  cases hkey : (svc.calls n).idempotencyKey with
  | none => exact hsame.setPhase n _
  | some key =>
      have hinsertion := hkeys.insertVersion IdempotencyRow.SameKey n
        ⟨key, (svc.calls n).tenantId, (svc.calls n).body, response, s.clock + idempotencyTtl⟩
        fun v hv howner hexpired => hfree key hkey v hv howner hexpired
      dsimp only
      rcases hinsertion with ⟨h₁, h₂⟩ | ⟨h₁, h₂⟩ | ⟨h₁, h₂⟩
      · rw [h₁, h₂]
        exact hsame.setPhase n _
      · rw [h₁, h₂]
        exact hsame
      · rw [h₁, h₂]
        exact ⟨_, rfl, hkeys.append _⟩

theorem step {c : CacheState} (h : CleanedUp c.endpoint s') {event : InsertEvent}
    (hfree : MeetsNoExpired svc c (.request event)) (hcheck : ∀ n, event ≠ .check n) :
    CleanedUp (svc.step c.endpoint event) (svc.step s' event) := by
  have hphase : s'.phase = c.endpoint.phase := by
    obtain ⟨keys, rfl, -⟩ := h
    rfl
  cases event with
  | check n => exact absurd rfl (hcheck n)
  | insert n =>
      simp only [InsertService.step, hphase]
      split
      · exact h.computeAndInsert
      · exact h
  | store n =>
      simp only [InsertService.step, hphase]
      split
      · exact h.storeResponse _ hfree
      · exact h
  | commit n =>
      simp only [InsertService.step, hphase]
      split
      · obtain ⟨keys, rfl, hkeys⟩ := h
        exact ⟨_, rfl, hkeys.commit n⟩
      · exact h
  | abort n =>
      simp only [InsertService.step, hphase]
      split
      · exact h
      · obtain ⟨keys, rfl, hkeys⟩ := h
        exact ⟨_, rfl, hkeys.rollback n⟩
  | tick seconds =>
      obtain ⟨keys, rfl, hkeys⟩ := h
      refine ⟨keys, rfl, hkeys.mono fun row hrow => ?_⟩
      exact lt_of_lt_of_le hrow (Nat.le_add_right _ _)

theorem cleanup (h : CleanedUp s s') : CleanedUp s s'.cleanup := by
  obtain ⟨keys, rfl, hkeys⟩ := h
  refine ⟨_, rfl, hkeys.filter fun v hv => ?_⟩
  simpa using hv

end CleanedUp

/-- The endpoints differ in expired rows of keys only, and the same transactions are open. -/
structure Alike (c c' : CacheState) : Prop where
  endpoint : CleanedUp c.endpoint c'.endpoint
  begun : c'.begun = c.begun

/-- An event that meets no expired row of its key does the same to both. -/
theorem Alike.step {svc : InsertService} {c c' : CacheState} {event : CacheEvent}
    (h : Alike c c') (hevent : event ≠ .cleanup) (hfree : MeetsNoExpired svc c event) :
    Alike (svc.cacheStep c event) (svc.cacheStep c' event) := by
  have hclock : c'.endpoint.clock = c.endpoint.clock := by
    obtain ⟨keys, heq, -⟩ := h.endpoint
    rw [heq]
  cases event with
  | start n =>
      simp only [InsertService.cacheStep, h.begun, hclock]
      split
      · exact ⟨h.endpoint, rfl⟩
      · exact h
  | cleanup => exact absurd rfl hevent
  | request event =>
      unfold InsertService.cacheStep
      cases event with
      | check n =>
          simp only [h.begun]
          split
          · exact h
          · next now hnow => exact ⟨h.endpoint.checkAsOf (hfree now hnow), rfl⟩
      | insert n | store n | commit n | abort n | tick seconds =>
          exact ⟨h.endpoint.step hfree fun _ heq => InsertEvent.noConfusion heq, h.begun⟩

/-- The cleanup job, whenever it runs, makes no difference to any answer, to the ledger or to what a
new transaction finds, as long as in the run without it no event meets an expired row of its key. -/
theorem cleanup_makes_no_difference (svc : InsertService) (c : CacheState)
    (events : List CacheEvent)
    (hfree : Along svc.cacheStep (MeetsNoExpired svc) c (events.filter (· ≠ .cleanup))) :
    let without := run svc.cacheStep c (events.filter (· ≠ .cleanup))
    let cleaned := run svc.cacheStep c events
    cleaned.endpoint.phase = without.endpoint.phase ∧
      cleaned.endpoint.emissions = without.endpoint.emissions ∧
      ∀ key tenantId, lookupIdempotency cleaned.endpoint key tenantId =
        lookupIdempotency without.endpoint key tenantId := by
  suffices h : ∀ c c', Alike c c' →
      Along svc.cacheStep (MeetsNoExpired svc) c (events.filter (· ≠ .cleanup)) →
      Alike (run svc.cacheStep c (events.filter (· ≠ .cleanup)))
        (run svc.cacheStep c' events) by
    obtain ⟨hcleaned, -⟩ := h c c ⟨.refl _, rfl⟩ hfree
    refine ⟨?_, ?_, hcleaned.lookup⟩
    · obtain ⟨keys, heq, -⟩ := hcleaned
      rw [heq]
    · obtain ⟨keys, heq, -⟩ := hcleaned
      rw [heq]
  clear hfree c
  induction events with
  | nil => exact fun c c' h _ => h
  | cons event events ih =>
      intro c c' h hfree
      by_cases hevent : event = .cleanup
      · subst hevent
        exact ih _ _ ⟨h.endpoint.cleanup, h.begun⟩ hfree
      · rw [List.filter_cons_of_pos (by simpa using hevent)] at hfree ⊢
        exact ih _ _ (h.step hevent hfree.1) hfree.2

def noTransaction (s : InsertState) : CacheState :=
  ⟨s, fun _ => none⟩

/-- A day after a request its row is deleted, and the request is repeated. -/
def cleanedRetry : List CacheEvent :=
  [.start 1, .request (.check 1), .request (.insert 1), .cleanup, .request (.store 1),
    .request (.commit 1), .request (.tick 90000), .cleanup, .start 2, .request (.check 2),
    .request (.insert 2)]

theorem cleanup_makes_no_difference_to_retry :
    (run sharedKeyService.cacheStep (noTransaction (.initial .empty 0))
        cleanedRetry).endpoint.idempotencyKeys = [] ∧
      (run sharedKeyService.cacheStep (noTransaction (.initial .empty 0))
        cleanedRetry).endpoint.phase 2 = .answered .integrityError := by
  have hfree : Along sharedKeyService.cacheStep (MeetsNoExpired sharedKeyService)
      (noTransaction (.initial .empty 0)) (cleanedRetry.filter (· ≠ .cleanup)) := by
    decide +kernel
  have hsame := cleanup_makes_no_difference sharedKeyService (noTransaction (.initial .empty 0))
    cleanedRetry hfree
  refine ⟨by decide +kernel, ?_⟩
  rw [hsame.1]
  decide +kernel

/-- A transaction that began before the row expired would have found it. -/
example : (run sharedKeyService.cacheStep (noTransaction (.initial .empty 0))
    [.start 1, .request (.check 1), .request (.insert 1), .request (.store 1),
      .request (.commit 1), .start 2, .request (.tick 90000), .cleanup, .request (.check 2),
      .request (.insert 2)]).endpoint.phase 2 = .answered .integrityError := by
  decide +kernel

/-! ## Without the job -/

section Dead

variable {svc : InsertService} {s : InsertState} {key : String}

theorem keys_step (svc : InsertService) (s : InsertState) (event : InsertEvent) :
    (svc.step s event).idempotencyKeys = s.idempotencyKeys ∨
      (∃ n row, (svc.step s event).idempotencyKeys = s.idempotencyKeys ++ [⟨row, some n⟩] ∧
        ∀ v ∈ s.idempotencyKeys, ¬ v.row.SameKey row) ∨
      (∃ n, (svc.step s event).idempotencyKeys = commitVersions n s.idempotencyKeys) ∨
      ∃ n, (svc.step s event).idempotencyKeys = rollbackVersions n s.idempotencyKeys := by
  have hmove := move_step svc s event
  generalize event.request = request, svc.step s event = s' at hmove
  cases hmove with
  | store n response hphase row hkey htenant hbody hresponse hfree =>
      exact .inr (.inl ⟨n, row, rfl, hfree⟩)
  | commit n => exact .inr (.inr (.inl ⟨n, rfl⟩))
  | abort n => exact .inr (.inr (.inr ⟨n, rfl⟩))
  | _ => exact .inl rfl

theorem clock_step (svc : InsertService) (s : InsertState) (event : InsertEvent) :
    s.clock ≤ (svc.step s event).clock := by
  have hmove := move_step svc s event
  generalize event.request = request, svc.step s event = s' at hmove
  cases hmove with
  | tick seconds => exact Nat.le_add_right _ _
  | _ => exact le_rfl

/-- The key is held by a committed row whose time is up. -/
def HeldByExpired (key : String) (s : InsertState) : Prop :=
  ∃ v ∈ s.idempotencyKeys, v.owner = none ∧ v.row.key = key ∧ v.row.expiresAt ≤ s.clock

theorem apart_step (event : InsertEvent) (h : Apart IdempotencyRow.SameKey s.idempotencyKeys) :
    Apart IdempotencyRow.SameKey (svc.step s event).idempotencyKeys := by
  rcases keys_step svc s event with heq | ⟨n, row, heq, hfree⟩ | ⟨n, heq⟩ | ⟨n, heq⟩
  · exact heq ▸ h
  · exact heq ▸ h.inserted hfree
  · exact heq ▸ h.commit
  · exact heq ▸ h.rollback

theorem heldByExpired_step (event : InsertEvent) (h : HeldByExpired key s) :
    HeldByExpired key (svc.step s event) := by
  obtain ⟨v, hv, howner, hkey, hexpired⟩ := h
  have hlater := hexpired.trans (clock_step svc s event)
  refine ⟨v, ?_, howner, hkey, hlater⟩
  rcases keys_step svc s event with heq | ⟨n, row, heq, -⟩ | ⟨n, heq⟩ | ⟨n, heq⟩
  · exact heq ▸ hv
  · exact heq ▸ List.mem_append_left _ hv
  · exact heq ▸ mem_commitVersions.mpr (.inl ⟨hv, by simp [howner]⟩)
  · exact heq ▸ mem_rollbackVersions.mpr ⟨hv, by simp [howner]⟩

theorem lookup_of_heldByExpired (hapart : Apart IdempotencyRow.SameKey s.idempotencyKeys)
    (h : HeldByExpired key s) (tenantId : Uuid) : lookupIdempotency s key tenantId = none := by
  obtain ⟨v, hv, -, hkey, hexpired⟩ := h
  unfold lookupIdempotency
  rw [Option.map_eq_none_iff, List.find?_eq_none]
  intro w hw hfound
  obtain ⟨-, hwkey, -, hfresh⟩ := of_decide_eq_true hfound
  have hsame : w = v :=
    hapart.eq_of_clash (fun _ _ => Eq.symm) hw hv (hwkey.trans hkey.symm)
  rw [hsame] at hfresh
  exact absurd hexpired (Nat.not_le.mpr hfresh)

theorem phase_of_other {request : Option ℕ} {s' : InsertState} {n : ℕ}
    (h : InsertMove svc s request s') (hne : request ≠ some n) : s'.phase n = s.phase n := by
  cases h with
  | stutter => rfl
  | tick seconds => rfl
  | _ => exact InsertState.setPhase_of_ne _ (fun h => hne (congrArg some h.symm)) _

/-- A request that has been checked does not become replayed. -/
theorem phase_of_checked {s' : InsertState} {n : ℕ} (h : InsertMove svc s (some n) s')
    (hphase : s.phase n ≠ .received) {response : CalcInsertResponse}
    (hreplayed : s'.phase n = .answered (.replayed response)) :
    s.phase n = .answered (.replayed response) := by
  cases h with
  | stutter => exact hreplayed
  | pass _ hreceived => exact absurd hreceived hphase
  | replay _ hreceived => exact absurd hreceived hphase
  | refuse _ _ answer hanswer =>
      rw [InsertState.setPhase_self] at hreplayed
      cases hreplayed
      cases hanswer
  | _ =>
      have hself := (InsertState.setPhase_self _ _ _).symm.trans hreplayed
      cases hself

theorem step_of_received {event : InsertEvent} {n : ℕ} (hown : event.request = some n)
    (hcheck : event ≠ .check n) (hphase : s.phase n = .received) :
    svc.step s event = s ∨ svc.step s event = abortRequest n s := by
  cases event with
  | check m => exact absurd (congrArg InsertEvent.check (Option.some.inj hown)) hcheck
  | tick seconds => cases hown
  | abort m =>
      obtain rfl := Option.some.inj hown
      simp only [InsertService.step, hphase]
      exact .inr trivial
  | _ =>
      obtain rfl := Option.some.inj hown
      simp only [InsertService.step, hphase]
      exact .inl trivial

theorem replayed_step {event : InsertEvent} {n : ℕ} {response : CalcInsertResponse}
    (h : (svc.step s event).phase n = .answered (.replayed response)) :
    s.phase n = .answered (.replayed response) ∨ ∃ key,
      (svc.calls n).idempotencyKey = some key ∧
        lookupIdempotency s key (svc.calls n).tenantId ≠ none := by
  by_cases hcheck : event = .check n
  · subst hcheck
    simp only [InsertService.step] at h
    split at h
    next hphase =>
      refine .inr ?_
      unfold checkIdempotency at h
      cases hkey : (svc.calls n).idempotencyKey with
      | none =>
          simp only [hkey, InsertState.setPhase_self] at h
          cases h
      | some key =>
          refine ⟨key, rfl, fun hnone => ?_⟩
          simp only [hkey, hnone, InsertState.setPhase_self] at h
          cases h
    next => exact .inl h
  · refine .inl ?_
    by_cases hown : event.request = some n
    · have hmove := move_step svc s event
      rw [hown] at hmove
      by_cases hphase : s.phase n = .received
      · rcases step_of_received hown hcheck hphase with heq | heq
        · rwa [heq] at h
        · rw [heq, abortRequest, InsertState.setPhase_self] at h
          cases h
      · exact phase_of_checked hmove hphase h
    · rwa [phase_of_other (move_step svc s event) hown] at h

end Dead

end GhgTool
