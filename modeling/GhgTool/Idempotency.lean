import GhgTool.CalcInsert

/-!
# At most one row and one answer per key

The moves of the insert endpoint, said once, and the invariant they keep: every row written through
the endpoint belongs to one request, every cached response is the answer of a request under the
same tenant, key and body, and every replay repeats such an answer. The unique index on the
natural key does the rest.
-/

namespace GhgTool

/-- Two requests of one tenant with the same key and the same body. -/
structure SameRequest (svc : InsertService) (m n : ℕ) : Prop where
  tenantId : (svc.calls m).tenantId = (svc.calls n).tenantId
  idempotencyKey : (svc.calls m).idempotencyKey = (svc.calls n).idempotencyKey
  body : (svc.calls m).body = (svc.calls n).body

/-- Everything a step can do, and for which request. -/
inductive InsertMove (svc : InsertService) (s : InsertState) : Option ℕ → InsertState → Prop
  | stutter (request : Option ℕ) : InsertMove svc s request s
  | tick (seconds : ℕ) : InsertMove svc s none { s with clock := s.clock + seconds }
  | pass (n : ℕ) (hphase : s.phase n = .received) : InsertMove svc s (some n) (s.setPhase n .checked)
  | replay (n : ℕ) (hphase : s.phase n = .received) (v : Version ℕ IdempotencyRow)
      (hv : v ∈ s.idempotencyKeys) (howner : v.owner = none)
      (hkey : (svc.calls n).idempotencyKey = some v.row.key)
      (htenant : v.row.tenantId = (svc.calls n).tenantId)
      (hbody : v.row.requestHash = (svc.calls n).body) :
      InsertMove svc s (some n) (s.setPhase n (.answered (.replayed v.row.responseBody)))
  | refuse (n : ℕ) (hphase : s.phase n = .received ∨ s.phase n = .checked) (answer : InsertAnswer)
      (hanswer : answer.success = none) : InsertMove svc s (some n) (s.setPhase n (.answered answer))
  | insert (n : ℕ) (hphase : s.phase n = .checked) (preview : CalcPreviewResponse)
      (hfree : ∀ v ∈ s.emissions, ¬ v.row.Clash (svc.emissionRow n preview s.clock)) :
      InsertMove svc s (some n) ({ s with emissions := s.emissions ++
        [Version.mk (svc.emissionRow n preview s.clock) (some n)] }.setPhase n
          (.inserted (svc.insertResponse n preview s.clock)))
  | skipStore (n : ℕ) (response : CalcInsertResponse) (hphase : s.phase n = .inserted response) :
      InsertMove svc s (some n) (s.setPhase n (.stored response))
  | store (n : ℕ) (response : CalcInsertResponse) (hphase : s.phase n = .inserted response)
      (row : IdempotencyRow) (hkey : (svc.calls n).idempotencyKey = some row.key)
      (htenant : row.tenantId = (svc.calls n).tenantId)
      (hbody : row.requestHash = (svc.calls n).body) (hresponse : row.responseBody = response)
      (hfree : ∀ v ∈ s.idempotencyKeys, ¬ v.row.SameKey row) :
      InsertMove svc s (some n) ({ s with idempotencyKeys := s.idempotencyKeys ++
        [Version.mk row (some n)] }.setPhase n (.stored response))
  | commit (n : ℕ) (response : CalcInsertResponse) (hphase : s.phase n = .stored response) :
      InsertMove svc s (some n) (commitRequest n s response)
  | abort (n : ℕ) (hphase : ∀ answer, s.phase n ≠ .answered answer) :
      InsertMove svc s (some n) (abortRequest n s)

section Moves

variable (svc : InsertService) (s : InsertState) (n : ℕ)

theorem move_checkIdempotency (hphase : s.phase n = .received) :
    InsertMove svc s (some n) (checkIdempotency svc n s) := by
  unfold checkIdempotency
  split
  · exact .pass n hphase
  · rename_i key hkey
    unfold lookupIdempotency
    cases hfind : s.idempotencyKeys.find? fun v => decide (v.owner = none ∧ v.row.key = key ∧
        v.row.tenantId = (svc.calls n).tenantId ∧ s.clock < v.row.expiresAt) with
    | none => exact .pass n hphase
    | some v =>
        have hfound := List.find?_some hfind
        obtain ⟨howner, hkey', htenant, -⟩ := of_decide_eq_true hfound
        have hv := List.mem_of_find?_eq_some hfind
        simp only [Option.map_some]
        split_ifs with hbody
        · exact .replay n hphase v hv howner (hkey.trans (by rw [hkey'])) htenant hbody
        · exact .refuse n (.inl hphase) _ rfl

theorem move_computeAndInsert (hphase : s.phase n = .checked) :
    InsertMove svc s (some n) (computeAndInsert svc n s) := by
  unfold computeAndInsert
  split
  · exact .refuse n (.inr hphase) _ rfl
  · rename_i preview _
    dsimp only
    by_cases hchecks : (2020 ≤ (svc.emissionRow n preview s.clock).anno ∧
        (svc.emissionRow n preview s.clock).anno ≤ 2099) ∧
          0 ≤ (svc.emissionRow n preview s.clock).tco2e
    · rw [if_pos hchecks]
      split
      · exact .refuse n (.inr hphase) _ rfl
      · exact .stutter _
      · rename_i emissions hins
        obtain ⟨rfl, hfree⟩ := insertVersion_eq_inserted.mp hins
        split_ifs
        · exact .insert n hphase preview hfree
        · exact .refuse n (.inr hphase) _ rfl
    · rw [if_neg hchecks]
      exact .refuse n (.inr hphase) _ rfl

theorem move_storeResponse {response : CalcInsertResponse} (hphase : s.phase n = .inserted response) :
    InsertMove svc s (some n) (storeResponse svc n s response) := by
  unfold storeResponse
  split
  · exact .skipStore n response hphase
  · rename_i key hkey
    dsimp only
    split
    · exact .skipStore n response hphase
    · exact .stutter _
    · rename_i rows hins
      obtain ⟨rfl, hfree⟩ := insertVersion_eq_inserted.mp hins
      exact .store n response hphase _ hkey rfl rfl rfl hfree

theorem move_step (e : InsertEvent) : InsertMove svc s e.request (svc.step s e) := by
  cases e with
  | check n =>
      simp only [InsertService.step]
      split
      · exact move_checkIdempotency svc s n ‹_›
      · exact .stutter _
  | insert n =>
      simp only [InsertService.step]
      split
      · exact move_computeAndInsert svc s n ‹_›
      · exact .stutter _
  | store n =>
      simp only [InsertService.step]
      split
      · exact move_storeResponse svc s n ‹_›
      · exact .stutter _
  | commit n =>
      simp only [InsertService.step]
      split
      · exact .commit n _ ‹_›
      · exact .stutter _
  | abort n =>
      simp only [InsertService.step]
      split
      · exact .stutter _
      · rename_i hphase
        exact .abort n hphase
  | tick seconds => exact .tick seconds

end Moves

/-- What holds in every state the endpoint reaches. -/
structure InsertInvariant (svc : InsertService) (s : InsertState) : Prop where
  apart : Apart EmissionRow.Clash s.emissions
  rows : ∀ v ∈ s.emissions, v.owner = none ∧ v.row.id < svc.firstId ∨
    ∃ n preview now, v.row = svc.emissionRow n preview now ∧ (v.owner = none ∨ v.owner = some n)
  pending : ∀ n response, s.phase n = .inserted response ∨ s.phase n = .stored response →
    ∃ preview now, response = svc.insertResponse n preview now ∧
      ⟨svc.emissionRow n preview now, some n⟩ ∈ s.emissions
  created : ∀ n response, s.phase n = .answered (.created response) →
    ∃ preview now, response = svc.insertResponse n preview now ∧
      ⟨svc.emissionRow n preview now, none⟩ ∈ s.emissions
  cached : ∀ v ∈ s.idempotencyKeys, ∃ n, (svc.calls n).idempotencyKey = some v.row.key ∧
    v.row.tenantId = (svc.calls n).tenantId ∧ v.row.requestHash = (svc.calls n).body ∧
      (v.owner = some n ∧ s.phase n = .stored v.row.responseBody ∨
        v.owner = none ∧ s.phase n = .answered (.created v.row.responseBody))
  replayed : ∀ n response, s.phase n = .answered (.replayed response) →
    ∃ m, SameRequest svc m n ∧ s.phase m = .answered (.created response)

namespace InsertInvariant

variable {svc : InsertService} {s : InsertState} {n : ℕ}

/-- Moving a request that has neither stored nor answered keeps the invariant when its new phase
is accounted for. -/
theorem setPhase (h : InsertInvariant svc s) (phase : InsertPhase)
    (hstored : ∀ response, s.phase n ≠ .stored response)
    (hanswered : ∀ answer, s.phase n ≠ .answered answer)
    (hpending : ∀ response, phase = .inserted response ∨ phase = .stored response →
      ∃ preview now, response = svc.insertResponse n preview now ∧
        ⟨svc.emissionRow n preview now, some n⟩ ∈ s.emissions)
    (hcreated : ∀ response, phase ≠ .answered (.created response))
    (hreplayed : ∀ response, phase = .answered (.replayed response) →
      ∃ m, SameRequest svc m n ∧ s.phase m = .answered (.created response)) :
    InsertInvariant svc (s.setPhase n phase) := by
  have hkeep : ∀ m answer, s.phase m = .answered answer →
      (s.setPhase n phase).phase m = .answered answer := by
    intro m answer hm
    have hne : m ≠ n := fun hmn => hanswered answer (hmn ▸ hm)
    rw [s.setPhase_of_ne hne, hm]
  refine ⟨h.apart, h.rows, fun m response hm => ?_, fun m response hm => ?_, fun v hv => ?_,
    fun m response hm => ?_⟩
  · by_cases hmn : m = n
    · subst hmn
      rw [InsertState.setPhase_self] at hm
      exact hpending response hm
    · rw [s.setPhase_of_ne hmn] at hm
      exact h.pending m response hm
  · by_cases hmn : m = n
    · subst hmn
      rw [InsertState.setPhase_self] at hm
      exact absurd hm (hcreated response)
    · rw [s.setPhase_of_ne hmn] at hm
      exact h.created m response hm
  · obtain ⟨m, hkey, htenant, hbody, ⟨howner, hm⟩ | ⟨howner, hm⟩⟩ := h.cached v hv
    · have hne : m ≠ n := fun hmn => hstored v.row.responseBody (hmn ▸ hm)
      refine ⟨m, hkey, htenant, hbody, .inl ⟨howner, ?_⟩⟩
      rw [s.setPhase_of_ne hne, hm]
    · exact ⟨m, hkey, htenant, hbody, .inr ⟨howner, hkeep m _ hm⟩⟩
  · by_cases hmn : m = n
    · subst hmn
      rw [InsertState.setPhase_self] at hm
      obtain ⟨k, hsame, hk⟩ := hreplayed response hm
      exact ⟨k, hsame, hkeep k _ hk⟩
    · rw [s.setPhase_of_ne hmn] at hm
      obtain ⟨k, hsame, hk⟩ := h.replayed m response hm
      exact ⟨k, hsame, hkeep k _ hk⟩

theorem addEmission (h : InsertInvariant svc s) (preview : CalcPreviewResponse) (now : Timestamp)
    (hfree : ∀ v ∈ s.emissions, ¬ v.row.Clash (svc.emissionRow n preview now)) :
    InsertInvariant svc { s with emissions := s.emissions ++
      [Version.mk (svc.emissionRow n preview now) (some n)] } := by
  refine ⟨h.apart.inserted hfree, fun v hv => ?_, fun m response hm => ?_,
    fun m response hm => ?_, h.cached, h.replayed⟩
  · rcases List.mem_append.mp hv with hv | hv
    · exact h.rows v hv
    · rw [List.mem_singleton.mp hv]
      exact .inr ⟨n, preview, now, rfl, .inr rfl⟩
  · obtain ⟨preview', now', hresponse, hmem⟩ := h.pending m response hm
    exact ⟨preview', now', hresponse, List.mem_append_left _ hmem⟩
  · obtain ⟨preview', now', hresponse, hmem⟩ := h.created m response hm
    exact ⟨preview', now', hresponse, List.mem_append_left _ hmem⟩

theorem addKey (h : InsertInvariant svc s) {row : IdempotencyRow}
    (hphase : s.phase n = .stored row.responseBody)
    (hkey : (svc.calls n).idempotencyKey = some row.key)
    (htenant : row.tenantId = (svc.calls n).tenantId)
    (hbody : row.requestHash = (svc.calls n).body) :
    InsertInvariant svc { s with idempotencyKeys := s.idempotencyKeys ++
      [Version.mk row (some n)] } := by
  refine ⟨h.apart, h.rows, h.pending, h.created, fun v hv => ?_, h.replayed⟩
  rcases List.mem_append.mp hv with hv | hv
  · exact h.cached v hv
  · rw [List.mem_singleton.mp hv]
    exact ⟨n, hkey, htenant, hbody, .inl ⟨rfl, hphase⟩⟩

theorem commit (h : InsertInvariant svc s) {response : CalcInsertResponse}
    (hphase : s.phase n = .stored response) : InsertInvariant svc (commitRequest n s response) := by
  have hother : ∀ m, m ≠ n → (commitRequest n s response).phase m = s.phase m :=
    fun m hmn => InsertState.setPhase_of_ne _ hmn _
  have hself : (commitRequest n s response).phase n = .answered (.created response) :=
    InsertState.setPhase_self _ _ _
  refine ⟨h.apart.commit, fun v hv => ?_, fun m r hm => ?_, fun m r hm => ?_, fun v hv => ?_,
    fun m r hm => ?_⟩
  · rcases mem_commitVersions.mp hv with ⟨hv, -⟩ | ⟨howner, hv⟩
    · exact h.rows v hv
    · rcases h.rows _ hv with ⟨hnone, -⟩ | ⟨k, preview, now, hrow, -⟩
      · cases hnone
      · exact .inr ⟨k, preview, now, hrow, .inl howner⟩
  · have hmn : m ≠ n := by
      rintro rfl
      rw [hself] at hm
      simp at hm
    rw [hother m hmn] at hm
    obtain ⟨preview, now, hr, hmem⟩ := h.pending m r hm
    refine ⟨preview, now, hr, mem_commitVersions.mpr (.inl ⟨hmem, ?_⟩)⟩
    simpa using hmn
  · by_cases hmn : m = n
    · subst hmn
      rw [hself, InsertPhase.answered.injEq, InsertAnswer.created.injEq] at hm
      subst hm
      obtain ⟨preview, now, hr, hmem⟩ := h.pending m _ (.inr hphase)
      exact ⟨preview, now, hr, mem_commitVersions.mpr (.inr ⟨rfl, hmem⟩)⟩
    · rw [hother m hmn] at hm
      obtain ⟨preview, now, hr, hmem⟩ := h.created m r hm
      exact ⟨preview, now, hr, mem_commitVersions.mpr (.inl ⟨hmem, by simp⟩)⟩
  · rcases mem_commitVersions.mp hv with ⟨hv, hne⟩ | ⟨howner, hv⟩
    · obtain ⟨m, hkey, htenant, hbody, hcase⟩ := h.cached v hv
      refine ⟨m, hkey, htenant, hbody, ?_⟩
      have hmn : m ≠ n := by
        rintro rfl
        rcases hcase with ⟨howner, -⟩ | ⟨-, hm⟩
        · exact hne howner
        · rw [hphase] at hm
          cases hm
      rwa [hother m hmn]
    · obtain ⟨m, hkey, htenant, hbody, ⟨hm, hm'⟩ | ⟨hm, -⟩⟩ := h.cached _ hv
      · obtain rfl : n = m := by simpa using hm
        rw [hphase, InsertPhase.stored.injEq] at hm'
        exact ⟨n, hkey, htenant, hbody, .inr ⟨howner, by rw [hself, hm']⟩⟩
      · cases hm
  · have hmn : m ≠ n := by
      rintro rfl
      rw [hself] at hm
      simp at hm
    rw [hother m hmn] at hm
    obtain ⟨k, hsame, hk⟩ := h.replayed m r hm
    have hkn : k ≠ n := by
      rintro rfl
      rw [hphase] at hk
      cases hk
    exact ⟨k, hsame, by rw [hother k hkn, hk]⟩

theorem abort (h : InsertInvariant svc s) (hphase : ∀ answer, s.phase n ≠ .answered answer) :
    InsertInvariant svc (abortRequest n s) := by
  have hother : ∀ m, m ≠ n → (abortRequest n s).phase m = s.phase m :=
    fun m hmn => InsertState.setPhase_of_ne _ hmn _
  have hself : (abortRequest n s).phase n = .aborted := InsertState.setPhase_self _ _ _
  have hne : ∀ m, (abortRequest n s).phase m ≠ .aborted → m ≠ n := by
    rintro m hm rfl
    exact hm hself
  have hkeep : ∀ m answer, s.phase m = .answered answer →
      (abortRequest n s).phase m = .answered answer := by
    intro m answer hm
    have hmn : m ≠ n := fun hmn => hphase answer (hmn ▸ hm)
    rw [hother m hmn, hm]
  refine ⟨h.apart.rollback, fun v hv => h.rows v (mem_rollbackVersions.mp hv).1,
    fun m r hm => ?_, fun m r hm => ?_, fun v hv => ?_, fun m r hm => ?_⟩
  · have hmn : m ≠ n := hne m (by rcases hm with hm | hm <;> simp [hm])
    rw [hother m hmn] at hm
    obtain ⟨preview, now, hr, hmem⟩ := h.pending m r hm
    exact ⟨preview, now, hr, mem_rollbackVersions.mpr ⟨hmem, by simpa using hmn⟩⟩
  · rw [hother m (hne m (by simp [hm]))] at hm
    obtain ⟨preview, now, hr, hmem⟩ := h.created m r hm
    exact ⟨preview, now, hr, mem_rollbackVersions.mpr ⟨hmem, by simp⟩⟩
  · obtain ⟨hv, howner⟩ := mem_rollbackVersions.mp hv
    obtain ⟨m, hkey, htenant, hbody, ⟨hm, hm'⟩ | ⟨hm, hm'⟩⟩ := h.cached v hv
    · have hmn : m ≠ n := fun hmn => howner (hmn ▸ hm)
      exact ⟨m, hkey, htenant, hbody, .inl ⟨hm, by rw [hother m hmn, hm']⟩⟩
    · exact ⟨m, hkey, htenant, hbody, .inr ⟨hm, hkeep m _ hm'⟩⟩
  · rw [hother m (hne m (by simp [hm]))] at hm
    obtain ⟨k, hsame, hk⟩ := h.replayed m r hm
    exact ⟨k, hsame, hkeep k _ hk⟩

theorem markStored (h : InsertInvariant svc s) {response : CalcInsertResponse}
    (hphase : s.phase n = .inserted response) :
    InsertInvariant svc (s.setPhase n (.stored response)) := by
  refine h.setPhase _ (by simp [hphase]) (by simp [hphase]) ?_ (by simp) (by simp)
  intro response' hresponse
  simp only [reduceCtorEq, InsertPhase.stored.injEq, false_or] at hresponse
  subst hresponse
  exact h.pending n response (.inl hphase)

theorem move (h : InsertInvariant svc s) {request : Option ℕ} {s' : InsertState}
    (hmove : InsertMove svc s request s') : InsertInvariant svc s' := by
  cases hmove with
  | stutter request => exact h
  | tick seconds => exact ⟨h.apart, h.rows, h.pending, h.created, h.cached, h.replayed⟩
  | pass n hphase =>
      exact h.setPhase .checked (by simp [hphase]) (by simp [hphase]) (by simp) (by simp) (by simp)
  | replay n hphase v hv howner hkey htenant hbody =>
      refine h.setPhase _ (by simp [hphase]) (by simp [hphase]) (by simp) (by simp) ?_
      intro response hresponse
      obtain ⟨m, hkey', htenant', hbody', ⟨hm, -⟩ | ⟨-, hm⟩⟩ := h.cached v hv
      · rw [howner] at hm
        cases hm
      · simp only [InsertPhase.answered.injEq, InsertAnswer.replayed.injEq] at hresponse
        subst hresponse
        exact ⟨m, ⟨htenant'.symm.trans htenant, hkey'.trans hkey.symm,
          hbody'.symm.trans hbody⟩, hm⟩
  | refuse n hphase answer hanswer =>
      refine h.setPhase _ ?_ ?_ (by simp) ?_ ?_
      · rcases hphase with hphase | hphase <;> simp [hphase]
      · rcases hphase with hphase | hphase <;> simp [hphase]
      · rintro response hphase'
        simp only [InsertPhase.answered.injEq] at hphase'
        rw [hphase'] at hanswer
        cases hanswer
      · rintro response hphase'
        simp only [InsertPhase.answered.injEq] at hphase'
        rw [hphase'] at hanswer
        cases hanswer
  | insert n hphase preview hfree =>
      refine (h.addEmission preview s.clock hfree).setPhase _ (by simp [hphase])
        (by simp [hphase]) ?_ (by simp) (by simp)
      intro response hresponse
      simp only [InsertPhase.inserted.injEq, reduceCtorEq, or_false] at hresponse
      exact ⟨preview, s.clock, hresponse.symm, by simp⟩
  | skipStore n response hphase => exact h.markStored hphase
  | store n response hphase row hkey htenant hbody hresponse =>
      subst hresponse
      exact (h.markStored hphase).addKey (InsertState.setPhase_self _ _ _) hkey htenant hbody
  | commit n response hphase => exact h.commit hphase
  | abort n hphase => exact h.abort hphase

theorem initial {t : EmissionsTable} (clock : Timestamp) (hfirst : ∀ r ∈ t.rows, r.id < svc.firstId) :
    InsertInvariant svc (.initial t clock) := by
  refine ⟨?_, fun v hv => ?_, by simp [InsertState.initial], by simp [InsertState.initial],
    by simp [InsertState.initial], by simp [InsertState.initial]⟩
  · refine List.pairwise_map.mpr ?_
    refine (t.pk.and (t.naturalKey.and t.exclusion)).imp ?_
    rintro r s ⟨hid, hkey, hsite⟩ (hclash | hclash | hclash)
    · exact hid hclash
    · exact hkey hclash
    · exact hsite hclash
  · obtain ⟨r, hr, rfl⟩ := List.mem_map.mp hv
    exact .inl ⟨rfl, hfirst r hr⟩

end InsertInvariant

/-- Of the requests with one tenant, key and body, at most one has its emission row committed. -/
def CommitsOnce (svc : InsertService) (s : InsertState) : Prop :=
  ∀ m n, SameRequest svc m n →
    (∃ v ∈ s.emissions, v.owner = none ∧ v.row.id = svc.emissionId m) →
    (∃ v ∈ s.emissions, v.owner = none ∧ v.row.id = svc.emissionId n) → m = n

/-- Those that answer 201 or 200 all answer with the same response. -/
def AnswersAlike (svc : InsertService) (s : InsertState) : Prop :=
  ∀ m n answer answer' response response', SameRequest svc m n →
    s.phase m = .answered answer → answer.success = some response →
    s.phase n = .answered answer' → answer'.success = some response' → response = response'

section Conclusions

variable {svc : InsertService} {s : InsertState}

theorem InsertInvariant.row_of_emissionId (h : InsertInvariant svc s) {v : Version ℕ EmissionRow}
    (hv : v ∈ s.emissions) {n : ℕ} (hid : v.row.id = svc.emissionId n) :
    ∃ preview now, v.row = svc.emissionRow n preview now := by
  rcases h.rows v hv with ⟨-, hlt⟩ | ⟨m, preview, now, hrow, -⟩
  · rw [hid] at hlt
    exact absurd hlt (Nat.not_lt.mpr (Nat.le_add_right svc.firstId n))
  · have hmn : m = n := by
      rw [hrow] at hid
      have : svc.firstId + m = svc.firstId + n := hid
      omega
    exact ⟨preview, now, hmn ▸ hrow⟩

theorem commitsOnce_of_invariant (h : InsertInvariant svc s) : CommitsOnce svc s := by
  rintro m n hsame ⟨v, hv, -, hvid⟩ ⟨w, hw, -, hwid⟩
  obtain ⟨preview, now, hvrow⟩ := h.row_of_emissionId hv hvid
  obtain ⟨preview', now', hwrow⟩ := h.row_of_emissionId hw hwid
  have hkey : v.row.naturalKey = w.row.naturalKey := by
    rw [hvrow, hwrow]
    simp only [EmissionRow.naturalKey, InsertService.emissionRow, hsame.tenantId, hsame.body]
  have hclash : v.row.Clash w.row := by
    refine .inr (.inl ⟨?_, ?_, hkey⟩)
    · rw [hvrow]
      rfl
    · rw [hwrow]
      rfl
  have hvw : v = w := h.apart.eq_of_clash (fun _ _ => EmissionRow.Clash.symm) hv hw hclash
  subst hvw
  have : svc.firstId + m = svc.firstId + n := hvid.symm.trans hwid
  omega

theorem exists_created (h : InsertInvariant svc s) {n : ℕ} {answer : InsertAnswer}
    {response : CalcInsertResponse} (hn : s.phase n = .answered answer)
    (hsuccess : answer.success = some response) :
    ∃ m, SameRequest svc m n ∧ s.phase m = .answered (.created response) := by
  cases answer with
  | created r =>
      cases hsuccess
      exact ⟨n, ⟨rfl, rfl, rfl⟩, hn⟩
  | replayed r =>
      cases hsuccess
      exact h.replayed n response hn
  | keyReused => cases hsuccess
  | calculationError detail => cases hsuccess
  | integrityError => cases hsuccess

theorem answersAlike_of_invariant (h : InsertInvariant svc s) : AnswersAlike svc s := by
  intro m n answer answer' response response' hsame hm hmr hn hnr
  obtain ⟨m', hm', hcreated⟩ := exists_created h hm hmr
  obtain ⟨n', hn', hcreated'⟩ := exists_created h hn hnr
  have hsame' : SameRequest svc m' n' :=
    ⟨hm'.tenantId.trans (hsame.tenantId.trans hn'.tenantId.symm),
      hm'.idempotencyKey.trans (hsame.idempotencyKey.trans hn'.idempotencyKey.symm),
      hm'.body.trans (hsame.body.trans hn'.body.symm)⟩
  obtain ⟨preview, now, -, hmem⟩ := h.created m' response hcreated
  obtain ⟨preview', now', -, hmem'⟩ := h.created n' response' hcreated'
  have heq := commitsOnce_of_invariant h m' n' hsame' ⟨_, hmem, rfl, rfl⟩ ⟨_, hmem', rfl, rfl⟩
  subst heq
  rw [hcreated] at hcreated'
  simpa using hcreated'

end Conclusions

end GhgTool
