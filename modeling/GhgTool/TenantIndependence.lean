import GhgTool.Idempotency

/-!
# What one tenant sees of the others

The view of a tenant keeps its own requests, rows and cached keys. Every step of another tenant's
request leaves the view alone, and every step of its own acts on the view as it acts on the
whole state, with one exception: `store_response` meets the keys of all tenants. Where no step
stores under a key that another tenant holds, what a tenant is answered is what it would be
answered alone.
-/

namespace GhgTool

section View

variable (svc : InsertService) (tenantId : Uuid)

def InsertService.view (s : InsertState) : InsertState where
  clock := s.clock
  phase := fun n => if (svc.calls n).tenantId = tenantId then s.phase n else .received
  emissions := restrict (fun r => r.tenantId == tenantId) s.emissions
  idempotencyKeys := restrict (fun c => c.tenantId == tenantId) s.idempotencyKeys

/-- The events of the tenant's own requests, and the passing of time. -/
def InsertService.concerns (e : InsertEvent) : Bool :=
  match e.request with
  | none => true
  | some n => decide ((svc.calls n).tenantId = tenantId)

/-- No other tenant holds the key under which the step stores, committed or not. -/
def KeyUnshared (svc : InsertService) (s : InsertState) : InsertEvent → Prop
  | .store n => ∀ key, (svc.calls n).idempotencyKey = some key →
    ∀ v ∈ s.idempotencyKeys, v.row.key = key → v.row.tenantId = (svc.calls n).tenantId
  | _ => True

end View

section Skip

variable {svc : InsertService} {tenantId : Uuid} {s : InsertState} {n : ℕ}

theorem view_setPhase_other (hn : (svc.calls n).tenantId ≠ tenantId) (phase : InsertPhase) :
    svc.view tenantId (s.setPhase n phase) = svc.view tenantId s := by
  have hphases : (svc.view tenantId (s.setPhase n phase)).phase = (svc.view tenantId s).phase := by
    funext m
    by_cases hm : m = n
    · subst hm
      simp only [InsertService.view, if_neg hn]
    · simp only [InsertService.view, s.setPhase_of_ne hm]
  simp only [InsertService.view, InsertState.setPhase, InsertState.mk.injEq, true_and, and_true]
  exact hphases

theorem tenantId_of_owner (h : InsertInvariant svc s) {v : Version ℕ EmissionRow}
    (hv : v ∈ s.emissions) (howner : v.owner = some n) :
    v.row.tenantId = (svc.calls n).tenantId := by
  rcases h.rows v hv with ⟨hnone, -⟩ | ⟨m, preview, now, hrow, hnone | hm⟩
  · rw [hnone] at howner
    cases howner
  · rw [hnone] at howner
    cases howner
  · obtain rfl : m = n := by simpa using hm.symm.trans howner
    rw [hrow]
    rfl

theorem tenantId_of_keyOwner (h : InsertInvariant svc s) {v : Version ℕ IdempotencyRow}
    (hv : v ∈ s.idempotencyKeys) (howner : v.owner = some n) :
    v.row.tenantId = (svc.calls n).tenantId := by
  obtain ⟨m, -, htenant, -, ⟨hm, -⟩ | ⟨hnone, -⟩⟩ := h.cached v hv
  · obtain rfl : m = n := by simpa using hm.symm.trans howner
    exact htenant
  · rw [hnone] at howner
    cases howner

theorem not_owned_emissions (h : InsertInvariant svc s) (hn : (svc.calls n).tenantId ≠ tenantId) :
    ∀ v ∈ restrict (fun r => r.tenantId == tenantId) s.emissions, v.owner ≠ some n := by
  intro v hv howner
  obtain ⟨hv, htenant⟩ := mem_restrict.mp hv
  exact hn ((tenantId_of_owner h hv howner).symm.trans (by simpa using htenant))

theorem not_owned_keys (h : InsertInvariant svc s) (hn : (svc.calls n).tenantId ≠ tenantId) :
    ∀ v ∈ restrict (fun c => c.tenantId == tenantId) s.idempotencyKeys, v.owner ≠ some n := by
  intro v hv howner
  obtain ⟨hv, htenant⟩ := mem_restrict.mp hv
  exact hn ((tenantId_of_keyOwner h hv howner).symm.trans (by simpa using htenant))

theorem view_move_other (h : InsertInvariant svc s) {s' : InsertState}
    (hmove : InsertMove svc s (some n) s') (hn : (svc.calls n).tenantId ≠ tenantId) :
    svc.view tenantId s' = svc.view tenantId s := by
  cases hmove with
  | stutter => rfl
  | pass _ _ => exact view_setPhase_other hn _
  | replay _ _ v _ _ _ _ _ => exact view_setPhase_other hn _
  | refuse _ _ answer _ => exact view_setPhase_other hn _
  | insert _ _ preview _ =>
      rw [view_setPhase_other hn]
      simp only [InsertService.view, InsertState.mk.injEq, true_and, and_true]
      exact restrict_append_other (by simpa [InsertService.emissionRow] using hn)
  | skipStore _ response _ => exact view_setPhase_other hn _
  | store _ response _ row _ htenant _ _ =>
      rw [view_setPhase_other hn]
      simp only [InsertService.view, InsertState.mk.injEq, true_and]
      exact restrict_append_other (by simpa [htenant] using hn)
  | commit _ response _ =>
      rw [commitRequest, view_setPhase_other hn]
      simp only [InsertService.view, InsertState.mk.injEq, true_and, restrict_commitVersions]
      exact ⟨commitVersions_of_absent (not_owned_emissions h hn),
        commitVersions_of_absent (not_owned_keys h hn)⟩
  | abort _ _ =>
      rw [abortRequest, view_setPhase_other hn]
      simp only [InsertService.view, InsertState.mk.injEq, true_and, restrict_rollbackVersions]
      exact ⟨rollbackVersions_of_absent (not_owned_emissions h hn),
        rollbackVersions_of_absent (not_owned_keys h hn)⟩

end Skip

section Keep

variable {svc : InsertService} {tenantId : Uuid} {s : InsertState} {n : ℕ}

theorem view_phase (hn : (svc.calls n).tenantId = tenantId) :
    (svc.view tenantId s).phase n = s.phase n := by
  simp only [InsertService.view, if_pos hn]

theorem view_setPhase (hn : (svc.calls n).tenantId = tenantId) (phase : InsertPhase) :
    svc.view tenantId (s.setPhase n phase) = (svc.view tenantId s).setPhase n phase := by
  have hphases : (svc.view tenantId (s.setPhase n phase)).phase =
      ((svc.view tenantId s).setPhase n phase).phase := by
    funext m
    by_cases hm : m = n
    · subst hm
      rw [view_phase hn, InsertState.setPhase_self, InsertState.setPhase_self]
    · rw [InsertState.setPhase_of_ne _ hm]
      simp only [InsertService.view, s.setPhase_of_ne hm]
  simp only [InsertService.view, InsertState.setPhase, InsertState.mk.injEq, true_and, and_true]
    at hphases ⊢
  exact hphases

theorem lookup_view (key : String) :
    lookupIdempotency (svc.view tenantId s) key tenantId = lookupIdempotency s key tenantId := by
  unfold lookupIdempotency
  congr 1
  simp only [InsertService.view, restrict, List.find?_filter]
  congr 1
  funext v
  by_cases hv : v.row.tenantId = tenantId
  · simp [hv]
  · simp [hv]

/-- A row written for the tenant clashes only with the tenant's rows. -/
theorem tenantId_of_clash (h : InsertInvariant svc s) {v : Version ℕ EmissionRow}
    (hv : v ∈ s.emissions) {preview : CalcPreviewResponse} {now : Timestamp}
    (hclash : v.row.Clash (svc.emissionRow n preview now)) :
    v.row.tenantId = (svc.calls n).tenantId := by
  rcases hclash with hid | ⟨-, -, hkey⟩ | ⟨-, -, htenant, -⟩
  · obtain ⟨preview', now', hrow⟩ := h.row_of_emissionId hv hid
    rw [hrow]
    rfl
  · exact congrArg NaturalKey.tenantId hkey
  · exact htenant

theorem view_checkIdempotency (hn : (svc.calls n).tenantId = tenantId) :
    svc.view tenantId (checkIdempotency svc n s) = checkIdempotency svc n (svc.view tenantId s) := by
  unfold checkIdempotency
  cases (svc.calls n).idempotencyKey with
  | none => exact view_setPhase hn _
  | some key =>
      simp only [hn, lookup_view]
      cases lookupIdempotency s key tenantId with
      | none => exact view_setPhase hn _
      | some hit =>
          dsimp only
          split_ifs
          · exact view_setPhase hn _
          · exact view_setPhase hn _

theorem view_computeAndInsert (h : InsertInvariant svc s) (hn : (svc.calls n).tenantId = tenantId) :
    svc.view tenantId (computeAndInsert svc n s) = computeAndInsert svc n (svc.view tenantId s) := by
  unfold computeAndInsert
  cases svc.computePreview (svc.calls n).tenantId (svc.calls n).body with
  | error detail => exact view_setPhase hn _
  | ok preview =>
      have hrestrict : (insertVersion EmissionRow.Clash n (svc.emissionRow n preview s.clock)
          s.emissions).map (restrict fun r => r.tenantId == tenantId) =
          insertVersion EmissionRow.Clash n (svc.emissionRow n preview s.clock)
            (svc.view tenantId s).emissions := by
        refine restrict_insertVersion (by simpa [InsertService.emissionRow] using hn) ?_
        intro v hv hclash
        simpa [hn] using tenantId_of_clash h hv hclash
      have hclock : (svc.view tenantId s).clock = s.clock := rfl
      simp only [hclock, ← hrestrict]
      cases insertVersion EmissionRow.Clash n (svc.emissionRow n preview s.clock) s.emissions with
      | conflict =>
          simp only [Insertion.map, ite_self]
          exact view_setPhase hn _
      | blocked =>
          simp only [Insertion.map]
          split_ifs
          · rfl
          · exact view_setPhase hn _
      | inserted emissions =>
          simp only [Insertion.map]
          split_ifs
          · rw [view_setPhase hn]
            rfl
          · exact view_setPhase hn _
          · exact view_setPhase hn _

theorem view_storeResponse (hn : (svc.calls n).tenantId = tenantId) (response : CalcInsertResponse)
    (hkeys : ∀ key, (svc.calls n).idempotencyKey = some key →
      ∀ v ∈ s.idempotencyKeys, v.row.key = key → v.row.tenantId = tenantId) :
    svc.view tenantId (storeResponse svc n s response) =
      storeResponse svc n (svc.view tenantId s) response := by
  unfold storeResponse
  cases hkey : (svc.calls n).idempotencyKey with
  | none => exact view_setPhase hn _
  | some key =>
      have hrestrict : (insertVersion IdempotencyRow.SameKey n ⟨key, (svc.calls n).tenantId,
          (svc.calls n).body, response, s.clock + idempotencyTtl⟩ s.idempotencyKeys).map
            (restrict fun c => c.tenantId == tenantId) =
          insertVersion IdempotencyRow.SameKey n ⟨key, (svc.calls n).tenantId,
            (svc.calls n).body, response, s.clock + idempotencyTtl⟩
              (svc.view tenantId s).idempotencyKeys := by
        refine restrict_insertVersion (by simpa using hn) ?_
        intro v hv hsame
        simpa using hkeys key hkey v hv hsame
      have hclock : (svc.view tenantId s).clock = s.clock := rfl
      simp only [hclock, ← hrestrict]
      cases insertVersion IdempotencyRow.SameKey n ⟨key, (svc.calls n).tenantId,
          (svc.calls n).body, response, s.clock + idempotencyTtl⟩ s.idempotencyKeys with
      | conflict => exact view_setPhase hn _
      | blocked => rfl
      | inserted rows =>
          simp only [Insertion.map]
          rw [view_setPhase hn]
          rfl

/-- A step of the tenant's own request acts on the view as on the state. -/
theorem view_step (h : InsertInvariant svc s) {e : InsertEvent} (hkey : KeyUnshared svc s e)
    (he : svc.concerns tenantId e = true) :
    svc.view tenantId (svc.step s e) = svc.step (svc.view tenantId s) e := by
  cases e with
  | tick seconds => rfl
  | check n =>
      have hn : (svc.calls n).tenantId = tenantId := of_decide_eq_true he
      simp only [InsertService.step, view_phase hn]
      split
      · exact view_checkIdempotency hn
      · rfl
  | insert n =>
      have hn : (svc.calls n).tenantId = tenantId := of_decide_eq_true he
      simp only [InsertService.step, view_phase hn]
      split
      · exact view_computeAndInsert h hn
      · rfl
  | store n =>
      have hn : (svc.calls n).tenantId = tenantId := of_decide_eq_true he
      simp only [InsertService.step, view_phase hn]
      split
      · exact view_storeResponse hn _ (hn ▸ hkey)
      · rfl
  | commit n =>
      have hn : (svc.calls n).tenantId = tenantId := of_decide_eq_true he
      simp only [InsertService.step, view_phase hn]
      split
      · rw [commitRequest, view_setPhase hn]
        simp only [InsertService.view, restrict_commitVersions]
        rfl
      · rfl
  | abort n =>
      have hn : (svc.calls n).tenantId = tenantId := of_decide_eq_true he
      simp only [InsertService.step, view_phase hn]
      split
      · rfl
      · rw [abortRequest, view_setPhase hn]
        simp only [InsertService.view, restrict_rollbackVersions]
        rfl

end Keep

section Runs

variable {svc : InsertService} {tenantId : Uuid} {s : InsertState}

/-- Steps of one tenant's requests put only its own keys into the cache. -/
theorem keys_of_concerned (hs : ∀ v ∈ s.idempotencyKeys, v.row.tenantId = tenantId)
    {request : Option ℕ} {s' : InsertState} (hmove : InsertMove svc s request s')
    (hrequest : ∀ n, request = some n → (svc.calls n).tenantId = tenantId) :
    ∀ v ∈ s'.idempotencyKeys, v.row.tenantId = tenantId := by
  cases hmove with
  | stutter => exact hs
  | tick seconds => exact hs
  | pass n _ => exact hs
  | replay n _ v _ _ _ _ _ => exact hs
  | refuse n _ answer _ => exact hs
  | insert n _ preview _ => exact hs
  | skipStore n response _ => exact hs
  | store n response _ row _ htenant _ _ =>
      intro v hv
      rcases List.mem_append.mp hv with hv | hv
      · exact hs v hv
      · rw [List.mem_singleton.mp hv]
        exact htenant.trans (hrequest n rfl)
  | commit n response _ =>
      intro v hv
      rcases mem_commitVersions.mp hv with ⟨hv, -⟩ | ⟨-, hold⟩
      · exact hs v hv
      · exact hs ⟨v.row, some n⟩ hold
  | abort n _ =>
      intro v hv
      exact hs v (mem_rollbackVersions.mp hv).1

theorem request_of_concerns {e : InsertEvent} (he : svc.concerns tenantId e = true) :
    ∀ n, e.request = some n → (svc.calls n).tenantId = tenantId := by
  intro n hn
  rw [InsertService.concerns, hn] at he
  exact of_decide_eq_true he

/-- A tenant alone never stores under a key of another tenant. -/
theorem along_concerned (tenantId : Uuid) (hs : ∀ v ∈ s.idempotencyKeys, v.row.tenantId = tenantId)
    (events : List InsertEvent) :
    Along svc.step (KeyUnshared svc) s (events.filter (svc.concerns tenantId)) := by
  refine along_of_forall (P := fun e => svc.concerns tenantId e = true) hs
    (fun e he => (List.mem_filter.mp he).2)
    (fun s e hs he => keys_of_concerned hs (move_step svc s e) (request_of_concerns he)) ?_
  intro s e hs he
  cases e with
  | store n =>
      intro key _ v hv _
      exact (hs v hv).trans (request_of_concerns he n rfl).symm
  | check n => trivial
  | insert n => trivial
  | commit n => trivial
  | abort n => trivial
  | tick seconds => trivial

theorem invariant_step (s : InsertState) (e : InsertEvent) (h : InsertInvariant svc s)
    (_ : KeyUnshared svc s e) : InsertInvariant svc (svc.step s e) :=
  h.move (move_step svc s e)

theorem view_run (tenantId : Uuid) (h : InsertInvariant svc s) {events : List InsertEvent}
    (hkeys : Along svc.step (KeyUnshared svc) s events) :
    svc.view tenantId (run svc.step s events) =
      run svc.step (svc.view tenantId s) (events.filter (svc.concerns tenantId)) := by
  refine hkeys.run_view h invariant_step (fun s e h _ he => ?_) fun s e h hkey he =>
    view_step h hkey he
  have hmove := move_step svc s e
  cases hrequest : e.request with
  | none => simp [InsertService.concerns, hrequest] at he
  | some n =>
      rw [hrequest] at hmove
      have hn : (svc.calls n).tenantId ≠ tenantId := by
        simpa [InsertService.concerns, hrequest] using he
      exact view_move_other h hmove hn

end Runs

/-- Every request stands where it would stand if only its own tenant had sent requests. -/
def TenantsIndependent (svc : InsertService) (s : InsertState) (events : List InsertEvent) : Prop :=
  ∀ n, (run svc.step s events).phase n =
    (run svc.step s (events.filter (svc.concerns (svc.calls n).tenantId))).phase n

/-- For every interleaving in which no step stores under a key of another tenant: requests with one
tenant, key and body commit one row at most and answer alike, and no tenant's outcome depends
on the others. -/
theorem calcInsert_idempotent (svc : InsertService) (t : EmissionsTable) (clock : Timestamp)
    (hfirst : ∀ r ∈ t.rows, r.id < svc.firstId) (events : List InsertEvent)
    (hkeys : Along svc.step (KeyUnshared svc) (.initial t clock) events) :
    CommitsOnce svc (run svc.step (.initial t clock) events) ∧
      AnswersAlike svc (run svc.step (.initial t clock) events) ∧
      TenantsIndependent svc (.initial t clock) events := by
  have hinitial := InsertInvariant.initial clock hfirst
  have hfinal := hkeys.run_invariant hinitial invariant_step
  refine ⟨commitsOnce_of_invariant hfinal, answersAlike_of_invariant hfinal, fun n => ?_⟩
  have hall := view_run (svc.calls n).tenantId hinitial hkeys
  have halone := view_run (svc.calls n).tenantId hinitial
    (along_concerned (svc.calls n).tenantId (by simp [InsertState.initial]) events)
  rw [List.filter_filter] at halone
  simp only [Bool.and_self] at halone
  have hviews := congrArg (fun s => s.phase n) (hall.trans halone.symm)
  simpa only [view_phase] using hviews

def gridPreview : CalcPreviewResponse where
  tco2e := 432 / 1000
  co2BiogenicTonne := none
  co2FossilTonne := none
  factorId := "LB_IT_GRID_ISPRA_2024"
  factorValue := 216 / 1000
  factorUnit := "kg CO2 / kWh"
  factorSource := "ISPRA"
  factorVersion := "2025"
  factorVintage := "2025"
  gwpSet := .ar6
  gwpValue := none
  methodology := .locationBased
  formulaHuman := "2000 kWh"
  unitConversionApplied := none
  warnings := []

def gridRequest : CalcInputRequest where
  scope := .two
  subScope := .lb
  anno := 2024
  codiceSito := some "IANO"
  quantita := 2000
  unita := "kWh"
  gwpSet := .ar6
  combustibile := none
  processMode := none
  strumentoMb := none
  sottocategoria := none
  metodo := none
  fonteDato := none
  qualitaDato := none
  note := none
  anno_range := by decide
  quantita_pos := by decide

/-- Request 0 comes from tenant 1, the others from tenant 2; all carry the same key. -/
def sharedKeyService : InsertService where
  catalog :=
    ⟨[publishedRow 1 "LB_IT_GRID_ISPRA_2024" "kg CO2 / kWh" .ar6 (216 / 1000),
      { publishedRow 2 "LB_IT_GRID_ISPRA_2024" "kg CO2 / kWh" .ar6 (216 / 1000) with
        tenantId := 2 }], by decide, by decide⟩
  computePreview := fun _ _ => .ok gridPreview
  calls := fun n => ⟨if n = 0 then 1 else 2, "editor", some "retry-1", gridRequest, .drawn n⟩
  firstId := 1
  rawEntryId := id

/-- A request of tenant 2 and its retry. -/
def retryEvents : List InsertEvent :=
  [.check 1, .insert 1, .store 1, .commit 1, .check 2, .insert 2]

def firstUse : List InsertEvent :=
  [.check 0, .insert 0, .store 0, .commit 0]

theorem calcInsert_idempotent_retry :
    CommitsOnce sharedKeyService (run sharedKeyService.step (.initial .empty 0) retryEvents) ∧
      AnswersAlike sharedKeyService (run sharedKeyService.step (.initial .empty 0) retryEvents) ∧
      TenantsIndependent sharedKeyService (.initial .empty 0) retryEvents :=
  calcInsert_idempotent sharedKeyService .empty 0 (by simp [EmissionsTable.empty]) retryEvents
    (along_concerned 2 (by simp [InsertState.initial]) retryEvents)

/-- When tenant 1 has used the key first, the response of tenant 2 is not stored and its retry
fails on the unique index; alone, the retry is answered with the stored response. -/
theorem retry_depends_on_other_tenant :
    ¬ TenantsIndependent sharedKeyService (.initial .empty 0)
      (firstUse ++ retryEvents) := by
  have hshared : (run sharedKeyService.step (.initial .empty 0)
      (firstUse ++ retryEvents)).phase 2 =
        .answered .integrityError := by
    decide +kernel
  have halone : (run sharedKeyService.step (.initial .empty 0)
      ((firstUse ++ retryEvents).filter
        (sharedKeyService.concerns 2))).phase 2 =
        .answered (.replayed (sharedKeyService.insertResponse 1 gridPreview 0)) := by
    decide +kernel
  intro h
  have hphase := h 2
  rw [hshared] at hphase
  rw [show (sharedKeyService.calls 2).tenantId = 2 from rfl, halone] at hphase
  cases hphase

end GhgTool
