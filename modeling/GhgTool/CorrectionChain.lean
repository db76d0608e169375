import GhgTool.CalcInsert
import GhgTool.Chains
import GhgTool.EmissionsRouter
import GhgTool.Runs

/-!
# Correction chains

Everything that writes to the ledger: rows created through the API, inserted by the auto-calc endpoint
or persisted by a calculation run, and corrections. A write appends open rows or lets one new row
replace an active one, so `superseded_by` always leads to a row stored later, of the same tenant.
-/

namespace GhgTool

open Relation (TransGen ReflTransGen)

inductive LedgerEvent
  | addRaw (scope1 : List RawScope1Row) (scope2 : List RawScope2Row) (scope3 : List RawScope3Row)
  | wait (seconds : ℕ)
  | createEmission (ctx : RequestContext) (body : EmissionCreate)
  | computeAndInsert (call : InsertCall) (preview : Except String CalcPreviewResponse)
      (rawEntryId : Uuid)
  | runCalc (spec : RunSpec)
  | runDualTrack (tenantId : Uuid) (anno : ℕ) (correlationId : CorrelationId)
  | correctEmission (ctx : RequestContext) (body : EmissionCorrectionCreate)
  | correctEmissionById (call : CorrectionCall)

/-- The service as one request sees it, with the next unused id for its row. -/
def Database.insertService (db : Database) (call : InsertCall)
    (preview : Except String CalcPreviewResponse) (rawEntryId : Uuid) : InsertService where
  catalog := db.catalog
  computePreview := fun _ _ => preview
  calls := fun _ => call
  firstId := db.emissions.freshId
  rawEntryId := fun _ => rawEntryId

def Database.computeAndInsert (db : Database) (call : InsertCall)
    (preview : Except String CalcPreviewResponse) (rawEntryId : Uuid) : Option EmissionsTable :=
  match preview with
  | .error _ => none
  | .ok p =>
    (db.emissions.insert db.catalog
      ((db.insertService call preview rawEntryId).emissionRow 0 p db.clock)).toOption

/-- The database after the transaction of an event, or nothing when it raises. -/
def LedgerEvent.result (db : Database) : LedgerEvent → Option Database
  | .addRaw scope1 scope2 scope3 =>
    some { db with
      scope1 := db.scope1 ++ scope1
      scope2 := db.scope2 ++ scope2
      scope3 := db.scope3 ++ scope3 }
  | .wait seconds => some { db with clock := db.clock + seconds }
  | .createEmission ctx body =>
    (GhgTool.createEmission db.catalog db.emissions ctx body).toOption.map fun t =>
      { db with emissions := t }
  | .computeAndInsert call preview rawEntryId =>
    (db.computeAndInsert call preview rawEntryId).map fun t => { db with emissions := t }
  | .runCalc spec => (runCalcAndPersist db spec).toOption
  | .runDualTrack tenantId anno correlationId =>
    (runDualTrackAndPersist db tenantId anno correlationId).toOption
  | .correctEmission ctx body =>
    (GhgTool.correctEmission db.catalog db.emissions ctx body).toOption.map fun r =>
      { db with emissions := r.2 }
  | .correctEmissionById call =>
    (GhgTool.correctEmissionById db.catalog db.emissions call).toOption.map fun r =>
      { db with emissions := r.2 }

def LedgerEvent.step (db : Database) (e : LedgerEvent) : Database :=
  (e.result db).getD db

/-! ## What an event does to the ledger -/

inductive LedgerChange (t t' : EmissionsTable) : Prop
  | appended (rows : List EmissionRow) (hrows : t'.rows = t.rows ++ rows)
      (hopen : ∀ r ∈ rows, r.supersededBy = none)
  | replaced (old new : EmissionRow) (h : Replaces t old new t')

theorem LedgerChange.refl (t : EmissionsTable) : LedgerChange t t :=
  .appended [] (by simp) (by simp)

variable {catalog : FactorCatalog} {t t' : EmissionsTable} {db db' : Database}

theorem ledgerChange_of_insert {r : EmissionRow} (h : t.insert catalog r = .ok t') :
    LedgerChange t t' := by
  obtain ⟨hrows, ⟨-, -, hsup, -⟩, -⟩ := (EmissionsTable.outcome_insert catalog t r).of_ok h
  exact .appended [r] hrows (by simpa using hsup)

theorem insertEmissions_eq_ok {tenantId : Uuid} {records : List EmissionRecord}
    (h : insertEmissions db tenantId t records = .ok t') :
    ∃ rows, t'.rows = t.rows ++ rows ∧ ∀ r ∈ rows, r.supersededBy = none := by
  refine ⟨_, (EmissionsTable.insertSpec db.catalog).stores_all h, ?_⟩
  have hfits := ((EmissionsTable.insertSpec db.catalog).succeeds_all t _).mp ⟨t', h⟩
  exact fun r hr => (hfits.1 r hr).2.2.1

theorem ledgerChange_of_persistEmissions {spec : RunSpec} {records : List EmissionRecord}
    (h : persistEmissions db spec records = .ok db') :
    LedgerChange db.emissions db'.emissions := by
  obtain ⟨emissions, hemissions, h⟩ := bind_eq_ok.mp h
  obtain ⟨runs, -, h⟩ := bind_eq_ok.mp h
  obtain ⟨_, -, h⟩ := bind_eq_ok.mp h
  cases h
  obtain ⟨rows, hrows, hopen⟩ := insertEmissions_eq_ok hemissions
  exact .appended rows hrows hopen

theorem ledgerChange_of_persistDualTrack {csrd ets : RunSpec}
    {csrdRecords etsRecords : List EmissionRecord}
    (h : persistDualTrackEmissions db csrd ets csrdRecords etsRecords = .ok db') :
    LedgerChange db.emissions db'.emissions := by
  obtain ⟨first, hfirst, h⟩ := bind_eq_ok.mp h
  obtain ⟨second, hsecond, h⟩ := bind_eq_ok.mp h
  obtain ⟨runs, -, h⟩ := bind_eq_ok.mp h
  obtain ⟨runs', -, h⟩ := bind_eq_ok.mp h
  obtain ⟨_, -, h⟩ := bind_eq_ok.mp h
  obtain ⟨_, -, h⟩ := bind_eq_ok.mp h
  cases h
  obtain ⟨rows, hrows, hopen⟩ := insertEmissions_eq_ok hfirst
  obtain ⟨rows', hrows', hopen'⟩ := insertEmissions_eq_ok hsecond
  refine .appended (rows ++ rows') (by rw [hrows', hrows, List.append_assoc]) ?_
  intro r hr
  rcases List.mem_append.mp hr with hr | hr
  · exact hopen r hr
  · exact hopen' r hr

theorem ledgerChange_of_createEmission {ctx : RequestContext} {body : EmissionCreate}
    (h : createEmission catalog t ctx body = .ok t') : LedgerChange t t' := by
  unfold createEmission at h
  split at h
  · cases h
  · split at h
    · cases h
    · next inserted hinsert =>
        cases h
        exact ledgerChange_of_insert hinsert

theorem ledgerChange_of_computeAndInsert {call : InsertCall}
    {preview : Except String CalcPreviewResponse} {rawEntryId : Uuid}
    (h : db.computeAndInsert call preview rawEntryId = some t') :
    LedgerChange db.emissions t' := by
  unfold Database.computeAndInsert at h
  split at h
  · cases h
  · exact ledgerChange_of_insert (toOption_eq_some_iff.mp h)

theorem ledgerChange_of_runCalc {spec : RunSpec} (h : runCalcAndPersist db spec = .ok db') :
    LedgerChange db.emissions db'.emissions := by
  unfold runCalcAndPersist at h
  split at h
  · cases h
  · split at h
    · cases h
    · next hpersist =>
        cases h
        exact ledgerChange_of_persistEmissions hpersist

theorem ledgerChange_of_runDualTrack {tenantId : Uuid} {anno : ℕ} {correlationId : CorrelationId}
    (h : runDualTrackAndPersist db tenantId anno correlationId = .ok db') :
    LedgerChange db.emissions db'.emissions := by
  unfold runDualTrackAndPersist at h
  dsimp only at h
  split at h
  · cases h
  · split at h
    · cases h
    · split at h
      · cases h
      · next hpersist =>
          cases h
          exact ledgerChange_of_persistDualTrack hpersist

theorem ledgerChange_of_result {e : LedgerEvent} (h : e.result db = some db') :
    LedgerChange db.emissions db'.emissions := by
  cases e with
  | addRaw scope1 scope2 scope3 =>
      cases h
      exact .refl _
  | wait seconds =>
      cases h
      exact .refl _
  | createEmission ctx body =>
      obtain ⟨t, ht, rfl⟩ := Option.map_eq_some_iff.mp h
      exact ledgerChange_of_createEmission (toOption_eq_some_iff.mp ht)
  | computeAndInsert call preview rawEntryId =>
      obtain ⟨t, ht, rfl⟩ := Option.map_eq_some_iff.mp h
      exact ledgerChange_of_computeAndInsert ht
  | runCalc spec => exact ledgerChange_of_runCalc (toOption_eq_some_iff.mp h)
  | runDualTrack tenantId anno correlationId =>
      exact ledgerChange_of_runDualTrack (toOption_eq_some_iff.mp h)
  | correctEmission ctx body =>
      obtain ⟨⟨response, t⟩, hok, rfl⟩ := Option.map_eq_some_iff.mp h
      obtain ⟨old, new, hreplaces, -⟩ := correctEmission_eq_ok (toOption_eq_some_iff.mp hok)
      exact .replaced old new hreplaces
  | correctEmissionById call =>
      obtain ⟨⟨response, t⟩, hok, rfl⟩ := Option.map_eq_some_iff.mp h
      obtain ⟨old, new, hreplaces, -⟩ := correctEmissionById_eq_ok (toOption_eq_some_iff.mp hok)
      exact .replaced old new hreplaces

theorem ledgerChange_step (db : Database) (e : LedgerEvent) :
    LedgerChange db.emissions (e.step db).emissions := by
  unfold LedgerEvent.step
  cases h : e.result db with
  | none => exact .refl _
  | some db' => exact ledgerChange_of_result h

/-! ## The shape of the chains -/

/-- `s` supersedes `r`. -/
def Next (t : EmissionsTable) (r s : EmissionRow) : Prop :=
  r ∈ t.rows ∧ s ∈ t.rows ∧ r.supersededBy = some s.id

structure ChainShape (t : EmissionsTable) : Prop where
  open_iff : ∀ r ∈ t.rows, r.validTo = none ↔ r.supersededBy = none
  single : ∀ r s s', Next t r s → Next t r s' → s = s'
  acyclic : ∀ r, ¬ TransGen (Next t) r r
  ends : ∀ r ∈ t.rows, ∃ s ∈ t.rows, s.Active ∧ ReflTransGen (Next t) r s
  tenant : ∀ r s, Next t r s → s.tenantId = r.tenantId

/-- The invariant: a superseded row points to a row stored after it, of its own tenant. -/
def Forward (t : EmissionsTable) : Prop :=
  ∀ r ∈ t.rows, ∀ i ∈ r.supersededBy, ∃ s ∈ t.rows, s.id = i ∧ r.id < s.id ∧
    s.tenantId = r.tenantId

theorem Forward.of_next (h : Forward t) {r s : EmissionRow} (hnext : Next t r s) :
    r.id < s.id ∧ s.tenantId = r.tenantId := by
  obtain ⟨hr, hs, hsup⟩ := hnext
  obtain ⟨s', hs', hid, hlt, htenant⟩ := h r hr s.id hsup
  obtain rfl : s' = s := EmissionsTable.eq_of_id_eq hs' hs hid
  exact ⟨hlt, htenant⟩

theorem Forward.chainShape (h : Forward t) : ChainShape t where
  open_iff r hr := (t.checks r hr).2.2
  single r s s' hs hs' := by
    have hid : s.id = s'.id := Option.some.inj (hs.2.2.symm.trans hs'.2.2)
    exact EmissionsTable.eq_of_id_eq hs.2.1 hs'.2.1 hid
  acyclic := not_transGen_self EmissionRow.id fun _ _ hnext => (h.of_next hnext).1
  ends r hr := by
    refine exists_final EmissionRow.id (fun _ _ hnext => (h.of_next hnext).1) ?_ hr
    intro a ha
    cases hsup : a.supersededBy with
    | none => exact .inl ((t.checks a ha).2.2.mpr hsup)
    | some i =>
        obtain ⟨s, hs, rfl, -, -⟩ := h a ha i hsup
        exact .inr ⟨s, hs, ha, hs, hsup⟩
  tenant r s hnext := (h.of_next hnext).2

theorem Forward.appended (h : Forward t) {rows : List EmissionRow}
    (hrows : t'.rows = t.rows ++ rows) (hopen : ∀ r ∈ rows, r.supersededBy = none) :
    Forward t' := by
  intro r hr i hi
  rw [hrows] at hr
  rcases List.mem_append.mp hr with hr | hr
  · obtain ⟨s, hs, hrest⟩ := h r hr i hi
    exact ⟨s, by rw [hrows]; exact List.mem_append_left _ hs, hrest⟩
  · rw [hopen r hr] at hi
    cases hi

/-- A row that the closing of `old` leaves superseded was superseded before, or is `old`. -/
theorem closeIf_superseded {r old : EmissionRow} {newId i : Uuid} {reasonCode : ReasonCode}
    {now : Timestamp} (hi : (r.closeIf old.id newId reasonCode now).supersededBy = some i) :
    r.supersededBy = some i ∨ r.id = old.id ∧ i = newId := by
  unfold EmissionRow.closeIf at hi
  split_ifs at hi with hclose
  · exact .inr ⟨hclose.1, (Option.some.inj hi).symm⟩
  · exact .inl hi

theorem closeIf_tenantId {r : EmissionRow} {oldId newId : Uuid} {reasonCode : ReasonCode}
    {now : Timestamp} : (r.closeIf oldId newId reasonCode now).tenantId = r.tenantId := by
  unfold EmissionRow.closeIf
  split_ifs <;> rfl

theorem Forward.replaced (h : Forward t) {old new : EmissionRow} (hr : Replaces t old new t') :
    Forward t' := by
  obtain ⟨reasonCode, now, hrows⟩ := hr.rows
  intro r hmem i hi
  rw [hrows] at hmem
  obtain ⟨s, hs, rfl⟩ := List.mem_map.mp hmem
  rw [EmissionRow.closeIf_id, closeIf_tenantId]
  -- the new row is open, so whatever is superseded was stored before
  have hstored : s ∈ t.rows := by
    rcases List.mem_append.mp hs with hs | hs
    · exact hs
    · obtain rfl := List.mem_singleton.mp hs
      rcases closeIf_superseded hi with hsup | ⟨hid, -⟩
      · rw [hr.unsuperseded] at hsup
        cases hsup
      · exact absurd hid hr.id_ne
  rcases closeIf_superseded hi with hsup | ⟨hid, rfl⟩
  · obtain ⟨next, hnext, hnextId, hlt, htenant⟩ := h s hstored i hsup
    refine ⟨next.closeIf old.id new.id reasonCode now, ?_, ?_, ?_, ?_⟩
    · rw [hrows]
      exact List.mem_map_of_mem (List.mem_append_left _ hnext)
    · rw [EmissionRow.closeIf_id, hnextId]
    · rw [EmissionRow.closeIf_id]
      exact hlt
    · rw [closeIf_tenantId, htenant]
  · obtain rfl : s = old := EmissionsTable.eq_of_id_eq hstored hr.stored hid
    refine ⟨new, hr.mem, rfl, ?_, hr.tenant⟩
    rw [hr.fresh]
    exact EmissionsTable.lt_freshId hstored

theorem Forward.change (h : Forward t) (hchange : LedgerChange t t') : Forward t' := by
  cases hchange with
  | appended rows hrows hopen => exact h.appended hrows hopen
  | replaced old new hr => exact h.replaced hr

theorem forward_run (hdb : Forward db.emissions) (es : List LedgerEvent) :
    Forward (run LedgerEvent.step db es).emissions := by
  induction es generalizing db with
  | nil => exact hdb
  | cons e es ih => exact ih (hdb.change (ledgerChange_step db e))

/-! ## A closed row is never touched again -/

theorem LedgerChange.keeps_closed (hchange : LedgerChange t t') {r : EmissionRow}
    (hr : r ∈ t.rows) (hclosed : ¬ r.Active) : r ∈ t'.rows := by
  cases hchange with
  | appended rows hrows hopen =>
      rw [hrows]
      exact List.mem_append_left _ hr
  | replaced old new hreplaces =>
      obtain ⟨reasonCode, now, hrows⟩ := hreplaces.rows
      rw [hrows]
      refine List.mem_map.mpr ⟨r, List.mem_append_left _ hr, ?_⟩
      exact if_neg fun hclose => hclosed hclose.2

theorem closed_mem_run {r : EmissionRow} (hr : r ∈ db.emissions.rows) (hclosed : ¬ r.Active)
    (es : List LedgerEvent) : r ∈ (run LedgerEvent.step db es).emissions.rows := by
  induction es generalizing db with
  | nil => exact hr
  | cons e es ih => exact ih ((ledgerChange_step db e).keeps_closed hr hclosed)

/-- In every state of every run the chains are well shaped, and whatever is superseded there stays as
it is in every continuation, the only row with its id. -/
theorem correction_chains (db : Database) (hdb : ∀ r ∈ db.emissions.rows, r.supersededBy = none)
    (es : List LedgerEvent) :
    ChainShape (run LedgerEvent.step db es).emissions ∧
    ∀ r ∈ (run LedgerEvent.step db es).emissions.rows, r.supersededBy ≠ none →
      ∀ es', r ∈ (run LedgerEvent.step db (es ++ es')).emissions.rows ∧
        ∀ s ∈ (run LedgerEvent.step db (es ++ es')).emissions.rows, s.id = r.id → s = r := by
  have hforward : Forward db.emissions := by
    intro r hr i hi
    rw [hdb r hr] at hi
    cases hi
  refine ⟨(forward_run hforward es).chainShape, ?_⟩
  intro r hr hsup es'
  have hclosed : ¬ r.Active := fun hactive => hsup (((EmissionsTable.checks _ r hr).2.2).mp hactive)
  rw [run_append]
  have hmem := closed_mem_run hr hclosed es'
  exact ⟨hmem, fun s hs hid => EmissionsTable.eq_of_id_eq hs hmem hid⟩

/-- The ledger of one electricity row. -/
def gridDatabase : Database where
  catalog := gridCatalog
  scope1 := []
  scope2 := []
  scope3 := []
  emissions := gridTable
  calcRuns := []
  clock := 1

theorem correction_chains_grid :
    (∀ r ∈ gridDatabase.emissions.rows, r.supersededBy = none) ∧
    (∃ r ∈ (run LedgerEvent.step gridDatabase
      [.correctEmission editorContext goodsForGrid]).emissions.rows, r.supersededBy = some 2) ∧
    ChainShape (run LedgerEvent.step gridDatabase
      [.correctEmission editorContext goodsForGrid]).emissions :=
  ⟨by decide, by decide +kernel, (correction_chains gridDatabase (by decide) _).1⟩

end GhgTool
