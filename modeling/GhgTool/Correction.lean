import GhgTool.LedgerInsert

/-!
# Corrections

`POST /emissions/{id}/correct` inserts the corrected row and then closes its predecessor through
`calc.fn_emit_correction`, all in one transaction. The unique index and the exclusion constraint
are checked at the insertion, while the predecessor is still active.
-/

namespace GhgTool

inductive CorrectionError
  | notFound | violation (v : Violation)
  | updateForbidden | onlyClosingFields | predecessorNotFound
  deriving DecidableEq

structure EmissionCorrectionRequest where
  reasonCode : ReasonCode
  tco2e : ℚ
  factorId : Uuid
  factorSource : String
  factorVersion : String
  gwpSet : GwpSet
  methodology : Methodology
  tco2e_nonneg : 0 ≤ tco2e

/-- One call: path, body and caller, the drawn correlation id, the clock of the process and the
clock of the database. -/
structure CorrectionCall where
  emissionId : Uuid
  body : EmissionCorrectionRequest
  tenantId : Uuid
  sub : String
  newCorrelationId : CorrelationId
  now : Timestamp
  dbNow : Timestamp

structure EmissionCorrectionDetailResponse where
  newId : Uuid
  supersededId : Uuid
  reasonCode : ReasonCode
  correlationId : CorrelationId

def EmissionsTable.getById (t : EmissionsTable) (emissionId tenantId : Uuid) :
    Option EmissionRow :=
  t.rows.find? fun r => r.id == emissionId && r.tenantId == tenantId

/-- The row the handler builds: identity and provenance of the predecessor, values of the body. -/
def correctedRow (predecessor : EmissionRow) (call : CorrectionCall) (newId : Uuid) :
    EmissionRow :=
  { predecessor with
    id := newId
    correlationId := call.newCorrelationId
    tco2e := call.body.tco2e
    factorId := call.body.factorId
    factorSource := call.body.factorSource
    factorVersion := call.body.factorVersion
    gwpSet := call.body.gwpSet
    methodology := call.body.methodology
    co2Tonne := none
    ch4Tco2e := none
    n2oTco2e := none
    co2BiogenicTonne := none
    co2FossilTonne := none
    calcTimestamp := call.now
    createdBy := call.sub
    validFrom := call.now
    validTo := none
    supersededBy := none
    reasonCode := some call.body.reasonCode }

/-- `ops.deny_emissions_mutation` for an `UPDATE`. -/
def denyEmissionsMutation (correctionInProgress : Bool) (old new : EmissionRow) :
    Except CorrectionError Unit :=
  if correctionInProgress = false then .error .updateForbidden
  else if new.id ≠ old.id ∨ new.tco2e ≠ old.tco2e ∨ new.factorId ≠ old.factorId ∨
      new.factorVersion ≠ old.factorVersion ∨ new.gwpSet ≠ old.gwpSet ∨
      new.methodology ≠ old.methodology ∨ new.scope ≠ old.scope ∨ new.anno ≠ old.anno ∨
      new.codiceSito ≠ old.codiceSito then
    .error .onlyClosingFields
  else .ok ()

namespace EmissionRow

def close (newId : Uuid) (reasonCode : ReasonCode) (now : Timestamp) (r : EmissionRow) :
    EmissionRow :=
  { r with validTo := some now, supersededBy := some newId, reasonCode := some reasonCode }

/-- The `UPDATE` of `fn_emit_correction`, row by row. -/
def closeIf (predecessorId newId : Uuid) (reasonCode : ReasonCode) (now : Timestamp)
    (r : EmissionRow) : EmissionRow :=
  if r.id = predecessorId ∧ r.Active then r.close newId reasonCode now else r

variable {predecessorId newId : Uuid} {reasonCode : ReasonCode} {now : Timestamp}

theorem closeIf_id (r : EmissionRow) :
    (r.closeIf predecessorId newId reasonCode now).id = r.id := by
  unfold closeIf
  split_ifs <;> rfl

theorem closeIf_of_active {r : EmissionRow}
    (h : (r.closeIf predecessorId newId reasonCode now).Active) :
    r.closeIf predecessorId newId reasonCode now = r := by
  unfold closeIf at h ⊢
  split_ifs at h ⊢
  · cases h
  · rfl

theorem closeIf_of_supersededBy {r : EmissionRow}
    (h : (r.closeIf predecessorId newId reasonCode now).supersededBy = none) :
    r.closeIf predecessorId newId reasonCode now = r := by
  unfold closeIf at h ⊢
  split_ifs at h ⊢
  · cases h
  · rfl

theorem checks_closeIf {r : EmissionRow} (h : r.Checks) :
    (r.closeIf predecessorId newId reasonCode now).Checks := by
  unfold closeIf
  split_ifs
  · exact ⟨h.1, h.2.1, by simp [close]⟩
  · exact h

theorem naturalKeyClash_of_closeIf {r s : EmissionRow}
    (h : (r.closeIf predecessorId newId reasonCode now).NaturalKeyClash
      (s.closeIf predecessorId newId reasonCode now)) : r.NaturalKeyClash s := by
  have hr := closeIf_of_active h.1
  have hs := closeIf_of_active h.2.1
  rwa [hr, hs] at h

theorem temporalClash_of_closeIf {r s : EmissionRow}
    (h : (r.closeIf predecessorId newId reasonCode now).TemporalClash
      (s.closeIf predecessorId newId reasonCode now)) : r.TemporalClash s := by
  have hr := closeIf_of_supersededBy h.1
  have hs := closeIf_of_supersededBy h.2.1
  rwa [hr, hs] at h

end EmissionRow

/-- `calc.fn_emit_correction`: the one permitted `UPDATE`, under the immutability trigger. -/
def fnEmitCorrection (t : EmissionsTable) (predecessorId newId : Uuid) (reasonCode : ReasonCode)
    (now : Timestamp) : Except CorrectionError EmissionsTable :=
  match t.rows.find? fun r => r.id == predecessorId && decide r.Active with
  | none => .error .predecessorNotFound
  | some old =>
    match denyEmissionsMutation true old (old.close newId reasonCode now) with
    | .error e => .error e
    | .ok () =>
      if hnew : ∃ s ∈ t.rows, s.id = newId then
        .ok
          { rows := t.rows.map (EmissionRow.closeIf predecessorId newId reasonCode now)
            checks := by
              intro x hx
              obtain ⟨r, hr, rfl⟩ := List.mem_map.mp hx
              exact EmissionRow.checks_closeIf (t.checks r hr)
            pk := List.pairwise_map.mpr (t.pk.imp fun h => by
              rwa [EmissionRow.closeIf_id, EmissionRow.closeIf_id])
            naturalKey := List.pairwise_map.mpr (t.naturalKey.imp fun h hclash =>
              h (EmissionRow.naturalKeyClash_of_closeIf hclash))
            exclusion := List.pairwise_map.mpr (t.exclusion.imp fun h hclash =>
              h (EmissionRow.temporalClash_of_closeIf hclash))
            supersededFk := by
              intro x hx i hi
              obtain ⟨r, hr, rfl⟩ := List.mem_map.mp hx
              have hstored : ∃ s ∈ t.rows, s.id = i := by
                unfold EmissionRow.closeIf at hi
                split_ifs at hi
                · obtain rfl : newId = i := by simpa [EmissionRow.close] using hi
                  exact hnew
                · exact t.supersededFk r hr i hi
              obtain ⟨s, hs, rfl⟩ := hstored
              exact ⟨_, List.mem_map_of_mem hs, EmissionRow.closeIf_id s⟩ }
      else .error (.violation .fkSupersededBy)

/-- The statements of the handler, up to the first that fails. -/
def correctEmissionById (catalog : FactorCatalog) (t : EmissionsTable) (call : CorrectionCall) :
    Except CorrectionError (EmissionCorrectionDetailResponse × EmissionsTable) :=
  match t.getById call.emissionId call.tenantId with
  | none => .error .notFound
  | some predecessor =>
    if predecessor.Active then
      match t.insert catalog (correctedRow predecessor call t.freshId) with
      | .error v => .error (.violation v)
      | .ok inserted =>
        match fnEmitCorrection inserted call.emissionId t.freshId call.body.reasonCode
            call.dbNow with
        | .error e => .error e
        | .ok corrected =>
          .ok (⟨t.freshId, call.emissionId, call.body.reasonCode, call.newCorrelationId⟩, corrected)
    else .error .notFound

/-- The request in its transaction: an error rolls back. -/
def postCorrection (catalog : FactorCatalog) (t : EmissionsTable) (call : CorrectionCall) :
    Except CorrectionError EmissionCorrectionDetailResponse × EmissionsTable :=
  match correctEmissionById catalog t call with
  | .error e => (.error e, t)
  | .ok (response, corrected) => (.ok response, corrected)

variable {catalog : FactorCatalog} {t : EmissionsTable} {call : CorrectionCall}

theorem getById_eq_some_iff {emissionId tenantId : Uuid} {row : EmissionRow} :
    t.getById emissionId tenantId = some row ↔
      row ∈ t.rows ∧ row.id = emissionId ∧ row.tenantId = tenantId := by
  constructor
  · intro h
    have hfound := List.find?_some h
    simp only [Bool.and_eq_true, beq_iff_eq] at hfound
    exact ⟨List.mem_of_find?_eq_some h, hfound⟩
  · rintro ⟨hmem, rfl, rfl⟩
    cases h : t.getById row.id row.tenantId with
    | none =>
        have hnone := List.find?_eq_none.mp h row hmem
        simp at hnone
    | some found =>
        have hfound := List.find?_some h
        simp only [Bool.and_eq_true, beq_iff_eq] at hfound
        rw [EmissionsTable.eq_of_id_eq (List.mem_of_find?_eq_some h) hmem hfound.1]

theorem denyEmissionsMutation_close (old : EmissionRow) (newId : Uuid) (reasonCode : ReasonCode)
    (now : Timestamp) :
    denyEmissionsMutation true old (old.close newId reasonCode now) = .ok () := by
  simp [denyEmissionsMutation, EmissionRow.close]

/-- An active predecessor is closed as soon as the row that replaces it is stored. -/
theorem fnEmitCorrection_spec {predecessorId : Uuid} (newId : Uuid) (reasonCode : ReasonCode)
    (now : Timestamp) {row : EmissionRow} (hrow : row ∈ t.rows) (hid : row.id = predecessorId)
    (hactive : row.Active) (hnew : ∃ s ∈ t.rows, s.id = newId) :
    ∃ t', fnEmitCorrection t predecessorId newId reasonCode now = .ok t' ∧
      t'.rows = t.rows.map (EmissionRow.closeIf predecessorId newId reasonCode now) := by
  unfold fnEmitCorrection
  split
  · rename_i hnone
    have := List.find?_eq_none.mp hnone row hrow
    simp [hid, hactive] at this
  · rw [denyEmissionsMutation_close]
    simp only [dif_pos hnew]
    exact ⟨_, rfl, rfl⟩

theorem naturalKey_correctedRow {row : EmissionRow} (newId : Uuid)
    (hgwp : call.body.gwpSet = row.gwpSet) :
    (correctedRow row call newId).naturalKey = row.naturalKey := by
  simp [EmissionRow.naturalKey, correctedRow, hgwp]

theorem insertable_correctedRow {row : EmissionRow} (hrow : row ∈ t.rows) {newId : Uuid} :
    EmissionsTable.Insertable catalog (correctedRow row call newId) ↔
      call.body.factorId ∈ catalog.ids := by
  have hanno := (t.checks row hrow).1
  exact ⟨fun h => h.2.2.2.2, fun h => ⟨hanno, call.body.tco2e_nonneg, rfl, rfl, h⟩⟩

theorem clash_correctedRow {row s : EmissionRow} (hs : s ∈ t.rows) :
    s.Clash (correctedRow row call t.freshId) ↔
      s.Active ∧ s.SharesKey (correctedRow row call t.freshId) := by
  have hid : s.id ≠ (correctedRow row call t.freshId).id :=
    Nat.ne_of_lt (EmissionsTable.lt_freshId hs)
  exact EmissionRow.clash_iff hid (t.checks s hs) rfl rfl

/-- Exactly which corrections commit: those of corporate rows that change the GWP set to one
under which no active row exists. A row with a site is excluded by its own predecessor. -/
theorem correctEmissionById_succeeds_iff {row : EmissionRow} (hrow : row ∈ t.rows)
    (hactive : row.Active) (htenant : row.tenantId = call.tenantId)
    (hid : row.id = call.emissionId) :
    (∃ result, correctEmissionById catalog t call = .ok result) ↔
      call.body.factorId ∈ catalog.ids ∧ row.codiceSito = none ∧
        ∀ s ∈ t.rows, s.Active →
          s.naturalKey ≠ { row.naturalKey with gwpSet := call.body.gwpSet } := by
  have hget : t.getById call.emissionId call.tenantId = some row :=
    getById_eq_some_iff.mpr ⟨hrow, hid, htenant⟩
  have hkey : (correctedRow row call t.freshId).naturalKey =
      { row.naturalKey with gwpSet := call.body.gwpSet } := rfl
  have hinsert : (∃ result, correctEmissionById catalog t call = .ok result) ↔
      ∃ t', t.insert catalog (correctedRow row call t.freshId) = .ok t' := by
    unfold correctEmissionById
    simp only [hget, if_pos hactive]
    cases hins : t.insert catalog (correctedRow row call t.freshId) with
    | error v => simp
    | ok t' =>
        have hrows := (EmissionsTable.insertSpec catalog).stores hins
        have hold : row ∈ t'.rows := by
          rw [hrows]
          exact List.mem_append_left _ hrow
        have hnew : correctedRow row call t.freshId ∈ t'.rows := by
          rw [hrows]
          simp
        obtain ⟨t'', hclose, -⟩ := fnEmitCorrection_spec (t := t') t.freshId
          call.body.reasonCode call.dbNow hold hid hactive ⟨_, hnew, rfl⟩
        simp [hclose]
  rw [hinsert, (EmissionsTable.insertSpec catalog).succeeds, insertable_correctedRow hrow]
  refine and_congr_right fun _ => ?_
  constructor
  · intro hclash
    refine ⟨?_, fun s hs hs' heq => hclash s hs ((clash_correctedRow hs).mpr ⟨hs', .inl heq⟩)⟩
    by_contra hsite
    refine hclash row hrow ((clash_correctedRow hrow).mpr ⟨hactive, .inr ?_⟩)
    exact ⟨Option.isSome_iff_ne_none.mpr hsite, rfl, rfl, rfl, rfl, rfl⟩
  · rintro ⟨hcorporate, hfree⟩ s hs hclash
    obtain ⟨hs', heq | hsite⟩ := (clash_correctedRow hs).mp hclash
    · exact hfree s hs hs' heq
    · have hnone : s.codiceSito = none := hsite.2.2.1.trans hcorporate
      exact absurd hsite.1 (by simp [hnone])

/-- The correction of `row` has taken effect: the new row alone is active under the natural key,
and `row` is closed and points to it. -/
def CorrectionApplied (row : EmissionRow) (newId : Uuid) (t : EmissionsTable) : Prop :=
  (∃ new, t.rows.filter (fun r => decide (r.Active ∧ r.naturalKey = row.naturalKey)) = [new] ∧
    new.id = newId) ∧
  ∃ closed ∈ t.rows, closed.id = row.id ∧ closed.supersededBy = some newId

theorem postCorrection_eq_naturalKeyError (catalog : FactorCatalog) {t : EmissionsTable}
    {call : CorrectionCall} {row : EmissionRow} (hrow : row ∈ t.rows)
    (hactive : row.Active) (htenant : row.tenantId = call.tenantId)
    (hid : row.id = call.emissionId) (hgwp : call.body.gwpSet = row.gwpSet) :
    postCorrection catalog t call = (.error (.violation .uxEmissionsActiveNaturalKey), t) := by
  have hget : t.getById call.emissionId call.tenantId = some row :=
    getById_eq_some_iff.mpr ⟨hrow, hid, htenant⟩
  have hins : t.insert catalog (correctedRow row call t.freshId) =
      .error .uxEmissionsActiveNaturalKey := by
    refine EmissionsTable.insert_eq_naturalKeyError (t.checks row hrow).1 call.body.tco2e_nonneg
      rfl rfl (fun s hs => Nat.ne_of_lt (EmissionsTable.lt_freshId hs)) hrow ?_
    exact ⟨hactive, rfl, (naturalKey_correctedRow _ hgwp).symm⟩
  simp only [postCorrection, correctEmissionById, hget, if_pos hactive, hins]

/-- No correction that keeps the GWP set of an active row ever commits: the new row always meets
its predecessor in the unique index. The table is left as it was. -/
theorem correction_never_commits (catalog : FactorCatalog) (t : EmissionsTable)
    (row : EmissionRow) (call : CorrectionCall) (hrow : row ∈ t.rows) (hactive : row.Active)
    (htenant : row.tenantId = call.tenantId) (hid : row.id = call.emissionId)
    (hgwp : call.body.gwpSet = row.gwpSet) :
    (¬ ∃ response corrected, postCorrection catalog t call = (.ok response, corrected) ∧
      CorrectionApplied row response.newId corrected) ∧
    postCorrection catalog t call = (.error (.violation .uxEmissionsActiveNaturalKey), t) := by
  have hpost := postCorrection_eq_naturalKeyError catalog hrow hactive htenant hid hgwp
  refine ⟨?_, hpost⟩
  rintro ⟨response, corrected, hok, -⟩
  rw [hpost] at hok
  cases hok

/-- An active location-based row of tenant 1. -/
def gridRow : EmissionRow where
  id := 1
  tenantId := 1
  correlationId := .drawn 1
  rawRowId := 1
  rawScope := .two
  scope := .two
  subScope := .lb
  codiceSito := some "IANO"
  anno := 2024
  tco2e := 10
  co2Tonne := none
  ch4Tco2e := none
  n2oTco2e := none
  co2BiogenicTonne := none
  co2FossilTonne := none
  factorId := 1
  factorVersion := "Rapporto_413_2025"
  factorSource := "ISPRA"
  gwpSet := .ar6
  methodology := .locationBased
  regulatoryStream := .csrdEsrsE1
  calcTimestamp := 0
  createdBy := "calc_service"
  validFrom := 0
  validTo := none
  supersededBy := none
  reasonCode := none

def gridTable : EmissionsTable where
  rows := [gridRow]
  checks := by simp [EmissionRow.Checks, gridRow]
  pk := by simp
  naturalKey := by simp
  exclusion := by simp
  supersededFk := by simp [gridRow]

def gridCatalog : FactorCatalog :=
  ⟨[publishedRow 1 "LB_IT_GRID_ISPRA_2024" "kg CO2 / kWh" .ar6 (216 / 1000)], by decide,
    by decide⟩

def gridCorrection : CorrectionCall where
  emissionId := 1
  body := ⟨.dataError, 12, 1, "ISPRA", "Rapporto_413_2025", .ar6, .locationBased, by decide⟩
  tenantId := 1
  sub := "editor"
  newCorrelationId := .drawn 2
  now := 1
  dbNow := 1

theorem correction_never_commits_grid :
    (¬ ∃ response corrected, postCorrection gridCatalog gridTable gridCorrection =
        (.ok response, corrected) ∧ CorrectionApplied gridRow response.newId corrected) ∧
      postCorrection gridCatalog gridTable gridCorrection =
        (.error (.violation .uxEmissionsActiveNaturalKey), gridTable) :=
  correction_never_commits gridCatalog gridTable gridRow gridCorrection (by simp [gridTable]) rfl
    rfl rfl rfl

/-- Correcting 10 tonnes to 12 under a published factor is refused. -/
theorem grid_correction_refused :
    gridRow ∈ gridTable.rows ∧ gridRow.Active ∧
      gridCorrection.body.gwpSet = gridRow.gwpSet ∧
      gridCorrection.body.factorId ∈ gridCatalog.ids ∧
      ¬ ∃ response corrected, postCorrection gridCatalog gridTable gridCorrection =
        (.ok response, corrected) ∧ CorrectionApplied gridRow response.newId corrected := by
  have hmem : gridRow ∈ gridTable.rows := by simp [gridTable]
  have hpost : postCorrection gridCatalog gridTable gridCorrection =
      (.error (.violation .uxEmissionsActiveNaturalKey), gridTable) :=
    postCorrection_eq_naturalKeyError gridCatalog hmem rfl rfl rfl rfl
  refine ⟨hmem, rfl, rfl, by decide, ?_⟩
  rintro ⟨response, corrected, hok, -⟩
  rw [hpost] at hok
  cases hok

end GhgTool
