import GhgTool.Correction

/-!
# Creating and correcting emissions

`POST /emissions` and `POST /emissions/correction`. Both build the row from the whole body; the second
then closes the row named in the body, as `POST /emissions/{id}/correct` does. What a correction that
succeeds has done to the ledger is the same for both endpoints.
-/

namespace GhgTool

def allowedCodiceSito : List String :=
  ["IANO", "VIANO", "VIANO_GARGOLA", "CASALGRANDE", "FIORANO", "SASSUOLO", "FRASSINORO"]

structure EmissionCreate where
  scope : Scope
  subScope : SubScope
  codiceSito : Option String := none
  anno : ℕ
  tco2e : ℚ
  co2Tonne : Option ℚ := none
  ch4Tco2e : Option ℚ := none
  n2oTco2e : Option ℚ := none
  co2BiogenicTonne : Option ℚ := none
  co2FossilTonne : Option ℚ := none
  rawRowId : Option Uuid := none
  rawScope : Scope := .one
  factorId : Uuid
  factorVersion : String
  factorSource : String
  gwpSet : GwpSet
  methodology : Methodology
  regulatoryStream : RegulatoryStream := .csrdEsrsE1
  anno_range : 2020 ≤ anno ∧ anno ≤ 2099
  tco2e_nonneg : 0 ≤ tco2e
  gases_nonneg : ∀ gas ∈ [co2Tonne, ch4Tco2e, n2oTco2e, co2BiogenicTonne, co2FossilTonne],
    ∀ q ∈ gas, 0 ≤ q
  codiceSito_allowed : ∀ site ∈ codiceSito, site ∈ allowedCodiceSito
  subScope_allowed : subScope ∈ allowedSubScopes scope

structure EmissionCorrectionCreate where
  supersedesId : Uuid
  newRecord : EmissionCreate
  reasonCode : ReasonCode

/-- The caller, the correlation id of the request, the clock of the process and that of the
database. -/
structure RequestContext where
  tenantId : Uuid
  sub : String
  correlationId : CorrelationId
  now : Timestamp
  dbNow : Timestamp

inductive EmissionsError
  /-- `raw_row_id` is optional in the schema and `NOT NULL` in the table. -/
  | rawRowIdNull
  | ledger (e : CorrectionError)
  deriving DecidableEq

structure EmissionCorrectionResponse where
  newId : Uuid
  supersedesId : Uuid
  correlationId : CorrelationId

section Rows

variable (ctx : RequestContext) (newId rawRowId : Uuid)

/-- The row built from a body; the two builders differ in its `reason_code`. -/
def rowOfBody (body : EmissionCreate) (reasonCode : Option ReasonCode) : EmissionRow where
  id := newId
  tenantId := ctx.tenantId
  correlationId := ctx.correlationId
  rawRowId := rawRowId
  rawScope := body.rawScope
  scope := body.scope
  subScope := body.subScope
  codiceSito := body.codiceSito
  anno := body.anno
  tco2e := body.tco2e
  co2Tonne := body.co2Tonne
  ch4Tco2e := body.ch4Tco2e
  n2oTco2e := body.n2oTco2e
  co2BiogenicTonne := body.co2BiogenicTonne
  co2FossilTonne := body.co2FossilTonne
  factorId := body.factorId
  factorVersion := body.factorVersion
  factorSource := body.factorSource
  gwpSet := body.gwpSet
  methodology := body.methodology
  regulatoryStream := body.regulatoryStream
  calcTimestamp := ctx.now
  createdBy := ctx.sub
  validFrom := ctx.now
  validTo := none
  supersededBy := none
  reasonCode := reasonCode

def buildNewEmissionRow (body : EmissionCreate) : EmissionRow :=
  rowOfBody ctx newId rawRowId body none

def buildCorrectionRow (body : EmissionCorrectionCreate) : EmissionRow :=
  rowOfBody ctx newId rawRowId body.newRecord (some body.reasonCode)

end Rows

def createEmission (catalog : FactorCatalog) (t : EmissionsTable) (ctx : RequestContext)
    (body : EmissionCreate) : Except EmissionsError EmissionsTable :=
  match body.rawRowId with
  | none => .error .rawRowIdNull
  | some rawRowId =>
    match t.insert catalog (buildNewEmissionRow ctx t.freshId rawRowId body) with
    | .error v => .error (.ledger (.violation v))
    | .ok inserted => .ok inserted

def correctEmission (catalog : FactorCatalog) (t : EmissionsTable) (ctx : RequestContext)
    (body : EmissionCorrectionCreate) :
    Except EmissionsError (EmissionCorrectionResponse × EmissionsTable) :=
  match t.getById body.supersedesId ctx.tenantId with
  | none => .error (.ledger .notFound)
  | some predecessor =>
    if predecessor.Active then
      match body.newRecord.rawRowId with
      | none => .error .rawRowIdNull
      | some rawRowId =>
        match t.insert catalog (buildCorrectionRow ctx t.freshId rawRowId body) with
        | .error v => .error (.ledger (.violation v))
        | .ok inserted =>
          match fnEmitCorrection inserted body.supersedesId t.freshId body.reasonCode
              ctx.dbNow with
          | .error e => .error (.ledger e)
          | .ok corrected =>
            .ok (⟨t.freshId, body.supersedesId, ctx.correlationId⟩, corrected)
    else .error (.ledger .notFound)

/-! ## What a correction does -/

/-- `new` has replaced the active row `old`: it was stored beside it, and `old` was closed. -/
structure Replaces (t : EmissionsTable) (old new : EmissionRow) (t' : EmissionsTable) : Prop where
  stored : old ∈ t.rows
  active : old.Active
  tenant : new.tenantId = old.tenantId
  fresh : new.id = t.freshId
  unsuperseded : new.supersededBy = none
  open' : new.validTo = none
  apart : ¬ old.Clash new
  rows : ∃ reasonCode now,
    t'.rows = (t.rows ++ [new]).map (EmissionRow.closeIf old.id new.id reasonCode now)

variable {catalog : FactorCatalog} {t t' : EmissionsTable}

theorem replaces_of_ok {old new : EmissionRow} {inserted : EmissionsTable} {reasonCode : ReasonCode}
    {now : Timestamp} (hold : old ∈ t.rows) (hactive : old.Active)
    (htenant : new.tenantId = old.tenantId) (hfresh : new.id = t.freshId)
    (hinsert : t.insert catalog new = .ok inserted)
    (hclose : fnEmitCorrection inserted old.id new.id reasonCode now = .ok t') :
    Replaces t old new t' := by
  obtain ⟨hrows, ⟨-, -, hsup, hopen, -⟩, hclash⟩ :=
    (EmissionsTable.outcome_insert catalog t new).of_ok hinsert
  have hold' : old ∈ inserted.rows := by
    rw [hrows]
    exact List.mem_append_left _ hold
  have hnew : ∃ s ∈ inserted.rows, s.id = new.id := by
    rw [hrows]
    exact ⟨new, by simp, rfl⟩
  obtain ⟨closed, hok, hclosed⟩ :=
    fnEmitCorrection_spec new.id reasonCode now hold' rfl hactive hnew
  obtain rfl : closed = t' := Except.ok.inj (hok.symm.trans hclose)
  exact ⟨hold, hactive, htenant, hfresh, hsup, hopen, hclash old hold,
    ⟨reasonCode, now, by rw [hclosed, hrows]⟩⟩

theorem correctEmissionById_replaces {call : CorrectionCall}
    {response : EmissionCorrectionDetailResponse}
    (h : correctEmissionById catalog t call = .ok (response, t')) :
    ∃ old, t.getById call.emissionId call.tenantId = some old ∧
      Replaces t old (correctedRow old call t.freshId) t' ∧ old.id = response.supersededId ∧
        t.freshId = response.newId := by
  unfold correctEmissionById at h
  split at h
  · cases h
  · next old hget =>
      obtain ⟨hmem, hid, htenant⟩ := getById_eq_some_iff.mp hget
      split at h
      · next hactive =>
          split at h
          · cases h
          · next inserted hinsert =>
              split at h
              · cases h
              · next closed hclose =>
                  cases h
                  rw [← hid] at hclose
                  exact ⟨old, hget, replaces_of_ok hmem hactive rfl rfl hinsert hclose, hid, rfl⟩
      · cases h

theorem correctEmissionById_eq_ok {call : CorrectionCall}
    {response : EmissionCorrectionDetailResponse}
    (h : correctEmissionById catalog t call = .ok (response, t')) :
    ∃ old new, Replaces t old new t' ∧ old.id = response.supersededId ∧ new.id = response.newId := by
  obtain ⟨old, -, hreplaces, hold, hnew⟩ := correctEmissionById_replaces h
  exact ⟨old, _, hreplaces, hold, hnew⟩

theorem correctEmission_replaces {ctx : RequestContext} {body : EmissionCorrectionCreate}
    {response : EmissionCorrectionResponse}
    (h : correctEmission catalog t ctx body = .ok (response, t')) :
    ∃ old rawRowId, Replaces t old (buildCorrectionRow ctx t.freshId rawRowId body) t' ∧
      old.id = response.supersedesId ∧ t.freshId = response.newId := by
  unfold correctEmission at h
  split at h
  · cases h
  · next old hget =>
      obtain ⟨hmem, hid, htenant⟩ := getById_eq_some_iff.mp hget
      split at h
      · next hactive =>
          split at h
          · cases h
          · next rawRowId _ =>
              split at h
              · cases h
              · next inserted hinsert =>
                  split at h
                  · cases h
                  · next closed hclose =>
                      cases h
                      rw [← hid] at hclose
                      exact ⟨old, rawRowId,
                        replaces_of_ok hmem hactive htenant.symm rfl hinsert hclose, hid, rfl⟩
      · cases h

theorem correctEmission_eq_ok {ctx : RequestContext} {body : EmissionCorrectionCreate}
    {response : EmissionCorrectionResponse}
    (h : correctEmission catalog t ctx body = .ok (response, t')) :
    ∃ old new, Replaces t old new t' ∧ old.id = response.supersedesId ∧ new.id = response.newId := by
  obtain ⟨old, rawRowId, hreplaces, hold, hnew⟩ := correctEmission_replaces h
  exact ⟨old, _, hreplaces, hold, hnew⟩

namespace Replaces

variable {old new : EmissionRow}

theorem id_ne (h : Replaces t old new t') : new.id ≠ old.id := by
  rw [h.fresh]
  exact (Nat.ne_of_lt (EmissionsTable.lt_freshId h.stored)).symm

theorem exists_closed (h : Replaces t old new t') :
    ∃ reasonCode now, old.close new.id reasonCode now ∈ t'.rows := by
  obtain ⟨reasonCode, now, hrows⟩ := h.rows
  refine ⟨reasonCode, now, ?_⟩
  rw [hrows]
  refine List.mem_map.mpr ⟨old, List.mem_append_left _ h.stored, ?_⟩
  exact if_pos ⟨rfl, h.active⟩

theorem mem (h : Replaces t old new t') : new ∈ t'.rows := by
  obtain ⟨reasonCode, now, hrows⟩ := h.rows
  rw [hrows]
  refine List.mem_map.mpr ⟨new, by simp, ?_⟩
  exact if_neg fun hclosed => h.id_ne hclosed.1

end Replaces

/-! ## Like with like -/

/-- The columns that a correction must not change. -/
def SameIdentity (r s : EmissionRow) : Prop :=
  r.tenantId = s.tenantId ∧ r.scope = s.scope ∧ r.subScope = s.subScope ∧
    r.codiceSito = s.codiceSito ∧ r.anno = s.anno ∧ r.regulatoryStream = s.regulatoryStream ∧
    r.gwpSet = s.gwpSet

instance (r s : EmissionRow) : Decidable (SameIdentity r s) :=
  inferInstanceAs (Decidable (_ ∧ _ ∧ _ ∧ _ ∧ _ ∧ _ ∧ _))

theorem SameIdentity.naturalKey {r s : EmissionRow} (h : SameIdentity r s) :
    r.naturalKey = s.naturalKey := by
  obtain ⟨htenant, hscope, hsub, hsite, hanno, hstream, hgwp⟩ := h
  simp only [EmissionRow.naturalKey, htenant, hscope, hsub, hsite, hanno, hstream, hgwp]

/-- The row `newId` supersedes the row `oldId` and is not of its identity. -/
def ChangesIdentity (t : EmissionsTable) (oldId newId : Uuid) : Prop :=
  ∃ old ∈ t.rows, ∃ new ∈ t.rows, old.id = oldId ∧ new.id = newId ∧
    old.supersededBy = some newId ∧ ¬ SameIdentity old new

/-- Two active rows of one identity cannot stand beside each other, so the row that was stored
beside its predecessor has another. -/
theorem Replaces.changesIdentity {old new : EmissionRow} (h : Replaces t old new t') :
    ChangesIdentity t' old.id new.id := by
  obtain ⟨reasonCode, now, hclosed⟩ := h.exists_closed
  refine ⟨_, hclosed, new, h.mem, rfl, rfl, rfl, fun hsame => ?_⟩
  have hkey : old.naturalKey = new.naturalKey := SameIdentity.naturalKey hsame
  exact h.apart (.inr (.inl ⟨h.active, h.open', hkey⟩))

/-- No correction that succeeds replaces like with like, on either endpoint. -/
theorem correction_changes_identity (catalog : FactorCatalog) (t t' : EmissionsTable) :
    (∀ ctx body response, correctEmission catalog t ctx body = .ok (response, t') →
      ChangesIdentity t' response.supersedesId response.newId) ∧
    ∀ call response, correctEmissionById catalog t call = .ok (response, t') →
      ChangesIdentity t' response.supersededId response.newId := by
  constructor
  · intro ctx body response hok
    obtain ⟨old, new, hreplaces, hold, hnew⟩ := correctEmission_eq_ok hok
    rw [← hold, ← hnew]
    exact hreplaces.changesIdentity
  · intro call response hok
    obtain ⟨old, new, hreplaces, hold, hnew⟩ := correctEmissionById_eq_ok hok
    rw [← hold, ← hnew]
    exact hreplaces.changesIdentity

/-- A year's purchased goods, given as the correction of a site's electricity. -/
def purchasedGoods : EmissionCreate where
  scope := .three
  subScope := .cat1
  anno := 2025
  tco2e := 15
  rawRowId := some 1
  factorId := 1
  factorVersion := "v3.10"
  factorSource := "ecoinvent"
  gwpSet := .ar6
  methodology := .massBased
  anno_range := anno_2025
  tco2e_nonneg := by decide
  gases_nonneg := by simp
  codiceSito_allowed := by simp
  subScope_allowed := by decide

def goodsForGrid : EmissionCorrectionCreate := ⟨1, purchasedGoods, .dataError⟩

def editorContext : RequestContext := ⟨1, "editor", .drawn 2, 1, 1⟩

theorem goodsForGrid_succeeds :
    (correctEmission gridCatalog gridTable editorContext goodsForGrid).toBool = true := by
  decide +kernel

theorem correction_changes_identity_goods :
    ∃ response t', correctEmission gridCatalog gridTable editorContext goodsForGrid =
        .ok (response, t') ∧ ChangesIdentity t' response.supersedesId response.newId := by
  obtain ⟨⟨response, t'⟩, hok⟩ := exists_ok_of_toBool goodsForGrid_succeeds
  exact ⟨response, t', hok, (correction_changes_identity _ _ t').1 _ _ response hok⟩

/-- The correction of the electricity row is accepted, and the row that supersedes it is of another
scope and another year. -/
theorem grid_superseded_by_goods :
    ¬ ∀ response t', correctEmission gridCatalog gridTable editorContext goodsForGrid =
        .ok (response, t') →
      ∀ old ∈ t'.rows, ∀ new ∈ t'.rows, old.id = response.supersedesId →
        new.id = response.newId → SameIdentity old new := by
  intro hlike
  obtain ⟨⟨response, t'⟩, hok⟩ := exists_ok_of_toBool goodsForGrid_succeeds
  obtain ⟨old, new, hreplaces, hold, hnew⟩ := correctEmission_eq_ok hok
  obtain ⟨closed, hclosed, replacing, hreplacing, hid, hid', -, hdiffer⟩ :=
    hreplaces.changesIdentity
  exact hdiffer (hlike response t' hok closed hclosed replacing hreplacing (hid.trans hold)
    (hid'.trans hnew))

end GhgTool
