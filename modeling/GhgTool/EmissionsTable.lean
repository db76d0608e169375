import Mathlib.Data.List.Nodup
import GhgTool.Table
import GhgTool.FactorCatalog

/-!
# The ledger table

`calc.emissions_consolidated` with the constraints of its migrations as fields, so that a state
violating one of them cannot be built: the row checks, the primary key, the partial unique index
`ux_emissions_active_natural_key` and the exclusion constraint `excl_emissions_temporal_overlap`.
The two differ: the index compares the coalesced site, the stream and the GWP set; the exclusion
drops stream and GWP set and, as SQL equality does, never matches a `NULL` site.
-/

namespace GhgTool

inductive ReasonCode
  | dataError | factorUpdate | boundaryChange | methodologyRevision | restatementOver5Pct
  deriving DecidableEq, Repr

/-- The constraints an insertion can violate, by the name the database reports. -/
inductive Violation
  | checkAnno | checkTco2e | chkActiveConsistency
  | emissionsPkey | uxEmissionsActiveNaturalKey | exclEmissionsTemporalOverlap
  | fkSupersededBy | fkFactor
  | calcRunsPkey | ckCalcRunsNoSelfDual | fkCalcRunsDualRunId | dualRunReciprocity
  deriving DecidableEq, Repr

/-- The constraints that belong to `calc.emissions_consolidated`. -/
def Violation.onEmissions : Violation → Bool
  | .calcRunsPkey | .ckCalcRunsNoSelfDual | .fkCalcRunsDualRunId | .dualRunReciprocity => false
  | _ => true

structure EmissionRow where
  id : Uuid
  tenantId : Uuid
  correlationId : CorrelationId
  rawRowId : Uuid
  rawScope : Scope
  scope : Scope
  subScope : SubScope
  codiceSito : Option String
  anno : ℕ
  tco2e : ℚ
  co2Tonne : Option ℚ
  ch4Tco2e : Option ℚ
  n2oTco2e : Option ℚ
  co2BiogenicTonne : Option ℚ
  co2FossilTonne : Option ℚ
  factorId : Uuid
  factorVersion : String
  factorSource : String
  gwpSet : GwpSet
  methodology : Methodology
  regulatoryStream : RegulatoryStream
  calcTimestamp : Timestamp
  createdBy : String
  validFrom : Timestamp
  validTo : Option Timestamp
  supersededBy : Option Uuid
  reasonCode : Option ReasonCode

/-- The columns of `ux_emissions_active_natural_key`. -/
structure NaturalKey where
  tenantId : Uuid
  scope : Scope
  subScope : SubScope
  codiceSito : String
  anno : ℕ
  regulatoryStream : RegulatoryStream
  gwpSet : GwpSet
  deriving DecidableEq

namespace EmissionRow

def Active (r : EmissionRow) : Prop := r.validTo = none

instance (r : EmissionRow) : Decidable r.Active := inferInstanceAs (Decidable (r.validTo = none))

def naturalKey (r : EmissionRow) : NaturalKey :=
  ⟨r.tenantId, r.scope, r.subScope, r.codiceSito.getD "", r.anno, r.regulatoryStream, r.gwpSet⟩

def NaturalKeyClash (r s : EmissionRow) : Prop :=
  r.Active ∧ s.Active ∧ r.naturalKey = s.naturalKey

/-- `t` lies in `tstzrange(valid_from, COALESCE(valid_to, 'infinity'))`. -/
def Covers (r : EmissionRow) (t : Timestamp) : Prop :=
  r.validFrom ≤ t ∧ ∀ e ∈ r.validTo, t < e

/-- Two ranges overlap when the later of their starts lies in both. -/
def Overlaps (r s : EmissionRow) : Prop :=
  r.Covers (max r.validFrom s.validFrom) ∧ s.Covers (max r.validFrom s.validFrom)

def TemporalClash (r s : EmissionRow) : Prop :=
  r.supersededBy = none ∧ s.supersededBy = none ∧ r.tenantId = s.tenantId ∧
    r.codiceSito.isSome ∧ r.codiceSito = s.codiceSito ∧ r.scope = s.scope ∧
    r.subScope = s.subScope ∧ r.anno = s.anno ∧ r.Overlaps s

def Checks (r : EmissionRow) : Prop :=
  (2020 ≤ r.anno ∧ r.anno ≤ 2099) ∧ 0 ≤ r.tco2e ∧ (r.validTo = none ↔ r.supersededBy = none)

instance (r s : EmissionRow) : Decidable (r.NaturalKeyClash s) :=
  inferInstanceAs (Decidable (r.Active ∧ s.Active ∧ r.naturalKey = s.naturalKey))

instance (r : EmissionRow) (t : Timestamp) : Decidable (r.Covers t) :=
  inferInstanceAs (Decidable (r.validFrom ≤ t ∧ ∀ e ∈ r.validTo, t < e))

instance (r s : EmissionRow) : Decidable (r.Overlaps s) :=
  inferInstanceAs (Decidable (_ ∧ _))

instance (r s : EmissionRow) : Decidable (r.TemporalClash s) :=
  inferInstanceAs (Decidable (_ ∧ _ ∧ _ ∧ _ ∧ _ ∧ _ ∧ _ ∧ _ ∧ _))

/-- Active rows always overlap: their ranges are unbounded. -/
theorem overlaps_of_active {r s : EmissionRow} (hr : r.Active) (hs : s.Active) :
    r.Overlaps s := by
  unfold Active at hr hs
  exact ⟨⟨le_max_left _ _, by simp [hr]⟩, ⟨le_max_right _ _, by simp [hs]⟩⟩

def Clash (r s : EmissionRow) : Prop :=
  r.id = s.id ∨ r.NaturalKeyClash s ∨ r.TemporalClash s

theorem Clash.symm {r s : EmissionRow} (h : r.Clash s) : s.Clash r := by
  rcases h with hid | ⟨hr, hs, hkey⟩ | ⟨hr, hs, htenant, hsome, hsite, hscope, hsub, hanno, hover⟩
  · exact .inl hid.symm
  · exact .inr (.inl ⟨hs, hr, hkey.symm⟩)
  · refine .inr (.inr ⟨hs, hr, htenant.symm, hsite ▸ hsome, hsite.symm, hscope.symm, hsub.symm,
      hanno.symm, ?_⟩)
    unfold Overlaps at hover ⊢
    rw [max_comm]
    exact ⟨hover.2, hover.1⟩

end EmissionRow

structure EmissionsTable where
  rows : List EmissionRow
  checks : ∀ r ∈ rows, r.Checks
  pk : rows.Pairwise fun r s => r.id ≠ s.id
  naturalKey : rows.Pairwise fun r s => ¬ r.NaturalKeyClash s
  exclusion : rows.Pairwise fun r s => ¬ r.TemporalClash s
  supersededFk : ∀ r ∈ rows, ∀ i ∈ r.supersededBy, ∃ s ∈ rows, s.id = i

namespace EmissionsTable

def empty : EmissionsTable :=
  ⟨[], by simp, by simp, by simp, by simp, by simp⟩

/-- One `INSERT`. No statement of the code inserts a row that is already superseded. -/
def insert (catalog : FactorCatalog) (t : EmissionsTable) (r : EmissionRow) :
    Except Violation EmissionsTable :=
  if hanno : 2020 ≤ r.anno ∧ r.anno ≤ 2099 then
    if htco2e : 0 ≤ r.tco2e then
      if hsup : r.supersededBy = none then
        if hact : r.validTo = none then
          if hpk : ∀ s ∈ t.rows, s.id ≠ r.id then
            if hnat : ∀ s ∈ t.rows, ¬ s.NaturalKeyClash r then
              if hexcl : ∀ s ∈ t.rows, ¬ s.TemporalClash r then
                if r.factorId ∈ catalog.ids then
                  .ok
                    { rows := t.rows ++ [r]
                      checks := by
                        intro s hs
                        rcases List.mem_append.mp hs with hs | hs
                        · exact t.checks s hs
                        · rw [List.mem_singleton.mp hs]
                          exact ⟨hanno, htco2e, by simp [hact, hsup]⟩
                      pk := List.pairwise_append.mpr ⟨t.pk, by simp, by simpa using hpk⟩
                      naturalKey := List.pairwise_append.mpr
                        ⟨t.naturalKey, by simp, by simpa using hnat⟩
                      exclusion := List.pairwise_append.mpr
                        ⟨t.exclusion, by simp, by simpa using hexcl⟩
                      supersededFk := by
                        intro s hs i hi
                        rcases List.mem_append.mp hs with hs | hs
                        · obtain ⟨x, hx, hid⟩ := t.supersededFk s hs i hi
                          exact ⟨x, List.mem_append_left _ hx, hid⟩
                        · rw [List.mem_singleton.mp hs, hsup] at hi
                          cases hi }
                else .error .fkFactor
              else .error .exclEmissionsTemporalOverlap
            else .error .uxEmissionsActiveNaturalKey
          else .error .emissionsPkey
        else .error .chkActiveConsistency
      else .error .fkSupersededBy
    else .error .checkTco2e
  else .error .checkAnno

/-- What a row needs of itself to be inserted. -/
def Insertable (catalog : FactorCatalog) (r : EmissionRow) : Prop :=
  (2020 ≤ r.anno ∧ r.anno ≤ 2099) ∧ 0 ≤ r.tco2e ∧ r.supersededBy = none ∧ r.validTo = none ∧
    r.factorId ∈ catalog.ids

theorem outcome_insert (catalog : FactorCatalog) (t : EmissionsTable) (r : EmissionRow) :
    Outcome (insert catalog t r)
      (fun t' => t'.rows = t.rows ++ [r] ∧ Insertable catalog r ∧ ∀ s ∈ t.rows, ¬ s.Clash r)
      fun v => v.onEmissions = true := by
  unfold insert
  refine .dite (fun hanno => ?_) fun _ => rfl
  refine .dite (fun htco2e => ?_) fun _ => rfl
  refine .dite (fun hsup => ?_) fun _ => rfl
  refine .dite (fun hact => ?_) fun _ => rfl
  refine .dite (fun hpk => ?_) fun _ => rfl
  refine .dite (fun hnat => ?_) fun _ => rfl
  refine .dite (fun hexcl => ?_) fun _ => rfl
  by_cases hfk : r.factorId ∈ catalog.ids
  · rw [if_pos hfk]
    refine ⟨rfl, ⟨hanno, htco2e, hsup, hact, hfk⟩, fun s hs hclash => ?_⟩
    rcases hclash with h | h | h
    · exact hpk s hs h
    · exact hnat s hs h
    · exact hexcl s hs h
  · rw [if_neg hfk]
    rfl

theorem insertSpec (catalog : FactorCatalog) :
    InsertSpec (insert catalog) rows (Insertable catalog) EmissionRow.Clash where
  stores := fun {t r} _ h => ((outcome_insert catalog t r).of_ok h).1
  succeeds := by
    intro t r
    constructor
    · rintro ⟨t', h⟩
      exact ((outcome_insert catalog t r).of_ok h).2
    · rintro ⟨⟨hanno, htco2e, hsup, hact, hfk⟩, hclash⟩
      have hpk : ∀ s ∈ t.rows, s.id ≠ r.id := fun s hs h => hclash s hs (.inl h)
      have hnat : ∀ s ∈ t.rows, ¬ s.NaturalKeyClash r := fun s hs h => hclash s hs (.inr (.inl h))
      have hexcl : ∀ s ∈ t.rows, ¬ s.TemporalClash r := fun s hs h => hclash s hs (.inr (.inr h))
      refine ⟨?_, ?_⟩
      rotate_left
      · unfold insert
        rw [dif_pos hanno, dif_pos htco2e, dif_pos hsup, dif_pos hact, dif_pos hpk, dif_pos hnat,
          dif_pos hexcl, if_pos hfk]

theorem onEmissions_of_insert {catalog : FactorCatalog} {t : EmissionsTable} {r : EmissionRow}
    {v : Violation} (h : insert catalog t r = .error v) : v.onEmissions = true :=
  (outcome_insert catalog t r).of_error h

/-- A new active row under the key of a stored active one is refused by the unique index. -/
theorem insert_eq_naturalKeyError {catalog : FactorCatalog} {t : EmissionsTable}
    {r s : EmissionRow} (hanno : 2020 ≤ r.anno ∧ r.anno ≤ 2099) (htco2e : 0 ≤ r.tco2e)
    (hsup : r.supersededBy = none) (hact : r.validTo = none) (hpk : ∀ s ∈ t.rows, s.id ≠ r.id)
    (hs : s ∈ t.rows) (hclash : s.NaturalKeyClash r) :
    insert catalog t r = .error .uxEmissionsActiveNaturalKey := by
  have hnat : ¬ ∀ s ∈ t.rows, ¬ s.NaturalKeyClash r := fun h => h s hs hclash
  unfold insert
  rw [dif_pos hanno, dif_pos htco2e, dif_pos hsup, dif_pos hact, dif_pos hpk, dif_neg hnat]

theorem eq_of_id_eq {t : EmissionsTable} {r s : EmissionRow} (hr : r ∈ t.rows) (hs : s ∈ t.rows)
    (hid : r.id = s.id) : r = s := by
  have hnodup : (t.rows.map EmissionRow.id).Nodup := List.pairwise_map.mpr t.pk
  exact List.inj_on_of_nodup_map hnodup hr hs hid

/-- An id no stored row has; the nil UUID is never drawn. -/
def freshId (t : EmissionsTable) : Uuid :=
  t.rows.foldr (fun r m => max (r.id + 1) m) 1

theorem lt_freshId {t : EmissionsTable} {r : EmissionRow} (h : r ∈ t.rows) : r.id < t.freshId :=
  lt_foldr_max EmissionRow.id h

end EmissionsTable

end GhgTool
