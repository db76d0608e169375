import GhgTool.Correction
import GhgTool.SqlLogic

/-!
# The immutability trigger of the ledger

`ops.deny_emissions_mutation` as it is written: over rows in which any column may be `NULL`, with the
setting `app.correction_in_progress` as text. It compares eight columns with `<>` and the site with
`IS DISTINCT FROM`; its comment says that only the three closing columns may change. An update
passes unseen through every column it does not compare, and through a compared column that is
`NULL` on one side.
-/

namespace GhgTool

/-- The columns of `calc.emissions_consolidated`. -/
inductive LedgerColumn
  | id | tenantId | correlationId | rawRowId | rawScope | scope | subScope | codiceSito | anno
  | tco2e | co2Tonne | ch4Tco2e | n2oTco2e | co2BiogenicTonne | co2FossilTonne
  | factorId | factorVersion | factorSource | gwpSet | methodology | regulatoryStream
  | calcTimestamp | createdBy | validFrom | validTo | supersededBy | reasonCode | disclosureNotes
  deriving DecidableEq, Repr

inductive SqlValue
  | uuid (n : Uuid)
  | correlation (c : CorrelationId)
  | integer (n : ℤ)
  | text (s : String)
  | numeric (q : ℚ)
  | timestamp (t : Timestamp)
  deriving DecidableEq

/-- A row as a trigger sees it. -/
abbrev LedgerTuple := LedgerColumn → Option SqlValue

inductive TriggerOp
  | update
  | delete
  deriving DecidableEq, Repr

/-- The columns compared with `<>`, in the order of the trigger. -/
def comparedColumns : List LedgerColumn :=
  [.id, .tco2e, .factorId, .factorVersion, .gwpSet, .methodology, .scope, .anno]

/-- The columns a correction may set. -/
def closingColumns : List LedgerColumn :=
  [.validTo, .supersededBy, .reasonCode]

/-- The columns that may not change and that the trigger does not look at. -/
def unguardedColumns : List LedgerColumn :=
  [.tenantId, .correlationId, .rawRowId, .rawScope, .subScope, .co2Tonne, .ch4Tco2e, .n2oTco2e,
    .co2BiogenicTonne, .co2FossilTonne, .factorSource, .regulatoryStream, .calcTimestamp,
    .createdBy, .validFrom, .disclosureNotes]

def deleteForbidden : String := "DELETE forbidden on calc.emissions_consolidated"

def updateForbidden : String :=
  "UPDATE forbidden on calc.emissions_consolidated outside the correction stored procedure"

def onlyClosingFields : String :=
  "Correction may only set valid_to, superseded_by, reason_code"

/-- The condition of the last `IF`. -/
def differs (old new : LedgerTuple) : Option Bool :=
  (comparedColumns.map fun col => sqlNe (new col) (old col)).foldr sqlOr
    (isDistinctFrom (new .codiceSito) (old .codiceSito))

/-- `inCorrection` is `current_setting('app.correction_in_progress', true)`. -/
def denyMutation (op : TriggerOp) (inCorrection : Option String) (old new : LedgerTuple) :
    Except String Unit :=
  if op = .delete then .error deleteForbidden
  else if IsTrue (isDistinctFrom inCorrection (some "true")) then .error updateForbidden
  else if IsTrue (differs old new) then .error onlyClosingFields
  else .ok ()

def Passes (inCorrection : Option String) (old new : LedgerTuple) : Prop :=
  denyMutation .update inCorrection old new = .ok ()

instance (inCorrection : Option String) (old new : LedgerTuple) :
    Decidable (Passes inCorrection old new) :=
  match h : denyMutation .update inCorrection old new with
  | .ok () => isTrue h
  | .error _ => isFalse fun hok => by rw [Passes, h] at hok; cases hok

variable {inCorrection : Option String} {old new : LedgerTuple}

theorem not_isTrue_differs_iff :
    ¬ IsTrue (differs old new) ↔
      (∀ col ∈ comparedColumns, ¬ VisiblyDiffer (new col) (old col)) ∧
        new .codiceSito = old .codiceSito := by
  simp only [differs, isTrue_foldr_sqlOr, isTrue_isDistinctFrom, not_or, not_exists, not_and,
    ne_eq, not_not, List.forall_mem_map, isTrue_sqlNe]

theorem passes_iff :
    Passes inCorrection old new ↔
      inCorrection = some "true" ∧
        (∀ col ∈ comparedColumns, ¬ VisiblyDiffer (new col) (old col)) ∧
          new .codiceSito = old .codiceSito := by
  rw [← not_isTrue_differs_iff]
  unfold Passes denyMutation
  simp only [reduceCtorEq, if_false, isTrue_isDistinctFrom]
  by_cases hsetting : inCorrection = some "true"
  · by_cases hdiffers : IsTrue (differs old new)
    · simp [hsetting, hdiffers]
    · simp [hsetting, hdiffers]
  · simp [hsetting]

theorem column_cases (col : LedgerColumn) :
    col ∈ closingColumns ∨ col ∈ comparedColumns ∨ col = .codiceSito ∨ col ∈ unguardedColumns := by
  cases col <;> decide

theorem disjoint_closingColumns {col : LedgerColumn}
    (h : col ∈ comparedColumns ∨ col ∈ unguardedColumns) : col ∉ closingColumns := by
  revert h
  cases col <;> decide

/-- The update keeps every column it has no business with. -/
def KeepsRecord (old new : LedgerTuple) : Prop :=
  ∀ col, col ∉ closingColumns → new col = old col

/-- The trigger keeps the ledger immutable on exactly these updates: those it refuses, because the
setting is off or a compared column or the site visibly differs, and those that leave alone the
columns it does not look at and set no compared column from or to `NULL`. -/
theorem ledger_immutable_iff (inCorrection : Option String) (old new : LedgerTuple) :
    (Passes inCorrection old new → KeepsRecord old new) ↔
      inCorrection ≠ some "true" ∨
        (∃ col ∈ comparedColumns, VisiblyDiffer (new col) (old col)) ∨
        new .codiceSito ≠ old .codiceSito ∨
        (∀ col ∈ unguardedColumns, new col = old col) ∧
          ∀ col ∈ comparedColumns, (new col).isNone = (old col).isNone := by
  constructor
  · intro hkeeps
    by_contra hcond
    simp only [not_or, not_exists, not_and, ne_eq, not_not] at hcond
    obtain ⟨hsetting, hcompared, hsite, hrest⟩ := hcond
    have hrecord := hkeeps (passes_iff.mpr ⟨hsetting, hcompared, hsite⟩)
    apply hrest
    · intro col hcol
      exact hrecord col (disjoint_closingColumns (.inr hcol))
    · intro col hcol
      rw [hrecord col (disjoint_closingColumns (.inl hcol))]
  · intro hcond hpasses
    obtain ⟨hsetting, hcompared, hsite⟩ := passes_iff.mp hpasses
    rcases hcond with hoff | ⟨col, hcol, hdiffer⟩ | hmoved | ⟨hunguarded, hnull⟩
    · exact absurd hsetting hoff
    · exact absurd hdiffer (hcompared col hcol)
    · exact absurd hsite hmoved
    · intro col hclosing
      rcases column_cases col with hcol | hcol | rfl | hcol
      · exact absurd hcol hclosing
      · rcases not_visiblyDiffer_iff.mp (hcompared col hcol) with heq | hne
        · exact heq
        · exact absurd (hnull col hcol) hne
      · exact hsite
      · exact hunguarded col hcol

/-! ## Rows of the table

A stored row has no `NULL` in a compared column, so `<>` misses nothing there. -/

def Scope.number : Scope → ℤ
  | .one => 1
  | .two => 2
  | .three => 3

def GwpSet.label : GwpSet → String
  | .ar6 => "AR6"
  | .ar5 => "AR5"

def Methodology.label : Methodology → String
  | .activityBased => "activity-based"
  | .massBased => "mass-based"
  | .spendBased => "spend-based"
  | .distanceBased => "distance-based"
  | .stoichiometric => "stoichiometric"
  | .declaredZero => "declared-zero"
  | .locationBased => "location-based"
  | .marketBased => "market-based"

def RegulatoryStream.label : RegulatoryStream → String
  | .csrdEsrsE1 => "CSRD_ESRS_E1"
  | .euEtsPhaseIv => "EU_ETS_PHASE_IV"

def ReasonCode.label : ReasonCode → String
  | .dataError => "DATA_ERROR"
  | .factorUpdate => "FACTOR_UPDATE"
  | .boundaryChange => "BOUNDARY_CHANGE"
  | .methodologyRevision => "METHODOLOGY_REVISION"
  | .restatementOver5Pct => "RESTATEMENT_>5PCT"

def SubScope.label : SubScope → String
  | .combustion => "combustion"
  | .process => "process"
  | .fugitive => "fugitive"
  | .lb => "LB"
  | .mb => "MB"
  | .cat1 => "Cat1"
  | .cat2 => "Cat2"
  | .cat3WttFuel => "Cat3_WTT_FUEL"
  | .cat3WttElec => "Cat3_WTT_ELEC"
  | .cat3Tnd => "Cat3_TND"
  | .cat4 => "Cat4"
  | .cat5 => "Cat5"
  | .cat6 => "Cat6"
  | .cat7 => "Cat7"
  | .cat8Zero => "Cat8_ZERO"
  | .cat9 => "Cat9"
  | .cat10Zero => "Cat10_ZERO"
  | .cat11Zero => "Cat11_ZERO"
  | .cat12 => "Cat12"
  | .cat13Zero => "Cat13_ZERO"
  | .cat14Zero => "Cat14_ZERO"
  | .cat15Zero => "Cat15_ZERO"

def EmissionRow.tuple (r : EmissionRow) : LedgerTuple
  | .id => some (.uuid r.id)
  | .tenantId => some (.uuid r.tenantId)
  | .correlationId => some (.correlation r.correlationId)
  | .rawRowId => some (.uuid r.rawRowId)
  | .rawScope => some (.integer r.rawScope.number)
  | .scope => some (.integer r.scope.number)
  | .subScope => some (.text r.subScope.label)
  | .codiceSito => r.codiceSito.map .text
  | .anno => some (.integer r.anno)
  | .tco2e => some (.numeric r.tco2e)
  | .co2Tonne => r.co2Tonne.map .numeric
  | .ch4Tco2e => r.ch4Tco2e.map .numeric
  | .n2oTco2e => r.n2oTco2e.map .numeric
  | .co2BiogenicTonne => r.co2BiogenicTonne.map .numeric
  | .co2FossilTonne => r.co2FossilTonne.map .numeric
  | .factorId => some (.uuid r.factorId)
  | .factorVersion => some (.text r.factorVersion)
  | .factorSource => some (.text r.factorSource)
  | .gwpSet => some (.text r.gwpSet.label)
  | .methodology => some (.text r.methodology.label)
  | .regulatoryStream => some (.text r.regulatoryStream.label)
  | .calcTimestamp => some (.timestamp r.calcTimestamp)
  | .createdBy => some (.text r.createdBy)
  | .validFrom => some (.timestamp r.validFrom)
  | .validTo => r.validTo.map .timestamp
  | .supersededBy => r.supersededBy.map .uuid
  | .reasonCode => r.reasonCode.map fun code => .text code.label
  -- the text column carries no constraint and no other modelled column depends on it
  | .disclosureNotes => none

theorem Scope.number_injective : Function.Injective Scope.number := by
  intro s t h
  revert h
  cases s <;> cases t <;> decide

theorem SubScope.label_eq_iff (u : SubScope) :
    (u.label = "LB" ↔ u = .lb) ∧ (u.label = "MB" ↔ u = .mb) ∧ u.label ≠ "biogenic" := by
  cases u <;> simp [SubScope.label]

theorem GwpSet.label_injective : Function.Injective GwpSet.label := by
  intro s t h
  revert h
  cases s <;> cases t <;> decide

theorem Methodology.label_injective : Function.Injective Methodology.label := by
  intro s t h
  revert h
  cases s <;> cases t <;> decide

/-- On stored rows the trigger is the check that `fn_emit_correction` is subject to. -/
theorem denyEmissionsMutation_eq_ok_iff (correctionInProgress : Bool) (old new : EmissionRow) :
    denyEmissionsMutation correctionInProgress old new = .ok () ↔
      Passes (some (toString correctionInProgress)) old.tuple new.tuple := by
  have hsome : some (toString correctionInProgress) = some "true" ↔ correctionInProgress = true := by
    cases correctionInProgress <;> decide
  have hsite : Option.map SqlValue.text new.codiceSito = Option.map SqlValue.text old.codiceSito ↔
      new.codiceSito = old.codiceSito :=
    (Option.map_injective fun _ _ => SqlValue.text.inj).eq_iff
  rw [passes_iff, hsome]
  cases correctionInProgress with
  | false => simp [denyEmissionsMutation]
  | true =>
      have hok : denyEmissionsMutation true old new = .ok () ↔
          ¬ (new.id ≠ old.id ∨ new.tco2e ≠ old.tco2e ∨ new.factorId ≠ old.factorId ∨
            new.factorVersion ≠ old.factorVersion ∨ new.gwpSet ≠ old.gwpSet ∨
            new.methodology ≠ old.methodology ∨ new.scope ≠ old.scope ∨ new.anno ≠ old.anno ∨
            new.codiceSito ≠ old.codiceSito) := by
        unfold denyEmissionsMutation
        rw [if_neg (by decide)]
        split_ifs with h
        · simp [h]
        · simp [h]
      rw [hok]
      simp only [comparedColumns, List.forall_mem_cons, VisiblyDiffer, EmissionRow.tuple,
        Option.isSome_some, true_and, ne_eq, not_or, not_not, Option.some.injEq,
        SqlValue.uuid.injEq, SqlValue.numeric.injEq, SqlValue.text.injEq, SqlValue.integer.injEq,
        Scope.number_injective.eq_iff, GwpSet.label_injective.eq_iff,
        Methodology.label_injective.eq_iff, Nat.cast_inj, hsite, List.not_mem_nil, false_imp_iff,
        implies_true, and_true, and_assoc]

/-- Inside a correction, a stored row can be handed to another tenant. -/
theorem tenant_change_passes :
    Passes (some "true") gridRow.tuple
        (Function.update gridRow.tuple .tenantId (some (.uuid 2))) ∧
      ¬ KeepsRecord gridRow.tuple
        (Function.update gridRow.tuple .tenantId (some (.uuid 2))) := by
  refine ⟨by decide +kernel, fun hkeeps => ?_⟩
  have htenant := hkeeps .tenantId (by decide)
  exact absurd htenant (by decide)

end GhgTool
