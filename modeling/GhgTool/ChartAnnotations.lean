import Mathlib.Logic.Function.Basic
import GhgTool.AuthState
import GhgTool.RowTriggers
import GhgTool.Runs
import GhgTool.SqlLogic

/-!
# Chart annotations

`ops.chart_annotations` is append-only: an annotation may be hidden and it may be acknowledged, once.
The trigger compares nine columns and leaves the others alone; the acknowledge endpoint reads the
row in one statement and writes it in another, between which another request may commit.
-/

namespace GhgTool.ChartAnnotations

/-! ## The table -/

inductive Column
  | id | tenantId | chartKey | anchorYear | anchorLabel | title | body | severity
  | createdAt | createdBy | isVisible | acknowledgedBy | acknowledgedAt | extra
  deriving DecidableEq, Repr

inductive Value
  | uuid (n : Uuid)
  | text (s : String)
  | smallint (n : ℤ)
  | boolean (b : Bool)
  | timestamp (t : Timestamp)
  | jsonb (s : String)
  deriving DecidableEq, Repr

/-- A row of `ops.chart_annotations`; `NULL` is `none`. -/
abbrev Tuple := Column → Option Value

/-- The columns that the trigger compares, in its order. -/
def comparedColumns : List Column :=
  [.title, .body, .anchorYear, .anchorLabel, .severity, .createdBy, .createdAt, .tenantId, .chartKey]

/-- The columns that an annotation may change after its insertion. -/
def mutableColumns : List Column :=
  [.isVisible, .acknowledgedBy, .acknowledgedAt]

def acknowledgementColumns : List Column :=
  [.acknowledgedBy, .acknowledgedAt]

/-- The columns that should not change and that the trigger does not compare. -/
def uncomparedColumns : List Column :=
  [.id, .extra]

def notNullColumns : List Column :=
  [.id, .tenantId, .chartKey, .title, .body, .severity, .createdAt, .createdBy, .isVisible]

def severities : List (Option Value) :=
  [some (.text "INFO"), some (.text "WARNING"), some (.text "CRITICAL")]

def immutableMessage : String :=
  "chart_annotations rows are immutable except for is_visible / acknowledged_*"

def noDeleteMessage : String :=
  "chart_annotations rows cannot be deleted; toggle is_visible instead"

def fnChartAnnotationImmutability (old new : Tuple) : Verdict Tuple :=
  if IsTrue ((comparedColumns.map fun col => isDistinctFrom (old col) (new col)).foldr sqlOr
      (some false)) then .raise immutableMessage
  else .proceed new

def fnChartAnnotationNoDelete (_ : Tuple) : Verdict Tuple :=
  .raise noDeleteMessage

def chartAnnotations : TableRules Tuple where
  check row := notNullColumns.all (fun col => (row col).isSome) && severities.contains (row .severity)
  clash a b := decide (a .id = b .id)
  beforeUpdate := fnChartAnnotationImmutability
  beforeDelete := fnChartAnnotationNoDelete

/-! ## The endpoints -/

inductive PatchRequest
  | visibility (annotationId tenantId : Uuid) (isVisible : Bool)
  | acknowledge (annotationId tenantId : Uuid) (sub : String)
  deriving DecidableEq, Repr

def PatchRequest.annotationId : PatchRequest → Uuid
  | visibility annotationId _ _ => annotationId
  | acknowledge annotationId _ _ => annotationId

def PatchRequest.tenantId : PatchRequest → Uuid
  | visibility _ tenantId _ => tenantId
  | acknowledge _ tenantId _ => tenantId

def annotationNotFound (annotationId : Uuid) : Problem :=
  ⟨404, "Chart annotation " ++ toString annotationId ++ " not found in this tenant."⟩

def alreadyAcknowledged (annotationId : Uuid) (acknowledger : Option Value) : Problem :=
  ⟨409, "Annotation " ++ toString annotationId ++ " has already been acknowledged by " ++
    (match acknowledger with | some (.text sub) => sub | _ => "") ++ "."⟩

def fetchAnnotationOr404 (rows : List Tuple) (annotationId tenantId : Uuid) : Except Problem Tuple :=
  match rows.find? fun row =>
      decide (row .id = some (.uuid annotationId) ∧ row .tenantId = some (.uuid tenantId)) with
  | some row => .ok row
  | none => .error (annotationNotFound annotationId)

/-- The first half of a request, up to its flush: the row it has loaded, or its refusal. -/
def PatchRequest.load (rows : List Tuple) (req : PatchRequest) : Except Problem Tuple :=
  match fetchAnnotationOr404 rows req.annotationId req.tenantId with
  | .error problem => .error problem
  | .ok row =>
      match req with
      | visibility _ _ _ => .ok row
      | acknowledge annotationId _ _ =>
          if (row .acknowledgedBy).isSome then
            .error (alreadyAcknowledged annotationId (row .acknowledgedBy))
          else .ok row

/-- The columns that the flush of a request writes, given the row it has loaded. -/
def PatchRequest.assign (req : PatchRequest) (now : Timestamp) (row : Tuple) : Tuple :=
  match req with
  | visibility _ _ isVisible => Function.update row .isVisible (some (.boolean isVisible))
  | acknowledge _ _ sub =>
      Function.update (Function.update row .acknowledgedBy (some (.text sub)))
        .acknowledgedAt (some (.timestamp now))

/-- The session emits an `UPDATE` by primary key, and none when no attribute has changed. -/
def PatchRequest.flush (req : PatchRequest) (loaded : Tuple) (now : Timestamp)
    (rows : List Tuple) : Except StatementError (List Tuple) :=
  match req with
  | visibility _ _ isVisible =>
      if loaded .isVisible = some (.boolean isVisible) then .ok rows
      else updateRows chartAnnotations (fun row => decide (row .id = loaded .id))
        (req.assign now) rows
  | acknowledge _ _ _ =>
      updateRows chartAnnotations (fun row => decide (row .id = loaded .id)) (req.assign now) rows

/-! ## Interleavings -/

/-- The committed rows, and the requests that have loaded a row and not flushed yet. -/
structure State where
  rows : List Tuple
  opened : ℕ → Option (PatchRequest × Tuple) := fun _ => none

/-- A request loads and flushes in two steps; any client may send a statement in between. -/
inductive Event
  | load (p : ℕ) (req : PatchRequest)
  | flush (p : ℕ) (now : Timestamp)
  | insert (row : Tuple)
  | update (hit : Tuple → Bool) (set : Tuple → Tuple)
  | delete (hit : Tuple → Bool)

def step (s : State) : Event → State
  | .load p req =>
      match req.load s.rows with
      | .ok row => { s with opened := Function.update s.opened p (some (req, row)) }
      | .error _ => s
  | .flush p now =>
      match s.opened p with
      | none => s
      | some (req, loaded) =>
          { rows := settle s.rows (req.flush loaded now s.rows)
            opened := Function.update s.opened p none }
  | .insert row => { s with rows := settle s.rows (insertRow chartAnnotations row s.rows) }
  | .update hit set =>
      { s with rows := settle s.rows (updateRows chartAnnotations hit set s.rows) }
  | .delete hit => { s with rows := settle s.rows (deleteRows chartAnnotations hit s.rows) }

/-! ## What the trigger keeps -/

/-- What an annotation keeps: all but three columns, and its acknowledgement once it has one. -/
structure Keeps (old new : Tuple) : Prop where
  frozen : ∀ col, col ∉ mutableColumns → new col = old col
  acknowledged : ∀ col ∈ acknowledgementColumns, old col ≠ none → new col = old col

/-- The part of that which the trigger does not see to. -/
structure KeepsUncompared (old new : Tuple) : Prop where
  uncompared : ∀ col ∈ uncomparedColumns, new col = old col
  acknowledged : ∀ col ∈ acknowledgementColumns, old col ≠ none → new col = old col

def LetsPass (old new : Tuple) : Prop :=
  ∃ row, fnChartAnnotationImmutability old new = .proceed row

variable {old new : Tuple} {s : State}

theorem Keeps.refl (row : Tuple) : Keeps row row :=
  ⟨fun _ _ => rfl, fun _ _ _ => rfl⟩

theorem Keeps.trans (a b c : Tuple) (h : Keeps a b) (h' : Keeps b c) : Keeps a c := by
  refine ⟨fun col hcol => (h'.frozen col hcol).trans (h.frozen col hcol), ?_⟩
  intro col hcol hset
  have hkept := h.acknowledged col hcol hset
  exact (h'.acknowledged col hcol (hkept ▸ hset)).trans hkept

theorem Keeps.uncompared (h : Keeps old new) : KeepsUncompared old new := by
  refine ⟨?_, h.acknowledged⟩
  intro col hcol
  apply h.frozen
  revert hcol
  cases col <;> decide

theorem column_cases (col : Column) :
    col ∈ mutableColumns ∨ col ∈ comparedColumns ∨ col ∈ uncomparedColumns := by
  cases col <;> decide

/-- The trigger raises, or lets the new row through as it is. -/
theorem immutability_eq_proceed_iff (row : Tuple) :
    fnChartAnnotationImmutability old new = .proceed row ↔
      row = new ∧ ∀ col ∈ comparedColumns, new col = old col := by
  unfold fnChartAnnotationImmutability
  simp only [isTrue_foldr_sqlOr, List.mem_map, exists_exists_and_eq_and, isTrue_isDistinctFrom]
  by_cases h : ∀ col ∈ comparedColumns, new col = old col
  · have hnone : ¬ ((∃ col ∈ comparedColumns, old col ≠ new col) ∨ IsTrue (some false)) := by
      rintro (⟨col, hcol, hne⟩ | hfalse)
      · exact hne (h col hcol).symm
      · cases hfalse
    rw [if_neg hnone]
    constructor
    · rintro ⟨⟩
      exact ⟨rfl, h⟩
    · rintro ⟨rfl, -⟩
      rfl
  · have hsome : (∃ col ∈ comparedColumns, old col ≠ new col) ∨ IsTrue (some false) := by
      push Not at h
      obtain ⟨col, hcol, hne⟩ := h
      exact .inl ⟨col, hcol, hne.symm⟩
    rw [if_pos hsome]
    constructor
    · rintro ⟨⟩
    · rintro ⟨-, hsame⟩
      exact absurd hsame h

theorem letsPass_iff : LetsPass old new ↔ ∀ col ∈ comparedColumns, new col = old col := by
  unfold LetsPass
  simp only [immutability_eq_proceed_iff, exists_eq_left]

theorem keeps_of_letsPass (h : LetsPass old new) (hrest : KeepsUncompared old new) :
    Keeps old new := by
  refine ⟨?_, hrest.acknowledged⟩
  intro col hcol
  rcases column_cases col with hmutable | hcompared | huncompared
  · exact absurd hmutable hcol
  · exact letsPass_iff.mp h col hcompared
  · exact hrest.uncompared col huncompared

/-- The updates on which the trigger keeps annotations as they are meant to be kept. -/
theorem keeps_iff :
    (LetsPass old new → Keeps old new) ↔
      (∃ col ∈ comparedColumns, new col ≠ old col) ∨ KeepsUncompared old new := by
  constructor
  · intro h
    by_cases hpass : LetsPass old new
    · exact .inr (h hpass).uncompared
    · rw [letsPass_iff] at hpass
      push Not at hpass
      exact .inl hpass
  · rintro (⟨col, hcol, hne⟩ | hrest) hpass
    · exact absurd (letsPass_iff.mp hpass col hcol) hne
    · exact keeps_of_letsPass hpass hrest

/-! ## What the interleavings keep -/

/-- The condition on a step. A statement of another client leaves the uncompared columns and a given
acknowledgement alone; an acknowledge request flushes on a row that nobody has acknowledged since
it was loaded. -/
def Careful (s : State) : Event → Prop
  | .load _ _ => True
  | .flush p _ =>
      match s.opened p with
      | some (.acknowledge _ _ _, loaded) =>
          ∀ row ∈ s.rows, row .id = loaded .id → ∀ col ∈ acknowledgementColumns, row col = none
      | _ => True
  | .insert _ => True
  | .update hit set => ∀ row ∈ s.rows, hit row = true → KeepsUncompared row (set row)
  | .delete _ => True

theorem update_evolves {rows : List Tuple} {hit : Tuple → Bool} {set : Tuple → Tuple}
    (h : ∀ row ∈ rows, hit row = true → KeepsUncompared row (set row)) :
    Evolves Keeps rows (settle rows (updateRows chartAnnotations hit set rows)) := by
  apply settle_evolves Keeps.refl
  intro rows' hok
  refine updateRows_evolves Keeps.refl Keeps.trans ?_ hok
  intro row hrow new hhit hproceed
  obtain ⟨rfl, -⟩ := (immutability_eq_proceed_iff new).mp hproceed
  exact keeps_of_letsPass ⟨_, hproceed⟩ (h row hrow hhit)

theorem visibility_keepsUncompared (annotationId tenantId : Uuid) (isVisible : Bool)
    (now : Timestamp) (row : Tuple) :
    KeepsUncompared row ((PatchRequest.visibility annotationId tenantId isVisible).assign now row) := by
  refine ⟨?_, ?_⟩
  · intro col hcol
    apply Function.update_of_ne
    rintro rfl
    simp [uncomparedColumns] at hcol
  · intro col hcol _
    apply Function.update_of_ne
    rintro rfl
    simp [acknowledgementColumns] at hcol

theorem acknowledge_keepsUncompared (annotationId tenantId : Uuid) (sub : String)
    (now : Timestamp) {row : Tuple} (h : ∀ col ∈ acknowledgementColumns, row col = none) :
    KeepsUncompared row ((PatchRequest.acknowledge annotationId tenantId sub).assign now row) := by
  refine ⟨?_, fun col hcol hset => absurd (h col hcol) hset⟩
  intro col hcol
  have hby : col ≠ .acknowledgedBy := by
    rintro rfl
    simp [uncomparedColumns] at hcol
  have hat : col ≠ .acknowledgedAt := by
    rintro rfl
    simp [uncomparedColumns] at hcol
  simp [PatchRequest.assign, hby, hat]

theorem step_evolves {e : Event} (h : Careful s e) : Evolves Keeps s.rows (step s e).rows := by
  cases e with
  | load p req =>
      have hrows : (step s (.load p req)).rows = s.rows := by
        unfold step
        dsimp only
        cases req.load s.rows <;> rfl
      rw [hrows]
      exact evolves_refl Keeps.refl _
  | flush p now =>
      unfold step
      cases hopened : s.opened p with
      | none => simpa [hopened] using evolves_refl Keeps.refl s.rows
      | some opened =>
          obtain ⟨req, loaded⟩ := opened
          simp only [Careful, hopened] at h
          simp only [hopened]
          cases req with
          | visibility annotationId tenantId isVisible =>
              unfold PatchRequest.flush
              dsimp only
              split
              · exact evolves_refl Keeps.refl _
              · exact update_evolves fun row _ _ => visibility_keepsUncompared _ _ _ _ row
          | acknowledge annotationId tenantId sub =>
              apply update_evolves
              intro row hrow hhit
              exact acknowledge_keepsUncompared _ _ _ _ (h row hrow (by simpa using hhit))
  | insert row =>
      exact settle_evolves Keeps.refl fun rows' hok => insertRow_evolves Keeps.refl hok
  | update hit set => exact update_evolves h
  | delete hit =>
      apply settle_evolves Keeps.refl
      intro rows' hok
      rw [deleteRows_eq (fun _ _ _ _ => by simp [chartAnnotations, fnChartAnnotationNoDelete]) hok]
      exact evolves_refl Keeps.refl _

theorem run_evolves {es : List Event} (h : Along step Careful s es) :
    Evolves Keeps s.rows (run step s es).rows :=
  h.run_invariant (I := fun s' => Evolves Keeps s.rows s'.rows) (evolves_refl Keeps.refl _)
    fun _ _ hI hcareful => hI.trans Keeps.trans (step_evolves hcareful)

/-- On a single update the trigger keeps annotations append-only exactly when the update leaves the
uncompared columns and a given acknowledgement alone, or is refused; and in every interleaving whose
steps meet the condition, annotations are kept from any moment to any later one. -/
theorem annotations_append_only {es : List Event} (h : Along step Careful s es)
    (old new : Tuple) :
    ((LetsPass old new → Keeps old new) ↔
      (∃ col ∈ comparedColumns, new col ≠ old col) ∨ KeepsUncompared old new) ∧
    Evolves Keeps s.rows (run step s es).rows :=
  ⟨keeps_iff, run_evolves h⟩

def kilnStop : Tuple
  | .id => some (.uuid 7)
  | .tenantId => some (.uuid 1)
  | .chartKey => some (.text "home_total_trend")
  | .title => some (.text "Stop linea VIANO Q3 2025")
  | .body => some (.text "Kiln offline")
  | .severity => some (.text "INFO")
  | .createdAt => some (.timestamp 1)
  | .createdBy => some (.text "editor-1")
  | .isVisible => some (.boolean true)
  | .anchorYear => some (.smallint 2025)
  | .anchorLabel | .acknowledgedBy | .acknowledgedAt | .extra => none

/-- One acknowledgement of the annotation, start to end. -/
def soleAcknowledgement : List Event :=
  [.load 0 (.acknowledge 7 1 "admin-1"), .flush 0 10]

theorem annotations_append_only_sole :
    Along step Careful { rows := [kilnStop] } soleAcknowledgement ∧
      Evolves Keeps [kilnStop] (run step { rows := [kilnStop] } soleAcknowledgement).rows := by
  have hcareful : Along step Careful { rows := [kilnStop] } soleAcknowledgement := by
    refine ⟨trivial, ?_, trivial⟩
    intro row hrow _ col hcol
    rw [List.mem_singleton.mp hrow]
    revert hcol
    cases col <;> decide
  exact ⟨hcareful, (annotations_append_only hcareful kilnStop kilnStop).2⟩

/-- Two admins load the annotation before either flushes. -/
def racingAcknowledgements : List Event :=
  [.load 0 (.acknowledge 7 1 "admin-1"), .load 1 (.acknowledge 7 1 "admin-2"), .flush 0 10]

/-- The second of two racing acknowledgements overwrites the first, and the trigger lets an update
of `extra` pass. -/
theorem acknowledgement_overwritten :
    (run step { rows := [kilnStop] } racingAcknowledgements).rows.map (· .acknowledgedBy) =
        [some (.text "admin-1")] ∧
      (run step { rows := [kilnStop] } (racingAcknowledgements ++ [.flush 1 20])).rows.map
        (· .acknowledgedBy) = [some (.text "admin-2")] ∧
      LetsPass kilnStop (Function.update kilnStop .extra (some (.jsonb "true"))) ∧
      Function.update kilnStop .extra (some (.jsonb "true")) .extra ≠ kilnStop .extra := by
  refine ⟨by decide, by decide, letsPass_iff.mpr ?_, by decide⟩
  intro col hcol
  apply Function.update_of_ne
  rintro rfl
  simp [comparedColumns] at hcol

end GhgTool.ChartAnnotations
