import GhgTool.AuthState
import GhgTool.Pagination
import GhgTool.RowTriggers
import GhgTool.Runs
import GhgTool.SynthRows

/-!
# Findings and waivers

`calc.dq_findings` is append-only: a waiver is a new row that points to the finding it resolves.
The endpoint loads the finding by id and tenant, whatever its status, and inserts the waiver; the
listing filters on the status that a row was inserted with.
-/

namespace GhgTool.DqFindings

/-! ## The table -/

/-- `OPEN`, `WAIVED` and `REMEDIATED`. -/
inductive ResolutionStatus
  | opened | waived | remediated
  deriving DecidableEq, Repr

inductive WaiverReason
  | operationalAnnotation | userConfirmedZero | methodologyInfo | assuranceAccepted
  deriving DecidableEq, Repr

/-- A row of `calc.dq_findings`. -/
structure DqFinding where
  id : Uuid
  tenantId : Uuid
  correlationId : Uuid
  parentFindingId : Option Uuid := none
  ruleId : String
  severity : Severity
  scope : Option Scope := none
  codiceSito : Option String := none
  anno : Option ℤ := none
  metric : Option String := none
  valueObserved : Option ℚ := none
  valueReference : Option ℚ := none
  ratioYoy : Option ℚ := none
  zScore : Option ℚ := none
  triggerDesc : Option String := none
  recommendedAction : Option String := none
  rawRowId : Option Uuid := none
  blocksPipeline : Bool := false
  dqReportVersion : String
  assessedAt : Timestamp
  resolutionStatus : ResolutionStatus := .opened
  waiverReasonCode : Option WaiverReason := none
  waiverJustification : Option String := none
  waiverApprovedBy : Option String := none
  resolvedAt : Option Timestamp := none
  deriving DecidableEq

def denyMutation : Verdict DqFinding :=
  .raise "Mutation forbidden on append-only table calc.dq_findings"

def dqFindings : TableRules DqFinding where
  check _ := true
  clash a b := decide (a.id = b.id)
  beforeUpdate _ _ := denyMutation
  beforeDelete _ := denyMutation

/-- The columns that the import names; the others get their defaults. -/
structure NewFinding where
  id : Uuid
  tenantId : Uuid
  correlationId : Uuid
  ruleId : String
  severity : Severity
  scope : Option Scope
  codiceSito : Option String
  anno : Option ℤ
  metric : Option String
  valueObserved : Option ℚ
  valueReference : Option ℚ
  ratioYoy : Option ℚ
  zScore : Option ℚ
  triggerDesc : Option String
  recommendedAction : Option String
  blocksPipeline : Bool
  dqReportVersion : String

def NewFinding.row (new : NewFinding) (now : Timestamp) : DqFinding :=
  { id := new.id, tenantId := new.tenantId, correlationId := new.correlationId
    ruleId := new.ruleId, severity := new.severity, scope := new.scope
    codiceSito := new.codiceSito, anno := new.anno, metric := new.metric
    valueObserved := new.valueObserved, valueReference := new.valueReference
    ratioYoy := new.ratioYoy, zScore := new.zScore, triggerDesc := new.triggerDesc
    recommendedAction := new.recommendedAction, blocksPipeline := new.blocksPipeline
    dqReportVersion := new.dqReportVersion, assessedAt := now }

/-! ## The waiver -/

/-- `justification: str = Field(min_length=10, max_length=1000)`. -/
structure WaiverRequest where
  reasonCode : WaiverReason
  justification : {s : String // 10 ≤ s.length ∧ s.length ≤ 1000}

/-- A call of `waive_finding` and who makes it. -/
structure WaiverCall where
  findingId : Uuid
  body : WaiverRequest
  tenantId : Uuid
  sub : String
  role : RoleCode
  correlationId : Uuid

def findingNotFound (findingId : Uuid) : Problem :=
  ⟨404, "DQ finding " ++ toString findingId ++ " not found"⟩

def waiverForbidden (role : RoleCode) : Problem :=
  ⟨403, "Role '" ++ role.code ++ "' cannot perform 'waiver' on 'dq_findings'."⟩

/-- The query of `waive_finding`: the finding, or the refusal. -/
def WaiverCall.load (rows : List DqFinding) (call : WaiverCall) : Except Problem DqFinding :=
  if call.role ≠ .admin then .error (waiverForbidden call.role)
  else
    match rows.find? fun r => decide (r.id = call.findingId ∧ r.tenantId = call.tenantId) with
    | some original => .ok original
    | none => .error (findingNotFound call.findingId)

/-- The row that `waive_finding` inserts. -/
def WaiverCall.waiverRow (call : WaiverCall) (original : DqFinding) (id : Uuid) (now : Timestamp) :
    DqFinding :=
  { id := id, tenantId := call.tenantId, correlationId := call.correlationId
    parentFindingId := some call.findingId, ruleId := original.ruleId
    severity := original.severity, scope := original.scope, codiceSito := original.codiceSito
    anno := original.anno, metric := original.metric
    dqReportVersion := original.dqReportVersion, blocksPipeline := false
    assessedAt := now, resolutionStatus := .waived
    waiverReasonCode := some call.body.reasonCode
    waiverJustification := some call.body.justification.1
    waiverApprovedBy := some call.sub, resolvedAt := some now }

/-! ## The listing -/

structure DqFindingFilter where
  severity : Option Severity := none
  ruleId : Option String := none
  resolutionStatus : Option ResolutionStatus := none
  anno : Option ℤ := none
  codiceSito : Option String := none
  correlationId : Option Uuid := none
  limit : {n : ℕ // 1 ≤ n ∧ n ≤ 500} := ⟨50, by decide⟩

/-- The `WHERE` clause of `get_findings`; a filter that is not given does not restrict. -/
def DqFindingFilter.Matches (filters : DqFindingFilter) (tenantId : Uuid) (r : DqFinding) : Prop :=
  r.tenantId = tenantId ∧ (∀ s ∈ filters.resolutionStatus, r.resolutionStatus = s) ∧
    (∀ s ∈ filters.severity, r.severity = s) ∧ (∀ s ∈ filters.ruleId, r.ruleId = s) ∧
    (∀ n ∈ filters.anno, r.anno = some n) ∧ (∀ s ∈ filters.codiceSito, r.codiceSito = some s) ∧
    ∀ c ∈ filters.correlationId, r.correlationId = c

instance (filters : DqFindingFilter) (tenantId : Uuid) :
    DecidablePred (filters.Matches tenantId) :=
  fun _ => inferInstanceAs (Decidable (_ ∧ _ ∧ _ ∧ _ ∧ _ ∧ _ ∧ _))

/-- `get_findings`, in the order in which the rows of the query come. -/
def getFindings (order : ScanOrder DqFinding) (n : ℕ) (rows : List DqFinding) (tenantId : Uuid)
    (filters : DqFindingFilter) : List DqFinding :=
  (order.scan n (rows.filter (filters.Matches tenantId ·))).take (filters.limit.1 + 1)

/-- `list_findings`; `filters.cursor` is not read. -/
def listFindings (encodeCursor : Uuid → String) (order : ScanOrder DqFinding) (n : ℕ)
    (rows : List DqFinding) (tenantId : Uuid) (filters : DqFindingFilter) :
    CursorPage DqFinding :=
  let fetched := getFindings order n rows tenantId filters
  pageOf DqFinding.id encodeCursor fetched filters.limit.1 (some fetched.length)

/-! ## Runs -/

/-- The committed rows, and what each waiver request has loaded. -/
structure State where
  rows : List DqFinding := []
  loaded : ℕ → Option (WaiverCall × DqFinding) := fun _ => none

/-- A request loads and inserts in two steps, between which others may commit. -/
inductive Event
  | insertFinding (new : NewFinding) (now : Timestamp)
  | load (p : ℕ) (call : WaiverCall)
  | insertWaiver (p : ℕ) (id : Uuid) (now : Timestamp)

def step (s : State) : Event → State
  | .insertFinding new now =>
    { s with rows := settle s.rows (insertRow dqFindings (new.row now) s.rows) }
  | .load p call =>
    match call.load s.rows with
    | .ok original => { s with loaded := Function.update s.loaded p (some (call, original)) }
    | .error _ => s
  | .insertWaiver p id now =>
    match s.loaded p with
    | none => s
    | some (call, original) =>
      { rows := settle s.rows (insertRow dqFindings (call.waiverRow original id now) s.rows)
        loaded := Function.update s.loaded p none }

/-! ## What a waiver should do -/

/-- A `WAIVED` row that points to the finding. -/
def Waives (findingId : Uuid) (w : DqFinding) : Prop :=
  w.resolutionStatus = .waived ∧ w.parentFindingId = some findingId

instance (findingId : Uuid) : DecidablePred (Waives findingId) :=
  fun _ => inferInstanceAs (Decidable (_ ∧ _))

structure WaiversResolve (rows : List DqFinding) : Prop where
  openListed : ∀ encodeCursor order n tenantId filters,
    ∀ r ∈ (listFindings encodeCursor order n rows tenantId filters).items,
      r.resolutionStatus = .opened → ∀ w ∈ rows, ¬ Waives r.id w
  waivedOnce : ∀ findingId, rows.countP (Waives findingId ·) ≤ 1
  waiverNotWaived : ∀ r ∈ rows, r.resolutionStatus = .waived → ∀ w ∈ rows, ¬ Waives r.id w

/-- No waiver request gets as far as its insert; an insert fails when its key is taken. -/
def NoWaiver (s : State) : Event → Prop
  | .insertFinding _ _ => True
  | .load _ _ => True
  | .insertWaiver p id _ =>
    ∀ call original, s.loaded p = some (call, original) → ∃ r ∈ s.rows, r.id = id

/-- Findings are inserted open, and each waiver points to a row that stays. -/
structure Recorded (s : State) : Prop where
  status : ∀ r ∈ s.rows, r.resolutionStatus = .opened ∨ r.resolutionStatus = .waived
  parent : ∀ w ∈ s.rows, w.resolutionStatus = .waived →
    ∃ r ∈ s.rows, w.parentFindingId = some r.id
  loaded : ∀ p call original, s.loaded p = some (call, original) →
    original ∈ s.rows ∧ original.id = call.findingId

def NoneWaived (s : State) : Prop :=
  ∀ r ∈ s.rows, r.resolutionStatus ≠ .waived

variable {s : State}

/-! ## The listing returns what it was asked for -/

/-- The rows of the query with one of them first. -/
def scanFirst (first : DqFinding) : ScanOrder DqFinding where
  scan _ rows := if first ∈ rows then first :: rows.erase first else rows
  perm := by
    intro _ rows
    split_ifs with hmem
    · exact (List.perm_cons_erase hmem).symm
    · exact List.Perm.refl rows

theorem listed_first {rows : List DqFinding} {r : DqFinding} (h : r ∈ rows)
    (encodeCursor : Uuid → String) :
    r ∈ (listFindings encodeCursor (scanFirst r) 0 rows r.tenantId {}).items := by
  have hmem : r ∈ rows.filter (DqFindingFilter.Matches {} r.tenantId ·) := by
    refine List.mem_filter.mpr ⟨h, decide_eq_true ?_⟩
    simp [DqFindingFilter.Matches]
  have hscan : (scanFirst r).scan 0 (rows.filter (DqFindingFilter.Matches {} r.tenantId ·)) =
      r :: (rows.filter (DqFindingFilter.Matches {} r.tenantId ·)).erase r := if_pos hmem
  unfold listFindings getFindings pageOf
  dsimp only
  rw [hscan, List.take_succ_cons, List.take_succ_cons]
  exact List.mem_cons_self

/-- Whatever a waiver points to is open or itself a waiver, so that one waiver is one too many. -/
theorem waiversResolve_iff (h : Recorded s) : WaiversResolve s.rows ↔ NoneWaived s := by
  constructor
  · intro hresolve w hw hwaived
    obtain ⟨r, hr, hparent⟩ := h.parent w hw hwaived
    rcases h.status r hr with hopened | hrwaived
    · exact hresolve.openListed toString (scanFirst r) 0 r.tenantId {} r
        (listed_first hr toString) hopened w hw ⟨hwaived, hparent⟩
    · exact hresolve.waiverNotWaived r hr hrwaived w hw ⟨hwaived, hparent⟩
  · intro hnone
    refine ⟨?_, ?_, ?_⟩
    · intro encodeCursor order n tenantId filters r _ _ w hw hwaives
      exact hnone w hw hwaives.1
    · intro findingId
      have hzero : s.rows.countP (Waives findingId ·) = 0 := by
        rw [List.countP_eq_zero]
        intro w hw hwaives
        exact hnone w hw (of_decide_eq_true hwaives).1
      omega
    · intro r hr hwaived
      exact absurd hwaived (hnone r hr)

/-! ## One step -/

theorem settle_insertRow (new : DqFinding) (rows : List DqFinding) :
    settle rows (insertRow dqFindings new rows) =
      if ∃ r ∈ rows, r.id = new.id then rows else rows ++ [new] := by
  have hclash : rows.any (dqFindings.clash new) = true ↔ ∃ r ∈ rows, r.id = new.id := by
    rw [List.any_eq_true]
    simp only [dqFindings, decide_eq_true_eq]
    simp only [eq_comm]
  unfold insertRow
  by_cases htaken : ∃ r ∈ rows, r.id = new.id
  · rw [if_pos htaken, if_pos (hclash.mpr htaken)]
    rfl
  · rw [if_neg htaken, if_neg (mt hclash.mp htaken)]
    rfl

theorem load_ok {call : WaiverCall} {rows : List DqFinding} {original : DqFinding}
    (h : call.load rows = .ok original) : original ∈ rows ∧ original.id = call.findingId := by
  unfold WaiverCall.load at h
  split_ifs at h
  cases hfind : rows.find? fun r => decide (r.id = call.findingId ∧ r.tenantId = call.tenantId) with
  | none =>
    rw [hfind] at h
    cases h
  | some r =>
    rw [hfind] at h
    cases h
    have hmatch := List.find?_some hfind
    exact ⟨List.mem_of_find?_eq_some hfind, (of_decide_eq_true hmatch).1⟩

/-- Rows are only appended, at most one by a step. -/
theorem step_rows (s : State) (e : Event) : (step s e).rows = s.rows ∨
    (∃ new now, e = .insertFinding new now ∧ (step s e).rows = s.rows ++ [new.row now]) ∨
    ∃ p id now call original, e = .insertWaiver p id now ∧ s.loaded p = some (call, original) ∧
      (¬ ∃ r ∈ s.rows, r.id = id) ∧
      (step s e).rows = s.rows ++ [call.waiverRow original id now] := by
  cases e with
  | insertFinding new now =>
    unfold step
    dsimp only
    rw [settle_insertRow]
    split_ifs
    · exact .inl rfl
    · exact .inr (.inl ⟨new, now, rfl, rfl⟩)
  | load p call =>
    left
    unfold step
    dsimp only
    cases call.load s.rows <;> rfl
  | insertWaiver p id now =>
    unfold step
    dsimp only
    cases hloaded : s.loaded p with
    | none => exact .inl rfl
    | some request =>
      obtain ⟨call, original⟩ := request
      dsimp only
      rw [settle_insertRow]
      split_ifs with htaken
      · exact .inl rfl
      · exact .inr (.inr ⟨p, id, now, call, original, rfl, hloaded, htaken, rfl⟩)

/-- A row is there after a step because it was there, or is what the step inserts. -/
theorem mem_step {e : Event} {r : DqFinding} (hr : r ∈ (step s e).rows) : r ∈ s.rows ∨
    (∃ new : NewFinding, ∃ now, r = new.row now) ∨
    ∃ p id now call original, e = .insertWaiver p id now ∧ s.loaded p = some (call, original) ∧
      (¬ ∃ r ∈ s.rows, r.id = id) ∧ r = call.waiverRow original id now := by
  rcases step_rows s e with hrows | ⟨new, now, -, hrows⟩ |
    ⟨p, id, now, call, original, he, hloaded, hfree, hrows⟩
  · exact .inl (hrows ▸ hr)
  · rw [hrows, List.mem_append, List.mem_singleton] at hr
    exact hr.imp_right fun hnew => .inl ⟨new, now, hnew⟩
  · rw [hrows, List.mem_append, List.mem_singleton] at hr
    exact hr.imp_right fun hnew => .inr ⟨p, id, now, call, original, he, hloaded, hfree, hnew⟩

theorem step_subset (s : State) (e : Event) : s.rows ⊆ (step s e).rows := by
  intro r hr
  rcases step_rows s e with h | ⟨new, now, -, h⟩ | ⟨p, id, now, call, original, -, -, -, h⟩
  · rwa [h]
  · rw [h]
    exact List.mem_append_left _ hr
  · rw [h]
    exact List.mem_append_left _ hr

theorem step_loaded {e : Event} {p : ℕ} {call : WaiverCall} {original : DqFinding}
    (h : (step s e).loaded p = some (call, original)) :
    s.loaded p = some (call, original) ∨ call.load s.rows = .ok original := by
  cases e with
  | insertFinding new now => exact .inl h
  | load p' call' =>
    unfold step at h
    dsimp only at h
    cases hload : call'.load s.rows with
    | error e =>
      rw [hload] at h
      exact .inl h
    | ok r =>
      rw [hload] at h
      dsimp only at h
      rw [Function.update_apply] at h
      split_ifs at h
      · cases h
        exact .inr hload
      · exact .inl h
  | insertWaiver p' id now =>
    unfold step at h
    dsimp only at h
    cases hloaded : s.loaded p' with
    | none =>
      rw [hloaded] at h
      exact .inl h
    | some request =>
      rw [hloaded] at h
      dsimp only at h
      rw [Function.update_apply] at h
      split_ifs at h
      exact .inl h

theorem recorded_step (h : Recorded s) (e : Event) : Recorded (step s e) := by
  have hsubset := step_subset s e
  refine ⟨?_, ?_, ?_⟩
  · intro r hr
    rcases mem_step hr with hr | ⟨new, now, rfl⟩ | ⟨p, id, now, call, original, -, -, -, rfl⟩
    · exact h.status r hr
    · exact .inl rfl
    · exact .inr rfl
  · intro w hw hwaived
    rcases mem_step hw with hw | ⟨new, now, rfl⟩ |
      ⟨p, id, now, call, original, -, hloaded, -, rfl⟩
    · obtain ⟨r, hr, hparent⟩ := h.parent w hw hwaived
      exact ⟨r, hsubset hr, hparent⟩
    · cases hwaived
    · obtain ⟨hmem, hid⟩ := h.loaded p call original hloaded
      exact ⟨original, hsubset hmem, congrArg some hid.symm⟩
  · intro p call original hloaded
    rcases step_loaded hloaded with hbefore | hfound
    · obtain ⟨hmem, hid⟩ := h.loaded p call original hbefore
      exact ⟨hsubset hmem, hid⟩
    · obtain ⟨hmem, hid⟩ := load_ok hfound
      exact ⟨hsubset hmem, hid⟩

/-- A step adds a `WAIVED` row exactly when a waiver request gets as far as its insert. -/
theorem noWaiver_iff (h : NoneWaived s) (e : Event) : NoWaiver s e ↔ NoneWaived (step s e) := by
  constructor
  · intro hno r hr
    rcases mem_step hr with hr | ⟨new, now, rfl⟩ |
      ⟨p, id, now, call, original, rfl, hloaded, hfree, -⟩
    · exact h r hr
    · intro hwaived
      cases hwaived
    · exact absurd (hno call original hloaded) hfree
  · intro hnone
    cases e with
    | insertFinding new now => trivial
    | load p call => trivial
    | insertWaiver p id now =>
      intro call original hloaded
      by_contra hfree
      have hrows : (step s (.insertWaiver p id now)).rows =
          s.rows ++ [call.waiverRow original id now] := by
        unfold step
        dsimp only
        rw [hloaded]
        dsimp only
        rw [settle_insertRow]
        exact if_neg hfree
      refine hnone (call.waiverRow original id now) ?_ rfl
      rw [hrows]
      exact List.mem_append_right _ (List.mem_singleton.mpr rfl)

/-! ## Runs -/

theorem recorded_empty : Recorded {} where
  status := fun _ h => by cases h
  parent := fun _ h => by cases h
  loaded := fun _ _ _ h => by cases h

theorem recorded_run (es : List Event) {s : State} (h : Recorded s) : Recorded (run step s es) := by
  induction es generalizing s with
  | nil => exact h
  | cons e es ih => exact ih (recorded_step h e)

/-- Waivers resolve findings in every state that a run reaches exactly when no waiver request of
the run gets as far as its insert. -/
theorem waivers_resolve_iff (es : List Event) :
    (∀ pre, pre <+: es → WaiversResolve (run step {} pre).rows) ↔
      Along step NoWaiver {} es := by
  have hruns : Along step NoWaiver {} es ↔ ∀ pre, pre <+: es → NoneWaived (run step {} pre) :=
    along_iff_forall_initial recorded_empty (fun _ h => by cases h)
      (fun s e h => recorded_step h e) (fun s e _ h => noWaiver_iff h e)
  rw [hruns]
  constructor
  · intro h pre hpre
    exact (waiversResolve_iff (recorded_run pre recorded_empty)).mp (h pre hpre)
  · intro h pre hpre
    exact (waiversResolve_iff (recorded_run pre recorded_empty)).mpr (h pre hpre)

def temporalGap : NewFinding where
  id := 1
  tenantId := 1
  correlationId := 7
  ruleId := "DQ-CRIT-05"
  severity := .crit
  scope := some .one
  codiceSito := some "FRASSINORO"
  anno := some 2025
  metric := none
  valueObserved := none
  valueReference := none
  ratioYoy := none
  zScore := none
  triggerDesc := none
  recommendedAction := none
  blocksPipeline := true
  dqReportVersion := "1.0"

def adminWaiver (findingId : Uuid) : WaiverCall where
  findingId := findingId
  body := ⟨.userConfirmedZero, "confirmed zero", by decide⟩
  tenantId := 1
  sub := "admin"
  role := .admin
  correlationId := 8

/-- The finding is waived twice, and the first waiver once more. -/
def waivedThrice : List Event :=
  [.insertFinding temporalGap 0, .load 0 (adminWaiver 1), .insertWaiver 0 2 1,
    .load 0 (adminWaiver 1), .insertWaiver 0 3 2, .load 0 (adminWaiver 2), .insertWaiver 0 4 3]

theorem waived_finding_stays_open :
    ((listFindings toString ⟨fun _ rows => rows, fun _ _ => .refl _⟩ 0
        (run step {} waivedThrice).rows 1 { resolutionStatus := some .opened }).items.map
          DqFinding.id = [1]) ∧
      (run step {} waivedThrice).rows.map (fun r => (r.id, r.parentFindingId)) =
        [(1, none), (2, some 1), (3, some 1), (4, some 2)] ∧
      ¬ ∀ pre, pre <+: waivedThrice → WaiversResolve (run step {} pre).rows := by
  refine ⟨by decide, by decide, ?_⟩
  intro h
  have hresolve := h waivedThrice (List.prefix_refl _)
  have htwice : 2 ≤ (run step {} waivedThrice).rows.countP (Waives 1 ·) := by decide
  have honce := hresolve.waivedOnce 1
  omega

end GhgTool.DqFindings
