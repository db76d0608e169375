import GhgTool.SbtiTargets

/-!
# SBTi trajectories and status

A target fixes two points, the baseline and the target year; the service draws the straight line
between them and compares the latest observation with the line. Years and tonnes come from the row
of the target, and the entity refuses a target that does not reduce.
-/

namespace GhgTool.SbtiService

open SbtiTargets

/-! ## The entity -/

/-- The arguments of `SbtiTarget` that the entity checks or the service reads. -/
structure SbtiTargetArgs where
  scopeCoverage : String
  baselineYear : ℤ
  baselineTco2e : ℚ
  targetYear : ℤ
  targetTco2e : ℚ
  alignment : String
  methodology : String
  sbtiApprovalStatus : String
  sbtiValidationDate : Option CalendarDate
  deriving DecidableEq

/-- What `__post_init__` lets through. -/
structure SbtiTarget extends SbtiTargetArgs where
  scope_allowed : scopeCoverage ∈ scopes
  alignment_allowed : alignment ∈ alignments
  methodology_allowed : methodology ∈ methodologies
  status_allowed : sbtiApprovalStatus ∈ approvalStatuses
  year_order : baselineYear < targetYear
  baseline_pos : 0 < baselineTco2e
  target_nonneg : 0 ≤ targetTco2e
  target_le_baseline : targetTco2e ≤ baselineTco2e
  validated_dated : sbtiApprovalStatus = "validated" → sbtiValidationDate.isSome

def notAllowed (repr : String → String) (field value : String) (allowed : List String) : String :=
  field ++ "=" ++ repr value ++ " is not valid; allowed: [" ++
    ", ".intercalate ((allowed.insertionSort (· ≤ ·)).map repr) ++ "]"

/-- `SbtiTarget(...)`: the text of the `ValueError`, or the target. -/
def SbtiTarget.make (repr : String → String) (a : SbtiTargetArgs) : Except String SbtiTarget :=
  if hscope : a.scopeCoverage ∈ scopes then
    if halignment : a.alignment ∈ alignments then
      if hmethodology : a.methodology ∈ methodologies then
        if hstatus : a.sbtiApprovalStatus ∈ approvalStatuses then
          if hyear : a.targetYear ≤ a.baselineYear then
            .error "target_year must be after baseline_year"
          else if hbaseline : a.baselineTco2e ≤ 0 then
            .error "baseline_tco2e must be positive"
          else if htarget : a.targetTco2e < 0 then
            .error "target_tco2e must be non-negative"
          else if hle : a.baselineTco2e < a.targetTco2e then
            .error "target_tco2e must not exceed baseline_tco2e (this is a REDUCTION target)"
          else if hdate : a.sbtiApprovalStatus = "validated" ∧ a.sbtiValidationDate = none then
            .error "sbti_validation_date is required when status is 'validated'"
          else
            .ok
              { a with
                scope_allowed := hscope
                alignment_allowed := halignment
                methodology_allowed := hmethodology
                status_allowed := hstatus
                year_order := not_le.mp hyear
                baseline_pos := not_le.mp hbaseline
                target_nonneg := not_lt.mp htarget
                target_le_baseline := not_lt.mp hle
                validated_dated := fun hv =>
                  Option.isSome_iff_ne_none.mpr fun hn => hdate ⟨hv, hn⟩ }
        else .error (notAllowed repr "sbti_approval_status" a.sbtiApprovalStatus approvalStatuses)
      else .error (notAllowed repr "methodology" a.methodology methodologies)
    else .error (notAllowed repr "alignment" a.alignment alignments)
  else .error (notAllowed repr "scope_coverage" a.scopeCoverage scopes)

/-- The constructor gives every target back: nothing is checked beyond the fields of the type. -/
theorem make_toSbtiTargetArgs (repr : String → String) (target : SbtiTarget) :
    SbtiTarget.make repr target.toSbtiTargetArgs = .ok target := by
  have hyear := not_le.mpr target.year_order
  have hbaseline := not_le.mpr target.baseline_pos
  have htarget := not_lt.mpr target.target_nonneg
  have hle := not_lt.mpr target.target_le_baseline
  have hdate : ¬(target.sbtiApprovalStatus = "validated" ∧ target.sbtiValidationDate = none) := by
    intro h
    have hsome := target.validated_dated h.1
    rw [h.2] at hsome
    cases hsome
  unfold SbtiTarget.make
  rw [dif_pos target.scope_allowed, dif_pos target.alignment_allowed,
    dif_pos target.methodology_allowed, dif_pos target.status_allowed, dif_neg hyear,
    dif_neg hbaseline, dif_neg htarget, dif_neg hle, dif_neg hdate]

/-! ## The trajectory -/

structure TrajectoryPoint where
  year : ℤ
  trajectoryTco2e : ℚ
  actualTco2e : Option ℚ := none
  deriving DecidableEq

/-- The value that the loop computes at an offset, the end points apart. -/
def trajectoryValue (baselineTco2e targetTco2e : ℚ) (span offset : ℕ) : ℚ :=
  let deltaPerYear := (baselineTco2e - targetTco2e) / span
  if offset = 0 then baselineTco2e
  else if offset = span then targetTco2e
  else baselineTco2e - deltaPerYear * offset

def computeTrajectory (baselineYear : ℤ) (baselineTco2e : ℚ) (targetYear : ℤ) (targetTco2e : ℚ) :
    Except String (List TrajectoryPoint) :=
  if targetYear ≤ baselineYear then .error "target_year must be after baseline_year"
  else if targetTco2e < 0 ∨ baselineTco2e ≤ 0 then .error "tco2e values must be positive"
  else
    let span := (targetYear - baselineYear).toNat
    .ok ((List.range (span + 1)).map fun offset : ℕ =>
      { year := baselineYear + offset
        trajectoryTco2e := trajectoryValue baselineTco2e targetTco2e span offset })

theorem trajectoryValue_eq (b t : ℚ) {span offset : ℕ} (hspan : 0 < span) :
    trajectoryValue b t span offset = b - (b - t) / span * offset := by
  have hpos : (span : ℚ) ≠ 0 := by positivity
  unfold trajectoryValue
  by_cases hzero : offset = 0
  · rw [if_pos hzero, hzero, Nat.cast_zero, mul_zero, sub_zero]
  · rw [if_neg hzero]
    by_cases hend : offset = span
    · rw [if_pos hend, hend, div_mul_cancel₀ _ hpos, sub_sub_cancel]
    · rw [if_neg hend]

namespace SbtiTarget

variable (target : SbtiTarget)

/-- The years between the two points. -/
def span : ℕ := (target.targetYear - target.baselineYear).toNat

def lineAt (offset : ℕ) : ℚ :=
  trajectoryValue target.baselineTco2e target.targetTco2e target.span offset

/-- The reduction due each year. -/
def yearlyCut : ℚ := (target.baselineTco2e - target.targetTco2e) / target.span

def trajectory : List TrajectoryPoint :=
  (List.range (target.span + 1)).map fun offset : ℕ =>
    { year := target.baselineYear + offset, trajectoryTco2e := target.lineAt offset }

theorem span_pos : 0 < target.span := by
  have := target.year_order
  unfold span
  omega

theorem cast_span : (target.span : ℤ) = target.targetYear - target.baselineYear := by
  have := target.year_order
  unfold span
  omega

/-- On a target the service draws the line and does not raise. -/
theorem computeTrajectory_eq :
    computeTrajectory target.baselineYear target.baselineTco2e target.targetYear
      target.targetTco2e = .ok target.trajectory := by
  have hyear := not_le.mpr target.year_order
  have hvalues : ¬(target.targetTco2e < 0 ∨ target.baselineTco2e ≤ 0) := by
    rw [not_or, not_lt, not_le]
    exact ⟨target.target_nonneg, target.baseline_pos⟩
  unfold computeTrajectory
  rw [if_neg hyear, if_neg hvalues]
  rfl

theorem lineAt_eq (offset : ℕ) :
    target.lineAt offset = target.baselineTco2e - target.yearlyCut * offset :=
  trajectoryValue_eq _ _ target.span_pos

theorem yearlyCut_nonneg : 0 ≤ target.yearlyCut :=
  div_nonneg (sub_nonneg.mpr target.target_le_baseline) (Nat.cast_nonneg _)

theorem lineAt_zero : target.lineAt 0 = target.baselineTco2e := by
  rw [lineAt_eq, Nat.cast_zero, mul_zero, sub_zero]

theorem lineAt_span : target.lineAt target.span = target.targetTco2e := by
  have hne : (target.span : ℚ) ≠ 0 := Nat.cast_ne_zero.mpr target.span_pos.ne'
  rw [lineAt_eq, yearlyCut, div_mul_cancel₀ _ hne, sub_sub_cancel]

theorem lineAt_succ (offset : ℕ) :
    target.lineAt (offset + 1) = target.lineAt offset - target.yearlyCut := by
  rw [lineAt_eq, lineAt_eq]
  push_cast
  ring

theorem lineAt_antitone : Antitone target.lineAt := by
  apply antitone_nat_of_succ_le
  intro offset
  have := target.yearlyCut_nonneg
  rw [lineAt_succ]
  linarith

theorem lineAt_pos {offset : ℕ} (h : offset < target.span) : 0 < target.lineAt offset := by
  have hspan : (0 : ℚ) < target.span := Nat.cast_pos.mpr target.span_pos
  have hoffset : (offset : ℚ) < target.span := Nat.cast_lt.mpr h
  have hshare : (target.baselineTco2e - target.targetTco2e) * offset <
      target.baselineTco2e * target.span := by
    have hb := target.baseline_pos
    have ht := target.target_nonneg
    have hzero : (0 : ℚ) ≤ offset := Nat.cast_nonneg _
    nlinarith
  rw [lineAt_eq, yearlyCut, div_mul_eq_mul_div, sub_pos, div_lt_iff₀ hspan]
  exact hshare

end SbtiTarget

/-! ## The status -/

inductive TargetStatus
  | onTrack | slightlyOff | offTrack | noData
  deriving DecidableEq

def onTrackBandPct : ℚ := 5

def slightlyOffBandPct : ℚ := 10

def latestYearWithData (actualByYear : Dict ℤ ℚ) : Option ℤ :=
  actualByYear.keys.max?

/-- The two comparisons at the end of `assess_status`. -/
def bandOf (onTrack slightlyOff deltaPct : ℚ) : TargetStatus :=
  if deltaPct ≤ onTrack then .onTrack
  else if deltaPct ≤ slightlyOff then .slightlyOff
  else .offTrack

def assessStatus (target : SbtiTarget) (actualByYear : Dict ℤ ℚ) (onTrack slightlyOff : ℚ) :
    Except String TargetStatus :=
  match latestYearWithData actualByYear with
  | none => .ok .noData
  | some latestYear =>
      if latestYear < target.baselineYear then .ok .noData
      else
        match computeTrajectory target.baselineYear target.baselineTco2e target.targetYear
            target.targetTco2e with
        | .error message => .error message
        | .ok trajectory =>
            let byYear := Dict.indexBy TrajectoryPoint.year trajectory
            match (byYear.get? latestYear).map TrajectoryPoint.trajectoryTco2e with
            | none => .ok .noData
            | some trajAtLatest =>
                if trajAtLatest ≤ 0 then .ok .noData
                else
                  match actualByYear.get? latestYear with
                  | none => .error (toString latestYear)
                  | some actual =>
                      .ok (bandOf onTrack slightlyOff
                        ((actual - trajAtLatest) / trajAtLatest * 100))

theorem latestYearWithData_eq_some {actuals : Dict ℤ ℚ} {y : ℤ} :
    latestYearWithData actuals = some y ↔ y ∈ actuals.keys ∧ ∀ z ∈ actuals.keys, z ≤ y :=
  List.max?_eq_some_iff

/-- An observation that is not later than the latest one does not change which is the latest. -/
theorem latestYearWithData_set {actuals : Dict ℤ ℚ} {y z : ℤ} (w : ℚ)
    (h : latestYearWithData actuals = some y) (hz : z ≤ y) :
    latestYearWithData (actuals.set z w) = some y := by
  obtain ⟨hmem, hmax⟩ := latestYearWithData_eq_some.mp h
  apply latestYearWithData_eq_some.mpr
  constructor
  · exact mem_keys_upsertKey.mpr (.inr hmem)
  · intro x hx
    rcases mem_keys_upsertKey.mp hx with rfl | hx
    · exact hz
    · exact hmax x hx

namespace SbtiTarget

variable (target : SbtiTarget)

def InWindow (y : ℤ) : Prop :=
  target.baselineYear ≤ y ∧ y ≤ target.targetYear

instance : DecidablePred target.InWindow := fun _ => inferInstanceAs (Decidable (_ ∧ _))

/-- The value of the line in a calendar year. -/
def lineIn (y : ℤ) : ℚ := target.lineAt (y - target.baselineYear).toNat

theorem mem_trajectory {pt : TrajectoryPoint} :
    pt ∈ target.trajectory ↔
      target.InWindow pt.year ∧
        pt = { year := pt.year, trajectoryTco2e := target.lineIn pt.year } := by
  have hspan := target.cast_span
  unfold trajectory InWindow lineIn
  simp only [List.mem_map, List.mem_range]
  constructor
  · rintro ⟨offset, hoffset, rfl⟩
    have hback : (target.baselineYear + offset - target.baselineYear).toNat = offset := by omega
    refine ⟨by constructor <;> simp only <;> omega, ?_⟩
    rw [hback]
  · rintro ⟨⟨hlow, hhigh⟩, hpt⟩
    refine ⟨(pt.year - target.baselineYear).toNat, by omega, ?_⟩
    have hyear : target.baselineYear + ((pt.year - target.baselineYear).toNat : ℤ) = pt.year := by
      omega
    rw [hyear, ← hpt]

theorem get?_byYear (y : ℤ) :
    ((Dict.indexBy TrajectoryPoint.year target.trajectory).get? y).map
        TrajectoryPoint.trajectoryTco2e =
      if target.InWindow y then some (target.lineIn y) else none := by
  cases hfound : (Dict.indexBy TrajectoryPoint.year target.trajectory).get? y with
  | none =>
      have hnot : ¬target.InWindow y := by
        intro hwindow
        apply Dict.get?_indexBy_eq_none.mp hfound
        exact List.mem_map.mpr ⟨⟨y, target.lineIn y, none⟩,
          target.mem_trajectory.mpr ⟨hwindow, rfl⟩, rfl⟩
      rw [if_neg hnot, Option.map_none]
  | some pt =>
      obtain ⟨hmem, rfl⟩ := Dict.mem_of_get?_indexBy hfound
      obtain ⟨hwindow, hpt⟩ := target.mem_trajectory.mp hmem
      rw [if_pos hwindow, Option.map_some, hpt]

theorem lineIn_pos {y : ℤ} (h : target.InWindow y) (hbefore : y < target.targetYear) :
    0 < target.lineIn y := by
  have hspan := target.cast_span
  obtain ⟨hlow, -⟩ := h
  apply target.lineAt_pos
  omega

theorem lineIn_targetYear : target.lineIn target.targetYear = target.targetTco2e :=
  target.lineAt_span

/-- Inside the window the line reaches zero in the last year of a net-zero target only. -/
theorem lineIn_nonpos_iff {y : ℤ} (h : target.InWindow y) :
    target.lineIn y ≤ 0 ↔ y = target.targetYear ∧ target.targetTco2e = 0 := by
  by_cases hlast : y = target.targetYear
  · rw [hlast, lineIn_targetYear]
    have := target.target_nonneg
    constructor
    · intro hle
      exact ⟨rfl, le_antisymm hle this⟩
    · rintro ⟨-, hzero⟩
      exact hzero.le
  · have hpos := target.lineIn_pos h (lt_of_le_of_ne h.2 hlast)
    constructor
    · intro hle
      exact absurd hpos (not_lt.mpr hle)
    · intro hboth
      exact absurd hboth.1 hlast

/-- The status of a target whose latest observation is `actual` in year `y`. -/
def statusAt (onTrack slightlyOff : ℚ) (y : ℤ) (actual : ℚ) : TargetStatus :=
  if target.InWindow y ∧ 0 < target.lineIn y then
    bandOf onTrack slightlyOff ((actual - target.lineIn y) / target.lineIn y * 100)
  else .noData

end SbtiTarget

variable {target : SbtiTarget} {actuals : Dict ℤ ℚ} {y : ℤ}

theorem assessStatus_of_none (onTrack slightlyOff : ℚ) (h : latestYearWithData actuals = none) :
    assessStatus target actuals onTrack slightlyOff = .ok .noData := by
  rw [assessStatus, h]

/-- The status is a function of the latest observation. -/
theorem assessStatus_of_latest (target : SbtiTarget) {v : ℚ} (onTrack slightlyOff : ℚ)
    (h : latestYearWithData actuals = some y) (hv : actuals.get? y = some v) :
    assessStatus target actuals onTrack slightlyOff =
      .ok (target.statusAt onTrack slightlyOff y v) := by
  simp only [assessStatus, h, target.computeTrajectory_eq, target.get?_byYear, hv]
  unfold SbtiTarget.statusAt
  by_cases hbefore : y < target.baselineYear
  · have hout : ¬target.InWindow y := fun hin => absurd hbefore (not_lt.mpr hin.1)
    rw [if_pos hbefore, if_neg fun hin => hout hin.1]
  · rw [if_neg hbefore]
    by_cases hin : target.InWindow y
    · rw [if_pos hin]
      by_cases hline : target.lineIn y ≤ 0
      · rw [if_neg fun hboth => absurd hline (not_le.mpr hboth.2)]
        exact if_pos hline
      · rw [if_pos ⟨hin, not_le.mp hline⟩]
        exact if_neg hline
    · rw [if_neg hin, if_neg fun hboth => hin hboth.1]

theorem get?_of_latest (h : latestYearWithData actuals = some y) :
    ∃ v, actuals.get? y = some v := by
  obtain ⟨⟨_, v⟩, hentry, rfl⟩ := List.mem_map.mp (latestYearWithData_eq_some.mp h).1
  exact ⟨v, Dict.get?_eq_some_iff.mpr hentry⟩

/-! ## What the trajectory and the status promise -/

/-- A straight descent from the baseline to the target value, one point for each year. -/
structure StraightDescent (target : SbtiTarget) (points : List TrajectoryPoint) : Prop where
  length : (points.length : ℤ) = target.targetYear - target.baselineYear + 1
  years : ∀ (i : ℕ) (pt : TrajectoryPoint), points[i]? = some pt →
    pt.year = target.baselineYear + i
  first : points.head?.map TrajectoryPoint.trajectoryTco2e = some target.baselineTco2e
  last : points.getLast?.map TrajectoryPoint.trajectoryTco2e = some target.targetTco2e
  between : ∀ pt ∈ points,
    target.targetTco2e ≤ pt.trajectoryTco2e ∧ pt.trajectoryTco2e ≤ target.baselineTco2e
  descending : points.Pairwise fun a b => b.trajectoryTco2e ≤ a.trajectoryTco2e
  spaced : ∃ step : ℚ, ∀ (i : ℕ) (a b : TrajectoryPoint), points[i]? = some a →
    points[i + 1]? = some b → a.trajectoryTco2e - b.trajectoryTco2e = step

theorem getElem?_trajectory {i : ℕ} {pt : TrajectoryPoint}
    (h : target.trajectory[i]? = some pt) :
    i ≤ target.span ∧
      pt = { year := target.baselineYear + i, trajectoryTco2e := target.lineAt i } := by
  unfold SbtiTarget.trajectory at h
  rw [List.getElem?_map, Option.map_eq_some_iff] at h
  obtain ⟨offset, hoffset, rfl⟩ := h
  obtain ⟨hlt, heq⟩ := List.getElem?_eq_some_iff.mp hoffset
  rw [List.length_range] at hlt
  rw [List.getElem_range] at heq
  subst heq
  exact ⟨by omega, rfl⟩

theorem straightDescent_trajectory (target : SbtiTarget) :
    StraightDescent target target.trajectory where
  length := by
    have := target.cast_span
    unfold SbtiTarget.trajectory
    rw [List.length_map, List.length_range]
    push_cast
    omega
  years i pt h := by
    rw [(getElem?_trajectory h).2]
  first := by
    unfold SbtiTarget.trajectory
    rw [List.range_succ_eq_map, List.map_cons, List.head?_cons, Option.map_some, target.lineAt_zero]
  last := by
    unfold SbtiTarget.trajectory
    rw [List.range_succ, List.map_append, List.map_singleton, List.getLast?_append,
      List.getLast?_singleton, Option.some_or, Option.map_some, target.lineAt_span]
  between pt h := by
    obtain ⟨offset, hoffset, rfl⟩ := List.mem_map.mp h
    have hle : offset ≤ target.span := by
      have := List.mem_range.mp hoffset
      omega
    constructor
    · rw [← target.lineAt_span]
      exact target.lineAt_antitone hle
    · rw [← target.lineAt_zero]
      exact target.lineAt_antitone (Nat.zero_le offset)
  descending := by
    apply List.pairwise_map.mpr
    apply List.pairwise_lt_range.imp
    intro i j hij
    exact target.lineAt_antitone hij.le
  spaced := by
    refine ⟨target.yearlyCut, ?_⟩
    intro i a b ha hb
    rw [(getElem?_trajectory ha).2, (getElem?_trajectory hb).2]
    simp only [target.lineAt_succ, sub_sub_cancel]

/-- A higher percentage never improves the band. -/
theorem bandOf_mono (onTrack slightlyOff : ℚ) {p q : ℚ} (h : p ≤ q) :
    (bandOf onTrack slightlyOff p = .offTrack → bandOf onTrack slightlyOff q = .offTrack) ∧
      (bandOf onTrack slightlyOff p = .slightlyOff → bandOf onTrack slightlyOff q ≠ .onTrack) := by
  unfold bandOf
  by_cases hp : p ≤ onTrack
  · simp [hp]
  · have hq : ¬q ≤ onTrack := fun hq => hp (h.trans hq)
    by_cases hp' : p ≤ slightlyOff
    · rw [if_neg hp, if_pos hp', if_neg hq]
      constructor
      · simp
      · intro _
        by_cases hq' : q ≤ slightlyOff <;> simp [hq']
    · have hq' : ¬q ≤ slightlyOff := fun hq' => hp' (h.trans hq')
      rw [if_neg hp, if_neg hp', if_neg hq, if_neg hq']
      simp

theorem statusAt_mono (target : SbtiTarget) (y : ℤ) (onTrack slightlyOff : ℚ) {v w : ℚ}
    (h : v ≤ w) :
    (target.statusAt onTrack slightlyOff y v = .offTrack →
        target.statusAt onTrack slightlyOff y w = .offTrack) ∧
      (target.statusAt onTrack slightlyOff y v = .slightlyOff →
        target.statusAt onTrack slightlyOff y w ≠ .onTrack) := by
  unfold SbtiTarget.statusAt
  by_cases hin : target.InWindow y ∧ 0 < target.lineIn y
  · rw [if_pos hin, if_pos hin]
    apply bandOf_mono
    have hnonneg := hin.2.le
    gcongr
  · rw [if_neg hin, if_neg hin]
    simp

/-- The trajectory is a straight descent; the status can only worsen when the latest observation
rises, and no earlier observation matters to it. -/
theorem trajectory_and_status (target : SbtiTarget) :
    (∃ points, computeTrajectory target.baselineYear target.baselineTco2e target.targetYear
        target.targetTco2e = .ok points ∧ StraightDescent target points) ∧
      ∀ (actuals : Dict ℤ ℚ) (onTrack slightlyOff : ℚ) (y : ℤ) (v : ℚ),
        latestYearWithData actuals = some y → actuals.get? y = some v →
          (∀ w, v ≤ w →
            (assessStatus target actuals onTrack slightlyOff = .ok .offTrack →
              assessStatus target (actuals.set y w) onTrack slightlyOff ≠ .ok .slightlyOff ∧
              assessStatus target (actuals.set y w) onTrack slightlyOff ≠ .ok .onTrack) ∧
            (assessStatus target actuals onTrack slightlyOff = .ok .slightlyOff →
              assessStatus target (actuals.set y w) onTrack slightlyOff ≠ .ok .onTrack)) ∧
          ∀ z w, z < y → assessStatus target (actuals.set z w) onTrack slightlyOff =
            assessStatus target actuals onTrack slightlyOff := by
  constructor
  · exact ⟨target.trajectory, target.computeTrajectory_eq, straightDescent_trajectory target⟩
  intro actuals onTrack slightlyOff y v hlatest hv
  have hbefore := assessStatus_of_latest target onTrack slightlyOff hlatest hv
  constructor
  · intro w hw
    have hvalue : (actuals.set y w).get? y = some w := by
      rw [Dict.get?_set, if_pos rfl]
    have hafter := assessStatus_of_latest target onTrack slightlyOff
      (latestYearWithData_set w hlatest le_rfl) hvalue
    obtain ⟨hoff, hslightly⟩ := statusAt_mono target y onTrack slightlyOff hw
    rw [hbefore, hafter]
    simp only [Except.ok.injEq, ne_eq]
    constructor
    · intro h
      rw [hoff h]
      decide
    · exact hslightly
  · intro z w hz
    have hvalue : (actuals.set z w).get? y = some v := by
      rw [Dict.get?_set, if_neg hz.ne, hv]
    rw [hbefore]
    exact assessStatus_of_latest target onTrack slightlyOff
      (latestYearWithData_set w hlatest hz.le) hvalue

/-! ## The documented status -/

/-- The thresholds as `TargetStatus` documents them. -/
def documentedBand (actual trajectory : ℚ) : TargetStatus :=
  if actual ≤ trajectory * (105 / 100) then .onTrack
  else if actual ≤ trajectory * (110 / 100) then .slightlyOff
  else .offTrack

def latestYearInWindow (target : SbtiTarget) (actuals : Dict ℤ ℚ) : Option ℤ :=
  (actuals.keys.filter fun y => decide (target.InWindow y)).max?

/-- `NO_DATA` for an empty window, and the documented band of the latest observation in it
otherwise. -/
structure NeverBlind (target : SbtiTarget) (actuals : Dict ℤ ℚ) : Prop where
  noData_iff : assessStatus target actuals onTrackBandPct slightlyOffBandPct = .ok .noData ↔
    ∀ y ∈ actuals.keys, ¬target.InWindow y
  banded : ∀ y v, latestYearInWindow target actuals = some y → actuals.get? y = some v →
    assessStatus target actuals onTrackBandPct slightlyOffBandPct =
      .ok (documentedBand v (target.lineIn y))

/-- On a positive line the percentages of the code are the documented thresholds. -/
theorem bandOf_eq_documentedBand {actual line : ℚ} (h : 0 < line) :
    bandOf onTrackBandPct slightlyOffBandPct ((actual - line) / line * 100) =
      documentedBand actual line := by
  have hle : ∀ pct : ℚ,
      (actual - line) / line * 100 ≤ pct ↔ actual ≤ line * ((100 + pct) / 100) := by
    intro pct
    rw [div_mul_eq_mul_div, div_le_iff₀ h]
    constructor
    · intro hpct
      linarith
    · intro hactual
      linarith
  unfold bandOf documentedBand
  simp only [hle, onTrackBandPct, slightlyOffBandPct]
  norm_num

theorem bandOf_ne_noData (onTrack slightlyOff p : ℚ) : bandOf onTrack slightlyOff p ≠ .noData := by
  unfold bandOf
  split_ifs <;> simp

theorem latestYearInWindow_eq_some :
    latestYearInWindow target actuals = some y ↔
      (y ∈ actuals.keys ∧ target.InWindow y) ∧
        ∀ z ∈ actuals.keys, target.InWindow z → z ≤ y := by
  unfold latestYearInWindow
  rw [List.max?_eq_some_iff]
  simp only [List.mem_filter, decide_eq_true_eq, and_imp]

theorem noData_of_empty_window (onTrack slightlyOff : ℚ)
    (h : ∀ y ∈ actuals.keys, ¬target.InWindow y) :
    assessStatus target actuals onTrack slightlyOff = .ok .noData := by
  cases hlatest : latestYearWithData actuals with
  | none => exact assessStatus_of_none onTrack slightlyOff hlatest
  | some y =>
      obtain ⟨v, hv⟩ := get?_of_latest hlatest
      have hout := h y (latestYearWithData_eq_some.mp hlatest).1
      rw [assessStatus_of_latest target onTrack slightlyOff hlatest hv, SbtiTarget.statusAt,
        if_neg fun hin => hout hin.1]

/-- The observations that the status can speak about: none in the window, or none after it and none
where the line of a net-zero target ends at zero. -/
def Seen (target : SbtiTarget) (actuals : Dict ℤ ℚ) : Prop :=
  (∀ y ∈ actuals.keys, ¬target.InWindow y) ∨
    (∀ y ∈ actuals.keys, y ≤ target.targetYear) ∧
      ¬(target.targetTco2e = 0 ∧ target.targetYear ∈ actuals.keys)

/-- A latest observation after the window, or where the line is zero, hides all the others. -/
theorem noData_of_not_seen (onTrack slightlyOff : ℚ)
    (h : ¬((∀ y ∈ actuals.keys, y ≤ target.targetYear) ∧
      ¬(target.targetTco2e = 0 ∧ target.targetYear ∈ actuals.keys))) :
    assessStatus target actuals onTrack slightlyOff = .ok .noData := by
  cases hlatest : latestYearWithData actuals with
  | none => exact assessStatus_of_none onTrack slightlyOff hlatest
  | some m =>
      obtain ⟨v, hv⟩ := get?_of_latest hlatest
      obtain ⟨-, hmax⟩ := latestYearWithData_eq_some.mp hlatest
      rw [assessStatus_of_latest target onTrack slightlyOff hlatest hv, SbtiTarget.statusAt, if_neg]
      rintro ⟨hin, hline⟩
      apply h
      constructor
      · intro z hz
        exact (hmax z hz).trans hin.2
      · rintro ⟨hzero, hlast⟩
        have hm : m = target.targetYear := le_antisymm hin.2 (hmax _ hlast)
        rw [hm, target.lineIn_targetYear, hzero] at hline
        exact lt_irrefl _ hline

theorem neverBlind_of_latest {v : ℚ} (hlatest : latestYearWithData actuals = some y)
    (hv : actuals.get? y = some v) (hin : target.InWindow y) (hline : 0 < target.lineIn y) :
    NeverBlind target actuals := by
  obtain ⟨hmem, hmax⟩ := latestYearWithData_eq_some.mp hlatest
  have hstatus : assessStatus target actuals onTrackBandPct slightlyOffBandPct =
      .ok (documentedBand v (target.lineIn y)) := by
    rw [assessStatus_of_latest target _ _ hlatest hv, SbtiTarget.statusAt, if_pos ⟨hin, hline⟩,
      bandOf_eq_documentedBand hline]
  constructor
  · rw [hstatus, ← bandOf_eq_documentedBand hline]
    constructor
    · intro hno
      exact absurd (Except.ok.inj hno) (bandOf_ne_noData _ _ _)
    · intro hempty
      exact absurd hin (hempty y hmem)
  · intro z w hz hw
    obtain ⟨⟨hzmem, -⟩, hzmax⟩ := latestYearInWindow_eq_some.mp hz
    have hsame : z = y := le_antisymm (hmax z hzmem) (hzmax y hmem hin)
    subst hsame
    rw [hv] at hw
    rw [hstatus, Option.some.inj hw]

/-- The status is right exactly on what it can see. -/
theorem neverBlind_iff (target : SbtiTarget) (actuals : Dict ℤ ℚ) :
    NeverBlind target actuals ↔ Seen target actuals := by
  by_cases hempty : ∀ y ∈ actuals.keys, ¬target.InWindow y
  · refine ⟨fun _ => .inl hempty, fun _ => ⟨?_, ?_⟩⟩
    · exact ⟨fun _ => hempty, noData_of_empty_window _ _⟩
    · intro y v hy _
      obtain ⟨⟨hmem, hin⟩, -⟩ := latestYearInWindow_eq_some.mp hy
      exact absurd hin (hempty y hmem)
  · constructor
    · intro hblind
      right
      by_contra hnot
      exact hempty (hblind.noData_iff.mp (noData_of_not_seen _ _ hnot))
    · rintro (hnone | ⟨hbefore, hzero⟩)
      · exact absurd hnone hempty
      · obtain ⟨z, hz, hzin⟩ := not_forall₂.mp hempty
        cases hlatest : latestYearWithData actuals with
        | none =>
            rw [latestYearWithData, List.max?_eq_none_iff] at hlatest
            rw [hlatest] at hz
            cases hz
        | some m =>
            obtain ⟨v, hv⟩ := get?_of_latest hlatest
            obtain ⟨hmem, hmax⟩ := latestYearWithData_eq_some.mp hlatest
            have hin : target.InWindow m :=
              ⟨(not_not.mp hzin).1.trans (hmax z hz), hbefore m hmem⟩
            apply neverBlind_of_latest hlatest hv hin
            by_contra hline
            obtain ⟨rfl, ht⟩ := (target.lineIn_nonpos_iff hin).mp (not_lt.mp hline)
            exact hzero ⟨ht, hmem⟩

/-- A target of no emissions in 2030, down from 100 tonnes in 2020. -/
def netZero : SbtiTarget where
  scopeCoverage := "S1"
  baselineYear := 2020
  baselineTco2e := 100
  targetYear := 2030
  targetTco2e := 0
  alignment := "1.5C"
  methodology := "SBTi_NetZero"
  sbtiApprovalStatus := "none"
  sbtiValidationDate := none
  scope_allowed := by decide
  alignment_allowed := by decide
  methodology_allowed := by decide
  status_allowed := by decide
  year_order := by decide
  baseline_pos := by norm_num
  target_nonneg := le_rfl
  target_le_baseline := by norm_num
  validated_dated := by decide

/-- Fifty tonnes in the target year of a net-zero target are off track, and shown as no data. -/
theorem netZero_missed :
    netZero.InWindow 2030 ∧ 0 ≤ (50 : ℚ) ∧
      latestYearInWindow netZero (Dict.empty.set 2030 50) = some 2030 ∧
      documentedBand 50 (netZero.lineIn 2030) = .offTrack ∧
      assessStatus netZero (Dict.empty.set 2030 50) onTrackBandPct slightlyOffBandPct =
        .ok .noData ∧
      ¬NeverBlind netZero (Dict.empty.set 2030 50) := by
  have hlatest : latestYearWithData (Dict.empty.set 2030 50 : Dict ℤ ℚ) = some 2030 := rfl
  have hstatus : assessStatus netZero (Dict.empty.set 2030 50) onTrackBandPct
      slightlyOffBandPct = .ok .noData := by
    apply noData_of_not_seen
    exact fun h => h.2 ⟨rfl, by decide⟩
  have hin : netZero.InWindow 2030 := by decide
  refine ⟨hin, by norm_num, by decide, ?_, hstatus, ?_⟩
  · rw [show netZero.lineIn 2030 = 0 from netZero.lineIn_targetYear]
    norm_num [documentedBand]
  · intro hblind
    exact hblind.noData_iff.mp hstatus 2030 (by decide) hin

end GhgTool.SbtiService
