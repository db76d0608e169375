import GhgTool.Runs
import GhgTool.DualTrack

/-!
# Sequences of runs for one tenant and year

Raw rows arrive, time passes, and runs are started by hand, by the scheduler or as a dual-track
pair. No run looks at `ops.calc_runs` for its correlation id and none closes the rows of an earlier
run, so a stream can be calculated once; the law for re-runs holds along exactly the sequences
that never try a second time.
-/

namespace GhgTool

open CalcOrchestrator

def secondsPerDay : ℕ := 86400

/-- `_deterministic_correlation_id`, with the UTC day read off the clock. -/
def deterministicCorrelationId (anno : ℕ) (regulatoryStream : RegulatoryStream)
    (clock : Timestamp) : CorrelationId :=
  .scheduled anno regulatoryStream (clock / secondsPerDay)

def CorrelationId.isDeterministic : CorrelationId → Bool
  | .drawn _ => false
  | .scheduled _ _ _ => true

/-- The two jobs of `start_scheduler`. -/
def scheduledGwpSet : RegulatoryStream → GwpSet
  | .csrdEsrsE1 => .ar6
  | .euEtsPhaseIv => .ar5

/-- The call made by `_run_scheduled_calc`. -/
def scheduledSpec (tenantId : Uuid) (anno : ℕ) (clock : Timestamp)
    (regulatoryStream : RegulatoryStream) : RunSpec where
  tenantId := tenantId
  anno := anno
  correlationId := deterministicCorrelationId anno regulatoryStream clock
  gwpSet := scheduledGwpSet regulatoryStream
  regulatoryStream := regulatoryStream
  createdBy := "calc_scheduler"

inductive ReportingEvent
  | addRaw (scope1 : List RawScope1Row) (scope2 : List RawScope2Row) (scope3 : List RawScope3Row)
  | wait (seconds : ℕ)
  | runCalc (correlationId : CorrelationId) (gwpSet : GwpSet) (regulatoryStream : RegulatoryStream)
      (createdBy : String)
  | scheduled (regulatoryStream : RegulatoryStream)
  | dualTrack (correlationId : CorrelationId)

/-- A run that returned, with what it wrote. -/
structure WrittenRun where
  spec : RunSpec
  records : List EmissionRecord

/-- The database and the runs that have written to it, oldest first. -/
structure ReportingState where
  db : Database
  written : List WrittenRun

def runRecords (db : Database) (spec : RunSpec) : List EmissionRecord :=
  match orchestrate db spec with
  | .error _ => []
  | .ok records => records

section Events

variable (tenantId : Uuid) (anno : ℕ)

/-- The calculation runs an event asks for. -/
def ReportingEvent.specs (clock : Timestamp) : ReportingEvent → List RunSpec
  | .addRaw _ _ _ => []
  | .wait _ => []
  | .runCalc correlationId gwpSet regulatoryStream createdBy =>
    [⟨tenantId, anno, correlationId, gwpSet, regulatoryStream, createdBy⟩]
  | .scheduled regulatoryStream => [scheduledSpec tenantId anno clock regulatoryStream]
  | .dualTrack correlationId =>
    [csrdTrack tenantId anno correlationId, etsTrack tenantId anno correlationId]

/-- One transaction that writes the given runs. -/
def performed (s : ReportingState) (specs : List RunSpec) (result : Except RunError Database) :
    Except RunError ReportingState :=
  match result with
  | .error e => .error e
  | .ok db => .ok ⟨db, s.written ++ specs.map fun spec => ⟨spec, runRecords s.db spec⟩⟩

def ReportingEvent.handle (s : ReportingState) (e : ReportingEvent) :
    Except RunError ReportingState :=
  match e with
  | .addRaw scope1 scope2 scope3 =>
    .ok { s with db := { s.db with
      scope1 := s.db.scope1 ++ scope1
      scope2 := s.db.scope2 ++ scope2
      scope3 := s.db.scope3 ++ scope3 } }
  | .wait seconds => .ok { s with db := { s.db with clock := s.db.clock + seconds } }
  | .runCalc correlationId gwpSet regulatoryStream createdBy =>
    let spec : RunSpec := ⟨tenantId, anno, correlationId, gwpSet, regulatoryStream, createdBy⟩
    performed s [spec] (runCalcAndPersist s.db spec)
  | .scheduled regulatoryStream =>
    let spec := scheduledSpec tenantId anno s.db.clock regulatoryStream
    performed s [spec] (runCalcAndPersist s.db spec)
  | .dualTrack correlationId =>
    performed s [csrdTrack tenantId anno correlationId, etsTrack tenantId anno correlationId]
      (runDualTrackAndPersist s.db tenantId anno correlationId)

/-- A run that raises leaves everything as it was. -/
def ReportingEvent.step (s : ReportingState) (e : ReportingEvent) : ReportingState :=
  match e.handle tenantId anno s with
  | .error _ => s
  | .ok s' => s'

/-- The correlation id of the run is that of a run of the tenant in `ops.calc_runs`. -/
def Recorded (db : Database) (spec : RunSpec) : Prop :=
  ∃ r ∈ db.calcRuns, r.tenantId = spec.tenantId ∧ r.correlationId = spec.correlationId

def activeRows (t : EmissionsTable) (regulatoryStream : RegulatoryStream) : List EmissionRow :=
  t.rows.filter fun r => decide (r.Active ∧ r.tenantId = tenantId ∧ r.anno = anno ∧
    r.regulatoryStream = regulatoryStream)

/-- Each run of the event either does nothing because its correlation id is recorded, or writes
its records. -/
def RunsReturn (s : ReportingState) (e : ReportingEvent) : Prop :=
  ∀ spec ∈ e.specs tenantId anno s.db.clock,
    Recorded s.db spec ∧ e.handle tenantId anno s = .ok s ∨
      ∃ s' records, e.handle tenantId anno s = .ok s' ∧ orchestrate s.db spec = .ok records ∧
        ⟨spec, records⟩ ∈ s'.written

/-- Per stream, the active rows are exactly the records of the last run that wrote. -/
def LastRunActive (s : ReportingState) : Prop :=
  ∀ stream w,
    (s.written.filter fun w => decide (w.spec.regulatoryStream = stream)).getLast? = some w →
      ∃ now id, activeRows tenantId anno s.db.emissions stream =
        emissionParams tenantId now id w.records

/-- No two runs with the same deterministic correlation id have written. -/
def WritesOnce (s : ReportingState) : Prop :=
  s.written.Pairwise fun v w => w.spec.correlationId.isDeterministic = true →
    v.spec.correlationId ≠ w.spec.correlationId

end Events

/-- What a single-track run needs of the state it meets. -/
structure RunCondition (db : Database) (spec : RunSpec) : Prop where
  calculates : ∃ records, orchestrate db spec = .ok records
  persistable : Persistable db spec.tenantId spec.anno
  streamFree : activeRows spec.tenantId spec.anno db.emissions spec.regulatoryStream = []
  sitesFree : ∀ row ∈ db.emissions.rows, row.Active → row.tenantId = spec.tenantId →
    row.codiceSito.isSome = true →
      (row.subScope, row.codiceSito, row.anno) ∉ tagBlocks (slotBlocks (runInputs db spec))
  unrecorded : spec.correlationId.isDeterministic = true → ¬ Recorded db spec

/-- The condition under which an event obeys the law: it is no dual-track run, and the run it
starts, if any, meets `RunCondition`. -/
def RerunCondition (tenantId : Uuid) (anno : ℕ) (s : ReportingState) : ReportingEvent → Prop
  | .addRaw _ _ _ => True
  | .wait _ => True
  | .runCalc correlationId gwpSet regulatoryStream createdBy =>
    RunCondition s.db ⟨tenantId, anno, correlationId, gwpSet, regulatoryStream, createdBy⟩
  | .scheduled regulatoryStream =>
    RunCondition s.db (scheduledSpec tenantId anno s.db.clock regulatoryStream)
  | .dualTrack _ => False

section SingleRun

variable {db : Database} {spec : RunSpec} {records : List EmissionRecord}

/-- What a run that gets past the ledger leaves behind. -/
def persisted (db : Database) (spec : RunSpec) (records : List EmissionRecord)
    (t : EmissionsTable) : Database :=
  { db with
    emissions := t
    calcRuns := db.calcRuns ++ [calcRunRow spec (freshRunId db.calcRuns) none records] }

theorem runCalcAndPersist_eq_ok {t : EmissionsTable} (hrun : orchestrate db spec = .ok records)
    (hins : insertEmissions db spec.tenantId db.emissions records = .ok t) :
    runCalcAndPersist db spec = .ok (persisted db spec records t) := by
  have hrow : insertCalcRun db.calcRuns
      (calcRunRow spec (freshRunId db.calcRuns) none records) =
        .ok (db.calcRuns ++ [calcRunRow spec (freshRunId db.calcRuns) none records]) := by
    simp [insertCalcRun, calcRunRow, freshRunId_notMem]
  have hpersist : persistEmissions db spec records = .ok (persisted db spec records t) := by
    rw [persistEmissions, bind_eq_ok]
    refine ⟨t, hins, bind_eq_ok.mpr ⟨_, hrow, bind_eq_ok.mpr ⟨(), ?_, rfl⟩⟩⟩
    simp [enforceDualRunReciprocity, calcRunRow]
  simp only [runCalcAndPersist, hrun, hpersist]

/-- Under the condition no active row stands in the way of the run. -/
theorem not_blocks_of_condition (hrun : orchestrate db spec = .ok records)
    (hcond : RunCondition db spec) :
    ∀ row ∈ db.emissions.rows, ∀ r ∈ records, ¬ BlocksRecord spec.tenantId row r := by
  rintro row hrow r hr ⟨hactive, hkey | hsite⟩
  · simp only [EmissionRow.naturalKey, emissionToParams, NaturalKey.mk.injEq] at hkey
    obtain ⟨htenant, -, -, -, hanno, hstream, -⟩ := hkey
    have hstamped := ((shows_orchestrate hrun).2 r hr).regulatoryStream
    have hmem : row ∈ activeRows spec.tenantId spec.anno db.emissions spec.regulatoryStream := by
      rw [activeRows, List.mem_filter, decide_eq_true_iff]
      exact ⟨hrow, hactive, htenant, hanno.trans (anno_of_record hrun hr),
        hstream.trans hstamped⟩
    rw [hcond.streamFree] at hmem
    cases hmem
  · obtain ⟨hsome, htenant, hcodice, -, hsub, hanno⟩ := hsite
    have hslot : (row.subScope, row.codiceSito, row.anno) = r.slot := by
      rw [hsub, hcodice, hanno]
      rfl
    refine hcond.sitesFree row hrow hactive htenant hsome ?_
    rw [hslot]
    exact slot_mem hrun hr

theorem runCalcAndPersist_of_condition (hcond : RunCondition db spec) :
    ∃ records t, orchestrate db spec = .ok records ∧
      t.rows = db.emissions.rows ++
        emissionParams spec.tenantId db.clock db.emissions.freshId records ∧
      runCalcAndPersist db spec = .ok (persisted db spec records t) := by
  obtain ⟨records, hrun⟩ := hcond.calculates
  obtain ⟨t, hins⟩ := (insertEmissions_succeeds db spec.tenantId db.emissions records).mpr
    ⟨(insertable_records hrun).mpr ⟨hcond.persistable.year, hcond.persistable.nilFactor⟩,
      not_blocks_of_condition hrun hcond,
      (pairwise_records hrun).mpr hcond.persistable.onePerKey⟩
  exact ⟨records, t, hrun, insertEmissions_stores hins, runCalcAndPersist_eq_ok hrun hins⟩

/-- The new rows are active rows of the run's stream, and of no other. -/
theorem activeRows_emissionParams (hrun : orchestrate db spec = .ok records) (now : Timestamp)
    (id : ℕ) (stream : RegulatoryStream) :
    ((emissionParams spec.tenantId now id records).filter fun r => decide (r.Active ∧
      r.tenantId = spec.tenantId ∧ r.anno = spec.anno ∧ r.regulatoryStream = stream)) =
      if spec.regulatoryStream = stream then emissionParams spec.tenantId now id records else [] := by
  have hfields : ∀ row ∈ emissionParams spec.tenantId now id records, row.Active ∧
      row.tenantId = spec.tenantId ∧ row.anno = spec.anno ∧
        row.regulatoryStream = spec.regulatoryStream := by
    intro row hrow
    obtain ⟨r, hr, id', -, rfl⟩ := mem_emissionParams hrow
    exact ⟨rfl, rfl, anno_of_record hrun hr, ((shows_orchestrate hrun).2 r hr).regulatoryStream⟩
  by_cases h : spec.regulatoryStream = stream
  · rw [if_pos h, List.filter_eq_self]
    intro row hrow
    obtain ⟨hactive, htenant, hanno, hstream⟩ := hfields row hrow
    exact decide_eq_true ⟨hactive, htenant, hanno, hstream.trans h⟩
  · rw [if_neg h, List.filter_eq_nil_iff]
    intro row hrow hrow'
    exact h ((hfields row hrow).2.2.2.symm.trans (of_decide_eq_true hrow').2.2.2)

end SingleRun

/-- What holds in every state the sequence reaches. -/
structure RerunInvariant (tenantId : Uuid) (anno : ℕ) (s : ReportingState) : Prop where
  lastRunActive : LastRunActive tenantId anno s
  writesOnce : WritesOnce s
  recorded : ∀ w ∈ s.written, ∃ r ∈ s.db.calcRuns, r.tenantId = tenantId ∧
    r.correlationId = w.spec.correlationId

/-- A run under its condition returns, is written down, and keeps the invariant. -/
theorem performed_of_condition {s : ReportingState} {spec : RunSpec}
    (hs : RerunInvariant spec.tenantId spec.anno s) (hcond : RunCondition s.db spec) :
    ∃ s' records, performed s [spec] (runCalcAndPersist s.db spec) = .ok s' ∧
      orchestrate s.db spec = .ok records ∧ ⟨spec, records⟩ ∈ s'.written ∧
      RerunInvariant spec.tenantId spec.anno s' := by
  obtain ⟨records, t, hrun, hrows, hok⟩ := runCalcAndPersist_of_condition hcond
  have hrecords : runRecords s.db spec = records := by simp only [runRecords, hrun]
  have hactive : ∀ stream, activeRows spec.tenantId spec.anno t stream =
      activeRows spec.tenantId spec.anno s.db.emissions stream ++
        if spec.regulatoryStream = stream then
          emissionParams spec.tenantId s.db.clock s.db.emissions.freshId records else [] := by
    intro stream
    rw [activeRows, hrows, List.filter_append, activeRows_emissionParams hrun]
    rfl
  refine ⟨⟨persisted s.db spec records t, s.written ++ [⟨spec, records⟩]⟩, records, ?_, hrun,
    by simp, ?_, ?_, ?_⟩
  · simp only [performed, hok, List.map_cons, List.map_nil, hrecords]
  · intro stream w hw
    show ∃ now id, activeRows spec.tenantId spec.anno t stream = _
    rw [hactive]
    by_cases hstream : spec.regulatoryStream = stream
    · have hlast : w = ⟨spec, records⟩ := by
        simpa [List.filter_append, hstream] using hw.symm
      subst hlast hstream
      rw [hcond.streamFree, if_pos rfl]
      exact ⟨_, _, rfl⟩
    · rw [if_neg hstream, List.append_nil]
      exact hs.lastRunActive stream w (by simpa [List.filter_append, hstream] using hw)
  · refine List.pairwise_append.mpr ⟨hs.writesOnce, by simp, ?_⟩
    intro v hv w hw hdet heq
    rw [List.mem_singleton.mp hw] at hdet heq
    obtain ⟨r, hr, htenant, hcorrelation⟩ := hs.recorded v hv
    exact hcond.unrecorded hdet ⟨r, hr, htenant, hcorrelation.trans heq⟩
  · intro w hw
    rcases List.mem_append.mp hw with hw | hw
    · obtain ⟨r, hr, hfields⟩ := hs.recorded w hw
      exact ⟨r, List.mem_append_left _ hr, hfields⟩
    · rw [List.mem_singleton.mp hw]
      exact ⟨calcRunRow spec (freshRunId s.db.calcRuns) none records,
        by simp [persisted], rfl, rfl⟩

section Law

variable {tenantId : Uuid} {anno : ℕ} {s : ReportingState} {e : ReportingEvent}

theorem handle_of_condition (hs : RerunInvariant tenantId anno s)
    (hcond : RerunCondition tenantId anno s e) :
    RunsReturn tenantId anno s e ∧ RerunInvariant tenantId anno (e.step tenantId anno s) := by
  have hrun : ∀ spec : RunSpec, spec.tenantId = tenantId → spec.anno = anno →
      RunCondition s.db spec → e.specs tenantId anno s.db.clock = [spec] →
      e.handle tenantId anno s = performed s [spec] (runCalcAndPersist s.db spec) →
      RunsReturn tenantId anno s e ∧ RerunInvariant tenantId anno (e.step tenantId anno s) := by
    rintro spec rfl rfl hspec hspecs hhandle
    obtain ⟨s', records, hok, hcalc, hmem, hinv⟩ := performed_of_condition hs hspec
    rw [← hhandle] at hok
    refine ⟨fun spec' h => ?_, by simpa only [ReportingEvent.step, hok] using hinv⟩
    rw [hspecs, List.mem_singleton] at h
    subst h
    exact .inr ⟨s', records, hok, hcalc, hmem⟩
  cases e with
  | addRaw scope1 scope2 scope3 =>
      exact ⟨fun _ h => (List.not_mem_nil h).elim, hs.lastRunActive, hs.writesOnce, hs.recorded⟩
  | wait seconds =>
      exact ⟨fun _ h => (List.not_mem_nil h).elim, hs.lastRunActive, hs.writesOnce, hs.recorded⟩
  | runCalc correlationId gwpSet regulatoryStream createdBy =>
      exact hrun _ rfl rfl hcond rfl rfl
  | scheduled regulatoryStream => exact hrun _ rfl rfl hcond rfl rfl
  | dualTrack correlationId => exact hcond.elim

end Law

/-- The re-run law, for every sequence of events each of which meets the condition: every run
returns, after every event the active rows of each stream are those of its last run, and no two
runs with the same deterministic correlation id have written. -/
theorem rerun_law (tenantId : Uuid) (anno : ℕ) (s : ReportingState) (hs : s.written = [])
    (events : List ReportingEvent)
    (hcond : Along (ReportingEvent.step tenantId anno) (RerunCondition tenantId anno) s events) :
    Along (ReportingEvent.step tenantId anno) (fun s e => RunsReturn tenantId anno s e ∧
        LastRunActive tenantId anno (e.step tenantId anno s)) s events ∧
      WritesOnce (run (ReportingEvent.step tenantId anno) s events) := by
  have hinv : RerunInvariant tenantId anno s :=
    ⟨by simp [LastRunActive, hs], by simp [WritesOnce, hs], by simp [hs]⟩
  have hstep : ∀ s e, RerunInvariant tenantId anno s → RerunCondition tenantId anno s e →
      RerunInvariant tenantId anno (e.step tenantId anno s) :=
    fun s e hs hcond => (handle_of_condition hs hcond).2
  refine ⟨hcond.imp hinv hstep fun s e hs hcond => ?_, (hcond.run_invariant hinv hstep).writesOnce⟩
  obtain ⟨hreturn, hnext⟩ := handle_of_condition hs hcond
  exact ⟨hreturn, hnext.lastRunActive⟩

/-- A ledger without rows, and a catalog from which the zero-lines can be persisted. -/
def blankReporting : ReportingState :=
  ⟨blankDatabase nilFactorCatalog, []⟩

def csrdReported : ReportingState :=
  ReportingEvent.step 1 2024 blankReporting (.scheduled .csrdEsrsE1)

theorem csrdReported_frame : csrdReported.db.scope1 = [] ∧ csrdReported.db.scope2 = [] ∧
    csrdReported.db.scope3 = [] ∧ csrdReported.db.clock = 0 := by
  decide +kernel

theorem oneRecordPerKey_nil : OneRecordPerKey ⟨[], [], [], []⟩ :=
  ⟨by simp, by simp, by simp, by simp, by simp, by simp⟩

theorem runCondition_blank :
    RunCondition blankReporting.db (scheduledSpec 1 2024 0 .csrdEsrsE1) where
  calculates := exists_ok_of_toBool (by decide +kernel)
  persistable := ⟨by decide, by decide, oneRecordPerKey_nil⟩
  streamFree := rfl
  sitesFree := fun _ hrow => (List.not_mem_nil hrow).elim
  unrecorded := by
    rintro - ⟨r, hr, -⟩
    cases hr

theorem runCondition_csrdReported :
    RunCondition csrdReported.db (scheduledSpec 1 2024 csrdReported.db.clock .euEtsPhaseIv) where
  calculates := exists_ok_of_toBool (by decide +kernel)
  persistable := by
    obtain ⟨hscope1, hscope2, hscope3, -⟩ := csrdReported_frame
    refine ⟨by decide, by decide +kernel, ?_⟩
    rw [loadRawRows, hscope1, hscope2, hscope3]
    exact oneRecordPerKey_nil
  streamFree := List.isEmpty_iff.mp (by decide +kernel)
  sitesFree := by
    have hcorporate : ∀ row ∈ csrdReported.db.emissions.rows, row.codiceSito.isSome = false := by
      decide +kernel
    intro row hrow _ _ hsome
    rw [hcorporate row hrow] at hsome
    cases hsome
  unrecorded := by
    have hfresh : ∀ r ∈ csrdReported.db.calcRuns,
        r.correlationId ≠ .scheduled 2024 .euEtsPhaseIv 0 := by
      decide +kernel
    rintro - ⟨r, hr, -, hid⟩
    rw [csrdReported_frame.2.2.2] at hid
    exact hfresh r hr hid

/-- The two scheduled jobs of one day, each run once. -/
theorem rerun_law_both_streams :
    Along (ReportingEvent.step 1 2024) (fun s e => RunsReturn 1 2024 s e ∧
        LastRunActive 1 2024 (e.step 1 2024 s)) blankReporting
          [.scheduled .csrdEsrsE1, .scheduled .euEtsPhaseIv] ∧
      WritesOnce (run (ReportingEvent.step 1 2024) blankReporting
        [.scheduled .csrdEsrsE1, .scheduled .euEtsPhaseIv]) :=
  rerun_law 1 2024 blankReporting rfl _ ⟨runCondition_blank, runCondition_csrdReported, trivial⟩

/-- The same job run twice on one day raises the second time, although its correlation id is
recorded by then. -/
theorem scheduled_rerun_raises :
    Recorded csrdReported.db (scheduledSpec 1 2024 csrdReported.db.clock .csrdEsrsE1) ∧
      ¬ Along (ReportingEvent.step 1 2024) (RunsReturn 1 2024) blankReporting
        [.scheduled .csrdEsrsE1, .scheduled .csrdEsrsE1] := by
  have hrecorded : ∃ r ∈ csrdReported.db.calcRuns, r.tenantId = 1 ∧
      r.correlationId = .scheduled 2024 .csrdEsrsE1 0 := by
    decide +kernel
  have hraises : ((ReportingEvent.scheduled .csrdEsrsE1).handle 1 2024 csrdReported).toBool =
      false := by
    decide +kernel
  refine ⟨by rw [csrdReported_frame.2.2.2]; exact hrecorded, ?_⟩
  rintro ⟨-, hsecond, -⟩
  have hreturns : ∃ s', (ReportingEvent.scheduled .csrdEsrsE1).handle 1 2024 csrdReported =
      .ok s' := by
    rcases hsecond _ List.mem_cons_self with ⟨-, hok⟩ | ⟨s', -, hok, -⟩
    · exact ⟨csrdReported, hok⟩
    · exact ⟨s', hok⟩
  obtain ⟨s', hok⟩ := hreturns
  rw [hok] at hraises
  cases hraises

end GhgTool
