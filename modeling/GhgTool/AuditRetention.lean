import GhgTool.AuthState
import GhgTool.Calendar
import GhgTool.EmissionRecord
import GhgTool.Runs

/-!
# Retention of the audit log

A monthly job copies the rows of `calc.audit_log` that are older than ten years to
`calc_archive.audit_log_archive` and deletes them from the log, in one transaction that reads
committed rows: between the two statements others may still add to the log. Its second statement
deletes what is old then, copied or not. No row is lost or doubled by this, since a row is stamped with
the start of the transaction that adds it, and since ten years before a first of the month is not later
than ten years before any time after it. The calendar is that of a database that runs in UTC.
-/

namespace GhgTool

structure AuditLogRow where
  id : Uuid
  tenantId : Uuid
  correlationId : Uuid
  occurredAt : Timestamp
  userId : Option Uuid
  userRole : String
  action : String
  resource : Option String
  resourceId : Option Uuid
  requestMethod : Option String
  requestPath : Option String
  statusCode : Option ℤ
  ipAddress : Option String
  userAgent : Option String
  beforeState : Option String
  afterState : Option String
  extra : Option String
  deriving DecidableEq

structure ArchivedRow where
  row : AuditLogRow
  archivedAt : Timestamp

/-- `t - INTERVAL '10 years'`. -/
def tenYearsBefore (t : Timestamp) : Timestamp :=
  minusMonths 120 t

/-- The schedule `0 3 1 * *`; a start may be late, but not by a day. -/
def JobDue (now : Timestamp) : Prop :=
  FirstOfMonth now ∧ 3 * 3600 ≤ now % 86400

instance (now : Timestamp) : Decidable (JobDue now) :=
  inferInstanceAs (Decidable (_ ∧ _))

/-- `2020-01-01`, below which the archive takes no row. -/
def archiveEpoch : Timestamp := 1577836800

/-- The two tables; a job that has copied holds its `now()` and the rows that it has not committed. -/
structure AuditStore where
  clock : Timestamp
  log : List AuditLogRow
  archive : List ArchivedRow
  job : Option (Timestamp × List ArchivedRow)

/-- What happens to the tables. A `mutation` is an `UPDATE` or a `DELETE` of rows of the log by anyone
else than the job; an `erasure` deletes a row of the archive. -/
inductive AuditEvent
  | tick (seconds : ℕ)
  | record (row : AuditLogRow)
  | mutation
  | jobCopy
  | jobPurge
  | jobAbort
  | erasure (id : Uuid)

def AuditLogRow.Old (now : Timestamp) (row : AuditLogRow) : Prop :=
  row.occurredAt < tenYearsBefore now

instance (now : Timestamp) (row : AuditLogRow) : Decidable (row.Old now) :=
  inferInstanceAs (Decidable (row.occurredAt < tenYearsBefore now))

/-- A row to copy violates the check or the primary key of the archive. -/
def CopyFails (s : AuditStore) : Prop :=
  ∃ r ∈ s.log, r.Old s.clock ∧ (r.occurredAt < archiveEpoch ∨ ∃ a ∈ s.archive, a.row.id = r.id)

instance (s : AuditStore) : Decidable (CopyFails s) :=
  inferInstanceAs (Decidable (∃ r ∈ s.log, _ ∧ (_ ∨ ∃ a ∈ s.archive, _)))

/-- `INSERT INTO calc_archive.audit_log_archive .. SELECT ..` -/
def AuditStore.copied (s : AuditStore) : List ArchivedRow :=
  (s.log.filter fun r => r.Old s.clock).map fun r => ⟨r, s.clock⟩

/-- One step. The trigger denies a mutation; a job whose copy fails does nothing. -/
def auditStep (s : AuditStore) : AuditEvent → AuditStore
  | .tick seconds => { s with clock := s.clock + seconds }
  | .record row =>
      if ∃ r ∈ s.log, r.id = row.id then s else { s with log := s.log ++ [row] }
  | .mutation => s
  | .jobCopy =>
      if s.job.isSome ∨ ¬ JobDue s.clock ∨ CopyFails s then s
      else { s with job := some (s.clock, s.copied) }
  | .jobPurge =>
      match s.job with
      | none => s
      | some (now, rows) =>
          { s with
            log := s.log.filter fun r => ¬ r.Old now
            archive := s.archive ++ rows
            job := none }
  | .jobAbort => { s with job := none }
  | .erasure id => { s with archive := s.archive.filter fun a => a.row.id ≠ id }

/-! ## What was recorded and what was erased -/

def AuditStore.accepted (s : AuditStore) : AuditEvent → List AuditLogRow
  | .record row => if ∃ r ∈ s.log, r.id = row.id then [] else [row]
  | _ => []

def AuditStore.erased (s : AuditStore) : AuditEvent → List AuditLogRow
  | .erasure id => (s.archive.filter fun a => a.row.id = id).map ArchivedRow.row
  | _ => []

def recordedIn : AuditStore → List AuditEvent → List AuditLogRow
  | _, [] => []
  | s, e :: es => s.accepted e ++ recordedIn (auditStep s e) es

def erasedIn : AuditStore → List AuditEvent → List AuditLogRow
  | _, [] => []
  | s, e :: es => s.erased e ++ erasedIn (auditStep s e) es

/-- No row is stamped with a time that is ten years ago: the column takes its default, the start of
the transaction. -/
def NotBackdated (s : AuditStore) : AuditEvent → Prop
  | .record row => tenYearsBefore s.clock ≤ row.occurredAt
  | _ => True

instance (s : AuditStore) (e : AuditEvent) : Decidable (NotBackdated s e) :=
  match e with
  | .record row => inferInstanceAs (Decidable (tenYearsBefore s.clock ≤ row.occurredAt))
  | .tick _ => isTrue trivial
  | .mutation => isTrue trivial
  | .jobCopy => isTrue trivial
  | .jobPurge => isTrue trivial
  | .jobAbort => isTrue trivial
  | .erasure _ => isTrue trivial

/-- The rows of both tables. -/
def AuditStore.held (s : AuditStore) : List AuditLogRow :=
  s.log ++ s.archive.map ArchivedRow.row

section Steps

variable {s : AuditStore} {e : AuditEvent}

/-- A job that has copied is about to delete exactly what it copied. -/
def CopyExact (s : AuditStore) : Prop :=
  ∀ now rows, s.job = some (now, rows) → FirstOfMonth now ∧ now ≤ s.clock ∧
    rows = (s.log.filter fun r => r.Old now).map fun r => ⟨r, now⟩

theorem copyExact_step (h : CopyExact s) (hstamp : NotBackdated s e) :
    CopyExact (auditStep s e) := by
  cases e with
  | tick seconds =>
      intro now rows hjob
      obtain ⟨hfirst, hnow, hrows⟩ := h now rows hjob
      exact ⟨hfirst, hnow.trans (Nat.le_add_right _ _), hrows⟩
  | record row =>
      simp only [auditStep]
      split
      · exact h
      · intro now rows hjob
        obtain ⟨hfirst, hnow, hrows⟩ := h now rows hjob
        have hyoung : ¬ row.Old now :=
          Nat.not_lt.mpr ((minusMonths_le_minusMonths hfirst hnow).trans hstamp)
        refine ⟨hfirst, hnow, hrows.trans ?_⟩
        simp [List.filter_append, hyoung]
  | mutation => exact h
  | jobCopy =>
      simp only [auditStep]
      split
      · exact h
      next hstarts =>
        have hdue : JobDue s.clock := by
          by_contra hno
          exact hstarts (.inr (.inl hno))
        intro now rows hjob
        cases hjob
        exact ⟨hdue.1, le_rfl, rfl⟩
  | jobPurge =>
      simp only [auditStep]
      split
      · exact h
      · exact nofun
  | jobAbort => exact nofun
  | erasure id => exact h

/-- A step moves rows between the tables; it adds what is recorded and takes what is erased. -/
theorem held_step (h : CopyExact s) (e : AuditEvent) :
    (s.held ++ s.accepted e).Perm ((auditStep s e).held ++ s.erased e) := by
  cases e with
  | tick seconds => exact .refl _
  | record row =>
      simp only [AuditStore.accepted, auditStep]
      split
      · exact .refl _
      · simp only [AuditStore.held, AuditStore.erased, List.append_nil, List.append_assoc]
        exact List.perm_append_comm.append_left s.log
  | mutation => exact .refl _
  | jobCopy =>
      simp only [auditStep]
      split
      · exact .refl _
      · exact .refl _
  | jobPurge =>
      simp only [auditStep]
      split
      · exact .refl _
      next now rows hjob =>
        obtain ⟨-, -, rfl⟩ := h now rows hjob
        have hsplit := List.filter_append_perm (fun r => decide (r.Old now)) s.log
        simp only [AuditStore.held, AuditStore.accepted, AuditStore.erased,
          List.append_nil, List.map_append, List.map_map, decide_not]
        have hcopied : List.map (ArchivedRow.row ∘ fun r => ⟨r, now⟩)
            (s.log.filter fun r => r.Old now) = s.log.filter fun r => r.Old now :=
          List.map_id _
        rw [hcopied]
        refine (hsplit.symm.append_right _).trans ?_
        rw [List.append_assoc]
        refine (List.perm_append_comm).trans ?_
        rw [List.append_assoc]
  | jobAbort => exact .refl _
  | erasure id =>
      have hsplit := List.filter_append_perm (fun a : ArchivedRow => decide (a.row.id = id))
        s.archive
      simp only [AuditStore.held, AuditStore.accepted, AuditStore.erased,
        auditStep, List.append_nil, List.append_assoc, decide_not]
      refine List.Perm.append_left s.log ?_
      rw [← List.map_append]
      exact (hsplit.symm.trans List.perm_append_comm).map _

/-- The row was due when it was archived, and passes the check of the archive. -/
def ArchivedRow.Due (a : ArchivedRow) : Prop :=
  a.row.Old a.archivedAt ∧ archiveEpoch ≤ a.row.occurredAt

/-- In the archive, or copied there by the job that is under way. -/
def AuditStore.Copied (s : AuditStore) (a : ArchivedRow) : Prop :=
  a ∈ s.archive ∨ ∃ now rows, s.job = some (now, rows) ∧ a ∈ rows

theorem copied_step {a : ArchivedRow} (h : (auditStep s e).Copied a) : s.Copied a ∨ a.Due := by
  cases e with
  | tick seconds => exact .inl h
  | record row =>
      simp only [auditStep] at h
      split at h
      · exact .inl h
      · exact .inl h
  | mutation => exact .inl h
  | jobCopy =>
      simp only [auditStep] at h
      split at h
      · exact .inl h
      next hfails =>
        rcases h with harchive | ⟨now, rows, hjob, ha⟩
        · exact .inl (.inl harchive)
        · cases hjob
          obtain ⟨r, hr, rfl⟩ := List.mem_map.mp ha
          obtain ⟨hlog, hold⟩ := List.mem_filter.mp hr
          have hold : r.Old s.clock := of_decide_eq_true hold
          refine .inr ⟨hold, Nat.not_lt.mp fun hepoch => hfails (.inr (.inr ?_))⟩
          exact ⟨r, hlog, hold, .inl hepoch⟩
  | jobPurge =>
      simp only [auditStep] at h
      split at h
      · exact .inl h
      next now rows hjob =>
        rcases h with harchive | ⟨_, _, hnone, _⟩
        · rcases List.mem_append.mp harchive with hold | hnew
          · exact .inl (.inl hold)
          · exact .inl (.inr ⟨now, rows, hjob, hnew⟩)
        · cases hnone
  | jobAbort =>
      rcases h with harchive | ⟨_, _, hnone, _⟩
      · exact .inl (.inl harchive)
      · cases hnone
  | erasure id =>
      rcases h with harchive | hjob
      · exact .inl (.inl (List.mem_of_mem_filter harchive))
      · exact .inl (.inr hjob)

theorem copied_run {events : List AuditEvent} {a : ArchivedRow}
    (h : (run auditStep s events).Copied a) : s.Copied a ∨ a.Due := by
  induction events generalizing s with
  | nil => exact .inl h
  | cons e events ih =>
      rcases ih h with hcopied | hdue
      · exact copied_step hcopied
      · exact .inr hdue

theorem held_run {events : List AuditEvent} (h : CopyExact s)
    (hstamp : Along auditStep NotBackdated s events) :
    (s.held ++ recordedIn s events).Perm
      ((run auditStep s events).held ++ erasedIn s events) := by
  induction events generalizing s with
  | nil => exact .refl _
  | cons e events ih =>
      have hstep := held_step h e
      have hrest := ih (copyExact_step h hstamp.1) hstamp.2
      simp only [recordedIn, erasedIn, run_cons]
      rw [← List.append_assoc]
      refine (hstep.append_right _).trans ?_
      rw [List.append_assoc]
      refine (List.perm_append_comm.append_left _).trans ?_
      rw [← List.append_assoc]
      refine (hrest.append_right _).trans ?_
      rw [List.append_assoc]
      exact List.perm_append_comm.append_left _

end Steps

/-! ## Runs -/

/-- Through every interleaving of the job with other sessions, a row that was recorded is, as it was
recorded, in one of the two tables, unless it was erased from the archive; and the job archives a row
only when it is ten years old. -/
theorem audit_rows_conserved (s : AuditStore) (events : List AuditEvent)
    (hjob : s.job = none) (hstamp : Along auditStep NotBackdated s events) :
    (s.held ++ recordedIn s events).Perm
        ((run auditStep s events).held ++ erasedIn s events) ∧
      ∀ a ∈ (run auditStep s events).archive, a ∈ s.archive ∨ a.Due := by
  have hexact : CopyExact s := by
    intro now rows hsome
    rw [hjob] at hsome
    cases hsome
  refine ⟨held_run hexact hstamp, fun a ha => ?_⟩
  rcases copied_run (.inl ha) with (harchive | ⟨_, _, hsome, _⟩) | hdue
  · exact .inl harchive
  · rw [hjob] at hsome
    cases hsome
  · exact .inr hdue

def loginRow : AuditLogRow :=
  ⟨1, 1, 1, 1767225600, some 1, "editor", "login", none, none, none, none, none, none, none, none,
    none, none⟩

/-- A row of the new year 2026 grows old, and while the job of 1 February 2036 is under way another
is added. -/
def decadeRun : List AuditEvent :=
  [.record loginRow, .tick 318222000, .jobCopy,
    .record { loginRow with id := 2, occurredAt := 2085447600 }, .jobPurge]

theorem audit_rows_conserved_of_decade :
    (run auditStep ⟨1767225600, [], [], none⟩ decadeRun).log =
        [{ loginRow with id := 2, occurredAt := 2085447600 }] ∧
      (recordedIn ⟨1767225600, [], [], none⟩ decadeRun).Perm
        ((run auditStep ⟨1767225600, [], [], none⟩ decadeRun).held ++
          erasedIn ⟨1767225600, [], [], none⟩ decadeRun) := by
  have hstamp : Along auditStep NotBackdated ⟨1767225600, [], [], none⟩ decadeRun := by
    decide +kernel
  exact ⟨by decide +kernel, (audit_rows_conserved ⟨1767225600, [], [], none⟩ decadeRun rfl
    hstamp).1⟩

theorem copy_succeeds {s : AuditStore}
    (hids : (s.held.map AuditLogRow.id).Nodup) (hepoch : ∀ r ∈ s.log, archiveEpoch ≤ r.occurredAt) :
    ¬ CopyFails s := by
  rintro ⟨r, hr, -, hearly | ⟨a, ha, hsame⟩⟩
  · exact absurd (hepoch r hr) (Nat.not_le.mpr hearly)
  · rw [AuditStore.held, List.map_append, List.nodup_append] at hids
    exact hids.2.2 r.id (List.mem_map_of_mem hr) a.row.id
      (List.mem_map_of_mem (List.mem_map_of_mem ha)) hsame.symm

/-- A job that does not fail leaves nothing old in the log. -/
theorem purge_of_copy {s : AuditStore} (hjob : s.job = none) (hdue : JobDue s.clock)
    (hsucceeds : ¬ CopyFails s) :
    (run auditStep s [.jobCopy, .jobPurge]).held.Perm s.held ∧
      ∀ r ∈ (run auditStep s [.jobCopy, .jobPurge]).log, ¬ r.Old s.clock := by
  have hcopy : auditStep s .jobCopy = { s with job := some (s.clock, s.copied) } := by
    simp [auditStep, hjob, hdue, hsucceeds]
  have hexact : CopyExact (auditStep s .jobCopy) := by
    rw [hcopy]
    intro now rows hsome
    cases hsome
    exact ⟨hdue.1, le_rfl, rfl⟩
  have hpurge : ((auditStep s .jobCopy).held ++ []).Perm
      ((auditStep (auditStep s .jobCopy) .jobPurge).held ++ []) :=
    held_step hexact .jobPurge
  rw [List.append_nil, List.append_nil] at hpurge
  rw [run_cons, run_cons, run_nil]
  constructor
  · refine hpurge.symm.trans ?_
    rw [hcopy]
    exact .refl _
  · intro r hr
    rw [hcopy] at hr
    exact of_decide_eq_true (List.mem_filter.mp hr).2

/-- In a database whose rows have drawn distinct ids since 2020, the job never fails on its day, and
once it is through no row of the log is older than ten years. -/
theorem audit_job_succeeds (clock : Timestamp) (events : List AuditEvent)
    (hstamp : Along auditStep NotBackdated ⟨clock, [], [], none⟩ events)
    (hids : ((recordedIn ⟨clock, [], [], none⟩ events).map AuditLogRow.id).Nodup)
    (hepoch : ∀ r ∈ recordedIn ⟨clock, [], [], none⟩ events, archiveEpoch ≤ r.occurredAt)
    (hjob : (run auditStep ⟨clock, [], [], none⟩ events).job = none)
    (hdue : JobDue (run auditStep ⟨clock, [], [], none⟩ events).clock) :
    let s := run auditStep ⟨clock, [], [], none⟩ events
    let purged := run auditStep s [.jobCopy, .jobPurge]
    ¬ CopyFails s ∧ purged.held.Perm s.held ∧ ∀ r ∈ purged.log, ¬ r.Old s.clock := by
  have hconserved := held_run (s := ⟨clock, [], [], none⟩) nofun hstamp
  generalize run auditStep ⟨clock, [], [], none⟩ events = s at hconserved hjob hdue
  have hrecorded : (recordedIn ⟨clock, [], [], none⟩ events).Perm
      (s.held ++ erasedIn ⟨clock, [], [], none⟩ events) := hconserved
  have hsucceeds : ¬ CopyFails s := by
    refine copy_succeeds ?_ fun r hr => ?_
    · have hall := (hrecorded.map AuditLogRow.id).nodup_iff.mp hids
      rw [List.map_append] at hall
      exact (List.nodup_append.mp hall).1
    · refine hepoch r (hrecorded.mem_iff.mpr ?_)
      exact List.mem_append_left _ (List.mem_append_left _ hr)
  exact ⟨hsucceeds, purge_of_copy hjob hdue hsucceeds⟩

/-- The row of 2026, before the job of 2036. -/
theorem audit_job_succeeds_of_decade :
    ¬ CopyFails (run auditStep ⟨1767225600, [], [], none⟩ (decadeRun.take 2)) ∧
      (run auditStep (run auditStep ⟨1767225600, [], [], none⟩ (decadeRun.take 2))
        [.jobCopy, .jobPurge]).held.Perm
          (run auditStep ⟨1767225600, [], [], none⟩ (decadeRun.take 2)).held ∧
      ∀ r ∈ (run auditStep (run auditStep ⟨1767225600, [], [], none⟩ (decadeRun.take 2))
        [.jobCopy, .jobPurge]).log, ¬ r.Old 2085447600 :=
  audit_job_succeeds 1767225600 (decadeRun.take 2) (by decide +kernel) (by decide +kernel)
    (by decide +kernel) (by decide +kernel) (by decide +kernel)

end GhgTool
