import GhgTool.CorrectionChain
import GhgTool.Materiality
import GhgTool.RlsPolicies
import GhgTool.RowTriggers
import GhgTool.ScopeTotals

/-!
# Report snapshots

An administrator freezes the active rows of a year, and later the ledger is reconciled with what was
frozen. The table of snapshots is append-only, so the two sides are always the two moments. But the
rows come in whatever order the database lists them, and of those under one key a reconciliation
reads the last: an unchanged ledger passes as unchanged only where these have the same tonnes.
-/

namespace GhgTool

/-! ## The table -/

inductive SnapshotKind
  | csrdFinal | euEtsFinal | interim
  deriving DecidableEq, Repr

/-- A row of `calc.report_snapshots`. -/
structure ReportSnapshot where
  id : Uuid
  tenantId : Uuid
  snapshotKind : SnapshotKind
  anno : ℕ
  takenAt : ℕ
  frozenEmissions : List EmissionDict
  frozenTotals : ScopeTotals
  deriving DecidableEq

def ReportSnapshot.naturalKey (r : ReportSnapshot) : Uuid × ℕ × SnapshotKind × ℕ :=
  (r.tenantId, r.anno, r.snapshotKind, r.takenAt)

def snapshotImmutable : Verdict ReportSnapshot :=
  .raise "Mutation forbidden on append-only table calc.report_snapshots"

def reportSnapshots : TableRules ReportSnapshot where
  check r := 2020 ≤ r.anno && r.anno ≤ 2099
  clash a b := a.id = b.id || a.naturalKey = b.naturalKey
  beforeUpdate _ _ := snapshotImmutable
  beforeDelete _ := snapshotImmutable

/-! ## The requests -/

/-- `POST /snapshots`, with the identifier and the time that it draws. -/
structure SnapshotCall where
  role : RoleCode
  tenantId : Uuid
  anno : ℕ
  snapshotKind : SnapshotKind
  snapshotId : Uuid
  now : ℕ
  deriving DecidableEq, Repr

inductive SnapshotFailure
  | problem (p : Problem)
  | raised (e : PyError)
  deriving DecidableEq

def snapshotForbidden (role : RoleCode) : Problem :=
  ⟨403, "Role '" ++ role.code ++ "' is not permitted for this operation. Required: ['admin']"⟩

/-- The years that the schema and the query parameter take. -/
def SnapshotYear (anno : ℕ) : Prop :=
  2020 ≤ anno ∧ anno ≤ 2099

instance (anno : ℕ) : Decidable (SnapshotYear anno) :=
  inferInstanceAs (Decidable (_ ∧ _))

def snapshotInvalid : Problem := ⟨422, "Request validation failed"⟩

def snapshotCreationFailed : Problem := ⟨500, "Snapshot creation failed"⟩

def snapshotNotFound (snapshotId : Uuid) (anno : ℕ) : Problem :=
  ⟨404, "Snapshot " ++ uuidText snapshotId ++ " not found for anno=" ++ toString anno⟩

def SnapshotCall.row (call : SnapshotCall) (frozen : List EmissionDict) (totals : ScopeTotals) :
    ReportSnapshot :=
  ⟨call.snapshotId, call.tenantId, call.snapshotKind, call.anno, call.now, frozen, totals⟩

/-- `create_snapshot`, on the rows that the query of the active ones lists. -/
def createSnapshot (snapshots : List ReportSnapshot) (listed : List EmissionRow)
    (call : SnapshotCall) : Except SnapshotFailure (List ReportSnapshot) :=
  if call.role ≠ .admin then .error (.problem (snapshotForbidden call.role))
  else if ¬ SnapshotYear call.anno then .error (.problem snapshotInvalid)
  else
    let frozenRows := listed.map rowToEmissionDict
    match resultTotalsByScope frozenRows with
    | .error e => .error (.raised e)
    | .ok totals =>
        match insertRow reportSnapshots (call.row frozenRows totals) snapshots with
        | .error _ => .error (.problem snapshotCreationFailed)
        | .ok snapshots' => .ok snapshots'

/-- The reconciliation as the endpoint calls it: with the default thresholds and no history. -/
def reconcileSnapshot (frozen : List EmissionDict) (listed : List EmissionRow) :
    Except SnapshotFailure ReconciliationResult :=
  match reconcile noStatistics {} frozen (listed.map rowToEmissionDict) with
  | .error e => .error (.raised e)
  | .ok result => .ok result

def getReconciliationDiff (snapshots : List ReportSnapshot) (listed : List EmissionRow)
    (tenantId : Uuid) (anno : ℕ) (snapshotId : Uuid) :
    Except SnapshotFailure ReconciliationResult :=
  if ¬ SnapshotYear anno then .error (.problem snapshotInvalid)
  else
    match snapshots.find? fun r => r.id = snapshotId ∧ r.tenantId = tenantId ∧ r.anno = anno with
    | none => .error (.problem (snapshotNotFound snapshotId anno))
    | some snapshot => reconcileSnapshot snapshot.frozenEmissions listed

/-! ## Runs -/

structure SnapshotState where
  db : Database
  snapshots : List ReportSnapshot := []

/-- The writers of the ledger, the endpoint, and whatever `UPDATE` or `DELETE` of the table. -/
inductive SnapshotEvent
  | ledger (e : LedgerEvent)
  | create (call : SnapshotCall) (listed : List EmissionRow)
  | update (hit : ReportSnapshot → Bool) (set : ReportSnapshot → ReportSnapshot)
  | delete (hit : ReportSnapshot → Bool)

def SnapshotEvent.ledger? : SnapshotEvent → Option LedgerEvent
  | .ledger e => some e
  | _ => none

def SnapshotState.step (s : SnapshotState) : SnapshotEvent → SnapshotState
  | .ledger e => { s with db := e.step s.db }
  | .create call listed =>
      match createSnapshot s.snapshots listed call with
      | .error _ => s
      | .ok snapshots => { s with snapshots := snapshots }
  | .update hit set =>
      { s with snapshots := settle s.snapshots (updateRows reportSnapshots hit set s.snapshots) }
  | .delete hit =>
      { s with snapshots := settle s.snapshots (deleteRows reportSnapshots hit s.snapshots) }

/-- The active rows that the queries of a call read. -/
def SnapshotCall.activeRows (call : SnapshotCall) (db : Database) : List EmissionRow :=
  activeRowsOf db.emissions call.tenantId call.anno

/-- The database after the writers among the events. -/
def ledgerAfter (db : Database) (events : List SnapshotEvent) : Database :=
  run LedgerEvent.step db (events.filterMap SnapshotEvent.ledger?)

section Evidence

variable {s : SnapshotState} {call : SnapshotCall} {snapshot : ReportSnapshot}
  {snapshots snapshots' : List ReportSnapshot} {listed frozen : List EmissionRow}

theorem createSnapshot_eq_ok (h : createSnapshot snapshots listed call = .ok snapshots') :
    SnapshotYear call.anno ∧
      ∃ totals, insertRow reportSnapshots (call.row (listed.map rowToEmissionDict) totals)
        snapshots = .ok snapshots' := by
  unfold createSnapshot at h
  split at h
  · cases h
  · split at h
    · cases h
    · next hyear =>
        refine ⟨not_not.mp hyear, ?_⟩
        dsimp only at h
        split at h
        · cases h
        · next totals _ =>
            split at h
            · cases h
            · next hinsert =>
                cases h
                exact ⟨totals, hinsert⟩

theorem createSnapshot_succeeds (hadmin : call.role = .admin)
    (hanno : SnapshotYear call.anno)
    (hfree : ∀ r ∈ snapshots, r.id ≠ call.snapshotId ∧
      r.naturalKey ≠ (call.tenantId, call.anno, call.snapshotKind, call.now))
    (listed : List EmissionRow) :
    ∃ snapshots', createSnapshot snapshots listed call = .ok snapshots' := by
  unfold createSnapshot
  rw [if_neg (not_not.mpr hadmin), if_neg (not_not.mpr hanno)]
  dsimp only
  rw [resultTotalsByScope_eq]
  dsimp only
  unfold insertRow
  rw [if_neg, if_neg]
  · exact ⟨_, rfl⟩
  · rw [Bool.not_eq_true, List.any_eq_false]
    intro r hr hclash
    obtain ⟨hid, hkey⟩ := hfree r hr
    have hor := (Bool.or_eq_true _ _).mp hclash
    rcases hor with hsame | hsame
    · exact hid (of_decide_eq_true hsame).symm
    · exact hkey (of_decide_eq_true hsame).symm
  · rw [Bool.not_eq_false]
    exact Bool.and_eq_true_iff.mpr ⟨decide_eq_true hanno.1, decide_eq_true hanno.2⟩

theorem insertRow_eq_ok {new : ReportSnapshot}
    (h : insertRow reportSnapshots new snapshots = .ok snapshots') :
    snapshots' = snapshots ++ [new] ∧ ∀ r ∈ snapshots, r.id ≠ new.id := by
  unfold insertRow at h
  split at h
  · cases h
  · split at h
    · cases h
    · next hfree =>
        cases h
        refine ⟨rfl, fun r hr hid => hfree (List.any_eq_true.mpr ⟨r, hr, ?_⟩)⟩
        simp [reportSnapshots, hid]

/-- The snapshot is there, alone with its identifier. -/
structure HoldsAlone (snapshot : ReportSnapshot) (snapshots : List ReportSnapshot) : Prop where
  mem : snapshot ∈ snapshots
  alone : ∀ r ∈ snapshots, r.id = snapshot.id → r = snapshot

theorem holdsAlone_of_insert (h : insertRow reportSnapshots snapshot snapshots = .ok snapshots') :
    HoldsAlone snapshot snapshots' := by
  obtain ⟨rfl, hfree⟩ := insertRow_eq_ok h
  refine ⟨by simp, fun r hr hid => ?_⟩
  rcases List.mem_append.mp hr with hold | hnew
  · exact absurd hid (hfree r hold)
  · exact List.mem_singleton.mp hnew

theorem HoldsAlone.create (h : HoldsAlone snapshot snapshots)
    (hcreate : createSnapshot snapshots listed call = .ok snapshots') :
    HoldsAlone snapshot snapshots' := by
  obtain ⟨-, totals, hinsert⟩ := createSnapshot_eq_ok hcreate
  obtain ⟨rfl, hfree⟩ := insertRow_eq_ok hinsert
  refine ⟨List.mem_append_left _ h.mem, fun r hr hid => ?_⟩
  rcases List.mem_append.mp hr with hold | hnew
  · exact h.alone r hold hid
  · rw [List.mem_singleton.mp hnew] at hid
    exact absurd hid.symm (hfree snapshot h.mem)

theorem snapshotImmutable_ne_proceed (new : ReportSnapshot) : snapshotImmutable ≠ .proceed new := by
  intro h
  cases h

/-- No statement changes a snapshot. -/
theorem settle_updateRows (hit : ReportSnapshot → Bool) (set : ReportSnapshot → ReportSnapshot) :
    settle snapshots (updateRows reportSnapshots hit set snapshots) = snapshots := by
  cases h : updateRows reportSnapshots hit set snapshots with
  | error e => rfl
  | ok rows => exact updateFrom_eq_append (fun _ _ _ => snapshotImmutable_ne_proceed) h

theorem settle_deleteRows (hit : ReportSnapshot → Bool) :
    settle snapshots (deleteRows reportSnapshots hit snapshots) = snapshots := by
  cases h : deleteRows reportSnapshots hit snapshots with
  | error e => rfl
  | ok rows => exact deleteRows_eq (fun _ _ _ => snapshotImmutable_ne_proceed) h

theorem HoldsAlone.step (h : HoldsAlone snapshot s.snapshots) (e : SnapshotEvent) :
    HoldsAlone snapshot (s.step e).snapshots := by
  cases e with
  | ledger e => exact h
  | create call listed =>
      unfold SnapshotState.step
      dsimp only
      split
      · exact h
      · next hcreate => exact h.create hcreate
  | update hit set =>
      unfold SnapshotState.step
      dsimp only
      rw [settle_updateRows]
      exact h
  | delete hit =>
      unfold SnapshotState.step
      dsimp only
      rw [settle_deleteRows]
      exact h

theorem HoldsAlone.run (h : HoldsAlone snapshot s.snapshots) (events : List SnapshotEvent) :
    HoldsAlone snapshot (run SnapshotState.step s events).snapshots := by
  induction events generalizing s with
  | nil => exact h
  | cons e events ih => exact ih (h.step e)

theorem db_step (s : SnapshotState) (e : SnapshotEvent) :
    (s.step e).db = ledgerAfter s.db [e] := by
  cases e with
  | ledger e => rfl
  | create call listed =>
      unfold SnapshotState.step
      dsimp only
      split
      · rfl
      · rfl
  | update hit set => rfl
  | delete hit => rfl

theorem db_run (s : SnapshotState) (events : List SnapshotEvent) :
    (run SnapshotState.step s events).db = ledgerAfter s.db events := by
  induction events generalizing s with
  | nil => rfl
  | cons e events ih =>
      rw [run_cons, ih, db_step]
      unfold ledgerAfter
      rw [← run_append, ← List.filterMap_append]
      rfl

theorem db_after_create (s : SnapshotState) (call : SnapshotCall) (frozen : List EmissionRow)
    (later : List SnapshotEvent) :
    (run SnapshotState.step (s.step (.create call frozen)) later).db = ledgerAfter s.db later :=
  db_run s (.create call frozen :: later)

theorem diff_of_holdsAlone (h : HoldsAlone snapshot snapshots) (listed : List EmissionRow)
    (tenantId : Uuid) {anno : ℕ} (hanno : SnapshotYear anno) :
    getReconciliationDiff snapshots listed tenantId anno snapshot.id =
      if tenantId = snapshot.tenantId ∧ anno = snapshot.anno then
        reconcileSnapshot snapshot.frozenEmissions listed
      else .error (.problem (snapshotNotFound snapshot.id anno)) := by
  unfold getReconciliationDiff
  rw [if_neg (not_not.mpr hanno)]
  split
  · next hnone =>
      rw [if_neg]
      rintro ⟨rfl, rfl⟩
      have hmissed := List.find?_eq_none.mp hnone snapshot h.mem
      simp at hmissed
  · next found hfound =>
      have hhit := List.find?_some hfound
      obtain ⟨hid, htenant, hanno⟩ := of_decide_eq_true hhit
      obtain rfl := h.alone found (List.mem_of_find?_eq_some hfound) hid
      rw [if_pos ⟨htenant.symm, hanno.symm⟩]

theorem holdsAlone_after (hcreate : createSnapshot s.snapshots frozen call = .ok snapshots')
    (later : List SnapshotEvent) :
    ∃ totals, HoldsAlone (call.row (frozen.map rowToEmissionDict) totals)
      (run SnapshotState.step (s.step (.create call frozen)) later).snapshots := by
  obtain ⟨-, totals, hinsert⟩ := createSnapshot_eq_ok hcreate
  have hstep : (s.step (.create call frozen)).snapshots = snapshots' := by
    unfold SnapshotState.step
    dsimp only
    rw [hcreate]
  refine ⟨totals, HoldsAlone.run ?_ later⟩
  rw [hstep]
  exact holdsAlone_of_insert hinsert

theorem diff_of_own_year (hcreate : createSnapshot s.snapshots frozen call = .ok snapshots')
    (later : List SnapshotEvent) (listed : List EmissionRow) :
    getReconciliationDiff (run SnapshotState.step (s.step (.create call frozen)) later).snapshots
        listed call.tenantId call.anno call.snapshotId =
      reconcileSnapshot (frozen.map rowToEmissionDict) listed := by
  obtain ⟨totals, halone⟩ := holdsAlone_after hcreate later
  have hanno := (createSnapshot_eq_ok hcreate).1
  exact (diff_of_holdsAlone halone listed call.tenantId hanno).trans (if_pos ⟨rfl, rfl⟩)

end Evidence

/-- Whatever happens after a snapshot, to the ledger or to the table of snapshots, its own tenant is
answered with the reconciliation of the rows of then with those of now, and no other tenant and no
other year finds it; a year that cannot be asked for is refused. -/
theorem diff_compares_moments (s : SnapshotState) (call : SnapshotCall) {frozen : List EmissionRow}
    {snapshots' : List ReportSnapshot}
    (hcreate : createSnapshot s.snapshots frozen call = .ok snapshots')
    (later : List SnapshotEvent) (listed : List EmissionRow) (tenantId : Uuid) (anno : ℕ) :
    getReconciliationDiff (run SnapshotState.step (s.step (.create call frozen)) later).snapshots
        listed tenantId anno call.snapshotId =
      if ¬ SnapshotYear anno then .error (.problem snapshotInvalid)
      else if tenantId = call.tenantId ∧ anno = call.anno then
        reconcileSnapshot (frozen.map rowToEmissionDict) listed
      else .error (.problem (snapshotNotFound call.snapshotId anno)) := by
  obtain ⟨totals, halone⟩ := holdsAlone_after hcreate later
  by_cases hanno : SnapshotYear anno
  · rw [if_neg (not_not.mpr hanno)]
    exact diff_of_holdsAlone halone listed tenantId hanno
  · unfold getReconciliationDiff
    rw [if_pos hanno, if_pos hanno]

/-- An administrator's snapshot of the year 2024 of the first tenant. -/
def frozenYear : SnapshotCall := ⟨.admin, 1, 2024, .csrdFinal, 7, 50⟩

def gridYear : SnapshotState := ⟨gridDatabase, []⟩

/-- The row of the year is replaced by a correction, and someone tries to delete the snapshot. -/
def correctedLater : List SnapshotEvent :=
  [.ledger (.correctEmission editorContext goodsForGrid), .delete fun _ => true]

theorem createSnapshot_frozenYear : ∃ snapshots', createSnapshot gridYear.snapshots
    (frozenYear.activeRows gridDatabase) frozenYear = .ok snapshots' := by
  have hfree : ∀ r ∈ gridYear.snapshots, r.id ≠ frozenYear.snapshotId ∧
      r.naturalKey ≠ (frozenYear.tenantId, frozenYear.anno, frozenYear.snapshotKind,
        frozenYear.now) := nofun
  exact createSnapshot_succeeds rfl (by decide) hfree (frozenYear.activeRows gridDatabase)

theorem diff_compares_moments_of_correction :
    getReconciliationDiff (run SnapshotState.step
        (gridYear.step (.create frozenYear (frozenYear.activeRows gridDatabase)))
        correctedLater).snapshots
      (frozenYear.activeRows (ledgerAfter gridDatabase correctedLater)) 1 2024 7 =
        reconcileSnapshot ((frozenYear.activeRows gridDatabase).map rowToEmissionDict)
          (frozenYear.activeRows (ledgerAfter gridDatabase correctedLater)) := by
  obtain ⟨snapshots', hcreate⟩ := createSnapshot_frozenYear
  have hmoments := diff_compares_moments gridYear frozenYear hcreate correctedLater
    (frozenYear.activeRows (ledgerAfter gridDatabase correctedLater)) 1 2024
  rw [if_neg (by decide)] at hmoments
  exact hmoments.trans (if_pos ⟨rfl, rfl⟩)

/-! ## What a difference shows -/

/-- Rows that a reconciliation cannot tell apart have the same tonnes. -/
def SameTonnes (rows : List EmissionRow) : Prop :=
  ∀ r ∈ rows, ∀ r' ∈ rows, (rowToEmissionDict r).key = (rowToEmissionDict r').key →
    r.tco2e = r'.tco2e

instance (rows : List EmissionRow) : Decidable (SameTonnes rows) :=
  inferInstanceAs (Decidable (∀ r ∈ rows, ∀ r' ∈ rows, _ → _))

/-- A year that passes as unchanged. -/
structure ReportsNothing (result : ReconciliationResult) : Prop where
  rows : ∀ d ∈ result.rows, d.absDelta = 0 ∧ d.material = false
  total : result.totalAbsDelta = 0
  count : result.materialCount = 0
  restatement : result.restatementRequired = false

/-- The keys of the rows can be compared: no sub-scope has rows both with and without a site. -/
def SitesComparable (rows : List EmissionRow) : Prop :=
  SitesUniform (rows.map fun r => (rowToEmissionDict r).key.group)

section Differences

variable {prior current frozen listed rows : List EmissionRow} {result : ReconciliationResult}
  {keys : List ReconciliationKey} {opts : ReconcileOptions}
  {baselineByKey3 : Dict GroupKey YoYStatsBaseline}

/-- Under a key that the rows have is a row of theirs; else nothing is. -/
theorem get?_listed (hperm : listed.Perm rows) (k : ReconciliationKey) :
    (∃ r ∈ rows, (rowToEmissionDict r).key = k ∧
        (Dict.indexBy EmissionDict.key (listed.map rowToEmissionDict)).get? k =
          some (rowToEmissionDict r)) ∨
      (∀ r ∈ rows, (rowToEmissionDict r).key ≠ k) ∧
        (Dict.indexBy EmissionDict.key (listed.map rowToEmissionDict)).get? k = none := by
  cases hget : (Dict.indexBy EmissionDict.key (listed.map rowToEmissionDict)).get? k with
  | none =>
      refine .inr ⟨fun r hr hkey => Dict.get?_indexBy_eq_none.mp hget ?_, rfl⟩
      rw [← hkey]
      exact List.mem_map_of_mem (List.mem_map_of_mem (hperm.mem_iff.mpr hr))
  | some d =>
      obtain ⟨hmem, hkey⟩ := Dict.mem_of_get?_indexBy hget
      obtain ⟨r, hr, rfl⟩ := List.mem_map.mp hmem
      exact .inl ⟨r, hperm.mem_iff.mp hr, hkey, rfl⟩

theorem absDelta_of_same_rows (hfrozen : frozen.Perm prior) (hlisted : listed.Perm current)
    (hprior : SameTonnes prior) {k : ReconciliationKey}
    (hsame : ∀ r, (rowToEmissionDict r).key = k → (r ∈ prior ↔ r ∈ current)) :
    (keyDelta opts baselineByKey3 (frozen.map rowToEmissionDict) (listed.map rowToEmissionDict)
      k).absDelta = 0 := by
  unfold keyDelta deltaOf
  dsimp only
  rcases get?_listed hfrozen k with ⟨r, hr, hkey, hget⟩ | ⟨hnone, hget⟩
  · rcases get?_listed hlisted k with ⟨r', hr', hkey', hget'⟩ | ⟨hnone', -⟩
    · rw [hget, hget']
      have heq : r.tco2e = r'.tco2e :=
        hprior r hr r' ((hsame r' hkey').mpr hr') (hkey.trans hkey'.symm)
      simp [rowToEmissionDict, heq]
    · exact absurd hkey (hnone' r ((hsame r hkey).mp hr))
  · rcases get?_listed hlisted k with ⟨r', hr', hkey', -⟩ | ⟨-, hget'⟩
    · exact absurd hkey' (hnone r' ((hsame r' hkey').mpr hr'))
    · rw [hget, hget']
      exact sub_self _

theorem reconcileSnapshot_eq_ok {dicts : List EmissionDict}
    (h : reconcileSnapshot dicts listed = .ok result) :
    reconcile noStatistics {} dicts (listed.map rowToEmissionDict) = .ok result := by
  unfold reconcileSnapshot at h
  split at h
  · cases h
  · next hok =>
      rw [hok]
      exact congrArg Except.ok (Except.ok.inj h)

theorem reportsNothing_of_zero {dicts dicts' : List EmissionDict}
    (h : Judges {} baselineByKey3 dicts dicts' keys result)
    (hzero : ∀ d ∈ result.rows, d.absDelta = 0) : ReportsNothing result := by
  have hrows : ∀ d ∈ result.rows, d.absDelta = 0 ∧ d.material = false := by
    intro d hd
    have hdelta := hzero d hd
    rw [h.rows] at hd
    obtain ⟨k, -, rfl⟩ := List.mem_map.mp hd
    exact ⟨hdelta, not_material_of_zero (by norm_num) hdelta⟩
  have htotals : result.totalCurrent = result.totalPrior := by
    have hdeltas : result.rows.map ReconciliationDelta.absDelta =
        result.rows.map fun _ => (0 : ℚ) := List.map_congr_left hzero
    have hsum := sum_absDelta h.toReports
    rw [hdeltas, List.sum_map_zero] at hsum
    exact sub_eq_zero.mp hsum
  refine ⟨hrows, ?_, ?_, ?_⟩
  · rw [h.totalAbsDelta, htotals, sub_self]
  · rw [h.count, List.countP_eq_zero]
    intro d hd
    rw [(hrows d hd).2]
    decide
  · rw [← Bool.not_eq_true, h.restatement]
    rintro (⟨-, hover⟩ | ⟨d, hd, htrips⟩)
    · rw [htotals, sub_self, zero_div, zero_mul, abs_zero] at hover
      exact absurd hover (by norm_num)
    · obtain ⟨p, -, -, habove⟩ := (tripsAlone_iff {} d).mp htrips
      rw [(hrows d hd).1, abs_zero] at habove
      exact absurd habove (by norm_num)

/-- Some order of the rows has this one last of its key. -/
theorem exists_listing {r : EmissionRow} (hr : r ∈ rows) :
    ∃ listed : List EmissionRow, listed.Perm rows ∧
      (Dict.indexBy EmissionDict.key (listed.map rowToEmissionDict)).get?
        (rowToEmissionDict r).key = some (rowToEmissionDict r) := by
  obtain ⟨before, after, rfl⟩ := List.append_of_mem hr
  refine ⟨before ++ after ++ [r], ?_, ?_⟩
  · rw [List.append_assoc]
    exact List.perm_append_comm.append_left before
  · rw [List.map_append, List.map_singleton, Dict.indexBy_concat, Dict.get?_set, if_pos rfl]

theorem groupKeys_comparable (hsites : SitesComparable rows) (hfrozen : frozen.Perm rows)
    (hlisted : listed.Perm rows) :
    SitesUniform (groupKeys (frozen.map rowToEmissionDict) (listed.map rowToEmissionDict)) := by
  have hmem : ∀ k ∈ groupKeys (frozen.map rowToEmissionDict) (listed.map rowToEmissionDict),
      k ∈ rows.map fun r => (rowToEmissionDict r).key.group := by
    intro k hk
    rw [groupKeys, ← List.map_append, List.map_map] at hk
    obtain ⟨r, hr, rfl⟩ := List.mem_map.mp hk
    refine List.mem_map_of_mem (f := fun r => (rowToEmissionDict r).key.group) ?_
    rcases List.mem_append.mp hr with hr | hr
    · exact hfrozen.mem_iff.mp hr
    · exact hlisted.mem_iff.mp hr
  exact fun k hk k' hk' => hsites k (hmem k hk) k' (hmem k' hk')

theorem reconcileSnapshot_returns (hsites : SitesComparable rows) (hfrozen : frozen.Perm rows)
    (hlisted : listed.Perm rows) :
    ∃ result, reconcileSnapshot (frozen.map rowToEmissionDict) listed = .ok result := by
  obtain ⟨result, h⟩ := reconcile_succeeds.mpr (show Sortable {} (frozen.map rowToEmissionDict)
    (listed.map rowToEmissionDict) from ⟨groupKeys_comparable hsites hfrozen hlisted, nofun⟩)
  refine ⟨result, ?_⟩
  unfold reconcileSnapshot
  rw [h]

theorem sameTonnes_of_reportsNothing (hsites : SitesComparable rows)
    (h : ∀ (frozen listed : List EmissionRow) (result : ReconciliationResult),
      frozen.Perm rows → listed.Perm rows →
        reconcileSnapshot (frozen.map rowToEmissionDict) listed = .ok result →
          ReportsNothing result) : SameTonnes rows := by
  intro r hr r' hr' hkey
  obtain ⟨frozen, hfrozen, hget⟩ := exists_listing hr
  obtain ⟨listed, hlisted, hget'⟩ := exists_listing hr'
  obtain ⟨result, hresult⟩ := reconcileSnapshot_returns hsites hfrozen hlisted
  obtain ⟨baselineByKey3, keys, -, hkeys, hjudges⟩ :=
    judges_of_reconcile (reconcileSnapshot_eq_ok hresult)
  have hmem : (rowToEmissionDict r).key ∈ keys := by
    rw [(sorted_perm hkeys).mem_iff]
    exact mem_allKeys.mpr (.inl (List.mem_map_of_mem (List.mem_map_of_mem
      (hfrozen.mem_iff.mpr hr))))
  have hzero := ((h frozen listed result hfrozen hlisted hresult).rows
    (keyDelta {} baselineByKey3 (frozen.map rowToEmissionDict) (listed.map rowToEmissionDict)
      (rowToEmissionDict r).key) (by rw [hjudges.rows]; exact List.mem_map_of_mem hmem)).1
  rw [← hkey] at hget'
  unfold keyDelta deltaOf at hzero
  dsimp only at hzero
  rw [hget, hget'] at hzero
  have hdelta : r'.tco2e - r.tco2e = 0 := hzero
  linarith

end Differences

/-- Where rows of one key had the same tonnes when the snapshot was taken, a reported difference is
one of the ledger: under its key a row was active then and is not now, or the other way round. -/
theorem diff_names_changes (s : SnapshotState) (call : SnapshotCall)
    {frozen listed : List EmissionRow} {snapshots' : List ReportSnapshot}
    (hcreate : createSnapshot s.snapshots frozen call = .ok snapshots')
    (later : List SnapshotEvent) (hfrozen : frozen.Perm (call.activeRows s.db))
    (hlisted : listed.Perm (call.activeRows
      (run SnapshotState.step (s.step (.create call frozen)) later).db))
    (hprior : SameTonnes (call.activeRows s.db)) {result : ReconciliationResult}
    (hdiff : getReconciliationDiff
      (run SnapshotState.step (s.step (.create call frozen)) later).snapshots listed call.tenantId
        call.anno call.snapshotId = .ok result) :
    ∀ d ∈ result.rows, d.absDelta ≠ 0 → ∃ r, (rowToEmissionDict r).key = d.key ∧
      (r ∈ call.activeRows s.db ∧ r ∉ call.activeRows
          (run SnapshotState.step (s.step (.create call frozen)) later).db ∨
        r ∉ call.activeRows s.db ∧ r ∈ call.activeRows
          (run SnapshotState.step (s.step (.create call frozen)) later).db) := by
  rw [diff_of_own_year hcreate] at hdiff
  obtain ⟨baselineByKey3, keys, -, -, hjudges⟩ :=
    judges_of_reconcile (reconcileSnapshot_eq_ok hdiff)
  intro d hd hne
  rw [hjudges.rows] at hd
  obtain ⟨k, -, rfl⟩ := List.mem_map.mp hd
  by_contra hunnamed
  refine hne (absDelta_of_same_rows hfrozen hlisted hprior fun r hkey => ?_)
  by_contra hdiffers
  exact hunnamed ⟨r, hkey, by tauto⟩

/-- A year whose ledger has not changed passes as unchanged, whatever the order of its rows, exactly
if rows of one key have the same tonnes. The two tracks of a dual run share their keys. -/
theorem unchanged_year_passes_iff (s : SnapshotState) (call : SnapshotCall)
    (hadmin : call.role = .admin) (hanno : SnapshotYear call.anno)
    (hfree : ∀ r ∈ s.snapshots, r.id ≠ call.snapshotId ∧
      r.naturalKey ≠ (call.tenantId, call.anno, call.snapshotKind, call.now))
    (hsites : SitesComparable (call.activeRows s.db)) (later : List SnapshotEvent)
    (hsame : (call.activeRows (ledgerAfter s.db later)).Perm (call.activeRows s.db)) :
    (∀ frozen listed : List EmissionRow, frozen.Perm (call.activeRows s.db) →
      listed.Perm (call.activeRows (ledgerAfter s.db later)) → ∀ result,
        getReconciliationDiff
          (run SnapshotState.step (s.step (.create call frozen)) later).snapshots listed
            call.tenantId call.anno call.snapshotId = .ok result → ReportsNothing result) ↔
      SameTonnes (call.activeRows s.db) := by
  have hdiff : ∀ frozen listed : List EmissionRow, getReconciliationDiff
      (run SnapshotState.step (s.step (.create call frozen)) later).snapshots listed
        call.tenantId call.anno call.snapshotId =
      reconcileSnapshot (frozen.map rowToEmissionDict) listed := by
    intro frozen listed
    obtain ⟨snapshots', hcreate⟩ := createSnapshot_succeeds hadmin hanno hfree frozen
    exact diff_of_own_year hcreate later listed
  constructor
  · intro h
    refine sameTonnes_of_reportsNothing hsites fun frozen listed result hfrozen hlisted hok => ?_
    exact h frozen listed hfrozen (hlisted.trans hsame.symm) result
      ((hdiff frozen listed).trans hok)
  · intro hprior frozen listed hfrozen hlisted result hok
    obtain ⟨baselineByKey3, keys, -, -, hjudges⟩ :=
      judges_of_reconcile (reconcileSnapshot_eq_ok ((hdiff frozen listed).symm.trans hok))
    refine reportsNothing_of_zero hjudges fun d hd => ?_
    rw [hjudges.rows] at hd
    obtain ⟨k, -, rfl⟩ := List.mem_map.mp hd
    exact absDelta_of_same_rows hfrozen (hlisted.trans hsame) hprior fun _ _ => Iff.rfl

theorem diff_names_changes_of_correction : ∃ result,
    getReconciliationDiff (run SnapshotState.step
        (gridYear.step (.create frozenYear (frozenYear.activeRows gridDatabase)))
        correctedLater).snapshots
      (frozenYear.activeRows (ledgerAfter gridDatabase correctedLater)) 1 2024 7 = .ok result ∧
    ∀ d ∈ result.rows, d.absDelta ≠ 0 → ∃ r, (rowToEmissionDict r).key = d.key ∧
      (r ∈ frozenYear.activeRows gridDatabase ∧
          r ∉ frozenYear.activeRows (ledgerAfter gridDatabase correctedLater) ∨
        r ∉ frozenYear.activeRows gridDatabase ∧
          r ∈ frozenYear.activeRows (ledgerAfter gridDatabase correctedLater)) := by
  obtain ⟨snapshots', hcreate⟩ := createSnapshot_frozenYear
  have hsites : SitesUniform (groupKeys
      ((frozenYear.activeRows gridDatabase).map rowToEmissionDict)
      ((frozenYear.activeRows (ledgerAfter gridDatabase correctedLater)).map
        rowToEmissionDict)) := by
    unfold SitesUniform
    decide +kernel
  obtain ⟨result, hresult⟩ : ∃ result, reconcile noStatistics {} _ _ = .ok result :=
    reconcile_succeeds.mpr ⟨hsites, nofun⟩
  have hdiff := diff_of_own_year hcreate correctedLater
    (frozenYear.activeRows (ledgerAfter gridDatabase correctedLater))
  rw [reconcileSnapshot, hresult] at hdiff
  have hdb := db_after_create gridYear frozenYear (frozenYear.activeRows gridDatabase)
    correctedLater
  have hnames := diff_names_changes gridYear frozenYear hcreate correctedLater (.refl _)
    (by rw [hdb]; exact .refl _) (by decide +kernel) hdiff
  rw [hdb] at hnames
  exact ⟨result, hdiff, hnames⟩

/-- The purchased goods of a dual run, of ten tonnes on one track and eleven on the other. -/
def unevenTracks : EmissionsTable where
  rows :=
    [{ gridRow with rawScope := .three, scope := .three, subScope := .cat1, codiceSito := none },
      { gridRow with
        id := 2, rawScope := .three, scope := .three, subScope := .cat1, codiceSito := none
        gwpSet := .ar5, regulatoryStream := .euEtsPhaseIv, tco2e := 11 }]
  checks := by simp [EmissionRow.Checks, gridRow]
  pk := by simp [gridRow]
  naturalKey := by simp [EmissionRow.NaturalKeyClash, EmissionRow.naturalKey, gridRow]
  exclusion := by simp [EmissionRow.TemporalClash, gridRow]
  supersededFk := by simp [gridRow]

def dualYear : SnapshotState := ⟨{ gridDatabase with emissions := unevenTracks }, []⟩

/-- One order of the query of an unchanged ledger makes a difference of the two tracks. -/
theorem unchanged_year_fails_of_tracks :
    ¬ ∀ frozen listed : List EmissionRow, frozen.Perm (frozenYear.activeRows dualYear.db) →
      listed.Perm (frozenYear.activeRows (ledgerAfter dualYear.db [.ledger (.wait 60)])) →
        ∀ result, getReconciliationDiff (run SnapshotState.step
          (dualYear.step (.create frozenYear frozen)) [.ledger (.wait 60)]).snapshots listed 1 2024
            7 = .ok result → ReportsNothing result := by
  have hsites : SitesComparable (frozenYear.activeRows dualYear.db) := by
    unfold SitesComparable SitesUniform
    decide +kernel
  have hdiffer : ¬ SameTonnes (frozenYear.activeRows dualYear.db) := by decide +kernel
  have hpasses := unchanged_year_passes_iff dualYear frozenYear rfl (by decide) nofun hsites
    [.ledger (.wait 60)] (.refl _)
  exact fun h => hdiffer (hpasses.mp h)

end GhgTool
