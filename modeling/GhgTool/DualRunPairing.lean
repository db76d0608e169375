import GhgTool.CalcPersistence
import GhgTool.Runs

/-!
# Pairs of calculation runs

Transactions of any shape over `ops.calc_runs`. A statement inserts any number of rows; its checks
and the foreign key of `dual_run_id`, which is not deferrable, are tested before the next statement,
and `ops.enforce_dual_run_reciprocity` fires for every inserted row when the transaction commits.
Rows are never updated or deleted, so a link that is one-sided at its commit stays one-sided.
-/

namespace GhgTool

inductive CalcRunsError
  | violation (v : Violation)
  /-- `ops.deny_calc_runs_mutation`. -/
  | appendOnly
  deriving DecidableEq

inductive CalcRunsStatement
  | insert (rows : List CalcRun)
  /-- An `UPDATE` or a `DELETE` with its `WHERE` clause. -/
  | mutate (matched : CalcRun → Bool)

def insertCalcRuns (runs rows : List CalcRun) : Except CalcRunsError (List CalcRun) :=
  if ∃ r ∈ rows, r.dualRunId = some r.id then .error (.violation .ckCalcRunsNoSelfDual)
  else if ¬ ((runs ++ rows).map CalcRun.id).Nodup then .error (.violation .calcRunsPkey)
  else if ∀ r ∈ rows, ∀ i ∈ r.dualRunId, i ∈ (runs ++ rows).map CalcRun.id then .ok (runs ++ rows)
  else .error (.violation .fkCalcRunsDualRunId)

namespace CalcRunsStatement

def exec (runs : List CalcRun) : CalcRunsStatement → Except CalcRunsError (List CalcRun)
  | insert rows => insertCalcRuns runs rows
  -- the trigger is `FOR EACH ROW`: a statement that matches no row raises nothing
  | mutate matched => if runs.any matched then .error .appendOnly else .ok runs

def inserted : CalcRunsStatement → List CalcRun
  | insert rows => rows
  | mutate _ => []

end CalcRunsStatement

abbrev CalcRunsTransaction := List CalcRunsStatement

namespace CalcRunsTransaction

def exec (runs : List CalcRun) : CalcRunsTransaction → Except CalcRunsError (List CalcRun)
  | [] => .ok runs
  | statement :: rest => do
    let runs ← statement.exec runs
    exec runs rest

def inserted (tx : CalcRunsTransaction) : List CalcRun :=
  tx.flatMap CalcRunsStatement.inserted

/-- The deferred trigger, for each inserted row in turn. -/
def fireDeferred (stored : List CalcRun) : List CalcRun → Except CalcRunsError Unit
  | [] => .ok ()
  | r :: rest =>
    match enforceDualRunReciprocity stored r with
    | .error v => .error (.violation v)
    | .ok () => fireDeferred stored rest

def commit (runs : List CalcRun) (tx : CalcRunsTransaction) :
    Except CalcRunsError (List CalcRun) := do
  let stored ← tx.exec runs
  fireDeferred stored tx.inserted
  return stored

/-- The table after the transaction, which rolls back when a statement or the trigger raises. -/
def step (runs : List CalcRun) (tx : CalcRunsTransaction) : List CalcRun :=
  match commit runs tx with
  | .ok stored => stored
  | .error _ => runs

end CalcRunsTransaction

/-! ## What a committed transaction has done -/

/-- `b` is a partner that `a` may point to. -/
def CalcRun.PairsWith (a b : CalcRun) : Prop :=
  b.tenantId = a.tenantId ∧ b.anno = a.anno ∧ b.regulatoryStream ≠ a.regulatoryStream

/-- The keys are unique and every link leads to a stored row. -/
structure KeyedRuns (runs : List CalcRun) : Prop where
  nodup : (runs.map CalcRun.id).Nodup
  linked : ∀ r ∈ runs, ∀ i ∈ r.dualRunId, i ∈ runs.map CalcRun.id

theorem KeyedRuns.eq_of_id_eq {runs : List CalcRun} (h : KeyedRuns runs) {a b : CalcRun}
    (ha : a ∈ runs) (hb : b ∈ runs) (hid : a.id = b.id) : a = b :=
  List.inj_on_of_nodup_map h.nodup ha hb hid

theorem insertCalcRuns_eq_ok {runs rows stored : List CalcRun}
    (h : insertCalcRuns runs rows = .ok stored) :
    stored = runs ++ rows ∧ (stored.map CalcRun.id).Nodup ∧
      ∀ r ∈ rows, ∀ i ∈ r.dualRunId, i ∈ stored.map CalcRun.id := by
  unfold insertCalcRuns at h
  split_ifs at h with hself hkeys hlinked
  cases h
  exact ⟨rfl, hkeys, hlinked⟩

variable {runs stored : List CalcRun}

theorem CalcRunsStatement.exec_eq_ok {s : CalcRunsStatement} (hruns : KeyedRuns runs)
    (h : s.exec runs = .ok stored) : stored = runs ++ s.inserted ∧ KeyedRuns stored := by
  cases s with
  | insert rows =>
      obtain ⟨rfl, hnodup, hlinked⟩ := insertCalcRuns_eq_ok h
      refine ⟨rfl, hnodup, ?_⟩
      intro r hr i hi
      rcases List.mem_append.mp hr with hr | hr
      · rw [List.map_append]
        exact List.mem_append_left _ (hruns.linked r hr i hi)
      · exact hlinked r hr i hi
  | mutate matched =>
      simp only [CalcRunsStatement.exec] at h
      split_ifs at h
      cases h
      exact ⟨by simp [CalcRunsStatement.inserted], hruns⟩

theorem enforceDualRunReciprocity_eq_ok {r : CalcRun} {i : Uuid} (hi : r.dualRunId = some i)
    (h : enforceDualRunReciprocity stored r = .ok ()) :
    ∃ paired ∈ stored, paired.id = i ∧ r.PairsWith paired ∧ ∀ j ∈ paired.dualRunId, j = r.id := by
  unfold enforceDualRunReciprocity at h
  rw [hi] at h
  dsimp only at h
  split at h
  · cases h
  · next paired hfind =>
      have hid : paired.id = i := by simpa using List.find?_some hfind
      split_ifs at h with hpaired
      obtain ⟨htenant, hanno, hstream, hdual⟩ := hpaired
      exact ⟨paired, List.mem_of_find?_eq_some hfind, hid, ⟨htenant, hanno, hstream⟩, hdual⟩

namespace CalcRunsTransaction

theorem exec_eq_ok {tx : CalcRunsTransaction} (hruns : KeyedRuns runs)
    (h : tx.exec runs = .ok stored) : stored = runs ++ tx.inserted ∧ KeyedRuns stored := by
  induction tx generalizing runs with
  | nil =>
      cases h
      exact ⟨by simp [inserted], hruns⟩
  | cons s tx ih =>
      rw [exec, bind_eq_ok] at h
      obtain ⟨first, hfirst, hrest⟩ := h
      obtain ⟨rfl, hkeyed⟩ := CalcRunsStatement.exec_eq_ok hruns hfirst
      obtain ⟨hstored, hkeyed'⟩ := ih hkeyed hrest
      refine ⟨?_, hkeyed'⟩
      rw [hstored, inserted, inserted, List.flatMap_cons, List.append_assoc]

theorem fireDeferred_eq_ok {rows : List CalcRun} (h : fireDeferred stored rows = .ok ()) :
    ∀ r ∈ rows, enforceDualRunReciprocity stored r = .ok () := by
  induction rows with
  | nil => simp
  | cons r rows ih =>
      unfold fireDeferred at h
      split at h
      · cases h
      · next hok =>
          intro r' hr'
          rcases List.mem_cons.mp hr' with rfl | hr'
          · exact hok
          · exact ih h r' hr'

theorem commit_eq_ok {tx : CalcRunsTransaction} (hruns : KeyedRuns runs)
    (h : tx.commit runs = .ok stored) :
    stored = runs ++ tx.inserted ∧ KeyedRuns stored ∧
      ∀ r ∈ tx.inserted, enforceDualRunReciprocity stored r = .ok () := by
  obtain ⟨stored', hexec, h⟩ := bind_eq_ok.mp h
  obtain ⟨_, hfire, h⟩ := bind_eq_ok.mp h
  cases h
  obtain ⟨hstored, hkeyed⟩ := exec_eq_ok hruns hexec
  exact ⟨hstored, hkeyed, fireDeferred_eq_ok hfire⟩

theorem step_keyed (hruns : KeyedRuns runs) (tx : CalcRunsTransaction) :
    KeyedRuns (tx.step runs) := by
  unfold step
  split
  · next h => exact (commit_eq_ok hruns h).2.1
  · exact hruns

end CalcRunsTransaction

/-! ## The matching -/

/-- Every linked row is linked back by a row of its tenant and year in the other stream. -/
def SymmetricMatching (runs : List CalcRun) : Prop :=
  ∀ a ∈ runs, ∀ i ∈ a.dualRunId, ∃ b ∈ runs, b.id = i ∧ b.dualRunId = some a.id ∧ a.PairsWith b

/-- A transaction that inserts a linked row inserts its partner too, and with a link of its own. -/
def CalcRunsTransaction.InsertsPairs (tx : CalcRunsTransaction) : Prop :=
  ∀ a ∈ tx.inserted, ∀ i ∈ a.dualRunId, ∃ b ∈ tx.inserted, b.id = i ∧ b.dualRunId ≠ none

/-- What is asked of a transaction that commits. -/
def CommitsPairs (runs : List CalcRun) (tx : CalcRunsTransaction) : Prop :=
  (tx.commit runs).toBool = true → tx.InsertsPairs

instance (tx : CalcRunsTransaction) : Decidable tx.InsertsPairs :=
  inferInstanceAs (Decidable (∀ a ∈ tx.inserted, ∀ i ∈ a.dualRunId, ∃ b ∈ tx.inserted,
    b.id = i ∧ b.dualRunId ≠ none))

instance (runs : List CalcRun) (tx : CalcRunsTransaction) : Decidable (CommitsPairs runs tx) :=
  inferInstanceAs (Decidable ((tx.commit runs).toBool = true → tx.InsertsPairs))

theorem symmetricMatching_commit {tx : CalcRunsTransaction} (hkeyed : KeyedRuns stored)
    (hstored : stored = runs ++ tx.inserted)
    (hfired : ∀ r ∈ tx.inserted, enforceDualRunReciprocity stored r = .ok ())
    (hruns : SymmetricMatching runs) (htx : tx.InsertsPairs) : SymmetricMatching stored := by
  intro a ha i hi
  rw [hstored] at ha
  rcases List.mem_append.mp ha with ha | ha
  · obtain ⟨b, hb, hrest⟩ := hruns a ha i hi
    refine ⟨b, ?_, hrest⟩
    rw [hstored]
    exact List.mem_append_left _ hb
  · obtain ⟨paired, hpaired, hid, hpairs, hback⟩ :=
      enforceDualRunReciprocity_eq_ok hi (hfired a ha)
    obtain ⟨b, hb, hbid, hlinked⟩ := htx a ha i hi
    have hbmem : b ∈ stored := by
      rw [hstored]
      exact List.mem_append_right _ hb
    obtain rfl : paired = b := hkeyed.eq_of_id_eq hpaired hbmem (hid.trans hbid.symm)
    obtain ⟨j, hj⟩ := Option.ne_none_iff_exists'.mp hlinked
    have hja : j = a.id := hback j hj
    exact ⟨paired, hpaired, hid, by rw [hj, hja], hpairs⟩

/-- A partner stored before would have to point to a row that did not exist yet. -/
theorem insertsPairs_of_symmetricMatching {tx : CalcRunsTransaction} (hruns : KeyedRuns runs)
    (hkeyed : KeyedRuns stored) (hstored : stored = runs ++ tx.inserted)
    (hsymm : SymmetricMatching stored) : tx.InsertsPairs := by
  intro a ha i hi
  have hamem : a ∈ stored := by
    rw [hstored]
    exact List.mem_append_right _ ha
  obtain ⟨b, hb, hid, hback, -⟩ := hsymm a hamem i hi
  rw [hstored] at hb
  rcases List.mem_append.mp hb with hb | hb
  · have haold : a.id ∈ runs.map CalcRun.id := hruns.linked b hb a.id hback
    have hnodup := hkeyed.nodup
    rw [hstored, List.map_append] at hnodup
    exact absurd (List.mem_map_of_mem ha) ((List.nodup_append'.mp hnodup).2.2 haold)
  · exact ⟨b, hb, hid, by rw [hback]; simp⟩

/-- One transaction keeps the matching exactly when it commits no half of a pair. -/
theorem symmetricMatching_step (hruns : KeyedRuns runs) (hsymm : SymmetricMatching runs)
    (tx : CalcRunsTransaction) :
    SymmetricMatching (tx.step runs) ↔ CommitsPairs runs tx := by
  unfold CalcRunsTransaction.step CommitsPairs
  cases h : tx.commit runs with
  | error e => exact ⟨fun _ hbool => absurd hbool (by simp [Except.toBool]), fun _ => hsymm⟩
  | ok stored =>
      obtain ⟨hstored, hkeyed, hfired⟩ := CalcRunsTransaction.commit_eq_ok hruns h
      constructor
      · exact fun hmatch _ => insertsPairs_of_symmetricMatching hruns hkeyed hstored hmatch
      · exact fun htx => symmetricMatching_commit hkeyed hstored hfired hsymm (htx rfl)

/-- The table as the migration that added the column leaves it. -/
structure Unpaired (runs : List CalcRun) : Prop where
  nodup : (runs.map CalcRun.id).Nodup
  unlinked : ∀ r ∈ runs, r.dualRunId = none

theorem Unpaired.keyedRuns (h : Unpaired runs) : KeyedRuns runs := by
  refine ⟨h.nodup, fun r hr i hi => ?_⟩
  rw [h.unlinked r hr] at hi
  cases hi

theorem Unpaired.symmetricMatching (h : Unpaired runs) : SymmetricMatching runs := by
  intro a ha i hi
  rw [h.unlinked a ha] at hi
  cases hi

theorem matching_throughout (hruns : KeyedRuns runs) (hsymm : SymmetricMatching runs)
    (txs : List CalcRunsTransaction) :
    (∀ before after, txs = before ++ after →
        SymmetricMatching (run CalcRunsTransaction.step runs before)) ↔
      Along CalcRunsTransaction.step CommitsPairs runs txs := by
  induction txs generalizing runs with
  | nil =>
      refine ⟨fun _ => trivial, fun _ before after hsplit => ?_⟩
      obtain rfl : before = [] := (List.nil_eq_append_iff.mp hsplit).1
      exact hsymm
  | cons tx txs ih =>
      have hkeyed := CalcRunsTransaction.step_keyed hruns tx
      constructor
      · intro hall
        have hfirst : SymmetricMatching (tx.step runs) := hall [tx] txs rfl
        refine ⟨(symmetricMatching_step hruns hsymm tx).mp hfirst, (ih hkeyed hfirst).mp ?_⟩
        intro before after hsplit
        exact hall (tx :: before) after (by rw [hsplit, List.cons_append])
      · rintro ⟨hfirst, hrest⟩ before after hsplit
        have hnext := (symmetricMatching_step hruns hsymm tx).mpr hfirst
        cases before with
        | nil => exact hsymm
        | cons tx' before =>
            obtain ⟨rfl, hsplit'⟩ := List.cons.inj hsplit
            exact (ih hkeyed hnext).mpr hrest before after hsplit'

/-- The links form a symmetric matching in every state of a run of transactions exactly when no
transaction of the run commits one half of a pair. -/
theorem dual_run_matching (runs : List CalcRun) (hruns : Unpaired runs)
    (txs : List CalcRunsTransaction) :
    (∀ before after, txs = before ++ after →
        SymmetricMatching (run CalcRunsTransaction.step runs before)) ↔
      Along CalcRunsTransaction.step CommitsPairs runs txs :=
  matching_throughout hruns.keyedRuns hruns.symmetricMatching txs

/-- The transaction of a single run as one of these: a statement with one row that has no link. -/
theorem persistEmissions_commit {db db' : Database} {spec : RunSpec} {records : List EmissionRecord}
    (hruns : KeyedRuns db.calcRuns) (h : persistEmissions db spec records = .ok db') :
    CalcRunsTransaction.commit db.calcRuns
      [.insert [calcRunRow spec (freshRunId db.calcRuns) none records]] = .ok db'.calcRuns := by
  obtain ⟨emissions, -, h⟩ := bind_eq_ok.mp h
  obtain ⟨calcRuns, hinsert, h⟩ := bind_eq_ok.mp h
  obtain ⟨_, hfire, h⟩ := bind_eq_ok.mp h
  cases h
  have hfresh := freshRunId_notMem db.calcRuns
  have hnodup : ((db.calcRuns ++ [calcRunRow spec (freshRunId db.calcRuns) none records]).map
      CalcRun.id).Nodup := by
    rw [List.map_append, List.nodup_append']
    refine ⟨hruns.nodup, by simp, ?_⟩
    simpa [calcRunRow] using hfresh
  have hstored : calcRuns =
      db.calcRuns ++ [calcRunRow spec (freshRunId db.calcRuns) none records] := by
    unfold insertCalcRun at hinsert
    split_ifs at hinsert
    cases hinsert
    rfl
  have hexec : insertCalcRuns db.calcRuns
      [calcRunRow spec (freshRunId db.calcRuns) none records] = .ok calcRuns := by
    unfold insertCalcRuns
    rw [if_neg (by simp [calcRunRow]), if_neg (not_not.mpr hnodup), if_pos (by simp [calcRunRow]),
      hstored]
  simp only [CalcRunsTransaction.commit, CalcRunsTransaction.exec, CalcRunsStatement.exec, hexec]
  rfl

theorem symmetricMatching_of_persistEmissions {db db' : Database} {spec : RunSpec}
    {records : List EmissionRecord} (hruns : KeyedRuns db.calcRuns)
    (hsymm : SymmetricMatching db.calcRuns) (h : persistEmissions db spec records = .ok db') :
    SymmetricMatching db'.calcRuns := by
  have hcommit := persistEmissions_commit hruns h
  obtain ⟨hstored, hkeyed, hfired⟩ := CalcRunsTransaction.commit_eq_ok hruns hcommit
  refine symmetricMatching_commit hkeyed hstored hfired hsymm ?_
  intro a ha i hi
  obtain rfl : a = calcRunRow spec (freshRunId db.calcRuns) none records := by
    simpa [CalcRunsTransaction.inserted, CalcRunsStatement.inserted] using ha
  cases hi

def csrdRun (dualRunId : Option Uuid) : CalcRun :=
  ⟨1, 1, .drawn 1, 2025, 0, .ar6, .csrdEsrsE1, "calc_service", dualRunId⟩

def etsRun (dualRunId : Option Uuid) : CalcRun :=
  ⟨2, 1, .drawn 1, 2025, 0, .ar5, .euEtsPhaseIv, "calc_service", dualRunId⟩

/-- Both rows in one statement, so that the foreign key finds them. -/
theorem dual_run_matching_pair :
    Unpaired [] ∧
      ∀ before after, [[.insert [csrdRun (some 2), etsRun (some 1)]]] = before ++ after →
        SymmetricMatching (run CalcRunsTransaction.step [] before) := by
  have hempty : Unpaired [] := ⟨by simp, by simp⟩
  exact ⟨hempty, (dual_run_matching [] hempty _).mpr (by decide)⟩

/-- A run that points to one committed earlier is accepted, and is never pointed back to. -/
theorem one_sided_link_commits :
    ¬ SymmetricMatching (run CalcRunsTransaction.step []
      [[.insert [csrdRun none]], [.insert [etsRun (some 1)]]]) := by
  intro hmatch
  obtain ⟨b, hb, hid, hback, -⟩ := hmatch (etsRun (some 1)) (by decide) 1 (by decide)
  have hunlinked : ∀ b ∈ run CalcRunsTransaction.step []
      [[.insert [csrdRun none]], [.insert [etsRun (some 1)]]], b.id = 1 → b.dualRunId = none := by
    decide
  rw [hunlinked b hb hid] at hback
  cases hback

end GhgTool
