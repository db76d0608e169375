import GhgTool.CalcPersistence
import GhgTool.EtlOrchestrator
import GhgTool.HalfUp
import GhgTool.KeyedInsert
import GhgTool.SynthClosure

/-!
# The Excel import

`importExcel` runs the pipeline on the three sheets of a workbook and inserts what it staged, each
upload under a batch of its own. The conflict target of the insertions contains the batch, so rows
are only ever deduplicated within one upload; the loader of the calculation reads all batches.

The connection of the import is one that row-level security does not bind; under a role that it
binds no row could be inserted at all.
-/

namespace GhgTool

/-! ## The raw tables -/

/-- A quantity fits `NUMERIC(20,6)`. -/
def numericFits (q : Option ℚ) : Bool :=
  match q with
  | none => false
  | some x => decide (|roundHalfUp 6 x| < 10 ^ 14)

def storedQuantity (q : StagedQuantity) : StagedQuantity :=
  ⟨q.1.map (roundHalfUp 6), by
    intro x hx
    obtain ⟨y, hy, rfl⟩ := Option.map_eq_some_iff.mp hx
    exact roundHalfUp_nonneg 6 (q.2 y hy)⟩

/-- The columns of a raw table: what their types admit, and how a row is stored. -/
structure RawColumns (β : Type) where
  fits : β → Bool
  stored : β → β

def nullableFits (n : ℕ) (s : Option String) : Bool :=
  s.all (varcharFits n)

def nullableVarchar (n : ℕ) (s : Option String) : Option String :=
  s.map (varchar n)

def scope1Columns : RawColumns Scope1Body where
  fits b := varcharFits 40 b.codiceSito && varcharFits 40 b.categoriaS1 &&
    varcharFits 40 b.combustibile && numericFits b.quantita.1 && varcharFits 20 b.unita &&
    varcharFits 120 b.fonteDato && varcharFits 4 b.qualitaDato && varcharFits 20 b.statoDato &&
    varcharFits 60 b.provenance
  stored b :=
    { b with
      codiceSito := varchar 40 b.codiceSito
      categoriaS1 := varchar 40 b.categoriaS1
      combustibile := varchar 40 b.combustibile
      quantita := storedQuantity b.quantita
      unita := varchar 20 b.unita
      fonteDato := varchar 120 b.fonteDato
      qualitaDato := varchar 4 b.qualitaDato
      statoDato := varchar 20 b.statoDato
      provenance := varchar 60 b.provenance }

def scope2Columns : RawColumns Scope2Body where
  fits b := varcharFits 40 b.codiceSito && varcharFits 40 b.voceS2 && numericFits b.quantita.1 &&
    varcharFits 20 b.unita && nullableFits 40 b.strumentoMb && varcharFits 120 b.fonteDato &&
    varcharFits 4 b.qualitaDato && varcharFits 20 b.statoDato && varcharFits 60 b.provenance
  stored b :=
    { b with
      codiceSito := varchar 40 b.codiceSito
      voceS2 := varchar 40 b.voceS2
      quantita := storedQuantity b.quantita
      unita := varchar 20 b.unita
      strumentoMb := nullableVarchar 40 b.strumentoMb
      fonteDato := varchar 120 b.fonteDato
      qualitaDato := varchar 4 b.qualitaDato
      statoDato := varchar 20 b.statoDato
      provenance := varchar 60 b.provenance }

def scope3Columns : RawColumns Scope3Body where
  fits b := varcharFits 200 b.sottocategoria && varcharFits 40 b.metodo &&
    nullableFits 40 b.combustibile && numericFits b.quantita.1 && varcharFits 20 b.unita &&
    varcharFits 120 b.fonteDato && varcharFits 4 b.qualitaDato && varcharFits 20 b.statoDato &&
    nullableFits 20 b.defaultingRuleId
  stored b :=
    { b with
      sottocategoria := varchar 200 b.sottocategoria
      metodo := varchar 40 b.metodo
      combustibile := nullableVarchar 40 b.combustibile
      quantita := storedQuantity b.quantita
      unita := varchar 20 b.unita
      fonteDato := varchar 120 b.fonteDato
      qualitaDato := varchar 4 b.qualitaDato
      statoDato := varchar 20 b.statoDato
      defaultingRuleId := nullableVarchar 20 b.defaultingRuleId }

structure RawDb (F : Type) where
  batches : List Uuid
  scope1 : List (Staged Scope1Body)
  scope2 : List (Staged Scope2Body)
  scope3 : List (Staged Scope3Body)
  /-- `calc.dq_findings`, each with its tenant and correlation id. -/
  findings : List (Uuid × Uuid × Finding F)

inductive ImportError
  | etl (e : EtlError)
  | dqGateBlocked
  | dbWriteFailed
  deriving DecidableEq

/-- The conflict target `(tenant_id, batch_id, idempotency_key)`. -/
def conflictKey {β : Type} (r : Staged β) : Uuid × Uuid × String :=
  (r.tenantId, r.batchId, r.idempotencyKey)

def storeRow {β : Type} (cols : RawColumns β) (r : Staged β) : Staged β :=
  { r with body := cols.stored r.body }

/-- `_bulk_insert`: a value that its column does not admit fails the statement. -/
def bulkInsert {β : Type} (cols : RawColumns β) (rows rs : List (Staged β)) :
    Except ImportError (List (Staged β)) :=
  rs.foldlM (fun rows r =>
    if cols.fits r.body then .ok (insertNew conflictKey rows (storeRow cols r))
    else .error .dbWriteFailed) rows

theorem bulkInsert_eq_ok {β : Type} {cols : RawColumns β} {rows rs rows' : List (Staged β)} :
    bulkInsert cols rows rs = .ok rows' ↔ (∀ r ∈ rs, cols.fits r.body = true) ∧
      rows' = insertAllNew conflictKey rows (rs.map (storeRow cols)) := by
  unfold bulkInsert
  induction rs generalizing rows with
  | nil =>
      simp only [List.foldlM_nil, List.not_mem_nil, false_implies, implies_true, true_and,
        List.map_nil]
      constructor
      · intro h
        cases h
        rfl
      · rintro rfl
        rfl
  | cons r rs ih =>
      rw [List.foldlM_cons, bind_eq_ok, List.forall_mem_cons]
      constructor
      · rintro ⟨rows₁, hfirst, hrest⟩
        split at hfirst
        · next hfits =>
            cases hfirst
            obtain ⟨hall, rfl⟩ := ih.mp hrest
            exact ⟨⟨hfits, hall⟩, rfl⟩
        · cases hfirst
      · rintro ⟨⟨hfits, hall⟩, rfl⟩
        exact ⟨_, if_pos hfits, ih.mpr ⟨hall, rfl⟩⟩

section Import

variable {F : Type} (rt : Runtime F)

def valueFits : Option (FindingValue F) → Bool
  | none => true
  | some (.count n) => decide (n < 10 ^ 14)
  | some (.float x) => numericFits (rt.toDecimal x)

def floatFits : Option F → Bool
  | none => true
  | some x => numericFits (rt.toDecimal x)

/-- The columns of `calc.dq_findings`. -/
def findingFits (f : Finding F) : Bool :=
  nullableFits 40 f.codiceSito && nullableFits 100 f.metric && valueFits rt f.valueObserved &&
    valueFits rt f.valueReference && floatFits rt f.ratioYoy && floatFits rt f.zScore &&
    nullableFits 40 f.dqReportVersion

/-- A finding as its text columns keep it; the numbers are left as they were computed. -/
def storeFinding (ctx : ImportContext) (f : Finding F) : Uuid × Uuid × Finding F :=
  (ctx.tenantId, ctx.batchId,
    { f with
      codiceSito := nullableVarchar 40 f.codiceSito
      metric := nullableVarchar 100 f.metric
      dqReportVersion := nullableVarchar 40 f.dqReportVersion })

def insertFindings (ctx : ImportContext) (findings : List (Uuid × Uuid × Finding F))
    (new : List (Finding F)) : Except ImportError (List (Uuid × Uuid × Finding F)) :=
  if new.all (findingFits rt) then .ok (findings ++ new.map (storeFinding ctx))
  else .error .dbWriteFailed

/-- `_do_db_work`, one transaction. -/
def doDbWork (db : RawDb F) (ctx : ImportContext) (result : ETLResult F) :
    Except ImportError (RawDb F) := do
  let scope1 ← bulkInsert scope1Columns db.scope1 result.scope1Rows
  let scope2 ← bulkInsert scope2Columns db.scope2 result.scope2Rows
  let scope3 ← bulkInsert scope3Columns db.scope3 result.scope3Rows
  let findings ← insertFindings rt ctx db.findings result.allFindings
  return { batches := db.batches ++ [ctx.batchId], scope1, scope2, scope3, findings }

/-- Every identifier in use. -/
def RawDb.uuids (db : RawDb F) : List Uuid :=
  db.batches ++ db.scope1.flatMap (fun r => [r.id, r.batchId]) ++
    db.scope2.flatMap (fun r => [r.id, r.batchId]) ++ db.scope3.flatMap (fun r => [r.id, r.batchId])

/-- An identifier that is not in use, as `uuid4` draws it. -/
def RawDb.freshUuid (db : RawDb F) : Uuid :=
  db.uuids.foldr (fun i m => max (i + 1) m) 1

/-- The sheets of a workbook as the readers give them. -/
structure Workbook where
  scope1 : List Scope1Raw
  scope2 : List Scope2Raw
  scope3 : List Scope3Raw

def importContext (db : RawDb F) (tenantId : Uuid) (ingestedBy : String) : ImportContext where
  batchId := db.freshUuid
  tenantId := tenantId
  ingestedBy := ingestedBy
  rowId := fun i => db.freshUuid + 1 + i

def dqReportVersion : String := "1.0.0"

def runEtlPipeline (ctx : ImportContext) (wb : Workbook) : Except ImportError (ETLResult F) :=
  (runIngestionPipeline rt ctx dqReportVersion wb.scope1 wb.scope2 wb.scope3).mapError .etl

def importExcel (db : RawDb F) (tenantId : Uuid) (ingestedBy : String) (wb : Workbook) :
    Except ImportError (RawDb F) := do
  let ctx := importContext db tenantId ingestedBy
  let result ← runEtlPipeline rt ctx wb
  if result.pipelineBlocked then .error .dqGateBlocked else doDbWork rt db ctx result

/-- The tables after a request: a transaction that fails leaves them as they were. -/
def afterImport (db : RawDb F) (tenantId : Uuid) (ingestedBy : String) (wb : Workbook) :
    RawDb F :=
  match importExcel rt db tenantId ingestedBy wb with
  | .ok db' => db'
  | .error _ => db

/-! ## What the calculation reads -/

def loadScope2 (s : Staged Scope2Body) : Option RawScope2Row :=
  match h : s.body.quantita.1 with
  | none => none
  | some q => some
      { id := s.id
        tenantId := s.tenantId
        anno := s.body.anno.1
        codiceSito := s.body.codiceSito
        quantita := q
        strumentoMb := s.body.strumentoMb
        anno_range := s.body.anno.2
        quantita_nonneg := s.body.quantita.2 q h }

def loadScope3 (s : Staged Scope3Body) : Option RawScope3Row :=
  match h : s.body.quantita.1 with
  | none => none
  | some q => some
      { id := s.id
        tenantId := s.tenantId
        anno := s.body.anno.1
        categoriaS3 := s.body.categoriaS3.1
        sottocategoria := s.body.sottocategoria
        quantita := q
        unita := s.body.unita
        anno_range := s.body.anno.2
        categoria_range := s.body.categoriaS3.2
        quantita_nonneg := s.body.quantita.2 q h }

/-- The database of the calculation with these raw tables. -/
def RawDb.into (db : RawDb F) (base : Database) : Database :=
  { base with
    scope1 := db.scope1.filterMap loadScope1
    scope2 := db.scope2.filterMap loadScope2
    scope3 := db.scope3.filterMap loadScope3 }

/-! ## Storing each fact once -/

/-- The pipeline returns on the workbook and does not block it. -/
def PassesPipeline (wb : Workbook) : Prop :=
  ∃ ctx result, runEtlPipeline rt ctx wb = .ok result ∧ result.pipelineBlocked = false

/-- A table has gained one row for each row of a frame. -/
def GainsEach {ρ β : Type} (stored : ρ → β) (before after : List (Staged β)) (df : List ρ) :
    Prop :=
  ∃ added, after = before ++ added ∧ added.map Staged.body = df.map stored

/-- An upload stores each row of the workbook, and the next upload of the same workbook changes
neither the tables nor what is loaded for any year. -/
structure StoresOnce (db : RawDb F) (tenantId : Uuid) (ingestedBy : String) (wb : Workbook) :
    Prop where
  scope1 : ∀ p, prepare rt wb.scope1 wb.scope2 wb.scope3 = .ok p →
    GainsEach (scope1Columns.stored ∘ scope1Body rt) db.scope1
      (afterImport rt db tenantId ingestedBy wb).scope1 p.df1
  scope2 : ∀ p, prepare rt wb.scope1 wb.scope2 wb.scope3 = .ok p →
    GainsEach (scope2Columns.stored ∘ scope2Body rt) db.scope2
      (afterImport rt db tenantId ingestedBy wb).scope2 p.df2
  scope3 : ∀ p, prepare rt wb.scope1 wb.scope2 wb.scope3 = .ok p →
    GainsEach (scope3Columns.stored ∘ scope3Body rt) db.scope3
      (afterImport rt db tenantId ingestedBy wb).scope3 p.df3
  again : let db' := afterImport rt db tenantId ingestedBy wb
    let db'' := afterImport rt db' tenantId ingestedBy wb
    db''.scope1 = db'.scope1 ∧ db''.scope2 = db'.scope2 ∧ db''.scope3 = db'.scope3
  loaded : let db' := afterImport rt db tenantId ingestedBy wb
    let db'' := afterImport rt db' tenantId ingestedBy wb
    ∀ base anno, loadRawRows (db''.into base) tenantId anno =
      loadRawRows (db'.into base) tenantId anno

variable {rt}

theorem runEtlPipeline_eq {wb : Workbook} {p : Prepared rt}
    (hp : prepare rt wb.scope1 wb.scope2 wb.scope3 = .ok p) (ctx : ImportContext) :
    runEtlPipeline rt ctx wb = .ok (finish rt ctx dqReportVersion p) := by
  unfold runEtlPipeline runIngestionPipeline
  rw [hp]
  rfl

theorem passesPipeline_iff {wb : Workbook} : PassesPipeline rt wb ↔
    ∃ p, prepare rt wb.scope1 wb.scope2 wb.scope3 = .ok p ∧ gateFindings (critChecks p) = [] := by
  constructor
  · rintro ⟨ctx, result, hrun, hopen⟩
    cases hp : prepare rt wb.scope1 wb.scope2 wb.scope3 with
    | error e =>
        unfold runEtlPipeline runIngestionPipeline at hrun
        rw [hp] at hrun
        cases hrun
    | ok p =>
        rw [runEtlPipeline_eq hp] at hrun
        cases hrun
        refine ⟨p, rfl, ?_⟩
        by_contra hsome
        rw [(blocked_finish p).mpr hsome] at hopen
        cases hopen
  · rintro ⟨p, hp, hclean⟩
    refine ⟨⟨1, 1, "", id⟩, _, runEtlPipeline_eq hp _, ?_⟩
    rw [Bool.eq_false_iff]
    exact fun hblocked => (blocked_finish p).mp hblocked hclean

/-- What a workbook that passes must meet for the transaction to commit; the batch plays no part. -/
structure Storable (p : Prepared rt) : Prop where
  scope1 : ∀ r ∈ p.df1, scope1Columns.fits (scope1Body rt r) = true
  scope2 : ∀ r ∈ p.df2, scope2Columns.fits (scope2Body rt r) = true
  scope3 : ∀ r ∈ p.df3, scope3Columns.fits (scope3Body rt r) = true
  findings : ∀ f ∈ tagFindings (stageFindings p) dqReportVersion, findingFits rt f = true

theorem forall_body {ρ β : Type} {body : ρ → β} {rs : List (Staged β)} {df : List ρ}
    (hbody : rs.map Staged.body = df.map body) (q : β → Prop) :
    (∀ r ∈ rs, q r.body) ↔ ∀ r ∈ df, q (body r) := by
  constructor
  · intro h r hr
    have hmem : body r ∈ rs.map Staged.body := by
      rw [hbody]
      exact List.mem_map_of_mem hr
    obtain ⟨s, hs, hsr⟩ := List.mem_map.mp hmem
    rw [← hsr]
    exact h s hs
  · intro h s hs
    have hmem : s.body ∈ df.map body := by
      rw [← hbody]
      exact List.mem_map_of_mem hs
    obtain ⟨r, hr, hrs⟩ := List.mem_map.mp hmem
    rw [← hrs]
    exact h r hr

theorem insertFindings_eq_ok {ctx : ImportContext} {new : List (Finding F)}
    {findings findings' : List (Uuid × Uuid × Finding F)} :
    insertFindings rt ctx findings new = .ok findings' ↔
      (∀ f ∈ new, findingFits rt f = true) ∧
        findings' = findings ++ new.map (storeFinding ctx) := by
  unfold insertFindings
  split
  · next hall =>
      rw [Except.ok.injEq]
      exact ⟨fun h => ⟨List.all_eq_true.mp hall, h.symm⟩, fun h => h.2.symm⟩
  · next hsome =>
      constructor
      · intro h
        cases h
      · rintro ⟨hall, -⟩
        exact absurd (List.all_eq_true.mpr hall) hsome

theorem doDbWork_eq_ok {db db' : RawDb F} {ctx : ImportContext} {result : ETLResult F} :
    doDbWork rt db ctx result = .ok db' ↔
      ((∀ r ∈ result.scope1Rows, scope1Columns.fits r.body = true) ∧
        (∀ r ∈ result.scope2Rows, scope2Columns.fits r.body = true) ∧
        (∀ r ∈ result.scope3Rows, scope3Columns.fits r.body = true) ∧
        ∀ f ∈ result.allFindings, findingFits rt f = true) ∧ db' =
      { batches := db.batches ++ [ctx.batchId]
        scope1 := insertAllNew conflictKey db.scope1
          (result.scope1Rows.map (storeRow scope1Columns))
        scope2 := insertAllNew conflictKey db.scope2
          (result.scope2Rows.map (storeRow scope2Columns))
        scope3 := insertAllNew conflictKey db.scope3
          (result.scope3Rows.map (storeRow scope3Columns))
        findings := db.findings ++ result.allFindings.map (storeFinding ctx) } := by
  unfold doDbWork
  constructor
  · intro h
    obtain ⟨s1, h1, h⟩ := bind_eq_ok.mp h
    obtain ⟨s2, h2, h⟩ := bind_eq_ok.mp h
    obtain ⟨s3, h3, h⟩ := bind_eq_ok.mp h
    obtain ⟨fs, hfs, h⟩ := bind_eq_ok.mp h
    cases h
    obtain ⟨hfits1, rfl⟩ := bulkInsert_eq_ok.mp h1
    obtain ⟨hfits2, rfl⟩ := bulkInsert_eq_ok.mp h2
    obtain ⟨hfits3, rfl⟩ := bulkInsert_eq_ok.mp h3
    obtain ⟨hall, rfl⟩ := insertFindings_eq_ok.mp hfs
    exact ⟨⟨hfits1, hfits2, hfits3, hall⟩, rfl⟩
  · rintro ⟨⟨hfits1, hfits2, hfits3, hall⟩, rfl⟩
    refine bind_eq_ok.mpr ⟨_, bulkInsert_eq_ok.mpr ⟨hfits1, rfl⟩, ?_⟩
    refine bind_eq_ok.mpr ⟨_, bulkInsert_eq_ok.mpr ⟨hfits2, rfl⟩, ?_⟩
    refine bind_eq_ok.mpr ⟨_, bulkInsert_eq_ok.mpr ⟨hfits3, rfl⟩, ?_⟩
    exact bind_eq_ok.mpr ⟨_, insertFindings_eq_ok.mpr ⟨hall, rfl⟩, rfl⟩

/-- The import of a workbook that passes: it commits exactly when everything fits, and then adds
the staged rows whose keys are new. -/
theorem importExcel_eq_ok {db db' : RawDb F} {tenantId : Uuid} {ingestedBy : String}
    {wb : Workbook} {p : Prepared rt} (hp : prepare rt wb.scope1 wb.scope2 wb.scope3 = .ok p)
    (hclean : gateFindings (critChecks p) = []) :
    let ctx := importContext db tenantId ingestedBy
    importExcel rt db tenantId ingestedBy wb = .ok db' ↔ Storable p ∧ db' =
      { batches := db.batches ++ [ctx.batchId]
        scope1 := insertAllNew conflictKey db.scope1
          ((buildScope1Rows rt ctx p.df1).map (storeRow scope1Columns))
        scope2 := insertAllNew conflictKey db.scope2
          ((buildScope2Rows rt ctx p.df2).map (storeRow scope2Columns))
        scope3 := insertAllNew conflictKey db.scope3
          ((buildScope3Rows rt ctx p.df3).map (storeRow scope3Columns))
        findings := db.findings ++
          (tagFindings (stageFindings p) dqReportVersion).map (storeFinding ctx) } := by
  intro ctx
  obtain ⟨e1, e2, e3⟩ := finish_of_clean ctx dqReportVersion hclean
  have hopen : (finish rt ctx dqReportVersion p).pipelineBlocked = false := by
    rw [Bool.eq_false_iff]
    exact fun hblocked => (blocked_finish p).mp hblocked hclean
  have hrun : importExcel rt db tenantId ingestedBy wb =
      doDbWork rt db ctx (finish rt ctx dqReportVersion p) := by
    unfold importExcel
    dsimp only
    rw [runEtlPipeline_eq hp]
    change (if (finish rt ctx dqReportVersion p).pipelineBlocked = true then _ else _) = _
    rw [hopen]
    rfl
  have hbody1 := forall_body (map_body_buildRows ctx (scope1Body rt) (scope1Key rt) p.df1)
    fun b => scope1Columns.fits b = true
  have hbody2 := forall_body (map_body_buildRows ctx (scope2Body rt) (scope2Key rt) p.df2)
    fun b => scope2Columns.fits b = true
  have hbody3 := forall_body (map_body_buildRows ctx (scope3Body rt) (scope3Key rt) p.df3)
    fun b => scope3Columns.fits b = true
  rw [hrun, doDbWork_eq_ok, e1, e2, e3, allFindings_finish]
  refine and_congr_left fun _ => ⟨fun h => ?_, fun h => ?_⟩
  · exact ⟨hbody1.mp h.1, hbody2.mp h.2.1, hbody3.mp h.2.2.1, h.2.2.2⟩
  · exact ⟨hbody1.mpr h.scope1, hbody2.mpr h.scope2, hbody3.mpr h.scope3, h.findings⟩

/-- No stored row bears the batch of a new upload. -/
theorem freshUuid_ne (db : RawDb F) :
    (∀ r ∈ db.scope1, r.batchId ≠ db.freshUuid) ∧ (∀ r ∈ db.scope2, r.batchId ≠ db.freshUuid) ∧
      ∀ r ∈ db.scope3, r.batchId ≠ db.freshUuid := by
  have hlt : ∀ i ∈ db.uuids, i ≠ db.freshUuid := by
    intro i hi
    have hlt : i < db.freshUuid := lt_foldr_max (fun i => i) hi
    exact Nat.ne_of_lt hlt
  unfold RawDb.uuids at hlt
  simp only [List.mem_append, List.mem_flatMap] at hlt
  refine ⟨?_, ?_, ?_⟩
  · exact fun r hr => hlt _ (.inl (.inl (.inr ⟨r, hr, by simp⟩)))
  · exact fun r hr => hlt _ (.inl (.inr ⟨r, hr, by simp⟩))
  · exact fun r hr => hlt _ (.inr ⟨r, hr, by simp⟩)

theorem df1_ne_nil {wb : Workbook} {p : Prepared rt}
    (hp : prepare rt wb.scope1 wb.scope2 wb.scope3 = .ok p) : p.df1 ≠ [] := by
  obtain ⟨-, -, h1, -, -, -⟩ := prepare_eq_ok hp
  have hlen := length_validate h1
  intro hnil
  rw [hnil] at hlen
  unfold synthesiseVianoGargolaGasNat2024 synthesise at hlen
  split at hlen
  · next hmask =>
      obtain ⟨r, hr, -⟩ := hmask
      have hnone : wb.scope1 = [] := List.eq_nil_of_length_eq_zero hlen.symm
      rw [hnone] at hr
      cases hr
  · rw [List.length_append, List.length_singleton, List.length_nil] at hlen
    omega

/-- An upload that commits adds a row of Scope 1 whatever the tables hold: its batch is new. -/
theorem upload_grows {db db' : RawDb F} {tenantId : Uuid} {ingestedBy : String} {wb : Workbook}
    {p : Prepared rt} (hp : prepare rt wb.scope1 wb.scope2 wb.scope3 = .ok p)
    (hclean : gateFindings (critChecks p) = [])
    (h : importExcel rt db tenantId ingestedBy wb = .ok db') : db'.scope1 ≠ db.scope1 := by
  obtain ⟨-, rfl⟩ := (importExcel_eq_ok hp hclean).mp h
  intro hsame
  obtain ⟨r, df, hdf⟩ := List.exists_cons_of_ne_nil (df1_ne_nil hp)
  have hknown := insertAllNew_eq_self_iff.mp hsame
  have hmem : ∃ s ∈ (buildScope1Rows rt (importContext db tenantId ingestedBy) p.df1).map
      (storeRow scope1Columns), s.batchId = db.freshUuid := by
    rw [hdf]
    exact ⟨_, List.mem_cons_self, rfl⟩
  obtain ⟨s, hs, hbatch⟩ := hmem
  obtain ⟨r', hr', hkey⟩ := List.mem_map.mp (hknown s hs)
  apply (freshUuid_ne db).1 r' hr'
  rw [← hbatch]
  exact congrArg (fun k => k.2.1) hkey

theorem afterImport_of_ok {db db' : RawDb F} {tenantId : Uuid} {ingestedBy : String}
    {wb : Workbook} (h : importExcel rt db tenantId ingestedBy wb = .ok db') :
    afterImport rt db tenantId ingestedBy wb = db' := by
  rw [afterImport, h]

theorem afterImport_of_error {db : RawDb F} {tenantId : Uuid} {ingestedBy : String}
    {wb : Workbook} {e : ImportError}
    (h : importExcel rt db tenantId ingestedBy wb = .error e) :
    afterImport rt db tenantId ingestedBy wb = db := by
  rw [afterImport, h]

/-- Within one upload, whose batch no stored row bears, each row is stored exactly when the keys
are distinct: two rows with one key are one row to the table, whatever else they differ in. -/
theorem gainsEach_iff {ρ β : Type} {body : ρ → β} {key : ρ → String} {cols : RawColumns β}
    {ctx : ImportContext} {rows : List (Staged β)} {df : List ρ}
    (hfresh : ∀ r ∈ rows, r.batchId ≠ ctx.batchId) :
    GainsEach (cols.stored ∘ body) rows (insertAllNew conflictKey rows
        ((buildRows body key ctx df).map (storeRow cols))) df ↔ (df.map key).Nodup := by
  have hbodies : ((buildRows body key ctx df).map (storeRow cols)).map Staged.body =
      df.map (cols.stored ∘ body) := by
    rw [List.map_map, ← List.map_map (f := body), ← map_body_buildRows ctx body key df,
      List.map_map]
    rfl
  have hkeys : ((buildRows body key ctx df).map (storeRow cols)).map conflictKey =
      (df.map key).map fun k => (ctx.tenantId, ctx.batchId, k) := by
    rw [List.map_map, buildRows, List.map_map, List.map_map]
    conv_rhs => rw [← List.zipIdx_map_fst 0 df, List.map_map]
    rfl
  have hnew : ∀ r ∈ (buildRows body key ctx df).map (storeRow cols),
      conflictKey r ∉ rows.map conflictKey := by
    intro r hr hknown
    have hmem : conflictKey r ∈ (df.map key).map fun k => (ctx.tenantId, ctx.batchId, k) := by
      rw [← hkeys]
      exact List.mem_map_of_mem hr
    obtain ⟨k, -, hk⟩ := List.mem_map.mp hmem
    obtain ⟨s, hs, hsr⟩ := List.mem_map.mp hknown
    apply hfresh s hs
    rw [← hk] at hsr
    exact congrArg (fun k => k.2.1) hsr
  have hinj : Function.Injective fun k : String => (ctx.tenantId, ctx.batchId, k) := by
    intro a b hab
    exact congrArg (fun k => k.2.2) hab
  have hall : insertAllNew conflictKey rows ((buildRows body key ctx df).map (storeRow cols)) =
      rows ++ (buildRows body key ctx df).map (storeRow cols) ↔ _ :=
    insertAllNew_eq_append_iff
  rw [hkeys, List.nodup_map_iff hinj] at hall
  constructor
  · rintro ⟨added, hadded, hlen⟩
    obtain ⟨added', hadded', hsub⟩ := insertAllNew_appends conflictKey rows
      ((buildRows body key ctx df).map (storeRow cols))
    rw [hadded'] at hadded
    have heq := List.append_cancel_left hadded
    have hlength := congrArg List.length (hlen.trans hbodies.symm)
    rw [List.length_map, List.length_map, ← heq] at hlength
    rw [hsub.eq_of_length hlength] at hadded'
    exact (hall.mp hadded').1
  · intro hnodup
    exact ⟨_, hall.mpr ⟨hnodup, hnew⟩, hbodies⟩

/-- An upload that commits stores each row of its three frames exactly when the keys of each frame
are distinct. -/
theorem upload_stores_each_iff {db db' : RawDb F} {tenantId : Uuid} {ingestedBy : String}
    {wb : Workbook} {p : Prepared rt} (hp : prepare rt wb.scope1 wb.scope2 wb.scope3 = .ok p)
    (hclean : gateFindings (critChecks p) = [])
    (h : importExcel rt db tenantId ingestedBy wb = .ok db') :
    (GainsEach (scope1Columns.stored ∘ scope1Body rt) db.scope1 db'.scope1 p.df1 ↔
        (p.df1.map (scope1Key rt)).Nodup) ∧
      (GainsEach (scope2Columns.stored ∘ scope2Body rt) db.scope2 db'.scope2 p.df2 ↔
        (p.df2.map (scope2Key rt)).Nodup) ∧
      (GainsEach (scope3Columns.stored ∘ scope3Body rt) db.scope3 db'.scope3 p.df3 ↔
        (p.df3.map (scope3Key rt)).Nodup) := by
  obtain ⟨-, rfl⟩ := (importExcel_eq_ok hp hclean).mp h
  obtain ⟨hfresh1, hfresh2, hfresh3⟩ := freshUuid_ne db
  exact ⟨gainsEach_iff hfresh1, gainsEach_iff hfresh2, gainsEach_iff hfresh3⟩

/-- An upload of storable rows with distinct keys adds every row of Scope 1, whatever the tables
hold. -/
theorem length_afterImport {wb : Workbook} {p : Prepared rt}
    (hp : prepare rt wb.scope1 wb.scope2 wb.scope3 = .ok p)
    (hclean : gateFindings (critChecks p) = []) (hfits : Storable p)
    (hnodup : (p.df1.map (scope1Key rt)).Nodup) (db : RawDb F) (tenantId : Uuid)
    (ingestedBy : String) : (afterImport rt db tenantId ingestedBy wb).scope1.length =
      db.scope1.length + p.df1.length := by
  obtain ⟨db', himport⟩ : ∃ db', importExcel rt db tenantId ingestedBy wb = .ok db' :=
    ⟨_, (importExcel_eq_ok hp hclean).mpr ⟨hfits, rfl⟩⟩
  obtain ⟨added, hadded, hbodies⟩ := (upload_stores_each_iff hp hclean himport).1.mpr hnodup
  have hlength := congrArg List.length hbodies
  rw [List.length_map, List.length_map] at hlength
  rw [afterImport_of_ok himport, hadded, List.length_append, hlength]

end Import

/-- No workbook that passes is stored once: a second upload of it, under its own batch, is stored
again and read again by the calculation. -/
theorem never_stores_once {F : Type} (rt : Runtime F) (db : RawDb F) (tenantId : Uuid)
    (ingestedBy : String) (wb : Workbook) (hpass : PassesPipeline rt wb) :
    ¬ StoresOnce rt db tenantId ingestedBy wb := by
  intro honce
  obtain ⟨p, hp, hclean⟩ := passesPipeline_iff.mp hpass
  cases himport : importExcel rt db tenantId ingestedBy wb with
  | error e =>
      -- the upload failed, so the first table has not gained the rows it should have
      obtain ⟨added, hadded, hbodies⟩ := honce.scope1 p hp
      rw [afterImport_of_error himport] at hadded
      rw [List.self_eq_append_right.mp hadded, List.map_nil] at hbodies
      exact df1_ne_nil hp (List.map_eq_nil_iff.mp hbodies.symm)
  | ok db' =>
      obtain ⟨hfits, -⟩ := (importExcel_eq_ok hp hclean).mp himport
      obtain ⟨db'', hagain⟩ : ∃ db'', importExcel rt db' tenantId ingestedBy wb = .ok db'' :=
        ⟨_, (importExcel_eq_ok hp hclean).mpr ⟨hfits, rfl⟩⟩
      have hsame := honce.again.1
      rw [afterImport_of_ok himport, afterImport_of_ok hagain] at hsame
      exact upload_grows hp hclean hagain hsame

def emptyRawDb : RawDb ℚ := ⟨[], [], [], [], []⟩

/-- Gas at every site in 2024. -/
def workbook2024 : Workbook :=
  ⟨rawGasEverywhere "2024", [], []⟩

theorem prepared_workbook2024 : ∃ p : Prepared plainRuntime,
    prepare plainRuntime workbook2024.scope1 workbook2024.scope2 workbook2024.scope3 = .ok p ∧
      gateFindings (critChecks p) = [] ∧ Storable p ∧ (p.df1.map (scope1Key plainRuntime)).Nodup ∧
      p.df1.length = 7 := by
  have hrun : (prepare plainRuntime workbook2024.scope1 workbook2024.scope2
      workbook2024.scope3).map (fun p =>
        decide ((gateFindings (critChecks p)).length = 0 ∧
          ((∀ r ∈ p.df1, scope1Columns.fits (scope1Body plainRuntime r) = true) ∧
            (∀ r ∈ p.df2, scope2Columns.fits (scope2Body plainRuntime r) = true) ∧
            (∀ r ∈ p.df3, scope3Columns.fits (scope3Body plainRuntime r) = true) ∧
            ∀ f ∈ tagFindings (stageFindings p) dqReportVersion,
              findingFits plainRuntime f = true) ∧
          (p.df1.map (scope1Key plainRuntime)).Nodup ∧ p.df1.length = 7)) = .ok true := by
    decide +kernel
  obtain ⟨p, hp, hall⟩ := map_eq_ok.mp hrun
  obtain ⟨hclean, ⟨h1, h2, h3, hfindings⟩, hnodup, hlength⟩ := of_decide_eq_true hall
  exact ⟨p, hp, List.eq_nil_of_length_eq_zero hclean, ⟨h1, h2, h3, hfindings⟩, hnodup, hlength⟩

theorem passes_workbook2024 : PassesPipeline plainRuntime workbook2024 := by
  obtain ⟨p, hp, hclean, -⟩ := prepared_workbook2024
  exact passesPipeline_iff.mpr ⟨p, hp, hclean⟩

theorem never_stores_once_2024 :
    PassesPipeline plainRuntime workbook2024 ∧
      ¬ StoresOnce plainRuntime emptyRawDb 1 "import" workbook2024 :=
  ⟨passes_workbook2024, never_stores_once plainRuntime emptyRawDb 1 "import" workbook2024
    passes_workbook2024⟩

/-- The seven rows of the first upload become fourteen with the second. -/
theorem second_upload_stored_again :
    PassesPipeline plainRuntime workbook2024 ∧
      (afterImport plainRuntime emptyRawDb 1 "import" workbook2024).scope1.length = 7 ∧
      (afterImport plainRuntime (afterImport plainRuntime emptyRawDb 1 "import" workbook2024) 1
        "import" workbook2024).scope1.length = 14 ∧
      ¬ StoresOnce plainRuntime emptyRawDb 1 "import" workbook2024 := by
  obtain ⟨p, hp, hclean, hfits, hnodup, hseven⟩ := prepared_workbook2024
  have hadds := length_afterImport hp hclean hfits hnodup
  have hfirst : (afterImport plainRuntime emptyRawDb 1 "import" workbook2024).scope1.length =
      7 := by
    rw [hadds, hseven]
    rfl
  have hsecond : (afterImport plainRuntime (afterImport plainRuntime emptyRawDb 1 "import"
      workbook2024) 1 "import" workbook2024).scope1.length = 14 := by
    rw [hadds, hfirst, hseven]
  refine ⟨passes_workbook2024, hfirst, hsecond, fun honce => ?_⟩
  have hsame := congrArg List.length honce.again.1
  rw [hfirst, hsecond] at hsame
  omega

end GhgTool
