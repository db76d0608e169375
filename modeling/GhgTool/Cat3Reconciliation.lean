import GhgTool.CalcOrchestrator
import GhgTool.GroupedSums
import GhgTool.StagingWriter
import GhgTool.SynthRows

/-!
# The reconciliation of category 3

The pipeline logs, for each WTT row of the Scope 3 frame, the sum of the Scope 1 quantities of its
fuel and year. The calculation multiplies the sum that `_sigma_scope1_from_rows` takes over the
staged rows, which leaves the process rows out.
-/

namespace GhgTool

section Reconcile

variable {F : Type} (rt : Runtime F)

def cat3FuelMap : List (String × String) :=
  [("WTT Gas Naturale", "GAS_NAT"), ("WTT Gasolio", "GASOLIO"), ("WTT Benzina", "BENZINA")]

/-- The WTT rows in the order in which they are logged, each with its entry of the map. -/
def wttRows (df3 : List (Scope3Row rt)) : List ((String × String) × Scope3Row rt) :=
  cat3FuelMap.flatMap fun entry =>
    (df3.filter fun r => lower (strip r.sottocategoria.1) = lower entry.1).map (entry, ·)

/-- The sum over the rows of a fuel and a year. -/
def sigmaS1 (df1 : List (Scope1Row rt)) (combustibile : String) (anno : Anno) : F :=
  rt.sum ((df1.filter fun r => r.combustibile.1 = combustibile ∧ r.anno = anno).map
    fun r => r.quantita.1)

def reconcilFinding (subCat combustibile : String) (anno : Anno) (cat3Val sigma delta : F) :
    Finding F where
  ruleId := .fr11Cat3Reconcil
  severity := .info
  scope := .three
  anno := some anno.1
  codiceSito := none
  metric := some ("cat3_delta_" ++ combustibile ++ "_" ++ toString anno.1)
  valueObserved := some (.float cat3Val)
  valueReference := some (.float sigma)
  triggerDesc := "FR-11 Cat 3 reconciliation: Sottocategoria=" ++ rt.repr subCat ++ ", " ++
    "Anno=" ++ toString anno.1 ++ ", Cat3_CSV_Quantità=" ++ rt.str cat3Val ++ ", " ++
    "Σ_Scope1_" ++ combustibile ++ "=" ++ rt.str sigma ++ ", delta=" ++ rt.signed 3 delta ++
    ". " ++ "WTT calculation MUST use Σ Scope 1 (source of truth)."

def deltaFinding (combustibile : String) (anno : Anno) (delta : F) : Finding F where
  ruleId := .dqWarnCat3Delta
  severity := .warn
  scope := .three
  anno := some anno.1
  codiceSito := none
  metric := some ("cat3_nonzero_delta_" ++ combustibile ++ "_" ++ toString anno.1)
  valueObserved := some (.float delta)
  valueReference := some (.float (rt.lit 0))
  triggerDesc := "Non-zero Cat 3 delta for " ++ combustibile ++ " / " ++ toString anno.1 ++ ": " ++
    "delta=" ++ rt.signed 3 delta ++ ". Investigate: stock variation vs. " ++
    "out-of-scope volumes? (see methodology_validation §7.3)."

def reconcileRow (df1 : List (Scope1Row rt)) (w : (String × String) × Scope3Row rt) :
    List (Finding F) :=
  let anno := w.2.anno
  let cat3Val := w.2.quantita.1
  let sigma := sigmaS1 rt df1 w.1.2 anno
  let delta := rt.sub cat3Val sigma
  reconcilFinding rt w.1.1 w.1.2 anno cat3Val sigma delta ::
    if rt.lt (rt.lit (1 / 1000)) (rt.abs delta) then [deltaFinding rt w.1.2 anno delta] else []

def computeCat3Reconciliation (df1 : List (Scope1Row rt)) (df3 : List (Scope3Row rt)) :
    List (Finding F) :=
  (wttRows rt df3).flatMap (reconcileRow rt df1)

/-- The values the audit trail shows as the sums of Scope 1, one for each WTT row. -/
def loggedReferences (df1 : List (Scope1Row rt)) (df3 : List (Scope3Row rt)) :
    List (Option (FindingValue F)) :=
  ((computeCat3Reconciliation rt df1 df3).filter fun f => f.ruleId = .fr11Cat3Reconcil).map
    Finding.valueReference

theorem loggedReferences_eq (df1 : List (Scope1Row rt)) (df3 : List (Scope3Row rt)) :
    loggedReferences rt df1 df3 =
      (wttRows rt df3).map fun w => some (.float (sigmaS1 rt df1 w.1.2 w.2.anno)) := by
  unfold loggedReferences computeCat3Reconciliation
  induction wttRows rt df3 with
  | nil => rfl
  | cons w ws ih =>
      rw [List.flatMap_cons, List.filter_append, List.map_append, ih, List.map_cons]
      have hrow : (reconcileRow rt df1 w).filter (fun f => f.ruleId = .fr11Cat3Reconcil) =
          [reconcilFinding rt w.1.1 w.1.2 w.2.anno w.2.quantita.1 (sigmaS1 rt df1 w.1.2 w.2.anno)
            (rt.sub w.2.quantita.1 (sigmaS1 rt df1 w.1.2 w.2.anno))] := by
        unfold reconcileRow
        dsimp only
        split
        · rfl
        · rfl
      rw [hrow, List.map_singleton, List.singleton_append]
      rfl

end Reconcile

/-! ## The sum that is used -/

/-- A staged row as the calculation reads it. -/
def loadScope1 (s : Staged Scope1Body) : Option RawScope1Row :=
  match h : s.body.quantita.1 with
  | none => none
  | some q => some
      { id := s.id
        tenantId := s.tenantId
        anno := s.body.anno.1
        codiceSito := s.body.codiceSito
        categoriaS1 := s.body.categoriaS1
        combustibile := s.body.combustibile
        quantita := q
        anno_range := s.body.anno.2
        quantita_nonneg := s.body.quantita.2 q h }

/-- Quantities as exact rationals. -/
structure Runtime.Exact (rt : Runtime ℚ) : Prop where
  sum : ∀ xs, rt.sum xs = xs.sum
  toDecimal : ∀ x, rt.toDecimal x = some x

section Used

variable (rt : Runtime ℚ) (ctx : ImportContext) (df1 : List (Scope1Row rt))

/-- What the calculation multiplies by the WTT factor of a fuel and a year. -/
def usedSum (combustibile : String) (anno : Anno) : ℚ :=
  ((sigmaScope1FromRows ((buildScope1Rows rt ctx df1).filterMap loadScope1)).lookup
    (combustibile, anno.1)).getD 0

variable {rt ctx df1}

theorem Scope1Row.quantita_nonneg (hexact : rt.Exact) (r : Scope1Row rt) : 0 ≤ r.quantita.1 :=
  rt.toDecimal_nonneg r.quantita.2 (hexact.toDecimal _)

theorem map_loaded {γ : Type} (hexact : rt.Exact) (f : String → String → ℕ → ℚ → γ) :
    ((buildScope1Rows rt ctx df1).filterMap loadScope1).map
        (fun r => f r.categoriaS1 r.combustibile r.anno r.quantita) =
      df1.map fun r => f r.categoriaS1.1 r.combustibile.1 r.anno.1 r.quantita.1 := by
  unfold buildScope1Rows buildRows
  rw [List.filterMap_map, List.map_filterMap]
  have hrow : ∀ row ∈ df1.zipIdx, ((loadScope1 ∘ fun row : Scope1Row rt × ℕ =>
      { id := ctx.rowId row.2, tenantId := ctx.tenantId, batchId := ctx.batchId,
        body := scope1Body rt row.1, idempotencyKey := scope1Key rt row.1,
        ingestedBy := ctx.ingestedBy : Staged Scope1Body }) row).map
        (fun r => f r.categoriaS1 r.combustibile r.anno r.quantita) =
      some (f row.1.categoriaS1.1 row.1.combustibile.1 row.1.anno.1 row.1.quantita.1) := by
    intro row _
    have hq : (stagedQuantity rt row.1.quantita).1 = some row.1.quantita.1 := hexact.toDecimal _
    simp only [Function.comp_apply, loadScope1, scope1Body]
    split
    · next h =>
        rw [hq] at h
        cases h
    · next q h =>
        rw [hq] at h
        cases h
        rfl
  rw [List.filterMap_congr hrow, List.filterMap_eq_map']
  conv_rhs => rw [← List.zipIdx_map_fst 0 df1, List.map_map]
  rfl

/-- What a row adds to the sum of a fuel and a year. -/
def fuelShare (combustibile : String) (anno : ℕ) (categoriaS1 fuel : String) (year : ℕ) (q : ℚ) :
    ℚ :=
  if (fuel = combustibile ∧ year = anno) ∧ categoriaS1 ≠ "Processo_Decarb" then q else 0

theorem usedSum_eq (hexact : rt.Exact) (combustibile : String) (anno : Anno) :
    usedSum rt ctx df1 combustibile anno =
      ((df1.filter fun r => (r.combustibile.1 = combustibile ∧ r.anno = anno) ∧
        r.categoriaS1.1 ≠ "Processo_Decarb").map fun r => r.quantita.1).sum := by
  have hkey : ∀ r : RawScope1Row, (if fuelKey r = some (combustibile, anno.1) then r.quantita
      else 0) = fuelShare combustibile anno.1 r.categoriaS1 r.combustibile r.anno r.quantita := by
    intro r
    by_cases hcat : r.categoriaS1 = "Processo_Decarb"
    · simp [fuelKey, fuelShare, hcat]
    · simp [fuelKey, fuelShare, hcat, Prod.ext_iff]
  rw [usedSum, sigmaScope1FromRows, lookup_tally, List.map_congr_left fun r _ => hkey r,
    map_loaded hexact (fuelShare combustibile anno.1), sum_map_filter]
  congr 1
  refine List.map_congr_left fun r _ => ?_
  simp only [fuelShare, Subtype.ext_iff]

end Used

/-- The audit trail shows the sums that are used exactly when the process rows of the logged fuels
and years are empty. -/
theorem audited_sum_iff (rt : Runtime ℚ) (hexact : rt.Exact) (ctx : ImportContext)
    (df1 : List (Scope1Row rt)) (df3 : List (Scope3Row rt)) :
    loggedReferences rt df1 df3 =
        (wttRows rt df3).map (fun w => some (.float (usedSum rt ctx df1 w.1.2 w.2.anno))) ↔
      ∀ w ∈ wttRows rt df3, ∀ r ∈ df1, r.combustibile.1 = w.1.2 → r.anno = w.2.anno →
        r.categoriaS1.1 = "Processo_Decarb" → r.quantita.1 = 0 := by
  rw [loggedReferences_eq, List.map_inj_left]
  refine forall₂_congr fun w _ => ?_
  have hsplit := sum_filter_add
    (fun r : Scope1Row rt => r.combustibile.1 = w.1.2 ∧ r.anno = w.2.anno)
    (fun r => r.categoriaS1.1 ≠ "Processo_Decarb") (fun r => r.quantita.1) df1
  have hnonneg : ∀ r ∈ df1, 0 ≤ r.quantita.1 := fun r _ => r.quantita_nonneg hexact
  have hprocess := sum_filter_eq_zero hnonneg fun r =>
    (r.combustibile.1 = w.1.2 ∧ r.anno = w.2.anno) ∧ ¬ r.categoriaS1.1 ≠ "Processo_Decarb"
  rw [Option.some.injEq, FindingValue.float.injEq, sigmaS1, hexact.sum, usedSum_eq hexact, hsplit,
    add_eq_left, hprocess]
  refine forall₂_congr fun r _ => ?_
  rw [not_not]
  tauto

/-- The WTT row of natural gas for 2024. -/
def gasWttRow : Scope3Row plainRuntime where
  anno := ⟨2024, anno_2024⟩
  categoriaS3 := ⟨3, by decide⟩
  sottocategoria := ⟨"WTT Gas Naturale", by decide⟩
  metodo := ⟨"activity-based", by decide⟩
  combustibile := none
  quantita := ⟨100, by decide +kernel⟩
  unita := ⟨"Sm3", sm3_filled⟩
  fonteDato := some "Bolletta"
  qualitaDato := some "P"
  statoDato := some "Definitivo"
  note := none
  codiceSito := none
  metadataDefaulted := false
  defaultingRuleId := none

/-- Gas burnt at one site, and a second row of the same site and year. -/
def gasFrame (categoriaS1 combustibile : FilledText) (quantita : ℕ) :
    List (Scope1Row plainRuntime) :=
  [plainScope1Row ⟨2024, anno_2024⟩ .iano ⟨"Combustione stazionaria", combustioneStazionaria_filled⟩
      ⟨"GAS_NAT", gasNat_filled⟩ 100,
    plainScope1Row ⟨2024, anno_2024⟩ .iano categoriaS1 combustibile quantita]

theorem audited_sum_iff_calcare :
    let df1 := gasFrame ⟨"Processo_Decarb", by decide⟩ ⟨"CALCARE", by decide⟩ 5
    loggedReferences plainRuntime df1 [gasWttRow] = (wttRows plainRuntime [gasWttRow]).map
      fun w => some (.float (usedSum plainRuntime ⟨1, 1, "import", id⟩ df1 w.1.2 w.2.anno)) :=
  (audited_sum_iff plainRuntime ⟨fun _ => rfl, fun _ => rfl⟩ ⟨1, 1, "import", id⟩ _ _).mpr
    (by decide +kernel)

/-- A process row under natural gas is in the logged sum and not in the one that is used. -/
theorem process_row_audited :
    let df1 := gasFrame ⟨"Processo_Decarb", by decide⟩ ⟨"GAS_NAT", by decide⟩ 5
    loggedReferences plainRuntime df1 [gasWttRow] ≠ (wttRows plainRuntime [gasWttRow]).map
      fun w => some (.float (usedSum plainRuntime ⟨1, 1, "import", id⟩ df1 w.1.2 w.2.anno)) := by
  decide +kernel

end GhgTool
