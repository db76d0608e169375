import Mathlib.Data.List.Sort
import GhgTool.SynthRows

/-!
# The data-quality gates

Each gate is a function of the typed frames that says whether it passes and what it found. A year
of a typed frame has four digits, so that years compare and sort as numbers the way their texts do.
-/

namespace GhgTool

/-- What the gates read of a row of any scope. -/
structure GateRow (F : Type) where
  anno : Anno
  /-- `str(row.get("Codice_Sito", ""))`. -/
  codiceSito : String
  /-- `Combustibile` or `Voce_S2`. -/
  fuel : String
  quantita : F
  qualitaDato : Cell

/-- What a gate returns. -/
structure GateResult (F : Type) where
  passes : Bool
  findings : List (Finding F)

variable {F : Type} (rt : Runtime F)

/-- `return len(findings) == 0, findings`. -/
def gate (findings : List (Finding F)) : GateResult F :=
  ⟨findings.length == 0, findings⟩

/-- `return True, findings`. -/
def annotate (findings : List (Finding F)) : GateResult F :=
  ⟨true, findings⟩

/-! ## DQ-CRIT-01 -/

section FacilityCoverage

def uniqueYears (df : List (Scope1Row rt)) : List Anno :=
  (df.map Scope1Row.anno).eraseDups

def sitesOf (df : List (Scope1Row rt)) (year : Anno) : List Sito :=
  ((df.filter fun r => r.anno = year).map Scope1Row.codiceSito).eraseDups

def missingSites (df : List (Scope1Row rt)) (year : Anno) : List Sito :=
  Sito.valid.filter fun s => s ∉ sitesOf rt df year

/-- A list of strings as Python prints it. -/
def reprList (texts : List String) : String :=
  "[" ++ ", ".intercalate (texts.map rt.repr) ++ "]"

def coverageFinding (df : List (Scope1Row rt)) (year : Anno) (site : Sito) : Finding F where
  ruleId := .dqCrit01
  severity := .crit
  scope := .one
  anno := some year.1
  codiceSito := some site.code
  metric := some "facility_coverage_s1"
  valueObserved := some (.count (sitesOf rt df year).length)
  valueReference := some (.count 7)
  triggerDesc := "DQ-CRIT-01: Site " ++ site.code ++ " missing from Scope 1 for year " ++
    toString year.1 ++ " (coverage " ++ toString (sitesOf rt df year).length ++
    "/7; full missing set: " ++ reprList rt ((missingSites rt df year).map Sito.code) ++ ")."
  blocksPipeline := true

/-- `check_facility_coverage`, which does not read the Scope 2 frame. -/
def checkFacilityCoverage (df1 : List (Scope1Row rt)) (_df2 : List (Scope2Row rt)) :
    GateResult F :=
  gate ((uniqueYears rt df1).flatMap fun year =>
    (missingSites rt df1 year).map (coverageFinding rt df1 year))

end FacilityCoverage

/-! ## DQ-CRIT-02 and DQ-CRIT-03 -/

section Rows

/-- A mandatory column of a frame and its cells. -/
structure MandatoryColumn (ρ : Type) where
  name : String
  cell : ρ → Cell

def mandatoryFinding {ρ : Type} (view : ρ → GateRow F) (scope : Scope)
    (col : MandatoryColumn ρ) (row : ρ × ℕ) : Finding F where
  ruleId := .dqCrit02
  severity := .crit
  scope := scope
  anno := some (view row.1).anno.1
  codiceSito := some (view row.1).codiceSito
  metric := some ("mandatory_column_" ++ col.name)
  triggerDesc := "DQ-CRIT-02: Mandatory column " ++ rt.repr col.name ++ " is NULL/blank " ++
    "at row index " ++ toString row.2 ++ "."
  blocksPipeline := true

def checkMandatoryColumns {ρ : Type} (view : ρ → GateRow F)
    (columns : List (MandatoryColumn ρ)) (df : List ρ) (scope : Scope) : GateResult F :=
  gate (columns.flatMap fun col =>
    (df.zipIdx.filter fun row => (col.cell row.1).Blank).map (mandatoryFinding rt view scope col))

def negativeFinding (scope : Scope) (row : GateRow F × ℕ) : Finding F where
  ruleId := .dqCrit03
  severity := .crit
  scope := scope
  anno := some row.1.anno.1
  codiceSito := some row.1.codiceSito
  metric := some "negative_quantity"
  valueObserved := some (.float row.1.quantita)
  valueReference := some (.float (rt.lit 0))
  triggerDesc := "DQ-CRIT-03: Negative Quantità=" ++ rt.str row.1.quantita ++ " at row index " ++
    toString row.2 ++ "."
  blocksPipeline := true

def checkNegativeQuantities (df : List (GateRow F)) (scope : Scope) : GateResult F :=
  gate ((df.zipIdx.filter fun row => rt.lt row.1.quantita (rt.lit 0)).map
    (negativeFinding rt scope))

end Rows

/-! ## DQ-CRIT-04 -/

section Outliers

def minOutlierGroupSize : ℕ := 3

def groupKey (r : GateRow F) : String × Anno :=
  (r.fuel, r.anno)

def GroupKeyLe (a b : String × Anno) : Prop :=
  a.1 < b.1 ∨ a.1 = b.1 ∧ a.2.1 ≤ b.2.1

instance : DecidableRel GroupKeyLe :=
  fun a b => inferInstanceAs (Decidable (a.1 < b.1 ∨ a.1 = b.1 ∧ a.2.1 ≤ b.2.1))

def outlierFinding (fuelCol : String) (scope : Scope) (key : String × Anno) (z : F)
    (row : GateRow F) : Finding F where
  ruleId := .dqCrit04
  severity := .crit
  scope := scope
  anno := some key.2.1
  codiceSito := some row.codiceSito
  metric := some ("zscore_" ++ key.1)
  valueObserved := some (.float row.quantita)
  zScore := some z
  triggerDesc := "DQ-CRIT-04: z-score=" ++ rt.fixed 2 z ++ " > 2.0 for " ++ fuelCol ++ "=" ++
    rt.repr key.1 ++ ", site=" ++ rt.repr row.codiceSito ++ ", Anno=" ++ toString key.2.1 ++
    ", Quantità=" ++ rt.str row.quantita ++ "."
  blocksPipeline := true

def groupOutliers (fuelCol : String) (scope : Scope) (df : List (GateRow F))
    (key : String × Anno) : List (Finding F) :=
  let grp := df.filter fun r => groupKey r = key
  let qty := grp.map GateRow.quantita
  let std := rt.std qty
  if rt.isNan std || rt.le std (rt.lit (1 / 10 ^ 12)) || qty.length < minOutlierGroupSize then []
  else
    let zScore := fun r : GateRow F => rt.div (rt.sub r.quantita (rt.mean qty)) std
    (grp.filter fun r => rt.lt (rt.lit 2) (rt.abs (zScore r))).map fun r =>
      outlierFinding rt fuelCol scope key (zScore r) r

def checkOutlierZscore (fuelCol : String) (df : List (GateRow F)) (scope : Scope) :
    GateResult F :=
  gate ((((df.map groupKey).eraseDups).insertionSort GroupKeyLe).flatMap
    (groupOutliers rt fuelCol scope df))

end Outliers

/-! ## DQ-CRIT-05 -/

section TemporalGap

def sortedYears (df : List (Scope1Row rt)) : List Anno :=
  (uniqueYears rt df).insertionSort fun a b => a.1 ≤ b.1

/-- The keys of `groupby("Combustibile")`. -/
def fuelsOf (df : List (Scope1Row rt)) : List String :=
  ((df.map fun r => r.combustibile.1).eraseDups).insertionSort fun a b => a ≤ b

/-- `present_by_year[yr]`. -/
def presentIn (df : List (Scope1Row rt)) (fuel : String) (year : Anno) : List Sito :=
  ((df.filter fun r => r.combustibile.1 = fuel ∧ r.anno = year).map Scope1Row.codiceSito).eraseDups

def baseSites (df : List (Scope1Row rt)) (fuel : String) : List Sito :=
  ((sortedYears rt df).flatMap (presentIn rt df fuel)).eraseDups

def gapFinding (fuel : String) (year : Anno) (site : Sito) : Finding F where
  ruleId := .dqCrit05
  severity := .crit
  scope := .one
  anno := some year.1
  codiceSito := some site.code
  metric := some ("temporal_gap_" ++ fuel)
  triggerDesc := "DQ-CRIT-05: Site " ++ rt.repr site.code ++ " present in other years for " ++
    "Combustibile=" ++ rt.repr fuel ++ " but absent in " ++ toString year.1 ++
    " without explicit zero."
  blocksPipeline := true

def gapsOf (df : List (Scope1Row rt)) (fuel : String) (year : Anno) : List (Finding F) :=
  (rt.setOrder ((baseSites rt df fuel).filter fun s => s ∉ presentIn rt df fuel year)).map
    (gapFinding rt fuel year)

/-- `check_temporal_gap`, which does not read the Scope 2 frame. -/
def checkTemporalGap (df1 : List (Scope1Row rt)) (_df2 : List (Scope2Row rt)) : GateResult F :=
  if (sortedYears rt df1).length < 2 then ⟨true, []⟩
  else gate ((fuelsOf rt df1).flatMap fun fuel =>
    (sortedYears rt df1).flatMap (gapsOf rt df1 fuel))

end TemporalGap

/-! ## The warnings -/

section Warnings

/-- `qty_by_year.get(yr)` after the loop over the rows of VIANO under guarantee of origin. -/
def vianoGoQuantity (df2 : List (Scope2Row rt)) (year : ℕ) : Option F :=
  df2.foldl (fun total r =>
    if r.codiceSito = .viano ∧ r.voceS2 = .eeAcquistataGo ∧ r.anno.1 = year then
      some (rt.add (total.getD (rt.lit 0)) r.quantita.1)
    else total) none

def vianoFinding (q2024 q2025 ratio : F) : Finding F where
  ruleId := .dqWarn01
  severity := .warn
  scope := .two
  codiceSito := some "VIANO"
  anno := some 2025
  metric := some "ee_go_yoy_ratio"
  valueObserved := some (.float q2025)
  valueReference := some (.float q2024)
  ratioYoy := some ratio
  triggerDesc := "DQ-WARN-01: VIANO EE_Acquistata_GO 2025/2024 ratio=" ++ rt.fixed 3 ratio ++
    " < 0.6. " ++ "Fermo parziale confirmed by user 2026-05-13 (OI-2). " ++
    "Dashboard banner required per FR-24."

def checkWarn01VianoElectricity (df2 : List (Scope2Row rt)) : GateResult F :=
  annotate <|
    match vianoGoQuantity rt df2 2024, vianoGoQuantity rt df2 2025 with
    | some q2024, some q2025 =>
      if rt.lt (rt.lit 0) q2024 then
        let ratio := rt.div q2025 q2024
        if rt.lt ratio (rt.lit (6 / 10)) then [vianoFinding rt q2024 q2025 ratio] else []
      else []
    | _, _ => []

def estimatedFinding (scope : Scope) (row : GateRow F × ℕ) : Finding F where
  ruleId := .dqWarn02
  severity := .warn
  scope := scope
  anno := some row.1.anno.1
  codiceSito := some row.1.codiceSito
  metric := some "qualita_dato_estimated"
  triggerDesc := "DQ-WARN-02: Qualità_Dato='E' (Estimated) at row index " ++ toString row.2 ++
    ". Disclose estimation methodology in PDF (DQ-WARN-02)."

def checkWarn02EstimatedQuality (df : List (GateRow F)) (scope : Scope) : GateResult F :=
  annotate ((df.zipIdx.filter fun row => strip row.1.qualitaDato.str = "E").map
    (estimatedFinding scope))

end Warnings

/-! ## What a gate may find -/

section Blocking

/-- A gate that blocks: it passes exactly when it finds nothing, and what it finds is critical. -/
structure Blocking (g : GateResult F) : Prop where
  passes_iff : g.passes = true ↔ g.findings = []
  crit : ∀ f ∈ g.findings, f.severity = .crit

theorem blocking_gate {findings : List (Finding F)} (h : ∀ f ∈ findings, f.severity = .crit) :
    Blocking (gate findings) := by
  refine ⟨?_, h⟩
  rw [gate, beq_iff_eq, List.length_eq_zero_iff]

theorem crit_of_map {γ : Type} {xs : List γ} {finding : γ → Finding F}
    (h : ∀ x, (finding x).severity = .crit) : ∀ f ∈ xs.map finding, f.severity = .crit := by
  intro f hf
  obtain ⟨x, -, rfl⟩ := List.mem_map.mp hf
  exact h x

theorem crit_of_flatMap {γ : Type} {xs : List γ} {findings : γ → List (Finding F)}
    (h : ∀ x, ∀ f ∈ findings x, f.severity = .crit) :
    ∀ f ∈ xs.flatMap findings, f.severity = .crit := by
  intro f hf
  obtain ⟨x, -, hx⟩ := List.mem_flatMap.mp hf
  exact h x f hx

variable {rt}

theorem blocking_facilityCoverage (df1 : List (Scope1Row rt)) (df2 : List (Scope2Row rt)) :
    Blocking (checkFacilityCoverage rt df1 df2) :=
  blocking_gate (crit_of_flatMap fun _ => crit_of_map fun _ => rfl)

theorem blocking_mandatoryColumns {ρ : Type} (view : ρ → GateRow F)
    (columns : List (MandatoryColumn ρ)) (df : List ρ) (scope : Scope) :
    Blocking (checkMandatoryColumns rt view columns df scope) :=
  blocking_gate (crit_of_flatMap fun _ => crit_of_map fun _ => rfl)

theorem blocking_negativeQuantities (df : List (GateRow F)) (scope : Scope) :
    Blocking (checkNegativeQuantities rt df scope) :=
  blocking_gate (crit_of_map fun _ => rfl)

theorem blocking_outlierZscore (fuelCol : String) (df : List (GateRow F)) (scope : Scope) :
    Blocking (checkOutlierZscore rt fuelCol df scope) := by
  refine blocking_gate (crit_of_flatMap fun key => ?_)
  unfold groupOutliers
  dsimp only
  split
  · intro f hf
    cases hf
  · exact crit_of_map fun _ => rfl

theorem blocking_temporalGap (df1 : List (Scope1Row rt)) (df2 : List (Scope2Row rt)) :
    Blocking (checkTemporalGap rt df1 df2) := by
  unfold checkTemporalGap
  split
  · have hnone : Blocking (gate ([] : List (Finding F))) := blocking_gate (List.forall_mem_nil _)
    exact hnone
  · exact blocking_gate (crit_of_flatMap fun _ => crit_of_flatMap fun _ => crit_of_map fun _ => rfl)

theorem warn_vianoElectricity (df2 : List (Scope2Row rt)) :
    ∀ f ∈ (checkWarn01VianoElectricity rt df2).findings, f.severity = .warn := by
  intro f hf
  unfold checkWarn01VianoElectricity annotate at hf
  dsimp only at hf
  split at hf
  · split at hf
    · split at hf
      · rw [List.mem_singleton.mp hf]
        rfl
      · cases hf
    · cases hf
  · cases hf

theorem warn_estimatedQuality (df : List (GateRow F)) (scope : Scope) :
    ∀ f ∈ (checkWarn02EstimatedQuality df scope).findings, f.severity = .warn := by
  intro f hf
  obtain ⟨x, -, rfl⟩ := List.mem_map.mp hf
  rfl

end Blocking

/-! ## What the gates read of each frame -/

section Views

variable {rt}

def Scope1Row.view (r : Scope1Row rt) : GateRow F where
  anno := r.anno
  codiceSito := r.codiceSito.code
  fuel := r.combustibile.1
  quantita := r.quantita.1
  qualitaDato := some r.qualitaDato.code

def Scope2Row.view (r : Scope2Row rt) : GateRow F where
  anno := r.anno
  codiceSito := r.codiceSito.code
  fuel := r.voceS2.code
  quantita := r.quantita.1
  qualitaDato := some r.qualitaDato.code

def Scope3Row.view (r : Scope3Row rt) : GateRow F where
  anno := r.anno
  codiceSito := (r.codiceSito.map Cell.str).getD ""
  fuel := ""
  quantita := r.quantita.1
  qualitaDato := r.qualitaDato

variable (rt)

def baseCols {ρ : Type} (quantita unita anno : ρ → Cell) : List (MandatoryColumn ρ) :=
  [⟨"Quantità", quantita⟩, ⟨"Unità", unita⟩, ⟨"Anno", anno⟩]

def scope1Cols : List (MandatoryColumn (Scope1Row rt)) :=
  baseCols (fun r => some (rt.str r.quantita.1)) (fun r => some r.unita.1)
      (fun r => some (toString r.anno.1)) ++
    [⟨"Codice_Sito", fun r => some r.codiceSito.code⟩,
      ⟨"Combustibile", fun r => some r.combustibile.1⟩]

def scope2Cols : List (MandatoryColumn (Scope2Row rt)) :=
  baseCols (fun r => some (rt.str r.quantita.1)) (fun _ => some "kWh")
      (fun r => some (toString r.anno.1)) ++
    [⟨"Codice_Sito", fun r => some r.codiceSito.code⟩, ⟨"Voce_S2", fun r => some r.voceS2.code⟩]

def scope3Cols : List (MandatoryColumn (Scope3Row rt)) :=
  baseCols (fun r => some (rt.str r.quantita.1)) (fun r => some r.unita.1)
      (fun r => some (toString r.anno.1)) ++
    [⟨"Categoria_S3", fun r => some (toString r.categoriaS3.1)⟩,
      ⟨"Sottocategoria", fun r => some r.sottocategoria.1⟩, ⟨"Fonte_Dato", Scope3Row.fonteDato⟩,
      ⟨"Qualità_Dato", Scope3Row.qualitaDato⟩, ⟨"Stato_Dato", Scope3Row.statoDato⟩]

end Views

end GhgTool
