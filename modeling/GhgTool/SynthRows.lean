import GhgTool.EtlFrames

/-!
# Synthesised rows and defaulted metadata

The transforms that run between the readers and the schemas, each with the findings it logs. A
frame that is concatenated with a synthesised row gets the columns of that row: where it had no
`_provenance`, its own rows have a missing value there.
-/

namespace GhgTool

inductive Severity
  | info | warn | crit
  deriving DecidableEq

/-- The rules a finding can name. -/
inductive RuleId
  | dqCrit01 | dqCrit02 | dqCrit03 | dqCrit04 | dqCrit05
  | dqWarn01 | dqWarn02
  | fr01Synth | fr02Synth | fr37Default | fr11Cat3Reconcil | dqWarnCat3Delta
  deriving DecidableEq

def RuleId.text : RuleId → String
  | dqCrit01 => "DQ-CRIT-01"
  | dqCrit02 => "DQ-CRIT-02"
  | dqCrit03 => "DQ-CRIT-03"
  | dqCrit04 => "DQ-CRIT-04"
  | dqCrit05 => "DQ-CRIT-05"
  | dqWarn01 => "DQ-WARN-01"
  | dqWarn02 => "DQ-WARN-02"
  | fr01Synth => "FR-01-SYNTH"
  | fr02Synth => "FR-02-SYNTH"
  | fr37Default => "FR-37-DEFAULT"
  | fr11Cat3Reconcil => "FR-11-CAT3-RECONCIL"
  | dqWarnCat3Delta => "DQ-WARN-CAT3-DELTA"

/-- A number in a finding: a count, or a float. -/
inductive FindingValue (F : Type)
  | count (n : ℕ)
  | float (x : F)
  deriving DecidableEq

/-- A `FindingDict`; a key that is not set is `none`. -/
structure Finding (F : Type) where
  ruleId : RuleId
  severity : Severity
  scope : Scope
  anno : Option ℤ
  codiceSito : Option String
  metric : Option String := none
  valueObserved : Option (FindingValue F) := none
  valueReference : Option (FindingValue F) := none
  ratioYoy : Option F := none
  zScore : Option F := none
  triggerDesc : String
  blocksPipeline : Bool := false
  dqReportVersion : Option String := none
  deriving DecidableEq

/-- What the pipeline raises. -/
inductive EtlError
  | valueError
  | schemaErrors
  deriving DecidableEq

section Synthesise

variable {ρ F : Type}

/-- The body of the two functions that synthesise a row. -/
def synthesise (mask : ρ → Prop) [DecidablePred mask] (widen : ρ → ρ) (row : ρ)
    (finding : Finding F) (df : List ρ) : List ρ × List (Finding F) :=
  if ∃ r ∈ df, mask r then (df, []) else (df.map widen ++ [row], [finding])

end Synthesise

namespace VianoGargola

def Mask (r : Scope1Raw) : Prop :=
  r.codiceSito = some "VIANO_GARGOLA" ∧ r.anno.str = "2024" ∧ r.combustibile = some "GAS_NAT"

instance : DecidablePred Mask :=
  fun _ => inferInstanceAs (Decidable (_ ∧ _ ∧ _))

def synthRow : Scope1Raw where
  scope := some "1"
  anno := some "2024"
  codiceSito := some "VIANO_GARGOLA"
  categoriaS1 := some "Combustione stazionaria"
  combustibile := some "GAS_NAT"
  quantita := some "0"
  unita := some "Sm3"
  fonteDato := some "auto_zero_user_confirmed"
  qualitaDato := some "P"
  statoDato := some "Definitivo"
  note := some ("VIANO_GARGOLA — no gas connection in 2024 (user confirmed 2026-05-13). " ++
    "ETL synthesised zero row; DQ-CRIT-01/04/05 closed.")
  provenance := some (some "auto_zero_user_confirmed")
  provenanceRationale := some "No gas connection 2024 — user confirmed 2026-05-13"

def finding (F : Type) : Finding F where
  ruleId := .fr01Synth
  severity := .info
  scope := .one
  codiceSito := some "VIANO_GARGOLA"
  anno := some 2024
  triggerDesc := "ETL synthesised VIANO_GARGOLA GAS_NAT 2024 = 0 Sm3 " ++
    "(auto_zero_user_confirmed per FR-01; user confirmation 2026-05-13)."

end VianoGargola

/-- The columns of a concatenated frame. -/
def Scope1Raw.widen (r : Scope1Raw) : Scope1Raw :=
  { r with provenance := some r.provenance.join }

def synthesiseVianoGargolaGasNat2024 (F : Type) (df : List Scope1Raw) :
    List Scope1Raw × List (Finding F) :=
  synthesise VianoGargola.Mask Scope1Raw.widen VianoGargola.synthRow (VianoGargola.finding F) df

namespace SassuoloGrid

def Mask (r : Scope2Raw) : Prop :=
  r.codiceSito = some "SASSUOLO" ∧ r.anno.str = "2025" ∧ r.voceS2 = some "EE_Acquistata_Grid"

instance : DecidablePred Mask :=
  fun _ => inferInstanceAs (Decidable (_ ∧ _ ∧ _))

def synthRow : Scope2Raw where
  scope := some "2"
  anno := some "2025"
  codiceSito := some "SASSUOLO"
  voceS2 := some "EE_Acquistata_Grid"
  quantita := some "0"
  unita := some "kWh"
  strumentoMb := some "Grid_Residual"
  fonteDato := some "auto_zero_user_confirmed"
  qualitaDato := some "P"
  statoDato := some "Definitivo"
  note := some ("SASSUOLO 100% GO contract in 2025 — user confirmed 2026-05-13. " ++
    "Grid = 0 kWh explicitly. DQ-WARN-05 RESOLVED.")
  provenance := some (some "auto_zero_user_confirmed")
  provenanceRationale := some "100% GO contract switch confirmed user 2026-05-13"

def finding (F : Type) : Finding F where
  ruleId := .fr02Synth
  severity := .info
  scope := .two
  codiceSito := some "SASSUOLO"
  anno := some 2025
  triggerDesc := "ETL synthesised SASSUOLO EE_Acquistata_Grid 2025 = 0 kWh " ++
    "(auto_zero_user_confirmed; DQ-WARN-05 RESOLVED)."

end SassuoloGrid

def Scope2Raw.widen (r : Scope2Raw) : Scope2Raw :=
  { r with provenance := some r.provenance.join }

def synthesiseSassuoloGrid2025 (F : Type) (df : List Scope2Raw) :
    List Scope2Raw × List (Finding F) :=
  synthesise SassuoloGrid.Mask Scope2Raw.widen SassuoloGrid.synthRow (SassuoloGrid.finding F) df

/-! ## Metadata of the derived rows of category 3 -/

namespace Fr37

def fonte : String := "Derivato da Scope 1/2 per FR-11"

def qualita : String := "D"

def stato : String := "Definitivo"

/-- `_CAT3_WTT_TND_SUBS`. -/
def subs : List String :=
  ["WTT Gas Naturale", "WTT Gasolio", "WTT Benzina", "WTT Elettricità (generazione)",
    "WTT Elettricità", "T&D Losses Elettricità", "T&D Losses"]

/-- The rows whose metadata is filled in. -/
def Defaulted (r : Scope3Raw) : Prop :=
  (∃ text ∈ r.sottocategoria, strip text ∈ subs) ∧ r.fonteDato.Blank

instance : DecidablePred Defaulted :=
  fun r => inferInstanceAs (Decidable ((∃ text ∈ r.sottocategoria, strip text ∈ subs) ∧ _))

def transform (r : Scope3Raw) : Scope3Raw :=
  if Defaulted r then
    { r with
      fonteDato := some fonte, qualitaDato := some qualita, statoDato := some stato,
      metadataDefaulted := some (some "True"), defaultingRuleId := some RuleId.fr37Default.text }
  else if r.metadataDefaulted = none then
    -- both tracking columns are added empty
    { r with defaultingRuleId := none }
  else r

variable {F : Type} (rt : Runtime F)

/-- `int(row["Anno"]) if pd.notna(row.get("Anno")) else None`, on a cell that is still text. -/
def findingAnno (cell : Cell) : Except EtlError (Option ℤ) :=
  match cell with
  | none => .ok none
  | some text =>
    match rt.int text with
    | none => .error .valueError
    | some n => .ok (some n)

def finding (r : Scope3Raw) (anno : Option ℤ) : Finding F where
  ruleId := .fr37Default
  severity := .info
  scope := .three
  codiceSito := none
  anno := anno
  metric := some ("Sottocategoria=" ++ r.sottocategoria.str)
  triggerDesc := "FR-37 metadata defaulted for Cat 3 WTT/T&D row: " ++
    "Sottocategoria=" ++ rt.repr r.sottocategoria.str ++ ", Anno=" ++ r.anno.str ++ ". " ++
    "Set Fonte_Dato=" ++ rt.repr fonte ++ ", " ++ "Qualità_Dato=" ++ rt.repr qualita ++
    ", Stato_Dato=" ++ rt.repr stato ++ "."

end Fr37

def applyFr37Cat3MetadataDefaulting {F : Type} (rt : Runtime F) (df : List Scope3Raw) :
    Except EtlError (List Scope3Raw × List (Finding F)) := do
  let findings ← (df.filter (Fr37.Defaulted ·)).mapM fun r => do
    let anno ← Fr37.findingAnno rt r.anno
    return Fr37.finding rt r anno
  return (df.map Fr37.transform, findings)

end GhgTool
