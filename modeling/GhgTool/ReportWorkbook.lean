import GhgTool.GroupedSums
import GhgTool.LedgerTrigger
import GhgTool.ScopeTotals
import GhgTool.Text

/-!
# The workbook of a report

The Summary sheet, which adds up the records of the ledger in one loop, and the five sheets that
list them. Each sheet selects its records by the text of their sub-scope. Numbers are exact; of the
style of the cells nothing is kept, nor are the sheets that do not read the ledger.
-/

namespace GhgTool.ReportWorkbook

/-! ## Sheets -/

inductive CellValue
  | blank
  | text (s : String)
  | integer (n : ℕ)
  | number (q : ℚ)
  deriving DecidableEq

/-- A sheet below its header; `rows` includes empty ones. -/
structure Sheet where
  title : String
  columns : List String
  rows : List (List CellValue)

def CellValue.amount : CellValue → ℚ
  | .number q => q
  | _ => 0

def CellValue.ofText (s : Option String) : CellValue :=
  (s.map .text).getD .blank

def CellValue.ofNumber (q : Option ℚ) : CellValue :=
  (q.map .number).getD .blank

/-- The column of the tonnes. -/
def amountColumn (columns : List String) : ℕ :=
  columns.findIdx fun c => "tCO2e".toList.isPrefixOf c.toList

/-- The sum of the tonnes in the rows of a sheet. -/
def Sheet.total (s : Sheet) : ℚ :=
  (s.rows.map fun row => (row[amountColumn s.columns]?.map CellValue.amount).getD 0).sum

/-- The third cell of the row that starts with these two. -/
def Sheet.entry (s : Sheet) (first second : String) : Option CellValue :=
  (s.rows.find? fun row => row.take 2 = [.text first, .text second]).bind fun row => row[2]?

/-! ## The report -/

/-- A record of the ledger with its note. -/
structure ReportRecord extends EmissionRecord where
  disclosureNotes : Option String := none

/-- A published factor of the catalog, as the report quotes it. -/
structure FactorSnapshot where
  source : Option String
  version : Option String
  publishedAt : Option String
  validFrom : Option String

structure ReportData where
  anno : Option ℕ
  gwpSet : Option String
  emissions : List ReportRecord
  factors : List FactorSnapshot

/-- `a or b or ""`. -/
def firstFilled (texts : List (Option String)) : String :=
  ((texts.find? fun t => t ≠ none ∧ t ≠ some "").bind id).getD ""

def FactorSnapshot.label (f : FactorSnapshot) : String :=
  let published := firstFilled [f.publishedAt, f.validFrom]
  let name := firstFilled [f.source] ++ " " ++ firstFilled [f.version]
  if published ≠ "" ∧ 10 ≤ published.length then
    name ++ " (pubblicato " ++ String.ofList (published.toList.take 10) ++ ")"
  else strip name

def buildFactorSourceLabel (factors : List FactorSnapshot) : String :=
  let parts := ((factors.map FactorSnapshot.label).filter (· ≠ "")).eraseDups
  if parts = [] then "Vedi catalogo fattori" else String.intercalate "; " parts

/-! ## Summary -/

/-- What the loop over the records adds up. -/
structure SummaryTotals where
  scopeTotals : Scope → ℚ := fun _ => 0
  scope2Lb : ℚ := 0
  scope2Mb : ℚ := 0
  biogenicTotal : ℚ := 0

/-- One turn of the loop. -/
def SummaryTotals.add (t : SummaryTotals) (r : ReportRecord) : SummaryTotals :=
  let sub := r.subScope.label
  let t :=
    if r.scope = .two then
      if sub = "LB" then { t with scope2Lb := t.scope2Lb + r.tco2e }
      else if sub = "MB" then { t with scope2Mb := t.scope2Mb + r.tco2e }
      else t
    else { t with scopeTotals := Function.update t.scopeTotals r.scope
                                  (t.scopeTotals r.scope + r.tco2e) }
  if sub = "biogenic" then { t with biogenicTotal := t.biogenicTotal + r.tco2e } else t

def summaryTotals (emissions : List ReportRecord) : SummaryTotals :=
  emissions.foldl SummaryTotals.add {}

def scopeTitle : Scope → String
  | .one => "Scope 1"
  | .two => "Scope 2"
  | .three => "Scope 3"

def summaryRow (report : ReportData) (scope sub : String) (total : ℚ)
    (factorSource factorVersion note : String) : List CellValue :=
  [.text scope, .text sub, .number total, (report.anno.map .integer).getD (.text "?"),
    .text factorSource, .text factorVersion, .text (report.gwpSet.getD "AR6"), .text note]

def writeSummarySheet (report : ReportData) : Sheet where
  title := "Summary"
  columns := ["Scope", "Sub-scope", "Totale tCO2e", "Anno", "factor_source", "factor_version",
    "gwp_set", "Note"]
  rows :=
    let totals := summaryTotals report.emissions
    let sources := buildFactorSourceLabel report.factors
    let row := fun scope sub total note =>
      summaryRow report scope sub total sources "Vedi catalogo fattori" note
    [row (scopeTitle .one) "Totale" (totals.scopeTotals .one) "Non include biogenico (ADR-007)",
      row (scopeTitle .two) "Totale" (totals.scopeTotals .two) "",
      row (scopeTitle .three) "Totale" (totals.scopeTotals .three) "",
      row "Scope 2" "Location-Based" totals.scope2Lb "",
      row "Scope 2" "Market-Based" totals.scope2Mb "",
      summaryRow report "BIOGENICO (MEMO E1-7)" "ADR-007 — Non incluso in totali"
        totals.biogenicTotal "N/A" "N/A"
        "ADR-007: CO2 biogenica esclusa da Scope 1/2/3 per GHG Protocol §4.5",
      [],
      [.text ("Fattori conformi ai dati DB. " ++
        "Vedi docs/methodology/factor_sources.md per i SHA-256 dei PDF sorgente.")]]

/-! ## The sheets of the records -/

/-- A sheet that lists the records it selects. -/
structure DetailSheet where
  title : String
  columns : List String
  Selects : ReportRecord → Prop
  selects : DecidablePred Selects
  row : ReportRecord → List CellValue

attribute [instance] DetailSheet.selects

def DetailSheet.write (s : DetailSheet) (report : ReportData) : Sheet where
  title := s.title
  columns := s.columns
  rows := (report.emissions.filter (s.Selects ·)).map s.row

/-- The cells that end most rows. -/
def provenance (r : ReportRecord) : List CellValue :=
  [.text r.factorSource, .text r.factorVersion, .text r.gwpSet.label, .text r.methodology.label]

def scope1Combustion : DetailSheet where
  title := "Scope 1 Combustion"
  columns := ["Sito", "Anno", "Sub-scope", "Combustibile", "tCO2e", "CO2 (t)", "CH4 (tCO2e)",
    "N2O (tCO2e)", "factor_source", "factor_version", "gwp_set", "methodology"]
  Selects r := r.scope = .one ∧ r.subScope.label = "combustion"
  selects _ := inferInstance
  row r := [.ofText r.codiceSito, .integer r.anno, .text r.subScope.label, .text "",
    .number r.tco2e, .ofNumber r.co2Tonne, .ofNumber r.ch4Tco2e, .ofNumber r.n2oTco2e] ++
    provenance r

def scope1Process : DetailSheet where
  title := "Scope 1 Process"
  columns := ["Sito", "Anno", "Sub-scope", "tCO2e", "CO2 (t)", "factor_source", "factor_version",
    "gwp_set", "methodology", "Note"]
  Selects r := r.scope = .one ∧ r.subScope.label = "process"
  selects _ := inferInstance
  row r := [.ofText r.codiceSito, .integer r.anno, .text r.subScope.label, .number r.tco2e,
    .ofNumber r.co2Tonne] ++ provenance r ++ [.ofText r.disclosureNotes]

def scope2Lb : DetailSheet where
  title := "Scope 2 LB"
  columns := ["Sito", "Anno", "tCO2e (Location-Based)", "factor_source", "factor_version",
    "gwp_set", "methodology"]
  Selects r := r.scope = .two ∧ r.subScope.label = "LB"
  selects _ := inferInstance
  row r := [.ofText r.codiceSito, .integer r.anno, .number r.tco2e] ++ provenance r

def scope2Mb : DetailSheet where
  title := "Scope 2 MB"
  columns := ["Sito", "Anno", "tCO2e (Market-Based)", "Strumento MB", "factor_source",
    "factor_version", "gwp_set", "methodology"]
  Selects r := r.scope = .two ∧ r.subScope.label = "MB"
  selects _ := inferInstance
  row r := [.ofText r.codiceSito, .integer r.anno, .number r.tco2e,
    .text r.regulatoryStream.label] ++ provenance r

/-- `sub_scope[:4]`. -/
def categoria (r : ReportRecord) : String :=
  String.ofList (r.subScope.label.toList.take 4)

def scope3 : DetailSheet where
  title := "Scope 3 Cat 1-12"
  columns := ["Categoria", "Sub-scope", "Sito", "Anno", "tCO2e", "factor_source",
    "factor_version", "gwp_set", "methodology", "Note"]
  Selects r := r.scope = .three
  selects _ := inferInstance
  row r := [.text (categoria r), .text r.subScope.label, .ofText r.codiceSito, .integer r.anno,
    .number r.tco2e] ++ provenance r ++ [.ofText r.disclosureNotes]

def writeScope1CombustionSheet (report : ReportData) : Sheet :=
  scope1Combustion.write report

def writeScope1ProcessSheet (report : ReportData) : Sheet :=
  scope1Process.write report

def writeScope2LbSheet (report : ReportData) : Sheet :=
  scope2Lb.write report

def writeScope2MbSheet (report : ReportData) : Sheet :=
  scope2Mb.write report

def writeScope3Sheet (report : ReportData) : Sheet :=
  scope3.write report

def detailSheets : List DetailSheet :=
  [scope1Combustion, scope1Process, scope2Lb, scope2Mb, scope3]

/-! ## What the workbook should conserve -/

/-- The category of the GHG Protocol; 0 outside Scope 3. -/
def category : SubScope → ℕ
  | .combustion | .process | .fugitive | .lb | .mb => 0
  | .cat1 => 1
  | .cat2 => 2
  | .cat3WttFuel | .cat3WttElec | .cat3Tnd => 3
  | .cat4 => 4
  | .cat5 => 5
  | .cat6 => 6
  | .cat7 => 7
  | .cat8Zero => 8
  | .cat9 => 9
  | .cat10Zero => 10
  | .cat11Zero => 11
  | .cat12 => 12
  | .cat13Zero => 13
  | .cat14Zero => 14
  | .cat15Zero => 15

/-- The records and the workbook agree. The total of Scope 2 is one of its two sums, and zero only
where every record of the scope is. -/
structure ConservesLedger (report : ReportData) : Prop where
  one_sheet : ∀ r ∈ report.emissions, (detailSheets.countP fun s => s.Selects r) = 1
  total1 : (writeSummarySheet report).entry "Scope 1" "Totale" =
    some (.number ((writeScope1CombustionSheet report).total +
      (writeScope1ProcessSheet report).total))
  total2 : (writeSummarySheet report).entry "Scope 2" "Totale" =
      some (.number (writeScope2MbSheet report).total) ∨
    (writeSummarySheet report).entry "Scope 2" "Totale" =
      some (.number (writeScope2LbSheet report).total)
  total2_zero : (writeSummarySheet report).entry "Scope 2" "Totale" = some (.number 0) →
    ∀ r ∈ report.emissions, r.scope = .two → r.tco2e = 0
  total3 : (writeSummarySheet report).entry "Scope 3" "Totale" =
    some (.number (writeScope3Sheet report).total)
  biogenic : (writeSummarySheet report).entry "BIOGENICO (MEMO E1-7)"
      "ADR-007 — Non incluso in totali" =
    some (.number (report.emissions.map fun r => r.co2BiogenicTonne.getD 0).sum)
  categoria : ∀ r ∈ report.emissions, ∀ r' ∈ report.emissions, r.scope = .three →
    r'.scope = .three → (scope3.row r)[0]? = (scope3.row r')[0]? →
    category r.subScope = category r'.subScope

/-- The categories whose first digit is 1. -/
def StartsWithOne (c : ℕ) : Prop :=
  c = 1 ∨ 10 ≤ c

/-- The ledgers that fit the workbook. -/
structure Fits (emissions : List ReportRecord) : Prop where
  no_fugitive : ∀ r ∈ emissions, r.subScope ≠ .fugitive
  scope2_zero : ∀ r ∈ emissions, r.scope = .two → r.tco2e = 0
  no_biogenic : ∀ r ∈ emissions, r.co2BiogenicTonne.getD 0 = 0
  one_category : ∀ r ∈ emissions, ∀ r' ∈ emissions, StartsWithOne (category r.subScope) →
    StartsWithOne (category r'.subScope) → category r.subScope = category r'.subScope

/-! ## The sums -/

variable {report : ReportData} {emissions : List ReportRecord}

theorem label_ne_biogenic (u : SubScope) : u.label ≠ "biogenic" := by
  cases u <;> decide

/-- One turn adds to the total of the record's scope, unless that is Scope 2. -/
theorem scopeTotals_add (t : SummaryTotals) (r : ReportRecord) (s : Scope) :
    (t.add r).scopeTotals s = t.scopeTotals s + if r.scope = s ∧ s ≠ .two then r.tco2e else 0 := by
  unfold SummaryTotals.add
  dsimp only
  rw [if_neg (label_ne_biogenic r.subScope)]
  by_cases htwo : r.scope = .two
  · have hother : ¬ (r.scope = s ∧ s ≠ .two) := fun h => h.2 (h.1.symm.trans htwo)
    rw [if_pos htwo, if_neg hother, add_zero]
    split_ifs <;> rfl
  · rw [if_neg htwo]
    dsimp only
    rw [Function.update_apply]
    by_cases hs : s = r.scope
    · subst hs
      rw [if_pos rfl, if_pos ⟨rfl, htwo⟩]
    · rw [if_neg hs, if_neg fun h => hs h.1.symm, add_zero]

theorem biogenicTotal_add (t : SummaryTotals) (r : ReportRecord) :
    (t.add r).biogenicTotal = t.biogenicTotal := by
  unfold SummaryTotals.add
  dsimp only
  rw [if_neg (label_ne_biogenic r.subScope)]
  split_ifs <;> rfl

theorem scopeTotals_foldl (t : SummaryTotals) (emissions : List ReportRecord) (s : Scope) :
    (emissions.foldl SummaryTotals.add t).scopeTotals s = t.scopeTotals s +
      (emissions.map fun r => if r.scope = s ∧ s ≠ .two then r.tco2e else 0).sum := by
  induction emissions generalizing t with
  | nil => simp
  | cons r emissions ih =>
      rw [List.foldl_cons, ih, scopeTotals_add, List.map_cons, List.sum_cons, add_assoc]

theorem biogenicTotal_foldl (t : SummaryTotals) (emissions : List ReportRecord) :
    (emissions.foldl SummaryTotals.add t).biogenicTotal = t.biogenicTotal := by
  induction emissions generalizing t with
  | nil => rfl
  | cons r emissions ih => rw [List.foldl_cons, ih, biogenicTotal_add]

/-- The row of a scope: the sum of its records, or zero for Scope 2. -/
theorem entry_total (s : Scope) (report : ReportData) :
    (writeSummarySheet report).entry (scopeTitle s) "Totale" = some (.number
      (report.emissions.map fun r => if r.scope = s ∧ s ≠ .two then r.tco2e else 0).sum) := by
  have hsum : (summaryTotals report.emissions).scopeTotals s =
      (report.emissions.map fun r => if r.scope = s ∧ s ≠ .two then r.tco2e else 0).sum := by
    rw [summaryTotals, scopeTotals_foldl, zero_add]
  rw [← hsum]
  cases s <;> rfl

theorem entry_total_two (report : ReportData) :
    (writeSummarySheet report).entry "Scope 2" "Totale" = some (.number 0) := by
  rw [show "Scope 2" = scopeTitle .two from rfl, entry_total]
  simp

theorem entry_biogenic (report : ReportData) :
    (writeSummarySheet report).entry "BIOGENICO (MEMO E1-7)" "ADR-007 — Non incluso in totali" =
      some (.number 0) := by
  have hsum : (summaryTotals report.emissions).biogenicTotal = 0 := biogenicTotal_foldl {} _
  rw [← hsum]
  rfl

theorem total_write {s : DetailSheet} {k : ℕ} (hcolumn : amountColumn s.columns = k)
    (hrow : ∀ r, (s.row r)[k]? = some (.number r.tco2e)) (report : ReportData) :
    (s.write report).total =
      (report.emissions.map fun r => if s.Selects r then r.tco2e else 0).sum := by
  rw [← sum_map_filter, Sheet.total, DetailSheet.write, hcolumn, List.map_map]
  congr 1
  apply List.map_congr_left
  intro r _
  rw [Function.comp_apply, hrow]
  rfl

theorem total_combustion (report : ReportData) : (writeScope1CombustionSheet report).total =
    (report.emissions.map fun r =>
      if r.scope = .one ∧ r.subScope.label = "combustion" then r.tco2e else 0).sum :=
  total_write (k := 4) (by decide) (fun _ => rfl) report

theorem total_process (report : ReportData) : (writeScope1ProcessSheet report).total =
    (report.emissions.map fun r =>
      if r.scope = .one ∧ r.subScope.label = "process" then r.tco2e else 0).sum :=
  total_write (k := 3) (by decide) (fun _ => rfl) report

theorem total_mb (report : ReportData) : (writeScope2MbSheet report).total =
    (report.emissions.map fun r =>
      if r.scope = .two ∧ r.subScope.label = "MB" then r.tco2e else 0).sum :=
  total_write (k := 2) (by decide) (fun _ => rfl) report

theorem total_scope3 (report : ReportData) : (writeScope3Sheet report).total =
    (report.emissions.map fun r => if r.scope = .three then r.tco2e else 0).sum :=
  total_write (k := 4) (by decide) (fun _ => rfl) report

/-! ## One record -/

theorem subScope_one {r : ReportRecord} (h : r.scope = .one) :
    r.subScope = .combustion ∨ r.subScope = .process ∨ r.subScope = .fugitive := by
  have hallowed := r.subScope_allowed
  rw [h] at hallowed
  simpa [allowedSubScopes] using hallowed

theorem subScope_two {r : ReportRecord} (h : r.scope = .two) :
    r.subScope = .lb ∨ r.subScope = .mb := by
  have hallowed := r.subScope_allowed
  rw [h] at hallowed
  simpa [allowedSubScopes] using hallowed

/-- A record is listed once, or not at all when it is fugitive. -/
theorem countP_detailSheets (r : ReportRecord) :
    (detailSheets.countP fun s => s.Selects r) = if r.subScope = .fugitive then 0 else 1 := by
  simp only [detailSheets, List.countP_cons, List.countP_nil, scope1Combustion, scope1Process,
    scope2Lb, scope2Mb, scope3, decide_eq_true_eq]
  cases hscope : r.scope with
  | one =>
      rcases subScope_one hscope with h | h | h
      · simp [h, SubScope.label]
      · simp [h, SubScope.label]
      · simp [h, SubScope.label]
  | two =>
      rcases subScope_two hscope with h | h
      · simp [h, SubScope.label]
      · simp [h, SubScope.label]
  | three =>
      have hother : r.subScope ≠ .fugitive := by
        intro h
        have hallowed := r.subScope_allowed
        rw [hscope, h] at hallowed
        exact absurd hallowed (by decide)
      simp [hother]

/-- A record of Scope 1 is in the sum of one of the two sheets, unless it is fugitive. -/
theorem amount_scope1 {r : ReportRecord} (h : r.subScope ≠ .fugitive) :
    (if r.scope = .one ∧ Scope.one ≠ .two then r.tco2e else 0) =
      (if r.scope = .one ∧ r.subScope.label = "combustion" then r.tco2e else 0) +
        if r.scope = .one ∧ r.subScope.label = "process" then r.tco2e else 0 := by
  by_cases hscope : r.scope = .one
  · rcases subScope_one hscope with hsub | hsub | hsub
    · simp [hscope, hsub, SubScope.label]
    · simp [hscope, hsub, SubScope.label]
    · exact absurd hsub h
  · simp [hscope]

def firstDigit (c : ℕ) : ℕ :=
  if 10 ≤ c then 1 else c

theorem categoria_eq {r : ReportRecord} (h : r.scope = .three) :
    categoria r = "Cat" ++ toString (firstDigit (category r.subScope)) ∧
      1 ≤ category r.subScope ∧ category r.subScope ≤ 15 := by
  have hallowed := r.subScope_allowed
  rw [h] at hallowed
  unfold categoria
  revert hallowed
  cases r.subScope <;> decide

/-- Two records show the same category exactly when they have it or both start with 1. -/
theorem categoria_eq_iff {r r' : ReportRecord} (h : r.scope = .three) (h' : r'.scope = .three) :
    (scope3.row r)[0]? = (scope3.row r')[0]? ↔
      category r.subScope = category r'.subScope ∨
        StartsWithOne (category r.subScope) ∧ StartsWithOne (category r'.subScope) := by
  obtain ⟨htext, hlow, hhigh⟩ := categoria_eq h
  obtain ⟨htext', hlow', hhigh'⟩ := categoria_eq h'
  have hcell : (scope3.row r)[0]? = (scope3.row r')[0]? ↔
      firstDigit (category r.subScope) = firstDigit (category r'.subScope) := by
    have hfirst : ∀ x : ReportRecord, (scope3.row x)[0]? = some (.text (categoria x)) :=
      fun _ => rfl
    rw [hfirst, hfirst, Option.some_inj, CellValue.text.injEq, htext, htext',
      String.append_right_inj]
    constructor
    · intro hdigits
      have hnumber := congrArg numericText hdigits
      rw [numericText_toString, numericText_toString] at hnumber
      exact Option.some.inj hnumber
    · exact congrArg toString
  rw [hcell]
  unfold firstDigit StartsWithOne
  split_ifs <;> omega

theorem scope_three_of_category {r : ReportRecord} (h : StartsWithOne (category r.subScope)) :
    r.scope = .three := by
  have hzero : category r.subScope ≠ 0 := by
    unfold StartsWithOne at h
    omega
  cases hscope : r.scope with
  | one =>
      rcases subScope_one hscope with hsub | hsub | hsub
      · exact absurd (congrArg category hsub) hzero
      · exact absurd (congrArg category hsub) hzero
      · exact absurd (congrArg category hsub) hzero
  | two =>
      rcases subScope_two hscope with hsub | hsub
      · exact absurd (congrArg category hsub) hzero
      · exact absurd (congrArg category hsub) hzero
  | three => rfl

/-! ## The workbook -/

theorem total1_of_no_fugitive (h : ∀ r ∈ report.emissions, r.subScope ≠ .fugitive) :
    (writeSummarySheet report).entry "Scope 1" "Totale" =
      some (.number ((writeScope1CombustionSheet report).total +
        (writeScope1ProcessSheet report).total)) := by
  rw [show "Scope 1" = scopeTitle .one from rfl, entry_total, total_combustion, total_process,
    ← List.sum_map_add]
  congr 3
  exact List.map_congr_left fun r hr => amount_scope1 (h r hr)

theorem total3_eq (report : ReportData) :
    (writeSummarySheet report).entry "Scope 3" "Totale" =
      some (.number (writeScope3Sheet report).total) := by
  rw [show "Scope 3" = scopeTitle .three from rfl, entry_total, total_scope3]
  simp

theorem total_mb_of_zero (h : ∀ r ∈ report.emissions, r.scope = .two → r.tco2e = 0) :
    (writeScope2MbSheet report).total = 0 := by
  rw [total_mb]
  apply List.sum_eq_zero
  intro x hx
  obtain ⟨r, hr, rfl⟩ := List.mem_map.mp hx
  split_ifs with hmb
  · exact h r hr hmb.1
  · rfl

theorem biogenic_sum_eq_zero_iff :
    (emissions.map fun r => r.co2BiogenicTonne.getD 0).sum = 0 ↔
      ∀ r ∈ emissions, r.co2BiogenicTonne.getD 0 = 0 := by
  have hnonneg : ∀ r ∈ emissions, 0 ≤ r.co2BiogenicTonne.getD 0 := by
    intro r _
    cases hbio : r.co2BiogenicTonne with
    | none => exact le_refl 0
    | some x => exact r.biogenic_nonneg x hbio
  have hall := sum_filter_eq_zero hnonneg fun _ => True
  simpa using hall

/-- The workbook conserves exactly the ledgers without a fugitive record, without an amount in
Scope 2, without biogenic carbon, and with at most one category that starts with 1. -/
theorem conservesLedger_iff (report : ReportData) :
    ConservesLedger report ↔ Fits report.emissions := by
  constructor
  · intro h
    refine ⟨fun r hr hfugitive => ?_, h.total2_zero (entry_total_two report), ?_, ?_⟩
    · have hcount := h.one_sheet r hr
      rw [countP_detailSheets, if_pos hfugitive] at hcount
      cases hcount
    · have hmemo := h.biogenic
      rw [entry_biogenic, Option.some_inj, CellValue.number.injEq] at hmemo
      exact biogenic_sum_eq_zero_iff.mp hmemo.symm
    · intro r hr r' hr' hone hone'
      have hscope := scope_three_of_category hone
      have hscope' := scope_three_of_category hone'
      exact h.categoria r hr r' hr' hscope hscope'
        ((categoria_eq_iff hscope hscope').mpr (.inr ⟨hone, hone'⟩))
  · intro h
    refine ⟨fun r hr => ?_, total1_of_no_fugitive h.no_fugitive, .inl ?_,
      fun _ => h.scope2_zero, total3_eq report, ?_, ?_⟩
    · rw [countP_detailSheets, if_neg (h.no_fugitive r hr)]
    · rw [entry_total_two, total_mb_of_zero h.scope2_zero]
    · rw [entry_biogenic, biogenic_sum_eq_zero_iff.mpr h.no_biogenic]
    · intro r hr r' hr' hscope hscope' hcell
      rcases (categoria_eq_iff hscope hscope').mp hcell with hsame | ⟨hone, hone'⟩
      · exact hsame
      · exact h.one_category r hr r' hr' hone hone'

/-- Ten tonnes of electricity, location-based. -/
def gridReport : ReportData := ⟨some 2024, none, [⟨gridRecord, none⟩], []⟩

/-- The sheet of the scope holds ten tonnes, its total is zero. -/
theorem scope2_total_missing : ¬ ConservesLedger gridReport := by
  intro h
  have hzero := h.total2_zero rfl ⟨gridRecord, none⟩ (by simp [gridReport]) rfl
  exact absurd hzero (by decide)

end GhgTool.ReportWorkbook
