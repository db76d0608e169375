import GhgTool.Dict
import GhgTool.LedgerTrigger
import GhgTool.Pagination
import GhgTool.ReportWorkbook
import GhgTool.ScopeTotals

/-!
# The report and the workbook

The PDF report and the Excel workbook are built from the same rows. The report pairs the two figures
of scope 2 under site and year, where a later row takes the place of an earlier one; the workbook adds
the rows up.
-/

namespace GhgTool

inductive ReportLanguage
  | it | en
  deriving DecidableEq, Repr

/-- `report_data`, as far as the figures go. -/
structure ReportData where
  anno : ℕ
  gwpSet : GwpSet
  language : ReportLanguage
  emissions : List EmissionRow
  biogenic : List EmissionRow

/-! ## Fetching -/

def emissionsPageSize : ℕ := 500

theorem emissionsPageSize_range : 1 ≤ emissionsPageSize ∧ emissionsPageSize ≤ 500 :=
  ⟨Nat.le_of_ble_eq_true rfl, le_rfl⟩

def reportFilter (anno : ℕ) (gwpSet : GwpSet) : EmissionFilter where
  anno := some anno
  gwpSet := some gwpSet
  limit := emissionsPageSize
  limit_range := emissionsPageSize_range

/-- `load_report_data`; a request that fails counts as an empty answer. -/
def loadReportData (anno : ℕ) (gwpSet : GwpSet) (language : ReportLanguage)
    (answer : Option (CursorPage EmissionRow)) : ReportData where
  anno := anno
  gwpSet := gwpSet
  language := language
  emissions := answer.elim [] CursorPage.items
  biogenic := (answer.elim [] CursorPage.items).filter fun r => 0 < r.co2BiogenicTonne.getD 0

/-! ## The report -/

/-- A record of `_build_scope2_pairs`; its `sub_scope` is always `LB+MB`. -/
structure Scope2Record where
  codiceSito : Option String
  anno : ℕ
  factorSource : String
  factorVersion : String
  gwpSet : GwpSet
  tco2eLb : Option ℚ := none
  tco2eMb : Option ℚ := none

def EmissionRow.siteYear (r : EmissionRow) : Option String × ℕ := (r.codiceSito, r.anno)

/-- `rec.setdefault(..)` for the columns of the first row of the pair. -/
def Scope2Record.ofRow (r : EmissionRow) : Scope2Record where
  codiceSito := r.codiceSito
  anno := r.anno
  factorSource := r.factorSource
  factorVersion := r.factorVersion
  gwpSet := r.gwpSet

/-- One turn of the loop, on the record found under the key of the row. -/
def Scope2Record.add (r : EmissionRow) (found : Option Scope2Record) : Scope2Record :=
  let pair := found.getD (.ofRow r)
  match r.subScope with
  | .lb => { pair with tco2eLb := some r.tco2e }
  | .mb => { pair with tco2eMb := some r.tco2e }
  | _ => pair

def scope2Pairs (rows : List EmissionRow) : Dict (Option String × ℕ) Scope2Record :=
  rows.foldl (fun d r => d.upsert r.siteYear (Scope2Record.add r)) .empty

def buildScope2Pairs (rows : List EmissionRow) : List Scope2Record :=
  (scope2Pairs rows).entries.map Prod.snd

/-- `float(value)`, which takes no `None`. -/
def floatOf : Option ℚ → Except PyError ℚ
  | some q => .ok q
  | none => .error .typeError

/-- The figures among the variables of the template. -/
structure TemplateCtx where
  anno : ℕ
  gwpSet : GwpSet
  language : ReportLanguage
  scope1Rows : List EmissionRow
  scope2Rows : List Scope2Record
  scope3Rows : List EmissionRow
  biogenicRows : List EmissionRow
  scope1Total : ℚ
  scope2LbTotal : ℚ
  scope2MbTotal : ℚ
  scope3Total : ℚ
  biogenicTotalCo2 : ℚ
  biogenicTotalFossil : ℚ
  hasViano : Bool

/-- What `PDFBuilder.build` computes before it renders. -/
def templateCtx (data : ReportData) : Except PyError TemplateCtx := do
  let scope1Rows := data.emissions.filter fun r => r.scope = .one
  let scope2Rows := buildScope2Pairs (data.emissions.filter fun r => r.scope = .two)
  let scope3Rows := data.emissions.filter fun r => r.scope = .three
  let biogenicCo2 ← data.biogenic.mapM fun r => floatOf r.co2BiogenicTonne
  let biogenicFossil ← data.biogenic.mapM fun r => floatOf r.co2FossilTonne
  return {
    anno := data.anno
    gwpSet := data.gwpSet
    language := data.language
    scope1Rows := scope1Rows
    scope2Rows := scope2Rows
    scope3Rows := scope3Rows
    biogenicRows := data.biogenic
    scope1Total := sumOf scope1Rows
    scope2LbTotal := (scope2Rows.map fun pair => pair.tco2eLb.getD 0).sum
    scope2MbTotal := (scope2Rows.map fun pair => pair.tco2eMb.getD 0).sum
    scope3Total := sumOf scope3Rows
    biogenicTotalCo2 := biogenicCo2.sum
    biogenicTotalFossil := biogenicFossil.sum
    hasViano := data.emissions.any fun r =>
      r.codiceSito = some "VIANO" ∨ r.codiceSito = some "VIANO_GARGOLA" }

/-! ## The pairs -/

section Pairs

variable {rows : List EmissionRow} {r : EmissionRow} {field : Scope2Record → Option ℚ}
  {subScope : SubScope}

theorem scope2Pairs_concat : scope2Pairs (rows ++ [r]) =
    (scope2Pairs rows).upsert r.siteYear (Scope2Record.add r) := by
  simp [scope2Pairs, List.foldl_append]

theorem mem_keys_scope2Pairs {k : Option String × ℕ} :
    k ∈ (scope2Pairs rows).keys ↔ k ∈ rows.map EmissionRow.siteYear := by
  induction rows using List.reverseRecOn with
  | nil => simp [scope2Pairs, Dict.empty, Dict.keys]
  | append_singleton rows r ih =>
      rw [scope2Pairs_concat, Dict.mem_keys_upsert, ih, List.map_append, List.mem_append,
        List.map_singleton, List.mem_singleton]
      exact or_comm

/-- The rows write a figure of the pairs when those of one sub-scope set it and no other does. -/
def WritesFigure (field : Scope2Record → Option ℚ) (subScope : SubScope) : Prop :=
  ∀ r found, field (Scope2Record.add r found) =
    if r.subScope = subScope then some r.tco2e else found.bind field

theorem writes_lb : WritesFigure Scope2Record.tco2eLb .lb := by
  intro r found
  unfold Scope2Record.add
  cases r.subScope <;> cases found <;> simp [Scope2Record.ofRow]

theorem writes_mb : WritesFigure Scope2Record.tco2eMb .mb := by
  intro r found
  unfold Scope2Record.add
  cases r.subScope <;> cases found <;> simp [Scope2Record.ofRow]

theorem field_scope2Pairs (hwrites : WritesFigure field subScope) (k : Option String × ℕ) :
    ((scope2Pairs rows).get? k).bind field =
      ((Dict.indexBy EmissionRow.siteYear (rows.filter fun r => r.subScope = subScope)).get? k).map
        EmissionRow.tco2e := by
  induction rows using List.reverseRecOn with
  | nil => simp [scope2Pairs, Dict.indexBy, Dict.empty, Dict.get?]
  | append_singleton rows r ih =>
      rw [scope2Pairs_concat, Dict.get?_upsert, List.filter_append]
      by_cases hsub : r.subScope = subScope
      · rw [List.filter_singleton, decide_eq_true hsub, cond_true, Dict.indexBy_concat,
          Dict.get?_set]
        by_cases hkey : r.siteYear = k
        · rw [if_pos hkey, if_pos hkey, Option.bind_some, hwrites, if_pos hsub, Option.map_some]
        · rw [if_neg hkey, if_neg hkey, ih]
      · rw [List.filter_singleton, decide_eq_false hsub, cond_false, List.append_nil]
        by_cases hkey : r.siteYear = k
        · rw [if_pos hkey, Option.bind_some, hwrites, if_neg hsub, hkey, ih]
        · rw [if_neg hkey, ih]

theorem sum_scope2Pairs (rows : List EmissionRow) (field : Scope2Record → Option ℚ) :
    ((buildScope2Pairs rows).map fun pair => (field pair).getD 0).sum =
      ((scope2Pairs rows).keys.map fun k =>
        (((scope2Pairs rows).get? k).bind field).getD 0).sum := by
  unfold buildScope2Pairs Dict.keys
  rw [List.map_map, List.map_map]
  refine congrArg List.sum (List.map_congr_left fun entry hentry => ?_)
  have hget : (scope2Pairs rows).get? entry.1 = some entry.2 :=
    Dict.get?_eq_some_iff.mpr hentry
  simp [hget]

/-- What the pairs show of a variant, and what the last rows took the place of, is what its rows
amount to. -/
theorem sum_pairs_add_overwritten (hwrites : WritesFigure field subScope) (rows : List EmissionRow) :
    ((buildScope2Pairs rows).map fun pair => (field pair).getD 0).sum +
      sumOf (overwritten EmissionRow.siteYear (rows.filter fun r => r.subScope = subScope)) =
    sumOf (rows.filter fun r => r.subScope = subScope) := by
  have hmem : ∀ k ∈ (rows.filter fun r => r.subScope = subScope).map EmissionRow.siteYear,
      k ∈ (scope2Pairs rows).keys := by
    intro k hk
    obtain ⟨r, hr, rfl⟩ := List.mem_map.mp hk
    exact mem_keys_scope2Pairs.mpr (List.mem_map_of_mem (List.mem_of_mem_filter hr))
  rw [sum_scope2Pairs, sumOf, sumOf,
    ← sum_indexBy EmissionRow.tco2e (scope2Pairs rows).nodup_keys hmem]
  congr 2
  refine List.map_congr_left fun k _ => ?_
  rw [field_scope2Pairs hwrites]
  cases (Dict.indexBy EmissionRow.siteYear (rows.filter fun r => r.subScope = subScope)).get? k <;>
    rfl

end Pairs

/-! ## The workbook -/

/-- A record of the workbook has the scope, the sub-scope and the tonnes of a row, which is all that
the Summary adds up. -/
structure ShowsRow (r : EmissionRow) (record : ReportWorkbook.ReportRecord) : Prop where
  scope : record.scope = r.scope
  subScope : record.subScope = r.subScope
  tco2e : record.tco2e = r.tco2e

namespace ReportWorkbook

section Summary

variable {rows : List EmissionRow} {emissions : List ReportRecord}

theorem variants_add (t : SummaryTotals) (r : ReportRecord) :
    (t.add r).scope2Lb = t.scope2Lb +
        (if r.scope = .two ∧ r.subScope = .lb then r.tco2e else 0) ∧
      (t.add r).scope2Mb = t.scope2Mb +
        (if r.scope = .two ∧ r.subScope = .mb then r.tco2e else 0) := by
  obtain ⟨hlb, hmb, hbiogenic⟩ := SubScope.label_eq_iff r.subScope
  simp only [SummaryTotals.add, hlb, hmb, hbiogenic, if_false]
  by_cases htwo : r.scope = .two
  · by_cases hl : r.subScope = .lb
    · simp [htwo, hl]
    · by_cases hm : r.subScope = .mb
      · simp [htwo, hm]
      · simp [htwo, hl, hm]
  · simp [htwo]

theorem variants_foldl (t : SummaryTotals) (emissions : List ReportRecord) :
    (emissions.foldl SummaryTotals.add t).scope2Lb = t.scope2Lb +
        (emissions.map fun r => if r.scope = .two ∧ r.subScope = .lb then r.tco2e else 0).sum ∧
      (emissions.foldl SummaryTotals.add t).scope2Mb = t.scope2Mb +
        (emissions.map fun r => if r.scope = .two ∧ r.subScope = .mb then r.tco2e else 0).sum := by
  induction emissions generalizing t with
  | nil => simp
  | cons r emissions ih =>
      obtain ⟨hlb, hmb⟩ := variants_add t r
      obtain ⟨ihlb, ihmb⟩ := ih (t.add r)
      simp only [List.foldl_cons, List.map_cons, List.sum_cons, ← add_assoc]
      exact ⟨hlb ▸ ihlb, hmb ▸ ihmb⟩

theorem sum_shown (hshows : List.Forall₂ ShowsRow rows emissions) (p : Scope → SubScope → Prop)
    [∀ scope subScope, Decidable (p scope subScope)] :
    (emissions.map fun r => if p r.scope r.subScope then r.tco2e else 0).sum =
      sumOf (rows.filter fun r => p r.scope r.subScope) := by
  rw [sumOf_filter]
  induction hshows with
  | nil => rfl
  | cons hrow _ ih =>
      rw [List.map_cons, List.map_cons, List.sum_cons, List.sum_cons, ih, hrow.scope,
        hrow.subScope, hrow.tco2e]

end Summary

end ReportWorkbook

/-- The four figures of the scopes. -/
structure ReportFigures where
  scope1 : ℚ
  scope2Lb : ℚ
  scope2Mb : ℚ
  scope3 : ℚ

/-- What rows amount to. -/
def figuresOf (rows : List EmissionRow) : ReportFigures where
  scope1 := sumOf (rows.filter fun r => r.scope = .one)
  scope2Lb := sumOf (rows.filter fun r => r.scope = .two ∧ r.subScope = .lb)
  scope2Mb := sumOf (rows.filter fun r => r.scope = .two ∧ r.subScope = .mb)
  scope3 := sumOf (rows.filter fun r => r.scope = .three)

theorem entries_of_shows {rows : List EmissionRow} {report : ReportWorkbook.ReportData}
    (hshows : List.Forall₂ ShowsRow rows report.emissions) :
    let entry := (ReportWorkbook.writeSummarySheet report).entry
    entry "Scope 1" "Totale" = some (.number (figuresOf rows).scope1) ∧
      entry "Scope 3" "Totale" = some (.number (figuresOf rows).scope3) ∧
      entry "Scope 2" "Location-Based" = some (.number (figuresOf rows).scope2Lb) ∧
      entry "Scope 2" "Market-Based" = some (.number (figuresOf rows).scope2Mb) := by
  intro entry
  obtain ⟨hlb, hmb⟩ := ReportWorkbook.variants_foldl {} report.emissions
  rw [zero_add] at hlb hmb
  refine ⟨?_, ?_, ?_, ?_⟩
  · refine (ReportWorkbook.entry_total .one report).trans ?_
    rw [ReportWorkbook.sum_shown hshows fun scope _ => scope = .one ∧ Scope.one ≠ .two]
    simp [figuresOf]
  · refine (ReportWorkbook.entry_total .three report).trans ?_
    rw [ReportWorkbook.sum_shown hshows fun scope _ => scope = .three ∧ Scope.three ≠ .two]
    simp [figuresOf]
  · rw [ReportWorkbook.sum_shown hshows fun scope subScope => scope = .two ∧ subScope = .lb] at hlb
    exact congrArg (fun q => some (ReportWorkbook.CellValue.number q)) hlb
  · rw [ReportWorkbook.sum_shown hshows fun scope subScope => scope = .two ∧ subScope = .mb] at hmb
    exact congrArg (fun q => some (ReportWorkbook.CellValue.number q)) hmb

/-! ## On the ledger -/

/-- The report data of a tenant, when the request for the emissions is its call `n`. -/
def reportOf (encodeCursor : Uuid → String) (order : ScanOrder EmissionRow) (n : ℕ)
    (t : EmissionsTable) (tenantId : Uuid) (anno : ℕ) (gwpSet : GwpSet)
    (language : ReportLanguage) : ReportData :=
  loadReportData anno gwpSet language
    (some (listEmissions encodeCursor (order.scan n) t tenantId (reportFilter anno gwpSet)))

/-- The active rows that the report is about. -/
def reportedRows (t : EmissionsTable) (tenantId : Uuid) (anno : ℕ) (gwpSet : GwpSet) :
    List EmissionRow :=
  getActive t tenantId (reportFilter anno gwpSet)

theorem EmissionRow.TemporalClash.symm {r s : EmissionRow} (h : r.TemporalClash s) :
    s.TemporalClash r := by
  obtain ⟨hr, hs, htenant, hsome, hsite, hscope, hsub, hanno, hrs, hsr⟩ := h
  refine ⟨hs, hr, htenant.symm, hsite ▸ hsome, hsite.symm, hscope.symm, hsub.symm, hanno.symm, ?_⟩
  unfold EmissionRow.Overlaps
  rw [max_comm]
  exact ⟨hsr, hrs⟩

/-- Two rows that the constraints of the ledger let stand side by side. -/
def Compatible (r s : EmissionRow) : Prop :=
  ¬ r.TemporalClash s ∧ ¬ r.NaturalKeyClash s

theorem Compatible.symm {r s : EmissionRow} (h : Compatible r s) : Compatible s r :=
  ⟨fun hclash => h.1 hclash.symm, fun ⟨hs, hr, hkey⟩ => h.2 ⟨hr, hs, hkey.symm⟩⟩

/-- The row counts for a site and a year besides `s`, in the other stream and for no site. -/
def TwinOf (s r : EmissionRow) : Prop :=
  r.codiceSito = none ∧ s.codiceSito = none ∧ r.regulatoryStream ≠ s.regulatoryStream

/-- Compatible active rows of one scope, sub-scope, site and year are for no site. -/
theorem twinOf_of_sameKey {r s : EmissionRow} (hr : r.Checks) (hs : s.Checks)
    (hractive : r.Active) (hsactive : s.Active) (htenant : r.tenantId = s.tenantId)
    (hscope : r.scope = s.scope) (hsub : r.subScope = s.subScope) (hgwp : r.gwpSet = s.gwpSet)
    (hkey : r.siteYear = s.siteYear) (hcompatible : Compatible r s) : TwinOf s r := by
  obtain ⟨hsite, hanno⟩ := Prod.mk.inj hkey
  have hnone : r.codiceSito = none := by
    by_contra hsome
    exact hcompatible.1 ⟨hr.2.2.mp hractive, hs.2.2.mp hsactive, htenant,
      Option.isSome_iff_ne_none.mpr hsome, hsite, hscope, hsub, hanno,
      EmissionRow.overlaps_of_active hractive hsactive⟩
  refine ⟨hnone, hsite ▸ hnone, fun hstream => hcompatible.2 ⟨hractive, hsactive, ?_⟩⟩
  simp only [EmissionRow.naturalKey, htenant, hscope, hsub, hsite, hanno, hstream, hgwp]

section Ledger

variable (encodeCursor : Uuid → String) (order : ScanOrder EmissionRow) (n : ℕ)
  (t : EmissionsTable) (tenantId : Uuid) (anno : ℕ) (gwpSet : GwpSet) (language : ReportLanguage)

theorem emissions_reportOf :
    (reportOf encodeCursor order n t tenantId anno gwpSet language).emissions =
      (order.scan n (reportedRows t tenantId anno gwpSet)).take emissionsPageSize :=
  rfl

theorem matches_of_mem_reportOf {r : EmissionRow}
    (hr : r ∈ (reportOf encodeCursor order n t tenantId anno gwpSet language).emissions) :
    r ∈ t.rows ∧ r.Active ∧ r.tenantId = tenantId ∧ r.gwpSet = gwpSet := by
  rw [emissions_reportOf] at hr
  have hrow := (order.perm n _).mem_iff.mp (List.mem_of_mem_take hr)
  obtain ⟨hmem, hmatch⟩ := List.mem_filter.mp hrow
  obtain ⟨htenant, hactive, _, _, _, _, hgwp, _⟩ :
      (reportFilter anno gwpSet).Matches tenantId r := of_decide_eq_true hmatch
  exact ⟨hmem, hactive, htenant, hgwp gwpSet rfl⟩

theorem pairwise_reportOf :
    (reportOf encodeCursor order n t tenantId anno gwpSet language).emissions.Pairwise
      Compatible := by
  rw [emissions_reportOf]
  have hrows : (reportedRows t tenantId anno gwpSet).Pairwise Compatible :=
    (t.exclusion.and t.naturalKey).sublist List.filter_sublist
  exact ((order.perm n _).symm.pairwise hrows Compatible.symm).sublist (List.take_sublist _ _)

/-- The rows of a variant that a later row of its site and year takes the place of. -/
def displacedRows (subScope : SubScope) (data : ReportData) : List EmissionRow :=
  overwritten EmissionRow.siteYear
    ((data.emissions.filter fun r => r.scope = .two).filter fun r => r.subScope = subScope)

theorem mem_emissions_of_displaced {subScope : SubScope} {data : ReportData} {r : EmissionRow}
    (hr : r ∈ displacedRows subScope data) : r ∈ data.emissions := by
  have hpair : ∀ rows : List EmissionRow, rows.Pairwise fun _ _ => True :=
    fun rows => List.pairwise_of_forall fun _ _ => trivial
  exact List.mem_of_mem_filter
    (List.mem_of_mem_filter (exists_of_mem_overwritten (hpair _) hr).1)

theorem twinOf_of_displaced {subScope : SubScope} {r : EmissionRow}
    (hr : r ∈ displacedRows subScope
      (reportOf encodeCursor order n t tenantId anno gwpSet language)) :
    ∃ s ∈ (reportOf encodeCursor order n t tenantId anno gwpSet language).emissions,
      TwinOf s r := by
  have hpair := pairwise_reportOf encodeCursor order n t tenantId anno gwpSet language
  obtain ⟨hr, s, hs, hkey, hcompatible⟩ := exists_of_mem_overwritten
    ((hpair.sublist List.filter_sublist).sublist List.filter_sublist) hr
  obtain ⟨hr, hrsub⟩ := List.mem_filter.mp hr
  obtain ⟨hs, hssub⟩ := List.mem_filter.mp hs
  obtain ⟨hr, hrscope⟩ := List.mem_filter.mp hr
  obtain ⟨hs, hsscope⟩ := List.mem_filter.mp hs
  simp only [decide_eq_true_eq] at hrsub hssub hrscope hsscope
  obtain ⟨hrmem, hractive, hrtenant, hrgwp⟩ :=
    matches_of_mem_reportOf encodeCursor order n t tenantId anno gwpSet language hr
  obtain ⟨hsmem, hsactive, hstenant, hsgwp⟩ :=
    matches_of_mem_reportOf encodeCursor order n t tenantId anno gwpSet language hs
  exact ⟨s, hs, twinOf_of_sameKey (t.checks r hrmem) (t.checks s hsmem) hractive hsactive
    (hrtenant.trans hstenant.symm) (hrscope.trans hsscope.symm) (hrsub.trans hssub.symm)
    (hrgwp.trans hsgwp.symm) hkey hcompatible⟩

theorem totals_of_templateCtx {data : ReportData} {ctx : TemplateCtx}
    (h : templateCtx data = .ok ctx) :
    ctx.scope1Total = (figuresOf data.emissions).scope1 ∧
      ctx.scope3Total = (figuresOf data.emissions).scope3 ∧
      ctx.scope2LbTotal + sumOf (displacedRows .lb data) = (figuresOf data.emissions).scope2Lb ∧
      ctx.scope2MbTotal + sumOf (displacedRows .mb data) =
        (figuresOf data.emissions).scope2Mb := by
  unfold templateCtx at h
  cases hco2 : data.biogenic.mapM fun r => floatOf r.co2BiogenicTonne with
  | error e =>
      simp only [hco2] at h
      cases h
  | ok co2 =>
      cases hfossil : data.biogenic.mapM fun r => floatOf r.co2FossilTonne with
      | error e =>
          simp only [hco2, hfossil] at h
          cases h
      | ok fossil =>
          simp only [hco2, hfossil] at h
          cases h
          have hlb := sum_pairs_add_overwritten writes_lb
            (data.emissions.filter fun r => r.scope = .two)
          have hmb := sum_pairs_add_overwritten writes_mb
            (data.emissions.filter fun r => r.scope = .two)
          refine ⟨rfl, rfl, hlb.trans ?_, hmb.trans ?_⟩
          · simp [figuresOf, List.filter_filter, Bool.and_comm]
          · simp [figuresOf, List.filter_filter, Bool.and_comm]

/-- The report and a workbook of the same rows agree on scopes 1 and 3; on scope 2 the report is short
of the workbook by rows of no site whose place a row of the other stream takes. -/
theorem report_and_workbook {ctx : TemplateCtx} {report : ReportWorkbook.ReportData}
    (h : templateCtx (reportOf encodeCursor order n t tenantId anno gwpSet language) = .ok ctx)
    (hshows : List.Forall₂ ShowsRow
      (reportOf encodeCursor order n t tenantId anno gwpSet language).emissions report.emissions) :
    let data := reportOf encodeCursor order n t tenantId anno gwpSet language
    let entry := (ReportWorkbook.writeSummarySheet report).entry
    entry "Scope 1" "Totale" = some (.number ctx.scope1Total) ∧
      entry "Scope 3" "Totale" = some (.number ctx.scope3Total) ∧
      entry "Scope 2" "Location-Based" =
        some (.number (ctx.scope2LbTotal + sumOf (displacedRows .lb data))) ∧
      entry "Scope 2" "Market-Based" =
        some (.number (ctx.scope2MbTotal + sumOf (displacedRows .mb data))) ∧
      ∀ r ∈ displacedRows .lb data ++ displacedRows .mb data, ∃ s ∈ data.emissions, TwinOf s r := by
  intro data entry
  obtain ⟨hone, hthree, hlb, hmb⟩ := totals_of_templateCtx h
  obtain ⟨hentry1, hentry3, hentryLb, hentryMb⟩ := entries_of_shows hshows
  refine ⟨hone ▸ hentry1, hthree ▸ hentry3, hlb ▸ hentryLb, hmb ▸ hentryMb, fun r hr => ?_⟩
  rcases List.mem_append.mp hr with hr | hr
  · exact twinOf_of_displaced encodeCursor order n t tenantId anno gwpSet language hr
  · exact twinOf_of_displaced encodeCursor order n t tenantId anno gwpSet language hr

/-- Grid electricity of no site: ten tonnes in the one stream and ten in the other. -/
def twoStreamTable : EmissionsTable where
  rows := [{ gridRow with codiceSito := none },
    { gridRow with id := 2, codiceSito := none, regulatoryStream := .euEtsPhaseIv }]
  checks := by simp [EmissionRow.Checks, gridRow]
  pk := by simp [gridRow]
  naturalKey := by simp [EmissionRow.NaturalKeyClash, EmissionRow.naturalKey, gridRow]
  exclusion := by simp [EmissionRow.TemporalClash, gridRow]
  supersededFk := by simp [gridRow]

def insertionOrder : ScanOrder EmissionRow := ⟨fun _ rows => rows, fun _ _ => .refl _⟩

/-- The two rows, as a workbook shows them. -/
def twoStreamWorkbook : ReportWorkbook.ReportData :=
  ⟨some 2024, none, [⟨{ gridRecord with codiceSito := none }, none⟩,
    ⟨{ gridRecord with codiceSito := none, regulatoryStream := .euEtsPhaseIv }, none⟩], []⟩

/-- The report shows ten of the twenty tonnes of the workbook. -/
theorem report_and_workbook_of_two_streams :
    let data := reportOf (fun _ => "") insertionOrder 0 twoStreamTable 1 2024 .ar6 .it
    let entry := (ReportWorkbook.writeSummarySheet twoStreamWorkbook).entry
    (templateCtx data).map TemplateCtx.scope2LbTotal = .ok 10 ∧
      entry "Scope 2" "Location-Based" = some (.number 20) ∧
      ∃ ctx, templateCtx data = .ok ctx ∧ entry "Scope 2" "Location-Based" =
        some (.number (ctx.scope2LbTotal + sumOf (displacedRows .lb data))) := by
  intro data entry
  have htotal : (templateCtx data).map TemplateCtx.scope2LbTotal = .ok 10 := by decide +kernel
  have hentry : entry "Scope 2" "Location-Based" = some (.number 20) := by decide +kernel
  have hshows : List.Forall₂ ShowsRow data.emissions twoStreamWorkbook.emissions :=
    .cons ⟨rfl, rfl, rfl⟩ (.cons ⟨rfl, rfl, rfl⟩ .nil)
  cases h : templateCtx data with
  | error e =>
      rw [h] at htotal
      cases htotal
  | ok ctx =>
      rw [h] at htotal
      exact ⟨htotal, hentry, ctx, rfl,
        (report_and_workbook _ _ _ _ _ _ _ _ h hshows).2.2.1⟩

/-! ## What the ledger holds -/

theorem figuresOf_perm {rows rows' : List EmissionRow} (h : rows.Perm rows') :
    figuresOf rows = figuresOf rows' := by
  have hsum : ∀ (p : EmissionRow → Prop) [DecidablePred p],
      sumOf (rows.filter p) = sumOf (rows'.filter p) :=
    fun p _ => ((h.filter _).map _).sum_eq
  simp only [figuresOf, hsum]

theorem sumOf_filter_le {rows rows' : List EmissionRow} (hsub : rows.Sublist rows')
    (hnonneg : ∀ r ∈ rows', 0 ≤ r.tco2e) (p : EmissionRow → Prop) [DecidablePred p] :
    sumOf (rows.filter p) ≤ sumOf (rows'.filter p) := by
  refine List.Sublist.sum_le_sum ((hsub.filter _).map _) fun q hq => ?_
  obtain ⟨r, hr, rfl⟩ := List.mem_map.mp hq
  exact hnonneg r (List.mem_of_mem_filter hr)

/-- No figure of the one exceeds that of the other. -/
def ReportFigures.Within (figures ledger : ReportFigures) : Prop :=
  figures.scope1 ≤ ledger.scope1 ∧ figures.scope2Lb ≤ ledger.scope2Lb ∧
    figures.scope2Mb ≤ ledger.scope2Mb ∧ figures.scope3 ≤ ledger.scope3

theorem figuresOf_within {rows rows' : List EmissionRow} (hsub : rows.Sublist rows')
    (hnonneg : ∀ r ∈ rows', 0 ≤ r.tco2e) : (figuresOf rows).Within (figuresOf rows') :=
  ⟨sumOf_filter_le hsub hnonneg _, sumOf_filter_le hsub hnonneg _,
    sumOf_filter_le hsub hnonneg _, sumOf_filter_le hsub hnonneg _⟩

def TemplateCtx.figures (ctx : TemplateCtx) : ReportFigures :=
  ⟨ctx.scope1Total, ctx.scope2LbTotal, ctx.scope2MbTotal, ctx.scope3Total⟩

theorem mapM_floatOf_ok_iff (column : EmissionRow → Option ℚ) (rows : List EmissionRow) :
    (∃ qs, rows.mapM (fun r => floatOf (column r)) = .ok qs) ↔ ∀ r ∈ rows, column r ≠ none := by
  rw [exists_mapM_ok]
  refine forall₂_congr fun r _ => ?_
  cases column r with
  | none => simp [floatOf]
  | some q => simp [floatOf]

/-- The report is built unless a row of the biogenic memo has no fossil figure. -/
theorem templateCtx_ok_iff (data : ReportData)
    (hbiogenic : ∀ r ∈ data.biogenic, r.co2BiogenicTonne ≠ none) :
    (∃ ctx, templateCtx data = .ok ctx) ↔ ∀ r ∈ data.biogenic, r.co2FossilTonne ≠ none := by
  obtain ⟨co2, hco2⟩ := (mapM_floatOf_ok_iff EmissionRow.co2BiogenicTonne data.biogenic).mpr
    hbiogenic
  rw [← mapM_floatOf_ok_iff EmissionRow.co2FossilTonne data.biogenic]
  unfold templateCtx
  simp only [hco2]
  cases hfossil : data.biogenic.mapM fun r => floatOf r.co2FossilTonne with
  | error e => exact ⟨fun ⟨_, h⟩ => (nomatch h), fun ⟨_, h⟩ => (nomatch h)⟩
  | ok fossil => exact ⟨fun _ => ⟨fossil, rfl⟩, fun _ => ⟨_, rfl⟩⟩

theorem nonneg_of_mem_reportedRows {r : EmissionRow}
    (hr : r ∈ reportedRows t tenantId anno gwpSet) : 0 ≤ r.tco2e :=
  (t.checks r (List.mem_of_mem_filter hr)).2.1

theorem mem_reportedRows_of_mem_reportOf {r : EmissionRow}
    (hr : r ∈ (reportOf encodeCursor order n t tenantId anno gwpSet language).emissions) :
    r ∈ reportedRows t tenantId anno gwpSet :=
  (order.perm n _).mem_iff.mp (List.mem_of_mem_take hr)

/-- The report is built exactly where every fetched row with biogenic carbon has a fossil figure. -/
theorem templateCtx_reportOf_ok_iff :
    (∃ ctx, templateCtx (reportOf encodeCursor order n t tenantId anno gwpSet language) = .ok ctx) ↔
      ∀ r ∈ (reportOf encodeCursor order n t tenantId anno gwpSet language).emissions,
        0 < r.co2BiogenicTonne.getD 0 → r.co2FossilTonne ≠ none := by
  rw [templateCtx_ok_iff]
  · change (∀ r ∈ List.filter (fun r : EmissionRow => 0 < r.co2BiogenicTonne.getD 0) _, _) ↔ _
    simp only [List.mem_filter, decide_eq_true_eq, and_imp]
    rfl
  · intro r hr hnone
    have hpos := of_decide_eq_true (List.mem_filter.mp hr).2
    rw [hnone] at hpos
    exact lt_irrefl 0 hpos

theorem figuresOf_fetched_within :
    (figuresOf (reportOf encodeCursor order n t tenantId anno gwpSet language).emissions).Within
      (figuresOf (reportedRows t tenantId anno gwpSet)) := by
  have hperm := order.perm n (reportedRows t tenantId anno gwpSet)
  rw [← figuresOf_perm hperm, emissions_reportOf]
  exact figuresOf_within (List.take_sublist _ _) fun r hr =>
    nonneg_of_mem_reportedRows t tenantId anno gwpSet (hperm.mem_iff.mp hr)

theorem figuresOf_fetched_of_few
    (hfew : (reportedRows t tenantId anno gwpSet).length ≤ emissionsPageSize) :
    figuresOf (reportOf encodeCursor order n t tenantId anno gwpSet language).emissions =
      figuresOf (reportedRows t tenantId anno gwpSet) := by
  have hperm := order.perm n (reportedRows t tenantId anno gwpSet)
  rw [emissions_reportOf, List.take_of_length_le (hperm.length_eq.trans_le hfew),
    figuresOf_perm hperm]

theorem nonneg_of_displaced {subScope : SubScope} {r : EmissionRow}
    (hr : r ∈ displacedRows subScope
      (reportOf encodeCursor order n t tenantId anno gwpSet language)) : 0 ≤ r.tco2e :=
  nonneg_of_mem_reportedRows t tenantId anno gwpSet
    (mem_reportedRows_of_mem_reportOf encodeCursor order n t tenantId anno gwpSet language
      (mem_emissions_of_displaced hr))

theorem sumOf_displaced_eq_zero_iff (subScope : SubScope) :
    sumOf (displacedRows subScope
        (reportOf encodeCursor order n t tenantId anno gwpSet language)) = 0 ↔
      ∀ r ∈ displacedRows subScope
        (reportOf encodeCursor order n t tenantId anno gwpSet language), r.tco2e = 0 := by
  have hnonneg : ∀ r ∈ displacedRows subScope
      (reportOf encodeCursor order n t tenantId anno gwpSet language), 0 ≤ r.tco2e :=
    fun _ hr => nonneg_of_displaced encodeCursor order n t tenantId anno gwpSet language hr
  have hiff := sumOf_filter_eq_zero hnonneg fun _ => True
  simpa using hiff

/-- The report can be built exactly where every row with biogenic carbon has a fossil figure. It then
gives no more than what the active rows of the ledger amount to, and where these fit on one page, it
gives that exactly if the rows that it leaves out of the pairs are zero. -/
theorem report_of_ledger :
    ((∃ ctx,
        templateCtx (reportOf encodeCursor order n t tenantId anno gwpSet language) = .ok ctx) ↔
      ∀ r ∈ (reportOf encodeCursor order n t tenantId anno gwpSet language).emissions,
        0 < r.co2BiogenicTonne.getD 0 → r.co2FossilTonne ≠ none) ∧
    ∀ ctx, templateCtx (reportOf encodeCursor order n t tenantId anno gwpSet language) = .ok ctx →
      let data := reportOf encodeCursor order n t tenantId anno gwpSet language
      let rows := reportedRows t tenantId anno gwpSet
      ctx.figures.Within (figuresOf rows) ∧
        (rows.length ≤ emissionsPageSize → (ctx.figures = figuresOf rows ↔
          ∀ r ∈ displacedRows .lb data ++ displacedRows .mb data, r.tco2e = 0)) := by
  refine ⟨templateCtx_reportOf_ok_iff encodeCursor order n t tenantId anno gwpSet language,
    fun ctx h => ?_⟩
  intro data rows
  obtain ⟨hone, hthree, hlb, hmb⟩ := totals_of_templateCtx h
  obtain ⟨hle1, hleLb, hleMb, hle3⟩ :=
    figuresOf_fetched_within encodeCursor order n t tenantId anno gwpSet language
  have hsum : ∀ subScope, 0 ≤ sumOf (displacedRows subScope data) := fun _ =>
    List.sum_nonneg (List.forall_mem_map.mpr fun _ hr =>
      nonneg_of_displaced encodeCursor order n t tenantId anno gwpSet language hr)
  refine ⟨⟨hone.trans_le hle1, ?_, ?_, hthree.trans_le hle3⟩, fun hfew => ?_⟩
  · exact (le_add_of_nonneg_right (hsum .lb)).trans (hlb.trans_le hleLb)
  · exact (le_add_of_nonneg_right (hsum .mb)).trans (hmb.trans_le hleMb)
  · have hzero := sumOf_displaced_eq_zero_iff encodeCursor order n t tenantId anno gwpSet language
    rw [List.forall_mem_append, ← hzero, ← hzero,
      ← figuresOf_fetched_of_few encodeCursor order n t tenantId anno gwpSet language hfew]
    constructor
    · intro hfigures
      rw [← hfigures] at hlb hmb
      exact ⟨left_eq_add.mp hlb.symm, left_eq_add.mp hmb.symm⟩
    · rintro ⟨hlb0, hmb0⟩
      rw [hlb0, add_zero] at hlb
      rw [hmb0, add_zero] at hmb
      rw [TemplateCtx.figures, hone, hthree, hlb, hmb]

end Ledger

end GhgTool
