import GhgTool.IntensityView
import Mathlib.Data.List.Nodup

/-!
# The KPI feed

`calc.mv_kpi_summary` groups the active rows of the ledger; `GET /kpis` selects the rows of the
caller's tenant, and the Home page sums what it finds in them. The grouping columns are those of the
unique index on active rows, so that every group is one row, and the index that a concurrent refresh
needs is never violated. But the statement of the endpoint leaves its parameters untyped where it asks
whether they are null: a driver that binds them on the server, as `asyncpg` does, has it refused, and
the endpoint answers with its stub.
-/

namespace GhgTool

/-- The columns of `GROUP BY`. -/
structure KpiKey where
  tenantId : Uuid
  regulatoryStream : RegulatoryStream
  gwpSet : GwpSet
  reportingYear : ℕ
  scope : Scope
  subScope : SubScope
  codiceSito : Option String
  deriving DecidableEq

def EmissionRow.kpiKey (r : EmissionRow) : KpiKey :=
  ⟨r.tenantId, r.regulatoryStream, r.gwpSet, r.anno, r.scope, r.subScope, r.codiceSito⟩

structure KpiRow where
  key : KpiKey
  tco2eTotal : ℚ
  co2BiogenicTotal : Option ℚ
  co2FossilTotal : Option ℚ
  rowCount : ℕ
  lastCalcAt : Timestamp
  deriving DecidableEq

/-- `SUM`, which skips nulls and is null on nothing else. -/
def sumNullable (values : List (Option ℚ)) : Option ℚ :=
  if values.all Option.isNone then none else some (values.map (Option.getD · 0)).sum

/-- The row of a group. -/
def kpiRowOf (key : KpiKey) (group : List EmissionRow) : KpiRow where
  key := key
  tco2eTotal := (group.map EmissionRow.tco2e).sum
  co2BiogenicTotal := sumNullable (group.map EmissionRow.co2BiogenicTonne)
  co2FossilTotal := sumNullable (group.map EmissionRow.co2FossilTonne)
  rowCount := group.length
  lastCalcAt := (group.map EmissionRow.calcTimestamp).foldl max 0

/-- The query of `calc.mv_kpi_summary`. -/
def kpiSummary (t : EmissionsTable) : List KpiRow :=
  (distinctKeys EmissionRow.kpiKey (activeEmissions t)).map fun k =>
    kpiRowOf k ((activeEmissions t).filter fun r => r.kpiKey = k)

/-- The columns of `ux_mv_kpi_summary`, which are those of the natural key; a company-wide row counts
as the site `''`. -/
def KpiRow.indexKey (row : KpiRow) : NaturalKey :=
  ⟨row.key.tenantId, row.key.scope, row.key.subScope, row.key.codiceSito.getD "",
    row.key.reportingYear, row.key.regulatoryStream, row.key.gwpSet⟩

/-- `REFRESH MATERIALIZED VIEW CONCURRENTLY`; nothing where the new rows violate the index. -/
def refreshKpiSummary (t : EmissionsTable) : Option (List KpiRow) :=
  if ((kpiSummary t).map KpiRow.indexKey).Nodup then some (kpiSummary t) else none

/-! ## The endpoint -/

/-- A value of a result row. -/
inductive KpiValue
  | null
  | int (n : ℤ)
  | text (s : String)
  | decimal (q : ℚ)
  | uuid (u : Uuid)
  | timestamp (t : Timestamp)
  deriving DecidableEq

/-- `dict(r._mapping)`, in the column order of the view. -/
def KpiRow.mapping (row : KpiRow) : List (String × KpiValue) :=
  [("tenant_id", .uuid row.key.tenantId),
    ("regulatory_stream", .text row.key.regulatoryStream.label),
    ("gwp_set", .text row.key.gwpSet.label),
    ("reporting_year", .int row.key.reportingYear),
    ("scope", .int row.key.scope.number),
    ("sub_scope", .text row.key.subScope.label),
    ("codice_sito", row.key.codiceSito.elim .null .text),
    ("tco2e_total", .decimal row.tco2eTotal),
    ("co2_biogenic_total", row.co2BiogenicTotal.elim .null .decimal),
    ("co2_fossil_total", row.co2FossilTotal.elim .null .decimal),
    ("row_count", .int row.rowCount),
    ("last_calc_at", .timestamp row.lastCalcAt)]

/-- An occurrence of a bind parameter in a statement; its place gives it a type, but that of
`.. IS NULL` does not. -/
structure ParameterUse where
  name : String
  typed : Bool
  deriving DecidableEq

/-- Every occurrence has a type when the statement is parsed from left to right, that of its place or
of an occurrence before it; else PostgreSQL cannot determine the type of the parameter (`42P08`). -/
def parametersTyped (known : List String) : List ParameterUse → Bool
  | [] => true
  | use :: rest =>
      (use.typed || known.contains use.name) && parametersTyped (use.name :: known) rest

/-- `(:gwp IS NULL OR gwp_set = :gwp) AND (:anno IS NULL OR reporting_year = :anno)`. -/
def kpiParameters : List ParameterUse :=
  [⟨"gwp", false⟩, ⟨"gwp", true⟩, ⟨"anno", false⟩, ⟨"anno", true⟩]

/-- How the driver binds parameters: on the server, or by writing them into the statement. -/
inductive ParameterBinding
  | onServer | inText
  deriving DecidableEq, Repr

/-- The rows that the statement of `get_kpis` selects; `none` is a `ProgrammingError`. -/
def executeKpis (binding : ParameterBinding) (view : List KpiRow) (tenantId : Uuid)
    (anno : Option ℕ) (gwpSet : GwpSet) : Option (List KpiRow) :=
  if binding = .onServer ∧ parametersTyped [] kpiParameters = false then none
  else some (view.filter fun row => row.key.tenantId = tenantId ∧ row.key.gwpSet = gwpSet ∧
    (anno = none ∨ anno = some row.key.reportingYear))

structure KpiSummaryResponse where
  kpis : List (List (String × KpiValue))
  gwpSet : GwpSet
  note : Option String := none
  deriving DecidableEq

def getKpis (binding : ParameterBinding) (view : List KpiRow) (tenantId : Uuid)
    (anno : Option ℕ) (gwpSet : GwpSet) : KpiSummaryResponse :=
  match executeKpis binding view tenantId anno gwpSet with
  | some rows => ⟨rows.map KpiRow.mapping, gwpSet, none⟩
  | none => ⟨[], gwpSet, some "calc.v_kpi_summary not yet available — created in wave 3"⟩

/-! ## The consumers -/

/-- `float(row.get(field) or 0.0)`. -/
def floatField (field : String) (row : List (String × KpiValue)) : ℚ :=
  match row.lookup field with
  | some (.decimal q) => q
  | some (.int n) => n
  | _ => 0

structure HomeTotals where
  scope1 : ℚ := 0
  scope2 : ℚ := 0
  scope3 : ℚ := 0
  scope2Mb : ℚ := 0
  biogenic : ℚ := 0
  deriving DecidableEq

/-- One turn of the loop on the Home page, with the field that it takes for the emissions. -/
def HomeTotals.add (field : String) (totals : HomeTotals) (row : List (String × KpiValue)) :
    HomeTotals :=
  let tco2e := floatField field row
  let subScope := row.lookup "sub_scope"
  let totals :=
    match row.lookup "scope" with
    | some (.int 1) => { totals with scope1 := totals.scope1 + tco2e }
    | some (.int 2) =>
        if subScope = some (.text "LB") then { totals with scope2 := totals.scope2 + tco2e }
        else if subScope = some (.text "MB") then
          { totals with scope2Mb := totals.scope2Mb + tco2e }
        else totals
    | some (.int 3) => { totals with scope3 := totals.scope3 + tco2e }
    | _ => totals
  if subScope = some (.text "biogenic") then { totals with biogenic := totals.biogenic + tco2e }
  else totals

def homeTotals (field : String) (kpis : List (List (String × KpiValue))) : HomeTotals :=
  kpis.foldl (HomeTotals.add field) {}

def HomeTotals.totalLb (totals : HomeTotals) : ℚ :=
  totals.scope1 + totals.scope2 + totals.scope3

/-- The page reads the field `tco2e`. -/
def homePage (kpis : List (List (String × KpiValue))) : HomeTotals :=
  homeTotals "tco2e" kpis

/-- Instead of its figures the page asks the user to enter data. -/
def HomeTotals.showsEmptyState (totals : HomeTotals) (kpis : List (List (String × KpiValue))) :
    Prop :=
  kpis = [] ∨ (totals.totalLb ≤ 0 ∧ totals.scope2Mb ≤ 0)

/-! ## One row for each group -/

section Groups

variable {t : EmissionsTable} {r s : EmissionRow}

theorem mem_activeEmissions : r ∈ activeEmissions t ↔ r ∈ t.rows ∧ r.Active := by
  simp [activeEmissions]

theorem naturalKey_of_kpiKey (h : r.kpiKey = s.kpiKey) : r.naturalKey = s.naturalKey := by
  simp only [EmissionRow.kpiKey, KpiKey.mk.injEq] at h
  obtain ⟨htenant, hstream, hgwp, hanno, hscope, hsub, hsite⟩ := h
  simp only [EmissionRow.naturalKey, htenant, hstream, hgwp, hanno, hscope, hsub, hsite]

/-- No two active rows of the ledger have the same natural key. -/
theorem nodup_naturalKey_active (t : EmissionsTable) :
    ((activeEmissions t).map EmissionRow.naturalKey).Nodup := by
  rw [List.Nodup, List.pairwise_map]
  have hpair : (activeEmissions t).Pairwise fun r s => ¬ r.NaturalKeyClash s :=
    t.naturalKey.sublist List.filter_sublist
  refine hpair.imp_of_mem fun {r s} hr hs hclash hkey => hclash ⟨?_, ?_, hkey⟩
  · exact (mem_activeEmissions.mp hr).2
  · exact (mem_activeEmissions.mp hs).2

theorem nodup_kpiKey_active (t : EmissionsTable) :
    ((activeEmissions t).map EmissionRow.kpiKey).Nodup := by
  have hnodup := nodup_naturalKey_active t
  rw [List.Nodup, List.pairwise_map] at hnodup ⊢
  exact hnodup.imp fun hne hkey => hne (naturalKey_of_kpiKey hkey)

/-- The group of an active row holds that row only. -/
theorem filter_kpiKey {rows : List EmissionRow} (hnodup : (rows.map EmissionRow.kpiKey).Nodup)
    (hr : r ∈ rows) : (rows.filter fun s => s.kpiKey = r.kpiKey) = [r] := by
  induction rows with
  | nil => cases hr
  | cons a rows ih =>
      obtain ⟨hnew, hrest⟩ := List.nodup_cons.mp (List.map_cons ▸ hnodup)
      rcases List.mem_cons.mp hr with rfl | hmem
      · have hnone : (rows.filter fun s => s.kpiKey = r.kpiKey) = [] := by
          refine List.filter_eq_nil_iff.mpr fun s hs => ?_
          simpa using fun h : s.kpiKey = r.kpiKey => hnew (h ▸ List.mem_map_of_mem hs)
        rw [List.filter_cons_of_pos (by simp), hnone]
      · have hne : a.kpiKey ≠ r.kpiKey := fun h => hnew (h ▸ List.mem_map_of_mem hmem)
        rw [List.filter_cons_of_neg (by simpa using hne), ih hrest hmem]

/-- The row of the view for one row of the ledger. -/
def EmissionRow.kpiRow (r : EmissionRow) : KpiRow :=
  ⟨r.kpiKey, r.tco2e, r.co2BiogenicTonne, r.co2FossilTonne, 1, r.calcTimestamp⟩

theorem sumNullable_singleton (q : Option ℚ) : sumNullable [q] = q := by
  cases q <;> simp [sumNullable]

theorem kpiRowOf_singleton (r : EmissionRow) : kpiRowOf r.kpiKey [r] = r.kpiRow := by
  simp [kpiRowOf, EmissionRow.kpiRow, sumNullable_singleton]

theorem kpiSummary_eq (t : EmissionsTable) :
    kpiSummary t = (activeEmissions t).map EmissionRow.kpiRow := by
  unfold kpiSummary distinctKeys
  rw [(nodup_kpiKey_active t).dedup, List.map_map]
  refine List.map_congr_left fun r hr => ?_
  rw [Function.comp_apply, filter_kpiKey (nodup_kpiKey_active t) hr, kpiRowOf_singleton]

theorem nodup_indexKey (t : EmissionsTable) : ((kpiSummary t).map KpiRow.indexKey).Nodup := by
  rw [kpiSummary_eq, List.map_map]
  exact nodup_naturalKey_active t

/-- The active rows of the tenant that a caller asks for. -/
def feedRows (t : EmissionsTable) (tenantId : Uuid) (anno : Option ℕ) (gwpSet : GwpSet) :
    List EmissionRow :=
  (activeEmissions t).filter fun r => r.tenantId = tenantId ∧ r.gwpSet = gwpSet ∧
    (anno = none ∨ anno = some r.anno)

theorem refreshKpiSummary_eq (t : EmissionsTable) :
    refreshKpiSummary t = some ((activeEmissions t).map EmissionRow.kpiRow) := by
  rw [refreshKpiSummary, if_pos (nodup_indexKey t), kpiSummary_eq]

theorem getKpis_inText (t : EmissionsTable) (tenantId : Uuid) (anno : Option ℕ)
    (gwpSet : GwpSet) :
    getKpis .inText ((activeEmissions t).map EmissionRow.kpiRow) tenantId anno gwpSet =
      ⟨((feedRows t tenantId anno gwpSet).map EmissionRow.kpiRow).map KpiRow.mapping, gwpSet,
        none⟩ := by
  rw [getKpis, executeKpis, if_neg fun h => ParameterBinding.noConfusion h.1, List.filter_map]
  rfl

end Groups

/-! ## What the pages show -/

section Pages

variable {t : EmissionsTable} {row : KpiRow} {rows : List EmissionRow}

theorem mapping_scope (row : KpiRow) :
    row.mapping.lookup "scope" = some (.int row.key.scope.number) := by
  simp [KpiRow.mapping, List.lookup_cons]

theorem mapping_subScope (row : KpiRow) :
    row.mapping.lookup "sub_scope" = some (.text row.key.subScope.label) := by
  simp [KpiRow.mapping, List.lookup_cons]

/-- The view has no column of the name that the page reads. -/
theorem floatField_tco2e (row : KpiRow) : floatField "tco2e" row.mapping = 0 := by
  simp [floatField, KpiRow.mapping, List.lookup_cons]

theorem floatField_tco2eTotal (row : KpiRow) :
    floatField "tco2e_total" row.mapping = row.tco2eTotal := by
  simp [floatField, KpiRow.mapping, List.lookup_cons]

theorem add_tco2e (row : KpiRow) (totals : HomeTotals) :
    totals.add "tco2e" row.mapping = totals := by
  simp only [HomeTotals.add, mapping_scope, mapping_subScope, floatField_tco2e, add_zero]
  cases row.key.scope <;> simp [Scope.number]

theorem homePage_eq (rows : List KpiRow) : homePage (rows.map KpiRow.mapping) = {} := by
  unfold homePage homeTotals
  suffices h : ∀ totals : HomeTotals,
      (rows.map KpiRow.mapping).foldl (HomeTotals.add "tco2e") totals = totals from h {}
  induction rows with
  | nil => exact fun _ => rfl
  | cons row rows ih =>
      intro totals
      rw [List.map_cons, List.foldl_cons, add_tco2e]
      exact ih totals

/-- What the active rows of the ledger amount to, in the figures of the page. -/
def ledgerTotals (rows : List EmissionRow) : HomeTotals where
  scope1 := sumOf (rows.filter fun r => r.scope = .one)
  scope2 := sumOf (rows.filter fun r => r.scope = .two ∧ r.subScope = .lb)
  scope3 := sumOf (rows.filter fun r => r.scope = .three)
  scope2Mb := sumOf (rows.filter fun r => r.scope = .two ∧ r.subScope = .mb)

theorem add_kpiRow (r : EmissionRow) (totals : HomeTotals) :
    totals.add "tco2e_total" r.kpiRow.mapping =
      { scope1 := totals.scope1 + if r.scope = .one then r.tco2e else 0
        scope2 := totals.scope2 + if r.scope = .two ∧ r.subScope = .lb then r.tco2e else 0
        scope3 := totals.scope3 + if r.scope = .three then r.tco2e else 0
        scope2Mb := totals.scope2Mb + if r.scope = .two ∧ r.subScope = .mb then r.tco2e else 0
        biogenic := totals.biogenic } := by
  obtain ⟨hlb, hmb, hbiogenic⟩ := SubScope.label_eq_iff r.subScope
  have hscope : r.kpiRow.key.scope = r.scope := rfl
  have hsub : r.kpiRow.key.subScope = r.subScope := rfl
  have htotal : r.kpiRow.tco2eTotal = r.tco2e := rfl
  simp only [HomeTotals.add, mapping_scope, mapping_subScope, floatField_tco2eTotal, hscope, hsub,
    htotal, Option.some.injEq, KpiValue.text.injEq, hlb, hmb, hbiogenic, if_false]
  cases r.scope
  case one => simp [Scope.number]
  case three => simp [Scope.number]
  case two =>
    by_cases hl : r.subScope = .lb
    · simp [Scope.number, hl]
    · by_cases hm : r.subScope = .mb
      · simp [Scope.number, hm]
      · simp [Scope.number, hl, hm]

theorem homeTotals_total (rows : List EmissionRow) :
    homeTotals "tco2e_total" ((rows.map EmissionRow.kpiRow).map KpiRow.mapping) =
      ledgerTotals rows := by
  unfold homeTotals
  suffices h : ∀ totals : HomeTotals,
      ((rows.map EmissionRow.kpiRow).map KpiRow.mapping).foldl (HomeTotals.add "tco2e_total")
          totals =
        { scope1 := totals.scope1 + (ledgerTotals rows).scope1
          scope2 := totals.scope2 + (ledgerTotals rows).scope2
          scope3 := totals.scope3 + (ledgerTotals rows).scope3
          scope2Mb := totals.scope2Mb + (ledgerTotals rows).scope2Mb
          biogenic := totals.biogenic } by
    refine (h {}).trans ?_
    simp [ledgerTotals]
  induction rows with
  | nil =>
      intro totals
      simp [ledgerTotals, sumOf]
  | cons r rows ih =>
      intro totals
      rw [List.map_cons, List.map_cons, List.foldl_cons, ih, add_kpiRow]
      simp only [ledgerTotals, sumOf_filter, List.map_cons, List.sum_cons, add_assoc]

end Pages

end GhgTool
