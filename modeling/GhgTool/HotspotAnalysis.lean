import Mathlib.Algebra.Order.BigOperators.Group.List
import Mathlib.Tactic.Linarith
import GhgTool.HalfUp
import GhgTool.ScopeTotals

/-!
# The hot-spot report

`hotspot_analysis_service.compute_hotspots`. One query sums Scope 3 by category, computes each share
of the whole and cuts the list; the report then adds up what the cut has left.
-/

namespace GhgTool.HotspotAnalysis

/-! ## The service -/

inductive Priority
  | high | medium | low
  deriving DecidableEq, Repr

def priority (pct : ℚ) : Priority :=
  if 20 < pct then .high
  else if 5 ≤ pct then .medium
  else .low

structure HotspotItem where
  subScope : String
  tco2e : ℚ
  pctOfTotal : ℚ
  priority : Priority

def methodologyNote : String :=
  "Scope 3 hot-spot analysis following GHG Protocol Scope 3 Standard §10 " ++
    "(2011): categories ranked by absolute tCO2e contribution; material " ++
    "categories defined as those contributing the greatest proportion of " ++
    "estimated Scope 3 emissions.  Priority tiers: HIGH > 20%, MEDIUM 5–20%, " ++
    "LOW < 5% of total Scope 3 tCO2e."

structure HotspotReport where
  tenantId : Uuid
  anno : ℕ
  totalS3Tco2e : ℚ
  hotspots : List HotspotItem
  methodologyNote : String

/-- `NoDataForAnnoError`, with what its message names. -/
structure NoDataForAnno where
  tenantId : Uuid
  anno : ℕ

/-- A row of the query; `NULL` is none. -/
structure QueryRow where
  subScope : String
  tco2e : ℚ
  pct : Option ℚ
  deriving DecidableEq

/-- The active Scope 3 rows of a tenant and year. -/
def scope3Rows (t : EmissionsTable) (tenantId : Uuid) (anno : ℕ) : List EmissionRow :=
  (activeRowsOf t tenantId anno).filter fun r => r.scope = .three

def s3Total (t : EmissionsTable) (tenantId : Uuid) (anno : ℕ) : ℚ :=
  sumOf (scope3Rows t tenantId anno)

def perCat (t : EmissionsTable) (tenantId : Uuid) (anno : ℕ) : List (String × ℚ) :=
  groupBy (fun r : EmissionRow => r.subScope.label) EmissionRow.tco2e (scope3Rows t tenantId anno)

/-- `WHERE tco2e > 0`. -/
def positiveCategories (t : EmissionsTable) (tenantId : Uuid) (anno : ℕ) : List (String × ℚ) :=
  (perCat t tenantId anno).filter fun kv => 0 < kv.2

/-- `divide` is the quotient of the database, which is itself rounded. -/
def queryRow (divide : ℚ → ℚ → ℚ) (total : ℚ) (kv : String × ℚ) : QueryRow where
  subScope := kv.1
  tco2e := kv.2
  pct := if total = 0 then none else some (roundHalfUp 2 (divide (100 * kv.2) total))

/-- What the query may answer: categories with equal tonnes come in any order. -/
def Answers (divide : ℚ → ℚ → ℚ) (t : EmissionsTable) (tenantId : Uuid) (anno topN : ℕ)
    (rows : List QueryRow) : Prop :=
  ∃ ordered : List (String × ℚ), ordered.Perm (positiveCategories t tenantId anno) ∧
    ordered.Pairwise (fun a b => b.2 ≤ a.2) ∧
      rows = (ordered.take topN).map (queryRow divide (s3Total t tenantId anno))

def QueryRow.item (row : QueryRow) : HotspotItem where
  subScope := row.subScope
  tco2e := row.tco2e
  pctOfTotal := row.pct.getD 0
  priority := priority (row.pct.getD 0)

/-- The report on the rows of the query. -/
def computeHotspots (t : EmissionsTable) (tenantId : Uuid) (anno : ℕ) (rows : List QueryRow) :
    Except NoDataForAnno HotspotReport :=
  if (activeRowsOf t tenantId anno).length = 0 then .error ⟨tenantId, anno⟩
  else if rows.isEmpty then .ok ⟨tenantId, anno, 0, [], methodologyNote⟩
  else
    let totalTco2e := (rows.map QueryRow.tco2e).sum
    .ok ⟨tenantId, anno, totalTco2e, rows.map QueryRow.item, methodologyNote⟩

/-! ## The total and the shares -/

/-- The total is that of the tenant and year, and the shares are shares of it. -/
structure ReportsWhole (divide : ℚ → ℚ → ℚ) (t : EmissionsTable) (tenantId : Uuid) (anno : ℕ)
    (report : HotspotReport) : Prop where
  total : report.totalS3Tco2e = s3Total t tenantId anno
  shares : ∀ item ∈ report.hotspots,
    item.pctOfTotal = roundHalfUp 2 (divide (100 * item.tco2e) report.totalS3Tco2e)

section Whole

variable {divide : ℚ → ℚ → ℚ} {t : EmissionsTable} {tenantId : Uuid} {anno topN : ℕ}
  {rows : List QueryRow} {report : HotspotReport}

theorem tco2e_nonneg {r : EmissionRow} (h : r ∈ scope3Rows t tenantId anno) : 0 ≤ r.tco2e := by
  have hactive := List.mem_of_mem_filter h
  exact (t.checks r (List.mem_of_mem_filter hactive)).2.1

theorem perCat_nonneg {kv : String × ℚ} (h : kv ∈ perCat t tenantId anno) : 0 ≤ kv.2 := by
  obtain ⟨code, -, rfl⟩ := List.mem_map.mp h
  apply List.sum_nonneg
  intro x hx
  obtain ⟨r, hr, rfl⟩ := List.mem_map.mp hx
  exact tco2e_nonneg (List.mem_of_mem_filter hr)

theorem sum_perCat (t : EmissionsTable) (tenantId : Uuid) (anno : ℕ) :
    ((perCat t tenantId anno).map Prod.snd).sum = s3Total t tenantId anno := by
  unfold perCat groupBy s3Total sumOf
  rw [List.map_map]
  apply sum_groups (nodup_distinctKeys _ _)
  intro r hr
  exact mem_distinctKeys.mpr ⟨r, hr, rfl⟩

/-- The categories left out have no tonnes. -/
theorem sum_positiveCategories (t : EmissionsTable) (tenantId : Uuid) (anno : ℕ) :
    ((positiveCategories t tenantId anno).map Prod.snd).sum = s3Total t tenantId anno := by
  rw [← sum_perCat, positiveCategories, sum_map_filter]
  congr 1
  apply List.map_congr_left
  intro kv hkv
  by_cases h : 0 < kv.2
  · exact if_pos h
  · rw [if_neg h]
    exact le_antisymm (perCat_nonneg hkv) (not_lt.mp h)

/-- What the cut leaves is the whole exactly when the cut leaves everything. -/
theorem sum_take_eq_iff {cats : List (String × ℚ)} (hpos : ∀ kv ∈ cats, 0 < kv.2) (n : ℕ) :
    ((cats.take n).map Prod.snd).sum = (cats.map Prod.snd).sum ↔ cats.length ≤ n := by
  constructor
  · intro h
    by_contra hlong
    have hsplit : (cats.map Prod.snd).sum =
        ((cats.take n).map Prod.snd).sum + ((cats.drop n).map Prod.snd).sum := by
      rw [← List.sum_append, ← List.map_append, List.take_append_drop]
    have hrest : 0 < ((cats.drop n).map Prod.snd).sum := by
      apply List.sum_pos
      · intro x hx
        obtain ⟨kv, hkv, rfl⟩ := List.mem_map.mp hx
        exact hpos kv (List.mem_of_mem_drop hkv)
      · intro hnil
        rw [List.map_eq_nil_iff, List.drop_eq_nil_iff] at hnil
        exact hlong hnil
    linarith
  · intro h
    rw [List.take_of_length_le h]

theorem report_of_answer (h : computeHotspots t tenantId anno rows = .ok report) :
    report.totalS3Tco2e = (rows.map QueryRow.tco2e).sum ∧
      report.hotspots = rows.map QueryRow.item := by
  unfold computeHotspots at h
  split_ifs at h with hcount hempty
  · cases h
    rw [List.isEmpty_iff.mp hempty]
    exact ⟨rfl, rfl⟩
  · cases h
    exact ⟨rfl, rfl⟩

theorem sum_answer {ordered : List (String × ℚ)} (total : ℚ) :
    ((ordered.map (queryRow divide total)).map QueryRow.tco2e).sum =
      (ordered.map Prod.snd).sum := by
  rw [List.map_map]
  rfl

/-- The reported total is that of the tenant and year, with the shares taken of it, exactly when
all categories with emissions fit into the list. -/
theorem reportsWhole_iff (divide : ℚ → ℚ → ℚ) (t : EmissionsTable) (tenantId : Uuid)
    (anno topN : ℕ) (rows : List QueryRow) (report : HotspotReport)
    (hrows : Answers divide t tenantId anno topN rows)
    (hreport : computeHotspots t tenantId anno rows = .ok report) :
    ReportsWhole divide t tenantId anno report ↔
      (positiveCategories t tenantId anno).length ≤ topN := by
  obtain ⟨ordered, hperm, -, rfl⟩ := hrows
  obtain ⟨htotal, hitems⟩ := report_of_answer hreport
  have hpos : ∀ kv ∈ ordered, 0 < kv.2 := by
    intro kv hkv
    exact of_decide_eq_true (List.mem_filter.mp (hperm.mem_iff.mp hkv)).2
  have hsum : (ordered.map Prod.snd).sum = s3Total t tenantId anno := by
    rw [(hperm.map Prod.snd).sum_eq, sum_positiveCategories]
  have hiff : report.totalS3Tco2e = s3Total t tenantId anno ↔
      (positiveCategories t tenantId anno).length ≤ topN := by
    rw [htotal, sum_answer, ← hsum, sum_take_eq_iff hpos, hperm.length_eq]
  rw [← hiff]
  constructor
  · exact ReportsWhole.total
  · intro hwhole
    refine ⟨hwhole, ?_⟩
    intro item hitem
    rw [hitems, List.map_map] at hitem
    obtain ⟨kv, hkv, rfl⟩ := List.mem_map.mp hitem
    have hpositive : 0 < s3Total t tenantId anno := by
      rw [← hsum]
      apply List.sum_pos
      · intro x hx
        obtain ⟨other, hother, rfl⟩ := List.mem_map.mp hx
        exact hpos other hother
      · intro hnil
        rw [List.map_eq_nil_iff] at hnil
        rw [hnil, List.take_nil] at hkv
        cases hkv
    rw [hwhole]
    simp [QueryRow.item, queryRow, hpositive.ne']

end Whole

/-! ## A category that is cut off -/

/-- Sixty tonnes of purchased goods and forty of capital goods. -/
def twoCategories : EmissionsTable where
  rows := [{ gridRow with rawScope := .three, scope := .three, subScope := .cat1, tco2e := 60 },
    { gridRow with id := 2, rawScope := .three, scope := .three, subScope := .cat2, tco2e := 40 }]
  checks := by simp [EmissionRow.Checks, gridRow]
  pk := by simp [gridRow]
  naturalKey := by simp [EmissionRow.NaturalKeyClash, EmissionRow.naturalKey, gridRow]
  exclusion := by simp [EmissionRow.TemporalClash, gridRow]
  supersededFk := by simp [gridRow]

def exactQuotient (a b : ℚ) : ℚ := a / b

/-- What the query answers on them, largest first. -/
def bothCategories : List QueryRow :=
  [⟨"Cat1", 60, some 60⟩, ⟨"Cat2", 40, some 40⟩]

theorem answers_twoCategories (topN : ℕ) :
    Answers exactQuotient twoCategories 1 2024 topN (bothCategories.take topN) := by
  have hrows : bothCategories = [("Cat1", 60), ("Cat2", 40)].map
      (queryRow exactQuotient (s3Total twoCategories 1 2024)) := by
    decide +kernel
  refine ⟨[("Cat1", 60), ("Cat2", 40)], ?_, ?_, ?_⟩
  · decide +kernel
  · simp
    norm_num
  · rw [hrows, List.map_take]

theorem reportsWhole_iff_twoCategories : ∃ report,
    computeHotspots twoCategories 1 2024 (bothCategories.take 2) = .ok report ∧
      (ReportsWhole exactQuotient twoCategories 1 2024 report ↔
        (positiveCategories twoCategories 1 2024).length ≤ 2) :=
  ⟨_, rfl, reportsWhole_iff _ _ _ _ 2 _ _ (answers_twoCategories 2) rfl⟩

/-- The first of the two categories is reported as if it were the whole, at sixty percent of it. -/
theorem capital_goods_left_out : ∃ report,
    Answers exactQuotient twoCategories 1 2024 1 (bothCategories.take 1) ∧
      computeHotspots twoCategories 1 2024 (bothCategories.take 1) = .ok report ∧
      report.totalS3Tco2e = 60 ∧ s3Total twoCategories 1 2024 = 100 ∧
      report.hotspots.map HotspotItem.pctOfTotal = [60] ∧
      ¬ReportsWhole exactQuotient twoCategories 1 2024 report := by
  have htotal : s3Total twoCategories 1 2024 = 100 := by decide +kernel
  refine ⟨_, answers_twoCategories 1, rfl, by decide +kernel, htotal, by decide +kernel, ?_⟩
  intro hwhole
  have hreported := hwhole.total
  rw [htotal] at hreported
  revert hreported
  decide +kernel

end GhgTool.HotspotAnalysis
