import Mathlib.Data.List.Count
import GhgTool.DualTrack
import GhgTool.RunPlan

/-!
# Which rows a run accounts for

Every module filters the rows on a column of its own and skips what it does not know; nothing
compares the filters with each other. A successful run accounts for its rows exactly when the
filters happen to part them.
-/

namespace GhgTool

/-- The sub-scope that reports the rows of a Scope 3 category. -/
def reportedSubScope : ℕ → Option SubScope
  | 1 => some .cat1
  | 2 => some .cat2
  | 4 => some .cat4
  | 5 => some .cat5
  | 6 => some .cat6
  | 7 => some .cat7
  | 9 => some .cat9
  | 12 => some .cat12
  | _ => none

/-- The filters of the modules that read Scope 3 rows. -/
def scope3Handles (row : RawScope3Row) : SubScope → Bool
  | .cat1 => Scope3Cat1PurchasedGoods.handles row
  | .cat2 => Scope3Cat2CapitalGoods.labelModule.handles row
  | .cat4 => Scope3Cat4UpstreamTransport.labelModule.handles row
  | .cat5 => Scope3Cat5Waste.labelModule.handles row
  | .cat6 => Scope3Cat6BusinessTravel.labelModule.handles row
  | .cat7 => Scope3Cat7Commuting.handles row
  | .cat9 => Scope3Cat9DownstreamTransport.labelModule.handles row
  | .cat12 => Scope3Cat12Eol.handles row
  | _ => false

/-- How many records of a sub-scope carry the id of a raw row. -/
def timesRecorded (records : List EmissionRecord) (id : Uuid) (u : SubScope) : ℕ :=
  records.countP fun r => r.rawRowId = some id ∧ r.subScope = u

def FitsScope1 (row : RawScope1Row) : Prop :=
  Scope1Combustion.handles row = true ∨ Scope1Process.handles row = true

def FitsScope3 (row : RawScope3Row) : Prop :=
  ∃ u, scope3Handles row u = true

/-- No row is lost or counted twice, and a row that fits no module has made the run raise. -/
structure RowsAccounted (inputs : CalcRunInputs) (records : List EmissionRecord) : Prop where
  scope1 : ∀ row ∈ inputs.scope1Rows,
    timesRecorded records row.id .combustion + timesRecorded records row.id .process = 1
  scope2 : ∀ row ∈ inputs.scope2Rows,
    timesRecorded records row.id .lb = 1 ∧ timesRecorded records row.id .mb = 1
  scope3 : ∀ row ∈ inputs.scope3Rows, ∀ u ∈ reportedSubScope row.categoriaS3,
    1 ≤ timesRecorded records row.id u
  fits : (∀ row ∈ inputs.scope1Rows, FitsScope1 row) ∧ ∀ row ∈ inputs.scope3Rows, FitsScope3 row

/-- The row ids are keys, exactly one Scope 1 module takes each Scope 1 row, and some module takes
each Scope 3 row. -/
structure FiltersPart (inputs : CalcRunInputs) : Prop where
  scope1_ids : (inputs.scope1Rows.map RawScope1Row.id).Nodup
  scope1 : ∀ row ∈ inputs.scope1Rows,
    Scope1Combustion.handles row ≠ Scope1Process.handles row
  scope2_ids : (inputs.scope2Rows.map RawScope2Row.id).Nodup
  scope3 : ∀ row ∈ inputs.scope3Rows, FitsScope3 row

namespace CalcOrchestrator

variable {catalog : FactorCatalogPort} {gwp : GwpValues} {inputs : CalcRunInputs}
  {records : List EmissionRecord}

theorem timesRecorded_eq (h : run catalog gwp inputs = .ok records) (id : Uuid) (u : SubScope) :
    timesRecorded records id u =
      ((linesOf catalog gwp inputs u).map EmissionArgs.rawRowId).count (some id) := by
  have hkeys : records.map (fun r => (r.rawRowId, r.subScope)) =
      (runArgs catalog gwp inputs).map fun a => (a.rawRowId, a.subScope) := by
    refine map_of_built (fun a r hbuild => ?_) ((run_plan catalog gwp inputs).builds records h)
    have hbuilt := builtFrom_of_makeEmission hbuild
    rw [hbuilt.rawRowId, hbuilt.subScope]
  have hcount : timesRecorded records id u =
      (records.map fun r => (r.rawRowId, r.subScope)).countP fun k => k.1 = some id ∧ k.2 = u := by
    rw [List.countP_map]
    rfl
  rw [hcount, hkeys, List.countP_map, ← filter_runArgs, List.count, List.countP_map,
    List.countP_filter]
  refine List.countP_congr fun a _ => ?_
  simp

end CalcOrchestrator

/-! ## Filters and keys -/

section Filters

variable {α : Type} {rid : α → Uuid} {rows : List α} {b c : α → Bool}

/-- Two filters that leave no row out see every id at least as often as it occurs. -/
theorem count_le_of_covered (rid : α → Uuid) (h : ∀ row ∈ rows, b row = true ∨ c row = true)
    (id : Uuid) :
    (rows.map rid).count id ≤
      ((rows.filter b).map rid).count id + ((rows.filter c).map rid).count id := by
  induction rows with
  | nil => simp
  | cons row rows ih =>
      have hrest := ih fun r hr => h r (List.mem_cons_of_mem _ hr)
      have hrow := h row List.mem_cons_self
      cases hb : b row <;> cases hc : c row <;>
        simp only [hb, hc, Bool.false_eq_true, or_self, List.filter_cons, List.map_cons,
          List.count_cons, if_true, if_false] at hrow ⊢ <;> omega

/-- Under a key a filter sees the id of a row once or not at all. -/
theorem count_filter_of_nodup (hnodup : (rows.map rid).Nodup) {row : α} (hrow : row ∈ rows) :
    ((rows.filter b).map rid).count (rid row) = if b row then 1 else 0 := by
  have hsub : ((rows.filter b).map rid).Nodup := hnodup.sublist (List.filter_sublist.map rid)
  by_cases hb : b row = true
  · rw [if_pos hb]
    exact List.count_eq_one_of_mem hsub (List.mem_map_of_mem (List.mem_filter.mpr ⟨hrow, hb⟩))
  · rw [if_neg hb]
    refine List.count_eq_zero_of_not_mem fun hmem => ?_
    obtain ⟨row', hrow', hid⟩ := List.mem_map.mp hmem
    obtain ⟨hrow', hb'⟩ := List.mem_filter.mp hrow'
    rw [List.inj_on_of_nodup_map hnodup hrow' hrow hid] at hb'
    exact hb hb'

/-- Two filters count every row once exactly when ids are keys and the filters part the rows. -/
theorem counted_once_iff (rid : α → Uuid) (rows : List α) (b c : α → Bool) :
    ((∀ row ∈ rows, ((rows.filter b).map rid).count (rid row) +
          ((rows.filter c).map rid).count (rid row) = 1) ∧
        ∀ row ∈ rows, b row = true ∨ c row = true) ↔
      (rows.map rid).Nodup ∧ ∀ row ∈ rows, b row ≠ c row := by
  constructor
  · rintro ⟨honce, hcovered⟩
    have hnodup : (rows.map rid).Nodup := by
      rw [List.nodup_iff_count_le_one]
      intro id
      by_cases hid : id ∈ rows.map rid
      · obtain ⟨row, hrow, rfl⟩ := List.mem_map.mp hid
        have hle := count_le_of_covered rid hcovered (rid row)
        rw [honce row hrow] at hle
        exact hle
      · rw [List.count_eq_zero_of_not_mem hid]
        exact Nat.zero_le 1
    refine ⟨hnodup, fun row hrow heq => ?_⟩
    have hone := honce row hrow
    rw [count_filter_of_nodup hnodup hrow, count_filter_of_nodup hnodup hrow, heq] at hone
    split_ifs at hone
    · omega
    · omega
  · rintro ⟨hnodup, hpart⟩
    refine ⟨fun row hrow => ?_, fun row hrow => ?_⟩
    · have hne := hpart row hrow
      rw [count_filter_of_nodup hnodup hrow, count_filter_of_nodup hnodup hrow]
      cases hb : b row <;> cases hc : c row <;> simp [hb, hc] at hne ⊢
    · have hne := hpart row hrow
      cases hb : b row <;> cases hc : c row <;> simp [hb, hc] at hne ⊢

end Filters

/-! ## The ids in the lines of a module -/

namespace CalcOrchestrator

variable {catalog : FactorCatalogPort} {gwp : GwpValues} {inputs : CalcRunInputs}
  {records : List EmissionRecord}

theorem count_rawRowId {α : Type} {rowArgs : α → List EmissionArgs} {handles : α → Bool}
    {rid : α → Uuid} (hrow : ∀ row, (rowArgs row).map EmissionArgs.rawRowId =
      if handles row then [some (rid row)] else []) (rows : List α) (id : Uuid) :
    ((rows.flatMap rowArgs).map EmissionArgs.rawRowId).count (some id) =
      ((rows.filter handles).map rid).count id := by
  rw [List.map_flatMap]
  simp only [hrow]
  rw [flatMap_ite_singleton]
  change (List.map (some ∘ rid) _).count (some id) = _
  rw [← List.map_map, List.count_map_of_injective _ _ (Option.some_injective _)]

theorem rawRowId_combustion (row : RawScope1Row) :
    (Scope1Combustion.rowArgs catalog gwp row).map EmissionArgs.rawRowId =
      if Scope1Combustion.handles row then [some row.id] else [] := by
  unfold Scope1Combustion.rowArgs Scope1Combustion.handles
  cases Scope1Combustion.fuelFactorIds.lookup row.combustibile with
  | none => rfl
  | some ids => rfl

theorem rawRowId_process (f : FactorRecord) (row : RawScope1Row) :
    (Scope1Process.rowArgs f gwp row).map EmissionArgs.rawRowId =
      if Scope1Process.handles row then [some row.id] else [] := by
  unfold Scope1Process.rowArgs
  split_ifs <;> rfl

theorem timesRecorded_scope1 (h : run catalog gwp inputs = .ok records) (id : Uuid) :
    timesRecorded records id .combustion + timesRecorded records id .process =
      ((inputs.scope1Rows.filter Scope1Combustion.handles).map RawScope1Row.id).count id +
        ((inputs.scope1Rows.filter Scope1Process.handles).map RawScope1Row.id).count id := by
  rw [timesRecorded_eq h, timesRecorded_eq h]
  exact congrArg₂ (· + ·) (count_rawRowId rawRowId_combustion _ id)
    (count_rawRowId (rawRowId_process _) _ id)

theorem timesRecorded_scope2 (h : run catalog gwp inputs = .ok records) (id : Uuid) {u : SubScope}
    (hu : u = .lb ∨ u = .mb) :
    timesRecorded records id u = (inputs.scope2Rows.map RawScope2Row.id).count id := by
  have hids : (linesOf catalog gwp inputs u).map EmissionArgs.rawRowId =
      (inputs.scope2Rows.map RawScope2Row.id).map some := by
    rw [List.map_map]
    rcases hu with rfl | rfl
    · rw [linesOf, List.map_map]
      rfl
    · rw [linesOf, List.map_map]
      refine List.map_congr_left fun row _ => ?_
      simp only [Function.comp_apply, Scope2Mb.rowArgs]
      split_ifs <;> rfl
  rw [timesRecorded_eq h, hids, List.count_map_of_injective _ _ (Option.some_injective _)]

theorem mem_labelModule_rowArgs {m : LabelModule} {row : RawScope3Row} (h : m.handles row = true) :
    ∃ a ∈ m.rowArgs catalog gwp row, a.rawRowId = some row.id := by
  obtain ⟨hcat, hlabel⟩ := (Bool.and_eq_true _ _).mp h
  obtain ⟨factorId, hid⟩ := Option.isSome_iff_exists.mp hlabel
  have hrow : m.rowId row = some factorId := by
    rw [LabelModule.rowId, if_neg (not_not.mpr (by simpa using hcat)), hid]
  rw [LabelModule.rowArgs, hrow]
  exact ⟨_, List.mem_singleton.mpr rfl, rfl⟩

theorem mem_linesOf_of_handles (catalog : FactorCatalogPort) (gwp : GwpValues) {row : RawScope3Row}
    (hrow : row ∈ inputs.scope3Rows) {u : SubScope} (h : scope3Handles row u = true) :
    ∃ a ∈ linesOf catalog gwp inputs u, a.rawRowId = some row.id := by
  have lift : ∀ {rowArgs : RawScope3Row → List EmissionArgs},
      (∃ a ∈ rowArgs row, a.rawRowId = some row.id) →
        ∃ a ∈ inputs.scope3Rows.flatMap rowArgs, a.rawRowId = some row.id :=
    fun ⟨a, ha, hid⟩ => ⟨a, List.mem_flatMap.mpr ⟨row, hrow, ha⟩, hid⟩
  cases u
  case cat1 =>
    obtain ⟨hcat, hlabel⟩ := (Bool.and_eq_true _ _).mp h
    obtain ⟨factorId, hid⟩ := Option.isSome_iff_exists.mp hlabel
    have hrowId : Scope3Cat1PurchasedGoods.rowId row = some factorId := by
      rw [Scope3Cat1PurchasedGoods.rowId, if_neg (not_not.mpr (by simpa using hcat)), hid]
    refine lift ?_
    rw [Scope3Cat1PurchasedGoods.rowArgs, hrowId]
    exact ⟨_, List.mem_singleton.mpr rfl, rfl⟩
  case cat7 =>
    refine lift ?_
    change Scope3Cat7Commuting.handles row = true at h
    rw [Scope3Cat7Commuting.rowArgs, if_pos h]
    exact ⟨_, List.mem_singleton.mpr rfl, rfl⟩
  case cat12 =>
    refine lift ?_
    change Scope3Cat12Eol.handles row = true at h
    rw [Scope3Cat12Eol.rowArgs, if_pos h]
    exact ⟨_, List.mem_cons_self, rfl⟩
  case cat2 => exact lift (mem_labelModule_rowArgs h)
  case cat4 => exact lift (mem_labelModule_rowArgs h)
  case cat5 => exact lift (mem_labelModule_rowArgs h)
  case cat6 => exact lift (mem_labelModule_rowArgs h)
  case cat9 => exact lift (mem_labelModule_rowArgs h)
  all_goals cases h

/-- A module only takes rows of the category it reports. -/
theorem reportedSubScope_of_handles {row : RawScope3Row} {u : SubScope}
    (h : scope3Handles row u = true) : reportedSubScope row.categoriaS3 = some u := by
  have hcat : ∀ {n : ℕ} {rest : Bool}, (row.categoriaS3 == n && rest) = true →
      row.categoriaS3 = n := by
    intro n rest hand
    exact beq_iff_eq.mp ((Bool.and_eq_true _ _).mp hand).1
  cases u
  case cat12 =>
    rw [show row.categoriaS3 = 12 from beq_iff_eq.mp h]
    rfl
  case cat1 => rw [hcat h]; rfl
  case cat2 => rw [hcat h]; rfl
  case cat4 => rw [hcat h]; rfl
  case cat5 => rw [hcat h]; rfl
  case cat6 => rw [hcat h]; rfl
  case cat7 => rw [hcat h]; rfl
  case cat9 => rw [hcat h]; rfl
  all_goals cases h

/-- A successful run accounts for its rows exactly when the filters of its modules part them. -/
theorem rows_accounted_iff (catalog : FactorCatalogPort) (gwp : GwpValues) (inputs : CalcRunInputs)
    (records : List EmissionRecord) (h : run catalog gwp inputs = .ok records) :
    RowsAccounted inputs records ↔ FiltersPart inputs := by
  have honce := counted_once_iff RawScope1Row.id inputs.scope1Rows Scope1Combustion.handles
    Scope1Process.handles
  simp only [← timesRecorded_scope1 h] at honce
  constructor
  · intro hacc
    obtain ⟨hids, hpart⟩ := honce.mp ⟨hacc.scope1, hacc.fits.1⟩
    refine ⟨hids, hpart, ?_, hacc.fits.2⟩
    rw [List.nodup_iff_count_le_one]
    intro id
    by_cases hid : id ∈ inputs.scope2Rows.map RawScope2Row.id
    · obtain ⟨row, hrow, rfl⟩ := List.mem_map.mp hid
      rw [← timesRecorded_scope2 h row.id (.inl rfl), (hacc.scope2 row hrow).1]
    · rw [List.count_eq_zero_of_not_mem hid]
      exact Nat.zero_le 1
  · intro hpart
    obtain ⟨hcount, hfits⟩ := honce.mpr ⟨hpart.scope1_ids, hpart.scope1⟩
    refine ⟨hcount, fun row hrow => ?_, fun row hrow u hu => ?_, hfits, hpart.scope3⟩
    · have hone := List.count_eq_one_of_mem hpart.scope2_ids (List.mem_map_of_mem hrow)
      rw [timesRecorded_scope2 h row.id (.inl rfl), timesRecorded_scope2 h row.id (.inr rfl), hone]
      exact ⟨rfl, rfl⟩
    · obtain ⟨v, hv⟩ := hpart.scope3 row hrow
      have hsame : v = u := Option.some.inj ((reportedSubScope_of_handles hv).symm.trans hu)
      rw [hsame] at hv
      obtain ⟨a, ha, hid⟩ := mem_linesOf_of_handles catalog gwp hrow hv
      rw [timesRecorded_eq h, List.one_le_count_iff, ← hid]
      exact List.mem_map_of_mem ha

end CalcOrchestrator

/-- A Scope 1 row of the year 2025. -/
def scope1Row (id : Uuid) (categoriaS1 combustibile : String) : RawScope1Row where
  id := id
  tenantId := 1
  anno := 2025
  codiceSito := "IANO"
  categoriaS1 := categoriaS1
  combustibile := combustibile
  quantita := 100
  anno_range := anno_2025
  quantita_nonneg := by decide

def scope1Inputs (rows : List RawScope1Row) : CalcRunInputs where
  correlationId := .drawn 1
  anno := 2025
  sites := ["IANO"]
  scope1Rows := rows
  scope2Rows := []
  scope3Rows := []
  calcTimestamp := 0

/-- The fixed factors and those of natural gas. -/
def gasFactorCatalog : FactorCatalog where
  rows := fixedFactorRows ++
    [publishedRow 19 "COMB_GAS_NAT_CO2_DEFRA_2025" "kg CO2 / Sm3" .ar6 2,
      publishedRow 20 "COMB_GAS_NAT_CH4_DEFRA_2025" "kg CH4 / Sm3" .ar6 (1 / 1000),
      publishedRow 21 "COMB_GAS_NAT_N2O_DEFRA_2025" "kg N2O / Sm3" .ar6 (1 / 1000)]
  pk := by decide
  version_unique := by decide

def gasPort : FactorCatalogPort :=
  sqlFactorCatalogAdapter gasFactorCatalog 1

/-- The same with the upstream factor of natural gas, those of a truck and of a landfill. -/
def mixedPort : FactorCatalogPort :=
  sqlFactorCatalogAdapter
    { rows := gasFactorCatalog.rows ++
        [publishedRow 22 "WTT_GAS_NAT_DEFRA_2025" "kg CO2e / Sm3" .ar6 (1 / 3),
          publishedRow 23 "FREIGHT_HGV_DEFRA_2025" "kg CO2e / tkm" .ar6 (1 / 10),
          publishedRow 24 "WASTE_LANDFILL_NONPERIC_DEFRA_2025" "kg CO2e / t" .ar6 500]
      pk := by decide
      version_unique := by decide } 1

/-- Gas and limestone, electricity, transport and waste. -/
def mixedInputs : CalcRunInputs :=
  { scope1Inputs [scope1Row 1 "Processo_Decarb" "CACO3", scope1Row 2 "Combustione" "GAS_NAT"] with
    scope2Rows := [⟨3, 1, 2025, "IANO", 1000, none, anno_2025, by decide⟩]
    scope3Rows := [⟨4, 1, 2025, 4, "Camion", 500, "tkm", anno_2025, by decide, by decide⟩,
      ⟨5, 1, 2025, 5, "Rifiuti in discarica", 800, "t", anno_2025, by decide, by decide⟩] }

theorem rows_accounted_mixed :
    ∃ records, CalcOrchestrator.run mixedPort gwpAr6 mixedInputs = .ok records ∧
      RowsAccounted mixedInputs records := by
  obtain ⟨records, h⟩ := exists_ok_of_toBool (show
    (CalcOrchestrator.run mixedPort gwpAr6 mixedInputs).toBool = true by decide +kernel)
  refine ⟨records, h, (CalcOrchestrator.rows_accounted_iff _ _ _ _ h).mpr ?_⟩
  refine ⟨by decide, by decide, by decide, fun row hrow => ?_⟩
  rcases List.mem_cons.mp hrow with rfl | hrow
  · exact ⟨.cat4, by decide⟩
  · rw [List.mem_singleton.mp hrow]
    exact ⟨.cat5, by decide⟩

/-- A fuel without factors, and a process row that names a fuel. -/
def strayRows : List RawScope1Row :=
  [scope1Row 1 "Combustione" "GPL", scope1Row 2 "Processo_Decarb" "GAS_NAT"]

/-- The run succeeds; the first row is in no record and the second in two. -/
theorem stray_rows_lost_and_doubled :
    ∃ records, CalcOrchestrator.run gasPort gwpAr6 (scope1Inputs strayRows) = .ok records ∧
      timesRecorded records 1 .combustion + timesRecorded records 1 .process = 0 ∧
      timesRecorded records 2 .combustion + timesRecorded records 2 .process = 2 ∧
      ¬ RowsAccounted (scope1Inputs strayRows) records := by
  obtain ⟨records, h⟩ := exists_ok_of_toBool (show
    (CalcOrchestrator.run gasPort gwpAr6 (scope1Inputs strayRows)).toBool = true by decide +kernel)
  have hlost : timesRecorded records 1 .combustion + timesRecorded records 1 .process = 0 := by
    rw [CalcOrchestrator.timesRecorded_scope1 h]
    decide
  have hdoubled : timesRecorded records 2 .combustion + timesRecorded records 2 .process = 2 := by
    rw [CalcOrchestrator.timesRecorded_scope1 h]
    decide
  refine ⟨records, h, hlost, hdoubled, fun hacc => ?_⟩
  have hone := hacc.scope1 (scope1Row 1 "Combustione" "GPL") List.mem_cons_self
  rw [show (scope1Row 1 "Combustione" "GPL").id = 1 from rfl, hlost] at hone
  exact absurd hone (by decide)

end GhgTool
