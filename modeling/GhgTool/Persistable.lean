import GhgTool.LedgerInsert

/-!
# Which runs can be persisted

The records of a run are inserted into a table that allows one active row per key. The blocks of
`CalcOrchestrator.slotBlocks` turn the question into one about the raw rows: a run fits exactly
when each block names every site, or the year, at most once and the catalog has a row under the
nil UUID, which the zero-lines reference.
-/

namespace GhgTool

open CalcOrchestrator

/-- No constraint of `calc.emissions_consolidated` is reported. -/
def NoLedgerViolation (result : Except Violation Database) : Prop :=
  ∀ v, result = .error v → v.onEmissions = false

/-- The modules that emit one record per handled Scope 3 row. -/
def corporateHandlers : List (RawScope3Row → Bool) :=
  [Scope3Cat1PurchasedGoods.handles, Scope3Cat2CapitalGoods.labelModule.handles,
    Scope3Cat4UpstreamTransport.labelModule.handles, Scope3Cat5Waste.labelModule.handles,
    Scope3Cat6BusinessTravel.labelModule.handles, Scope3Cat7Commuting.handles,
    Scope3Cat9DownstreamTransport.labelModule.handles]

/-- A row whose fuel gets a well-to-tank record. -/
def WttFuel (row : RawScope1Row) : Prop :=
  row.categoriaS1 ≠ "Processo_Decarb" ∧
    (Scope3Cat3FuelEnergy.fuelWttFactorIds.lookup row.combustibile).isSome

/-- The raw rows for which every record of a run has a key of its own. -/
structure OneRecordPerKey (raw : RawRows) : Prop where
  combustion : ((raw.scope1.filter Scope1Combustion.handles).map RawScope1Row.codiceSito).Nodup
  process : ((raw.scope1.filter Scope1Process.handles).map RawScope1Row.codiceSito).Nodup
  electricity : (raw.scope2.map RawScope2Row.codiceSito).Nodup
  corporate : ∀ handles ∈ corporateHandlers, (raw.scope3.filter handles).length ≤ 1
  fuel : ∀ r ∈ raw.scope1, ∀ s ∈ raw.scope1, WttFuel r → WttFuel s →
    r.combustibile = s.combustibile
  endOfLife : ∀ row ∈ raw.scope3, row.categoriaS3 ≠ 12

section Blocks

variable {α : Type} {l : List α} {site : α → String} {year : α → ℕ} {anno : ℕ}

theorem nodup_siteBlock (h : ∀ a ∈ l, year a = anno) :
    (l.map fun a => (some (site a), year a)).Nodup ↔ (l.map site).Nodup := by
  have hmap : (l.map fun a => (some (site a), year a)) =
      (l.map site).map fun s => (some s, anno) := by
    rw [List.map_map]
    exact List.map_congr_left fun a ha => by simp [h a ha]
  rw [hmap, List.nodup_map_iff fun s s' h => by simpa using h]

theorem nodup_yearBlock (h : ∀ a ∈ l, year a = anno) :
    (l.map fun a => ((none : Option String), year a)).Nodup ↔ l.length ≤ 1 :=
  nodup_map_const fun a ha => by rw [h a ha]

theorem nodup_twiceBlock (handles : α → Bool) :
    (l.flatMap fun a => if handles a then [((none : Option String), year a), (none, year a)]
      else []).Nodup ↔ ∀ a ∈ l, handles a = false := by
  induction l with
  | nil => simp
  | cons a l ih =>
      rw [List.flatMap_cons, List.forall_mem_cons, ← ih]
      cases handles a with
      | false => simp
      | true => simp

end Blocks

variable {db : Database} {spec : RunSpec}

theorem anno_of_mem_scope1 {row : RawScope1Row} (h : row ∈ (runInputs db spec).scope1Rows) :
    row.anno = spec.anno := by
  have := (List.mem_filter.mp h).2
  simp only [Bool.and_eq_true, beq_iff_eq] at this
  exact this.2

theorem anno_of_mem_scope2 {row : RawScope2Row} (h : row ∈ (runInputs db spec).scope2Rows) :
    row.anno = spec.anno := by
  have := (List.mem_filter.mp h).2
  simp only [Bool.and_eq_true, beq_iff_eq] at this
  exact this.2

theorem anno_of_mem_scope3 {row : RawScope3Row} (h : row ∈ (runInputs db spec).scope3Rows) :
    row.anno = spec.anno := by
  have := (List.mem_filter.mp h).2
  simp only [Bool.and_eq_true, beq_iff_eq] at this
  exact this.2

theorem mem_fuelKeys {inputs : CalcRunInputs} {key : String × ℕ} :
    key ∈ fuelKeys inputs ↔ ∃ row ∈ inputs.scope1Rows, WttFuel row ∧
      key = (row.combustibile, row.anno) := by
  rw [fuelKeys, List.mem_filter, Scope3Cat3FuelEnergy.sortedFuelKeys, List.mem_insertionSort,
    sigmaScope1FromRows, mem_keys_tally]
  constructor
  · rintro ⟨⟨row, hrow, hkey⟩, hknown⟩
    unfold fuelKey at hkey
    split_ifs at hkey with hproc
    cases hkey
    exact ⟨row, hrow, ⟨hproc, hknown⟩, rfl⟩
  · rintro ⟨row, hrow, ⟨hproc, hknown⟩, rfl⟩
    exact ⟨⟨row, hrow, by rw [fuelKey, if_neg hproc]⟩, hknown⟩

theorem nodup_fuelKeys (inputs : CalcRunInputs) : (fuelKeys inputs).Nodup := by
  refine List.Nodup.filter _ ?_
  rw [Scope3Cat3FuelEnergy.sortedFuelKeys, (List.perm_insertionSort _ _).nodup_iff]
  exact nodup_keys_tally _ _ _

theorem anno_of_mem_fuelKeys {key : String × ℕ} (h : key ∈ fuelKeys (runInputs db spec)) :
    key.2 = spec.anno := by
  obtain ⟨row, hrow, -, rfl⟩ := mem_fuelKeys.mp h
  exact anno_of_mem_scope1 hrow

theorem length_fuelKeys :
    (fuelKeys (runInputs db spec)).length ≤ 1 ↔
      ∀ r ∈ (runInputs db spec).scope1Rows, ∀ s ∈ (runInputs db spec).scope1Rows,
        WttFuel r → WttFuel s → r.combustibile = s.combustibile := by
  rw [length_le_one_iff (nodup_fuelKeys _)]
  constructor
  · intro h r hr s hs hr' hs'
    have hkeys := h _ (mem_fuelKeys.mpr ⟨r, hr, hr', rfl⟩) _ (mem_fuelKeys.mpr ⟨s, hs, hs', rfl⟩)
    exact (Prod.mk.inj hkeys).1
  · intro h x hx y hy
    obtain ⟨r, hr, hr', rfl⟩ := mem_fuelKeys.mp hx
    obtain ⟨s, hs, hs', rfl⟩ := mem_fuelKeys.mp hy
    rw [h r hr s hs hr' hs', anno_of_mem_scope1 hr, anno_of_mem_scope1 hs]

theorem mem_electricityYears {inputs : CalcRunInputs} {anno : ℕ} :
    anno ∈ electricityYears inputs ↔ ∃ row ∈ inputs.scope2Rows, row.anno = anno := by
  rw [electricityYears, Scope3Cat3FuelEnergy.sortedYears, List.mem_insertionSort,
    sigmaScope2FromRows, mem_keys_tally]
  simp only [Option.some.injEq]

theorem nodup_electricityYears (inputs : CalcRunInputs) : (electricityYears inputs).Nodup := by
  rw [electricityYears, Scope3Cat3FuelEnergy.sortedYears, (List.perm_insertionSort _ _).nodup_iff]
  exact nodup_keys_tally _ _ _

/-- Each block names every site, or the year, at most once exactly when the raw rows do. -/
theorem nodup_slotBlocks :
    (∀ b ∈ slotBlocks (runInputs db spec), b.2.Nodup) ↔
      OneRecordPerKey (loadRawRows db spec.tenantId spec.anno) := by
  have hscope1 : ∀ handles : RawScope1Row → Bool,
      ∀ row ∈ (runInputs db spec).scope1Rows.filter handles, row.anno = spec.anno :=
    fun _ _ h => anno_of_mem_scope1 (List.mem_filter.mp h).1
  have hscope3 : ∀ handles : RawScope3Row → Bool,
      ∀ row ∈ (runInputs db spec).scope3Rows.filter handles, row.anno = spec.anno :=
    fun _ _ h => anno_of_mem_scope3 (List.mem_filter.mp h).1
  have hsites : ((runInputs db spec).sites.map fun s => (some s, spec.anno)).Nodup :=
    (List.nodup_dedup _).map fun s s' h => by simpa using h
  have hyears : ((electricityYears (runInputs db spec)).map
      fun anno => ((none : Option String), anno)).Nodup :=
    (nodup_electricityYears _).map fun x y h => by simpa using h
  have heol : (∀ row ∈ (runInputs db spec).scope3Rows, Scope3Cat12Eol.handles row = false) ↔
      ∀ row ∈ (runInputs db spec).scope3Rows, row.categoriaS3 ≠ 12 := by
    simp only [Scope3Cat12Eol.handles, beq_eq_false_iff_ne]
  simp only [slotBlocks, List.forall_mem_cons, nodup_siteBlock (hscope1 _),
    nodup_siteBlock (fun _ => anno_of_mem_scope2), nodup_yearBlock (hscope3 _),
    nodup_yearBlock (fun _ => anno_of_mem_fuelKeys), nodup_twiceBlock, length_fuelKeys, heol,
    hyears, List.nodup_singleton, List.not_mem_nil, true_and]
  constructor
  · rintro ⟨-, hcomb, hproc, hel, -, h1, h2, hfuel, h4, h5, h6, h7, h9, h12, -⟩
    refine ⟨hcomb, hproc, hel, ?_, hfuel, h12⟩
    simpa [corporateHandlers] using ⟨h1, h2, h4, h5, h6, h7, h9⟩
  · rintro ⟨hcomb, hproc, hel, hcorp, hfuel, h12⟩
    obtain ⟨h1, h2, h4, h5, h6, h7, h9⟩ := by simpa [corporateHandlers] using hcorp
    exact ⟨hsites, hcomb, hproc, hel, hel, h1, h2, hfuel, h4, h5, h6, h7, h9, h12, by simp⟩

/-- The sub-scopes whose records carry a site. -/
def SubScope.isSiteLevel : SubScope → Bool
  | .fugitive | .combustion | .process | .lb | .mb => true
  | _ => false

theorem slot_of_run : ∀ x ∈ tagBlocks (slotBlocks (runInputs db spec)),
    x.2.2 = spec.anno ∧ x.2.1.isSome = x.1.isSiteLevel := by
  rw [forall_mem_tagBlocks]
  simp only [slotBlocks, List.forall_mem_cons, List.forall_mem_map, SubScope.isSiteLevel,
    Option.isSome_some, Option.isSome_none, and_true, List.not_mem_nil, false_imp_iff,
    implies_true]
  have hscope1 : ∀ handles : RawScope1Row → Bool,
      ∀ row ∈ (runInputs db spec).scope1Rows.filter handles, row.anno = spec.anno :=
    fun _ _ h => anno_of_mem_scope1 (List.mem_filter.mp h).1
  have hscope3 : ∀ handles : RawScope3Row → Bool,
      ∀ row ∈ (runInputs db spec).scope3Rows.filter handles, row.anno = spec.anno :=
    fun _ _ h => anno_of_mem_scope3 (List.mem_filter.mp h).1
  have hyears : ∀ anno ∈ electricityYears (runInputs db spec), anno = spec.anno := by
    intro anno h
    obtain ⟨row, hrow, rfl⟩ := mem_electricityYears.mp h
    exact anno_of_mem_scope2 hrow
  have heol : ∀ y ∈ (runInputs db spec).scope3Rows.flatMap (fun row =>
      if Scope3Cat12Eol.handles row then [((none : Option String), row.anno), (none, row.anno)]
      else []), y.2 = spec.anno ∧ y.1.isSome = false := by
    intro y hy
    obtain ⟨row, hrow, hy⟩ := List.mem_flatMap.mp hy
    split_ifs at hy
    · simp only [List.mem_cons, List.not_mem_nil, or_false, or_self] at hy
      rw [hy]
      exact ⟨anno_of_mem_scope3 hrow, rfl⟩
    · cases hy
  exact ⟨fun _ _ => rfl, hscope1 _, hscope1 _, fun _ => anno_of_mem_scope2,
    fun _ => anno_of_mem_scope2, hscope3 _, hscope3 _, fun _ => anno_of_mem_fuelKeys, hyears,
    hyears, hscope3 _, hscope3 _, hscope3 _, hscope3 _, hscope3 _, heol, rfl, rfl, rfl, rfl, rfl,
    rfl⟩

/-- What the persistence layer sees of a finished run. -/
theorem shows_orchestrate {records : List EmissionRecord} (h : orchestrate db spec = .ok records) :
    Shows EmissionRecord.slot
      (Stamped (sqlFactorCatalogAdapter db.catalog spec.tenantId) spec.gwpSet
        (commonCtx (runInputs db spec)))
      (tagBlocks (slotBlocks (runInputs db spec))) records := by
  have hout := (outcome_run (E := fun _ => True) ⟨fun _ _ => trivial, fun _ _ _ _ => trivial⟩
    (runInputs db spec)).of_ok h
  rwa [getGwpValues_code] at hout

section Records

variable {records : List EmissionRecord} (hrun : orchestrate db spec = .ok records)
include hrun

theorem slot_mem {r : EmissionRecord} (hr : r ∈ records) :
    r.slot ∈ tagBlocks (slotBlocks (runInputs db spec)) := by
  rw [← (shows_orchestrate hrun).1]
  exact List.mem_map_of_mem hr

theorem anno_of_record {r : EmissionRecord} (hr : r ∈ records) : r.anno = spec.anno :=
  (slot_of_run _ (slot_mem hrun hr)).1

theorem exists_zeroLine : ∃ r ∈ records, r.subScope = .cat11Zero := by
  have hmem : (SubScope.cat11Zero, (none : Option String), spec.anno) ∈
      tagBlocks (slotBlocks (runInputs db spec)) := by
    rw [tagBlocks_slotBlocks]
    simp [runInputs]
  rw [← (shows_orchestrate hrun).1] at hmem
  obtain ⟨r, hr, hslot⟩ := List.mem_map.mp hmem
  exact ⟨r, hr, congrArg Prod.fst hslot⟩

theorem insertable_records :
    (∀ r ∈ records, RecordInsertable db.catalog r) ↔
      (2020 ≤ spec.anno ∧ spec.anno ≤ 2099) ∧ nilUuid ∈ db.catalog.ids := by
  constructor
  · intro h
    obtain ⟨r, hr, hsub⟩ := exists_zeroLine hrun
    have hstamp := (shows_orchestrate hrun).2 r hr
    obtain ⟨hanno, hfk⟩ := h r hr
    rw [hstamp.zeroLine (by rw [hsub]; rfl)] at hfk
    rw [anno_of_record hrun hr] at hanno
    exact ⟨hanno, hfk⟩
  · rintro ⟨hanno, hnil⟩ r hr
    have hstamp := (shows_orchestrate hrun).2 r hr
    refine ⟨by rwa [anno_of_record hrun hr], ?_⟩
    cases hzero : r.subScope.isZeroLine with
    | true =>
        rw [hstamp.zeroLine hzero]
        exact hnil
    | false =>
        obtain ⟨factorId, f, hget, hid⟩ := hstamp.catalogued hzero
        obtain ⟨row, hrow, -, rfl⟩ := factorDbId_of_fetch hget
        rw [hid]
        exact List.mem_map_of_mem hrow

/-- Inside one run, two records share a key exactly when they take the same slot. -/
theorem sharesKey_iff {r s : EmissionRecord} (hr : r ∈ records) (hs : s ∈ records) :
    SharesKey spec.tenantId r s ↔ r.slot = s.slot := by
  have hr' := (shows_orchestrate hrun).2 r hr
  have hs' := (shows_orchestrate hrun).2 s hs
  have hrs := (slot_of_run _ (slot_mem hrun hr)).2
  have hss := (slot_of_run _ (slot_mem hrun hs)).2
  constructor
  · rintro (hkey | ⟨-, -, hsite, -, hsub, hanno⟩)
    · simp only [EmissionRow.naturalKey, emissionToParams, NaturalKey.mk.injEq, true_and] at hkey
      obtain ⟨-, hsub, hsite, hanno, -, -⟩ := hkey
      have hsome : r.codiceSito.isSome = s.codiceSito.isSome := by
        rw [show r.codiceSito = r.slot.2.1 from rfl, show s.codiceSito = s.slot.2.1 from rfl,
          hrs, hss, show r.slot.1 = s.slot.1 from hsub]
      have hsite' : r.codiceSito = s.codiceSito := by
        cases hx : r.codiceSito <;> cases hy : s.codiceSito <;> simp_all
      simp only [EmissionRecord.slot, hsub, hsite', hanno]
    · simp only [emissionToParams] at hsite hsub hanno
      simp only [EmissionRecord.slot, hsub, hsite, hanno]
  · intro hslot
    simp only [EmissionRecord.slot, Prod.mk.injEq] at hslot
    obtain ⟨hsub, hsite, hanno⟩ := hslot
    have hscope : r.scope = s.scope :=
      scope_unique r.subScope_allowed (hsub ▸ s.subScope_allowed)
    refine .inl ?_
    simp only [EmissionRow.naturalKey, emissionToParams, hscope, hsub, hsite, hanno,
      hr'.gwpSet, hs'.gwpSet, hr'.regulatoryStream, hs'.regulatoryStream]

theorem pairwise_records :
    (records.Pairwise fun r s => ¬ SharesKey spec.tenantId r s) ↔
      OneRecordPerKey (loadRawRows db spec.tenantId spec.anno) := by
  have htags : ((slotBlocks (runInputs db spec)).map Prod.fst).Nodup := by
    simp only [slotBlocks, List.map_cons, List.map_nil]
    decide
  rw [← nodup_slotBlocks, ← nodup_tagBlocks htags, ← (shows_orchestrate hrun).1, List.Nodup,
    List.pairwise_map]
  exact List.Pairwise.iff_of_mem fun hr hs => not_congr (sharesKey_iff hrun hr hs)

/-- Nothing active of the tenant and year stands in the way of a record of the run. -/
theorem not_blocks_of_free {t : EmissionsTable}
    (hfree : ∀ row ∈ t.rows, row.Active → ¬ (row.tenantId = spec.tenantId ∧ row.anno = spec.anno)) :
    ∀ row ∈ t.rows, ∀ r ∈ records, ¬ BlocksRecord spec.tenantId row r := by
  rintro row hrow r hr ⟨hact, hkey | ⟨-, htenant, -, -, -, hanno⟩⟩
  · simp only [EmissionRow.naturalKey, emissionToParams, NaturalKey.mk.injEq] at hkey
    exact hfree row hrow hact ⟨hkey.1, hkey.2.2.2.2.1.trans (anno_of_record hrun hr)⟩
  · exact hfree row hrow hact ⟨htenant, hanno.trans (anno_of_record hrun hr)⟩

end Records

/-- The inputs on which a single-track run can be persisted. -/
structure Persistable (db : Database) (tenantId : Uuid) (anno : ℕ) : Prop where
  year : 2020 ≤ anno ∧ anno ≤ 2099
  nilFactor : nilUuid ∈ db.catalog.ids
  onePerKey : OneRecordPerKey (loadRawRows db tenantId anno)

/-- The ledger holds no active row of the tenant and the year. -/
def LedgerFree (t : EmissionsTable) (tenantId : Uuid) (anno : ℕ) : Prop :=
  ∀ row ∈ t.rows, row.Active → ¬ (row.tenantId = tenantId ∧ row.anno = anno)

theorem insertEmissions_succeeds_iff {records : List EmissionRecord}
    (hrun : orchestrate db spec = .ok records)
    (hfree : LedgerFree db.emissions spec.tenantId spec.anno) :
    (∃ t', insertEmissions db spec.tenantId db.emissions records = .ok t') ↔
      Persistable db spec.tenantId spec.anno := by
  rw [insertEmissions_succeeds, insertable_records hrun, pairwise_records hrun]
  constructor
  · rintro ⟨⟨hyear, hnil⟩, -, hone⟩
    exact ⟨hyear, hnil, hone⟩
  · rintro ⟨hyear, hnil, hone⟩
    exact ⟨⟨hyear, hnil⟩, not_blocks_of_free hrun hfree, hone⟩

/-- A single-track transaction reports a ledger constraint exactly when its insertion does. -/
theorem noLedgerViolation_persistEmissions {records : List EmissionRecord} :
    NoLedgerViolation (persistEmissions db spec records) ↔
      ∃ t', insertEmissions db spec.tenantId db.emissions records = .ok t' := by
  unfold persistEmissions
  cases hins : insertEmissions db spec.tenantId db.emissions records with
  | error v =>
      have hv := onEmissions_of_insertEmissions hins
      constructor
      · intro h
        rw [h v rfl] at hv
        cases hv
      · rintro ⟨t', h⟩
        cases h
  | ok t' =>
      refine ⟨fun _ => ⟨t', rfl⟩, fun _ v h => ?_⟩
      simp [bind, Except.bind, insertCalcRun, freshRunId_notMem, calcRunRow,
        enforceDualRunReciprocity, pure, Except.pure] at h

end GhgTool
