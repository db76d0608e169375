import Mathlib.Tactic.Ring
import GhgTool.RowCoverage

/-!
# Coherence of the two tracks

The AR6 and the AR5 run over the same rows, line by line. Only the combustion module weights gases,
so its lines differ by the methane and nitrous oxide masses times the difference of the GWPs; every
other line has the same amounts on both tracks. The biogenic share reaches the memo columns only.
-/

namespace GhgTool

/-- The catalog rows of a factor under two GWP sets have equal value and biogenic share. -/
def TracksAgree (catalog : FactorCatalogPort) (g g' : GwpSet) : Prop :=
  ∀ factorId f f', catalog.get factorId g none = .ok f → catalog.get factorId g' none = .ok f' →
    f.value = f'.value ∧
      catalog.getBiogenicShare factorId g = catalog.getBiogenicShare factorId g'

/-- Two runs over the same year, sites and rows. -/
structure SameActivity (inputs inputs' : CalcRunInputs) : Prop where
  anno : inputs'.anno = inputs.anno
  sites : inputs'.sites = inputs.sites
  scope1 : inputs'.scope1Rows = inputs.scope1Rows
  scope2 : inputs'.scope2Rows = inputs.scope2Rows
  scope3 : inputs'.scope3Rows = inputs.scope3Rows

/-- Tonnes of a gas that a combustion row emits, by the factor of the gas. -/
def gasTonnes (catalog : FactorCatalogPort) (gwpSet : GwpSet) (factorId : String)
    (row : RawScope1Row) : ℚ :=
  (factorOf catalog gwpSet factorId).valueOrZero * row.quantita * kgToTonne

/-- A combustion record is the sum of its three gases, weighted by the GWP table. -/
structure GasBalance (gwp : GwpValues) (co2 ch4 n2o : ℚ) (r : EmissionRecord) : Prop where
  co2Tonne : r.co2Tonne = some co2
  ch4Tco2e : r.ch4Tco2e = some (ch4 * gwp.ch4)
  n2oTco2e : r.n2oTco2e = some (n2o * gwp.n2o)
  tco2e : r.tco2e = co2 + ch4 * gwp.ch4 + n2o * gwp.n2o

/-- Two records of one line on the two tracks. -/
structure TrackPair (catalog : FactorCatalogPort) (gwp gwp' : GwpValues)
    (scope1Rows : List RawScope1Row) (r r' : EmissionRecord) : Prop where
  scope : r'.scope = r.scope
  subScope : r'.subScope = r.subScope
  codiceSito : r'.codiceSito = r.codiceSito
  anno : r'.anno = r.anno
  rawRowId : r'.rawRowId = r.rawRowId
  co2Tonne : r'.co2Tonne = r.co2Tonne
  co2BiogenicTonne : r'.co2BiogenicTonne = r.co2BiogenicTonne
  co2FossilTonne : r'.co2FossilTonne = r.co2FossilTonne
  combustion : r.subScope = .combustion → ∃ row ∈ scope1Rows, ∃ ids,
    Scope1Combustion.fuelFactorIds.lookup row.combustibile = some ids ∧
      r.rawRowId = some row.id ∧
      let co2 := gasTonnes catalog gwp.code ids.co2 row
      let ch4 := gasTonnes catalog gwp.code ids.ch4 row
      let n2o := gasTonnes catalog gwp.code ids.n2o row
      GasBalance gwp co2 ch4 n2o r ∧ GasBalance gwp' co2 ch4 n2o r' ∧
        r.tco2e - r'.tco2e = ch4 * (gwp.ch4 - gwp'.ch4) + n2o * (gwp.n2o - gwp'.n2o)
  other : r.subScope ≠ .combustion → r'.tco2e = r.tco2e

/-- The biogenic share of the catalog is a memo: a record that shows it reports the same tonnes as
fossil, and no share the catalog could have would change the headline of any record. -/
structure MemoOnly (catalog : FactorCatalogPort) (gwp : GwpValues) (inputs : CalcRunInputs)
    (records : List EmissionRecord) : Prop where
  fossil : ∀ r ∈ records, r.co2BiogenicTonne.isSome = true → r.co2FossilTonne = some r.tco2e
  independent : ∀ share records', CalcOrchestrator.run { catalog with getBiogenicShare := share }
    gwp inputs = .ok records' → records'.map EmissionRecord.tco2e = records.map EmissionRecord.tco2e

/-- Every record of a run carries the GWP set and the stream of the run. -/
def Tagged (gwpSet : GwpSet) (stream : RegulatoryStream) (records : List EmissionRecord) : Prop :=
  ∀ r ∈ records, r.gwpSet = gwpSet ∧ r.regulatoryStream = stream

namespace CalcOrchestrator

variable {catalog : FactorCatalogPort} {gwp gwp' : GwpValues} {inputs inputs' : CalcRunInputs}
  {records records' : List EmissionRecord}

theorem linesOf_sameActivity (h : SameActivity inputs inputs') (u : SubScope) :
    linesOf catalog gwp inputs' u = linesOf catalog gwp inputs u := by
  cases u <;> simp only [linesOf, h.anno, h.sites, h.scope1, h.scope2, h.scope3]

/-! ## Lines on two tracks -/

/-- What a line has in common with its line on the other track. -/
def Retagged (a a' : EmissionArgs) : Prop :=
  a' = { a with factor := a'.factor, gwpSet := a'.gwpSet }

/-- A line and its line on the other track: the same amounts, or one combustion row under the two
GWP tables. -/
inductive LinePair (catalog : FactorCatalogPort) (gwp gwp' : GwpValues)
    (scope1Rows : List RawScope1Row) : EmissionArgs → EmissionArgs → Prop
  | retagged {a a' : EmissionArgs} (hsub : a.subScope ≠ .combustion) (h : Retagged a a') :
      LinePair catalog gwp gwp' scope1Rows a a'
  | reweighted {row : RawScope1Row} {ids : Scope1Combustion.ComponentIds}
      {co2 ch4 n2o : FactorRecord} (hrow : row ∈ scope1Rows)
      (hids : Scope1Combustion.fuelFactorIds.lookup row.combustibile = some ids)
      (hco2 : co2.valueOrZero = (factorOf catalog gwp.code ids.co2).valueOrZero)
      (hch4 : ch4.valueOrZero = (factorOf catalog gwp.code ids.ch4).valueOrZero)
      (hn2o : n2o.valueOrZero = (factorOf catalog gwp.code ids.n2o).valueOrZero) :
      LinePair catalog gwp gwp' scope1Rows
        (Scope1Combustion.combustionArgs (factorOf catalog gwp.code ids.co2)
          (factorOf catalog gwp.code ids.ch4) (factorOf catalog gwp.code ids.n2o) gwp row)
        (Scope1Combustion.combustionArgs co2 ch4 n2o gwp' row)

theorem gasBalance_of_combustion {ctx : RunContext} {co2 ch4 n2o : FactorRecord}
    {row : RawScope1Row} {r : EmissionRecord}
    (h : makeEmission ctx (Scope1Combustion.combustionArgs co2 ch4 n2o gwp row) = .ok r) :
    GasBalance gwp (co2.valueOrZero * row.quantita * kgToTonne)
      (ch4.valueOrZero * row.quantita * kgToTonne)
      (n2o.valueOrZero * row.quantita * kgToTonne) r :=
  have hbuilt := builtFrom_of_makeEmission h
  have hamounts := amountsFrom_of_makeEmission h
  ⟨hamounts.co2Tonne, hamounts.ch4Tco2e, hamounts.n2oTco2e, hbuilt.tco2e⟩

theorem trackPair_of_linePair {ctx ctx' : RunContext} {rows : List RawScope1Row}
    {a a' : EmissionArgs} {r r' : EmissionRecord} (h : LinePair catalog gwp gwp' rows a a')
    (hr : makeEmission ctx a = .ok r) (hr' : makeEmission ctx' a' = .ok r') :
    TrackPair catalog gwp gwp' rows r r' := by
  have hb := builtFrom_of_makeEmission hr
  have hb' := builtFrom_of_makeEmission hr'
  have hm := amountsFrom_of_makeEmission hr
  have hm' := amountsFrom_of_makeEmission hr'
  cases h with
  | retagged hsub h =>
      rw [h] at hb' hm'
      refine ⟨hb'.scope.trans hb.scope.symm, hb'.subScope.trans hb.subScope.symm,
        hb'.codiceSito.trans hb.codiceSito.symm, hb'.anno.trans hb.anno.symm,
        hb'.rawRowId.trans hb.rawRowId.symm, hm'.co2Tonne.trans hm.co2Tonne.symm,
        hm'.co2BiogenicTonne.trans hm.co2BiogenicTonne.symm,
        hm'.co2FossilTonne.trans hm.co2FossilTonne.symm, fun hcomb => ?_,
        fun _ => hb'.tco2e.trans hb.tco2e.symm⟩
      exact absurd (hb.subScope.symm.trans hcomb) hsub
  | @reweighted row ids co2 ch4 n2o hrow hids hco2 hch4 hn2o =>
      have hgas := gasBalance_of_combustion hr
      have hgas' := gasBalance_of_combustion hr'
      rw [hco2, hch4, hn2o] at hgas'
      have hco2Tonne : r'.co2Tonne = r.co2Tonne := hgas'.co2Tonne.trans hgas.co2Tonne.symm
      refine ⟨hb'.scope.trans hb.scope.symm, hb'.subScope.trans hb.subScope.symm,
        hb'.codiceSito.trans hb.codiceSito.symm, hb'.anno.trans hb.anno.symm,
        hb'.rawRowId.trans hb.rawRowId.symm, hco2Tonne,
        hm'.co2BiogenicTonne.trans hm.co2BiogenicTonne.symm, ?_, fun _ => ?_, fun hcomb => ?_⟩
      · rw [hm'.co2FossilTonne, hm.co2FossilTonne]
        exact hm'.co2Tonne.symm.trans (hco2Tonne.trans hm.co2Tonne)
      · refine ⟨row, hrow, ids, hids, hb.rawRowId, hgas, hgas', ?_⟩
        rw [hgas.tco2e, hgas'.tco2e]
        simp only [gasTonnes]
        ring
      · exact absurd hb.subScope hcomb

section Pairs

variable (hcat : TracksAgree catalog gwp.code gwp'.code)

include hcat

theorem valueOrZero_tracks {factorId : String} (h : Found catalog gwp.code factorId)
    (h' : Found catalog gwp'.code factorId) :
    (factorOf catalog gwp'.code factorId).valueOrZero =
      (factorOf catalog gwp.code factorId).valueOrZero := by
  rw [FactorRecord.valueOrZero, FactorRecord.valueOrZero, (hcat factorId _ _ h.get h'.get).1]

theorem linePair_scope3Args {factorId : String} (h : Found catalog gwp.code factorId)
    (h' : Found catalog gwp'.code factorId) {u : SubScope} (hsub : u ≠ .combustion)
    (m : Methodology) (row : RawScope3Row) (q : ℚ) (rows : List RawScope1Row) :
    LinePair catalog gwp gwp' rows
      (scope3Args u m gwp row (factorOf catalog gwp.code factorId) q)
      (scope3Args u m gwp' row (factorOf catalog gwp'.code factorId) q) := by
  apply LinePair.retagged hsub
  simp only [Retagged, scope3Args, valueOrZero_tracks hcat h h']

theorem linePairs_labelModule {l : LabelModule} (hl : l ∈ labelModules)
    (hsub : l.subScope ≠ .combustion)
    (hsame : SameActivity inputs inputs') (hready : RunReady catalog gwp inputs)
    (hready' : RunReady catalog gwp' inputs') :
    List.Forall₂ (LinePair catalog gwp gwp' inputs.scope1Rows)
      (inputs.scope3Rows.flatMap (l.rowArgs catalog gwp))
      (inputs.scope3Rows.flatMap (l.rowArgs catalog gwp')) := by
  refine forall₂_flatMap fun row hrow => ?_
  unfold LabelModule.rowArgs
  cases hid : l.rowId row with
  | none => exact .nil
  | some factorId =>
      have hfound := hready.labelled l hl row hrow factorId hid
      have hfound' := hready'.labelled l hl row (hsame.scope3 ▸ hrow) factorId hid
      exact .cons (linePair_scope3Args hcat hfound hfound' hsub _ _ _ _) .nil

theorem linePairs_combustion (hsame : SameActivity inputs inputs')
    (hready : RunReady catalog gwp inputs) (hready' : RunReady catalog gwp' inputs') :
    List.Forall₂ (LinePair catalog gwp gwp' inputs.scope1Rows)
      (inputs.scope1Rows.flatMap (Scope1Combustion.rowArgs catalog gwp))
      (inputs.scope1Rows.flatMap (Scope1Combustion.rowArgs catalog gwp')) := by
  refine forall₂_flatMap fun row hrow => ?_
  have hfound := hready.combustion row hrow
  have hfound' := hready'.combustion row (hsame.scope1 ▸ hrow)
  unfold Scope1Combustion.rowArgs
  unfold Scope1Combustion.rowIds at hfound hfound'
  cases hids : Scope1Combustion.fuelFactorIds.lookup row.combustibile with
  | none => exact .nil
  | some ids =>
      rw [hids] at hfound hfound'
      refine .cons (.reweighted hrow hids ?_ ?_ ?_) .nil
      · exact valueOrZero_tracks hcat (hfound _ (by simp)) (hfound' _ (by simp))
      · exact valueOrZero_tracks hcat (hfound _ (by simp)) (hfound' _ (by simp))
      · exact valueOrZero_tracks hcat (hfound _ (by simp)) (hfound' _ (by simp))

theorem linePairs_cat1 (hsame : SameActivity inputs inputs')
    (hready : RunReady catalog gwp inputs) (hready' : RunReady catalog gwp' inputs') :
    List.Forall₂ (LinePair catalog gwp gwp' inputs.scope1Rows)
      (inputs.scope3Rows.flatMap (Scope3Cat1PurchasedGoods.rowArgs catalog gwp))
      (inputs.scope3Rows.flatMap (Scope3Cat1PurchasedGoods.rowArgs catalog gwp')) := by
  refine forall₂_flatMap fun row hrow => ?_
  unfold Scope3Cat1PurchasedGoods.rowArgs
  cases hid : Scope3Cat1PurchasedGoods.rowId row with
  | none => exact .nil
  | some factorId =>
      have hfound := hready.purchased row hrow factorId hid
      have hfound' := hready'.purchased row (hsame.scope3 ▸ hrow) factorId hid
      have hbio : Scope3Cat1PurchasedGoods.bioPerUnit catalog gwp'.code factorId =
          Scope3Cat1PurchasedGoods.bioPerUnit catalog gwp.code factorId := by
        rw [Scope3Cat1PurchasedGoods.bioPerUnit, Scope3Cat1PurchasedGoods.bioPerUnit,
          (hcat factorId _ _ hfound.get hfound'.get).2]
      refine .cons (.retagged (by simp [Scope3Cat1PurchasedGoods.cat1Args, scope3Args]) ?_) .nil
      simp only [Retagged, Scope3Cat1PurchasedGoods.cat1Args, scope3Args, hbio,
        valueOrZero_tracks hcat hfound hfound']

theorem linePairs_electricity {factorId : String} {u : SubScope} (hsub : u ≠ .combustion)
    (h : Found catalog gwp.code factorId) (h' : Found catalog gwp'.code factorId)
    (sigma : Scope3Cat3FuelEnergy.SigmaScope2) (rows : List RawScope1Row) :
    List.Forall₂ (LinePair catalog gwp gwp' rows)
      ((Scope3Cat3FuelEnergy.sortedYears sigma).map
        (Scope3Cat3FuelEnergy.electricityArgs factorId u catalog gwp sigma))
      ((Scope3Cat3FuelEnergy.sortedYears sigma).map
        (Scope3Cat3FuelEnergy.electricityArgs factorId u catalog gwp' sigma)) := by
  refine forall₂_map fun anno _ => .retagged hsub ?_
  simp only [Retagged, Scope3Cat3FuelEnergy.electricityArgs, Scope3Cat3FuelEnergy.sigmaArgs,
    valueOrZero_tracks hcat h h']

theorem linePairs (hco2 : gwp'.co2 = gwp.co2) (hsame : SameActivity inputs inputs')
    (hready : RunReady catalog gwp inputs) (hready' : RunReady catalog gwp' inputs')
    (u : SubScope) :
    List.Forall₂ (LinePair catalog gwp gwp' inputs.scope1Rows) (linesOf catalog gwp inputs u)
      (linesOf catalog gwp' inputs u) := by
  have hfixed : ∀ factorId ∈ fixedFactorIds, (factorOf catalog gwp'.code factorId).valueOrZero =
      (factorOf catalog gwp.code factorId).valueOrZero := fun factorId hmem =>
    valueOrZero_tracks hcat (hready.fixed factorId hmem) (hready'.fixed factorId hmem)
  cases u
  case fugitive =>
    exact forall₂_map fun s _ => .retagged (by simp [Scope1FugitiveZero.zeroLine]) rfl
  case combustion => exact linePairs_combustion hcat hsame hready hready'
  case process =>
    refine forall₂_flatMap fun row _ => ?_
    unfold Scope1Process.rowArgs
    split_ifs
    · refine .cons (.retagged (by simp [Scope1Process.processArgs]) ?_) .nil
      simp only [Retagged, Scope1Process.processArgs, hco2,
        hfixed Scope1Process.factorId (by decide)]
    · exact .nil
  case lb =>
    refine forall₂_map fun row _ => .retagged (by simp [Scope2Lb.lbArgs]) ?_
    simp only [Retagged, Scope2Lb.lbArgs, hfixed Scope2Lb.lbFactorId (by decide)]
  case mb =>
    refine forall₂_map fun row _ => ?_
    unfold Scope2Mb.rowArgs
    split_ifs
    · exact .retagged (by simp [Scope2Mb.mbArgs]) rfl
    · refine .retagged (by simp [Scope2Mb.mbArgs]) ?_
      simp only [Retagged, Scope2Mb.mbArgs, hfixed Scope2Mb.residualFactorId (by decide)]
  case cat1 => exact linePairs_cat1 hcat hsame hready hready'
  case cat2 =>
    exact linePairs_labelModule hcat (by simp [labelModules]) (by decide) hsame hready hready'
  case cat3WttFuel =>
    refine forall₂_flatMap fun key hkey => ?_
    unfold Scope3Cat3FuelEnergy.fuelArgs
    cases hid : Scope3Cat3FuelEnergy.fuelWttFactorIds.lookup key.1 with
    | none => exact .nil
    | some factorId =>
        refine .cons (.retagged (by simp [Scope3Cat3FuelEnergy.sigmaArgs]) ?_) .nil
        simp only [Retagged, Scope3Cat3FuelEnergy.sigmaArgs, valueOrZero_tracks hcat
          (hready.fuels key hkey factorId hid)
          (hready'.fuels key (hsame.scope1 ▸ hkey) factorId hid)]
  case cat3WttElec =>
    exact linePairs_electricity hcat (by decide) (hready.fixed _ (by decide))
      (hready'.fixed _ (by decide)) _ _
  case cat3Tnd =>
    exact linePairs_electricity hcat (by decide) (hready.fixed _ (by decide))
      (hready'.fixed _ (by decide)) _ _
  case cat4 =>
    exact linePairs_labelModule hcat (by simp [labelModules]) (by decide) hsame hready hready'
  case cat5 =>
    exact linePairs_labelModule hcat (by simp [labelModules]) (by decide) hsame hready hready'
  case cat6 =>
    exact linePairs_labelModule hcat (by simp [labelModules]) (by decide) hsame hready hready'
  case cat7 =>
    refine forall₂_flatMap fun row _ => ?_
    unfold Scope3Cat7Commuting.rowArgs
    split_ifs
    · exact .cons (linePair_scope3Args hcat (hready.fixed _ (by decide))
        (hready'.fixed _ (by decide)) (by decide) _ _ _ _) .nil
    · exact .nil
  case cat9 =>
    exact linePairs_labelModule hcat (by simp [labelModules]) (by decide) hsame hready hready'
  case cat12 =>
    refine forall₂_flatMap fun row _ => ?_
    unfold Scope3Cat12Eol.rowArgs
    split_ifs
    · have hlandfill := linePair_scope3Args hcat
        (hready.fixed Scope3Cat12Eol.landfillFactorId (by decide))
        (hready'.fixed Scope3Cat12Eol.landfillFactorId (by decide))
        (show SubScope.cat12 ≠ .combustion by decide)
      have hrecycle := linePair_scope3Args hcat
        (hready.fixed Scope3Cat12Eol.recycleFactorId (by decide))
        (hready'.fixed Scope3Cat12Eol.recycleFactorId (by decide))
        (show SubScope.cat12 ≠ .combustion by decide)
      exact .cons (hlandfill _ _ _ _) (.cons (hrecycle _ _ _ _) .nil)
    · exact .nil
  all_goals
    refine .cons (.retagged ?_ rfl) .nil
    simp [Scope3Cat11ZeroLine.line, Scope3CatOmittedZeroLines.line, scope3ZeroLine]

theorem linePairs_runArgs (hco2 : gwp'.co2 = gwp.co2) (hsame : SameActivity inputs inputs')
    (hready : RunReady catalog gwp inputs) (hready' : RunReady catalog gwp' inputs') :
    List.Forall₂ (LinePair catalog gwp gwp' inputs.scope1Rows) (runArgs catalog gwp inputs)
      (runArgs catalog gwp' inputs') := by
  refine forall₂_flatMap fun u _ => ?_
  rw [linesOf_sameActivity hsame]
  exact linePairs hcat hco2 hsame hready hready' u

end Pairs

/-! ## The biogenic memo -/

theorem cat1_tco2e_of_share (share : String → GwpSet → Option ℚ) (row : RawScope3Row) :
    (Scope3Cat1PurchasedGoods.rowArgs { catalog with getBiogenicShare := share } gwp row).map
        EmissionArgs.tco2e =
      (Scope3Cat1PurchasedGoods.rowArgs catalog gwp row).map EmissionArgs.tco2e := by
  unfold Scope3Cat1PurchasedGoods.rowArgs
  cases Scope3Cat1PurchasedGoods.rowId row with
  | none => rfl
  | some factorId => rfl

/-- The shares are read by the purchased-goods module only, and there for the memo columns. -/
theorem runArgs_tco2e_of_share (share : String → GwpSet → Option ℚ) :
    (runArgs { catalog with getBiogenicShare := share } gwp inputs).map EmissionArgs.tco2e =
      (runArgs catalog gwp inputs).map EmissionArgs.tco2e := by
  have hblock : ∀ u, (linesOf { catalog with getBiogenicShare := share } gwp inputs u).map
      EmissionArgs.tco2e = (linesOf catalog gwp inputs u).map EmissionArgs.tco2e := by
    intro u
    cases u
    case cat1 => simp only [linesOf, List.map_flatMap, cat1_tco2e_of_share]
    all_goals rfl
  simp only [runArgs, List.map_flatMap, hblock]

theorem memoOnly_of_run (h : run catalog gwp inputs = .ok records) :
    MemoOnly catalog gwp inputs records := by
  have hbuilt := (run_plan catalog gwp inputs).builds records h
  have htco2e : ∀ a r, makeEmission (commonCtx inputs) a = .ok r → r.tco2e = a.tco2e :=
    fun a r hr => (builtFrom_of_makeEmission hr).tco2e
  constructor
  case fossil =>
    intro r hr hbio
    obtain ⟨a, ha, har⟩ := (mem_built hbuilt).mp hr
    obtain ⟨u, hu⟩ := mem_runArgs.mp ha
    have hamounts := amountsFrom_of_makeEmission har
    rw [hamounts.co2BiogenicTonne] at hbio
    rw [hamounts.co2FossilTonne, htco2e a r har]
    exact (marked_of_mem hu).memo hbio
  case independent =>
    intro share records' h'
    have hbuilt' := (run_plan { catalog with getBiogenicShare := share } gwp inputs).builds _ h'
    rw [map_of_built htco2e hbuilt, map_of_built htco2e hbuilt']
    exact runArgs_tco2e_of_share share

theorem tagged_of_run (h : run catalog gwp inputs = .ok records) :
    Tagged gwp.code inputs.regulatoryStream records := by
  intro r hr
  obtain ⟨a, ha, har⟩ := (mem_built ((run_plan catalog gwp inputs).builds records h)).mp hr
  obtain ⟨u, hu⟩ := mem_runArgs.mp ha
  have hbuilt := builtFrom_of_makeEmission har
  exact ⟨hbuilt.gwpSet.trans (marked_of_mem hu).gwpSet, hbuilt.regulatoryStream⟩

/-- If both tracks run over the same rows, with a catalog that agrees between the tracks, their
records correspond one to one. -/
theorem tracks_coherent (catalog : FactorCatalogPort) (hcat : TracksAgree catalog .ar6 .ar5)
    (inputs inputs' : CalcRunInputs) (hsame : SameActivity inputs inputs')
    (records records' : List EmissionRecord) (h : run catalog gwpAr6 inputs = .ok records)
    (h' : run catalog gwpAr5 inputs' = .ok records') :
    List.Forall₂ (TrackPair catalog gwpAr6 gwpAr5 inputs.scope1Rows) records records' ∧
      MemoOnly catalog gwpAr6 inputs records ∧ MemoOnly catalog gwpAr5 inputs' records' ∧
      Tagged .ar6 inputs.regulatoryStream records ∧
      Tagged .ar5 inputs'.regulatoryStream records' := by
  have hplan := run_plan catalog gwpAr6 inputs
  have hplan' := run_plan catalog gwpAr5 inputs'
  have hready := (hplan.succeeds.mp ⟨records, h⟩).1
  have hready' := (hplan'.succeeds.mp ⟨records', h'⟩).1
  have hlines : List.Forall₂ (LinePair catalog gwpAr6 gwpAr5 inputs.scope1Rows)
      (runArgs catalog gwpAr6 inputs) (runArgs catalog gwpAr5 inputs') :=
    linePairs_runArgs hcat rfl hsame hready hready'
  refine ⟨?_, memoOnly_of_run h, memoOnly_of_run h', tagged_of_run h, tagged_of_run h'⟩
  refine related_of_built ?_ hlines (hplan.builds records h) (hplan'.builds records' h')
  intro a a' r r' hpair hr hr'
  exact trackPair_of_linePair hpair hr hr'

end CalcOrchestrator

/-- A stored catalog agrees between the tracks if its rows of one factor have equal figures. -/
theorem tracksAgree_of_rows {catalog : FactorCatalog} {tenantId : Uuid} {g g' : GwpSet}
    (h : ∀ row ∈ catalog.rows, ∀ row' ∈ catalog.rows, row.factorId = row'.factorId →
      row.value = row'.value ∧ row.biogenicCo2KgPerUnit = row'.biogenicCo2KgPerUnit) :
    TracksAgree (sqlFactorCatalogAdapter catalog tenantId) g g' := by
  intro factorId f f' hf hf'
  obtain ⟨row, hrow, hsel, hfrow⟩ := factorDbId_of_fetch hf
  obtain ⟨row', hrow', hsel', hfrow'⟩ := factorDbId_of_fetch hf'
  obtain ⟨hvalue, hbio⟩ := h row hrow row' hrow' (hsel.2.1.trans hsel'.2.1.symm)
  have hshare : ∀ {g f}, fetch catalog tenantId factorId g none = .ok f →
      (sqlFactorCatalogAdapter catalog tenantId).getBiogenicShare factorId g =
        f.biogenicCo2KgPerUnit := by
    intro g f hget
    simp only [sqlFactorCatalogAdapter, hget]
  rw [hshare hf, hshare hf', hfrow, hfrow']
  exact ⟨hvalue, hbio⟩

/-- The fixed factors and those of natural gas, on both tracks. -/
def dualGasCatalog : FactorCatalog where
  rows := gasFactorCatalog.rows ++
    [publishedRow 22 "COMB_GAS_NAT_CO2_DEFRA_2025" "kg CO2 / Sm3" .ar5 2,
      publishedRow 23 "COMB_GAS_NAT_CH4_DEFRA_2025" "kg CH4 / Sm3" .ar5 (1 / 1000),
      publishedRow 24 "COMB_GAS_NAT_N2O_DEFRA_2025" "kg N2O / Sm3" .ar5 (1 / 1000),
      publishedRow 25 "WTT_GAS_NAT_DEFRA_2025" "kg CO2e / Sm3" .ar6 (1 / 5),
      publishedRow 26 "WTT_GAS_NAT_DEFRA_2025" "kg CO2e / Sm3" .ar5 (1 / 5)]
  pk := by decide
  version_unique := by decide

theorem tracks_coherent_gas :
    let catalog := sqlFactorCatalogAdapter dualGasCatalog 1
    let inputs := scope1Inputs [scope1Row 1 "Combustione" "GAS_NAT"]
    let inputs' := { inputs with regulatoryStream := .euEtsPhaseIv }
    ∃ records records', CalcOrchestrator.run catalog gwpAr6 inputs = .ok records ∧
      CalcOrchestrator.run catalog gwpAr5 inputs' = .ok records' ∧
      List.Forall₂ (TrackPair catalog gwpAr6 gwpAr5 inputs.scope1Rows) records records' ∧
      Tagged .ar6 .csrdEsrsE1 records ∧ Tagged .ar5 .euEtsPhaseIv records' := by
  intro catalog inputs inputs'
  obtain ⟨records, h⟩ := exists_ok_of_toBool (show
    (CalcOrchestrator.run catalog gwpAr6 inputs).toBool = true by decide +kernel)
  obtain ⟨records', h'⟩ := exists_ok_of_toBool (show
    (CalcOrchestrator.run catalog gwpAr5 inputs').toBool = true by decide +kernel)
  obtain ⟨hpairs, -, -, htag, htag'⟩ := CalcOrchestrator.tracks_coherent catalog
    (tracksAgree_of_rows (by decide +kernel)) inputs inputs' ⟨rfl, rfl, rfl, rfl, rfl⟩ records
    records' h h'
  exact ⟨records, records', h, h', hpairs, htag, htag'⟩

end GhgTool
