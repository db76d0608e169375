import GhgTool.AutoCalc
import GhgTool.CalcOrchestrator

/-!
# The two sides of a preview

The preview of a request beside the batch module of its sub-scope, run on the one raw row with the
same data. Both read their factors through the catalog: the preview asks for a factor of the
reporting year as vintage, the batch for a row still valid.
-/

namespace GhgTool

/-! ## The two sides -/

inductive RawRow
  | scope1 (row : RawScope1Row)
  | scope2 (row : RawScope2Row)
  | scope3 (row : RawScope3Row)

/-- The inputs of a run that has this row and no other. -/
def RawRow.alone (base : CalcRunInputs) : RawRow → CalcRunInputs
  | .scope1 row => { base with scope1Rows := [row], scope2Rows := [], scope3Rows := [] }
  | .scope2 row => { base with scope1Rows := [], scope2Rows := [row], scope3Rows := [] }
  | .scope3 row => { base with scope1Rows := [], scope2Rows := [], scope3Rows := [row] }

def CalcSubScope.categoriaS3 : CalcSubScope → ℕ
  | .cat1PurchasedGoods => 1
  | .cat3FuelEnergy => 3
  | .cat4UpstreamTransport => 4
  | .cat5Waste => 5
  | .cat6BusinessTravel => 6
  | .cat7Commuting => 7
  | .cat9DownstreamTransport => 9
  | .cat12Eol => 12
  | _ => 0

/-- The raw row with the data of the request: site, year and quantity, and fuel, category, label or
instrument. -/
def RawRow.Matches (req : CalcInputRequest) : RawRow → Prop
  | .scope1 row => req.scope = .one ∧ req.codiceSito = some row.codiceSito ∧ row.anno = req.anno ∧
      row.quantita = req.quantita ∧
      if req.subScope = .process then row.categoriaS1 = Scope1Process.processCategoryTag
      else req.combustibile.map Combustibile.code = some row.combustibile
  | .scope2 row => req.scope = .two ∧ req.codiceSito = some row.codiceSito ∧ row.anno = req.anno ∧
      row.quantita = req.quantita ∧ row.strumentoMb = req.strumentoMb.map StrumentoMb.label
  | .scope3 row => req.scope = .three ∧ row.anno = req.anno ∧ row.quantita = req.quantita ∧
      row.categoriaS3 = req.subScope.categoriaS3 ∧ req.sottocategoria = some row.sottocategoria

/-- The module of a sub-scope, called as `CalcOrchestrator.run` calls it. -/
def batchRecords (subScope : CalcSubScope) (catalog : FactorCatalogPort) (gwp : GwpValues)
    (inputs : CalcRunInputs) : Except CalcError (List EmissionRecord) :=
  let ctx := commonCtx inputs
  match subScope with
  | .combustion => Scope1Combustion.calculate inputs.scope1Rows catalog gwp ctx
  | .process => Scope1Process.calculate inputs.scope1Rows catalog gwp ctx
  | .lb => Scope2Lb.calculate inputs.scope2Rows catalog gwp ctx
  | .mb => Scope2Mb.calculate inputs.scope2Rows catalog gwp ctx inputs.goEvidence
  | .cat1PurchasedGoods => Scope3Cat1PurchasedGoods.calculate inputs.scope3Rows catalog gwp ctx
  | .cat3FuelEnergy => Scope3Cat3FuelEnergy.calculate (sigmaScope1FromRows inputs.scope1Rows)
      (sigmaScope2FromRows inputs.scope2Rows) catalog gwp ctx
  | .cat4UpstreamTransport =>
    Scope3Cat4UpstreamTransport.labelModule.calculate inputs.scope3Rows catalog gwp ctx
  | .cat5Waste => Scope3Cat5Waste.labelModule.calculate inputs.scope3Rows catalog gwp ctx
  | .cat6BusinessTravel =>
    Scope3Cat6BusinessTravel.labelModule.calculate inputs.scope3Rows catalog gwp ctx
  | .cat7Commuting => Scope3Cat7Commuting.calculate inputs.scope3Rows catalog gwp ctx
  | .cat9DownstreamTransport =>
    Scope3Cat9DownstreamTransport.labelModule.calculate inputs.scope3Rows catalog gwp ctx
  | .cat12Eol => Scope3Cat12Eol.calculate inputs.scope3Rows catalog gwp ctx

def totalTco2e (records : List EmissionRecord) : ℚ :=
  (records.map EmissionRecord.tco2e).sum

/-- The preview returns a value exactly when the module emits a record, and then the rounded total
of the records. -/
def PreviewAgrees (preview : Except PreviewError CalcPreviewResponse)
    (batch : Except CalcError (List EmissionRecord)) : Prop :=
  ((∃ p, preview = .ok p) ↔ ∃ records, batch = .ok records ∧ records ≠ []) ∧
    ∀ p records, preview = .ok p → batch = .ok records →
      p.tco2e = roundHalfUp 6 (totalTco2e records)

/-- The preview side: ready under `R`, with the rounded amount `q`. -/
def Previews (x : Except PreviewError CalcPreviewResponse) (R : Prop) (q : ℚ) : Prop :=
  Yields x (fun _ => True) CalcPreviewResponse.tco2e R (roundHalfUp 6 q)

/-- The batch side: records are emitted under `R`, and add up to `q`. -/
def Emits (x : Except CalcError (List EmissionRecord)) (R : Prop) (q : ℚ) : Prop :=
  Yields x (· ≠ []) totalTco2e R q

theorem previewAgrees_iff {preview : Except PreviewError CalcPreviewResponse}
    {batch : Except CalcError (List EmissionRecord)} {R R' : Prop} {q q' : ℚ}
    (hpreview : Previews preview R q) (hbatch : Emits batch R' q') :
    PreviewAgrees preview batch ↔
      (R ↔ R') ∧ (R → R' → roundHalfUp 6 q = roundHalfUp 6 q') := by
  have hok : (∃ p, preview = .ok p) ↔ R := by
    rw [← hpreview.succeeds]
    simp
  unfold PreviewAgrees
  rw [hok, hbatch.succeeds]
  refine and_congr_right fun hiff => ⟨?_, ?_⟩
  · intro hsame hR hR'
    obtain ⟨p, hp⟩ := hok.mpr hR
    obtain ⟨records, hrecords, hne⟩ := hbatch.succeeds.mpr hR'
    rw [← hpreview.value p hp trivial, hsame p records hp hrecords,
      hbatch.value records hrecords hne]
  · intro hsame p records hp hrecords
    have hR : R := hok.mp ⟨p, hp⟩
    obtain ⟨records', hrecords', hne⟩ := hbatch.succeeds.mpr (hiff.mp hR)
    obtain rfl : records' = records := Except.ok.inj (hrecords'.symm.trans hrecords)
    rw [hpreview.value p hp trivial, hbatch.value records' hrecords hne]
    exact hsame hR (hiff.mp hR)

/-! ## The catalog -/

/-- No factor id has two published rows under the tenant and the GWP set. -/
def SinglePublished (catalog : FactorCatalog) (tenantId : Uuid) (gwpSet : GwpSet) : Prop :=
  ∀ r ∈ catalog.rows, ∀ s ∈ catalog.rows, r.tenantId = tenantId → s.tenantId = tenantId →
    r.gwpSet = gwpSet.tag → s.gwpSet = gwpSet.tag → r.isPublished = true → s.isPublished = true →
    r.factorId = s.factorId → r = s

/-- Where a request reads its factors. -/
structure FactorSource where
  catalog : FactorCatalog
  tenantId : Uuid
  gwpSet : GwpSet
  anno : ℕ
  single : SinglePublished catalog tenantId gwpSet

namespace FactorSource

variable (src : FactorSource)

def port : FactorCatalogPort :=
  sqlFactorCatalogAdapter src.catalog src.tenantId

/-- The published row of a factor id. -/
def published (factorId : String) : Option CatalogRow :=
  src.catalog.rows.find? fun r => decide (r.tenantId = src.tenantId ∧ r.factorId = factorId ∧
    r.gwpSet = src.gwpSet.tag ∧ r.isPublished = true)

def valueOf (factorId : String) : ℚ :=
  ((src.published factorId).bind CatalogRow.value).getD 0

/-- The published row has a value and the reporting year as its vintage. -/
def Vintaged (factorId : String) : Prop :=
  ∃ row ∈ src.published factorId, row.value.isSome = true ∧
    row.vintage = some (toString src.anno)

/-- The published row has a value and is still valid. -/
def Open (factorId : String) : Prop :=
  ∃ row ∈ src.published factorId, row.value.isSome = true ∧ row.validTo = none

variable {src}

theorem published_eq_some {factorId : String} {row : CatalogRow} :
    src.published factorId = some row ↔ row ∈ src.catalog.rows ∧ row.tenantId = src.tenantId ∧
      row.factorId = factorId ∧ row.gwpSet = src.gwpSet.tag ∧ row.isPublished = true := by
  constructor
  · intro h
    exact ⟨List.mem_of_find?_eq_some h, by simpa using List.find?_some h⟩
  · rintro ⟨hmem, htenant, hid, hgwp, hpublished⟩
    cases h : src.published factorId with
    | none =>
        have hnot := List.find?_eq_none.mp h row hmem
        simp [htenant, hid, hgwp, hpublished] at hnot
    | some row' =>
        have hmem' := List.mem_of_find?_eq_some h
        obtain ⟨htenant', hid', hgwp', hpublished'⟩ : row'.tenantId = src.tenantId ∧
            row'.factorId = factorId ∧ row'.gwpSet = src.gwpSet.tag ∧ row'.isPublished = true := by
          simpa using List.find?_some h
        rw [src.single row' hmem' row hmem htenant' htenant hgwp' hgwp hpublished' hpublished
          (hid'.trans hid.symm)]

/-- With one published row there is nothing to choose: a lookup finds that row or nothing. -/
theorem selectFactor_eq_some {factorId : String} {vintageYear : Option ℕ} {row : CatalogRow} :
    selectFactor src.catalog src.tenantId factorId src.gwpSet vintageYear = some row ↔
      src.published factorId = some row ∧
        row.Selected src.tenantId factorId src.gwpSet vintageYear := by
  constructor
  · intro h
    have hmem := List.mem_filter.mp (List.argmax_mem h)
    have hselected : row.Selected src.tenantId factorId src.gwpSet vintageYear := by
      simpa using hmem.2
    obtain ⟨htenant, hid, hgwp, hpublished, -⟩ := id hselected
    exact ⟨published_eq_some.mpr ⟨hmem.1, htenant, hid, hgwp, hpublished⟩, hselected⟩
  · rintro ⟨hrow, hselected⟩
    have hin : row ∈ src.catalog.rows.filter fun r =>
        decide (r.Selected src.tenantId factorId src.gwpSet vintageYear) := by
      rw [List.mem_filter]
      exact ⟨(published_eq_some.mp hrow).1, by simpa using hselected⟩
    cases h : selectFactor src.catalog src.tenantId factorId src.gwpSet vintageYear with
    | none =>
        rw [selectFactor, List.argmax_eq_none] at h
        rw [h] at hin
        cases hin
    | some row' =>
        have hmem' := List.mem_filter.mp (List.argmax_mem h)
        obtain ⟨htenant, hid, hgwp, hpublished, -⟩ :
            row'.Selected src.tenantId factorId src.gwpSet vintageYear := by
          simpa using hmem'.2
        have hrow' := published_eq_some.mpr ⟨hmem'.1, htenant, hid, hgwp, hpublished⟩
        exact hrow'.symm.trans hrow

theorem get_eq_ok {factorId : String} {vintageYear : Option ℕ} {f : FactorRecord} :
    src.port.get factorId src.gwpSet vintageYear = .ok f ↔
      ∃ row, src.published factorId = some row ∧
        row.Selected src.tenantId factorId src.gwpSet vintageYear ∧ f = rowToFactorRecord row := by
  change fetch _ _ _ _ _ = _ ↔ _
  unfold fetch
  constructor
  · intro h
    split at h
    · cases h
    · next row hrow =>
        cases h
        obtain ⟨hpublished, hselected⟩ := selectFactor_eq_some.mp hrow
        exact ⟨row, hpublished, hselected, rfl⟩
  · rintro ⟨row, hpublished, hselected, rfl⟩
    rw [selectFactor_eq_some.mpr ⟨hpublished, hselected⟩]

/-- A factor that was looked up carries the value of the published row. -/
def Carries (src : FactorSource) (factorId : String) (f : FactorRecord) : Prop :=
  f.value = some (src.valueOf factorId)

theorem Carries.valueOrZero {factorId : String} {f : FactorRecord} (h : src.Carries factorId f) :
    f.valueOrZero = src.valueOf factorId := by
  rw [FactorRecord.valueOrZero, h, Option.getD_some]

theorem carries_of_published {factorId : String} {row : CatalogRow}
    (hrow : src.published factorId = some row) (hvalue : row.value.isSome = true) :
    src.Carries factorId (rowToFactorRecord row) := by
  obtain ⟨v, hv⟩ := Option.isSome_iff_exists.mp hvalue
  unfold Carries valueOf
  rw [hrow, Option.bind_some, hv, Option.getD_some]
  exact hv

theorem requireVintage_eq_ok {factorId : String} {f : FactorRecord} :
    requireVintage src.port factorId src.gwpSet src.anno = .ok f ↔
      ∃ row, src.published factorId = some row ∧ row.value.isSome = true ∧
        row.vintage = some (toString src.anno) ∧ f = rowToFactorRecord row := by
  unfold requireVintage
  constructor
  · intro h
    split at h
    · cases h
    · next record hget =>
        obtain ⟨row, hrow, hselected, rfl⟩ := get_eq_ok.mp hget
        split_ifs at h with hvalue
        cases h
        exact ⟨row, hrow, Option.isSome_iff_ne_none.mpr hvalue, hselected.2.2.2.2, rfl⟩
  · rintro ⟨row, hrow, hvalue, hvintage, rfl⟩
    obtain ⟨-, htenant, hid, hgwp, hpublished⟩ := published_eq_some.mp hrow
    rw [get_eq_ok.mpr ⟨row, hrow, ⟨htenant, hid, hgwp, hpublished, hvintage⟩, rfl⟩]
    exact if_neg (Option.isSome_iff_ne_none.mp hvalue)

theorem exists_requireVintage (factorId : String) :
    (∃ f, requireVintage src.port factorId src.gwpSet src.anno = .ok f) ↔
      src.Vintaged factorId := by
  constructor
  · rintro ⟨f, hf⟩
    obtain ⟨row, hrow, hvalue, hvintage, -⟩ := requireVintage_eq_ok.mp hf
    exact ⟨row, hrow, hvalue, hvintage⟩
  · rintro ⟨row, hrow, hvalue, hvintage⟩
    exact ⟨_, requireVintage_eq_ok.mpr ⟨row, hrow, hvalue, hvintage, rfl⟩⟩

theorem carries_of_requireVintage {factorId : String} {f : FactorRecord}
    (h : requireVintage src.port factorId src.gwpSet src.anno = .ok f) :
    src.Carries factorId f := by
  obtain ⟨row, hrow, hvalue, -, rfl⟩ := requireVintage_eq_ok.mp h
  exact carries_of_published hrow hvalue

theorem requireFactor_eq_published {factorId : String} {f : FactorRecord} :
    requireFactor src.port factorId src.gwpSet = .ok f ↔
      ∃ row, src.published factorId = some row ∧ row.value.isSome = true ∧
        row.validTo = none ∧ f = rowToFactorRecord row := by
  rw [requireFactor_eq_ok, get_eq_ok]
  constructor
  · rintro ⟨⟨row, hrow, hselected, rfl⟩, hvalue⟩
    exact ⟨row, hrow, hvalue, hselected.2.2.2.2, rfl⟩
  · rintro ⟨row, hrow, hvalue, hvalid, rfl⟩
    obtain ⟨-, htenant, hid, hgwp, hpublished⟩ := published_eq_some.mp hrow
    exact ⟨⟨row, hrow, ⟨htenant, hid, hgwp, hpublished, hvalid⟩, rfl⟩, hvalue⟩

theorem exists_requireFactor (factorId : String) :
    (∃ f, requireFactor src.port factorId src.gwpSet = .ok f) ↔ src.Open factorId := by
  constructor
  · rintro ⟨f, hf⟩
    obtain ⟨row, hrow, hvalue, hvalid, -⟩ := requireFactor_eq_published.mp hf
    exact ⟨row, hrow, hvalue, hvalid⟩
  · rintro ⟨row, hrow, hvalue, hvalid⟩
    exact ⟨_, requireFactor_eq_published.mpr ⟨row, hrow, hvalue, hvalid, rfl⟩⟩

theorem carries_of_requireFactor {factorId : String} {f : FactorRecord}
    (h : requireFactor src.port factorId src.gwpSet = .ok f) : src.Carries factorId f := by
  obtain ⟨row, hrow, hvalue, -, rfl⟩ := requireFactor_eq_published.mp h
  exact carries_of_published hrow hvalue

/-- The rule for a lookup of the preview. -/
theorem previews_bind {factorId : String} {R : Prop} {q : ℚ}
    {k : FactorRecord → Except PreviewError CalcPreviewResponse}
    (hk : ∀ f, src.Carries factorId f → Previews (k f) R q) :
    Previews (requireVintage src.port factorId src.gwpSet src.anno >>= k)
      (src.Vintaged factorId ∧ R) q :=
  Yields.bind (exists_requireVintage factorId) (fun _ => carries_of_requireVintage) hk

/-- The rule for a lookup of the batch. -/
theorem emits_bind {factorId : String} {R : Prop} {q : ℚ}
    {k : FactorRecord → Except CalcError (List EmissionRecord)}
    (hk : ∀ f, src.Carries factorId f → Emits (k f) R q) :
    Emits (requireFactor src.port factorId src.gwpSet >>= k) (src.Open factorId ∧ R) q :=
  Yields.bind (exists_requireFactor factorId) (fun _ => carries_of_requireFactor) hk

end FactorSource

theorem emits_emit (ctx : RunContext) (a : EmissionArgs) :
    Emits (emit ctx a) (0 ≤ a.tco2e ∧ a.subScope ∈ allowedSubScopes a.scope ∧
      (∀ x ∈ a.co2BiogenicTonne, 0 ≤ x) ∧ ∀ x ∈ a.co2FossilTonne, 0 ≤ x) a.tco2e where
  succeeds := by
    have hmake := @makeEmission_succeeds ctx a
    rw [← hmake]
    constructor
    · rintro ⟨records, h, -⟩
      obtain ⟨r, hr, -⟩ := bind_eq_ok.mp h
      exact ⟨r, hr⟩
    · rintro ⟨r, hr⟩
      exact ⟨[r], bind_eq_ok.mpr ⟨r, hr, rfl⟩, by simp⟩
  value := by
    intro records h _
    obtain ⟨r, hr, hrecords⟩ := bind_eq_ok.mp h
    cases hrecords
    rw [totalTco2e, List.map_singleton, List.sum_singleton, (builtFrom_of_makeEmission hr).tco2e]

theorem ne_nil_of_emit {ctx : RunContext} {a : EmissionArgs} {records : List EmissionRecord}
    (h : emit ctx a = .ok records) : records ≠ [] := by
  obtain ⟨r, -, h⟩ := bind_eq_ok.mp h
  cases h
  simp

/-- Two computations one after the other, each of which emits whenever it returns. -/
theorem Emits.append {x y : Except CalcError (List EmissionRecord)} {R R' : Prop} {q q' : ℚ}
    (hx : Emits x R q) (hy : Emits y R' q') (hxne : ∀ records, x = .ok records → records ≠ [])
    (hyne : ∀ records, y = .ok records → records ≠ []) :
    Emits (x >>= fun xs => y >>= fun ys => .ok (xs ++ ys)) (R ∧ R') (q + q') where
  succeeds := by
    rw [← hx.succeeds, ← hy.succeeds]
    constructor
    · rintro ⟨records, h, -⟩
      obtain ⟨xs, hxs, h⟩ := bind_eq_ok.mp h
      obtain ⟨ys, hys, -⟩ := bind_eq_ok.mp h
      exact ⟨⟨xs, hxs, hxne xs hxs⟩, ⟨ys, hys, hyne ys hys⟩⟩
    · rintro ⟨⟨xs, hxs, hne⟩, ⟨ys, hys, -⟩⟩
      refine ⟨xs ++ ys, ?_, by simp [hne]⟩
      rw [hxs, hys]
      rfl
  value := by
    intro records h _
    obtain ⟨xs, hxs, h⟩ := bind_eq_ok.mp h
    obtain ⟨ys, hys, h⟩ := bind_eq_ok.mp h
    cases h
    rw [totalTco2e, List.map_append, List.sum_append, ← hx.value xs hxs (hxne xs hxs),
      ← hy.value ys hys (hyne ys hys)]
    rfl

theorem previews_pure (p : CalcPreviewResponse) {q : ℚ} (hq : p.tco2e = roundHalfUp 6 q) :
    Previews (.ok p) True q :=
  (yields_ok trivial).congr Iff.rfl hq

theorem previews_error (e : PreviewError) (q : ℚ) : Previews (.error e) False q :=
  yields_none fun _ h => by cases h

end GhgTool
