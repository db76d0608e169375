import GhgTool.FactorCatalog
import GhgTool.Text

/-!
# The vintage of a factor

The queries of the adapter end in `ORDER BY valid_from DESC LIMIT 1`: of several newest rows any
may come. `FetchResult` is what a query may answer, and `AdapterPort` an adapter that answers so
and remembers its answers.

The contract of the auto-calc service asks for the closest prior vintage; the query compares the
vintage with the year as text.
-/

namespace GhgTool

/-- A row of the greatest `valid_from` among those that satisfy `p`. -/
def Newest (rows : List CatalogRow) (p : CatalogRow → Prop) (r : CatalogRow) : Prop :=
  r ∈ rows ∧ p r ∧ ∀ s ∈ rows, p s → s.validFrom ≤ r.validFrom

theorem newest_of_argmax {rows : List CatalogRow} {p : CatalogRow → Prop} [DecidablePred p]
    {r : CatalogRow} (h : (rows.filter p).argmax CatalogRow.validFrom = some r) :
    Newest rows p r := by
  obtain ⟨hr, hp⟩ := List.mem_filter.mp (List.argmax_mem h)
  refine ⟨hr, of_decide_eq_true hp, fun s hs hps => ?_⟩
  exact List.le_of_mem_argmax (List.mem_filter.mpr ⟨hs, decide_eq_true hps⟩) h

theorem not_of_argmax_eq_none {rows : List CatalogRow} {p : CatalogRow → Prop} [DecidablePred p]
    (h : (rows.filter p).argmax CatalogRow.validFrom = none) : ∀ r ∈ rows, ¬ p r := by
  intro r hr hp
  have hempty := List.argmax_eq_none.mp h
  exact absurd (decide_eq_true hp) (List.filter_eq_nil_iff.mp hempty r hr)

theorem exists_newest {rows : List CatalogRow} {p : CatalogRow → Prop} {r : CatalogRow}
    (hr : r ∈ rows) (hp : p r) : ∃ s, Newest rows p s := by
  classical
  cases h : (rows.filter p).argmax CatalogRow.validFrom with
  | none => exact absurd hp (not_of_argmax_eq_none h r hr)
  | some s => exact ⟨s, newest_of_argmax h⟩

section Adapter

variable (catalog : FactorCatalog) (tenantId : Uuid)

/-- What `_fetch` may end in. -/
inductive FetchResult (factorId : String) (gwpSet : GwpSet) (vintageYear : Option ℕ) :
    Except CalcError FactorRecord → Prop
  | found {r : CatalogRow}
      (h : Newest catalog.rows (CatalogRow.Selected tenantId factorId gwpSet vintageYear) r) :
      FetchResult factorId gwpSet vintageYear (.ok (rowToFactorRecord r))
  | missing (h : ∀ r ∈ catalog.rows, ¬ r.Selected tenantId factorId gwpSet vintageYear) :
      FetchResult factorId gwpSet vintageYear (.error (.missingFactor factorId gwpSet))

/-- An adapter of the catalog: it keeps the first answer to each query, and reads the biogenic share
off the query without a vintage. -/
structure AdapterPort (port : FactorCatalogPort) : Prop where
  get : ∀ factorId gwpSet vintageYear,
    FetchResult catalog tenantId factorId gwpSet vintageYear (port.get factorId gwpSet vintageYear)
  share : ∀ factorId gwpSet, port.getBiogenicShare factorId gwpSet =
    match port.get factorId gwpSet none with
    | .error _ => none
    | .ok record => record.biogenicCo2KgPerUnit

theorem adapterPort_sql : AdapterPort catalog tenantId
    (sqlFactorCatalogAdapter catalog tenantId) where
  get := by
    intro factorId gwpSet vintageYear
    simp only [sqlFactorCatalogAdapter, fetch]
    split
    · next hnone => exact .missing (not_of_argmax_eq_none hnone)
    · next r hr => exact .found (newest_of_argmax hr)
  share := fun _ _ => rfl

end Adapter

/-! ## The closest prior vintage -/

/-- The vintage as a year, unless it is missing or no number. -/
def CatalogRow.numericVintage (r : CatalogRow) : Option ℕ :=
  r.vintage.bind numericText

def CatalogRow.PublishedAs (tenantId : Uuid) (factorId : String) (gwpSet : GwpSet)
    (r : CatalogRow) : Prop :=
  r.tenantId = tenantId ∧ r.factorId = factorId ∧ r.gwpSet = gwpSet.tag ∧ r.isPublished = true

section ClosestPrior

variable (catalog : FactorCatalog) (tenantId : Uuid) (factorId : String) (gwpSet : GwpSet) (y : ℕ)

/-- A published row whose vintage is no number, or the largest number that does not exceed the
year. -/
def ClosestPrior (r : CatalogRow) : Prop :=
  r ∈ catalog.rows ∧ r.PublishedAs tenantId factorId gwpSet ∧
    ∀ v ∈ r.numericVintage, v ≤ y ∧ ∀ s ∈ catalog.rows, s.PublishedAs tenantId factorId gwpSet →
      ∀ w ∈ s.numericVintage, w ≤ y → w ≤ v

variable {catalog tenantId factorId gwpSet y}

theorem selected_year {r : CatalogRow} : r.Selected tenantId factorId gwpSet (some y) ↔
    r.PublishedAs tenantId factorId gwpSet ∧ r.vintage = some (toString y) := by
  simp only [CatalogRow.Selected, CatalogRow.PublishedAs, and_assoc]

theorem numericVintage_of_text {r : CatalogRow} (h : r.vintage = some (toString y)) :
    r.numericVintage = some y := by
  rw [CatalogRow.numericVintage, h, Option.bind_some, numericText_toString]

/-- A row of exactly the year is as close as can be. -/
theorem closestPrior_of_selected {r : CatalogRow} (hr : r ∈ catalog.rows)
    (hsel : r.Selected tenantId factorId gwpSet (some y)) :
    ClosestPrior catalog tenantId factorId gwpSet y r := by
  obtain ⟨hpub, htext⟩ := selected_year.mp hsel
  refine ⟨hr, hpub, fun v hv => ?_⟩
  rw [numericVintage_of_text htext] at hv
  cases hv
  exact ⟨le_refl _, fun s _ _ w _ hw => hw⟩

/-- One published row that is not of a later year is enough for a closest one. -/
theorem exists_closestPrior {r : CatalogRow} (hr : r ∈ catalog.rows)
    (hpub : r.PublishedAs tenantId factorId gwpSet) (hv : ∀ v ∈ r.numericVintage, v ≤ y) :
    ∃ s, ClosestPrior catalog tenantId factorId gwpSet y s := by
  classical
  cases hnum : r.numericVintage with
  | none => exact ⟨r, hr, hpub, by simp [hnum]⟩
  | some v =>
      let prior := catalog.rows.filter fun s => s.PublishedAs tenantId factorId gwpSet ∧
        ∃ w ∈ s.numericVintage, w ≤ y
      have hmem : r ∈ prior :=
        List.mem_filter.mpr ⟨hr, decide_eq_true ⟨hpub, v, hnum, hv v hnum⟩⟩
      cases hmax : prior.argmax fun s => s.numericVintage.getD 0 with
      | none =>
          rw [List.argmax_eq_none.mp hmax] at hmem
          cases hmem
      | some s =>
          obtain ⟨hs, hdec⟩ := List.mem_filter.mp (List.argmax_mem hmax)
          obtain ⟨hspub, w, hw, hwy⟩ := of_decide_eq_true hdec
          refine ⟨s, hs, hspub, fun v' hv' => ?_⟩
          obtain rfl : w = v' := by
            rw [Option.mem_def] at hw hv'
            exact Option.some.inj (hw.symm.trans hv')
          refine ⟨hwy, fun t ht htpub x hx hxy => ?_⟩
          have hle := List.le_of_mem_argmax (f := fun s => s.numericVintage.getD 0)
            (List.mem_filter.mpr ⟨ht, decide_eq_true ⟨htpub, x, hx, hxy⟩⟩ : t ∈ prior) hmax
          simpa only [Option.mem_def.mp hx, Option.mem_def.mp hw, Option.getD_some] using hle

end ClosestPrior

/-- A lookup answers with the closest prior vintage, and with a missing factor only when there is
none, exactly when a published row bears the year itself as text or all are of later years. -/
theorem closest_prior_iff (catalog : FactorCatalog) (tenantId : Uuid) (factorId : String)
    (gwpSet : GwpSet) (y : ℕ) :
    (∀ result, FetchResult catalog tenantId factorId gwpSet (some y) result →
      Outcome result
        (fun f => ∃ r, ClosestPrior catalog tenantId factorId gwpSet y r ∧ f = rowToFactorRecord r)
        fun _ => ∀ r, ¬ ClosestPrior catalog tenantId factorId gwpSet y r) ↔
      (∃ r ∈ catalog.rows, r.PublishedAs tenantId factorId gwpSet ∧
        r.vintage = some (toString y)) ∨
      ∀ r ∈ catalog.rows, r.PublishedAs tenantId factorId gwpSet →
        ∃ v ∈ r.numericVintage, y < v := by
  constructor
  · intro hall
    by_cases hexact : ∃ r ∈ catalog.rows, r.PublishedAs tenantId factorId gwpSet ∧
        r.vintage = some (toString y)
    · exact .inl hexact
    · refine .inr fun r hr hpub => ?_
      have hmissing := hall _ (.missing fun s hs hsel => hexact ⟨s, hs, selected_year.mp hsel⟩)
      by_contra hlate
      obtain ⟨s, hs⟩ := exists_closestPrior (y := y) hr hpub fun v hv =>
        Nat.le_of_not_lt fun hlt => hlate ⟨v, hv, hlt⟩
      exact hmissing s hs
  · rintro (⟨r, hr, hpub, htext⟩ | hlate) result hresult
    · cases hresult with
      | found h => exact ⟨_, closestPrior_of_selected h.1 h.2.1, rfl⟩
      | missing h => exact absurd (selected_year.mpr ⟨hpub, htext⟩) (h r hr)
    · cases hresult with
      | @found r h =>
          obtain ⟨hpub, htext⟩ := selected_year.mp h.2.1
          obtain ⟨v, hv, hlt⟩ := hlate r h.1 hpub
          rw [numericVintage_of_text htext] at hv
          cases hv
          exact absurd hlt (lt_irrefl _)
      | missing h =>
          rintro r ⟨hr, hpub, hprior⟩
          obtain ⟨v, hv, hlt⟩ := hlate r hr hpub
          exact absurd (hprior v hv).1 (Nat.not_le_of_lt hlt)

/-- A published factor of vintage 2025, asked for the year 2026. -/
theorem prior_vintage_not_found :
    let catalog : FactorCatalog :=
      ⟨[publishedRow 1 "LB_IT_GRID_ISPRA_2024" "kg CO2 / kWh" .ar6 (216 / 1000)], by decide,
        by decide⟩
    FetchResult catalog 1 "LB_IT_GRID_ISPRA_2024" .ar6 (some 2026)
        (.error (.missingFactor "LB_IT_GRID_ISPRA_2024" .ar6)) ∧
      ∃ r, ClosestPrior catalog 1 "LB_IT_GRID_ISPRA_2024" .ar6 2026 r := by
  intro catalog
  refine ⟨.missing ?_, ?_⟩
  · decide +kernel
  · refine exists_closestPrior (List.mem_singleton.mpr rfl) ⟨rfl, rfl, rfl, rfl⟩ ?_
    decide +kernel

end GhgTool
