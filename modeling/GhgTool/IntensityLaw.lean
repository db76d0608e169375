import GhgTool.IntensityView

/-!
# The law of intensities

`compute_intensities` raises for a reference with a denominator that is not positive, wherever it
stands, and for nothing else. Every other call returns three ratios for each reference and variant,
and their numerators are sums over the records: they add up, and the order does not matter.
-/

namespace GhgTool

/-! ## The numerators -/

/-- The numerator of a year and a variant, as `compute_intensities` sums it. -/
def intensityNumerator (ctx : RunContext) (gwpSet : GwpSet) (emissions : List EmissionRecord)
    (anno : ℕ) (variant : String) : ℚ :=
  sumTotal (emList gwpSet ctx.regulatoryStream emissions) anno variant

/-- What one record adds to a numerator. -/
def numeratorShare (ctx : RunContext) (gwpSet : GwpSet) (anno : ℕ) (variant : String)
    (e : EmissionRecord) : ℚ :=
  if e.gwpSet = gwpSet ∧ e.regulatoryStream = ctx.regulatoryStream then
    e.figures.contribution anno variant
  else 0

section Numerator

variable {ctx : RunContext} {gwpSet : GwpSet} {emissions : List EmissionRecord} {anno : ℕ}
  {variant : String}

theorem intensityNumerator_eq : intensityNumerator ctx gwpSet emissions anno variant =
    (emissions.map (numeratorShare ctx gwpSet anno variant)).sum := by
  rw [intensityNumerator, sumTotal_eq, emList, List.map_map]
  exact sum_map_filter (fun e : EmissionRecord => e.gwpSet = gwpSet ∧
    e.regulatoryStream = ctx.regulatoryStream) (fun e => e.figures.contribution anno variant) _

theorem contribution_nonneg (e : EmissionRecord) :
    0 ≤ e.figures.contribution anno variant := by
  unfold Figures.contribution
  split_ifs
  · exact le_rfl
  · exact le_rfl
  · exact e.tco2e_nonneg

theorem intensityNumerator_nonneg : 0 ≤ intensityNumerator ctx gwpSet emissions anno variant := by
  rw [intensityNumerator_eq]
  apply List.sum_nonneg
  intro x hx
  obtain ⟨e, -, rfl⟩ := List.mem_map.mp hx
  unfold numeratorShare
  split_ifs
  · exact contribution_nonneg e
  · exact le_rfl

theorem intensityNumerator_append (more : List EmissionRecord) :
    intensityNumerator ctx gwpSet (emissions ++ more) anno variant =
      intensityNumerator ctx gwpSet emissions anno variant +
        intensityNumerator ctx gwpSet more anno variant := by
  rw [intensityNumerator_eq, intensityNumerator_eq, intensityNumerator_eq, List.map_append,
    List.sum_append]

theorem intensityNumerator_perm {reordered : List EmissionRecord} (h : reordered.Perm emissions) :
    intensityNumerator ctx gwpSet reordered anno variant =
      intensityNumerator ctx gwpSet emissions anno variant := by
  rw [intensityNumerator_eq, intensityNumerator_eq, (h.map _).sum_eq]

theorem numeratorShare_of_foreign {e : EmissionRecord} (h : e.anno ≠ anno ∨
    e.regulatoryStream ≠ ctx.regulatoryStream ∨ e.gwpSet ≠ gwpSet) :
    numeratorShare ctx gwpSet anno variant e = 0 := by
  unfold numeratorShare
  by_cases htrack : e.gwpSet = gwpSet ∧ e.regulatoryStream = ctx.regulatoryStream
  · rw [if_pos htrack]
    rcases h with hanno | hstream | hgwp
    · exact if_pos hanno
    · exact absurd htrack.2 hstream
    · exact absurd htrack.1 hgwp
  · rw [if_neg htrack]

/-- The rows of one variant of Scope 2, in a year and on a track. -/
def scope2Rows (ctx : RunContext) (gwpSet : GwpSet) (anno : ℕ) (variant : SubScope)
    (emissions : List EmissionRecord) : List EmissionRecord :=
  (emList gwpSet ctx.regulatoryStream emissions).filter fun e =>
    e.anno = anno ∧ e.scope = .two ∧ e.subScope = variant

/-- A Scope 2 record is in one variant only; the other scopes are in both. -/
theorem contribution_sub (e : EmissionRecord) (anno : ℕ) :
    e.figures.contribution anno "LB" - e.figures.contribution anno "MB" =
      (if e.anno = anno ∧ e.scope = .two ∧ e.subScope = .lb then e.tco2e else 0) -
        (if e.anno = anno ∧ e.scope = .two ∧ e.subScope = .mb then e.tco2e else 0) := by
  unfold Figures.contribution
  by_cases hanno : e.anno = anno
  · cases hscope : e.scope with
    | one => simp [EmissionRecord.figures, hanno, hscope]
    | three => simp [EmissionRecord.figures, hanno, hscope]
    | two =>
        have hsub : e.subScope = .lb ∨ e.subScope = .mb := by
          have := e.subScope_allowed
          rw [hscope] at this
          simpa [allowedSubScopes] using this
        rcases hsub with hlb | hmb
        · simp [EmissionRecord.figures, hanno, hscope, hlb, SubScope.label]
        · simp [EmissionRecord.figures, hanno, hscope, hmb, SubScope.label]
  · simp [EmissionRecord.figures, hanno]

theorem intensityNumerator_lb_sub_mb :
    intensityNumerator ctx gwpSet emissions anno "LB" -
        intensityNumerator ctx gwpSet emissions anno "MB" =
      ((scope2Rows ctx gwpSet anno .lb emissions).map EmissionRecord.tco2e).sum -
        ((scope2Rows ctx gwpSet anno .mb emissions).map EmissionRecord.tco2e).sum := by
  unfold scope2Rows intensityNumerator
  generalize emList gwpSet ctx.regulatoryStream emissions = rows
  rw [sumTotal_eq, sumTotal_eq, List.map_map, List.map_map,
    sum_map_filter (fun e : EmissionRecord => e.anno = anno ∧ e.scope = .two ∧ e.subScope = .lb)
      EmissionRecord.tco2e,
    sum_map_filter (fun e : EmissionRecord => e.anno = anno ∧ e.scope = .two ∧ e.subScope = .mb)
      EmissionRecord.tco2e]
  induction rows with
  | nil => rfl
  | cons e rows ih =>
      have hhead := contribution_sub e anno
      simp only [List.map_cons, List.sum_cons, Function.comp_apply] at ih ⊢
      linarith

end Numerator

/-! ## The ratios -/

/-- No denominator of the reference is zero or negative. -/
def IntensityReferenceInputs.Positive (ref : IntensityReferenceInputs) : Prop :=
  0 < ref.productionTonnes ∧ 0 < ref.revenueMeur ∧ 0 < ref.fte

/-- What a metric says it measures, and over what. -/
def IntensityMetric.ratio (m : IntensityMetric) : ℕ × String × String × ℚ × ℚ :=
  (m.anno, m.scope2Variant, m.kpiCode, m.numeratorTco2e, m.denominatorValue)

/-- The three ratios of a reference and a variant. -/
def kpiRatios (ref : IntensityReferenceInputs) (variant : String) (numerator : ℚ) :
    List (ℕ × String × String × ℚ × ℚ) :=
  [(ref.anno, variant, "KPI-09", numerator, ref.productionTonnes),
    (ref.anno, variant, "KPI-10", numerator, ref.revenueMeur),
    (ref.anno, variant, "KPI-11", numerator, (ref.fte : ℚ))]

def IntensityMetric.Divides (m : IntensityMetric) : Prop :=
  m.intensityValue * m.denominatorValue = m.numeratorTco2e

def IntensityError.IsDenominator : IntensityError → Prop
  | .invalidIntensityDenominator _ _ _ => True
  | .negativeNumerator _ => False

section Kpis

variable (ctx : RunContext) (gwpSet : GwpSet) {numerator : ℚ} {ref : IntensityReferenceInputs}
  (variant : String)

theorem buildKpis_returns (href : ref.Positive) (hnumerator : 0 ≤ numerator) :
    ∃ metrics, buildKpis ctx gwpSet numerator ref variant = .ok metrics ∧
      Shows IntensityMetric.ratio IntensityMetric.Divides (kpiRatios ref variant numerator)
        metrics := by
  obtain ⟨hproduction, hrevenue, hfte⟩ := href
  have hfte' : (0 : ℚ) < ref.fte := Int.cast_pos.mpr hfte
  unfold buildKpis
  rw [dif_pos hproduction, dif_pos hrevenue, dif_pos hfte', dif_pos hnumerator]
  refine ⟨_, rfl, rfl, ?_⟩
  intro m hm
  simp only [List.mem_cons, List.not_mem_nil, or_false] at hm
  rcases hm with rfl | rfl | rfl
  · exact div_mul_cancel₀ _ hproduction.ne'
  · exact div_mul_cancel₀ _ hrevenue.ne'
  · exact div_mul_cancel₀ _ hfte'.ne'

theorem buildKpis_raises (numerator : ℚ) (href : ¬ref.Positive) :
    ∃ e, buildKpis ctx gwpSet numerator ref variant = .error e ∧ e.IsDenominator := by
  unfold buildKpis
  by_cases hproduction : 0 < ref.productionTonnes
  · rw [dif_pos hproduction]
    by_cases hrevenue : 0 < ref.revenueMeur
    · have hfte : ¬(0 : ℚ) < ref.fte := by
        intro hfte
        exact href ⟨hproduction, hrevenue, Int.cast_pos.mp hfte⟩
      rw [dif_pos hrevenue, dif_neg hfte]
      exact ⟨_, rfl, trivial⟩
    · rw [dif_neg hrevenue]
      exact ⟨_, rfl, trivial⟩
  · rw [dif_neg hproduction]
    exact ⟨_, rfl, trivial⟩

end Kpis

section Law

variable (emissions : List EmissionRecord) {references : List IntensityReferenceInputs}
  (ctx : RunContext) (gwpSet : GwpSet)

theorem computeIntensities_returns (h : ∀ ref ∈ references, ref.Positive) :
    ∃ metrics, computeIntensities emissions references ctx gwpSet = .ok metrics ∧
      Shows IntensityMetric.ratio IntensityMetric.Divides
        (references.flatMap fun ref => scope2Variants.flatMap fun variant =>
          kpiRatios ref variant (intensityNumerator ctx gwpSet emissions ref.anno variant))
        metrics := by
  apply collect_returns
  intro ref href
  apply collect_returns
  intro variant _
  exact buildKpis_returns ctx gwpSet variant (h ref href) intensityNumerator_nonneg

/-- A reference that fails makes both of its variants fail, with an error of its denominators. -/
theorem reference_raises {ref : IntensityReferenceInputs} (href : ¬ref.Positive) :
    ∃ e, collect (fun variant => buildKpis ctx gwpSet
      (intensityNumerator ctx gwpSet emissions ref.anno variant) ref variant) scope2Variants =
        .error e ∧ e.IsDenominator := by
  apply collect_raises
  · intro variant _ e he
    obtain ⟨e', he', hkind⟩ := buildKpis_raises ctx gwpSet variant
      (intensityNumerator ctx gwpSet emissions ref.anno variant) href
    rw [he'] at he
    cases he
    exact hkind
  · obtain ⟨e, he, -⟩ := buildKpis_raises ctx gwpSet "LB"
      (intensityNumerator ctx gwpSet emissions ref.anno "LB") href
    exact ⟨"LB", by simp [scope2Variants], e, he⟩

theorem computeIntensities_raises (h : ∃ ref ∈ references, ¬ref.Positive) :
    ∃ e, computeIntensities emissions references ctx gwpSet = .error e ∧ e.IsDenominator := by
  apply collect_raises
  · intro ref _ e he
    by_cases href : ref.Positive
    · have hone : ∀ r ∈ [ref], r.Positive := by simpa using href
      obtain ⟨metrics, hok, -⟩ := computeIntensities_returns emissions ctx gwpSet hone
      rw [computeIntensities, collect_singleton] at hok
      exact absurd (hok.symm.trans he) (by simp)
    · obtain ⟨e', he', hkind⟩ := reference_raises emissions ctx gwpSet href
      have hsame : e' = e := Except.error.inj (he'.symm.trans he)
      exact hsame ▸ hkind
  · obtain ⟨ref, hmem, href⟩ := h
    obtain ⟨e, he, -⟩ := reference_raises emissions ctx gwpSet href
    exact ⟨ref, hmem, e, he⟩

/-- The denominators alone decide whether there is a result; the ratios come back to the numerators;
the numerators are sums over the records of the year, the stream and the GWP set. -/
theorem intensity_law (emissions : List EmissionRecord)
    (references : List IntensityReferenceInputs) (ctx : RunContext) (gwpSet : GwpSet) :
    ((∃ e, computeIntensities emissions references ctx gwpSet = .error e ∧ e.IsDenominator) ↔
        ∃ ref ∈ references, ref.productionTonnes ≤ 0 ∨ ref.revenueMeur ≤ 0 ∨ ref.fte ≤ 0) ∧
      ((∃ e, computeIntensities emissions references ctx gwpSet = .error e ∧ e.IsDenominator) ∨
        ∃ metrics, computeIntensities emissions references ctx gwpSet = .ok metrics ∧
          (metrics.map IntensityMetric.ratio = references.flatMap fun ref =>
            scope2Variants.flatMap fun variant => kpiRatios ref variant
              (intensityNumerator ctx gwpSet emissions ref.anno variant)) ∧
          ∀ m ∈ metrics, m.Divides) ∧
      ∀ (anno : ℕ) (variant : String),
        (∀ more, intensityNumerator ctx gwpSet (emissions ++ more) anno variant =
          intensityNumerator ctx gwpSet emissions anno variant +
            intensityNumerator ctx gwpSet more anno variant) ∧
        (∀ reordered, reordered.Perm emissions →
          intensityNumerator ctx gwpSet reordered anno variant =
            intensityNumerator ctx gwpSet emissions anno variant) ∧
        (∀ e : EmissionRecord, e.anno ≠ anno ∨ e.regulatoryStream ≠ ctx.regulatoryStream ∨
          e.gwpSet ≠ gwpSet → intensityNumerator ctx gwpSet (e :: emissions) anno variant =
            intensityNumerator ctx gwpSet emissions anno variant) ∧
        intensityNumerator ctx gwpSet emissions anno "LB" -
            intensityNumerator ctx gwpSet emissions anno "MB" =
          ((scope2Rows ctx gwpSet anno .lb emissions).map EmissionRecord.tco2e).sum -
            ((scope2Rows ctx gwpSet anno .mb emissions).map EmissionRecord.tco2e).sum := by
  have hbad : (∃ ref ∈ references, ref.productionTonnes ≤ 0 ∨ ref.revenueMeur ≤ 0 ∨ ref.fte ≤ 0) ↔
      ∃ ref ∈ references, ¬ref.Positive := by
    simp only [IntensityReferenceInputs.Positive, not_and_or, not_lt]
  refine ⟨?_, ?_, ?_⟩
  · rw [hbad]
    constructor
    · rintro ⟨e, he, -⟩
      by_contra hgood
      obtain ⟨metrics, hok, -⟩ := computeIntensities_returns emissions ctx gwpSet
        fun ref hmem => by_contra fun href => hgood ⟨ref, hmem, href⟩
      rw [he] at hok
      cases hok
    · exact computeIntensities_raises emissions ctx gwpSet
  · by_cases hall : ∀ ref ∈ references, ref.Positive
    · exact .inr (computeIntensities_returns emissions ctx gwpSet hall)
    · push Not at hall
      exact .inl (computeIntensities_raises emissions ctx gwpSet hall)
  · intro anno variant
    refine ⟨intensityNumerator_append, fun _ => intensityNumerator_perm, ?_,
      intensityNumerator_lb_sub_mb⟩
    intro e he
    rw [intensityNumerator_eq, intensityNumerator_eq, List.map_cons, List.sum_cons,
      numeratorShare_of_foreign he, zero_add]

end Law

end GhgTool
