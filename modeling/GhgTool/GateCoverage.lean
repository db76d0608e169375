import GhgTool.EtlOrchestrator

/-!
# What the two coverage gates see

`checkFacilityCoverage` and `checkTemporalGap` quantify over the years, sites and fuels of the
Scope 1 frame alone. Both are read here as relations on that frame; from these follow when their
passing means coverage, and when a synthesised row only closes findings.
-/

namespace GhgTool

variable {F : Type} {rt : Runtime F}

/-! ## The gates as relations -/

section Relations

variable (df1 : List (Scope1Row rt)) (df2 : List (Scope2Row rt))

/-- A year that occurs in the Scope 1 frame. -/
def Year1 (year : Anno) : Prop :=
  ∃ r ∈ df1, r.anno = year

def Year2 (year : Anno) : Prop :=
  ∃ r ∈ df2, r.anno = year

def Present1 (site : Sito) (year : Anno) : Prop :=
  ∃ r ∈ df1, r.codiceSito = site ∧ r.anno = year

def Burns (fuel : String) (site : Sito) (year : Anno) : Prop :=
  ∃ r ∈ df1, r.combustibile.1 = fuel ∧ r.codiceSito = site ∧ r.anno = year

def Buys (voce : VoceS2) (site : Sito) (year : Anno) : Prop :=
  ∃ r ∈ df2, r.voceS2 = voce ∧ r.codiceSito = site ∧ r.anno = year

/-- What the first gate reports: a site without any row in a year of the frame. -/
def SiteMissing (site : Sito) (year : Anno) : Prop :=
  Year1 df1 year ∧ ¬ Present1 df1 site year

/-- What the second gate reports: a fuel that a site burns in some year but not in this one. -/
def FuelGap (fuel : String) (site : Sito) (year : Anno) : Prop :=
  Year1 df1 year ∧ (∃ other, Burns df1 fuel site other) ∧ ¬ Burns df1 fuel site year

variable {df1 df2} {fuel : String} {site : Sito} {year : Anno}

theorem Burns.year1 (h : Burns df1 fuel site year) : Year1 df1 year := by
  obtain ⟨r, hr, -, -, hyear⟩ := h
  exact ⟨r, hr, hyear⟩

theorem Burns.present1 (h : Burns df1 fuel site year) : Present1 df1 site year := by
  obtain ⟨r, hr, -, hsite, hyear⟩ := h
  exact ⟨r, hr, hsite, hyear⟩

theorem mem_uniqueYears : year ∈ uniqueYears rt df1 ↔ Year1 df1 year := by
  rw [uniqueYears, List.mem_eraseDups, List.mem_map]
  rfl

theorem mem_sitesOf : site ∈ sitesOf rt df1 year ↔ Present1 df1 site year := by
  simp only [sitesOf, List.mem_eraseDups, List.mem_map, List.mem_filter, decide_eq_true_eq,
    Present1]
  constructor
  · rintro ⟨r, ⟨hr, hyear⟩, hsite⟩
    exact ⟨r, hr, hsite, hyear⟩
  · rintro ⟨r, hr, hsite, hyear⟩
    exact ⟨r, ⟨hr, hyear⟩, hsite⟩

theorem mem_missingSites : site ∈ missingSites rt df1 year ↔ ¬ Present1 df1 site year := by
  simp only [missingSites, List.mem_filter, Sito.mem_valid, true_and, decide_eq_true_eq,
    mem_sitesOf]

theorem mem_sortedYears : year ∈ sortedYears rt df1 ↔ Year1 df1 year := by
  rw [sortedYears, List.mem_insertionSort, mem_uniqueYears]

theorem mem_presentIn : site ∈ presentIn rt df1 fuel year ↔ Burns df1 fuel site year := by
  simp only [presentIn, List.mem_eraseDups, List.mem_map, List.mem_filter, decide_eq_true_eq,
    Burns]
  constructor
  · rintro ⟨r, ⟨hr, hfuel, hyear⟩, hsite⟩
    exact ⟨r, hr, hfuel, hsite, hyear⟩
  · rintro ⟨r, hr, hfuel, hsite, hyear⟩
    exact ⟨r, ⟨hr, hfuel, hyear⟩, hsite⟩

theorem mem_baseSites : site ∈ baseSites rt df1 fuel ↔ ∃ other, Burns df1 fuel site other := by
  simp only [baseSites, List.mem_eraseDups, List.mem_flatMap, mem_sortedYears, mem_presentIn]
  constructor
  · rintro ⟨other, -, h⟩
    exact ⟨other, h⟩
  · rintro ⟨other, h⟩
    exact ⟨other, h.year1, h⟩

theorem mem_fuelsOf : fuel ∈ fuelsOf rt df1 ↔ ∃ r ∈ df1, r.combustibile.1 = fuel := by
  rw [fuelsOf, List.mem_insertionSort, List.mem_eraseDups, List.mem_map]

theorem mem_gapsOf {f : Finding F} : f ∈ gapsOf rt df1 fuel year ↔
    ∃ site, (∃ other, Burns df1 fuel site other) ∧ ¬ Burns df1 fuel site year ∧
      f = gapFinding rt fuel year site := by
  simp only [gapsOf, List.mem_map, (rt.setOrder_perm _).mem_iff, List.mem_filter, mem_baseSites,
    decide_eq_true_eq, mem_presentIn]
  constructor
  · rintro ⟨site, ⟨hother, hnot⟩, rfl⟩
    exact ⟨site, hother, hnot, rfl⟩
  · rintro ⟨site, hother, hnot, rfl⟩
    exact ⟨site, ⟨hother, hnot⟩, rfl⟩

theorem mem_facilityCoverage {f : Finding F} : f ∈ (checkFacilityCoverage rt df1 df2).findings ↔
    ∃ site year, SiteMissing df1 site year ∧ f = coverageFinding rt df1 year site := by
  simp only [checkFacilityCoverage, gate, List.mem_flatMap, List.mem_map, mem_uniqueYears,
    mem_missingSites]
  constructor
  · rintro ⟨year, hyear, site, hmiss, rfl⟩
    exact ⟨site, year, ⟨hyear, hmiss⟩, rfl⟩
  · rintro ⟨site, year, ⟨hyear, hmiss⟩, rfl⟩
    exact ⟨year, hyear, site, hmiss, rfl⟩

/-- In a single year there is no gap, which is what the early return of the gate relies on. -/
theorem not_fuelGap_of_short (h : (sortedYears rt df1).length < 2) :
    ¬ FuelGap df1 fuel site year := by
  rintro ⟨hyear, ⟨other, hother⟩, hnot⟩
  have hmem := mem_sortedYears.mpr hyear
  have hmem' := mem_sortedYears.mpr hother.year1
  match hys : sortedYears rt df1 with
  | [] =>
      rw [hys] at hmem
      cases hmem
  | [y] =>
      rw [hys, List.mem_singleton] at hmem hmem'
      rw [hmem'] at hother
      rw [hmem] at hnot
      exact hnot hother
  | _ :: _ :: _ =>
      rw [hys, List.length_cons, List.length_cons] at h
      omega

theorem mem_temporalGap {f : Finding F} : f ∈ (checkTemporalGap rt df1 df2).findings ↔
    ∃ fuel site year, FuelGap df1 fuel site year ∧ f = gapFinding rt fuel year site := by
  unfold checkTemporalGap
  split
  · next hshort =>
      constructor
      · intro hf
        cases hf
      · rintro ⟨fuel, site, year, hgap, -⟩
        exact absurd hgap (not_fuelGap_of_short hshort)
  · simp only [gate, List.mem_flatMap, mem_fuelsOf, mem_sortedYears, mem_gapsOf]
    constructor
    · rintro ⟨fuel, -, year, hyear, site, hother, hnot, rfl⟩
      exact ⟨fuel, site, year, ⟨hyear, hother, hnot⟩, rfl⟩
    · rintro ⟨fuel, site, year, ⟨hyear, ⟨other, hother⟩, hnot⟩, rfl⟩
      obtain ⟨r, hr, hfuel, -, -⟩ := id hother
      exact ⟨fuel, ⟨r, hr, hfuel⟩, year, hyear, site, ⟨other, hother⟩, hnot, rfl⟩

theorem facilityCoverage_passes_iff : (checkFacilityCoverage rt df1 df2).passes = true ↔
    ∀ site year, ¬ SiteMissing df1 site year := by
  rw [(blocking_facilityCoverage df1 df2).passes_iff, List.eq_nil_iff_forall_not_mem]
  simp only [mem_facilityCoverage]
  constructor
  · intro h site year hmiss
    exact h _ ⟨site, year, hmiss, rfl⟩
  · rintro h f ⟨site, year, hmiss, -⟩
    exact h site year hmiss

theorem temporalGap_passes_iff : (checkTemporalGap rt df1 df2).passes = true ↔
    ∀ fuel site year, ¬ FuelGap df1 fuel site year := by
  rw [(blocking_temporalGap df1 df2).passes_iff, List.eq_nil_iff_forall_not_mem]
  simp only [mem_temporalGap]
  constructor
  · intro h fuel site year hgap
    exact h _ ⟨fuel, site, year, hgap, rfl⟩
  · rintro h f ⟨fuel, site, year, hgap, -⟩
    exact h fuel site year hgap

end Relations

/-! ## When passing means coverage -/

/-- Every site has gas and certified electricity in every year, and no site leaves out a fuel or a
kind of electricity in a year. -/
structure Covered (df1 : List (Scope1Row rt)) (df2 : List (Scope2Row rt)) : Prop where
  gas : ∀ year, Year1 df1 year ∨ Year2 df2 year → ∀ site, Burns df1 "GAS_NAT" site year
  go : ∀ year, Year1 df1 year ∨ Year2 df2 year → ∀ site, Buys df2 .eeAcquistataGo site year
  fuels : ∀ fuel site year, Burns df1 fuel site year →
    ∀ other, Year1 df1 other → Burns df1 fuel site other
  voci : ∀ voce site year, Buys df2 voce site year →
    ∀ other, Year2 df2 other → Buys df2 voce site other

/-- What neither gate looks at: the years of Scope 2, gas among the fuels of a site, and the whole
of the Scope 2 frame. -/
structure UnseenPartHolds (df1 : List (Scope1Row rt)) (df2 : List (Scope2Row rt)) : Prop where
  years : ∀ year, Year2 df2 year → Year1 df1 year
  gas : ∀ year, Year1 df1 year → ∀ site, ∃ other, Burns df1 "GAS_NAT" site other
  go : ∀ year, Year1 df1 year → ∀ site, Buys df2 .eeAcquistataGo site year
  grid : ∀ site year, Buys df2 .eeAcquistataGrid site year →
    ∀ other, Year2 df2 other → Buys df2 .eeAcquistataGrid site other

theorem covered_iff_unseen {df1 : List (Scope1Row rt)} {df2 : List (Scope2Row rt)}
    (hgap : ∀ fuel site year, ¬ FuelGap df1 fuel site year) :
    Covered df1 df2 ↔ UnseenPartHolds df1 df2 := by
  constructor
  · intro h
    refine ⟨?_, ?_, ?_, ?_⟩
    · intro year hyear
      exact (h.gas year (.inr hyear) .iano).year1
    · intro year hyear site
      exact ⟨year, h.gas year (.inl hyear) site⟩
    · intro year hyear
      exact h.go year (.inl hyear)
    · intro site year hbuys
      exact h.voci .eeAcquistataGrid site year hbuys
  · intro h
    have hyears : ∀ year, Year1 df1 year ∨ Year2 df2 year → Year1 df1 year := by
      rintro year (hyear | hyear)
      · exact hyear
      · exact h.years year hyear
    refine ⟨?_, ?_, ?_, ?_⟩
    · intro year hyear site
      by_contra hnot
      exact hgap _ _ _ ⟨hyears year hyear, h.gas year (hyears year hyear) site, hnot⟩
    · intro year hyear
      exact h.go year (hyears year hyear)
    · intro fuel site year hburns other hother
      by_contra hnot
      exact hgap fuel site other ⟨hother, ⟨year, hburns⟩, hnot⟩
    · intro voce site year hbuys other hother
      cases voce with
      | eeAcquistataGo => exact h.go other (h.years other hother) site
      | eeAcquistataGrid => exact h.grid site year hbuys other hother

/-- Passing both gates means coverage exactly when a gate fails on the Scope 1 frame or the part
that neither gate looks at is in order. -/
theorem passing_means_coverage_iff (df1 : List (Scope1Row rt))
    (df2 : List (Scope2Row rt)) :
    ((checkFacilityCoverage rt df1 df2).passes = true →
        (checkTemporalGap rt df1 df2).passes = true → Covered df1 df2) ↔
      (∃ site year, SiteMissing df1 site year) ∨ (∃ fuel site year, FuelGap df1 fuel site year) ∨
        UnseenPartHolds df1 df2 := by
  rw [facilityCoverage_passes_iff, temporalGap_passes_iff]
  constructor
  · intro h
    by_cases hmiss : ∃ site year, SiteMissing df1 site year
    · exact .inl hmiss
    by_cases hgap : ∃ fuel site year, FuelGap df1 fuel site year
    · exact .inr (.inl hgap)
    have hgap' : ∀ fuel site year, ¬ FuelGap df1 fuel site year :=
      fun fuel site year hg => hgap ⟨fuel, site, year, hg⟩
    have hcovered := h (fun site year hm => hmiss ⟨site, year, hm⟩) hgap'
    exact .inr (.inr ((covered_iff_unseen hgap').mp hcovered))
  · rintro (⟨site, year, hmiss⟩ | ⟨fuel, site, year, hgap⟩ | hunseen) hfacility htemporal
    · exact absurd hmiss (hfacility site year)
    · exact absurd hgap (htemporal fuel site year)
    · exact (covered_iff_unseen htemporal).mpr hunseen

/-- Gas at each of the seven sites in one year. -/
def gasEverywhere (anno : Anno) : List (Scope1Row plainRuntime) :=
  Sito.valid.map fun site =>
    plainScope1Row anno site ⟨"Combustione stazionaria", combustioneStazionaria_filled⟩
      ⟨"GAS_NAT", gasNat_filled⟩ 100

/-- A workbook with gas at every site and no electricity at all. -/
theorem passes_without_electricity :
    let df1 := gasEverywhere ⟨2024, by decide⟩
    (checkFacilityCoverage plainRuntime df1 []).passes = true ∧
      (checkTemporalGap plainRuntime df1 []).passes = true ∧ ¬ Covered df1 [] := by
  intro df1
  refine ⟨by decide +kernel, by decide +kernel, fun h => ?_⟩
  have hyear : Year1 df1 ⟨2024, by decide⟩ := ⟨_, List.mem_cons_self, rfl⟩
  obtain ⟨r, hr, -⟩ := h.go _ (.inl hyear) .iano
  cases hr

end GhgTool
