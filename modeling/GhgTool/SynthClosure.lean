import GhgTool.GateCoverage

/-!
# Synthesised rows and the coverage gates

The synthesised gas row bears the year 2024 whatever the years of the frame. It closes findings in
a frame that has that year; it opens findings in a frame that has not, and where the site burns gas
in no year of a frame with several.
-/

namespace GhgTool

variable {F : Type} {rt : Runtime F}

/-! ## The synthesised row in the typed frame -/

def Scope1Row.widen (r : Scope1Row rt) : Scope1Row rt :=
  { r with provenance := some r.provenance.join }

theorem check_widen (r : Scope1Raw) :
    r.widen.check rt = (r.check rt).map Scope1Row.widen := by
  simp only [Scope1Raw.check, Scope1Raw.widen, Option.map_bind, Option.bind_eq_bind,
    Function.comp_def, Option.pure_def, Option.map_some, Scope1Row.widen]

def year2024 : Anno := ⟨2024, anno_2024⟩

theorem intInRange_toString {low high n : ℕ} (h : low ≤ n ∧ n ≤ high) :
    intInRange rt low high (some (toString n)) = some ⟨n, h⟩ := by
  simp only [intInRange, Option.bind_some, rt.int_toString, Int.toNat_natCast, dif_pos h]

theorem scopeIs_toString (n : ℕ) : scopeIs rt n (some (toString n)) = some () := by
  simp only [scopeIs, Option.bind_some, rt.int_toString, if_pos]

theorem quantity_zero : quantity rt (some "0") = some ⟨rt.lit 0, rt.lit_zero_le⟩ := by
  simp only [quantity, Option.bind_some, rt.float_zero, dif_pos rt.lit_zero_le]

variable (rt) in
theorem check_synthRow : ∃ x : Scope1Row rt, VianoGargola.synthRow.check rt = some x ∧
    x.anno = year2024 ∧ x.codiceSito = .vianoGargola ∧ x.combustibile.1 = "GAS_NAT" := by
  have hscope : scopeIs rt 1 (some "1") = some () := scopeIs_toString 1
  have hanno : intInRange rt 2020 2099 (some "2024") = some year2024 :=
    intInRange_toString year2024.2
  simp only [Scope1Raw.check, VianoGargola.synthRow, hscope, hanno, quantity_zero]
  exact ⟨_, rfl, rfl, rfl, rfl⟩

theorem check_fields {r : Scope1Raw} {x : Scope1Row rt} (h : r.check rt = some x) :
    intInRange rt 2020 2099 r.anno = some x.anno ∧ sito r.codiceSito = some x.codiceSito ∧
      filled r.combustibile = some x.combustibile := by
  unfold Scope1Raw.check at h
  obtain ⟨_, -, h⟩ := Option.bind_eq_some_iff.mp h
  obtain ⟨anno, hanno, h⟩ := Option.bind_eq_some_iff.mp h
  obtain ⟨site, hsite, h⟩ := Option.bind_eq_some_iff.mp h
  obtain ⟨_, -, h⟩ := Option.bind_eq_some_iff.mp h
  obtain ⟨fuel, hfuel, h⟩ := Option.bind_eq_some_iff.mp h
  obtain ⟨_, -, h⟩ := Option.bind_eq_some_iff.mp h
  obtain ⟨_, -, h⟩ := Option.bind_eq_some_iff.mp h
  obtain ⟨_, -, h⟩ := Option.bind_eq_some_iff.mp h
  obtain ⟨_, -, h⟩ := Option.bind_eq_some_iff.mp h
  obtain ⟨_, -, h⟩ := Option.bind_eq_some_iff.mp h
  cases h
  exact ⟨hanno, hsite, hfuel⟩

/-- A row that keeps the synthesised one away is a gas row of the site and the year. -/
theorem check_of_mask {r : Scope1Raw} {x : Scope1Row rt} (hmask : VianoGargola.Mask r)
    (h : r.check rt = some x) :
    x.anno = year2024 ∧ x.codiceSito = .vianoGargola ∧ x.combustibile.1 = "GAS_NAT" := by
  obtain ⟨hsite, hyear, hfuel⟩ := hmask
  obtain ⟨hanno, hsito, hfilled⟩ := check_fields h
  have htext : r.anno = some (toString year2024.1) := by
    cases hcell : r.anno with
    | none =>
        rw [hcell] at hyear
        exact absurd hyear (by decide)
    | some text =>
        rw [hcell] at hyear
        exact congrArg some hyear
  rw [htext, intInRange_toString year2024.2] at hanno
  rw [hsite] at hsito
  rw [hfuel] at hfilled
  refine ⟨(Option.some.inj hanno).symm, Option.some.inj (hsito.symm.trans ?_), ?_⟩
  · decide
  · have hgas : filled (some "GAS_NAT") = some ⟨"GAS_NAT", by decide⟩ := rfl
    rw [hgas] at hfilled
    rw [← Option.some.inj hfilled]

theorem validate_append {ρ τ : Type} {check : ρ → Option τ} {w : ρ → ρ} {w' : τ → τ}
    (hw : ∀ r, check (w r) = (check r).map w') {df : List ρ} {v : List τ} {row : ρ} {x : τ}
    (hv : validate check df = some v) (hx : check row = some x) :
    validate check (df.map w ++ [row]) = some (v.map w' ++ [x]) := by
  rw [validate_eq_some] at hv ⊢
  refine List.rel_append ?_ (.cons hx .nil)
  rw [List.forall₂_map_left_iff, List.forall₂_map_right_iff]
  refine hv.imp fun r y hy => ?_
  rw [hw, hy, Option.map_some]

/-! ## What the row adds -/

/-- A frame as the gates see it, and the frame with the synthesised row. -/
structure GasRowAdded (df df' : List (Scope1Row rt)) : Prop where
  year1 : ∀ year, Year1 df' year ↔ Year1 df year ∨ year = year2024
  present1 : ∀ site year, Present1 df' site year ↔
    Present1 df site year ∨ site = .vianoGargola ∧ year = year2024
  burns : ∀ fuel site year, Burns df' fuel site year ↔
    Burns df fuel site year ∨ fuel = "GAS_NAT" ∧ site = .vianoGargola ∧ year = year2024

theorem gasRowAdded_self {df : List (Scope1Row rt)}
    (h : Burns df "GAS_NAT" .vianoGargola year2024) : GasRowAdded df df where
  year1 := by
    intro year
    constructor
    · exact .inl
    · rintro (hyear | rfl)
      · exact hyear
      · exact h.year1
  present1 := by
    intro site year
    constructor
    · exact .inl
    · rintro (hpresent | ⟨rfl, rfl⟩)
      · exact hpresent
      · exact h.present1
  burns := by
    intro fuel site year
    constructor
    · exact .inl
    · rintro (hburns | ⟨rfl, rfl, rfl⟩)
      · exact hburns
      · exact h

theorem exists_widened_append {df : List (Scope1Row rt)} {x : Scope1Row rt}
    {q : Scope1Row rt → Prop} (hq : ∀ r, q r.widen ↔ q r) :
    (∃ r ∈ df.map Scope1Row.widen ++ [x], q r) ↔ (∃ r ∈ df, q r) ∨ q x := by
  simp only [List.mem_append, List.mem_map, List.mem_singleton, or_and_right, exists_or,
    exists_eq_left]
  apply or_congr_left
  constructor
  · rintro ⟨_, ⟨r, hr, rfl⟩, h⟩
    exact ⟨r, hr, (hq r).mp h⟩
  · rintro ⟨r, hr, h⟩
    exact ⟨_, ⟨r, hr, rfl⟩, (hq r).mpr h⟩

theorem gasRowAdded_append (df : List (Scope1Row rt)) {x : Scope1Row rt}
    (hanno : x.anno = year2024) (hsite : x.codiceSito = .vianoGargola)
    (hfuel : x.combustibile.1 = "GAS_NAT") :
    GasRowAdded df (df.map Scope1Row.widen ++ [x]) where
  year1 := by
    intro year
    unfold Year1
    rw [exists_widened_append fun _ => .rfl, hanno, eq_comm (a := year2024)]
  present1 := by
    intro site year
    unfold Present1
    rw [exists_widened_append fun _ => .rfl, hanno, hsite, eq_comm (a := year2024),
      eq_comm (a := Sito.vianoGargola)]
  burns := by
    intro fuel site year
    unfold Burns
    rw [exists_widened_append fun _ => .rfl, hanno, hsite, hfuel, eq_comm (a := year2024),
      eq_comm (a := Sito.vianoGargola), eq_comm (a := "GAS_NAT")]

theorem validate_synthesiseViano {raw1 : List Scope1Raw} {df : List (Scope1Row rt)}
    (h : validate (Scope1Raw.check rt) raw1 = some df) :
    ∃ df', validate (Scope1Raw.check rt) (synthesiseVianoGargolaGasNat2024 F raw1).1 = some df' ∧
      GasRowAdded df df' := by
  unfold synthesiseVianoGargolaGasNat2024 synthesise
  split
  · next hmask =>
      obtain ⟨r, hr, hmask⟩ := hmask
      obtain ⟨x, hx, hcheck⟩ := exists_checked h hr
      obtain ⟨hanno, hsite, hfuel⟩ := check_of_mask hmask hcheck
      exact ⟨df, h, gasRowAdded_self ⟨x, hx, hfuel, hsite, hanno⟩⟩
  · obtain ⟨x, hx, hanno, hsite, hfuel⟩ := check_synthRow rt
    exact ⟨_, validate_append check_widen h hx, gasRowAdded_append df hanno hsite hfuel⟩

/-! ## The Scope 2 frame -/

def Scope2Row.widen (r : Scope2Row rt) : Scope2Row rt :=
  { r with provenance := some r.provenance.join }

theorem check2_widen (r : Scope2Raw) :
    r.widen.check rt = (r.check rt).map Scope2Row.widen := by
  simp only [Scope2Raw.check, Scope2Raw.widen, Option.map_bind, Option.bind_eq_bind,
    Function.comp_def, Option.pure_def, Option.map_some, Scope2Row.widen]

variable (rt) in
theorem check2_synthRow : ∃ x : Scope2Row rt, SassuoloGrid.synthRow.check rt = some x := by
  have hscope : scopeIs rt 2 (some "2") = some () := scopeIs_toString 2
  have hanno : intInRange rt 2020 2099 (some "2025") = some ⟨2025, by decide⟩ :=
    intInRange_toString (by decide : 2020 ≤ 2025 ∧ 2025 ≤ 2099)
  simp only [Scope2Raw.check, SassuoloGrid.synthRow, hscope, hanno, quantity_zero]
  exact ⟨_, rfl⟩

theorem validate_synthesiseSassuolo {raw2 : List Scope2Raw} {df : List (Scope2Row rt)}
    (h : validate (Scope2Raw.check rt) raw2 = some df) :
    ∃ df', validate (Scope2Raw.check rt) (synthesiseSassuoloGrid2025 F raw2).1 = some df' := by
  unfold synthesiseSassuoloGrid2025 synthesise
  split
  · exact ⟨df, h⟩
  · obtain ⟨x, hx⟩ := check2_synthRow rt
    exact ⟨_, validate_append check2_widen h hx⟩

/-! ## The findings of the two gates -/

/-- What identifies a finding. -/
structure FindingKey where
  ruleId : RuleId
  codiceSito : Option String
  anno : Option ℤ
  metric : Option String
  deriving DecidableEq

def Finding.key (f : Finding F) : FindingKey :=
  ⟨f.ruleId, f.codiceSito, f.anno, f.metric⟩

/-- What the two gates report. -/
def reported (df1 : List (Scope1Row rt)) (df2 : List (Scope2Row rt)) : List FindingKey :=
  ((checkFacilityCoverage rt df1 df2).findings ++ (checkTemporalGap rt df1 df2).findings).map
    Finding.key

def coverageKey (site : Sito) (year : Anno) : FindingKey :=
  ⟨.dqCrit01, some site.code, some year.1, some "facility_coverage_s1"⟩

def gapKey (fuel : String) (site : Sito) (year : Anno) : FindingKey :=
  ⟨.dqCrit05, some site.code, some year.1, some ("temporal_gap_" ++ fuel)⟩

theorem mem_reported {df1 : List (Scope1Row rt)} {df2 : List (Scope2Row rt)} {k : FindingKey} :
    k ∈ reported df1 df2 ↔ (∃ site year, SiteMissing df1 site year ∧ k = coverageKey site year) ∨
      ∃ fuel site year, FuelGap df1 fuel site year ∧ k = gapKey fuel site year := by
  simp only [reported, List.mem_map, List.mem_append, mem_facilityCoverage, mem_temporalGap]
  constructor
  · rintro ⟨f, ⟨site, year, h, rfl⟩ | ⟨fuel, site, year, h, rfl⟩, rfl⟩
    · exact .inl ⟨site, year, h, rfl⟩
    · exact .inr ⟨fuel, site, year, h, rfl⟩
  · rintro (⟨site, year, h, rfl⟩ | ⟨fuel, site, year, h, rfl⟩)
    · exact ⟨_, .inl ⟨site, year, h, rfl⟩, rfl⟩
    · exact ⟨_, .inr ⟨fuel, site, year, h, rfl⟩, rfl⟩

theorem Sito.code_injective : Function.Injective Sito.code := by
  intro a b h
  cases a <;> cases b <;> first | rfl | exact absurd h (by decide)

theorem coverageKey_mem {df1 : List (Scope1Row rt)} {df2 : List (Scope2Row rt)} {site : Sito}
    {year : Anno} : coverageKey site year ∈ reported df1 df2 ↔ SiteMissing df1 site year := by
  rw [mem_reported]
  constructor
  · rintro (⟨site', year', h, hkey⟩ | ⟨fuel, site', year', h, hkey⟩)
    · simp only [coverageKey, FindingKey.mk.injEq, Option.some.injEq, Nat.cast_inj] at hkey
      obtain ⟨-, hsite, hyear, -⟩ := hkey
      rw [Sito.code_injective hsite, Subtype.ext hyear]
      exact h
    · cases congrArg FindingKey.ruleId hkey
  · exact fun h => .inl ⟨site, year, h, rfl⟩

theorem gapKey_mem {df1 : List (Scope1Row rt)} {df2 : List (Scope2Row rt)} {fuel : String}
    {site : Sito} {year : Anno} :
    gapKey fuel site year ∈ reported df1 df2 ↔ FuelGap df1 fuel site year := by
  rw [mem_reported]
  constructor
  · rintro (⟨site', year', h, hkey⟩ | ⟨fuel', site', year', h, hkey⟩)
    · cases congrArg FindingKey.ruleId hkey
    · simp only [gapKey, FindingKey.mk.injEq, Option.some.injEq, Nat.cast_inj] at hkey
      obtain ⟨-, hsite, hyear, hmetric⟩ := hkey
      rw [Sito.code_injective hsite, Subtype.ext hyear, (String.append_right_inj _).mp hmetric]
      exact h
  · exact fun h => .inr ⟨fuel, site, year, h, rfl⟩

/-! ## When the synthesised rows only close findings -/

/-- The frame has the year of the synthesised row, and either no other year or gas at the site. -/
def HasRoom (df1 : List (Scope1Row rt)) : Prop :=
  Year1 df1 year2024 ∧
    ((∀ year, Year1 df1 year → year = year2024) ∨ ∃ year, Burns df1 "GAS_NAT" .vianoGargola year)

theorem hasRoom_of_subset {df df' : List (Scope1Row rt)} {df2 df2' : List (Scope2Row rt)}
    (hadd : GasRowAdded df df') (h : ∀ k ∈ reported df' df2', k ∈ reported df df2) : HasRoom df := by
  have hyear : Year1 df year2024 := by
    by_contra hnot
    have hmiss : SiteMissing df' .iano year2024 := by
      refine ⟨(hadd.year1 _).mpr (.inr rfl), fun hpresent => ?_⟩
      rcases (hadd.present1 _ _).mp hpresent with ⟨r, hr, -, hanno⟩ | ⟨hsite, -⟩
      · exact hnot ⟨r, hr, hanno⟩
      · cases hsite
    exact hnot (coverageKey_mem.mp (h _ (coverageKey_mem.mpr hmiss))).1
  refine ⟨hyear, ?_⟩
  by_contra hneither
  rw [not_or, not_exists] at hneither
  obtain ⟨hyears, hburns⟩ := hneither
  refine hyears fun year hy => ?_
  by_contra hother
  have hgap : FuelGap df' "GAS_NAT" .vianoGargola year := by
    refine ⟨(hadd.year1 _).mpr (.inl hy), ⟨year2024, (hadd.burns _ _ _).mpr (.inr ⟨rfl, rfl, rfl⟩)⟩,
      fun hb => ?_⟩
    rcases (hadd.burns _ _ _).mp hb with hb | ⟨-, -, hyear⟩
    · exact hburns year hb
    · exact hother hyear
  obtain ⟨-, ⟨other, hb⟩, -⟩ := gapKey_mem.mp (h _ (gapKey_mem.mpr hgap))
  exact hburns other hb

theorem subset_of_hasRoom {df df' : List (Scope1Row rt)} {df2 df2' : List (Scope2Row rt)}
    (hadd : GasRowAdded df df') (hroom : HasRoom df) :
    ∀ k ∈ reported df' df2', k ∈ reported df df2 := by
  obtain ⟨hyear2024, hroom⟩ := hroom
  have hyear : ∀ year, Year1 df' year → Year1 df year := by
    intro year hy
    rcases (hadd.year1 year).mp hy with hy | rfl
    · exact hy
    · exact hyear2024
  intro k hk
  rcases mem_reported.mp hk with ⟨site, year, ⟨hy, hmiss⟩, rfl⟩ | ⟨fuel, site, year, hgap, rfl⟩
  · exact coverageKey_mem.mpr
      ⟨hyear year hy, fun hpresent => hmiss ((hadd.present1 _ _).mpr (.inl hpresent))⟩
  · obtain ⟨hy, ⟨other, hother⟩, hnot⟩ := hgap
    have hnot' : ¬ Burns df fuel site year := fun hb => hnot ((hadd.burns _ _ _).mpr (.inl hb))
    refine gapKey_mem.mpr ⟨hyear year hy, ?_, hnot'⟩
    rcases (hadd.burns _ _ _).mp hother with hb | ⟨rfl, rfl, rfl⟩
    · exact ⟨other, hb⟩
    · -- the synthesised row is what makes the gap, so the site burns gas in another year
      rcases hroom with hsingle | hburns
      · rw [hsingle year (hyear year hy)] at hnot
        exact absurd hother hnot
      · exact hburns

/-- The gates report nothing new after the rows are synthesised exactly when the Scope 1 frame has
the year 2024 and, unless that is its only year, gas at VIANO_GARGOLA in some year. -/
theorem synthesised_rows_only_close_iff (raw1 : List Scope1Raw) (raw2 : List Scope2Raw)
    (df1 : List (Scope1Row rt)) (df2 : List (Scope2Row rt))
    (h1 : validate (Scope1Raw.check rt) raw1 = some df1)
    (h2 : validate (Scope2Raw.check rt) raw2 = some df2) :
    ∃ df1' df2',
      validate (Scope1Raw.check rt) (synthesiseVianoGargolaGasNat2024 F raw1).1 = some df1' ∧
      validate (Scope2Raw.check rt) (synthesiseSassuoloGrid2025 F raw2).1 = some df2' ∧
      ((∀ k ∈ reported df1' df2', k ∈ reported df1 df2) ↔ HasRoom df1) := by
  obtain ⟨df1', hdf1', hadd⟩ := validate_synthesiseViano h1
  obtain ⟨df2', hdf2'⟩ := validate_synthesiseSassuolo h2
  exact ⟨df1', df2', hdf1', hdf2', hasRoom_of_subset hadd, subset_of_hasRoom hadd⟩

theorem synthesised_rows_only_close_iff_2024 :
    ∃ df1 df2, validate (Scope1Raw.check plainRuntime) (rawGasEverywhere "2024") = some df1 ∧
      validate (Scope2Raw.check plainRuntime) (rawGoEverywhere "2024") = some df2 ∧
      ∃ df1' df2',
        validate (Scope1Raw.check plainRuntime)
          (synthesiseVianoGargolaGasNat2024 ℚ (rawGasEverywhere "2024")).1 = some df1' ∧
        validate (Scope2Raw.check plainRuntime)
          (synthesiseSassuoloGrid2025 ℚ (rawGoEverywhere "2024")).1 = some df2' ∧
        ((∀ k ∈ reported df1' df2', k ∈ reported df1 df2) ↔ HasRoom df1) := by
  have h1 : (validate (Scope1Raw.check plainRuntime) (rawGasEverywhere "2024")).isSome = true := by
    decide +kernel
  have h2 : (validate (Scope2Raw.check plainRuntime) (rawGoEverywhere "2024")).isSome = true := by
    decide +kernel
  obtain ⟨df1, h1⟩ := Option.isSome_iff_exists.mp h1
  obtain ⟨df2, h2⟩ := Option.isSome_iff_exists.mp h2
  exact ⟨df1, df2, h1, h2, synthesised_rows_only_close_iff _ _ df1 df2 h1 h2⟩

/-- What the gates report on two frames of text once they are typed. -/
def reportedOn (raw1 : List Scope1Raw) (raw2 : List Scope2Raw) : Option (List FindingKey) :=
  (validate (Scope1Raw.check plainRuntime) raw1).bind fun df1 =>
    (validate (Scope2Raw.check plainRuntime) raw2).map fun df2 => reported df1 df2

/-- A complete workbook of 2025 reports nothing until the row of 2024 is added, and is blocked. -/
theorem complete_2025_is_blocked :
    reportedOn (rawGasEverywhere "2025") (rawGoEverywhere "2025") = some [] ∧
      (reportedOn (synthesiseVianoGargolaGasNat2024 ℚ (rawGasEverywhere "2025")).1
        (synthesiseSassuoloGrid2025 ℚ (rawGoEverywhere "2025")).1).map
          (fun keys => decide (coverageKey .iano year2024 ∈ keys)) = some true ∧
      (runIngestionPipeline plainRuntime ⟨1, 1, "import", id⟩ "1.0.0" (rawGasEverywhere "2025")
        (rawGoEverywhere "2025") []).map ETLResult.pipelineBlocked = .ok true := by
  refine ⟨?_, ?_, ?_⟩
  · decide +kernel
  · decide +kernel
  · decide +kernel

end GhgTool
