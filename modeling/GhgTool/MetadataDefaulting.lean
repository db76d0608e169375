import GhgTool.DqGates
import GhgTool.SynthRows

/-!
# What the defaulting of metadata fills in

`apply_fr37_cat3_metadata_defaulting` asks `Fonte_Dato` alone whether a derived row of category 3
lacks its metadata, and then writes all three columns. The gate `check_mandatory_columns` asks each
column for itself.
-/

namespace GhgTool.Fr37

variable {F : Type} (rt : Runtime F)

/-! ## Filling in blanks and nothing else -/

/-- `Sottocategoria` is on the list, trimmed. -/
def Whitelisted (sottocategoria : Cell) : Prop :=
  ∃ text ∈ sottocategoria, strip text ∈ subs

instance : DecidablePred Whitelisted :=
  fun c => inferInstanceAs (Decidable (∃ text ∈ c, strip text ∈ subs))

/-- The row without the two columns that track the defaulting. -/
def untracked (r : Scope3Raw) : Scope3Raw :=
  { r with metadataDefaulted := none, defaultingRuleId := none }

/-- What is filled in already stays. -/
structure KeepsFilled (r r' : Scope3Raw) : Prop where
  fonteDato : ¬ r.fonteDato.Blank → r'.fonteDato = r.fonteDato
  qualitaDato : ¬ r.qualitaDato.Blank → r'.qualitaDato = r.qualitaDato
  statoDato : ¬ r.statoDato.Blank → r'.statoDato = r.statoDato

/-- No blank in the three columns. -/
structure Filled (r : Scope3Raw) : Prop where
  fonteDato : ¬ r.fonteDato.Blank
  qualitaDato : ¬ r.qualitaDato.Blank
  statoDato : ¬ r.statoDato.Blank

def Changed (r r' : Scope3Raw) : Prop :=
  r'.fonteDato ≠ r.fonteDato ∨ r'.qualitaDato ≠ r.qualitaDato ∨ r'.statoDato ≠ r.statoDato

instance (r r' : Scope3Raw) : Decidable (Changed r r') :=
  inferInstanceAs (Decidable (_ ∨ _ ∨ _))

/-- The three columns of the metadata among those that the gate reads. -/
def metadataCols : List (MandatoryColumn (Scope3Row rt)) :=
  [⟨"Fonte_Dato", Scope3Row.fonteDato⟩, ⟨"Qualità_Dato", Scope3Row.qualitaDato⟩,
    ⟨"Stato_Dato", Scope3Row.statoDato⟩]

/-- The gate reports no column of the metadata for a row on the list. -/
def GateReportsNone (df3 : List (Scope3Row rt)) : Prop :=
  ∀ (i : ℕ) (row : Scope3Row rt), df3[i]? = some row → Whitelisted (some row.sottocategoria.1) →
    ∀ col ∈ metadataCols rt, mandatoryFinding rt Scope3Row.view .three col (row, i) ∉
      (checkMandatoryColumns rt Scope3Row.view (scope3Cols rt) df3 .three).findings

/-- The frame `out` and the findings of the defaulting of `df`, as they should be. -/
structure Fills (df out : List Scope3Raw) (findings : List (Finding F)) : Prop where
  keeps : List.Forall₂ KeepsFilled df out
  fills : ∀ r ∈ out, Whitelisted r.sottocategoria → Filled r
  gate : ∀ df3, validate (Scope3Raw.check rt) out = some df3 → GateReportsNone rt df3
  others : List.Forall₂ (fun r r' => ¬ Whitelisted r.sottocategoria → untracked r' = untracked r)
    df out
  findings : findings.length = ((df.zip out).filter fun p => Changed p.1 p.2).length
  again : applyFr37Cat3MetadataDefaulting rt out = .ok (out, [])

def FillsBlanks (df : List Scope3Raw) : Prop :=
  ∃ out findings, applyFr37Cat3MetadataDefaulting rt df = .ok (out, findings) ∧
    Fills rt df out findings

/-- `Fonte_Dato` tells what the other two columns hold: with it blank, blanks or the defaults; with
it filled in, no blank. The year of a row that is defaulted can be read. -/
def FonteDecides (r : Scope3Raw) : Prop :=
  if r.fonteDato.Blank then
    (r.qualitaDato.Blank ∨ r.qualitaDato = some qualita) ∧
      (r.statoDato.Blank ∨ r.statoDato = some stato) ∧ ∃ anno, findingAnno rt r.anno = .ok anno
  else ¬ r.qualitaDato.Blank ∧ ¬ r.statoDato.Blank

/-! ## The transform of one row -/

variable {rt} {r : Scope3Raw}

theorem fonte_filled : ¬ Cell.Blank (some fonte) := by
  decide

theorem qualita_filled : ¬ Cell.Blank (some qualita) := by
  decide

theorem stato_filled : ¬ Cell.Blank (some stato) := by
  decide

theorem defaulted_iff : Defaulted r ↔ Whitelisted r.sottocategoria ∧ r.fonteDato.Blank :=
  Iff.rfl

theorem transform_sottocategoria (r : Scope3Raw) :
    (transform r).sottocategoria = r.sottocategoria := by
  unfold transform
  split_ifs <;> rfl

theorem transform_defaulted (h : Defaulted r) :
    (transform r).fonteDato = some fonte ∧ (transform r).qualitaDato = some qualita ∧
      (transform r).statoDato = some stato := by
  rw [transform, if_pos h]
  exact ⟨rfl, rfl, rfl⟩

theorem untracked_transform (h : ¬ Defaulted r) : untracked (transform r) = untracked r := by
  rw [transform, if_neg h]
  split_ifs <;> rfl

theorem metadata_transform (h : ¬ Defaulted r) :
    (transform r).fonteDato = r.fonteDato ∧ (transform r).qualitaDato = r.qualitaDato ∧
      (transform r).statoDato = r.statoDato := by
  have hsame := untracked_transform h
  have hfonte := congrArg Scope3Raw.fonteDato hsame
  have hqualita := congrArg Scope3Raw.qualitaDato hsame
  have hstato := congrArg Scope3Raw.statoDato hsame
  exact ⟨hfonte, hqualita, hstato⟩

theorem not_defaulted_transform (r : Scope3Raw) : ¬ Defaulted (transform r) := by
  by_cases h : Defaulted r
  · intro hdefaulted
    have hblank := (defaulted_iff.mp hdefaulted).2
    rw [(transform_defaulted h).1] at hblank
    exact fonte_filled hblank
  · rw [defaulted_iff, transform_sottocategoria, (metadata_transform h).1]
    exact h

theorem transform_transform (r : Scope3Raw) : transform (transform r) = transform r := by
  rw [transform, if_neg (not_defaulted_transform r)]
  by_cases h : Defaulted r
  · rw [transform, if_pos h]
    rfl
  · rw [transform, if_neg h]
    by_cases hnone : r.metadataDefaulted = none
    · rw [if_pos hnone, if_pos hnone]
    · rw [if_neg hnone, if_neg hnone]

theorem changed_transform_iff (r : Scope3Raw) : Changed r (transform r) ↔ Defaulted r := by
  constructor
  · intro hchanged
    by_contra h
    obtain ⟨hfonte, hqualita, hstato⟩ := metadata_transform h
    simp [Changed, hfonte, hqualita, hstato] at hchanged
  · intro h
    refine .inl fun hsame => fonte_filled ?_
    rw [← (transform_defaulted h).1, hsame]
    exact (defaulted_iff.mp h).2

/-- The transform of a row on the list keeps what is filled in, and fills the rest, exactly where
`Fonte_Dato` decides. -/
theorem fonteDecides_iff (hlist : Whitelisted r.sottocategoria) :
    FonteDecides rt r ↔ KeepsFilled r (transform r) ∧ Filled (transform r) ∧
      (Defaulted r → ∃ anno, findingAnno rt r.anno = .ok anno) := by
  unfold FonteDecides
  by_cases hblank : r.fonteDato.Blank
  · have hdefaulted : Defaulted r := defaulted_iff.mpr ⟨hlist, hblank⟩
    obtain ⟨hfonte, hqualita, hstato⟩ := transform_defaulted hdefaulted
    rw [if_pos hblank]
    constructor
    · rintro ⟨hq, hs, hanno⟩
      refine ⟨⟨fun h => absurd hblank h, fun h => ?_, fun h => ?_⟩, ⟨?_, ?_, ?_⟩, fun _ => hanno⟩
      · rw [hqualita, hq.resolve_left h]
      · rw [hstato, hs.resolve_left h]
      · exact hfonte ▸ fonte_filled
      · exact hqualita ▸ qualita_filled
      · exact hstato ▸ stato_filled
    · rintro ⟨hkeeps, -, hanno⟩
      refine ⟨?_, ?_, hanno hdefaulted⟩
      · rw [or_iff_not_imp_left]
        intro h
        rw [← hkeeps.qualitaDato h, hqualita]
      · rw [or_iff_not_imp_left]
        intro h
        rw [← hkeeps.statoDato h, hstato]
  · have hdefaulted : ¬ Defaulted r := fun h => hblank (defaulted_iff.mp h).2
    obtain ⟨hfonte, hqualita, hstato⟩ := metadata_transform hdefaulted
    rw [if_neg hblank]
    constructor
    · rintro ⟨hq, hs⟩
      refine ⟨⟨fun _ => hfonte, fun _ => hqualita, fun _ => hstato⟩, ⟨?_, ?_, ?_⟩,
        fun h => absurd h hdefaulted⟩
      · rw [hfonte]
        exact hblank
      · rw [hqualita]
        exact hq
      · rw [hstato]
        exact hs
    · rintro ⟨-, hfilled, -⟩
      exact ⟨hqualita ▸ hfilled.qualitaDato, hstato ▸ hfilled.statoDato⟩

theorem keepsFilled_of_not_listed (hlist : ¬ Whitelisted r.sottocategoria) :
    KeepsFilled r (transform r) := by
  have hdefaulted : ¬ Defaulted r := fun h => hlist (defaulted_iff.mp h).1
  obtain ⟨hfonte, hqualita, hstato⟩ := metadata_transform hdefaulted
  exact ⟨fun _ => hfonte, fun _ => hqualita, fun _ => hstato⟩

/-! ## The transform of a frame -/

variable {df out : List Scope3Raw} {findings : List (Finding F)}

/-- The body of the loop over the blank rows. -/
def logDefaulting (rt : Runtime F) (r : Scope3Raw) : Except EtlError (Finding F) := do
  let anno ← findingAnno rt r.anno
  return finding rt r anno

theorem exists_logDefaulting :
    (∃ f, logDefaulting rt r = .ok f) ↔ ∃ anno, findingAnno rt r.anno = .ok anno := by
  constructor
  · rintro ⟨f, hf⟩
    obtain ⟨anno, hanno, -⟩ := bind_eq_ok.mp hf
    exact ⟨anno, hanno⟩
  · rintro ⟨anno, hanno⟩
    exact ⟨finding rt r anno, bind_eq_ok.mpr ⟨anno, hanno, rfl⟩⟩

theorem apply_eq_ok : applyFr37Cat3MetadataDefaulting rt df = .ok (out, findings) ↔
    (df.filter (Defaulted ·)).mapM (logDefaulting rt) = .ok findings ∧ out = df.map transform := by
  constructor
  · intro h
    obtain ⟨fs, hfs, h⟩ := bind_eq_ok.mp h
    cases h
    exact ⟨hfs, rfl⟩
  · rintro ⟨hfs, rfl⟩
    exact bind_eq_ok.mpr ⟨findings, hfs, rfl⟩

theorem apply_defaults_again (df : List Scope3Raw) :
    applyFr37Cat3MetadataDefaulting rt (df.map transform) = .ok (df.map transform, []) := by
  have hnone : (df.map transform).filter (Defaulted ·) = [] := by
    rw [List.filter_eq_nil_iff]
    intro r hr
    obtain ⟨old, -, rfl⟩ := List.mem_map.mp hr
    simpa using not_defaulted_transform old
  rw [apply_eq_ok, hnone, List.map_map]
  refine ⟨rfl, List.map_congr_left fun r _ => (transform_transform r).symm⟩

theorem length_findings (h : applyFr37Cat3MetadataDefaulting rt df = .ok (out, findings)) :
    findings.length = ((df.zip out).filter fun p => Changed p.1 p.2).length := by
  obtain ⟨hfindings, rfl⟩ := apply_eq_ok.mp h
  have hzip : df.zip (df.map transform) = df.map fun r => (r, transform r) := by
    simpa using List.zip_map' (f := id) (g := transform) (l := df)
  rw [hzip, List.filter_map, List.length_map, ← (mapM_eq_ok.mp hfindings).length_eq]
  congr 1
  apply List.filter_congr
  intro r _
  exact decide_eq_decide.mpr (changed_transform_iff r).symm

/-! ## The gate -/

theorem check_eq_some {row : Scope3Row rt} (h : Scope3Raw.check rt r = some row) :
    r.sottocategoria = some row.sottocategoria.1 ∧ row.fonteDato = r.fonteDato ∧
      row.qualitaDato = r.qualitaDato ∧ row.statoDato = r.statoDato := by
  unfold Scope3Raw.check at h
  obtain ⟨_, -, h⟩ := Option.bind_eq_some_iff.mp h
  obtain ⟨_, -, h⟩ := Option.bind_eq_some_iff.mp h
  obtain ⟨_, -, h⟩ := Option.bind_eq_some_iff.mp h
  obtain ⟨sotto, hsotto, h⟩ := Option.bind_eq_some_iff.mp h
  obtain ⟨_, -, h⟩ := Option.bind_eq_some_iff.mp h
  obtain ⟨_, -, h⟩ := Option.bind_eq_some_iff.mp h
  obtain ⟨_, -, h⟩ := Option.bind_eq_some_iff.mp h
  cases h
  obtain ⟨text, htext, hfilled⟩ := Option.bind_eq_some_iff.mp hsotto
  split_ifs at hfilled
  cases hfilled
  exact ⟨htext, rfl, rfl, rfl⟩

theorem mandatoryFinding_inj {col col' : MandatoryColumn (Scope3Row rt)} {row row' : Scope3Row rt}
    {i i' : ℕ} (h : mandatoryFinding rt Scope3Row.view .three col (row, i) =
      mandatoryFinding rt Scope3Row.view .three col' (row', i')) :
    col.name = col'.name ∧ i = i' := by
  have hmetric := congrArg Finding.metric h
  have hdesc := congrArg Finding.triggerDesc h
  simp only [mandatoryFinding, Option.some.injEq, String.append_right_inj] at hmetric
  simp only [mandatoryFinding, hmetric, String.append_left_inj, String.append_right_inj] at hdesc
  have hnumber := congrArg numericText hdesc
  rw [numericText_toString, numericText_toString] at hnumber
  exact ⟨hmetric, Option.some.inj hnumber⟩

theorem nodup_scope3Cols (rt : Runtime F) :
    ((scope3Cols rt).map MandatoryColumn.name).Nodup := by
  have hnames : (scope3Cols rt).map MandatoryColumn.name =
      ["Quantità", "Unità", "Anno", "Categoria_S3", "Sottocategoria", "Fonte_Dato",
        "Qualità_Dato", "Stato_Dato"] := rfl
  rw [hnames]
  decide

theorem metadataCols_subset (rt : Runtime F) : metadataCols rt ⊆ scope3Cols rt :=
  List.subset_append_right ((scope3Cols rt).take 5) (metadataCols rt)

theorem gateReportsNone_of_filled {df3 : List (Scope3Row rt)}
    (h : ∀ row ∈ df3, Whitelisted (some row.sottocategoria.1) →
      ¬ row.fonteDato.Blank ∧ ¬ row.qualitaDato.Blank ∧ ¬ row.statoDato.Blank) :
    GateReportsNone rt df3 := by
  intro i row hi hlist col hcol hreported
  obtain ⟨col', hcol', hfinding⟩ := List.mem_flatMap.mp hreported
  obtain ⟨⟨row', i'⟩, hrow', heq⟩ := List.mem_map.mp hfinding
  obtain ⟨hname, rfl⟩ := mandatoryFinding_inj heq.symm
  obtain ⟨hmem, hblank⟩ := List.mem_filter.mp hrow'
  have hget := List.mk_mem_zipIdx_iff_getElem?.mp hmem
  obtain rfl : row = row' := Option.some.inj (hi.symm.trans hget)
  obtain rfl : col = col' := List.inj_on_of_nodup_map (nodup_scope3Cols rt)
    (metadataCols_subset rt hcol) hcol' hname
  have hcell : (col.cell row).Blank := by simpa using hblank
  obtain ⟨hfonte, hqualita, hstato⟩ := h row (List.mem_of_getElem? hi) hlist
  simp only [metadataCols, List.mem_cons, List.not_mem_nil, or_false] at hcol
  rcases hcol with rfl | rfl | rfl
  · exact hfonte hcell
  · exact hqualita hcell
  · exact hstato hcell

theorem gateReportsNone_of_validate {df3 : List (Scope3Row rt)}
    (hfilled : ∀ r ∈ out, Whitelisted r.sottocategoria → Filled r)
    (h : validate (Scope3Raw.check rt) out = some df3) : GateReportsNone rt df3 := by
  apply gateReportsNone_of_filled
  intro row hrow hlist
  obtain ⟨r, hr, hcheck⟩ := exists_of_mem_mapM h hrow
  obtain ⟨hsotto, hfonte, hqualita, hstato⟩ := check_eq_some hcheck
  obtain ⟨hf, hq, hs⟩ := hfilled r hr (hsotto ▸ hlist)
  exact ⟨hfonte ▸ hf, hqualita ▸ hq, hstato ▸ hs⟩

/-- The defaulting fills blanks and nothing else exactly on the frames where `Fonte_Dato` decides in
every row on the list. -/
theorem fillsBlanks_iff (rt : Runtime F) (df : List Scope3Raw) :
    FillsBlanks rt df ↔ ∀ r ∈ df, Whitelisted r.sottocategoria → FonteDecides rt r := by
  constructor
  · rintro ⟨out, findings, happly, hfills⟩ r hr hlist
    obtain ⟨hfindings, rfl⟩ := apply_eq_ok.mp happly
    have hkeeps := List.forall₂_map_right_iff.mp hfills.keeps
    rw [List.forall₂_same] at hkeeps
    refine (fonteDecides_iff hlist).mpr ⟨hkeeps r hr, ?_, fun hdefaulted => ?_⟩
    · exact hfills.fills _ (List.mem_map_of_mem hr) (transform_sottocategoria r ▸ hlist)
    · exact exists_logDefaulting.mp
        (exists_mapM_ok.mp ⟨findings, hfindings⟩ r (by simpa using ⟨hr, hdefaulted⟩))
  · intro h
    obtain ⟨findings, hfindings⟩ : ∃ fs, (df.filter (Defaulted ·)).mapM (logDefaulting rt) =
        .ok fs := by
      apply exists_mapM_ok.mpr
      intro r hr
      obtain ⟨hmem, hdefaulted⟩ : r ∈ df ∧ Defaulted r := by simpa using hr
      have hlist := (defaulted_iff.mp hdefaulted).1
      exact exists_logDefaulting.mpr (((fonteDecides_iff hlist).mp (h r hmem hlist)).2.2 hdefaulted)
    have happly : applyFr37Cat3MetadataDefaulting rt df = .ok (df.map transform, findings) :=
      apply_eq_ok.mpr ⟨hfindings, rfl⟩
    have hfilled : ∀ r ∈ df.map transform, Whitelisted r.sottocategoria → Filled r := by
      intro r hr hlist
      obtain ⟨old, hold, rfl⟩ := List.mem_map.mp hr
      rw [transform_sottocategoria] at hlist
      exact ((fonteDecides_iff hlist).mp (h old hold hlist)).2.1
    refine ⟨_, _, happly, ?_, hfilled, fun df3 => gateReportsNone_of_validate hfilled, ?_,
      length_findings happly, apply_defaults_again df⟩
    · rw [List.forall₂_map_right_iff, List.forall₂_same]
      intro r hr
      by_cases hlist : Whitelisted r.sottocategoria
      · exact ((fonteDecides_iff hlist).mp (h r hr hlist)).1
      · exact keepsFilled_of_not_listed hlist
    · rw [List.forall₂_map_right_iff, List.forall₂_same]
      intro r _ hlist
      exact untracked_transform fun hdefaulted => hlist (defaulted_iff.mp hdefaulted).1

/-- Losses of the grid, measured and provisional, whose source is not filled in yet. -/
def measuredLosses : Scope3Raw where
  scope := some "3"
  anno := some "2024"
  categoriaS3 := some "3"
  sottocategoria := some "T&D Losses"
  metodo := some "Average-data"
  quantita := some "120"
  unita := some "kWh"
  fonteDato := some ""
  qualitaDato := some "P"
  statoDato := some "Provvisorio"

/-- The quality and the state of the row are overwritten. -/
theorem filled_metadata_overwritten : ¬ FillsBlanks plainRuntime [measuredLosses] := by
  rintro ⟨out, findings, happly, hfills⟩
  obtain ⟨-, rfl⟩ := apply_eq_ok.mp happly
  have hkeeps := (List.forall₂_cons.mp hfills.keeps).1
  exact absurd (hkeeps.qualitaDato (by decide)) (by decide)

end GhgTool.Fr37
