import Mathlib.Tactic.Linarith
import Mathlib.Tactic.Ring
import GhgTool.Scope3FixedFactors

/-!
# Units in the mass- and spend-based modules

The modules of categories 1, 6 and 12 multiply a factor by a quantity and convert kilograms to
tonnes; neither the unit of the row nor the denominator of the factor is looked at.
`dimension_law_iff` says on which rows the result is nevertheless the dimensionally correct one.
-/

namespace GhgTool

inductive PhysicalUnit
  | kg | t | eur | gbp | tkm | km
  deriving DecidableEq, Repr

/-- The unit a raw row states. -/
def rowUnit (unita : String) : Option PhysicalUnit :=
  [("t", PhysicalUnit.t), ("kg", .kg), ("EUR", .eur), ("tkm", .tkm), ("km", .km)].lookup unita

/-- The denominator a catalog factor declares. -/
def factorDenominator (unit : String) : Option PhysicalUnit :=
  [("kg CO2e / kg", PhysicalUnit.kg), ("kg CO2e / tonne", .t), ("kg CO2e / EUR", .eur),
    ("kg CO2e / GBP", .gbp), ("kg CO2e / tkm", .tkm), ("kg CO2e / km", .km)].lookup unit

/-- How many `v` one `u` is, for units of one dimension; `gbpPerEur` is the rate in force. -/
def conversionRatio (gbpPerEur : ℚ) (u v : PhysicalUnit) : Option ℚ :=
  if u = v then some 1
  else match u, v with
    | .t, .kg => some 1000
    | .kg, .t => some (1 / 1000)
    | .eur, .gbp => some gbpPerEur
    | .gbp, .eur => some (1 / gbpPerEur)
    | _, _ => none

/-- The modules the law is about. -/
inductive UnitModule
  | cat1 | cat6 | cat12

/-- A factor a module applies to a row, with the share of the quantity routed to it. -/
structure RoutedShare where
  factor : FactorRecord
  share : ℚ
  deriving DecidableEq

def LabelModule.select (m : LabelModule) (catalog : FactorCatalogPort) (gwp : GwpValues)
    (row : RawScope3Row) : Except CalcError (List RoutedShare) :=
  if row.categoriaS3 ≠ m.categoria then .ok []
  else match m.resolve row.sottocategoria with
    | none => .ok []
    | some factorId => do
      let factor ← requireFactor catalog factorId gwp.code
      return [⟨factor, 1⟩]

namespace UnitModule

def calculate (m : UnitModule) (rows : List RawScope3Row) (catalog : FactorCatalogPort)
    (gwp : GwpValues) (ctx : RunContext) : Except CalcError (List EmissionRecord) :=
  match m with
  | .cat1 => Scope3Cat1PurchasedGoods.calculate rows catalog gwp ctx
  | .cat6 => Scope3Cat6BusinessTravel.labelModule.calculate rows catalog gwp ctx
  | .cat12 => Scope3Cat12Eol.calculate rows catalog gwp ctx

/-- The factors the module selects for a row: none when it does not handle the row. -/
def select (m : UnitModule) (catalog : FactorCatalogPort) (gwp : GwpValues) (row : RawScope3Row) :
    Except CalcError (List RoutedShare) :=
  match m with
  | .cat1 =>
    if row.categoriaS3 ≠ 1 then .ok []
    else match Scope3Cat1PurchasedGoods.resolve row.sottocategoria with
      | none => .ok []
      | some factorId => do
        let factor ← requireFactor catalog factorId gwp.code
        return [⟨factor, 1⟩]
  | .cat6 => Scope3Cat6BusinessTravel.labelModule.select catalog gwp row
  | .cat12 => do
    let landfill ← requireFactor catalog Scope3Cat12Eol.landfillFactorId gwp.code
    let recycle ← requireFactor catalog Scope3Cat12Eol.recycleFactorId gwp.code
    return if Scope3Cat12Eol.handles row then
      [⟨landfill, Scope3Cat12Eol.landfillFraction⟩, ⟨recycle, Scope3Cat12Eol.recycleFraction⟩]
    else []

end UnitModule

/-- The same amount stated in kilograms. -/
def RawScope3Row.inKg (row : RawScope3Row) : RawScope3Row :=
  { row with
    unita := "kg", quantita := 1000 * row.quantita
    quantita_nonneg := mul_nonneg (by norm_num) row.quantita_nonneg }

/-- What the code computes for a routed share. -/
def blindTco2e (row : RawScope3Row) (s : RoutedShare) : ℚ :=
  s.factor.valueOrZero * (row.quantita * s.share) * kgToTonne

theorem emit_eq_ok {ctx : RunContext} {a : EmissionArgs} {out : List EmissionRecord} :
    emit ctx a = .ok out ↔ ∃ r, makeEmission ctx a = .ok r ∧ out = [r] := by
  rw [emit, bind_eq_ok]
  constructor
  · rintro ⟨r, hr, h⟩
    cases h
    exact ⟨r, hr, rfl⟩
  · rintro ⟨r, hr, rfl⟩
    exact ⟨r, hr, rfl⟩

theorem tco2e_of_emit {ctx : RunContext} {a : EmissionArgs} {out : List EmissionRecord}
    (h : emit ctx a = .ok out) : out.map EmissionRecord.tco2e = [a.tco2e] := by
  obtain ⟨r, hr, rfl⟩ := emit_eq_ok.mp h
  simp [(builtFrom_of_makeEmission hr).tco2e]

theorem emit_succeeds {ctx : RunContext} {a : EmissionArgs} :
    (∃ out, emit ctx a = .ok out) ↔ ∃ r, makeEmission ctx a = .ok r := by
  constructor
  · rintro ⟨out, h⟩
    obtain ⟨r, hr, -⟩ := emit_eq_ok.mp h
    exact ⟨r, hr⟩
  · rintro ⟨r, hr⟩
    exact ⟨[r], emit_eq_ok.mpr ⟨r, hr, rfl⟩⟩

/-- A value record that passes its checks still passes them when the quantity is multiplied. -/
theorem emit_scope3Args_scaled {ctx : RunContext} {subScope : SubScope}
    {methodology : Methodology} {gwp : GwpValues} {row : RawScope3Row} {factor : FactorRecord}
    {share : ℚ} (h : ∃ out, emit ctx (scope3Args subScope methodology gwp row factor
      (row.quantita * share)) = .ok out) :
    ∃ out, emit ctx (scope3Args subScope methodology gwp row.inKg factor
      (row.inKg.quantita * share)) = .ok out := by
  rw [emit_succeeds, makeEmission_succeeds] at h ⊢
  obtain ⟨htco2e, hsub, -, -⟩ := h
  refine ⟨?_, hsub, by simp [scope3Args], by simp [scope3Args]⟩
  have hscale : (scope3Args subScope methodology gwp row.inKg factor
      (row.inKg.quantita * share)).tco2e =
      1000 * (scope3Args subScope methodology gwp row factor (row.quantita * share)).tco2e := by
    simp only [scope3Args, RawScope3Row.inKg]
    ring
  rw [hscale]
  linarith

theorem emit_cat1Args_scaled {ctx : RunContext} {gwp : GwpValues} {row : RawScope3Row}
    {factorId : String} {factor : FactorRecord} {bio : Option ℚ}
    (h : ∃ out, emit ctx (Scope3Cat1PurchasedGoods.cat1Args gwp row factorId factor bio) =
      .ok out) :
    ∃ out, emit ctx (Scope3Cat1PurchasedGoods.cat1Args gwp row.inKg factorId factor bio) =
      .ok out := by
  rw [emit_succeeds, makeEmission_succeeds] at h ⊢
  obtain ⟨htco2e, hsub, hbio, -⟩ := h
  simp only [Scope3Cat1PurchasedGoods.cat1Args, scope3Args, RawScope3Row.inKg,
    Option.mem_map, forall_exists_index, and_imp, forall_apply_eq_imp_iff₂] at htco2e hbio ⊢
  have hscale : ∀ x : ℚ, x * (1000 * row.quantita) * kgToTonne =
      1000 * (x * row.quantita * kgToTonne) := fun x => by ring
  refine ⟨?_, hsub, fun b hb => ?_, fun b hb => ?_⟩
  · rw [hscale]
    linarith
  · rw [hscale]
    linarith [hbio b hb]
  · rw [hscale]
    linarith

section Rows

variable {catalog : FactorCatalogPort} {gwp : GwpValues} {ctx : RunContext} {row : RawScope3Row}
  {out : List EmissionRecord}

/-- The arithmetic of a module on one row, and on the same amount stated in kilograms. -/
def BlindOn (m : UnitModule) (catalog : FactorCatalogPort) (gwp : GwpValues) (ctx : RunContext)
    (row : RawScope3Row) (out : List EmissionRecord) (routed : List RoutedShare) : Prop :=
  m.select catalog gwp row = .ok routed ∧ (∀ s ∈ routed, s.share ≠ 0) ∧
    out.map EmissionRecord.tco2e = routed.map (blindTco2e row) ∧
    ∃ out', m.calculate [row.inKg] catalog gwp ctx = .ok out' ∧
      out'.map EmissionRecord.tco2e = routed.map (blindTco2e row.inKg)

theorem blindOn_cat1 (h : UnitModule.cat1.calculate [row] catalog gwp ctx = .ok out) :
    ∃ routed, BlindOn .cat1 catalog gwp ctx row out routed := by
  simp only [BlindOn, UnitModule.calculate, UnitModule.select, Scope3Cat1PurchasedGoods.calculate,
    collect_singleton] at h ⊢
  by_cases hc : row.categoriaS3 ≠ 1
  · have hc' : row.inKg.categoriaS3 ≠ 1 := hc
    rw [if_pos hc] at h
    cases h
    simp only [if_pos hc, if_pos hc']
    exact ⟨[], rfl, by simp, rfl, [], rfl, rfl⟩
  · have hc' : ¬ row.inKg.categoriaS3 ≠ 1 := hc
    have hlabel : row.inKg.sottocategoria = row.sottocategoria := rfl
    simp only [if_neg hc, if_neg hc', hlabel] at h ⊢
    cases hres : Scope3Cat1PurchasedGoods.resolve row.sottocategoria with
    | none =>
        rw [hres] at h
        cases h
        exact ⟨[], rfl, by simp, rfl, [], rfl, rfl⟩
    | some factorId =>
        rw [hres] at h
        simp only [Scope3Cat1PurchasedGoods.buildRecord, bind_eq_ok] at h ⊢
        obtain ⟨f, hf, hemit⟩ := h
        obtain ⟨out', hout'⟩ := emit_cat1Args_scaled ⟨out, hemit⟩
        refine ⟨[⟨f, 1⟩], ⟨f, hf, rfl⟩, by simp, ?_, out', ⟨f, hf, hout'⟩, ?_⟩
        · rw [tco2e_of_emit hemit]
          simp [blindTco2e, Scope3Cat1PurchasedGoods.cat1Args, scope3Args]
        · rw [tco2e_of_emit hout']
          simp [blindTco2e, Scope3Cat1PurchasedGoods.cat1Args, scope3Args]

theorem blindOn_label (m : LabelModule) (h : m.calculate [row] catalog gwp ctx = .ok out) :
    ∃ routed, m.select catalog gwp row = .ok routed ∧ (∀ s ∈ routed, s.share ≠ 0) ∧
      out.map EmissionRecord.tco2e = routed.map (blindTco2e row) ∧
      ∃ out', m.calculate [row.inKg] catalog gwp ctx = .ok out' ∧
        out'.map EmissionRecord.tco2e = routed.map (blindTco2e row.inKg) := by
  simp only [LabelModule.calculate, LabelModule.select, collect_singleton] at h ⊢
  by_cases hc : row.categoriaS3 ≠ m.categoria
  · have hc' : row.inKg.categoriaS3 ≠ m.categoria := hc
    rw [if_pos hc] at h
    cases h
    simp only [if_pos hc, if_pos hc']
    exact ⟨[], rfl, by simp, rfl, [], rfl, rfl⟩
  · have hc' : ¬ row.inKg.categoriaS3 ≠ m.categoria := hc
    have hlabel : row.inKg.sottocategoria = row.sottocategoria := rfl
    simp only [if_neg hc, if_neg hc', hlabel] at h ⊢
    cases hres : m.resolve row.sottocategoria with
    | none =>
        rw [hres] at h
        cases h
        exact ⟨[], rfl, by simp, rfl, [], rfl, rfl⟩
    | some factorId =>
        rw [hres] at h
        simp only [bind_eq_ok] at h ⊢
        obtain ⟨f, hf, hemit⟩ := h
        have hscaled : ∃ out', emit ctx (scope3Args m.subScope m.methodology gwp row.inKg f
            (row.inKg.quantita * 1)) = .ok out' :=
          emit_scope3Args_scaled ⟨out, by rw [mul_one]; exact hemit⟩
        obtain ⟨out', hout'⟩ := hscaled
        rw [mul_one] at hout'
        refine ⟨[⟨f, 1⟩], ⟨f, hf, rfl⟩, by simp, ?_, out', ⟨f, hf, hout'⟩, ?_⟩
        · rw [tco2e_of_emit hemit]
          simp [blindTco2e, scope3Args]
        · rw [tco2e_of_emit hout']
          simp [blindTco2e, scope3Args]

theorem blindOn_cat12 (h : UnitModule.cat12.calculate [row] catalog gwp ctx = .ok out) :
    ∃ routed, BlindOn .cat12 catalog gwp ctx row out routed := by
  simp only [BlindOn, UnitModule.calculate, UnitModule.select, Scope3Cat12Eol.calculate,
    collect_singleton, bind_eq_ok] at h ⊢
  obtain ⟨landfill, hland, recycle, hrec, h⟩ := h
  have hhandles : Scope3Cat12Eol.handles row.inKg = Scope3Cat12Eol.handles row := rfl
  rw [hhandles]
  cases hc : Scope3Cat12Eol.handles row with
  | false =>
      simp only [hc] at h
      cases h
      exact ⟨[], ⟨landfill, hland, recycle, hrec, rfl⟩, by simp, rfl, [],
        ⟨landfill, hland, recycle, hrec, rfl⟩, rfl⟩
  | true =>
      simp only [hc, if_true, Scope3Cat12Eol.buildRecords, bind_eq_ok] at h
      obtain ⟨xs, hxs, ys, hys, h⟩ := h
      cases h
      obtain ⟨xs', hxs'⟩ := emit_scope3Args_scaled ⟨xs, hxs⟩
      obtain ⟨ys', hys'⟩ := emit_scope3Args_scaled ⟨ys, hys⟩
      refine ⟨[⟨landfill, Scope3Cat12Eol.landfillFraction⟩,
        ⟨recycle, Scope3Cat12Eol.recycleFraction⟩], ⟨landfill, hland, recycle, hrec, rfl⟩,
        by norm_num [Scope3Cat12Eol.landfillFraction, Scope3Cat12Eol.recycleFraction], ?_,
        xs' ++ ys', ⟨landfill, hland, recycle, hrec, ?_⟩, ?_⟩
      · rw [List.map_append, tco2e_of_emit hxs, tco2e_of_emit hys]
        rfl
      · simp only [if_true, Scope3Cat12Eol.buildRecords, bind_eq_ok]
        exact ⟨xs', hxs', ys', hys', rfl⟩
      · rw [List.map_append, tco2e_of_emit hxs', tco2e_of_emit hys']
        rfl

/-- One row of any of the three modules: its tonnes are those of the blind product. -/
theorem blindOn_calculate (m : UnitModule) (h : m.calculate [row] catalog gwp ctx = .ok out) :
    ∃ routed, BlindOn m catalog gwp ctx row out routed := by
  cases m with
  | cat1 => exact blindOn_cat1 h
  | cat6 =>
      simp only [BlindOn, UnitModule.calculate, UnitModule.select] at h ⊢
      exact blindOn_label Scope3Cat6BusinessTravel.labelModule h
  | cat12 => exact blindOn_cat12 h

end Rows

/-- The tonnes the factor declares for its share of the row, when the units convert. -/
def correctTco2e (gbpPerEur : ℚ) (row : RawScope3Row) (u v : PhysicalUnit) (s : RoutedShare) :
    Option ℚ :=
  (conversionRatio gbpPerEur u v).map fun ratio =>
    s.factor.valueOrZero * (row.quantita * s.share * ratio) * kgToTonne

/-- Every record of the row carries the tonnes its factor declares. -/
def DimensionLaw (gbpPerEur : ℚ) (row : RawScope3Row) (routed : List RoutedShare)
    (out : List EmissionRecord) : Prop :=
  List.Forall₂ (fun s x => ∀ u v, rowUnit row.unita = some u →
    factorDenominator s.factor.unit = some v → correctTco2e gbpPerEur row u v s = some x)
    routed (out.map EmissionRecord.tco2e)

/-- Stating an amount of tonnes in kilograms changes nothing. -/
def UnitChangeLaw (m : UnitModule) (catalog : FactorCatalogPort) (gwp : GwpValues)
    (ctx : RunContext) (row : RawScope3Row) (out : List EmissionRecord) : Prop :=
  rowUnit row.unita = some .t → ∃ out', m.calculate [row.inKg] catalog gwp ctx = .ok out' ∧
    out'.map EmissionRecord.tco2e = out.map EmissionRecord.tco2e

/-- The row's unit converts to the factor's denominator, one to one or to no tonnes. -/
def UnitsAgree (gbpPerEur : ℚ) (row : RawScope3Row) (s : RoutedShare) : Prop :=
  ∀ u v, rowUnit row.unita = some u → factorDenominator s.factor.unit = some v →
    ∃ ratio, conversionRatio gbpPerEur u v = some ratio ∧
      (ratio = 1 ∨ s.factor.valueOrZero * row.quantita = 0)

theorem correctTco2e_eq_blind {gbpPerEur : ℚ} {row : RawScope3Row} {u v : PhysicalUnit}
    {s : RoutedShare} (hshare : s.share ≠ 0) :
    correctTco2e gbpPerEur row u v s = some (blindTco2e row s) ↔
      ∃ ratio, conversionRatio gbpPerEur u v = some ratio ∧
        (ratio = 1 ∨ s.factor.valueOrZero * row.quantita = 0) := by
  have hkg : kgToTonne ≠ 0 := by norm_num [kgToTonne]
  rw [correctTco2e, Option.map_eq_some_iff]
  refine exists_congr fun ratio => and_congr_right fun _ => ?_
  have hdiff : s.factor.valueOrZero * (row.quantita * s.share * ratio) * kgToTonne -
      blindTco2e row s = s.factor.valueOrZero * row.quantita * (s.share * kgToTonne) *
        (ratio - 1) := by
    unfold blindTco2e
    ring
  rw [← sub_eq_zero, hdiff, mul_eq_zero, mul_eq_zero, sub_eq_zero,
    or_iff_left (mul_ne_zero hshare hkg), or_comm]

theorem blindTco2e_inKg {row : RawScope3Row} {s : RoutedShare} (hshare : s.share ≠ 0) :
    blindTco2e row.inKg s = blindTco2e row s ↔ s.factor.valueOrZero * row.quantita = 0 := by
  have hkg : kgToTonne ≠ 0 := by norm_num [kgToTonne]
  have hdiff : blindTco2e row.inKg s - blindTco2e row s =
      s.factor.valueOrZero * row.quantita * (999 * (s.share * kgToTonne)) := by
    simp only [blindTco2e, RawScope3Row.inKg]
    ring
  rw [← sub_eq_zero, hdiff, mul_eq_zero,
    or_iff_left (mul_ne_zero (by norm_num) (mul_ne_zero hshare hkg))]

theorem forall₂_map_right {α β : Type} {R : α → β → Prop} {f : α → β} {l : List α} :
    List.Forall₂ R l (l.map f) ↔ ∀ a ∈ l, R a (f a) := by
  rw [List.forall₂_map_right_iff, List.forall₂_same]

/-- One row: the two laws hold exactly when the units agree and no tonnage is at stake in `t`. -/
theorem dimensionLaws_row (gbpPerEur : ℚ) {m : UnitModule} {catalog : FactorCatalogPort}
    {gwp : GwpValues} {ctx : RunContext} {row : RawScope3Row} {out : List EmissionRecord}
    (h : m.calculate [row] catalog gwp ctx = .ok out) :
    ∃ routed, m.select catalog gwp row = .ok routed ∧
      (DimensionLaw gbpPerEur row routed out ∧ UnitChangeLaw m catalog gwp ctx row out ↔
        ∀ s ∈ routed, UnitsAgree gbpPerEur row s ∧
          (rowUnit row.unita = some .t → s.factor.valueOrZero * row.quantita = 0)) := by
  obtain ⟨routed, hsel, hshare, htco2e, out', hout', htco2e'⟩ := blindOn_calculate m h
  refine ⟨routed, hsel, ?_⟩
  have hlaw : DimensionLaw gbpPerEur row routed out ↔
      ∀ s ∈ routed, UnitsAgree gbpPerEur row s := by
    rw [DimensionLaw, htco2e, forall₂_map_right]
    refine forall₂_congr fun s hs => ?_
    exact forall₂_congr fun u v => forall₂_congr fun _ _ => correctTco2e_eq_blind (hshare s hs)
  have hchange : UnitChangeLaw m catalog gwp ctx row out ↔
      ∀ s ∈ routed, rowUnit row.unita = some .t → s.factor.valueOrZero * row.quantita = 0 := by
    constructor
    · intro hlaw s hs ht
      obtain ⟨x, hx, heq⟩ := hlaw ht
      rw [hout'] at hx
      cases hx
      rw [htco2e', htco2e, List.map_inj_left] at heq
      exact (blindTco2e_inKg (hshare s hs)).mp (heq s hs)
    · intro hzero ht
      refine ⟨out', hout', ?_⟩
      rw [htco2e', htco2e, List.map_inj_left]
      exact fun s hs => (blindTco2e_inKg (hshare s hs)).mpr (hzero s hs ht)
  rw [hlaw, hchange]
  constructor
  · rintro ⟨hagree, hzero⟩ s hs
    exact ⟨hagree s hs, hzero s hs⟩
  · intro hall
    exact ⟨fun s hs => (hall s hs).1, fun s hs => (hall s hs).2⟩

/-- A batch is the concatenation of its rows taken alone. -/
theorem calculate_rows {m : UnitModule} {catalog : FactorCatalogPort} {gwp : GwpValues}
    {ctx : RunContext} {rows : List RawScope3Row} {records : List EmissionRecord}
    (h : m.calculate rows catalog gwp ctx = .ok records) :
    ∃ outs, List.Forall₂ (fun row out => m.calculate [row] catalog gwp ctx = .ok out) rows outs ∧
      outs.flatten = records := by
  cases m with
  | cat1 =>
      obtain ⟨outs, houts, hflat⟩ := collect_eq_ok h
      exact ⟨outs, houts.imp fun row out hrow => by
        rwa [UnitModule.calculate, Scope3Cat1PurchasedGoods.calculate, collect_singleton], hflat⟩
  | cat6 =>
      obtain ⟨outs, houts, hflat⟩ := collect_eq_ok h
      exact ⟨outs, houts.imp fun row out hrow => by
        rwa [UnitModule.calculate, LabelModule.calculate, collect_singleton], hflat⟩
  | cat12 =>
      simp only [UnitModule.calculate, Scope3Cat12Eol.calculate, bind_eq_ok] at h ⊢
      obtain ⟨landfill, hland, recycle, hrec, h⟩ := h
      obtain ⟨outs, houts, hflat⟩ := collect_eq_ok h
      refine ⟨outs, houts.imp fun row out hrow => ⟨landfill, hland, recycle, hrec, ?_⟩, hflat⟩
      rwa [collect_singleton]

/-- For every batch a module returns, row by row: the emitted tonnes are dimensionally correct and
independent of the unit chosen exactly when row unit and factor denominator agree, or the product
of factor and quantity is zero; a row in tonnes needs the latter. -/
theorem dimension_law_iff (gbpPerEur : ℚ) (m : UnitModule) (catalog : FactorCatalogPort)
    (gwp : GwpValues) (ctx : RunContext) (rows : List RawScope3Row)
    (records : List EmissionRecord) (h : m.calculate rows catalog gwp ctx = .ok records) :
    ∃ outs, outs.flatten = records ∧ List.Forall₂ (fun row out =>
      m.calculate [row] catalog gwp ctx = .ok out ∧
      ∃ routed, m.select catalog gwp row = .ok routed ∧
        (DimensionLaw gbpPerEur row routed out ∧ UnitChangeLaw m catalog gwp ctx row out ↔
          ∀ s ∈ routed, UnitsAgree gbpPerEur row s ∧
            (rowUnit row.unita = some .t → s.factor.valueOrZero * row.quantita = 0))) rows outs := by
  obtain ⟨outs, houts, hflat⟩ := calculate_rows h
  exact ⟨outs, hflat, houts.imp fun row out hrow => ⟨hrow, dimensionLaws_row _ hrow⟩⟩

def clayFactor : CatalogRow :=
  publishedRow 1 "ECOINV_CLAY_V3_10" "kg CO2e / kg" .ar6 (1 / 100)

def clayCatalog : FactorCatalogPort :=
  sqlFactorCatalogAdapter ⟨[clayFactor], by decide, by decide⟩ 1

def clayRow (quantita : ℚ) (unita : String) (h : 0 ≤ quantita) : RawScope3Row :=
  ⟨1, 1, 2024, 1, "Argille", quantita, unita, anno_2024, by decide, h⟩

def clayContext : RunContext :=
  ⟨.drawn 1, "calc_service", .csrdEsrsE1, 0⟩

theorem dimension_law_clay_kg :
    ∃ records, UnitModule.cat1.calculate [clayRow 10 "kg" (by decide)] clayCatalog gwpAr6
        clayContext = .ok records ∧
      ∃ outs, outs.flatten = records ∧ List.Forall₂ (fun row out =>
        UnitModule.cat1.calculate [row] clayCatalog gwpAr6 clayContext = .ok out ∧
        ∃ routed, UnitModule.cat1.select clayCatalog gwpAr6 row = .ok routed ∧
          (DimensionLaw (4 / 5) row routed out ∧
              UnitChangeLaw .cat1 clayCatalog gwpAr6 clayContext row out ↔
            ∀ s ∈ routed, UnitsAgree (4 / 5) row s ∧
              (rowUnit row.unita = some .t → s.factor.valueOrZero * row.quantita = 0)))
        [clayRow 10 "kg" (by decide)] outs := by
  obtain ⟨records, h⟩ := exists_ok_of_toBool (show (UnitModule.cat1.calculate
    [clayRow 10 "kg" (by decide)] clayCatalog gwpAr6 clayContext).toBool = true by
      decide +kernel)
  exact ⟨records, h, dimension_law_iff (4 / 5) .cat1 clayCatalog gwpAr6 clayContext _ records h⟩

/-- Ten tonnes of clay at 0.01 kg CO2e per kilogram are recorded as a tenth of a kilogram. -/
theorem clay_tonnes_misread :
    ∃ out routed, UnitModule.cat1.calculate [clayRow 10 "t" (by decide)] clayCatalog gwpAr6
        clayContext = .ok out ∧
      UnitModule.cat1.select clayCatalog gwpAr6 (clayRow 10 "t" (by decide)) = .ok routed ∧
      ¬ (DimensionLaw (4 / 5) (clayRow 10 "t" (by decide)) routed out ∧
        UnitChangeLaw .cat1 clayCatalog gwpAr6 clayContext (clayRow 10 "t" (by decide)) out) := by
  obtain ⟨out, h⟩ := exists_ok_of_toBool (show (UnitModule.cat1.calculate
    [clayRow 10 "t" (by decide)] clayCatalog gwpAr6 clayContext).toBool = true by
      decide +kernel)
  obtain ⟨routed, hsel, hiff⟩ := dimensionLaws_row (4 / 5) h
  refine ⟨out, routed, h, hsel, fun hlaws => ?_⟩
  have hrouted : UnitModule.cat1.select clayCatalog gwpAr6 (clayRow 10 "t" (by decide)) =
      .ok [⟨rowToFactorRecord clayFactor, 1⟩] := by
    decide +kernel
  rw [hsel] at hrouted
  cases hrouted
  have hzero := (hiff.mp hlaws ⟨rowToFactorRecord clayFactor, 1⟩ (by simp)).2 (by decide)
  exact absurd hzero (by norm_num [rowToFactorRecord, clayFactor, publishedRow,
    FactorRecord.valueOrZero, clayRow])

end GhgTool
