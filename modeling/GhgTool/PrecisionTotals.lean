import GhgTool.PreviewFailures

/-!
# The exact totals behind the limits

What combustion, category 12 and a quantity in MWh ask for is asked of rounded numbers. Where no
factor is negative the exact amount of kilograms decides whether these handlers fail as documented,
but for a kilogram on either side of `10 ^ 25`.
-/

namespace GhgTool.PreviewPrecision

/-! ## Rounding errors -/

theorem abs_round_sub_le (x : ℚ) : |defaultContext.round x - x| ≤ (|x| + 1) / 10 ^ 27 := by
  have hdigits : (1 - defaultContext.prec : ℤ) = -27 := rfl
  have htiny : (10 : ℚ) ^ defaultContext.etiny ≤ 10 ^ (-27 : ℤ) := by
    have hetiny : defaultContext.etiny ≤ -27 := by decide
    exact zpow_le_zpow_right₀ (by norm_num) hetiny
  have hround := DecimalContext.abs_round_sub_le (c := defaultContext) x
  have hlast : (10 : ℚ) ^ (-27 : ℤ) = 1 / 10 ^ 27 := by norm_num
  have hnonneg := abs_nonneg x
  rw [hdigits] at hround
  rw [hlast] at hround htiny
  linarith

theorem abs_add_sub_add_le {x y x' y' e e' : ℚ} (h : |x - y| ≤ e) (h' : |x' - y'| ≤ e') :
    |x + x' - (y + y')| ≤ e + e' := by
  rw [add_sub_add_comm]
  exact (abs_add_le _ _).trans (add_le_add h h')

/-- Rounding a number that is close to `y`. -/
theorem abs_round_sub_le_of_close {x y e : ℚ} (hy : 0 ≤ y) (h : |x - y| ≤ e) :
    |defaultContext.round x - y| ≤ e + (y + e + 1) / 10 ^ 27 := by
  have hround := abs_round_sub_le x
  have htriangle := abs_sub_le (defaultContext.round x) x y
  have hsize : |x| ≤ y + e := by
    have hdiff := abs_sub_abs_le_abs_sub x y
    rw [abs_of_nonneg hy] at hdiff
    linarith
  linarith

theorem abs_contextTonnes_sub_le {v q x e : ℚ} (hx : 0 ≤ x) (h : |v * q - x| ≤ e) :
    |contextTonnes v q - x * kgToTonne| ≤
      2 * (e * kgToTonne) + (3 * (x * kgToTonne) + 2) / 10 ^ 27 := by
  have he : 0 ≤ e := (abs_nonneg _).trans h
  have hkg := abs_round_sub_le_of_close hx h
  have hscaled : |defaultContext.round (v * q) * kgToTonne - x * kgToTonne| ≤
      (e + (x + e + 1) / 10 ^ 27) * kgToTonne := by
    rw [← sub_mul, abs_mul, abs_of_pos kgToTonne_pos]
    exact mul_le_mul_of_nonneg_right hkg kgToTonne_pos.le
  have htonnes := abs_round_sub_le_of_close (mul_nonneg hx kgToTonne_pos.le) hscaled
  unfold contextTonnes
  unfold kgToTonne at htonnes ⊢
  linarith

/-- A factor of a `NUMERIC(20,8)` column times a rounded quantity. -/
theorem abs_mul_round_sub_le {v x : ℚ} (hv : 0 ≤ v) (hlimit : v ≤ 10 ^ 12) (hx : 0 ≤ x) :
    |v * defaultContext.round x - v * x| ≤ (v * x + 10 ^ 12) / 10 ^ 27 := by
  have hround := abs_round_sub_le x
  rw [abs_of_nonneg hx] at hround
  calc |v * defaultContext.round x - v * x| = v * |defaultContext.round x - x| := by
        rw [← mul_sub, abs_mul, abs_of_nonneg hv]
    _ ≤ v * ((x + 1) / 10 ^ 27) := mul_le_mul_of_nonneg_left hround hv
    _ ≤ (v * x + 10 ^ 12) / 10 ^ 27 := by linarith

section Totals

variable {req : CalcInputRequest}

theorem multiplier_nonneg {unit : String} {m : ℚ} (h : m ∈ kwhMultiplier unit) : 0 ≤ m := by
  unfold kwhMultiplier at h
  split_ifs at h <;> cases h <;> norm_num

/-! ## Combustion -/

section Combustion

variable {co2 ch4 n2o : ℚ}

theorem one_le_gwp (g : GwpSet) : 1 ≤ (getGwpValues g).ch4 ∧ 1 ≤ (getGwpValues g).n2o := by
  cases g <;> norm_num [getGwpValues, gwpAr6, gwpAr5]

theorem gwp_le (g : GwpSet) : (getGwpValues g).ch4 ≤ 300 ∧ (getGwpValues g).n2o ≤ 300 := by
  cases g <;> norm_num [getGwpValues, gwpAr6, gwpAr5]

theorem abs_gas_sub_le {v q g : ℚ} (hx : 0 ≤ v * q) (hone : 1 ≤ g) (hlarge : g ≤ 300) :
    |defaultContext.round (contextTonnes v q * g) - v * q * g * kgToTonne| ≤
      (5 * (v * q * g * kgToTonne) + 1000) / 10 ^ 27 := by
  have hpos : 0 ≤ v * q * g * kgToTonne :=
    mul_nonneg (mul_nonneg hx (by linarith)) kgToTonne_pos.le
  have htonnes := abs_contextTonnes_sub_le hx (e := 0) (by rw [sub_self, abs_zero])
  have hweighted : |contextTonnes v q * g - v * q * g * kgToTonne| ≤
      (3 * (v * q * g * kgToTonne) + 600) / 10 ^ 27 := by
    have hfactor : contextTonnes v q * g - v * q * g * kgToTonne =
        (contextTonnes v q - v * q * kgToTonne) * g := by ring
    have hmul := mul_le_mul_of_nonneg_right htonnes (by linarith : 0 ≤ g)
    rw [hfactor, abs_mul, abs_of_nonneg (by linarith : 0 ≤ g)]
    linarith
  have hround := abs_round_sub_le_of_close hpos hweighted
  linarith

variable (req) in
/-- The exact kilograms of the three gases together. -/
def combustionKg (co2 ch4 n2o : ℚ) : ℚ :=
  co2 * req.quantita + ch4 * req.quantita * (getGwpValues req.gwpSet).ch4 +
    n2o * req.quantita * (getGwpValues req.gwpSet).n2o

variable (req) in
theorem abs_combustion_sub_le (hco2 : 0 ≤ co2) (hch4 : 0 ≤ ch4) (hn2o : 0 ≤ n2o) :
    |defaultContext.round (contextTonnes co2 req.quantita +
        defaultContext.round (contextTonnes ch4 req.quantita * (getGwpValues req.gwpSet).ch4)) +
      defaultContext.round (contextTonnes n2o req.quantita * (getGwpValues req.gwpSet).n2o) -
      combustionKg req co2 ch4 n2o * kgToTonne| ≤
        (7 * (combustionKg req co2 ch4 n2o * kgToTonne) + 3000) / 10 ^ 27 := by
  have hq := req.quantita_pos.le
  obtain ⟨hch4One, hn2oOne⟩ := one_le_gwp req.gwpSet
  obtain ⟨hch4Large, hn2oLarge⟩ := gwp_le req.gwpSet
  have hco2Kg := mul_nonneg hco2 hq
  have hch4Kg := mul_nonneg hch4 hq
  have hn2oKg := mul_nonneg hn2o hq
  have hfossil := abs_contextTonnes_sub_le hco2Kg (e := 0) (by rw [sub_self, abs_zero])
  have hch4Gas := abs_gas_sub_le hch4Kg hch4One hch4Large
  have hn2oGas := abs_gas_sub_le hn2oKg hn2oOne hn2oLarge
  unfold combustionKg
  generalize (getGwpValues req.gwpSet).ch4 = gCh4 at *
  generalize (getGwpValues req.gwpSet).n2o = gN2o at *
  have hco2Tonnes := mul_nonneg hco2Kg kgToTonne_pos.le
  have hch4Tonnes : 0 ≤ ch4 * req.quantita * gCh4 * kgToTonne :=
    mul_nonneg (mul_nonneg hch4Kg (by linarith)) kgToTonne_pos.le
  have hn2oTonnes : 0 ≤ n2o * req.quantita * gN2o * kgToTonne :=
    mul_nonneg (mul_nonneg hn2oKg (by linarith)) kgToTonne_pos.le
  rw [add_mul, add_mul]
  generalize co2 * req.quantita * kgToTonne = y at *
  generalize ch4 * req.quantita * gCh4 * kgToTonne = z at *
  generalize n2o * req.quantita * gN2o * kgToTonne = w at *
  have htwo := abs_round_sub_le_of_close (add_nonneg hco2Tonnes hch4Tonnes)
    (abs_add_sub_add_le hfossil hch4Gas)
  have hthree := abs_add_sub_add_le htwo hn2oGas
  linarith

theorem combustionFits_of_kg_le (hco2 : 0 ≤ co2) (hch4 : 0 ≤ ch4) (hn2o : 0 ≤ n2o)
    (h : combustionKg req co2 ch4 n2o ≤ 10 ^ 25 - 1) : CombustionFits req co2 ch4 n2o := by
  have hq := req.quantita_pos.le
  obtain ⟨hch4One, hn2oOne⟩ := one_le_gwp req.gwpSet
  have hco2Kg := mul_nonneg hco2 hq
  have hch4Kg := mul_nonneg hch4 hq
  have hn2oKg := mul_nonneg hn2o hq
  have hch4Gas := le_mul_of_one_le_right hch4Kg hch4One
  have hn2oGas := le_mul_of_one_le_right hn2oKg hn2oOne
  have hclose := abs_le.mp (abs_combustion_sub_le req hco2 hch4 hn2o)
  have hparts : co2 * req.quantita + ch4 * req.quantita + n2o * req.quantita ≤
      combustionKg req co2 ch4 n2o := by
    unfold combustionKg
    linarith
  have hlimit : kgLimit = 10 ^ 25 - 1 / 2000 := rfl
  have hoverflow := kgLimit_le
  refine ⟨?_, ?_, ?_, ?_⟩
  · rw [abs_of_nonneg hco2Kg]
    linarith
  · rw [abs_of_nonneg hch4Kg]
    linarith
  · rw [abs_of_nonneg hn2oKg]
    linarith
  · unfold kgToTonne at hclose
    unfold tonneLimit
    rw [abs_lt]
    constructor <;> linarith

theorem kg_lt_of_combustionFits (hco2 : 0 ≤ co2) (hch4 : 0 ≤ ch4) (hn2o : 0 ≤ n2o)
    (h : CombustionFits req co2 ch4 n2o) : combustionKg req co2 ch4 n2o < 10 ^ 25 + 1 := by
  have hclose := abs_le.mp (abs_combustion_sub_le req hco2 hch4 hn2o)
  have htotal := (abs_lt.mp h.total).2
  unfold kgToTonne at hclose
  unfold tonneLimit at htotal
  linarith

end Combustion

/-! ## Electricity -/

/-- A quantity in MWh is rounded once before it is priced. -/
theorem electricityFits_of_kg_le {v m : ℚ} (hv : 0 ≤ v) (hlimit : v ≤ 10 ^ 12)
    (hm : kwhMultiplier req.unita = some m) (hquantita : |req.quantita * m| < overflowLimit)
    (h : v * (req.quantita * m) ≤ 10 ^ 25 - 1) : ElectricityFits req v := by
  intro m' hm'
  cases hm.symm.trans hm'
  have hkwh : 0 ≤ req.quantita * m := mul_nonneg req.quantita_pos.le (multiplier_nonneg hm)
  have hkg := h
  have hnonneg := mul_nonneg hv hkwh
  unfold kgLimit
  split_ifs with hone
  · rw [hone, mul_one] at hkg hnonneg
    rw [abs_of_nonneg hnonneg]
    linarith
  · have hclose := abs_le.mp (abs_mul_round_sub_le hv hlimit hkwh)
    refine ⟨hquantita, ?_⟩
    rw [abs_lt]
    constructor <;> linarith

theorem kg_lt_of_electricityFits {v : ℚ} (hv : 0 ≤ v) (hlimit : v ≤ 10 ^ 12)
    (h : ElectricityFits req v) {m : ℚ} (hm : m ∈ kwhMultiplier req.unita) :
    v * (req.quantita * m) < 10 ^ 25 + 1 := by
  have hkwh : 0 ≤ req.quantita * m := mul_nonneg req.quantita_pos.le (multiplier_nonneg hm)
  have hfits := h m hm
  unfold kgLimit at hfits
  split_ifs at hfits with hone
  · have hkg := (abs_lt.mp hfits).2
    rw [hone, mul_one]
    linarith
  · have hclose := abs_le.mp (abs_mul_round_sub_le hv hlimit hkwh)
    have hkg := (abs_lt.mp hfits.2).2
    linarith

/-! ## Category 12 -/

section Cat12

variable {landfill recycle : ℚ}

variable (req) in
/-- The exact kilograms of the two treatments together. -/
def cat12Kg (landfill recycle : ℚ) : ℚ :=
  landfill * (req.quantita * Scope3Cat12Eol.landfillFraction) +
    recycle * (req.quantita * Scope3Cat12Eol.recycleFraction)

variable (req) in
theorem fraction_nonneg :
    0 ≤ req.quantita * Scope3Cat12Eol.landfillFraction ∧
      0 ≤ req.quantita * Scope3Cat12Eol.recycleFraction := by
  have hq := req.quantita_pos
  unfold Scope3Cat12Eol.landfillFraction Scope3Cat12Eol.recycleFraction
  constructor <;> linarith

theorem abs_treatment_sub_le {v x : ℚ} (hv : 0 ≤ v) (hlimit : v ≤ 10 ^ 12) (hx : 0 ≤ x) :
    |contextTonnes v (defaultContext.round x) - v * x * kgToTonne| ≤
      (5 * (v * x * kgToTonne) + 2 * 10 ^ 9 + 2) / 10 ^ 27 := by
  have hnonneg := mul_nonneg hv hx
  have htonnes := abs_contextTonnes_sub_le hnonneg (abs_mul_round_sub_le hv hlimit hx)
  unfold kgToTonne at htonnes ⊢
  linarith

variable (req) in
theorem abs_cat12_sub_le (hlandfill : 0 ≤ landfill) (hlandfillLimit : landfill ≤ 10 ^ 12)
    (hrecycle : 0 ≤ recycle) (hrecycleLimit : recycle ≤ 10 ^ 12) :
    |contextTonnes landfill (defaultContext.round (req.quantita *
        Scope3Cat12Eol.landfillFraction)) +
      contextTonnes recycle (defaultContext.round (req.quantita *
        Scope3Cat12Eol.recycleFraction)) - cat12Kg req landfill recycle * kgToTonne| ≤
      (5 * (cat12Kg req landfill recycle * kgToTonne) + 5 * 10 ^ 9) / 10 ^ 27 := by
  obtain ⟨hlandfilled, hrecycled⟩ := fraction_nonneg req
  have hfirst := abs_treatment_sub_le hlandfill hlandfillLimit hlandfilled
  have hsecond := abs_treatment_sub_le hrecycle hrecycleLimit hrecycled
  have hboth := abs_add_sub_add_le hfirst hsecond
  unfold cat12Kg
  rw [add_mul]
  linarith

theorem cat12Fits_of_kg_le (hlandfill : 0 ≤ landfill) (hlandfillLimit : landfill ≤ 10 ^ 12)
    (hrecycle : 0 ≤ recycle) (hrecycleLimit : recycle ≤ 10 ^ 12)
    (hmass : req.quantita * Scope3Cat12Eol.recycleFraction < overflowLimit)
    (h : cat12Kg req landfill recycle ≤ 10 ^ 25 - 1) : Cat12Fits req landfill recycle := by
  obtain ⟨hlandfilled, hrecycled⟩ := fraction_nonneg req
  have hfirst := abs_le.mp (abs_mul_round_sub_le hlandfill hlandfillLimit hlandfilled)
  have hsecond := abs_le.mp (abs_mul_round_sub_le hrecycle hrecycleLimit hrecycled)
  have hboth := abs_le.mp (abs_cat12_sub_le req hlandfill hlandfillLimit hrecycle
    hrecycleLimit)
  have hlandfillKg := mul_nonneg hlandfill hlandfilled
  have hrecycleKg := mul_nonneg hrecycle hrecycled
  have hkg := h
  unfold cat12Kg at hkg
  refine ⟨hmass, ?_, ?_, ?_⟩
  · unfold kgLimit
    rw [abs_lt]
    constructor <;> linarith
  · unfold kgLimit
    rw [abs_lt]
    constructor <;> linarith
  · unfold kgToTonne at hboth
    unfold tonneLimit
    rw [abs_lt]
    constructor <;> linarith

theorem kg_lt_of_cat12Fits (hlandfill : 0 ≤ landfill) (hlandfillLimit : landfill ≤ 10 ^ 12)
    (hrecycle : 0 ≤ recycle) (hrecycleLimit : recycle ≤ 10 ^ 12)
    (h : Cat12Fits req landfill recycle) : cat12Kg req landfill recycle < 10 ^ 25 + 1 := by
  have hboth := abs_le.mp (abs_cat12_sub_le req hlandfill hlandfillLimit hrecycle
    hrecycleLimit)
  have htotal := (abs_lt.mp h.total).2
  unfold kgToTonne at hboth
  unfold tonneLimit at htotal
  linarith

end Cat12

/-! ## The handlers -/

section Handlers

variable {print : Printing} {port : FactorCatalogPort} (hport : DocumentedPort port)

include hport

theorem combustion_fails_by_kg {c : Combustibile} (hc : req.combustibile = some c)
    {co2 ch4 n2o : FactorRecord} (hco2 : FindsFactor port req c.componentIds.co2 co2)
    (hch4 : FindsFactor port req c.componentIds.ch4 ch4)
    (hn2o : FindsFactor port req c.componentIds.n2o n2o)
    (hnonneg : 0 ≤ co2.valueOrZero ∧ 0 ≤ ch4.valueOrZero ∧ 0 ≤ n2o.valueOrZero) :
    let kg := combustionKg req co2.valueOrZero ch4.valueOrZero n2o.valueOrZero
    (kg ≤ 10 ^ 25 - 1 →
        FailsAsDocumented (previewS1Combustion contextArithmetic print port req)) ∧
      (FailsAsDocumented (previewS1Combustion contextArithmetic print port req) →
        kg < 10 ^ 25 + 1) := by
  obtain ⟨hco2Sign, hch4Sign, hn2oSign⟩ := hnonneg
  rw [fails_combustion hport hc]
  constructor
  · intro hkg co2' ch4' n2o' hco2' hch4' hn2o'
    cases hco2.symm.trans hco2'
    cases hch4.symm.trans hch4'
    cases hn2o.symm.trans hn2o'
    exact combustionFits_of_kg_le hco2Sign hch4Sign hn2oSign hkg
  · intro hfits
    exact kg_lt_of_combustionFits hco2Sign hch4Sign hn2oSign
      (hfits co2 ch4 n2o hco2 hch4 hn2o)

theorem lb_fails_by_kg {country : String} {f : FactorRecord}
    (hf : FindsFactor port req (lbFactorIdFor country) f) (hv : 0 ≤ f.valueOrZero)
    (hlimit : f.valueOrZero ≤ 10 ^ 12) {m : ℚ} (hm : kwhMultiplier req.unita = some m)
    (hquantita : |req.quantita * m| < overflowLimit) :
    let kg := f.valueOrZero * (req.quantita * m)
    (kg ≤ 10 ^ 25 - 1 →
        FailsAsDocumented (previewS2Lb contextArithmetic print port req country)) ∧
      (FailsAsDocumented (previewS2Lb contextArithmetic print port req country) →
        kg < 10 ^ 25 + 1) := by
  rw [fails_lb hport]
  constructor
  · intro hkg f' hf'
    cases hf.symm.trans hf'
    exact electricityFits_of_kg_le hv hlimit hm hquantita hkg
  · intro hfits
    exact kg_lt_of_electricityFits hv hlimit (hfits f hf) hm

theorem mb_fails_by_kg {f : FactorRecord} (hf : FindsFactor port req (mbFactorId req.strumentoMb) f)
    (hv : 0 ≤ f.valueOrZero) (hlimit : f.valueOrZero ≤ 10 ^ 12) {m : ℚ}
    (hm : kwhMultiplier req.unita = some m) (hquantita : |req.quantita * m| < overflowLimit) :
    let kg := f.valueOrZero * (req.quantita * m)
    (kg ≤ 10 ^ 25 - 1 → FailsAsDocumented (previewS2Mb contextArithmetic print port req)) ∧
      (FailsAsDocumented (previewS2Mb contextArithmetic print port req) → kg < 10 ^ 25 + 1) := by
  rw [fails_mb hport]
  constructor
  · intro hkg f' hf'
    cases hf.symm.trans hf'
    exact electricityFits_of_kg_le hv hlimit hm hquantita hkg
  · intro hfits
    exact kg_lt_of_electricityFits hv hlimit (hfits f hf) hm

theorem cat12_fails_by_kg {landfill recycle : FactorRecord}
    (hlandfill : FindsFactor port req Scope3Cat12Eol.landfillFactorId landfill)
    (hrecycle : FindsFactor port req Scope3Cat12Eol.recycleFactorId recycle)
    (hnonneg : 0 ≤ landfill.valueOrZero ∧ 0 ≤ recycle.valueOrZero)
    (hlimit : landfill.valueOrZero ≤ 10 ^ 12 ∧ recycle.valueOrZero ≤ 10 ^ 12)
    (hmass : req.quantita * Scope3Cat12Eol.recycleFraction < overflowLimit) :
    let kg := cat12Kg req landfill.valueOrZero recycle.valueOrZero
    (kg ≤ 10 ^ 25 - 1 → FailsAsDocumented (previewS3Cat12 contextArithmetic print port req)) ∧
      (FailsAsDocumented (previewS3Cat12 contextArithmetic print port req) →
        kg < 10 ^ 25 + 1) := by
  rw [fails_cat12 hport]
  constructor
  · intro hkg landfill' recycle' hlandfill' hrecycle'
    cases hlandfill.symm.trans hlandfill'
    cases hrecycle.symm.trans hrecycle'
    exact cat12Fits_of_kg_le hnonneg.1 hlimit.1 hnonneg.2 hlimit.2 hmass hkg
  · intro hfits
    exact kg_lt_of_cat12Fits hnonneg.1 hlimit.1 hnonneg.2 hlimit.2
      (hfits landfill recycle hlandfill hrecycle)

end Handlers

end Totals

end GhgTool.PreviewPrecision
