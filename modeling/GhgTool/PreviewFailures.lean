import GhgTool.PrecisionLimits

/-!
# When a preview fails as documented

`Fits` says of each handler which quantities, with the factors that the catalog answers, keep its
products and its amounts below the limits. An accepted request fails as documented exactly when it
fits, and when its site code is one that the database can be asked for.
-/

namespace GhgTool.PreviewPrecision

/-! ## The conditions -/

section Conditions

variable (port : FactorCatalogPort) (req : CalcInputRequest)

/-- The kilograms of CO2, the products of the other two gases, and the tonnes of all three. -/
structure CombustionFits (co2 ch4 n2o : ℚ) : Prop where
  co2_kg : |co2 * req.quantita| < kgLimit
  ch4_product : |ch4 * req.quantita| < overflowLimit
  n2o_product : |n2o * req.quantita| < overflowLimit
  total : |defaultContext.round (contextTonnes co2 req.quantita +
      defaultContext.round (contextTonnes ch4 req.quantita * (getGwpValues req.gwpSet).ch4)) +
    defaultContext.round (contextTonnes n2o req.quantita * (getGwpValues req.gwpSet).n2o)| <
      tonneLimit

/-- The kilograms of a quantity in kWh; one in MWh is converted first, and rounded. -/
def ElectricityFits (value : ℚ) : Prop :=
  ∀ m ∈ kwhMultiplier req.unita,
    if m = 1 then |value * req.quantita| < kgLimit
    else |req.quantita * m| < overflowLimit ∧
      |value * defaultContext.round (req.quantita * m)| < kgLimit

/-- The two masses, their kilograms and the tonnes of both. -/
structure Cat12Fits (landfill recycle : ℚ) : Prop where
  mass : req.quantita * Scope3Cat12Eol.recycleFraction < overflowLimit
  landfill_kg :
    |landfill * defaultContext.round (req.quantita * Scope3Cat12Eol.landfillFraction)| < kgLimit
  recycle_kg :
    |recycle * defaultContext.round (req.quantita * Scope3Cat12Eol.recycleFraction)| < kgLimit
  total :
    |contextTonnes landfill (defaultContext.round (req.quantita *
        Scope3Cat12Eol.landfillFraction)) +
      contextTonnes recycle (defaultContext.round (req.quantita *
        Scope3Cat12Eol.recycleFraction))| < tonneLimit

/-- The kilograms of the quantity for a factor that the request finds, if it finds one. -/
def KgFits (factorId : String) : Prop :=
  ∀ f, FindsFactor port req factorId f → |f.valueOrZero * req.quantita| < kgLimit

def Fits (country : String) : Prop :=
  match req.subScope with
  | .combustion => ∀ c ∈ req.combustibile, ∀ co2 ch4 n2o,
      FindsFactor port req c.componentIds.co2 co2 → FindsFactor port req c.componentIds.ch4 ch4 →
      FindsFactor port req c.componentIds.n2o n2o →
        CombustionFits req co2.valueOrZero ch4.valueOrZero n2o.valueOrZero
  | .process =>
    match req.effectiveMode with
    | .directTco2 => req.quantita < tonneLimit
    | .caco3Mass => ∀ f, FindsFactor port req Scope1Process.factorId f →
        f.value = some (4397 / 10000) → 4397 / 10000 * req.quantita < tonneLimit
  | .lb => ∀ f, FindsFactor port req (lbFactorIdFor country) f → ElectricityFits req f.valueOrZero
  | .mb => ∀ f, FindsFactor port req (mbFactorId req.strumentoMb) f →
      ElectricityFits req f.valueOrZero
  | .cat1PurchasedGoods => ∀ factorId ∈ Scope3Cat1PurchasedGoods.resolve req.label,
      ∀ f, FindsFactor port req factorId f → |f.valueOrZero * req.quantita| < kgLimit ∧
        ∀ bio ∈ memoShare port req factorId, |bio * req.quantita| < kgLimit
  | .cat3FuelEnergy => ∀ factorId ∈ cat3FactorId req.label, KgFits port req factorId
  | .cat4UpstreamTransport =>
    ∀ factorId ∈ Scope3Cat4UpstreamTransport.resolveMode req.label, KgFits port req factorId
  | .cat5Waste => ∀ factorId ∈ Scope3Cat5Waste.resolveWasteFactor req.label,
      KgFits port req factorId
  | .cat6BusinessTravel => ∀ factorId ∈ Scope3Cat6BusinessTravel.resolveFactor req.label,
      KgFits port req factorId
  | .cat7Commuting => KgFits port req Scope3Cat7Commuting.factorId
  | .cat9DownstreamTransport =>
    ∀ factorId ∈ Scope3Cat9DownstreamTransport.resolveMode req.label, KgFits port req factorId
  | .cat12Eol => ∀ landfill recycle, FindsFactor port req Scope3Cat12Eol.landfillFactorId landfill →
      FindsFactor port req Scope3Cat12Eol.recycleFactorId recycle →
        Cat12Fits req landfill.valueOrZero recycle.valueOrZero

end Conditions

/-! ## Look-ups and conversions -/

/-- A look-up that finds no factor raises `MissingFactorError`. -/
def DocumentedPort (port : FactorCatalogPort) : Prop :=
  ∀ factorId gwpSet anno, FailsAsDocumented (raised (requireVintage port factorId gwpSet anno))

theorem documentedPort_of_adapter {catalog : FactorCatalog} {tenantId : Uuid}
    {port : FactorCatalogPort} (h : AdapterPort catalog tenantId port) : DocumentedPort port := by
  intro factorId gwpSet anno
  have hget := h.get factorId gwpSet (some anno)
  unfold requireVintage
  cases hres : port.get factorId gwpSet (some anno) with
  | error e =>
    rw [hres] at hget
    cases hget
    exact fails_error.mpr rfl
  | ok record =>
    dsimp only
    split_ifs
    · exact fails_error.mpr rfl
    · exact fails_pure record

section Handlers

variable {print : Printing} {port : FactorCatalogPort} {req : CalcInputRequest} {α β : Type}

theorem raised_eq_ok {x : Except PreviewError α} {v : α} : raised x = .ok v ↔ x = .ok v := by
  cases x <;> simp [raised, Except.mapError]

theorem fails_find (hport : DocumentedPort port) {factorId : String}
    {k : FactorRecord → Except Failure α} :
    FailsAsDocumented (raised (requireVintage port factorId req.gwpSet req.anno) >>= k) ↔
      ∀ f, FindsFactor port req factorId f → FailsAsDocumented (k f) := by
  rw [fails_bind, and_iff_right (hport _ _ _)]
  simp only [raised_eq_ok]
  rfl

theorem fails_findLb (hport : DocumentedPort port) {country : String}
    {k : FactorRecord → Except Failure α} :
    FailsAsDocumented (raised (requireLbFactor port req country) >>= k) ↔
      ∀ f, FindsFactor port req (lbFactorIdFor country) f → FailsAsDocumented (k f) := by
  have hraise : FailsAsDocumented (raised (requireLbFactor port req country)) := by
    have hfind := hport (lbFactorIdFor country) req.gwpSet req.anno
    unfold requireLbFactor
    cases hres : requireVintage port (lbFactorIdFor country) req.gwpSet req.anno with
    | ok f => exact fails_pure f
    | error e =>
      dsimp only
      split_ifs
      · rwa [hres] at hfind
      · exact fails_error.mpr rfl
  rw [fails_bind, and_iff_right hraise]
  simp only [raised_eq_ok, requireLbFactor_eq_ok]
  rfl

/-- The quantity as it stands, converted from MWh, or no conversion. -/
theorem quantitaKwh_cases (a : Arithmetic) :
    (kwhMultiplier req.unita = none ∧
        ∃ e, quantitaKwh a print req = .error e ∧ e.documented = true) ∨
      (kwhMultiplier req.unita = some 1 ∧
        ∃ text, quantitaKwh a print req = .ok (req.quantita, text)) ∨
      kwhMultiplier req.unita = some 1000 ∧ ∃ text : ℚ → Option String,
        quantitaKwh a print req = a.mul req.quantita 1000 >>= fun kwh => pure (kwh, text kwh) := by
  unfold kwhMultiplier quantitaKwh applyUnitConversion
  rw [normalised_kwh]
  by_cases hlower : lower req.unita = "kwh"
  · have hstrip : strip (lower req.unita) = "kwh" := by
      rw [hlower]
      decide +kernel
    refine .inr (.inl ⟨if_pos hstrip, none, ?_⟩)
    rw [if_pos hlower]
  · rw [if_neg hlower]
    by_cases hkwh : strip (lower req.unita) = "kwh"
    · refine .inr (.inl ⟨if_pos hkwh, ?_⟩)
      simp [hkwh, bind, Except.bind, pure, Except.pure]
    · rw [if_neg hkwh]
      by_cases hmwh : strip (lower req.unita) = "mwh"
      · refine .inr (.inr ⟨if_pos hmwh, ?_⟩)
        have hne : ¬ "mwh" = "kwh" := by decide
        have hncv : ("mwh", "kwh") ∉ ncvDependentPairs := by decide
        have hlookup : unitConversion.lookup ("mwh", "kwh") = some 1000 := lookup_kwh "mwh"
        dsimp only
        rw [hmwh, if_neg hne, if_neg hncv, hlookup]
        dsimp only
        refine ⟨fun kwh => some (print.dec req.quantita ++ " " ++ req.unita ++ " -> " ++
          print.dec kwh ++ " " ++ "kWh" ++ " (×" ++ print.dec 1000 ++ ")"), ?_⟩
        cases a.mul req.quantita 1000 <;> rfl
      · refine .inl ⟨if_neg hmwh, ?_⟩
        by_cases hncv : (strip (lower req.unita), "kwh") ∈ ncvDependentPairs
        · refine ⟨.preview (.ncvDependent req.unita "kWh"), ?_, rfl⟩
          simp [hkwh, hncv, bind, Except.bind]
        · refine ⟨.preview (.noConversion req.unita "kWh"), ?_, rfl⟩
          simp [hkwh, hncv, lookup_kwh, hmwh, bind, Except.bind]

theorem fails_electricity {v : ℚ} {k : ℚ × Option String → Except Failure α}
    (hk : ∀ q text, FailsAsDocumented (k (q, text)) ↔ |v * q| < kgLimit) :
    FailsAsDocumented (quantitaKwh contextArithmetic print req >>= k) ↔
      ElectricityFits req v := by
  unfold ElectricityFits
  rcases @quantitaKwh_cases print req contextArithmetic with
    ⟨hm, e, he, hdocumented⟩ | ⟨hm, text, htext⟩ | ⟨hm, text, htext⟩
  · rw [hm, he]
    refine iff_of_true ?_ fun m h => by cases h
    exact fails_error.mpr hdocumented
  · have hok : (Except.ok (req.quantita, text) >>= k) = k (req.quantita, text) := rfl
    rw [hm, htext, hok, hk]
    simp
  · rw [hm, htext, bind_assoc, fails_mul]
    simp only [pure_bind, hk, Option.mem_def, Option.some.injEq, forall_eq']
    norm_num

/-! ## The handlers -/

theorem fails_label (hport : DocumentedPort port) {resolve : String → Option String}
    {methodology : Methodology} {unit tag : String} :
    FailsAsDocumented
        (previewLabel contextArithmetic print port req resolve methodology unit tag) ↔
      ∀ factorId ∈ resolve req.label, KgFits port req factorId := by
  unfold previewLabel
  cases resolve req.label with
  | none =>
    refine iff_of_true (fails_error.mpr rfl) ?_
    intro factorId h
    cases h
  | some factorId =>
    simp only [fails_find hport, fails_quantizedTonnes, fails_pure, and_true, Option.mem_def,
      Option.some.injEq, forall_eq']
    rfl

theorem fails_cat7 (hport : DocumentedPort port) :
    FailsAsDocumented (previewS3Cat7 contextArithmetic print port req) ↔
      KgFits port req Scope3Cat7Commuting.factorId := by
  unfold previewS3Cat7
  simp only [fails_find hport, fails_quantizedTonnes, fails_pure, and_true]
  rfl

theorem fails_cat1 (hport : DocumentedPort port) (hsub : req.subScope = .cat1PurchasedGoods) :
    FailsAsDocumented (previewS3Cat1 contextArithmetic print port req) ↔
      ∀ factorId ∈ Scope3Cat1PurchasedGoods.resolve req.label,
        ∀ f, FindsFactor port req factorId f → |f.valueOrZero * req.quantita| < kgLimit ∧
          ∀ bio ∈ memoShare port req factorId, |bio * req.quantita| < kgLimit := by
  unfold previewS3Cat1
  cases Scope3Cat1PurchasedGoods.resolve req.label with
  | none =>
    refine iff_of_true (fails_error.mpr rfl) ?_
    intro factorId h
    cases h
  | some factorId =>
    have hshare : (if factorId ∈ Scope3Cat1PurchasedGoods.biogenicFactorIds then
        port.getBiogenicShare factorId req.gwpSet else none) = memoShare port req factorId := by
      unfold memoShare
      simp only [hsub, true_and]
    simp only [fails_find hport, fails_quantizedTonnes, hshare, Option.mem_def, Option.some.injEq,
      forall_eq']
    refine forall_congr' fun f => forall_congr' fun hf => and_congr_right fun hkg => ?_
    cases memoShare port req factorId with
    | none =>
      refine iff_of_true (fails_pure _) ?_
      intro bio h
      cases h
    | some bio =>
      simp only [bind_map_left, fails_quantizedTonnes, fails_pure, and_true, Option.some.injEq,
        forall_eq']

theorem fails_lb (hport : DocumentedPort port) {country : String} :
    FailsAsDocumented (previewS2Lb contextArithmetic print port req country) ↔
      ∀ f, FindsFactor port req (lbFactorIdFor country) f →
        ElectricityFits req f.valueOrZero := by
  unfold previewS2Lb
  rw [fails_findLb hport]
  refine forall_congr' fun f => forall_congr' fun hf => fails_electricity ?_
  intro q text
  simp only [fails_quantizedTonnes, fails_pure, and_true]

theorem fails_mb (hport : DocumentedPort port) :
    FailsAsDocumented (previewS2Mb contextArithmetic print port req) ↔
      ∀ f, FindsFactor port req (mbFactorId req.strumentoMb) f →
        ElectricityFits req f.valueOrZero := by
  unfold previewS2Mb
  rw [fails_find hport]
  refine forall_congr' fun f => forall_congr' fun hf => fails_electricity ?_
  intro q text
  simp only [fails_quantizedTonnes]
  refine and_iff_left_of_imp fun hkg => ?_
  split_ifs
  · -- the amount is already rounded, and rounding it again cannot raise
    rw [bind_map_left, fails_quantize]
    exact ⟨quantizeTco2e_lt (contextTonnes_lt_iff.mpr hkg), fails_pure _⟩
  · exact fails_pure _

theorem fails_process (hport : DocumentedPort port) :
    FailsAsDocumented (previewS1Process contextArithmetic print port req) ↔
      match req.effectiveMode with
      | .directTco2 => req.quantita < tonneLimit
      | .caco3Mass => ∀ f, FindsFactor port req Scope1Process.factorId f →
          f.value = some (4397 / 10000) → 4397 / 10000 * req.quantita < tonneLimit := by
  have hq := req.quantita_pos
  unfold previewS1Process
  cases req.effectiveMode with
  | directTco2 =>
    simp only [fails_quantize, fails_pure, and_true, abs_of_pos hq]
  | caco3Mass =>
    simp only [fails_find hport]
    refine forall_congr' fun f => forall_congr' fun hf => ?_
    by_cases hvalue : f.value = some (4397 / 10000)
    · have hzero : f.valueOrZero = 4397 / 10000 := by
        rw [FactorRecord.valueOrZero, hvalue]
        rfl
      have hpos : 0 < 4397 / 10000 * req.quantita := by linarith
      simp only [hvalue, hzero, ne_eq, not_true_eq_false, if_false, forall_const]
      rw [fails_mul, fails_quantize, abs_round_lt_tonneLimit, abs_of_pos hpos]
      constructor
      · intro h
        exact h.2.1
      · intro h
        exact ⟨h.trans_le tonneLimit_le, h, fails_pure _⟩
    · simp only [hvalue, ne_eq, not_false_eq_true, if_true, false_implies, iff_true]
      exact fails_error.mpr rfl

/-- A gas whose product does not overflow stays below the edge of its GWP. -/
theorem gas_lt_edge {v q g : ℚ} {m : ℤ} (h : |v * q| < overflowLimit) (hg : |g| ≤ 10 ^ m) :
    |contextTonnes v q * g| < defaultContext.edge (defaultContext.emax - 2 + m) := by
  have hlarge := emax_large
  have hshift : defaultContext.emax + 1 + -3 = defaultContext.emax - 2 := by omega
  have hkg : |defaultContext.round (v * q) * kgToTonne| <
      defaultContext.edge (defaultContext.emax - 2) := by
    rw [← hshift]
    exact DecimalContext.abs_mul_lt_edge (abs_round_lt_overflowLimit.mpr h) abs_kgToTonne.le
  exact DecimalContext.abs_mul_lt_edge (abs_round_lt (by omega) hkg) hg

theorem ch4_bound (g : GwpSet) : |(getGwpValues g).ch4| ≤ 10 ^ (2 : ℤ) := by
  cases g <;> norm_num [getGwpValues, gwpAr6, gwpAr5]

theorem n2o_bound (g : GwpSet) : |(getGwpValues g).n2o| ≤ 10 ^ (3 : ℤ) := by
  cases g <;> norm_num [getGwpValues, gwpAr6, gwpAr5]

theorem fails_combustion (hport : DocumentedPort port) {c : Combustibile}
    (hc : req.combustibile = some c) :
    FailsAsDocumented (previewS1Combustion contextArithmetic print port req) ↔
      ∀ co2 ch4 n2o, FindsFactor port req c.componentIds.co2 co2 →
        FindsFactor port req c.componentIds.ch4 ch4 →
        FindsFactor port req c.componentIds.n2o n2o →
          CombustionFits req co2.valueOrZero ch4.valueOrZero n2o.valueOrZero := by
  unfold previewS1Combustion
  rw [hc]
  simp only [fails_find hport, fails_mul, fails_add, fails_quantize, fails_pure, and_true]
  constructor
  · intro h co2 ch4 n2o hco2 hch4 hn2o
    obtain ⟨-, hch4Kg, hn2oKg, -, -, -, -, -, -, -, htotal, hfossil⟩ := h co2 hco2 ch4 hch4 n2o hn2o
    exact ⟨contextTonnes_lt_iff.mp hfossil, hch4Kg, hn2oKg, abs_round_lt_tonneLimit.mp htotal⟩
  · intro h co2 hco2 ch4 hch4 n2o hn2o
    obtain ⟨hco2Kg, hch4Kg, hn2oKg, htotal⟩ := h co2 ch4 n2o hco2 hch4 hn2o
    have hlarge := emax_large
    have hco2Product := hco2Kg.trans_le kgLimit_le
    have hfossil := contextTonnes_lt_iff.mpr hco2Kg
    have hch4Gas := gas_lt_edge hch4Kg (ch4_bound req.gwpSet)
    have hn2oGas := gas_lt_edge hn2oKg (n2o_bound req.gwpSet)
    have hch4Step : defaultContext.emax - 2 + 2 = defaultContext.emax := by omega
    have hn2oStep : defaultContext.emax - 2 + 3 = defaultContext.emax + 1 := by omega
    rw [hch4Step] at hch4Gas
    rw [hn2oStep] at hn2oGas
    have hlast : defaultContext.edge defaultContext.emax ≤ overflowLimit :=
      DecimalContext.edge_le_edge (by omega)
    have hch4Product := hch4Gas.trans_le hlast
    have hch4Round := abs_round_lt (by omega) hch4Gas
    rw [← edge_tonnes] at hfossil
    have htwo := DecimalContext.abs_add_lt_edge (j := 22) (by omega) hfossil hch4Round
    rw [edge_tonnes] at hfossil
    exact ⟨hco2Product, hch4Kg, hn2oKg,
      tonnes_lt_overflowLimit (abs_round_lt_overflowLimit.mpr hco2Product),
      tonnes_lt_overflowLimit (abs_round_lt_overflowLimit.mpr hch4Kg), hch4Product,
      tonnes_lt_overflowLimit (abs_round_lt_overflowLimit.mpr hn2oKg), hn2oGas, htwo,
      htotal.trans_le tonneLimit_le, abs_round_lt_tonneLimit.mpr htotal, hfossil⟩

theorem fails_cat12 (hport : DocumentedPort port) :
    FailsAsDocumented (previewS3Cat12 contextArithmetic print port req) ↔
      ∀ landfill recycle, FindsFactor port req Scope3Cat12Eol.landfillFactorId landfill →
        FindsFactor port req Scope3Cat12Eol.recycleFactorId recycle →
          Cat12Fits req landfill.valueOrZero recycle.valueOrZero := by
  have hq := req.quantita_pos
  have hrecycled : 0 < req.quantita * Scope3Cat12Eol.recycleFraction := by
    unfold Scope3Cat12Eol.recycleFraction
    linarith
  have hlandfilled : |req.quantita * Scope3Cat12Eol.landfillFraction| ≤
      req.quantita * Scope3Cat12Eol.recycleFraction := by
    unfold Scope3Cat12Eol.landfillFraction Scope3Cat12Eol.recycleFraction
    rw [abs_of_pos (by linarith)]
    linarith
  unfold previewS3Cat12
  simp only [fails_find hport, fails_mul, fails_add, fails_quantize, fails_pure, and_true]
  constructor
  · intro h landfill recycle hlandfill hrecycle
    obtain ⟨-, hmass, -, -, -, -, -, htotal, hfirst, hsecond⟩ :=
      h landfill hlandfill recycle hrecycle
    rw [abs_of_pos hrecycled] at hmass
    exact ⟨hmass, contextTonnes_lt_iff.mp hfirst, contextTonnes_lt_iff.mp hsecond,
      abs_round_lt_tonneLimit.mp htotal⟩
  · intro h landfill hlandfill recycle hrecycle
    obtain ⟨hmass, hfirst, hsecond, htotal⟩ := h landfill recycle hlandfill hrecycle
    have hfirstKg := hfirst.trans_le kgLimit_le
    have hsecondKg := hsecond.trans_le kgLimit_le
    exact ⟨hlandfilled.trans_lt hmass, by rwa [abs_of_pos hrecycled], hfirstKg,
      tonnes_lt_overflowLimit (abs_round_lt_overflowLimit.mpr hfirstKg), hsecondKg,
      tonnes_lt_overflowLimit (abs_round_lt_overflowLimit.mpr hsecondKg),
      htotal.trans_le tonneLimit_le, abs_round_lt_tonneLimit.mpr htotal,
      contextTonnes_lt_iff.mpr hfirst, contextTonnes_lt_iff.mpr hsecond⟩

theorem combustibile_of_accepted (h : req.Accepted) (hsub : req.subScope = .combustion) :
    ∃ c, req.combustibile = some c := by
  unfold CalcInputRequest.Accepted CalcInputRequest.validationErrors at h
  split_ifs at h
  unfold CalcInputRequest.conditionalErrors at h
  rw [hsub] at h
  cases hc : req.combustibile with
  | none =>
    rw [hc] at h
    simp at h
  | some c => exact ⟨c, rfl⟩

theorem fails_dispatch (hport : DocumentedPort port) (haccepted : req.Accepted)
    (country : String) :
    FailsAsDocumented (previewDispatch contextArithmetic print port req country) ↔
      Fits port req country := by
  unfold previewDispatch Fits
  cases hsub : req.subScope
  all_goals dsimp only
  case combustion =>
    obtain ⟨c, hc⟩ := combustibile_of_accepted haccepted hsub
    rw [fails_combustion hport hc, hc]
    simp
  case process => exact fails_process hport
  case lb => exact fails_lb hport
  case mb => exact fails_mb hport
  case cat1PurchasedGoods => exact fails_cat1 hport hsub
  case cat7Commuting => exact fails_cat7 hport
  case cat12Eol => exact fails_cat12 hport
  all_goals exact fails_label hport

end Handlers

/-! ## A region that always fits -/

section Numeric

variable {port : FactorCatalogPort} {req : CalcInputRequest}

/-- Values of a `NUMERIC(20,8)` column have at most twelve integer digits. -/
structure NumericFactors (port : FactorCatalogPort) : Prop where
  value : ∀ factorId gwpSet vintageYear f, port.get factorId gwpSet vintageYear = .ok f →
    |f.valueOrZero| < 10 ^ (12 : ℤ)
  share : ∀ factorId gwpSet, ∀ bio ∈ port.getBiogenicShare factorId gwpSet,
    |bio| < 10 ^ (12 : ℤ)

theorem NumericFactors.value_of_finds (h : NumericFactors port) {factorId : String}
    {f : FactorRecord} (hf : FindsFactor port req factorId f) :
    |f.valueOrZero| < 10 ^ (12 : ℤ) :=
  h.value _ _ _ f (requireVintage_ok_iff.mp hf).1

theorem quantita_mul_lt (hq : req.quantita ≤ 10 ^ (8 : ℤ)) {m : ℚ} (hm : |m| ≤ 1) :
    |req.quantita * m| < defaultContext.edge 9 := by
  have hpos := req.quantita_pos
  have hlt : |req.quantita * m| ≤ 10 ^ (8 : ℤ) := by
    rw [abs_mul, abs_of_pos hpos]
    calc req.quantita * |m| ≤ req.quantita * 1 := mul_le_mul_of_nonneg_left hm hpos.le
      _ ≤ 10 ^ (8 : ℤ) := by rwa [mul_one]
  exact hlt.trans_lt (DecimalContext.zpow_lt_edge (by omega))

theorem quantita_lt (hq : req.quantita ≤ 10 ^ (8 : ℤ)) :
    |req.quantita| < defaultContext.edge 9 := by
  have h := quantita_mul_lt hq (m := 1) (by norm_num)
  rwa [mul_one] at h

theorem abs_value_mul_lt {v q : ℚ} {k : ℤ} (hv : |v| < 10 ^ (12 : ℤ))
    (hq : |q| < defaultContext.edge k) : |v * q| < defaultContext.edge (k + 12) := by
  rw [mul_comm]
  exact DecimalContext.abs_mul_lt_edge hq hv.le

theorem contextTonnes_lt_edge {v q : ℚ} {k : ℤ} (hk : 3 ≤ k)
    (h : |v * q| < defaultContext.edge k) :
    |contextTonnes v q| < defaultContext.edge (k - 3) := by
  apply abs_round_lt (by omega)
  exact DecimalContext.abs_mul_lt_edge (abs_round_lt (by omega) h) abs_kgToTonne.le

theorem lt_kgLimit {x : ℚ} {k : ℤ} (hk : k ≤ 25) (h : |x| < defaultContext.edge k) :
    |x| < kgLimit := by
  rw [← edge_kg]
  exact h.trans_le (DecimalContext.edge_le_edge hk)

theorem lt_overflowLimit {x : ℚ} {k : ℤ} (hk : k ≤ 25) (h : |x| < defaultContext.edge k) :
    |x| < overflowLimit :=
  (lt_kgLimit hk h).trans_le kgLimit_le

variable (hport : NumericFactors port) (hq : req.quantita ≤ 10 ^ (8 : ℤ))

include hport hq

theorem product_of_numeric {factorId : String} {f : FactorRecord}
    (hf : FindsFactor port req factorId f) :
    |f.valueOrZero * req.quantita| < defaultContext.edge 21 := by
  have h := abs_value_mul_lt (hport.value_of_finds hf) (quantita_lt hq)
  exact h.trans_le (DecimalContext.edge_le_edge (by omega))

theorem kgFits_of_numeric (factorId : String) : KgFits port req factorId :=
  fun _ hf => lt_kgLimit (by omega) (product_of_numeric hport hq hf)

theorem combustionFits_of_numeric {co2Id ch4Id n2oId : String} {co2 ch4 n2o : FactorRecord}
    (hco2 : FindsFactor port req co2Id co2) (hch4 : FindsFactor port req ch4Id ch4)
    (hn2o : FindsFactor port req n2oId n2o) :
    CombustionFits req co2.valueOrZero ch4.valueOrZero n2o.valueOrZero := by
  have hco2Kg := product_of_numeric hport hq hco2
  have hch4Kg := product_of_numeric hport hq hch4
  have hn2oKg := product_of_numeric hport hq hn2o
  refine ⟨lt_kgLimit (by omega) hco2Kg, lt_overflowLimit (by omega) hch4Kg,
    lt_overflowLimit (by omega) hn2oKg, ?_⟩
  have hco2Tonnes := contextTonnes_lt_edge (by omega) hco2Kg
  have hch4Gas := DecimalContext.abs_mul_lt_edge (contextTonnes_lt_edge (by omega) hch4Kg)
    (ch4_bound req.gwpSet)
  have hn2oGas := DecimalContext.abs_mul_lt_edge (contextTonnes_lt_edge (by omega) hn2oKg)
    (n2o_bound req.gwpSet)
  have hch4Round := abs_round_lt (by omega) hch4Gas
  have hn2oRound := abs_round_lt (by omega) hn2oGas
  have htwo := DecimalContext.abs_add_lt_edge (by omega) hco2Tonnes hch4Round
  have htotal := DecimalContext.abs_add_lt_edge (by omega) (abs_round_lt (by omega) htwo) hn2oRound
  rw [← edge_tonnes]
  exact htotal.trans_le (DecimalContext.edge_le_edge (by omega))

theorem electricityFits_of_numeric {factorId : String} {f : FactorRecord}
    (hf : FindsFactor port req factorId f) : ElectricityFits req f.valueOrZero := by
  intro m hm
  split_ifs with hone
  · exact kgFits_of_numeric hport hq factorId f hf
  · have hmwh : |m| ≤ 10 ^ (3 : ℤ) := by
      unfold kwhMultiplier at hm
      split_ifs at hm <;> cases hm <;> norm_num
    have hkwh := DecimalContext.abs_mul_lt_edge (quantita_lt hq) hmwh
    have hround := abs_round_lt (by omega) hkwh
    exact ⟨lt_overflowLimit (by omega) hkwh,
      lt_kgLimit (by omega) (abs_value_mul_lt (hport.value_of_finds hf) hround)⟩

theorem cat12Fits_of_numeric {landfillId recycleId : String} {landfill recycle : FactorRecord}
    (hlandfill : FindsFactor port req landfillId landfill)
    (hrecycle : FindsFactor port req recycleId recycle) :
    Cat12Fits req landfill.valueOrZero recycle.valueOrZero := by
  have hfirst := quantita_mul_lt hq (m := Scope3Cat12Eol.landfillFraction)
    (by norm_num [Scope3Cat12Eol.landfillFraction])
  have hsecond := quantita_mul_lt hq (m := Scope3Cat12Eol.recycleFraction)
    (by norm_num [Scope3Cat12Eol.recycleFraction])
  have hfirstRound := abs_round_lt (by omega) hfirst
  have hsecondRound := abs_round_lt (by omega) hsecond
  have hfirstKg := abs_value_mul_lt (hport.value_of_finds hlandfill) hfirstRound
  have hsecondKg := abs_value_mul_lt (hport.value_of_finds hrecycle) hsecondRound
  have htotal := DecimalContext.abs_add_lt_edge le_rfl
    (contextTonnes_lt_edge (by omega) hfirstKg) (contextTonnes_lt_edge (by omega) hsecondKg)
  refine ⟨(le_abs_self _).trans_lt (lt_overflowLimit (by omega) hsecond),
    lt_kgLimit (by omega) hfirstKg, lt_kgLimit (by omega) hsecondKg, ?_⟩
  rw [← edge_tonnes]
  exact htotal.trans_le (DecimalContext.edge_le_edge (by omega))

/-- A hundred million units of anything fit, whatever the factors of a `NUMERIC(20,8)` catalog. -/
theorem fits_of_numeric (country : String) : Fits port req country := by
  have hpos := req.quantita_pos
  have hsmall : req.quantita < tonneLimit := hq.trans_lt (by norm_num [tonneLimit])
  unfold Fits
  split
  · intro c _ co2 ch4 n2o hco2 hch4 hn2o
    exact combustionFits_of_numeric hport hq hco2 hch4 hn2o
  · split
    · exact hsmall
    · intro f _ _
      linarith
  · intro f hf
    exact electricityFits_of_numeric hport hq hf
  · intro f hf
    exact electricityFits_of_numeric hport hq hf
  · intro factorId _ f hf
    refine ⟨kgFits_of_numeric hport hq factorId f hf, ?_⟩
    intro bio hbio
    unfold memoShare at hbio
    split_ifs at hbio
    · have h := abs_value_mul_lt (hport.share _ _ bio hbio) (quantita_lt hq)
      exact lt_kgLimit (by omega) h
    · cases hbio
  all_goals first
    | exact kgFits_of_numeric hport hq _
    | exact fun factorId _ => kgFits_of_numeric hport hq factorId
    | exact fun landfill recycle => cat12Fits_of_numeric hport hq

end Numeric

/-! ## The requests that fail as documented -/

/-- An accepted request returns or raises one of the announced errors exactly when its site code can
be asked for and, unless the site is refused, its amounts fit. -/
theorem fails_as_documented_iff (print : Printing) {catalog : FactorCatalog}
    {adapterTenant : Uuid} {port : FactorCatalogPort}
    (hport : AdapterPort catalog adapterTenant port) (session : Option (List RefSite))
    (tenantId : Uuid) {req : CalcInputRequest} (haccepted : req.Accepted) :
    FailsAsDocumented (computePreview contextArithmetic print port req session tenantId) ↔
      ¬ QueriesNul req session ∧
        ((req.subScope = .process → SiteAllows (siteMetaOf session tenantId req)) →
          Fits port req (countryOf (siteMetaOf session tenantId req))) := by
  have hdispatch := @fails_dispatch print port req (documentedPort_of_adapter hport) haccepted
  unfold computePreview
  rw [if_neg (not_not.mpr (UnitLaw.scope_of_accepted haccepted))]
  by_cases hnul : QueriesNul req session
  · rw [if_pos hnul]
    refine iff_of_false ?_ fun h => h.1 hnul
    exact fun h => absurd (h _ rfl) (by decide)
  rw [if_neg hnul, and_iff_right hnul]
  cases siteMetaOf session tenantId req with
  | none =>
    dsimp only
    rw [hdispatch]
    refine ⟨fun h _ => h, fun h => h ?_⟩
    intro _ site hsite
    cases hsite
  | some site =>
    dsimp only
    split_ifs with hrefused
    · -- the site is no production plant: the request is refused with 422
      refine iff_of_true (fails_error.mpr rfl) fun hallowed => ?_
      exact absurd (hallowed hrefused.1 site rfl) hrefused.2
    · rw [hdispatch]
      refine ⟨fun h _ => h, fun h => h ?_⟩
      intro hprocess s hs
      cases hs
      by_contra htype
      exact hrefused ⟨hprocess, htype⟩

theorem numericFactors_commuting :
    NumericFactors (sqlFactorCatalogAdapter commutingCatalog 1) where
  value := by
    intro factorId gwpSet vintageYear f hget
    obtain ⟨row, hrow, -, rfl⟩ := factorDbId_of_fetch hget
    rw [List.mem_singleton.mp hrow]
    norm_num [rowToFactorRecord, publishedRow, FactorRecord.valueOrZero]
  share := by
    intro factorId gwpSet bio hbio
    simp only [sqlFactorCatalogAdapter] at hbio
    cases hget : fetch commutingCatalog 1 factorId gwpSet none with
    | error e =>
      rw [hget] at hbio
      cases hbio
    | ok record =>
      obtain ⟨row, hrow, -, rfl⟩ := factorDbId_of_fetch hget
      rw [hget, List.mem_singleton.mp hrow] at hbio
      cases hbio

/-- A thousand kilometres of commuting. -/
theorem fails_as_documented_commuting :
    FailsAsDocumented (computePreview contextArithmetic plainPrinting
      (sqlFactorCatalogAdapter commutingCatalog 1) (commutingRequest "commuting_auto") none 1) :=
  (fails_as_documented_iff plainPrinting (adapterPort_sql commutingCatalog 1) none 1
    (by decide)).mpr ⟨by decide, fun _ =>
      fits_of_numeric numericFactors_commuting (by norm_num [commutingRequest]) "IT"⟩

/-- Tonnes declared directly at IANO. -/
def directDeclaration (quantita : ℚ) (h : 0 < quantita) : CalcInputRequest :=
  { UnitLaw.electricity quantita "tCO2" h with
    scope := .one
    subScope := .process }

theorem large_pos : (0 : ℚ) < 10 ^ 30 := by
  norm_num

/-- `10 ^ 30` tonnes are accepted, and their rounding raises `InvalidOperation`. -/
theorem large_declaration_raises :
    (directDeclaration (10 ^ 30) large_pos).Accepted ∧
      computePreview contextArithmetic plainPrinting (sqlFactorCatalogAdapter commutingCatalog 1)
          (directDeclaration (10 ^ 30) large_pos) none 1 =
        .error (.decimal .invalidOperation) ∧
      ¬ FailsAsDocumented (computePreview contextArithmetic plainPrinting
        (sqlFactorCatalogAdapter commutingCatalog 1)
        (directDeclaration (10 ^ 30) large_pos) none 1) := by
  have hlarge : ¬ |(10 : ℚ) ^ 30| < tonneLimit := by norm_num [tonneLimit]
  have hraises : computePreview contextArithmetic plainPrinting
      (sqlFactorCatalogAdapter commutingCatalog 1)
      (directDeclaration (10 ^ 30) large_pos) none 1 =
        .error (.decimal .invalidOperation) := by
    change (contextArithmetic.quantize (10 ^ 30) >>= _) = _
    rw [quantize_of_not_lt hlarge]
    rfl
  refine ⟨by decide, hraises, ?_⟩
  rw [hraises, fails_error]
  decide

end GhgTool.PreviewPrecision
