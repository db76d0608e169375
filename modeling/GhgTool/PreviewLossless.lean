import GhgTool.PreviewFailures

/-!
# Previews that lose no digit

What other modules prove of the preview is about exact numbers. It holds of the runtime's numbers
wherever no product and no sum is rounded: a preview that succeeds with every such rounding refused
is the preview of the default context and the exact one. A product keeps its digits when its
factors have no more than twenty-eight together.
-/

namespace GhgTool.PreviewPrecision

/-! ## An arithmetic within another -/

/-- What the one computation returns, the other returns. -/
def Keeps {α : Type} (x y : Except Failure α) : Prop :=
  ∀ v, x = .ok v → y = .ok v

theorem keeps_refl {α : Type} (x : Except Failure α) : Keeps x x :=
  fun _ h => h

theorem keeps_bind {α β : Type} {x y : Except Failure α} {k k' : α → Except Failure β}
    (hfirst : Keeps x y) (hnext : ∀ v, Keeps (k v) (k' v)) : Keeps (x >>= k) (y >>= k') := by
  intro out hout
  obtain ⟨v, hv, hkv⟩ := bind_eq_ok.mp hout
  exact bind_eq_ok.mpr ⟨v, hfirst v hv, hnext v out hkv⟩

theorem keeps_map {α β : Type} {x y : Except Failure α} (f : α → β) (h : Keeps x y) :
    Keeps (f <$> x) (f <$> y) := by
  intro out hout
  obtain ⟨v, hv, rfl⟩ := map_eq_ok.mp hout
  exact map_eq_ok.mpr ⟨v, h v hv, rfl⟩

structure Arithmetic.Within (a b : Arithmetic) : Prop where
  mul : ∀ x y, Keeps (a.mul x y) (b.mul x y)
  add : ∀ x y, Keeps (a.add x y) (b.add x y)
  quantize : ∀ x, Keeps (a.quantize x) (b.quantize x)

section Handlers

variable {a b : Arithmetic} {print : Printing} {catalog : FactorCatalogPort}
  {req : CalcInputRequest}

theorem quantizedTonnes_within (h : a.Within b) (value quantita : ℚ) :
    Keeps (quantizedTonnes a value quantita) (quantizedTonnes b value quantita) := by
  apply keeps_bind (h.mul _ _)
  intro kg
  apply keeps_bind (h.mul _ _)
  intro tonnes
  exact h.quantize tonnes

theorem applyUnitConversion_within (h : a.Within b) (quantity : ℚ) (fromUnit toUnit : String) :
    Keeps (applyUnitConversion a print quantity fromUnit toUnit)
      (applyUnitConversion b print quantity fromUnit toUnit) := by
  unfold applyUnitConversion
  dsimp only
  split
  · exact keeps_refl _
  · split
    · exact keeps_refl _
    · split
      · exact keeps_refl _
      · exact keeps_bind (h.mul _ _) fun _ => keeps_refl _

theorem quantitaKwh_within (h : a.Within b) :
    Keeps (quantitaKwh a print req) (quantitaKwh b print req) := by
  unfold quantitaKwh
  split
  · exact keeps_refl _
  · exact keeps_bind (applyUnitConversion_within h _ _ _) fun _ => keeps_refl _

theorem previewS1Combustion_within (h : a.Within b) :
    Keeps (previewS1Combustion a print catalog req) (previewS1Combustion b print catalog req) := by
  unfold previewS1Combustion
  split
  · exact keeps_refl _
  · refine keeps_bind (keeps_refl _) fun co2Factor => ?_
    refine keeps_bind (keeps_refl _) fun ch4Factor => ?_
    refine keeps_bind (keeps_refl _) fun n2oFactor => ?_
    refine keeps_bind (h.mul _ _) fun co2Kg => ?_
    refine keeps_bind (h.mul _ _) fun ch4Kg => ?_
    refine keeps_bind (h.mul _ _) fun n2oKg => ?_
    refine keeps_bind (h.mul _ _) fun co2Tonne => ?_
    refine keeps_bind (h.mul _ _) fun ch4Tonne => ?_
    refine keeps_bind (h.mul _ _) fun ch4Tco2e => ?_
    refine keeps_bind (h.mul _ _) fun n2oTonne => ?_
    refine keeps_bind (h.mul _ _) fun n2oTco2e => ?_
    refine keeps_bind (h.add _ _) fun twoGases => ?_
    refine keeps_bind (h.add _ _) fun threeGases => ?_
    refine keeps_bind (h.quantize _) fun tco2e => ?_
    exact keeps_bind (h.quantize _) fun co2FossilTonne => keeps_refl _

theorem previewS1Process_within (h : a.Within b) :
    Keeps (previewS1Process a print catalog req) (previewS1Process b print catalog req) := by
  unfold previewS1Process
  dsimp only
  split
  · exact keeps_bind (h.quantize _) fun _ => keeps_refl _
  · refine keeps_bind (keeps_refl _) fun factor => ?_
    split
    · intro p hp
      cases hp
    · refine keeps_bind (h.mul _ _) fun co2Tonne => ?_
      exact keeps_bind (h.quantize _) fun tco2e => keeps_refl _

theorem previewS2Lb_within (h : a.Within b) (country : String) :
    Keeps (previewS2Lb a print catalog req country) (previewS2Lb b print catalog req country) := by
  refine keeps_bind (keeps_refl _) fun factor => ?_
  refine keeps_bind (quantitaKwh_within h) fun converted => ?_
  exact keeps_bind (quantizedTonnes_within h _ _) fun tco2e => keeps_refl _

theorem previewS2Mb_within (h : a.Within b) :
    Keeps (previewS2Mb a print catalog req) (previewS2Mb b print catalog req) := by
  refine keeps_bind (keeps_refl _) fun factor => ?_
  refine keeps_bind (quantitaKwh_within h) fun converted => ?_
  refine keeps_bind (quantizedTonnes_within h _ _) fun tco2e => ?_
  dsimp only
  split
  · exact keeps_bind (keeps_map some (h.quantize _)) fun co2FossilTonne => keeps_refl _
  · exact keeps_refl _

theorem previewS3Cat1_within (h : a.Within b) :
    Keeps (previewS3Cat1 a print catalog req) (previewS3Cat1 b print catalog req) := by
  unfold previewS3Cat1
  split
  · exact keeps_refl _
  · next factorId hresolve =>
    refine keeps_bind (keeps_refl _) fun factor => ?_
    refine keeps_bind (quantizedTonnes_within h _ _) fun tco2e => ?_
    dsimp only
    generalize (if factorId ∈ Scope3Cat1PurchasedGoods.biogenicFactorIds then
      catalog.getBiogenicShare factorId req.gwpSet else none) = share
    cases share with
    | none => exact keeps_refl _
    | some bio =>
      exact keeps_bind (keeps_map some (quantizedTonnes_within h _ _)) fun co2Biogenic =>
        keeps_refl _

theorem previewLabel_within (h : a.Within b) (resolve : String → Option String)
    (methodology : Methodology) (unit tag : String) :
    Keeps (previewLabel a print catalog req resolve methodology unit tag)
      (previewLabel b print catalog req resolve methodology unit tag) := by
  unfold previewLabel
  split
  · exact keeps_refl _
  · refine keeps_bind (keeps_refl _) fun factor => ?_
    exact keeps_bind (quantizedTonnes_within h _ _) fun tco2e => keeps_refl _

theorem previewS3Cat12_within (h : a.Within b) :
    Keeps (previewS3Cat12 a print catalog req) (previewS3Cat12 b print catalog req) := by
  refine keeps_bind (keeps_refl _) fun landfill => ?_
  refine keeps_bind (keeps_refl _) fun recycle => ?_
  refine keeps_bind (h.mul _ _) fun landfillMass => ?_
  refine keeps_bind (h.mul _ _) fun recycleMass => ?_
  refine keeps_bind (h.mul _ _) fun landfillKg => ?_
  refine keeps_bind (h.mul _ _) fun landfillRaw => ?_
  refine keeps_bind (h.mul _ _) fun recycleKg => ?_
  refine keeps_bind (h.mul _ _) fun recycleRaw => ?_
  refine keeps_bind (h.add _ _) fun total => ?_
  refine keeps_bind (h.quantize _) fun tco2e => ?_
  refine keeps_bind (h.quantize _) fun landfillTco2e => ?_
  exact keeps_bind (h.quantize _) fun recycleTco2e => keeps_refl _

theorem previewDispatch_within (h : a.Within b) (country : String) :
    Keeps (previewDispatch a print catalog req country)
      (previewDispatch b print catalog req country) := by
  unfold previewDispatch
  cases req.subScope with
  | combustion => exact previewS1Combustion_within h
  | process => exact previewS1Process_within h
  | lb => exact previewS2Lb_within h country
  | mb => exact previewS2Mb_within h
  | cat1PurchasedGoods => exact previewS3Cat1_within h
  | cat7Commuting =>
    refine keeps_bind (keeps_refl _) fun factor => ?_
    exact keeps_bind (quantizedTonnes_within h _ _) fun tco2e => keeps_refl _
  | cat12Eol => exact previewS3Cat12_within h
  | _ => exact previewLabel_within h _ _ _ _

/-- An arithmetic that returns less previews less, and nothing else. -/
theorem computePreview_within (h : a.Within b) (session : Option (List RefSite))
    (tenantId : Uuid) :
    Keeps (computePreview a print catalog req session tenantId)
      (computePreview b print catalog req session tenantId) := by
  unfold computePreview
  split
  · exact keeps_refl _
  · split
    · exact keeps_refl _
    · split
      · exact previewDispatch_within h "IT"
      · split
        · exact keeps_refl _
        · exact previewDispatch_within h _

end Handlers

/-! ## No rounding -/

/-- The default context where a product or a sum that it would round is refused. -/
def losslessArithmetic : Arithmetic where
  mul x y :=
    if defaultContext.mul x y = .ok (x * y) then .ok (x * y)
    else .error (.decimal .invalidOperation)
  add x y :=
    if defaultContext.add x y = .ok (x + y) then .ok (x + y)
    else .error (.decimal .invalidOperation)
  quantize := contextArithmetic.quantize

theorem eq_of_not_refused {rounded : Except Signal ℚ} {exact v : ℚ} {e : Failure}
    (h : (if rounded = .ok exact then .ok exact else .error e : Except Failure ℚ) = .ok v) :
    rounded = .ok v ∧ exact = v := by
  split at h
  · next hrounded =>
    cases h
    exact ⟨hrounded, rfl⟩
  · cases h

theorem lossless_within_context : losslessArithmetic.Within contextArithmetic where
  mul _ _ _ h := congrArg (Except.mapError Failure.decimal) (eq_of_not_refused h).1
  add _ _ _ h := congrArg (Except.mapError Failure.decimal) (eq_of_not_refused h).1
  quantize _ := keeps_refl _

theorem lossless_within_exact : losslessArithmetic.Within exactArithmetic where
  mul _ _ _ h := congrArg Except.ok (eq_of_not_refused h).2
  add _ _ _ h := congrArg Except.ok (eq_of_not_refused h).2
  quantize x v h := by
    by_cases hx : |x| < tonneLimit
    · exact (quantize_of_lt hx).symm.trans h
    · have herror := (quantize_of_not_lt hx).symm.trans h
      cases herror

section Lossless

variable {print : Printing} {catalog : FactorCatalogPort} {req : CalcInputRequest}

/-- A preview that rounds no product and no sum is the one of the default context, and the one of
exact numbers. -/
theorem computePreview_lossless {session : Option (List RefSite)} {tenantId : Uuid}
    {p : CalcPreviewResponse} (hnul : ¬ QueriesNul req session)
    (h : computePreview losslessArithmetic print catalog req session tenantId = .ok p) :
    computePreview contextArithmetic print catalog req session tenantId = .ok p ∧
      GhgTool.computePreview print catalog session tenantId req = .ok p := by
  refine ⟨computePreview_within lossless_within_context session tenantId p h, ?_⟩
  have hexact := computePreview_within lossless_within_exact session tenantId p h
  rw [computePreview_exact hnul] at hexact
  cases hpreview : GhgTool.computePreview print catalog session tenantId req with
  | error e =>
    rw [hpreview] at hexact
    cases hexact
  | ok p' =>
    rw [hpreview] at hexact
    cases hexact
    rfl

end Lossless

/-! ## Numbers of few digits -/

/-- A number of at most `d` digits, the last of which stands at `10 ^ low` or before it. -/
def Digits (d : ℕ) (low : ℤ) (x : ℚ) : Prop :=
  ∃ n k : ℤ, x = n * 10 ^ k ∧ |n| < 10 ^ d ∧ low ≤ k

section Digits

variable {d d' : ℕ} {low low' : ℤ} {x y : ℚ}

theorem Digits.mul (hx : Digits d low x) (hy : Digits d' low' y) :
    Digits (d + d') (low + low') (x * y) := by
  obtain ⟨n, k, rfl, hn, hk⟩ := hx
  obtain ⟨n', k', rfl, hn', hk'⟩ := hy
  refine ⟨n * n', k + k', ?_, ?_, by omega⟩
  · rw [zpow_add₀ (by norm_num), Int.cast_mul]
    ring
  · rw [abs_mul, pow_add]
    exact mul_lt_mul'' hn hn' (abs_nonneg n) (abs_nonneg n')

theorem Digits.shift (hx : Digits d low x) (j : ℤ) : Digits d (low + j) (x * 10 ^ j) := by
  obtain ⟨n, k, rfl, hn, hk⟩ := hx
  refine ⟨n, k + j, ?_, hn, by omega⟩
  rw [zpow_add₀ (by norm_num), mul_assoc]

theorem Digits.mono (h : Digits d low x) (hd : d ≤ d') (hlow : low' ≤ low) : Digits d' low' x := by
  obtain ⟨n, k, rfl, hn, hk⟩ := h
  exact ⟨n, k, rfl, hn.trans_le (pow_le_pow_right₀ (by omega) hd), hlow.trans hk⟩

/-- A product that needs no more digits than the context has is exact. -/
theorem mul_of_digits (h : Digits 28 (-1000026) (x * y)) (hsmall : |x * y| < overflowLimit) :
    contextArithmetic.mul x y = exactArithmetic.mul x y := by
  obtain ⟨n, k, hxy, hn, hk⟩ := h
  have hround : defaultContext.round (x * y) = x * y := DecimalContext.round_eq_self hxy hn hk
  have hfinal : defaultContext.mul x y = .ok (defaultContext.round (x * y)) := by
    have hlarge := emax_large
    exact DecimalContext.finalize_of_lt (etiny_le (by omega)) hsmall
  simp only [contextArithmetic, exactArithmetic, hfinal, hround]
  rfl

/-- The tonnes of a product of kilograms with no more digits than the context has. -/
theorem quantizedTonnes_of_digits (h : Digits 28 (-1000000) (x * y)) (hkg : |x * y| < kgLimit) :
    quantizedTonnes contextArithmetic x y = quantizedTonnes exactArithmetic x y := by
  have htonnes : |x * y * kgToTonne| < tonneLimit := tonnes_lt_iff.mpr hkg
  have hshift : Digits 28 (-1000026) (x * y * kgToTonne) := by
    have hpow : kgToTonne = 10 ^ (-3 : ℤ) := by norm_num [kgToTonne]
    obtain ⟨n, k, hx, hn, hk⟩ := h.shift (-3)
    rw [hpow]
    exact ⟨n, k, hx, hn, by omega⟩
  obtain ⟨n, k, hx, hn, hk⟩ := h
  have hfirst := mul_of_digits ⟨n, k, hx, hn, by omega⟩ (hkg.trans_le kgLimit_le)
  have hsecond := mul_of_digits hshift (htonnes.trans_le tonneLimit_le)
  unfold quantizedTonnes
  rw [hfirst]
  change contextArithmetic.mul (x * y) kgToTonne >>= contextArithmetic.quantize = _
  rw [hsecond]
  exact quantize_of_lt htonnes

/-- The converter is exact on quantities with no more digits than the context has. -/
theorem applyUnitConversion_of_digits {print : Printing} (fromUnit toUnit : String)
    (h : Digits 28 (-1000000) x) (hsmall : |x| < kgLimit) :
    applyUnitConversion contextArithmetic print x fromUnit toUnit =
      applyUnitConversion exactArithmetic print x fromUnit toUnit := by
  unfold applyUnitConversion
  dsimp only
  split
  · rfl
  · split
    · rfl
    · cases hlookup : unitConversion.lookup (strip (lower fromUnit), strip (lower toUnit)) with
      | none => rfl
      | some multiplier =>
        have hpower : ∃ j : ℤ, -3 ≤ j ∧ j ≤ 3 ∧ multiplier = 10 ^ j := by
          rcases (UnitLaw.unitConversion_symm _ (entry_of_lookup hlookup)).2.2 with hm | hm
          · exact ⟨3, by omega, by omega, hm.trans (by norm_num)⟩
          · exact ⟨-3, by omega, by omega, hm.trans (by norm_num)⟩
        obtain ⟨j, hlow, hhigh, rfl⟩ := hpower
        obtain ⟨n, k, hx, hn, hk⟩ := h.shift j
        have habs : |(10 : ℚ) ^ j| ≤ 10 ^ (3 : ℤ) := by
          rw [abs_of_pos (zpow_pos (by norm_num) j)]
          exact zpow_le_zpow_right₀ (by norm_num) hhigh
        have hproduct : |x * 10 ^ j| < overflowLimit := by
          rw [← edge_kg] at hsmall
          have hlarge := emax_large
          exact (DecimalContext.abs_mul_lt_edge hsmall habs).trans_le
            (DecimalContext.edge_le_edge (by omega))
        dsimp only
        rw [mul_of_digits ⟨n, k, hx, hn, by omega⟩ hproduct]

end Digits

/-! ## Handlers of one product -/

/-- The kilograms have no more digits than the context has, and stay below the limit. -/
structure KeepsDigits (value quantita : ℚ) : Prop where
  digits : Digits 28 (-1000000) (value * quantita)
  kg : |value * quantita| < kgLimit

/-- The digits of a product are no more than those of its factors together. -/
theorem keepsDigits_of_add {d d' : ℕ} {low low' : ℤ} {value quantita : ℚ}
    (hvalue : Digits d low value) (hquantita : Digits d' low' quantita) (hd : d + d' ≤ 28)
    (hlow : -1000000 ≤ low + low') (hkg : |value * quantita| < kgLimit) :
    KeepsDigits value quantita :=
  ⟨(hvalue.mul hquantita).mono hd hlow, hkg⟩

section OneProduct

variable {print : Printing} {catalog : FactorCatalogPort} {req : CalcInputRequest}

theorem previewLabel_of_digits (resolve : String → Option String) (methodology : Methodology)
    (unit tag : String) (hdigits : ∀ factorId ∈ resolve req.label, ∀ f,
      FindsFactor catalog req factorId f → KeepsDigits f.valueOrZero req.quantita) :
    previewLabel contextArithmetic print catalog req resolve methodology unit tag =
      raised (GhgTool.previewLabel print catalog req resolve methodology unit tag) := by
  rw [← previewLabel_exact]
  unfold previewLabel
  cases hresolve : resolve req.label with
  | none => rfl
  | some factorId =>
    dsimp only
    cases hfind : requireVintage catalog factorId req.gwpSet req.anno with
    | error e => rfl
    | ok f =>
      obtain ⟨hproduct, hkg⟩ := hdigits factorId hresolve f hfind
      change (quantizedTonnes contextArithmetic f.valueOrZero req.quantita >>= _) = _
      rw [quantizedTonnes_of_digits hproduct hkg]
      rfl

theorem quantitaKwh_of_digits (h : Digits 28 (-1000000) req.quantita)
    (hsmall : |req.quantita| < kgLimit) :
    quantitaKwh contextArithmetic print req = quantitaKwh exactArithmetic print req := by
  unfold quantitaKwh
  rw [applyUnitConversion_of_digits _ _ h hsmall]

theorem multiplier_of_quantitaKwh {converted : ℚ × Option String}
    (h : quantitaKwh exactArithmetic print req = .ok converted) :
    ∃ m ∈ kwhMultiplier req.unita, converted.1 = req.quantita * m := by
  rcases @quantitaKwh_cases print req exactArithmetic with
    ⟨-, e, he, -⟩ | ⟨hm, text, htext⟩ | ⟨hm, text, htext⟩
  · rw [he] at h
    cases h
  · rw [htext] at h
    cases h
    exact ⟨1, hm, (mul_one _).symm⟩
  · rw [htext] at h
    cases h
    exact ⟨1000, hm, rfl⟩

/-- Electricity is converted first: neither the kilowatt hours nor the kilograms lose a digit. -/
theorem previewS2Lb_of_digits (country : String) (h : Digits 28 (-1000000) req.quantita)
    (hsmall : |req.quantita| < kgLimit)
    (hdigits : ∀ f, FindsFactor catalog req (lbFactorIdFor country) f →
      ∀ m ∈ kwhMultiplier req.unita, KeepsDigits f.valueOrZero (req.quantita * m)) :
    previewS2Lb contextArithmetic print catalog req country =
      raised (GhgTool.previewS2Lb print catalog req country) := by
  rw [← previewS2Lb_exact]
  unfold previewS2Lb
  rw [quantitaKwh_of_digits h hsmall]
  cases hfind : requireLbFactor catalog req country with
  | error e => rfl
  | ok f =>
    have hkwh := hdigits f (requireLbFactor_eq_ok.mp hfind)
    change (quantitaKwh exactArithmetic print req >>= _) =
      (quantitaKwh exactArithmetic print req >>= _)
    cases hquantita : quantitaKwh exactArithmetic print req with
    | error e => rfl
    | ok converted =>
      obtain ⟨m, hm, hconverted⟩ := multiplier_of_quantitaKwh hquantita
      obtain ⟨hproduct, hkg⟩ := hkwh m hm
      rw [← hconverted] at hproduct hkg
      change (quantizedTonnes contextArithmetic f.valueOrZero converted.1 >>= _) = _
      rw [quantizedTonnes_of_digits hproduct hkg]
      rfl

end OneProduct

end GhgTool.PreviewPrecision
