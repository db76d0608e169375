import GhgTool.PreviewPrecision

/-!
# The amounts that a preview can round

The final rounding to six decimals raises for amounts of `10 ^ 22` tonnes and more, and a product
raises from `10 ^ 1000000` on. For each handler the quantities and factors that stay below are those
for which the request fails as documented.
-/

namespace GhgTool.PreviewPrecision

/-! ## Documented failures -/

/-- `HTTPException` 422, `MissingFactorError`, `UnitConversionError` and `ValueError`. -/
def Failure.documented : Failure → Bool
  | .preview .keyError => false
  | .preview (.calc e) => e.isMissingFactor
  | .preview _ => true
  | .decimal _ => false
  | .nulCharacter => false

def FailsAsDocumented {α : Type} (x : Except Failure α) : Prop :=
  ∀ e, x = .error e → e.documented = true

section Rules

variable {α β : Type}

theorem fails_pure (v : α) : FailsAsDocumented (pure v : Except Failure α) :=
  fun _ h => by cases h

theorem fails_error {e : Failure} :
    FailsAsDocumented (.error e : Except Failure α) ↔ e.documented = true := by
  constructor
  · intro h
    exact h e rfl
  · intro h e' he
    cases he
    exact h

theorem fails_bind {x : Except Failure α} {k : α → Except Failure β} :
    FailsAsDocumented (x >>= k) ↔
      FailsAsDocumented x ∧ ∀ v, x = .ok v → FailsAsDocumented (k v) := by
  cases x with
  | error e =>
    have herror : (Except.error e >>= k : Except Failure β) = .error e := rfl
    rw [herror, fails_error, fails_error]
    simp
  | ok v =>
    have hok : (Except.ok v >>= k) = k v := rfl
    rw [hok]
    constructor
    · intro h
      refine ⟨fails_pure v, ?_⟩
      intro v' hv'
      cases hv'
      exact h
    · intro h
      exact h.2 v rfl

end Rules

/-! ## The limits -/

def tonneLimit : ℚ := 10 ^ 22 - 1 / 2000000

def kgLimit : ℚ := 10 ^ 25 - 1 / 2000

/-- A product from here on has more than a million integer digits. -/
def overflowLimit : ℚ := defaultContext.edge (defaultContext.emax + 1)

theorem edge_tonnes : defaultContext.edge 22 = tonneLimit := by
  norm_num [DecimalContext.edge, defaultContext, tonneLimit]

/-- The digits that six decimals leave for the integer part. -/
theorem edge_places : defaultContext.edge (defaultContext.prec - (6 : ℕ)) = tonneLimit := by
  have hplaces : (defaultContext.prec - (6 : ℕ) : ℤ) = 22 := rfl
  rw [hplaces, edge_tonnes]

theorem edge_kg : defaultContext.edge 25 = kgLimit := by
  norm_num [DecimalContext.edge, defaultContext, kgLimit]

theorem etiny_le {k : ℤ} (h : 0 ≤ k) : defaultContext.etiny ≤ k - defaultContext.prec := by
  have hetiny : defaultContext.etiny = -1000026 := rfl
  have hprec : (defaultContext.prec : ℤ) = 28 := rfl
  omega

theorem emax_large : 25 ≤ defaultContext.emax - 2 := by
  decide

theorem kgLimit_le : kgLimit ≤ overflowLimit := by
  rw [← edge_kg]
  have hlarge := emax_large
  exact DecimalContext.edge_le_edge (by omega)

theorem tonneLimit_le : tonneLimit ≤ overflowLimit := by
  rw [← edge_tonnes]
  have hlarge := emax_large
  exact DecimalContext.edge_le_edge (by omega)

theorem abs_kgToTonne : |kgToTonne| = 10 ^ (-3 : ℤ) := by
  norm_num [kgToTonne]

theorem abs_round_lt {k : ℤ} (hk : 0 ≤ k) {x : ℚ} (h : |x| < defaultContext.edge k) :
    |defaultContext.round x| < defaultContext.edge k :=
  (DecimalContext.abs_round_lt_edge (etiny_le hk)).mpr h

theorem abs_round_lt_kgLimit {x : ℚ} : |defaultContext.round x| < kgLimit ↔ |x| < kgLimit := by
  rw [← edge_kg]
  exact DecimalContext.abs_round_lt_edge (etiny_le (by omega))

theorem abs_round_lt_tonneLimit {x : ℚ} :
    |defaultContext.round x| < tonneLimit ↔ |x| < tonneLimit := by
  rw [← edge_tonnes]
  exact DecimalContext.abs_round_lt_edge (etiny_le (by omega))

theorem abs_round_lt_overflowLimit {x : ℚ} :
    |defaultContext.round x| < overflowLimit ↔ |x| < overflowLimit := by
  have hlarge := emax_large
  exact DecimalContext.abs_round_lt_edge (etiny_le (by omega))

/-- Kilograms below their limit are tonnes below theirs. -/
theorem tonnes_lt_iff {x : ℚ} : |x * kgToTonne| < tonneLimit ↔ |x| < kgLimit := by
  rw [abs_mul, abs_of_pos kgToTonne_pos]
  unfold tonneLimit kgLimit kgToTonne
  constructor <;> intro h <;> linarith

theorem tonnes_lt_overflowLimit {x : ℚ} (h : |x| < overflowLimit) :
    |x * kgToTonne| < overflowLimit := by
  have hsmall : |x| * kgToTonne ≤ |x| := by
    have hnonneg := abs_nonneg x
    unfold kgToTonne
    linarith
  rw [abs_mul, abs_of_pos kgToTonne_pos]
  exact hsmall.trans_lt h

/-! ## The operations -/

section Operations

variable {α : Type} {x y : ℚ} {k : ℚ → Except Failure α}

theorem fails_finalize :
    FailsAsDocumented ((defaultContext.finalize x).mapError .decimal >>= k) ↔
      |x| < overflowLimit ∧ FailsAsDocumented (k (defaultContext.round x)) := by
  have hlarge := emax_large
  have hetiny : defaultContext.etiny ≤ defaultContext.emax + 1 - defaultContext.prec :=
    etiny_le (by omega)
  by_cases hx : |x| < overflowLimit
  · rw [DecimalContext.finalize_of_lt hetiny hx]
    exact (and_iff_right hx).symm
  · rw [DecimalContext.finalize_of_not_lt hetiny hx]
    refine iff_of_false ?_ fun h => hx h.1
    exact fun h => absurd (h _ rfl) (by decide)

theorem fails_mul :
    FailsAsDocumented (contextArithmetic.mul x y >>= k) ↔
      |x * y| < overflowLimit ∧ FailsAsDocumented (k (defaultContext.round (x * y))) :=
  fails_finalize

theorem fails_add :
    FailsAsDocumented (contextArithmetic.add x y >>= k) ↔
      |x + y| < overflowLimit ∧ FailsAsDocumented (k (defaultContext.round (x + y))) :=
  fails_finalize

theorem quantize_of_lt (h : |x| < tonneLimit) :
    contextArithmetic.quantize x = .ok (quantizeTco2e x) := by
  rw [← edge_places] at h
  exact congrArg (Except.mapError Failure.decimal) (DecimalContext.quantize_of_lt h)

theorem quantize_of_not_lt (h : ¬ |x| < tonneLimit) :
    contextArithmetic.quantize x = .error (.decimal .invalidOperation) := by
  rw [← edge_places] at h
  exact congrArg (Except.mapError Failure.decimal) (DecimalContext.quantize_of_not_lt h)

theorem quantizeTco2e_lt (h : |x| < tonneLimit) : |quantizeTco2e x| < tonneLimit := by
  rw [← edge_places] at h ⊢
  exact DecimalContext.abs_roundHalfUp_lt_edge h

theorem fails_quantize :
    FailsAsDocumented (contextArithmetic.quantize x >>= k) ↔
      |x| < tonneLimit ∧ FailsAsDocumented (k (quantizeTco2e x)) := by
  by_cases hx : |x| < tonneLimit
  · rw [quantize_of_lt hx]
    exact (and_iff_right hx).symm
  · rw [quantize_of_not_lt hx]
    refine iff_of_false ?_ fun h => hx h.1
    exact fun h => absurd (h _ rfl) (by decide)

/-- A quantity in tonnes, as the context computes it. -/
def contextTonnes (value quantita : ℚ) : ℚ :=
  defaultContext.round (defaultContext.round (value * quantita) * kgToTonne)

theorem contextTonnes_lt_iff {v q : ℚ} : |contextTonnes v q| < tonneLimit ↔ |v * q| < kgLimit := by
  unfold contextTonnes
  rw [abs_round_lt_tonneLimit, tonnes_lt_iff, abs_round_lt_kgLimit]

theorem fails_quantizedTonnes {v q : ℚ} :
    FailsAsDocumented (quantizedTonnes contextArithmetic v q >>= k) ↔
      |v * q| < kgLimit ∧ FailsAsDocumented (k (quantizeTco2e (contextTonnes v q))) := by
  unfold quantizedTonnes
  simp only [bind_assoc, fails_mul, fails_quantize]
  have hfinal := contextTonnes_lt_iff (v := v) (q := q)
  constructor
  · intro h
    exact ⟨hfinal.mp h.2.2.1, h.2.2.2⟩
  · intro h
    have hkg : |v * q| < overflowLimit := h.1.trans_le kgLimit_le
    exact ⟨hkg, tonnes_lt_overflowLimit (abs_round_lt_overflowLimit.mpr hkg), hfinal.mpr h.1, h.2⟩

end Operations

end GhgTool.PreviewPrecision
