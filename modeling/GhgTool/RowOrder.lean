import Mathlib.Algebra.BigOperators.Group.List.Basic
import Mathlib.Algebra.BigOperators.Ring.List
import Mathlib.Tactic.Ring
import Mathlib.Tactic.Linarith
import GhgTool.DualTrack
import GhgTool.RunPlan

/-!
# Order and batching of the rows

A row-wise module is linear: a row with a share of the quantity gives the same share of the lines.
The aggregates of category 3 only depend on the sums by key. So neither the order of the rows nor
the way an activity is cut into rows shows in the totals of a run.
-/

namespace GhgTool

/-! ## What a run shows -/

/-- The five amounts of a record. -/
inductive Measure
  | tco2e | co2Tonne | ch4Tco2e | n2oTco2e | co2BiogenicTonne
  deriving DecidableEq

/-- Scope, sub-scope, site and year. -/
abbrev LineKey := Scope × SubScope × Option String × ℕ

def EmissionArgs.amount (a : EmissionArgs) : Measure → ℚ
  | .tco2e => a.tco2e
  | .co2Tonne => a.co2Tonne.getD 0
  | .ch4Tco2e => a.ch4Tco2e.getD 0
  | .n2oTco2e => a.n2oTco2e.getD 0
  | .co2BiogenicTonne => a.co2BiogenicTonne.getD 0

def EmissionArgs.lineKey (a : EmissionArgs) : LineKey :=
  (a.scope, a.subScope, a.codiceSito, a.anno)

def EmissionRecord.amount (r : EmissionRecord) : Measure → ℚ
  | .tco2e => r.tco2e
  | .co2Tonne => r.co2Tonne.getD 0
  | .ch4Tco2e => r.ch4Tco2e.getD 0
  | .n2oTco2e => r.n2oTco2e.getD 0
  | .co2BiogenicTonne => r.co2BiogenicTonne.getD 0

def EmissionRecord.lineKey (r : EmissionRecord) : LineKey :=
  (r.scope, r.subScope, r.codiceSito, r.anno)

/-- The total of a measure over the records of one scope, sub-scope, site and year. -/
def runTotal (records : List EmissionRecord) (key : LineKey) (m : Measure) : ℚ :=
  (records.map fun r => if r.lineKey = key then r.amount m else 0).sum

/-- A record without the identifier and the time of its run. -/
def EmissionRecord.unstamped (r : EmissionRecord) : EmissionRecord :=
  { r with correlationId := .drawn 0, calcTimestamp := 0 }

/-! ## What may change between two runs -/

def RawScope1Row.attributes (row : RawScope1Row) : Uuid × ℕ × String × String × String :=
  (row.tenantId, row.anno, row.codiceSito, row.categoriaS1, row.combustibile)

def RawScope2Row.attributes (row : RawScope2Row) : Uuid × ℕ × String × Option String :=
  (row.tenantId, row.anno, row.codiceSito, row.strumentoMb)

def RawScope3Row.attributes (row : RawScope3Row) : Uuid × ℕ × ℕ × String × String :=
  (row.tenantId, row.anno, row.categoriaS3, row.sottocategoria, row.unita)

/-- The same run over rows in another order, under any identifier and at any time. -/
structure Reordered (inputs inputs' : CalcRunInputs) : Prop where
  anno : inputs'.anno = inputs.anno
  sites : inputs'.sites = inputs.sites
  createdBy : inputs'.createdBy = inputs.createdBy
  regulatoryStream : inputs'.regulatoryStream = inputs.regulatoryStream
  goEvidence : inputs'.goEvidence = inputs.goEvidence
  scope1 : inputs'.scope1Rows.Perm inputs.scope1Rows
  scope2 : inputs'.scope2Rows.Perm inputs.scope2Rows
  scope3 : inputs'.scope3Rows.Perm inputs.scope3Rows

/-- One row is replaced by two with its attributes, whose quantities add up to its own. -/
def Splits {α τ : Type} (quantita : α → ℚ) (attributes : α → τ) (rows rows' : List α) : Prop :=
  ∃ pre row a b post, rows = pre ++ row :: post ∧ rows' = pre ++ a :: b :: post ∧
    attributes a = attributes row ∧ attributes b = attributes row ∧
      quantita a + quantita b = quantita row

inductive RowSplit (inputs : CalcRunInputs) : CalcRunInputs → Prop
  | scope1 {rows : List RawScope1Row}
      (h : Splits RawScope1Row.quantita RawScope1Row.attributes inputs.scope1Rows rows) :
      RowSplit inputs { inputs with scope1Rows := rows }
  | scope2 {rows : List RawScope2Row}
      (h : Splits RawScope2Row.quantita RawScope2Row.attributes inputs.scope2Rows rows) :
      RowSplit inputs { inputs with scope2Rows := rows }
  | scope3 {rows : List RawScope3Row}
      (h : Splits RawScope3Row.quantita RawScope3Row.attributes inputs.scope3Rows rows) :
      RowSplit inputs { inputs with scope3Rows := rows }

/-! ## Totals of lines -/

def lineTotal (key : LineKey) (m : Measure) (args : List EmissionArgs) : ℚ :=
  (args.map fun a => if a.lineKey = key then a.amount m else 0).sum

section Totals

variable {key : LineKey} {m : Measure}

theorem lineTotal_append (as bs : List EmissionArgs) :
    lineTotal key m (as ++ bs) = lineTotal key m as + lineTotal key m bs := by
  rw [lineTotal, List.map_append, List.sum_append]
  rfl

theorem lineTotal_flatMap {α : Type} (f : α → List EmissionArgs) (rows : List α) :
    lineTotal key m (rows.flatMap f) = (rows.map fun row => lineTotal key m (f row)).sum := by
  induction rows with
  | nil => rfl
  | cons row rows ih =>
      rw [List.flatMap_cons, lineTotal_append, ih, List.map_cons, List.sum_cons]

theorem runTotal_eq {ctx : RunContext} {args : List EmissionArgs} {records : List EmissionRecord}
    (h : List.Forall₂ (fun a r => makeEmission ctx a = .ok r) args records) :
    runTotal records key m = lineTotal key m args := by
  rw [runTotal, lineTotal]
  refine congrArg List.sum (map_of_built (fun a r hbuild => ?_) h)
  unfold makeEmission at hbuild
  split_ifs at hbuild
  cases hbuild
  cases m <;> rfl

end Totals

/-! ## Shares of a line -/

/-- The line of a row with a share of the quantity. -/
def EmissionArgs.share (c : ℚ) (id : Uuid) (a : EmissionArgs) : EmissionArgs :=
  { a with
    rawRowId := some id
    tco2e := c * a.tco2e
    co2Tonne := a.co2Tonne.map (c * ·)
    co2BiogenicTonne := a.co2BiogenicTonne.map (c * ·)
    co2FossilTonne := a.co2FossilTonne.map (c * ·)
    ch4Tco2e := a.ch4Tco2e.map (c * ·)
    n2oTco2e := a.n2oTco2e.map (c * ·) }

theorem EmissionArgs.amount_share (c : ℚ) (id : Uuid) (a : EmissionArgs) (m : Measure) :
    (a.share c id).amount m = c * a.amount m := by
  have hopt : ∀ x : Option ℚ, (x.map (c * ·)).getD 0 = c * x.getD 0 := by
    intro x
    cases x with
    | none => simp
    | some q => rfl
  cases m
  · rfl
  · exact hopt a.co2Tonne
  · exact hopt a.ch4Tco2e
  · exact hopt a.n2oTco2e
  · exact hopt a.co2BiogenicTonne

theorem lineTotal_share (key : LineKey) (m : Measure) (c : ℚ) (id : Uuid)
    (args : List EmissionArgs) :
    lineTotal key m (args.map (EmissionArgs.share c id)) = c * lineTotal key m args := by
  rw [lineTotal, List.map_map, lineTotal, ← List.sum_map_mul_left]
  refine congrArg List.sum (List.map_congr_left fun a _ => ?_)
  simp only [Function.comp_apply, EmissionArgs.amount_share, mul_ite, mul_zero]
  rfl

theorem exists_makeEmission_share {ctx : RunContext} {a : EmissionArgs} {c : ℚ} (hc : 0 ≤ c)
    (id : Uuid) (h : ∃ r, makeEmission ctx a = .ok r) :
    ∃ r, makeEmission ctx (a.share c id) = .ok r := by
  rw [makeEmission_succeeds] at h ⊢
  obtain ⟨htco2e, hsub, hbio, hfossil⟩ := h
  refine ⟨mul_nonneg hc htco2e, hsub, ?_, ?_⟩
  · intro x hx
    obtain ⟨y, hy, rfl⟩ := Option.map_eq_some_iff.mp hx
    exact mul_nonneg hc (hbio y hy)
  · intro x hx
    obtain ⟨y, hy, rfl⟩ := Option.map_eq_some_iff.mp hx
    exact mul_nonneg hc (hfossil y hy)

/-- A module that makes of a share of a row the share of its lines. -/
def Linear {α τ : Type} (id : α → Uuid) (quantita : α → ℚ) (attributes : α → τ)
    (rowArgs : α → List EmissionArgs) : Prop :=
  ∀ (row row' : α) (c : ℚ), attributes row' = attributes row → quantita row' = c * quantita row →
    rowArgs row' = (rowArgs row).map (EmissionArgs.share c (id row'))

theorem exists_shares {q a b : ℚ} (ha : 0 ≤ a) (hb : 0 ≤ b) (h : a + b = q) :
    ∃ s t, 0 ≤ s ∧ 0 ≤ t ∧ s + t = 1 ∧ a = s * q ∧ b = t * q := by
  by_cases hq : q = 0
  · have hzero : a = 0 ∧ b = 0 := by
      constructor
      · linarith
      · linarith
    exact ⟨1, 0, by norm_num, le_refl 0, by norm_num, by rw [hzero.1, hq]; ring,
      by rw [hzero.2]; ring⟩
  · have hpos : 0 < q := lt_of_le_of_ne (by linarith) (Ne.symm hq)
    refine ⟨a / q, b / q, div_nonneg ha hpos.le, div_nonneg hb hpos.le, ?_, ?_, ?_⟩
    · rw [← add_div, h, div_self hq]
    · rw [div_mul_cancel₀ a hq]
    · rw [div_mul_cancel₀ b hq]

section Split

variable {α τ : Type} {id : α → Uuid} {quantita : α → ℚ} {attributes : α → τ}
  {rowArgs : α → List EmissionArgs} {rows rows' : List α}

theorem lineTotal_split (hlinear : Linear id quantita attributes rowArgs)
    (hnonneg : ∀ row, 0 ≤ quantita row) (h : Splits quantita attributes rows rows')
    (key : LineKey) (m : Measure) :
    lineTotal key m (rows'.flatMap rowArgs) = lineTotal key m (rows.flatMap rowArgs) := by
  obtain ⟨pre, row, a, b, post, rfl, rfl, ha, hb, hsum⟩ := h
  obtain ⟨s, t, -, -, hone, hqa, hqb⟩ := exists_shares (hnonneg a) (hnonneg b) hsum
  have hrow : lineTotal key m (rowArgs a) + lineTotal key m (rowArgs b) =
      lineTotal key m (rowArgs row) := by
    rw [hlinear row a s ha hqa, hlinear row b t hb hqb, lineTotal_share, lineTotal_share,
      ← add_mul, hone, one_mul]
  simp only [List.flatMap_append, List.flatMap_cons, lineTotal_append]
  rw [← hrow]
  ring

/-- After a split a linear module still builds only valid lines. -/
theorem valid_split {ctx : RunContext} (hlinear : Linear id quantita attributes rowArgs)
    (hnonneg : ∀ row, 0 ≤ quantita row) (h : Splits quantita attributes rows rows')
    (hvalid : ∀ a ∈ rows.flatMap rowArgs, ∃ r, makeEmission ctx a = .ok r) :
    ∀ a ∈ rows'.flatMap rowArgs, ∃ r, makeEmission ctx a = .ok r := by
  obtain ⟨pre, row, a, b, post, rfl, rfl, ha, hb, hsum⟩ := h
  obtain ⟨s, t, hs, ht, -, hqa, hqb⟩ := exists_shares (hnonneg a) (hnonneg b) hsum
  have hshare : ∀ c, 0 ≤ c → ∀ i, ∀ x ∈ (rowArgs row).map (EmissionArgs.share c i),
      ∃ r, makeEmission ctx x = .ok r := by
    intro c hc i x hx
    obtain ⟨y, hy, rfl⟩ := List.mem_map.mp hx
    exact exists_makeEmission_share hc i (hvalid y (List.mem_flatMap.mpr ⟨row, by simp, hy⟩))
  intro x hx
  obtain ⟨r, hr, hxr⟩ := List.mem_flatMap.mp hx
  simp only [List.mem_append, List.mem_cons] at hr
  rcases hr with hr | rfl | rfl | hr
  · exact hvalid x (List.mem_flatMap.mpr ⟨r, by simp [hr], hxr⟩)
  · rw [hlinear row r s ha hqa] at hxr
    exact hshare s hs _ x hxr
  · rw [hlinear row r t hb hqb] at hxr
    exact hshare t ht _ x hxr
  · exact hvalid x (List.mem_flatMap.mpr ⟨r, by simp [hr], hxr⟩)

theorem exists_alike_split (h : Splits quantita attributes rows rows') :
    ∀ row' ∈ rows', ∃ row ∈ rows, attributes row' = attributes row := by
  obtain ⟨pre, row, a, b, post, rfl, rfl, ha, hb, -⟩ := h
  intro r hr
  simp only [List.mem_append, List.mem_cons] at hr
  rcases hr with hr | rfl | rfl | hr
  · exact ⟨r, by simp [hr], rfl⟩
  · exact ⟨row, by simp, ha⟩
  · exact ⟨row, by simp, hb⟩
  · exact ⟨r, by simp [hr], rfl⟩

/-- A key that is read off the attributes occurs after a split exactly as before. -/
theorem exists_key_split {κ : Type} {key : α → Option κ}
    (hkey : ∀ row row', attributes row' = attributes row → key row' = key row)
    (h : Splits quantita attributes rows rows') (k : κ) :
    (∃ row ∈ rows', key row = some k) ↔ ∃ row ∈ rows, key row = some k := by
  obtain ⟨pre, row, a, b, post, rfl, rfl, ha, hb, -⟩ := h
  simp only [List.mem_append, List.mem_cons]
  constructor
  · rintro ⟨r, hr | rfl | rfl | hr, hk⟩
    · exact ⟨r, .inl hr, hk⟩
    · exact ⟨row, .inr (.inl rfl), by rw [← hkey row r ha, hk]⟩
    · exact ⟨row, .inr (.inl rfl), by rw [← hkey row r hb, hk]⟩
    · exact ⟨r, .inr (.inr hr), hk⟩
  · rintro ⟨r, hr | rfl | hr, hk⟩
    · exact ⟨r, .inl hr, hk⟩
    · exact ⟨a, .inr (.inl rfl), by rw [hkey r a ha, hk]⟩
    · exact ⟨r, .inr (.inr (.inr hr)), hk⟩

theorem sum_key_split {κ : Type} [DecidableEq κ] {key : α → Option κ}
    (hkey : ∀ row row', attributes row' = attributes row → key row' = key row)
    (h : Splits quantita attributes rows rows') (k : κ) :
    (rows'.map fun row => if key row = some k then quantita row else 0).sum =
      (rows.map fun row => if key row = some k then quantita row else 0).sum := by
  obtain ⟨pre, row, a, b, post, rfl, rfl, ha, hb, hsum⟩ := h
  simp only [List.map_append, List.map_cons, List.sum_append, List.sum_cons, hkey row a ha,
    hkey row b hb, ← hsum]
  split_ifs
  · ring
  · ring

end Split

/-! ## The modules are linear -/

section Modules

variable {catalog : FactorCatalogPort} {gwp : GwpValues}

abbrev Scope1Linear := Linear RawScope1Row.id RawScope1Row.quantita RawScope1Row.attributes

abbrev Scope2Linear := Linear RawScope2Row.id RawScope2Row.quantita RawScope2Row.attributes

abbrev Scope3Linear := Linear RawScope3Row.id RawScope3Row.quantita RawScope3Row.attributes

theorem combustion_linear : Scope1Linear (Scope1Combustion.rowArgs catalog gwp) := by
  intro row row' c hattr hq
  simp only [RawScope1Row.attributes, Prod.mk.injEq] at hattr
  obtain ⟨-, hanno, hsite, -, hfuel⟩ := hattr
  unfold Scope1Combustion.rowArgs
  rw [hfuel]
  cases Scope1Combustion.fuelFactorIds.lookup row.combustibile with
  | none => rfl
  | some ids =>
      simp only [List.map_cons, List.map_nil, List.cons.injEq, and_true]
      simp only [Scope1Combustion.combustionArgs, EmissionArgs.share, hanno, hsite, hq,
        Option.map_some, Option.map_none, EmissionArgs.mk.injEq, true_and, Option.some.injEq]
      refine ⟨?_, ?_, ?_, ?_, ?_⟩ <;> ring

theorem process_linear (f : FactorRecord) : Scope1Linear (Scope1Process.rowArgs f gwp) := by
  intro row row' c hattr hq
  simp only [RawScope1Row.attributes, Prod.mk.injEq] at hattr
  obtain ⟨-, hanno, hsite, hcat, -⟩ := hattr
  unfold Scope1Process.rowArgs Scope1Process.handles
  rw [hcat]
  split_ifs
  · simp only [List.map_cons, List.map_nil, List.cons.injEq, and_true]
    simp only [Scope1Process.processArgs, EmissionArgs.share, hanno, hsite, hq, Option.map_some,
      Option.map_none, EmissionArgs.mk.injEq, true_and, and_true, Option.some.injEq]
    exact ⟨by ring, by ring⟩
  · rfl

theorem lb_linear (f : FactorRecord) :
    Scope2Linear fun row => [Scope2Lb.lbArgs f gwp row] := by
  intro row row' c hattr hq
  simp only [RawScope2Row.attributes, Prod.mk.injEq] at hattr
  obtain ⟨-, hanno, hsite, -⟩ := hattr
  simp only [List.map_cons, List.map_nil, List.cons.injEq, and_true]
  simp only [Scope2Lb.lbArgs, EmissionArgs.share, hanno, hsite, hq, Option.map_none,
    EmissionArgs.mk.injEq, true_and, and_true]
  ring

/-- Both branches of the market-based module are linear, the zero by being zero. -/
theorem mb_linear (zero residual : FactorRecord) :
    Scope2Linear fun row => [Scope2Mb.rowArgs zero residual gwp row] := by
  intro row row' c hattr hq
  simp only [RawScope2Row.attributes, Prod.mk.injEq] at hattr
  obtain ⟨-, hanno, hsite, hinstrument⟩ := hattr
  simp only [List.map_cons, List.map_nil, List.cons.injEq, and_true]
  unfold Scope2Mb.rowArgs
  rw [hinstrument]
  split_ifs
  · simp [Scope2Mb.mbArgs, EmissionArgs.share, hanno, hsite]
  · simp only [Scope2Mb.mbArgs, EmissionArgs.share, hanno, hsite, hq, Option.map_some,
      Option.map_none, EmissionArgs.mk.injEq, true_and, and_true, Option.some.injEq]
    exact ⟨by ring, by ring, by ring⟩

theorem scope3Args_share {row row' : RawScope3Row} (hanno : row'.anno = row.anno) (u : SubScope)
    (m : Methodology) (f : FactorRecord) {q q' c : ℚ} (hq : q' = c * q) :
    scope3Args u m gwp row' f q' = (scope3Args u m gwp row f q).share c row'.id := by
  simp only [scope3Args, EmissionArgs.share, hanno, hq, Option.map_none, EmissionArgs.mk.injEq,
    true_and, and_true]
  ring

theorem labelModule_linear (l : LabelModule) : Scope3Linear (l.rowArgs catalog gwp) := by
  intro row row' c hattr hq
  simp only [RawScope3Row.attributes, Prod.mk.injEq] at hattr
  obtain ⟨-, hanno, hcat, hlabel, -⟩ := hattr
  unfold LabelModule.rowArgs LabelModule.rowId
  rw [hcat, hlabel]
  split
  · rfl
  · rw [scope3Args_share hanno _ _ _ hq]
    rfl

theorem cat1_linear : Scope3Linear (Scope3Cat1PurchasedGoods.rowArgs catalog gwp) := by
  intro row row' c hattr hq
  simp only [RawScope3Row.attributes, Prod.mk.injEq] at hattr
  obtain ⟨-, hanno, hcat, hlabel, -⟩ := hattr
  unfold Scope3Cat1PurchasedGoods.rowArgs Scope3Cat1PurchasedGoods.rowId
  rw [hcat, hlabel]
  split
  · rfl
  · next factorId _ =>
      simp only [List.map_cons, List.map_nil, List.cons.injEq, and_true]
      unfold Scope3Cat1PurchasedGoods.cat1Args
      cases Scope3Cat1PurchasedGoods.bioPerUnit catalog gwp.code factorId with
      | none =>
          rw [scope3Args_share hanno _ _ _ hq]
          rfl
      | some bio =>
          simp only [scope3Args, EmissionArgs.share, hanno, hq, Option.map_some, Option.map_none,
            EmissionArgs.mk.injEq, true_and, and_true, Option.some.injEq]
          exact ⟨by ring, by ring, by ring⟩

theorem cat7_linear (f : FactorRecord) : Scope3Linear (Scope3Cat7Commuting.rowArgs f gwp) := by
  intro row row' c hattr hq
  simp only [RawScope3Row.attributes, Prod.mk.injEq] at hattr
  obtain ⟨-, hanno, hcat, hlabel, -⟩ := hattr
  unfold Scope3Cat7Commuting.rowArgs Scope3Cat7Commuting.handles
  rw [hcat, hlabel]
  split_ifs
  · rw [scope3Args_share hanno _ _ _ hq]
    rfl
  · rfl

theorem cat12_linear (landfill recycle : FactorRecord) :
    Scope3Linear (Scope3Cat12Eol.rowArgs landfill recycle gwp) := by
  intro row row' c hattr hq
  simp only [RawScope3Row.attributes, Prod.mk.injEq] at hattr
  obtain ⟨-, hanno, hcat, -, -⟩ := hattr
  have hpart : ∀ x : ℚ, row'.quantita * x = c * (row.quantita * x) := by
    intro x
    rw [hq]
    ring
  unfold Scope3Cat12Eol.rowArgs Scope3Cat12Eol.handles
  rw [hcat]
  split_ifs
  · rw [scope3Args_share hanno _ _ _ (hpart _), scope3Args_share hanno _ _ _ (hpart _)]
    rfl
  · rfl

end Modules

/-! ## The aggregates of category 3 -/

namespace Scope3Cat3FuelEnergy

instance : Std.Total KeyLe where
  total := by
    intro a b
    by_cases hab : a.1 < b.1
    · exact .inl (.inl hab)
    · by_cases hba : b.1 < a.1
      · exact .inr (.inl hba)
      · have heq : a.1 = b.1 := String.le_antisymm hba hab
        rcases le_total a.2 b.2 with h | h
        · exact .inl (.inr ⟨heq, h⟩)
        · exact .inr (.inr ⟨heq.symm, h⟩)

instance : IsTrans (String × ℕ) KeyLe where
  trans := by
    rintro a b c (hab | ⟨hab, hab'⟩) (hbc | ⟨hbc, hbc'⟩)
    · exact .inl (String.lt_trans hab hbc)
    · exact .inl (hbc ▸ hab)
    · exact .inl (hab ▸ hbc)
    · exact .inr ⟨hab.trans hbc, hab'.trans hbc'⟩

instance : Std.Antisymm KeyLe where
  antisymm := by
    rintro a b (hab | ⟨hab, hab'⟩) (hba | ⟨hba, hba'⟩)
    · exact absurd hba (String.lt_asymm hab)
    · exact absurd (hba ▸ hab) (String.lt_irrefl _)
    · exact absurd (hab ▸ hba) (String.lt_irrefl _)
    · exact Prod.ext hab (le_antisymm hab' hba')

end Scope3Cat3FuelEnergy

/-- Two lists of rows with the same keys and the same sums by key. -/
structure SameTally {α κ : Type} [DecidableEq κ] (key : α → Option κ) (quantita : α → ℚ)
    (rows rows' : List α) : Prop where
  keys : ∀ k, (∃ row ∈ rows', key row = some k) ↔ ∃ row ∈ rows, key row = some k
  sums : ∀ k, (rows'.map fun row => if key row = some k then quantita row else 0).sum =
    (rows.map fun row => if key row = some k then quantita row else 0).sum

theorem sameTally_of_perm {α κ : Type} [DecidableEq κ] (key : α → Option κ) (quantita : α → ℚ)
    {rows rows' : List α} (h : rows'.Perm rows) : SameTally key quantita rows rows' where
  keys k := by simp only [h.mem_iff]
  sums k := (h.map _).sum_eq

section Sigma

variable (catalog : FactorCatalogPort) (gwp : GwpValues)

/-- The fuel aggregates of two row lists give the same keys and the same lines. -/
theorem fuelLines_congr {rows rows' : List RawScope1Row}
    (h : SameTally fuelKey RawScope1Row.quantita rows rows') :
    Scope3Cat3FuelEnergy.sortedFuelKeys (sigmaScope1FromRows rows') =
        Scope3Cat3FuelEnergy.sortedFuelKeys (sigmaScope1FromRows rows) ∧
      ∀ key, Scope3Cat3FuelEnergy.fuelArgs catalog gwp (sigmaScope1FromRows rows') key =
        Scope3Cat3FuelEnergy.fuelArgs catalog gwp (sigmaScope1FromRows rows) key := by
  refine ⟨sorted_keys_tally h.keys, fun key => ?_⟩
  unfold Scope3Cat3FuelEnergy.fuelArgs sigmaScope1FromRows
  rw [lookup_tally, lookup_tally, h.sums]

theorem electricityLines_congr {rows rows' : List RawScope2Row}
    (h : SameTally (fun row => some row.anno) RawScope2Row.quantita rows rows')
    (factorId : String) (u : SubScope) :
    (Scope3Cat3FuelEnergy.sortedYears (sigmaScope2FromRows rows')).map
        (Scope3Cat3FuelEnergy.electricityArgs factorId u catalog gwp (sigmaScope2FromRows rows')) =
      (Scope3Cat3FuelEnergy.sortedYears (sigmaScope2FromRows rows)).map
        (Scope3Cat3FuelEnergy.electricityArgs factorId u catalog gwp
          (sigmaScope2FromRows rows)) := by
  have hyears : Scope3Cat3FuelEnergy.sortedYears (sigmaScope2FromRows rows') =
      Scope3Cat3FuelEnergy.sortedYears (sigmaScope2FromRows rows) := sorted_keys_tally h.keys
  rw [hyears]
  refine List.map_congr_left fun anno _ => ?_
  unfold Scope3Cat3FuelEnergy.electricityArgs sigmaScope2FromRows
  rw [lookup_tally, lookup_tally, h.sums]

end Sigma

/-! ## Reordered rows -/

namespace CalcOrchestrator

variable {catalog : FactorCatalogPort} {gwp : GwpValues} {inputs inputs' : CalcRunInputs}
  {records records' : List EmissionRecord}

theorem linesOf_perm (h : Reordered inputs inputs') (u : SubScope) :
    (linesOf catalog gwp inputs' u).Perm (linesOf catalog gwp inputs u) := by
  have hfuel := fuelLines_congr catalog gwp (sameTally_of_perm _ _ h.scope1)
  have helec := electricityLines_congr catalog gwp (sameTally_of_perm _ _ h.scope2)
  cases u
  case fugitive =>
    rw [linesOf, linesOf, h.sites, h.anno]
  case combustion => exact h.scope1.flatMap_right _
  case process => exact h.scope1.flatMap_right _
  case lb => exact h.scope2.map _
  case mb => exact h.scope2.map _
  case cat3WttFuel =>
    refine List.Perm.of_eq ?_
    simp only [linesOf, hfuel.1]
    exact List.flatMap_congr fun key _ => hfuel.2 key
  case cat3WttElec => exact List.Perm.of_eq (helec _ _)
  case cat3Tnd => exact List.Perm.of_eq (helec _ _)
  case cat1 => exact h.scope3.flatMap_right _
  case cat2 => exact h.scope3.flatMap_right _
  case cat4 => exact h.scope3.flatMap_right _
  case cat5 => exact h.scope3.flatMap_right _
  case cat6 => exact h.scope3.flatMap_right _
  case cat7 => exact h.scope3.flatMap_right _
  case cat9 => exact h.scope3.flatMap_right _
  case cat12 => exact h.scope3.flatMap_right _
  all_goals rw [linesOf, linesOf, h.anno]

theorem RunReady.reordered (hready : RunReady catalog gwp inputs) (h : Reordered inputs inputs') :
    RunReady catalog gwp inputs' where
  fixed := hready.fixed
  stoichiometric := hready.stoichiometric
  combustion row hrow := hready.combustion row (h.scope1.mem_iff.mp hrow)
  evidenced row hrow := by
    rw [h.goEvidence]
    exact hready.evidenced row (h.scope2.mem_iff.mp hrow)
  purchased row hrow := hready.purchased row (h.scope3.mem_iff.mp hrow)
  labelled m hm row hrow := hready.labelled m hm row (h.scope3.mem_iff.mp hrow)
  fuels := by
    rw [(fuelLines_congr catalog gwp (sameTally_of_perm _ _ h.scope1)).1]
    exact hready.fuels

/-- Whether a line is valid does not depend on the run. -/
theorem makeEmission_succeeds_of {ctx ctx' : RunContext} {a : EmissionArgs}
    (h : ∃ r, makeEmission ctx a = .ok r) : ∃ r, makeEmission ctx' a = .ok r := by
  rw [makeEmission_succeeds] at h ⊢
  exact h

theorem unstamped_makeEmission {ctx ctx' : RunContext} (hby : ctx'.createdBy = ctx.createdBy)
    (hstream : ctx'.regulatoryStream = ctx.regulatoryStream) (a : EmissionArgs) :
    (makeEmission ctx' a).map EmissionRecord.unstamped =
      (makeEmission ctx a).map EmissionRecord.unstamped := by
  unfold makeEmission
  split_ifs
  · simp only [Except.map, EmissionRecord.unstamped, hby, hstream]
  all_goals rfl

theorem built_unstamped {ctx : RunContext} {args : List EmissionArgs}
    (h : List.Forall₂ (fun a r => makeEmission ctx a = .ok r) args records) :
    List.Forall₂ (fun a r => (makeEmission ctx a).map EmissionRecord.unstamped = .ok r) args
      (records.map EmissionRecord.unstamped) := by
  rw [List.forall₂_map_right_iff]
  refine h.imp fun a r hbuild => ?_
  rw [hbuild]
  rfl

theorem run_reordered (h : run catalog gwp inputs = .ok records) (hre : Reordered inputs inputs') :
    ∃ records', run catalog gwp inputs' = .ok records' ∧
      (records'.map EmissionRecord.unstamped).Perm (records.map EmissionRecord.unstamped) := by
  have hperm : (runArgs catalog gwp inputs').Perm (runArgs catalog gwp inputs) :=
    List.Perm.flatMap_left _ fun u _ => linesOf_perm hre u
  obtain ⟨hready, hvalid⟩ := (run_plan catalog gwp inputs).succeeds.mp ⟨records, h⟩
  obtain ⟨records', h'⟩ := (run_plan catalog gwp inputs').succeeds.mpr
    ⟨hready.reordered hre, fun a ha => makeEmission_succeeds_of (hvalid a (hperm.mem_iff.mp ha))⟩
  have hbuilt := built_unstamped ((run_plan catalog gwp inputs).builds records h)
  have hbuilt' := built_unstamped ((run_plan catalog gwp inputs').builds records' h')
  have hsame : ∀ a, (makeEmission (commonCtx inputs') a).map EmissionRecord.unstamped =
      (makeEmission (commonCtx inputs) a).map EmissionRecord.unstamped :=
    unstamped_makeEmission hre.createdBy hre.regulatoryStream
  simp only [hsame] at hbuilt'
  exact ⟨records', h', perm_of_built hperm hbuilt hbuilt'⟩

/-! ## A split row -/

section Split

variable {rows1 : List RawScope1Row} {rows2 : List RawScope2Row}

theorem sameTally_fuel (h : Splits RawScope1Row.quantita RawScope1Row.attributes
    inputs.scope1Rows rows1) :
    SameTally fuelKey RawScope1Row.quantita inputs.scope1Rows rows1 := by
  have hkey : ∀ row row' : RawScope1Row, row'.attributes = row.attributes →
      fuelKey row' = fuelKey row := by
    intro row row' hattr
    simp only [RawScope1Row.attributes, Prod.mk.injEq] at hattr
    rw [fuelKey, fuelKey, hattr.2.2.2.1, hattr.2.2.2.2, hattr.2.1]
  exact ⟨exists_key_split hkey h, sum_key_split hkey h⟩

theorem sameTally_year (h : Splits RawScope2Row.quantita RawScope2Row.attributes
    inputs.scope2Rows rows2) :
    SameTally (fun row => some row.anno) RawScope2Row.quantita inputs.scope2Rows rows2 := by
  have hkey : ∀ row row' : RawScope2Row, row'.attributes = row.attributes →
      some row'.anno = some row.anno := by
    intro row row' hattr
    simp only [RawScope2Row.attributes, Prod.mk.injEq] at hattr
    rw [hattr.2.1]
  exact ⟨exists_key_split hkey h, sum_key_split hkey h⟩

/-- How the lines of a sub-scope may change: not at all, or by splitting a row of a linear
module. -/
inductive LinesSplit (args : List EmissionArgs) : List EmissionArgs → Prop
  | same : LinesSplit args args
  | split {α τ : Type} {id : α → Uuid} {quantita : α → ℚ} {attributes : α → τ}
      {rowArgs : α → List EmissionArgs} {rows rows' : List α}
      (hargs : args = rows.flatMap rowArgs) (hlinear : Linear id quantita attributes rowArgs)
      (hnonneg : ∀ row, 0 ≤ quantita row) (h : Splits quantita attributes rows rows') :
      LinesSplit args (rows'.flatMap rowArgs)

theorem linesSplit (h : RowSplit inputs inputs') (u : SubScope) :
    LinesSplit (linesOf catalog gwp inputs u) (linesOf catalog gwp inputs' u) := by
  cases h with
  | @scope1 rows h =>
      have hrow : ∀ {rowArgs : RawScope1Row → List EmissionArgs}, Scope1Linear rowArgs →
          LinesSplit (inputs.scope1Rows.flatMap rowArgs) (rows.flatMap rowArgs) :=
        fun hlinear => .split rfl hlinear RawScope1Row.quantita_nonneg h
      cases u
      case combustion => exact hrow combustion_linear
      case process => exact hrow (process_linear _)
      case cat3WttFuel =>
        have hfuel := fuelLines_congr catalog gwp (sameTally_fuel h)
        have heq : linesOf catalog gwp { inputs with scope1Rows := rows } .cat3WttFuel =
            linesOf catalog gwp inputs .cat3WttFuel := by
          simp only [linesOf, hfuel.1]
          exact List.flatMap_congr fun key _ => hfuel.2 key
        rw [heq]
        exact .same
      all_goals exact .same
  | @scope2 rows h =>
      have hrow : ∀ {line : RawScope2Row → EmissionArgs}, (Scope2Linear fun row => [line row]) →
          LinesSplit (inputs.scope2Rows.map line) (rows.map line) := by
        intro line hlinear
        rw [List.map_eq_flatMap, List.map_eq_flatMap]
        exact .split rfl hlinear RawScope2Row.quantita_nonneg h
      have helec := electricityLines_congr catalog gwp (sameTally_year h)
      cases u
      case lb => exact hrow (lb_linear _)
      case mb => exact hrow (mb_linear _ _)
      case cat3WttElec =>
        rw [linesOf, linesOf]
        exact helec _ _ ▸ .same
      case cat3Tnd =>
        rw [linesOf, linesOf]
        exact helec _ _ ▸ .same
      all_goals exact .same
  | @scope3 rows h =>
      have hrow : ∀ {rowArgs : RawScope3Row → List EmissionArgs}, Scope3Linear rowArgs →
          LinesSplit (inputs.scope3Rows.flatMap rowArgs) (rows.flatMap rowArgs) :=
        fun hlinear => .split rfl hlinear RawScope3Row.quantita_nonneg h
      cases u
      case cat1 => exact hrow cat1_linear
      case cat2 => exact hrow (labelModule_linear _)
      case cat4 => exact hrow (labelModule_linear _)
      case cat5 => exact hrow (labelModule_linear _)
      case cat6 => exact hrow (labelModule_linear _)
      case cat7 => exact hrow (cat7_linear _)
      case cat9 => exact hrow (labelModule_linear _)
      case cat12 => exact hrow (cat12_linear _ _)
      all_goals exact .same

theorem LinesSplit.lineTotal {args args' : List EmissionArgs} (h : LinesSplit args args')
    (key : LineKey) (m : Measure) : lineTotal key m args' = lineTotal key m args := by
  cases h with
  | same => rfl
  | split hargs hlinear hnonneg h =>
      rw [hargs]
      exact lineTotal_split hlinear hnonneg h key m

theorem LinesSplit.valid {args args' : List EmissionArgs} (h : LinesSplit args args')
    {ctx : RunContext} (hvalid : ∀ a ∈ args, ∃ r, makeEmission ctx a = .ok r) :
    ∀ a ∈ args', ∃ r, makeEmission ctx a = .ok r := by
  cases h with
  | same => exact hvalid
  | split hargs hlinear hnonneg h =>
      rw [hargs] at hvalid
      exact valid_split hlinear hnonneg h hvalid

theorem RunReady.split (hready : RunReady catalog gwp inputs) (h : RowSplit inputs inputs') :
    RunReady catalog gwp inputs' := by
  cases h with
  | @scope1 rows h =>
      refine { hready with combustion := ?_, fuels := ?_ }
      · intro row' hrow'
        obtain ⟨row, hrow, hattr⟩ := exists_alike_split h row' hrow'
        simp only [RawScope1Row.attributes, Prod.mk.injEq] at hattr
        have hids : Scope1Combustion.rowIds row' = Scope1Combustion.rowIds row := by
          rw [Scope1Combustion.rowIds, Scope1Combustion.rowIds, hattr.2.2.2.2]
        rw [hids]
        exact hready.combustion row hrow
      · rw [(fuelLines_congr catalog gwp (sameTally_fuel h)).1]
        exact hready.fuels
  | @scope2 rows h =>
      refine { hready with evidenced := ?_ }
      intro row' hrow'
      obtain ⟨row, hrow, hattr⟩ := exists_alike_split h row' hrow'
      simp only [RawScope2Row.attributes, Prod.mk.injEq] at hattr
      have hevidenced := hready.evidenced row hrow
      rw [Scope2Mb.Evidenced, ← hattr.2.1, ← hattr.2.2.1, ← hattr.2.2.2] at hevidenced
      exact hevidenced
  | @scope3 rows h =>
      refine { hready with purchased := ?_, labelled := ?_ }
      · intro row' hrow'
        obtain ⟨row, hrow, hattr⟩ := exists_alike_split h row' hrow'
        simp only [RawScope3Row.attributes, Prod.mk.injEq] at hattr
        have hid : Scope3Cat1PurchasedGoods.rowId row' = Scope3Cat1PurchasedGoods.rowId row := by
          rw [Scope3Cat1PurchasedGoods.rowId, Scope3Cat1PurchasedGoods.rowId, hattr.2.2.1,
            hattr.2.2.2.1]
        rw [hid]
        exact hready.purchased row hrow
      · intro m hm row' hrow'
        obtain ⟨row, hrow, hattr⟩ := exists_alike_split h row' hrow'
        simp only [RawScope3Row.attributes, Prod.mk.injEq] at hattr
        have hid : m.rowId row' = m.rowId row := by
          rw [LabelModule.rowId, LabelModule.rowId, hattr.2.2.1, hattr.2.2.2.1]
        rw [hid]
        exact hready.labelled m hm row hrow

theorem run_split (h : run catalog gwp inputs = .ok records) (hsplit : RowSplit inputs inputs') :
    ∃ records', run catalog gwp inputs' = .ok records' ∧
      ∀ key m, runTotal records' key m = runTotal records key m := by
  obtain ⟨hready, hvalid⟩ := (run_plan catalog gwp inputs).succeeds.mp ⟨records, h⟩
  have hvalid' : ∀ a ∈ runArgs catalog gwp inputs',
      ∃ r, makeEmission (commonCtx inputs') a = .ok r := by
    intro a ha
    obtain ⟨u, hu⟩ := mem_runArgs.mp ha
    have hline := (linesSplit hsplit u).valid (fun b hb => hvalid b (mem_runArgs.mpr ⟨u, hb⟩)) a hu
    exact makeEmission_succeeds_of hline
  obtain ⟨records', h'⟩ := (run_plan catalog gwp inputs').succeeds.mpr
    ⟨hready.split hsplit, hvalid'⟩
  refine ⟨records', h', fun key m => ?_⟩
  rw [runTotal_eq ((run_plan catalog gwp inputs).builds records h),
    runTotal_eq ((run_plan catalog gwp inputs').builds records' h'), runArgs, runArgs,
    lineTotal_flatMap, lineTotal_flatMap]
  exact congrArg List.sum (List.map_congr_left fun u _ => (linesSplit hsplit u).lineTotal key m)

end Split

/-- The order of the rows changes no record, and splitting a row changes no total. -/
theorem run_order_and_batching (catalog : FactorCatalogPort) (gwp : GwpValues)
    (inputs : CalcRunInputs) (records : List EmissionRecord)
    (h : run catalog gwp inputs = .ok records) :
    (∀ inputs', Reordered inputs inputs' → ∃ records', run catalog gwp inputs' = .ok records' ∧
      (records'.map EmissionRecord.unstamped).Perm (records.map EmissionRecord.unstamped)) ∧
    ∀ inputs', RowSplit inputs inputs' → ∃ records', run catalog gwp inputs' = .ok records' ∧
      ∀ key m, runTotal records' key m = runTotal records key m :=
  ⟨fun _ hre => run_reordered h hre, fun _ hsplit => run_split h hsplit⟩

end CalcOrchestrator

/-- Electricity of a site in 2025. -/
def meterRow (id : Uuid) (codiceSito : String) (quantita : ℚ) (h : 0 ≤ quantita) :
    RawScope2Row where
  id := id
  tenantId := 1
  anno := 2025
  codiceSito := codiceSito
  quantita := quantita
  strumentoMb := none
  anno_range := anno_2025
  quantita_nonneg := h

def meterInputs (rows : List RawScope2Row) : CalcRunInputs where
  correlationId := .drawn 1
  anno := 2025
  sites := ["IANO"]
  scope1Rows := []
  scope2Rows := rows
  scope3Rows := []
  calcTimestamp := 0

theorem run_order_and_batching_meters :
    let port := sqlFactorCatalogAdapter fixedFactorCatalog 1
    let iano := meterRow 1 "IANO" 1000 (by decide)
    let viano := meterRow 2 "VIANO" 500 (by decide)
    ∃ records swapped split,
      CalcOrchestrator.run port gwpAr6 (meterInputs [iano, viano]) = .ok records ∧
      CalcOrchestrator.run port gwpAr6 (meterInputs [viano, iano]) = .ok swapped ∧
      CalcOrchestrator.run port gwpAr6 (meterInputs [meterRow 3 "IANO" 400 (by decide),
        meterRow 4 "IANO" 600 (by decide), viano]) = .ok split ∧
      (swapped.map EmissionRecord.unstamped).Perm (records.map EmissionRecord.unstamped) ∧
      ∀ key m, runTotal split key m = runTotal records key m := by
  intro port iano viano
  obtain ⟨records, h⟩ := exists_ok_of_toBool (show (CalcOrchestrator.run port gwpAr6
    (meterInputs [iano, viano])).toBool = true by decide +kernel)
  have hrun := CalcOrchestrator.run_order_and_batching port gwpAr6 (meterInputs [iano, viano])
    records h
  obtain ⟨swapped, hswapped, hperm⟩ := hrun.1 (meterInputs [viano, iano])
    ⟨rfl, rfl, rfl, rfl, rfl, .refl _, .swap _ _ _, .refl _⟩
  obtain ⟨split, hsplit, htotal⟩ := hrun.2 _ (.scope2 ⟨[], iano, meterRow 3 "IANO" 400 (by decide),
    meterRow 4 "IANO" 600 (by decide), [viano], rfl, rfl, rfl, rfl, by decide +kernel⟩)
  exact ⟨records, swapped, split, h, hswapped, hsplit, hperm, htotal⟩

end GhgTool
