import Mathlib.Algebra.Order.Field.Rat
import Mathlib.Data.List.Forall2
import GhgTool.EmissionRecord
import GhgTool.Text

/-!
# The frames of the ingestion pipeline

The readers give three frames of text cells; the pandera schemas coerce and check them, row by row,
into typed frames. Whatever Python and pandas compute beyond the code of the pipeline (floats and
how they are written, `int`, `repr`, the order in which a set is iterated, SHA-256) is a `Runtime`.
-/

namespace GhgTool

/-- `Codice_Sito`, of which the schemas admit seven values. -/
inductive Sito
  | iano | viano | vianoGargola | casalgrande | fiorano | sassuolo | frassinoro
  deriving DecidableEq

namespace Sito

def code : Sito → String
  | iano => "IANO"
  | viano => "VIANO"
  | vianoGargola => "VIANO_GARGOLA"
  | casalgrande => "CASALGRANDE"
  | fiorano => "FIORANO"
  | sassuolo => "SASSUOLO"
  | frassinoro => "FRASSINORO"

/-- `_VALID_SITI`, sorted by code. -/
def valid : List Sito :=
  [casalgrande, fiorano, frassinoro, iano, sassuolo, viano, vianoGargola]

theorem mem_valid (s : Sito) : s ∈ valid := by
  cases s <;> decide

end Sito

inductive VoceS2
  | eeAcquistataGo | eeAcquistataGrid
  deriving DecidableEq

def VoceS2.code : VoceS2 → String
  | eeAcquistataGo => "EE_Acquistata_GO"
  | eeAcquistataGrid => "EE_Acquistata_Grid"

inductive QualitaDato
  | p | d | e | u | s
  deriving DecidableEq

def QualitaDato.code : QualitaDato → String
  | p => "P"
  | d => "D"
  | e => "E"
  | u => "U"
  | s => "S"

inductive StatoDato
  | definitivo | provvisorio | stimato
  deriving DecidableEq

def StatoDato.code : StatoDato → String
  | definitivo => "Definitivo"
  | provvisorio => "Provvisorio"
  | stimato => "Stimato"

/-- What pandas and Python do for the pipeline, over a type `F` of floats. -/
structure Runtime (F : Type) where
  /-- The float a decimal literal denotes. -/
  lit : ℚ → F
  add : F → F → F
  sub : F → F → F
  div : F → F → F
  abs : F → F
  lt : F → F → Bool
  le : F → F → Bool
  isNan : F → Bool
  sum : List F → F
  mean : List F → F
  /-- The population standard deviation. -/
  std : List F → F
  str : F → String
  /-- The format `.nf`. -/
  fixed : ℕ → F → String
  /-- The format `+.nf`. -/
  signed : ℕ → F → String
  /-- A cell coerced to a float; `nan` is none. -/
  float : String → Option F
  int : String → Option ℤ
  repr : String → String
  /-- `Decimal(str(x))`; an infinity is none. -/
  toDecimal : F → Option ℚ
  setOrder : List Sito → List Sito
  sha256 : String → String
  lit_zero_le : le (lit 0) (lit 0) = true
  float_zero : float "0" = some (lit 0)
  int_toString : ∀ n : ℕ, int (toString n) = some (n : ℤ)
  toDecimal_nonneg : ∀ {x q}, le (lit 0) x = true → toDecimal x = some q → 0 ≤ q
  setOrder_perm : ∀ s, (setOrder s).Perm s

/-- A runtime over exact rationals, for concrete frames. -/
def plainRuntime : Runtime ℚ where
  lit q := q
  add x y := x + y
  sub x y := x - y
  div x y := x / y
  abs x := |x|
  lt x y := decide (x < y)
  le x y := decide (x ≤ y)
  isNan _ := false
  sum := List.sum
  mean xs := xs.sum / xs.length
  std xs :=
    let mean := xs.sum / xs.length
    let variance : ℚ := (xs.map fun x => (x - mean) * (x - mean)).sum / xs.length
    Nat.sqrt (variance.num.toNat * variance.den) / variance.den
  str q := toString q.num ++ "/" ++ toString q.den
  fixed _ q := toString q.num ++ "/" ++ toString q.den
  signed _ q := toString q.num ++ "/" ++ toString q.den
  float s := (numericText s).map fun n : ℕ => (n : ℚ)
  int s := (numericText s).map Int.ofNat
  repr s := "'" ++ s ++ "'"
  toDecimal q := some q
  setOrder s := s
  sha256 s := s
  lit_zero_le := by decide
  float_zero := by decide +kernel
  int_toString := by
    intro n
    rw [numericText_toString]
    rfl
  toDecimal_nonneg := by
    intro x q hx hq
    cases hq
    exact of_decide_eq_true hx
  setOrder_perm := fun _ => .refl _

/-- A cell of a frame of text; `none` is a missing value. -/
abbrev Cell := Option String

def Cell.str (c : Cell) : String :=
  c.getD "nan"

/-- `isna() | (astype(str).str.strip() == "")`. -/
def Cell.Blank (c : Cell) : Prop :=
  ∀ text ∈ c, strip text = ""

instance (c : Cell) : Decidable c.Blank :=
  inferInstanceAs (Decidable (∀ text ∈ c, strip text = ""))

/-! ## Frames of text -/

structure Scope1Raw where
  scope : Cell
  anno : Cell
  codiceSito : Cell
  categoriaS1 : Cell
  combustibile : Cell
  quantita : Cell
  unita : Cell
  fonteDato : Cell
  qualitaDato : Cell
  statoDato : Cell
  note : Cell := none
  /-- The column `_provenance`, where the frame has it. -/
  provenance : Option Cell := none
  provenanceRationale : Cell := none

structure Scope2Raw where
  scope : Cell
  anno : Cell
  codiceSito : Cell
  voceS2 : Cell
  quantita : Cell
  unita : Cell
  strumentoMb : Cell
  fonteDato : Cell
  qualitaDato : Cell
  statoDato : Cell
  note : Cell := none
  provenance : Option Cell := none
  provenanceRationale : Cell := none

structure Scope3Raw where
  scope : Cell
  anno : Cell
  categoriaS3 : Cell
  sottocategoria : Cell
  metodo : Cell
  combustibile : Cell := none
  quantita : Cell
  unita : Cell
  fonteDato : Cell
  qualitaDato : Cell
  statoDato : Cell
  note : Cell := none
  /-- An extra column `Codice_Sito`, where the frame has it. -/
  codiceSito : Option Cell := none
  metadataDefaulted : Option Cell := none
  defaultingRuleId : Cell := none

/-! ## Typed frames -/

/-- `Check.in_range(2020, 2099)`. -/
abbrev Anno := {n : ℕ // 2020 ≤ n ∧ n ≤ 2099}

/-- `Check.in_range(1, 15)`. -/
abbrev CategoriaS3 := {n : ℕ // 1 ≤ n ∧ n ≤ 15}

/-- `Check.str_length(min_value=1)`. -/
abbrev FilledText := {s : String // s ≠ ""}

/-- `Check.greater_than_or_equal_to(0)`. -/
abbrev Quantity {F : Type} (rt : Runtime F) := {x : F // rt.le (rt.lit 0) x = true}

section Typed

variable {F : Type} (rt : Runtime F)

structure Scope1Row where
  anno : Anno
  codiceSito : Sito
  categoriaS1 : FilledText
  combustibile : FilledText
  quantita : Quantity rt
  unita : FilledText
  fonteDato : FilledText
  qualitaDato : QualitaDato
  statoDato : StatoDato
  note : Cell
  provenance : Option Cell
  provenanceRationale : Cell

/-- `Unità` is always `kWh`. -/
structure Scope2Row where
  anno : Anno
  codiceSito : Sito
  voceS2 : VoceS2
  quantita : Quantity rt
  strumentoMb : Cell
  fonteDato : FilledText
  qualitaDato : QualitaDato
  statoDato : StatoDato
  note : Cell
  provenance : Option Cell
  provenanceRationale : Cell

structure Scope3Row where
  anno : Anno
  categoriaS3 : CategoriaS3
  sottocategoria : FilledText
  metodo : FilledText
  combustibile : Cell
  quantita : Quantity rt
  unita : FilledText
  fonteDato : Cell
  qualitaDato : Cell
  statoDato : Cell
  note : Cell
  codiceSito : Option Cell
  metadataDefaulted : Bool
  defaultingRuleId : Cell

theorem combustioneStazionaria_filled : "Combustione stazionaria" ≠ "" := by
  decide

theorem gasNat_filled : "GAS_NAT" ≠ "" := by
  decide

theorem sm3_filled : "Sm3" ≠ "" := by
  decide

/-- A row of Scope 1 for concrete frames. -/
def plainScope1Row (anno : Anno) (codiceSito : Sito) (categoriaS1 combustibile : FilledText)
    (quantita : ℕ) : Scope1Row plainRuntime where
  anno := anno
  codiceSito := codiceSito
  categoriaS1 := categoriaS1
  combustibile := combustibile
  quantita := ⟨quantita, decide_eq_true (Nat.cast_nonneg quantita)⟩
  unita := ⟨"Sm3", sm3_filled⟩
  fonteDato := ⟨"Bolletta", by decide⟩
  qualitaDato := .p
  statoDato := .definitivo
  note := none
  provenance := none
  provenanceRationale := none

/-! ## The schemas -/

/-- A value of an enumeration by its code. -/
def ofCode {α : Type} (code : α → String) (values : List α) (cell : Cell) : Option α :=
  cell.bind fun text => values.find? fun a => code a = text

def filled (cell : Cell) : Option FilledText :=
  cell.bind fun text => if h : text ≠ "" then some ⟨text, h⟩ else none

/-- A cell coerced to an integer that passes a range check. -/
def intInRange (low high : ℕ) (cell : Cell) : Option {n : ℕ // low ≤ n ∧ n ≤ high} :=
  (cell.bind rt.int).bind fun n =>
    if h : low ≤ n.toNat ∧ n.toNat ≤ high then some ⟨n.toNat, h⟩ else none

/-- The column `Scope`, which must hold the number of the scope. -/
def scopeIs (n : ℕ) (cell : Cell) : Option Unit :=
  (cell.bind rt.int).bind fun k => if k = n then some () else none

def quantity (cell : Cell) : Option (Quantity rt) :=
  (cell.bind rt.float).bind fun x =>
    if h : rt.le (rt.lit 0) x = true then some ⟨x, h⟩ else none

def sito : Cell → Option Sito :=
  ofCode Sito.code Sito.valid

def qualita : Cell → Option QualitaDato :=
  ofCode QualitaDato.code [.p, .d, .e, .u, .s]

def stato : Cell → Option StatoDato :=
  ofCode StatoDato.code [.definitivo, .provvisorio, .stimato]

def Scope1Raw.check (r : Scope1Raw) : Option (Scope1Row rt) := do
  let _ ← scopeIs rt 1 r.scope
  let anno ← intInRange rt 2020 2099 r.anno
  let codiceSito ← sito r.codiceSito
  let categoriaS1 ← filled r.categoriaS1
  let combustibile ← filled r.combustibile
  let quantita ← quantity rt r.quantita
  let unita ← filled r.unita
  let fonteDato ← filled r.fonteDato
  let qualitaDato ← qualita r.qualitaDato
  let statoDato ← stato r.statoDato
  return { anno, codiceSito, categoriaS1, combustibile, quantita, unita, fonteDato, qualitaDato,
           statoDato, note := r.note, provenance := r.provenance,
           provenanceRationale := r.provenanceRationale }

/-- `Check.equal_to("kWh")`. -/
def unitaIsKwh (cell : Cell) : Option Unit :=
  if cell = some "kWh" then some () else none

def Scope2Raw.check (r : Scope2Raw) : Option (Scope2Row rt) := do
  let _ ← scopeIs rt 2 r.scope
  let anno ← intInRange rt 2020 2099 r.anno
  let codiceSito ← sito r.codiceSito
  let voceS2 ← ofCode VoceS2.code [.eeAcquistataGo, .eeAcquistataGrid] r.voceS2
  let quantita ← quantity rt r.quantita
  let _ ← unitaIsKwh r.unita
  let fonteDato ← filled r.fonteDato
  let qualitaDato ← qualita r.qualitaDato
  let statoDato ← stato r.statoDato
  return { anno, codiceSito, voceS2, quantita, strumentoMb := r.strumentoMb, fonteDato,
           qualitaDato, statoDato, note := r.note, provenance := r.provenance,
           provenanceRationale := r.provenanceRationale }

/-- `bool(row.get("_metadata_defaulted", False))`. -/
def defaultedFlag : Option Cell → Bool
  | none => false
  | some cell => cell ≠ some ""

def Scope3Raw.check (r : Scope3Raw) : Option (Scope3Row rt) := do
  let _ ← scopeIs rt 3 r.scope
  let anno ← intInRange rt 2020 2099 r.anno
  let categoriaS3 ← intInRange rt 1 15 r.categoriaS3
  let sottocategoria ← filled r.sottocategoria
  let metodo ← filled r.metodo
  let quantita ← quantity rt r.quantita
  let unita ← filled r.unita
  return { anno, categoriaS3, sottocategoria, metodo, combustibile := r.combustibile, quantita,
           unita, fonteDato := r.fonteDato, qualitaDato := r.qualitaDato,
           statoDato := r.statoDato, note := r.note, codiceSito := r.codiceSito,
           metadataDefaulted := defaultedFlag r.metadataDefaulted,
           defaultingRuleId := r.defaultingRuleId }

/-- `schema.validate(df, lazy=True)`: one failing cell anywhere fails the frame. -/
def validate {ρ τ : Type} (check : ρ → Option τ) (df : List ρ) : Option (List τ) :=
  df.mapM check

theorem validate_eq_some {ρ τ : Type} {check : ρ → Option τ} {df : List ρ} {out : List τ} :
    validate check df = some out ↔ List.Forall₂ (fun r x => check r = some x) df out :=
  mapM_eq_some

theorem exists_checked {ρ τ : Type} {check : ρ → Option τ} {df : List ρ} {out : List τ}
    (h : validate check df = some out) {r : ρ} (hr : r ∈ df) : ∃ x ∈ out, check r = some x := by
  have hall := validate_eq_some.mp h
  clear h
  induction hall with
  | nil => cases hr
  | @cons r' x' _ _ hx _ ih =>
      rcases List.mem_cons.mp hr with rfl | hr
      · exact ⟨x', by simp, hx⟩
      · obtain ⟨x, hmem, hcheck⟩ := ih hr
        exact ⟨x, by simp [hmem], hcheck⟩

theorem length_validate {ρ τ : Type} {check : ρ → Option τ} {df : List ρ} {out : List τ}
    (h : validate check df = some out) : out.length = df.length :=
  (validate_eq_some.mp h).length_eq.symm

end Typed

end GhgTool
