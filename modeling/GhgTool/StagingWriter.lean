import GhgTool.EtlFrames

/-!
# Staging rows

The rows of the three raw tables as the writer builds them from the typed frames. A row bears the
hash of a few of its columns as its idempotency key.
-/

namespace GhgTool

/-- The columns the three raw tables share, around those of one of them. -/
structure Staged (β : Type) where
  id : Uuid
  tenantId : Uuid
  batchId : Uuid
  body : β
  idempotencyKey : String
  ingestedBy : String

/-- A `Decimal` that is not negative; an infinity is `none`. -/
abbrev StagedQuantity := {q : Option ℚ // ∀ x ∈ q, 0 ≤ x}

structure Scope1Body where
  anno : Anno
  codiceSito : String
  categoriaS1 : String
  combustibile : String
  quantita : StagedQuantity
  unita : String
  fonteDato : String
  qualitaDato : String
  statoDato : String
  note : Option String
  provenance : String
  provenanceRationale : Option String

structure Scope2Body where
  anno : Anno
  codiceSito : String
  voceS2 : String
  quantita : StagedQuantity
  unita : String
  strumentoMb : Option String
  fonteDato : String
  qualitaDato : String
  statoDato : String
  note : Option String
  provenance : String
  provenanceRationale : Option String

structure Scope3Body where
  anno : Anno
  categoriaS3 : CategoriaS3
  sottocategoria : String
  metodo : String
  combustibile : Option String
  quantita : StagedQuantity
  unita : String
  fonteDato : String
  qualitaDato : String
  statoDato : String
  note : Option String
  metadataDefaulted : Bool
  defaultingRuleId : Option String

section Build

variable {F : Type} (rt : Runtime F)

def buildIdempotencyKey (parts : List String) : String :=
  String.ofList ((rt.sha256 ("|".intercalate parts)).toList.take 120)

/-- `_to_decimal`. -/
def stagedQuantity (x : Quantity rt) : StagedQuantity :=
  ⟨rt.toDecimal x.1, fun _ hq => rt.toDecimal_nonneg x.2 hq⟩

/-- `str(row.get("_provenance", "native"))`. -/
def provenanceText (provenance : Option Cell) : String :=
  (provenance.map Cell.str).getD "native"

def scope1Body (r : Scope1Row rt) : Scope1Body where
  anno := r.anno
  codiceSito := r.codiceSito.code
  categoriaS1 := r.categoriaS1.1
  combustibile := r.combustibile.1
  quantita := stagedQuantity rt r.quantita
  unita := r.unita.1
  fonteDato := r.fonteDato.1
  qualitaDato := r.qualitaDato.code
  statoDato := r.statoDato.code
  note := r.note
  provenance := provenanceText r.provenance
  provenanceRationale := r.provenanceRationale

def scope1Key (r : Scope1Row rt) : String :=
  buildIdempotencyKey rt
    [r.codiceSito.code, toString r.anno.1, r.combustibile.1, provenanceText r.provenance]

def scope2Body (r : Scope2Row rt) : Scope2Body where
  anno := r.anno
  codiceSito := r.codiceSito.code
  voceS2 := r.voceS2.code
  quantita := stagedQuantity rt r.quantita
  unita := "kWh"
  strumentoMb := r.strumentoMb
  fonteDato := r.fonteDato.1
  qualitaDato := r.qualitaDato.code
  statoDato := r.statoDato.code
  note := r.note
  provenance := provenanceText r.provenance
  provenanceRationale := r.provenanceRationale

def scope2Key (r : Scope2Row rt) : String :=
  buildIdempotencyKey rt
    [r.codiceSito.code, toString r.anno.1, r.voceS2.code, provenanceText r.provenance]

def scope3Body (r : Scope3Row rt) : Scope3Body where
  anno := r.anno
  categoriaS3 := r.categoriaS3
  sottocategoria := r.sottocategoria.1
  metodo := r.metodo.1
  combustibile := if r.combustibile = some "" then none else r.combustibile
  quantita := stagedQuantity rt r.quantita
  unita := r.unita.1
  fonteDato := r.fonteDato.str
  qualitaDato := r.qualitaDato.str
  statoDato := r.statoDato.str
  note := r.note
  metadataDefaulted := r.metadataDefaulted
  defaultingRuleId := r.defaultingRuleId

def scope3Key (r : Scope3Row rt) : String :=
  buildIdempotencyKey rt
    [toString r.anno.1, toString r.categoriaS3.1, r.sottocategoria.1, r.combustibile.getD "",
      r.metodo.1]

/-- What the rows of one import share, and the identifiers drawn for them. -/
structure ImportContext where
  batchId : Uuid
  tenantId : Uuid
  ingestedBy : String
  rowId : ℕ → Uuid

/-- The body of the three functions that build staging rows. -/
def buildRows {ρ β : Type} (body : ρ → β) (key : ρ → String) (ctx : ImportContext) (df : List ρ) :
    List (Staged β) :=
  df.zipIdx.map fun row =>
    { id := ctx.rowId row.2
      tenantId := ctx.tenantId
      batchId := ctx.batchId
      body := body row.1
      idempotencyKey := key row.1
      ingestedBy := ctx.ingestedBy }

def buildScope1Rows := buildRows (scope1Body rt) (scope1Key rt)

def buildScope2Rows := buildRows (scope2Body rt) (scope2Key rt)

def buildScope3Rows := buildRows (scope3Body rt) (scope3Key rt)

end Build

theorem length_buildRows {ρ β : Type} (body : ρ → β) (key : ρ → String) (ctx : ImportContext)
    (df : List ρ) : (buildRows body key ctx df).length = df.length := by
  rw [buildRows, List.length_map, List.length_zipIdx]

end GhgTool
