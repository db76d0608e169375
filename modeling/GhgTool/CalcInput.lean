import GhgTool.EmissionRecord

/-!
# The auto-calc request and its responses

`CalcInputRequest` with the field bounds of its schema, the trace `CalcPreviewResponse` that
`compute_preview` returns, and the insert response that extends it. The sub-scopes the API accepts
are fewer than those of the ledger; `CalcSubScope.db` is the `sub_scope_map` between them.
-/

namespace GhgTool

inductive CalcSubScope
  | combustion | process | lb | mb
  | cat1PurchasedGoods | cat3FuelEnergy | cat4UpstreamTransport | cat5Waste | cat6BusinessTravel
  | cat7Commuting | cat9DownstreamTransport | cat12Eol
  deriving DecidableEq, Repr

def CalcSubScope.db : CalcSubScope → SubScope
  | .combustion => .combustion
  | .process => .process
  | .lb => .lb
  | .mb => .mb
  | .cat1PurchasedGoods => .cat1
  | .cat3FuelEnergy => .cat3WttFuel
  | .cat4UpstreamTransport => .cat4
  | .cat5Waste => .cat5
  | .cat6BusinessTravel => .cat6
  | .cat7Commuting => .cat7
  | .cat9DownstreamTransport => .cat9
  | .cat12Eol => .cat12

inductive Combustibile
  | gasNat | gasolio | benzina
  deriving DecidableEq, Repr

inductive ProcessMode
  | directTco2 | caco3Mass
  deriving DecidableEq, Repr

inductive StrumentoMb
  | go | ppa | residual
  deriving DecidableEq, Repr

inductive Metodo
  | massBased | spendBased | distanceBased | fuelBased
  deriving DecidableEq, Repr

structure CalcInputRequest where
  scope : Scope
  subScope : CalcSubScope
  anno : ℕ
  codiceSito : Option String
  quantita : ℚ
  unita : String
  gwpSet : GwpSet
  combustibile : Option Combustibile
  processMode : Option ProcessMode
  strumentoMb : Option StrumentoMb
  sottocategoria : Option String
  metodo : Option Metodo
  fonteDato : Option String
  qualitaDato : Option String
  note : Option String
  anno_range : 2000 ≤ anno ∧ anno ≤ 2100
  quantita_pos : 0 < quantita
  deriving DecidableEq

structure CalcPreviewResponse where
  tco2e : ℚ
  co2BiogenicTonne : Option ℚ
  co2FossilTonne : Option ℚ
  factorId : String
  factorValue : ℚ
  factorUnit : String
  factorSource : String
  factorVersion : String
  factorVintage : String
  gwpSet : GwpSet
  gwpValue : Option ℚ
  methodology : Methodology
  formulaHuman : String
  unitConversionApplied : Option String
  warnings : List String
  deriving DecidableEq

structure CalcInsertResponse extends CalcPreviewResponse where
  emissionId : Uuid
  correlationId : CorrelationId
  createdAt : Timestamp
  deriving DecidableEq

end GhgTool
