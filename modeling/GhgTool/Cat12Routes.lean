import Mathlib.Tactic.Linarith
import GhgTool.Scope3FixedFactors
import GhgTool.ScopeTotals

/-!
# The two routes of category 12

Each row of category 12 is split by the sector proxy: thirty percent of its mass goes through the
landfill factor, seventy through the recycling factor, whatever route its label names. The mass of a
record is written in its disclosure note only.
-/

namespace GhgTool.Scope3Cat12Eol

inductive Route
  | landfill | recycle
  deriving DecidableEq, Repr

namespace Route

def factorId : Route → String
  | landfill => landfillFactorId
  | recycle => recycleFactorId

def fraction : Route → ℚ
  | landfill => landfillFraction
  | recycle => recycleFraction

/-- The end of the labels that name the route. -/
def suffix : Route → String
  | landfill => "Discarica"
  | recycle => "Riciclo"

/-- `disclosure_notes`; `str` prints the mass. -/
def note (str : ℚ → String) (mass : ℚ) (factorId : String) : Route → String
  | landfill => "Cat 12 landfill (30%) cut-off: " ++ str mass ++ " t via " ++ factorId ++ "."
  | recycle => "Cat 12 recycling (70%) cut-off (no avoided-emissions credit): " ++ str mass ++
      " t via " ++ factorId ++ "."

end Route

/-- A record, with its note and the mass in it. -/
structure NotedRecord where
  record : EmissionRecord
  route : Route
  mass : ℚ
  disclosureNotes : String

section Source

variable (str : ℚ → String) (gwp : GwpValues) (ctx : RunContext)

def emitNoted (row : RawScope3Row) (route : Route) (factor : FactorRecord) :
    Except CalcError (List NotedRecord) := do
  let mass := row.quantita * route.fraction
  let record ← makeEmission ctx (scope3Args .cat12 .massBased gwp row factor mass)
  return [⟨record, route, mass, route.note str mass factor.factorId⟩]

def buildNoted (landfill recycle : FactorRecord) (row : RawScope3Row) :
    Except CalcError (List NotedRecord) := do
  let landfillRecord ← emitNoted str gwp ctx row .landfill landfill
  let recycleRecord ← emitNoted str gwp ctx row .recycle recycle
  return landfillRecord ++ recycleRecord

/-- `calculate`, with the notes of its records. -/
def calculateNoted (rows : List RawScope3Row) (catalog : FactorCatalogPort) :
    Except CalcError (List NotedRecord) := do
  let landfill ← requireFactor catalog landfillFactorId gwp.code
  let recycle ← requireFactor catalog recycleFactorId gwp.code
  collect (fun row =>
    if handles row then buildNoted str gwp ctx landfill recycle row else .ok []) rows

end Source

/-! ## The records without their notes -/

section Records

variable (str : ℚ → String) (gwp : GwpValues) (ctx : RunContext)

theorem map_emitNoted (row : RawScope3Row) (route : Route) (factor : FactorRecord) :
    (emitNoted str gwp ctx row route factor).map (List.map NotedRecord.record) =
      emit ctx (scope3Args .cat12 .massBased gwp row factor (row.quantita * route.fraction)) := by
  unfold emitNoted emit
  dsimp only
  cases makeEmission ctx (scope3Args .cat12 .massBased gwp row factor
      (row.quantita * route.fraction)) with
  | error e => rfl
  | ok record => rfl

theorem map_buildNoted (landfill recycle : FactorRecord) (row : RawScope3Row) :
    (buildNoted str gwp ctx landfill recycle row).map (List.map NotedRecord.record) =
      buildRecords landfill recycle gwp ctx row := by
  rw [buildNoted, map_append_eq, map_emitNoted, map_emitNoted]
  rfl

theorem map_calculateNoted (rows : List RawScope3Row) (catalog : FactorCatalogPort) :
    (calculateNoted str gwp ctx rows catalog).map (List.map NotedRecord.record) =
      calculate rows catalog gwp ctx := by
  unfold calculateNoted calculate
  cases requireFactor catalog landfillFactorId gwp.code with
  | error e => rfl
  | ok landfill =>
      cases requireFactor catalog recycleFactorId gwp.code with
      | error e => rfl
      | ok recycle =>
          apply map_collect
          intro row
          by_cases h : handles row = true
          · rw [if_pos h, if_pos h]
            exact map_buildNoted str gwp ctx landfill recycle row
          · rw [if_neg h, if_neg h]
            rfl

end Records

/-! ## The masses -/

/-- The tonnes of a record are its mass times the factor of its route. -/
def Priced (catalog : FactorCatalogPort) (gwp : GwpValues) (n : NotedRecord) : Prop :=
  ∃ factor, requireFactor catalog n.route.factorId gwp.code = .ok factor ∧
    n.record.tco2e = factor.valueOrZero * n.mass * kgToTonne

/-- The mass that goes through the factor of a route. -/
def massVia (route : Route) (noted : List NotedRecord) : ℚ :=
  ((noted.filter fun n => n.route = route).map NotedRecord.mass).sum

/-- The mass of category 12 in the raw rows. -/
def cat12Mass (rows : List RawScope3Row) : ℚ :=
  ((rows.filter fun row => handles row).map RawScope3Row.quantita).sum

def NamesRoute (route : Route) (row : RawScope3Row) : Prop :=
  endsWith row.sottocategoria route.suffix = true

instance (route : Route) : DecidablePred (NamesRoute route) :=
  fun _ => inferInstanceAs (Decidable (_ = _))

/-- The mass of the rows whose label names a route. -/
def routeMass (route : Route) (rows : List RawScope3Row) : ℚ :=
  ((rows.filter fun row => handles row ∧ NamesRoute route row).map RawScope3Row.quantita).sum

section Masses

variable {str : ℚ → String} {gwp : GwpValues} {ctx : RunContext} {rows : List RawScope3Row}
  {catalog : FactorCatalogPort} {noted : List NotedRecord}

theorem outcome_emitNoted {route : Route} {factor : FactorRecord}
    (hfactor : requireFactor catalog route.factorId gwp.code = .ok factor) (row : RawScope3Row) :
    Outcome (emitNoted str gwp ctx row route factor)
      (Shows (fun n : NotedRecord => (n.route, n.mass)) (Priced catalog gwp)
        [(route, row.quantita * route.fraction)]) fun _ => True := by
  unfold emitNoted
  dsimp only
  cases hrecord : makeEmission ctx (scope3Args .cat12 .massBased gwp row factor
      (row.quantita * route.fraction)) with
  | error e => trivial
  | ok record =>
      apply shows_singleton rfl
      exact ⟨factor, hfactor, (builtFrom_of_makeEmission hrecord).tco2e⟩

theorem shows_of_calculateNoted (h : calculateNoted str gwp ctx rows catalog = .ok noted) :
    Shows (fun n : NotedRecord => (n.route, n.mass)) (Priced catalog gwp)
      (rows.flatMap fun row => if handles row then
        [(.landfill, row.quantita * landfillFraction), (.recycle, row.quantita * recycleFraction)]
        else []) noted := by
  unfold calculateNoted at h
  obtain ⟨landfill, hlandfill, h⟩ := bind_eq_ok.mp h
  obtain ⟨recycle, hrecycle, h⟩ := bind_eq_ok.mp h
  refine (outcome_collect (E := fun _ => True) ?_).of_ok h
  intro row _
  by_cases hrow : handles row = true
  · rw [if_pos hrow, if_pos hrow]
    exact (outcome_emitNoted hlandfill row).bind fun xs hxs =>
      (outcome_emitNoted hrecycle row).bind fun ys hys => hxs.append hys
  · rw [if_neg hrow, if_neg hrow]
    exact shows_nil _ _

theorem massVia_eq (h : calculateNoted str gwp ctx rows catalog = .ok noted) (route : Route) :
    massVia route noted = route.fraction * cat12Mass rows := by
  have hmass : massVia route noted =
      (((noted.map fun n => (n.route, n.mass)).filter fun p => p.1 = route).map Prod.snd).sum := by
    rw [List.filter_map, List.map_map]
    rfl
  rw [hmass, (shows_of_calculateNoted h).1]
  unfold cat12Mass
  clear h hmass
  induction rows with
  | nil => simp
  | cons row rows ih =>
      rw [List.flatMap_cons, List.filter_append, List.map_append, List.sum_append, ih,
        List.filter_cons]
      by_cases hrow : handles row = true
      · rw [if_pos hrow, if_pos hrow, List.map_cons, List.sum_cons]
        cases route with
        | landfill =>
            simp [Route.fraction]
            ring
        | recycle =>
            simp [Route.fraction]
            ring
      · rw [if_neg hrow, if_neg hrow]
        simp

end Masses

/-! ## The routes the labels name -/

theorem not_both_routes (row : RawScope3Row) :
    ¬(NamesRoute .landfill row ∧ NamesRoute .recycle row) := by
  rintro ⟨hlandfill, hrecycle⟩
  have hend : "Discarica".toList <:+ row.sottocategoria.toList := of_decide_eq_true hlandfill
  have hend' : "Riciclo".toList <:+ row.sottocategoria.toList := of_decide_eq_true hrecycle
  rcases List.suffix_or_suffix_of_suffix hend hend' with h | h
  · revert h
    decide
  · revert h
    decide

theorem routeMass_add {rows : List RawScope3Row}
    (h : ∀ row ∈ rows, handles row = true → ∃ route, NamesRoute route row) :
    routeMass .landfill rows + routeMass .recycle rows = cat12Mass rows := by
  have hmass : cat12Mass rows =
      (rows.map fun row => if handles row = true then row.quantita else 0).sum := by
    rw [← sum_map_filter]
    simp only [Bool.decide_eq_true]
    rfl
  unfold routeMass
  rw [hmass, sum_map_filter, sum_map_filter, ← List.sum_map_add]
  congr 1
  apply List.map_congr_left
  intro row hmem
  by_cases hrow : handles row = true
  · obtain ⟨route, hroute⟩ := h row hmem hrow
    cases route with
    | landfill =>
        have hother : ¬NamesRoute .recycle row := fun hrecycle =>
          not_both_routes row ⟨hroute, hrecycle⟩
        simp [hrow, hroute, hother]
    | recycle =>
        have hother : ¬NamesRoute .landfill row := fun hlandfill =>
          not_both_routes row ⟨hlandfill, hroute⟩
        simp [hrow, hroute, hother]
  · simp [hrow]

/-- What the category does with its rows. -/
structure SplitsByProxy (gwp : GwpValues) (ctx : RunContext) (rows : List RawScope3Row)
    (catalog : FactorCatalogPort) (noted : List NotedRecord) : Prop where
  records : calculate rows catalog gwp ctx = .ok (noted.map NotedRecord.record)
  priced : ∀ n ∈ noted, Priced catalog gwp n
  landfill : massVia .landfill noted = 30 / 100 * cat12Mass rows
  recycle : massVia .recycle noted = 70 / 100 * cat12Mass rows
  routes : (∀ row ∈ rows, handles row = true → ∃ route, NamesRoute route row) →
    ((∀ route, massVia route noted = routeMass route rows) ↔
      7 * routeMass .landfill rows = 3 * routeMass .recycle rows)

/-- The mass is split thirty to seventy whatever its labels say, so the routes of the rows are kept
only when their masses are already in that proportion. -/
theorem mass_split_by_proxy (str : ℚ → String) (gwp : GwpValues) (ctx : RunContext)
    (rows : List RawScope3Row) (catalog : FactorCatalogPort) (noted : List NotedRecord)
    (h : calculateNoted str gwp ctx rows catalog = .ok noted) :
    SplitsByProxy gwp ctx rows catalog noted := by
  have hlandfill : massVia .landfill noted = 30 / 100 * cat12Mass rows := massVia_eq h .landfill
  have hrecycle : massVia .recycle noted = 70 / 100 * cat12Mass rows := massVia_eq h .recycle
  constructor
  · rw [← map_calculateNoted str, h]
    rfl
  · exact (shows_of_calculateNoted h).2
  · exact hlandfill
  · exact hrecycle
  · intro hnamed
    have htotal := routeMass_add hnamed
    constructor
    · intro hroutes
      have hroute := hroutes .landfill
      rw [hlandfill] at hroute
      linarith
    · intro hproportion route
      cases route with
      | landfill =>
          rw [hlandfill]
          linarith
      | recycle =>
          rw [hrecycle]
          linarith

/-! ## The canonical year -/

def tileRow (label : String) (tonnes : ℕ) : RawScope3Row where
  id := 1
  tenantId := 1
  anno := 2024
  categoriaS3 := 12
  sottocategoria := label
  quantita := tonnes
  unita := "t"
  anno_range := anno_2024
  categoria_range := by decide
  quantita_nonneg := Nat.cast_nonneg _

def tiles2024 : List RawScope3Row :=
  [tileRow "Piastrelle_Discarica" 79013, tileRow "Piastrelle_Riciclo" 184363]

/-- A catalog in which every factor is one. -/
def unitCatalog : FactorCatalogPort where
  get factorId gwpSet _ := .ok
    { factorId := factorId, version := "v3.10", value := some 1, unit := "kg CO2e / kg"
      source := "ecoinvent", gwpSet := gwpSet.tag }
  getBiogenicShare _ _ := none

def tilesContext : RunContext where
  correlationId := .drawn 1
  createdBy := "calc_service"
  regulatoryStream := .csrdEsrsE1
  calcTimestamp := 0

theorem calculateNoted_tiles2024 : ∃ noted,
    calculateNoted (fun _ => "") gwpAr6 tilesContext tiles2024 unitCatalog = .ok noted :=
  exists_ok_of_toBool (by decide +kernel)

theorem mass_split_by_proxy_tiles2024 : ∃ noted,
    calculateNoted (fun _ => "") gwpAr6 tilesContext tiles2024 unitCatalog = .ok noted ∧
      SplitsByProxy gwpAr6 tilesContext tiles2024 unitCatalog noted := by
  obtain ⟨noted, h⟩ := calculateNoted_tiles2024
  exact ⟨noted, h, mass_split_by_proxy _ _ _ _ _ _ h⟩

/-- The landfill factor gets a fifth of a tonne less than the row of the landfill holds. -/
theorem tiles2024_not_routed : ∃ noted,
    calculateNoted (fun _ => "") gwpAr6 tilesContext tiles2024 unitCatalog = .ok noted ∧
      (∀ row ∈ tiles2024, ∃ route, NamesRoute route row) ∧
      massVia .landfill noted = 790128 / 10 ∧ routeMass .landfill tiles2024 = 79013 := by
  obtain ⟨noted, h⟩ := calculateNoted_tiles2024
  refine ⟨noted, h, ?_, ?_, ?_⟩
  · intro row hrow
    simp only [tiles2024, List.mem_cons, List.not_mem_nil, or_false] at hrow
    rcases hrow with rfl | rfl
    · exact ⟨.landfill, by decide⟩
    · exact ⟨.recycle, by decide⟩
  · rw [massVia_eq h]
    decide +kernel
  · decide +kernel

end GhgTool.Scope3Cat12Eol
