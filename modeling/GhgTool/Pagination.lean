import GhgTool.FactorCatalog
import GhgTool.Reconciliation

/-!
# Cursor pagination

A client asks without a cursor first and then with each cursor it is handed, until a page comes
without one. `GET /emissions` and `GET /factor-catalog` hand out cursors and read none: every call
answers with the first page.

No query names an order, so the rows may come in another order at every call; how a key is written
into an opaque cursor is a parameter.
-/

namespace GhgTool

universe u

structure CursorPage (α : Type u) where
  items : List α
  nextCursor : Option String
  total : Option ℕ := none

section Client

variable {α : Type u} (fetch : ℕ → Option String → CursorPage α)

/-- All items a client collects from its call `n` on, when a page without a cursor comes within so
many calls. -/
def follow : ℕ → ℕ → Option String → Option (List α)
  | 0, _, _ => none
  | calls + 1, n, cursor =>
    let page := fetch n cursor
    match page.nextCursor with
    | none => some page.items
    | some next => (follow calls (n + 1) (some next)).map (page.items ++ ·)

/-- Following the cursors comes to an end and gives each row once. -/
def Enumerates (rows : List α) : Prop :=
  ∃ calls items, follow fetch calls 0 none = some items ∧ items.Perm rows

variable {fetch}

/-- Where every page has a successor, no number of calls is enough. -/
theorem follow_eq_none (h : ∀ n cursor, (fetch n cursor).nextCursor.isSome = true)
    (calls n : ℕ) (cursor : Option String) : follow fetch calls n cursor = none := by
  induction calls generalizing n cursor with
  | zero => rfl
  | succ calls ih =>
      obtain ⟨next, hnext⟩ := Option.isSome_iff_exists.mp (h n cursor)
      simp only [follow, hnext, ih, Option.map_none]

theorem not_enumerates (h : ∀ n cursor, (fetch n cursor).nextCursor.isSome = true)
    (rows : List α) : ¬ Enumerates fetch rows := by
  rintro ⟨calls, items, hfollow, -⟩
  rw [follow_eq_none h] at hfollow
  cases hfollow

theorem enumerates_of_last {rows : List α} (hlast : (fetch 0 none).nextCursor = none)
    (hitems : (fetch 0 none).items.Perm rows) : Enumerates fetch rows := by
  refine ⟨1, (fetch 0 none).items, ?_, hitems⟩
  simp only [follow, hlast]

end Client

/-- The order in which the rows of a query come at each call. -/
structure ScanOrder (α : Type u) where
  scan : ℕ → List α → List α
  perm : ∀ n rows, (scan n rows).Perm rows

theorem ScanOrder.length_scan {α : Type u} (order : ScanOrder α) (n : ℕ) (rows : List α) :
    (order.scan n rows).length = rows.length :=
  (order.perm n rows).length_eq

/-- The rows of a result as a page: the first `limit` of them, and a cursor at the last of these
when there are more. -/
def pageOf {α : Type u} (id : α → Uuid) (encodeCursor : Uuid → String) (rows : List α)
    (limit : ℕ) (total : Option ℕ) : CursorPage α where
  items := rows.take limit
  nextCursor :=
    if limit < rows.length then (rows[limit - 1]?).map fun r => encodeCursor (id r) else none
  total := total

section PageOf

variable {α : Type u} {id : α → Uuid} {encodeCursor : Uuid → String} {rows : List α} {limit : ℕ}
  {total : Option ℕ}

theorem pageOf_last (h : rows.length ≤ limit) :
    (pageOf id encodeCursor rows limit total).nextCursor = none ∧
      (pageOf id encodeCursor rows limit total).items = rows :=
  ⟨if_neg (by omega), List.take_of_length_le h⟩

theorem pageOf_more (h : limit < rows.length) :
    (pageOf id encodeCursor rows limit total).nextCursor.isSome = true := by
  have hrow : limit - 1 < rows.length := by omega
  simp only [pageOf, if_pos h, List.getElem?_eq_getElem hrow, Option.map_some, Option.isSome_some]

/-- The rule for an endpoint that pages the rows it finds, whatever the cursor. -/
theorem enumerates_pageOf {fetch : ℕ → Option String → CursorPage α} {rows : ℕ → List α}
    {matching : List α} {total : ℕ → Option ℕ}
    (hfetch : ∀ n cursor, fetch n cursor = pageOf id encodeCursor (rows n) limit (total n))
    (hmore : ∀ n, limit < (rows n).length ↔ limit < matching.length)
    (hall : matching.length ≤ limit → (rows 0).Perm matching) :
    Enumerates fetch matching ↔ matching.length ≤ limit := by
  constructor
  · intro henum
    by_contra hlong
    refine not_enumerates (fun n cursor => ?_) _ henum
    rw [hfetch]
    exact pageOf_more ((hmore n).mpr (by omega))
  · intro hfew
    have hrows : (rows 0).length ≤ limit := by
      have := hmore 0
      omega
    refine enumerates_of_last ?_ ?_
    · rw [hfetch]
      exact (pageOf_last hrows).1
    · rw [hfetch, (pageOf_last hrows).2]
      exact hall hfew

end PageOf

/-! ## The ledger -/

/-- The query parameters of `GET /emissions`. -/
structure EmissionFilter where
  scope : Option Scope := none
  anno : Option ℕ := none
  codiceSito : Option String := none
  subScope : Option String := none
  regulatoryStream : Option RegulatoryStream := none
  gwpSet : Option GwpSet := none
  cursor : Option String := none
  limit : ℕ := 50
  limit_range : 1 ≤ limit ∧ limit ≤ 500 := by decide

/-- A filter that is not given lets every row pass. -/
def MeetsFilter {β : Type} (filter : Option β) (value : β) : Prop :=
  ∀ x ∈ filter, value = x

instance {β : Type} [DecidableEq β] (filter : Option β) (value : β) :
    Decidable (MeetsFilter filter value) :=
  inferInstanceAs (Decidable (∀ x ∈ filter, value = x))

def EmissionFilter.Matches (filters : EmissionFilter) (tenantId : Uuid) (r : EmissionRow) : Prop :=
  r.tenantId = tenantId ∧ r.Active ∧ MeetsFilter filters.scope r.scope ∧
    MeetsFilter filters.anno r.anno ∧ (∀ site ∈ filters.codiceSito, r.codiceSito = some site) ∧
    MeetsFilter filters.regulatoryStream r.regulatoryStream ∧ MeetsFilter filters.gwpSet r.gwpSet ∧
    MeetsFilter filters.subScope r.subScope.label

instance (filters : EmissionFilter) (tenantId : Uuid) (r : EmissionRow) :
    Decidable (filters.Matches tenantId r) :=
  inferInstanceAs (Decidable (_ ∧ _ ∧ _ ∧ _ ∧ _ ∧ _ ∧ _ ∧ _))

/-- `EmissionsRepository.get_active`. -/
def getActive (t : EmissionsTable) (tenantId : Uuid) (filters : EmissionFilter) :
    List EmissionRow :=
  t.rows.filter fun r => filters.Matches tenantId r

/-- `GET /emissions`. -/
def listEmissions (encodeCursor : Uuid → String) (scan : List EmissionRow → List EmissionRow)
    (t : EmissionsTable) (tenantId : Uuid) (filters : EmissionFilter) : CursorPage EmissionRow :=
  let rows := scan (getActive t tenantId filters)
  pageOf EmissionRow.id encodeCursor rows filters.limit (some rows.length)

/-! ## The factor catalog -/

/-- A row of the catalog with its column `scope`, which no calculation reads. -/
structure ListedFactor extends CatalogRow where
  scope : Scope

/-- The query parameters of `GET /factor-catalog`. -/
structure FactorFilter where
  scope : Option Scope := none
  source : Option String := none
  gwpSet : Option GwpSet := none
  isPublished : Option Bool := none
  factorId : Option String := none
  cursor : Option String := none
  limit : ℕ := 50
  limit_range : 1 ≤ limit ∧ limit ≤ 200 := by decide

def FactorFilter.Matches (filters : FactorFilter) (tenantId : Uuid) (r : ListedFactor) : Prop :=
  r.tenantId = tenantId ∧ MeetsFilter filters.scope r.scope ∧ MeetsFilter filters.source r.source ∧
    MeetsFilter (filters.gwpSet.map GwpSet.tag) r.gwpSet ∧
    MeetsFilter filters.isPublished r.isPublished ∧ MeetsFilter filters.factorId r.factorId

instance (filters : FactorFilter) (tenantId : Uuid) (r : ListedFactor) :
    Decidable (filters.Matches tenantId r) :=
  inferInstanceAs (Decidable (_ ∧ _ ∧ _ ∧ _ ∧ _ ∧ _))

def matchingFactors (catalog : List ListedFactor) (tenantId : Uuid) (filters : FactorFilter) :
    List ListedFactor :=
  catalog.filter fun r => filters.Matches tenantId r

/-- `GET /factor-catalog`. The statement asks for one row more than the page holds. -/
def listFactors (encodeCursor : Uuid → String) (scan : List ListedFactor → List ListedFactor)
    (catalog : List ListedFactor) (tenantId : Uuid) (filters : FactorFilter) :
    CursorPage ListedFactor :=
  let rows := (scan (matchingFactors catalog tenantId filters)).take (filters.limit + 1)
  pageOf (fun r => r.id) encodeCursor rows filters.limit none

/-! ## When the cursors enumerate -/

section Enumerate

variable (encodeCursor : Uuid → String) (tenantId : Uuid)

/-- What a client gets at its call `n` when it passes on a cursor. -/
def emissionPages (order : ScanOrder EmissionRow) (t : EmissionsTable) (filters : EmissionFilter)
    (n : ℕ) (cursor : Option String) : CursorPage EmissionRow :=
  listEmissions encodeCursor (order.scan n) t tenantId { filters with cursor := cursor }

def factorPages (order : ScanOrder ListedFactor) (catalog : List ListedFactor)
    (filters : FactorFilter) (n : ℕ) (cursor : Option String) : CursorPage ListedFactor :=
  listFactors encodeCursor (order.scan n) catalog tenantId { filters with cursor := cursor }

theorem emissions_enumerate (order : ScanOrder EmissionRow) (t : EmissionsTable)
    (filters : EmissionFilter) :
    Enumerates (emissionPages encodeCursor tenantId order t filters)
        (getActive t tenantId filters) ↔
      (getActive t tenantId filters).length ≤ filters.limit := by
  have hfetch : ∀ n cursor, emissionPages encodeCursor tenantId order t filters n cursor =
      pageOf EmissionRow.id encodeCursor (order.scan n (getActive t tenantId filters)) filters.limit
        (some (order.scan n (getActive t tenantId filters)).length) :=
    fun _ _ => rfl
  refine enumerates_pageOf hfetch (fun n => ?_) fun _ => order.perm 0 _
  rw [order.length_scan]

theorem factors_enumerate (order : ScanOrder ListedFactor) (catalog : List ListedFactor)
    (filters : FactorFilter) :
    Enumerates (factorPages encodeCursor tenantId order catalog filters)
        (matchingFactors catalog tenantId filters) ↔
      (matchingFactors catalog tenantId filters).length ≤ filters.limit := by
  have hlength := fun n => order.length_scan n (matchingFactors catalog tenantId filters)
  have hfetch : ∀ n cursor, factorPages encodeCursor tenantId order catalog filters n cursor =
      pageOf (fun r => r.id) encodeCursor
        ((order.scan n (matchingFactors catalog tenantId filters)).take (filters.limit + 1))
        filters.limit none :=
    fun _ _ => rfl
  refine enumerates_pageOf hfetch (fun n => ?_) fun hfew => ?_
  · rw [List.length_take, hlength n]
    omega
  · -- the row beyond the page is not there
    rw [List.take_of_length_le (by rw [hlength 0]; omega)]
    exact order.perm 0 _

end Enumerate

/-- Following the cursors of either list gives every matching row once exactly when they fit on one
page. -/
theorem cursors_enumerate_iff (encodeCursor : Uuid → String) (tenantId : Uuid)
    (emissionOrder : ScanOrder EmissionRow) (t : EmissionsTable) (emissions : EmissionFilter)
    (factorOrder : ScanOrder ListedFactor) (catalog : List ListedFactor) (factors : FactorFilter) :
    (Enumerates (emissionPages encodeCursor tenantId emissionOrder t emissions)
        (getActive t tenantId emissions) ↔
      (getActive t tenantId emissions).length ≤ emissions.limit) ∧
    (Enumerates (factorPages encodeCursor tenantId factorOrder catalog factors)
        (matchingFactors catalog tenantId factors) ↔
      (matchingFactors catalog tenantId factors).length ≤ factors.limit) :=
  ⟨emissions_enumerate encodeCursor tenantId emissionOrder t emissions,
    factors_enumerate encodeCursor tenantId factorOrder catalog factors⟩

/-- Two active rows and pages of one row: the first page comes again and again. -/
theorem second_page_never_comes :
    ¬ Enumerates (emissionPages toString 1 ⟨fun _ rows => rows, fun _ _ => .refl _⟩ siteMixTable
        { limit := 1 })
      (getActive siteMixTable 1 { limit := 1 }) := by
  refine not_enumerates (fun n cursor => pageOf_more ?_) _
  change 1 < (getActive siteMixTable 1 { limit := 1 }).length
  decide +kernel

end GhgTool
