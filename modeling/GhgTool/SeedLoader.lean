import GhgTool.FactorVintage
import GhgTool.HalfUp
import GhgTool.KeyedInsert

/-!
# Loading factor seeds

`insert_factors` writes the records of a parsed source into `ref.factor_catalog` and skips every
record whose `(tenant_id, factor_id, version, gwp_set)` is taken, by whatever row. The placeholders
of the seed migration, unpublished and to be confirmed, take such keys.
-/

namespace GhgTool.SeedLoader

/-! ## The catalog and the records -/

/-- A row of `ref.factor_catalog` with the columns that the seeds write. -/
structure Entry extends CatalogRow where
  substance : String
  scope : ℤ
  category : String
  isLicenceOnly : Bool
  isTbc : Bool
  applicabilityNote : String
  pdfSourceUri : Option String
  publishedBy : String
  deriving DecidableEq

def Entry.key (e : Entry) : Uuid × String × String × GwpTag :=
  e.toCatalogRow.versionKey

/-- A `FactorRecord` of a `parse_*` function. -/
structure SeedRecord where
  factorId : String
  substance : String
  scope : ℤ
  category : String
  source : String
  version : String
  value : Option ℚ
  unit : String
  gwpSet : GwpTag
  vintage : Option String
  applicabilityNote : String := ""
  isTbc : Bool := false
  isLicenceOnly : Bool := false
  deriving DecidableEq

def sources : List String :=
  ["DEFRA", "ISPRA", "IEA", "ecoinvent", "EXIOBASE", "CDP", "IPCC", "AIB", "EPD", "GHGProtocol"]

/-- The connection: the rows, the tenant whose code is `CERAMIC_TILE_CO` if there is one, and the
clock. `numeric` is what `NUMERIC(20,8)` keeps of `float(value)`, if it fits. -/
structure Connection where
  rows : List Entry
  seedTenant : Option Uuid
  today : ℕ
  numeric : ℚ → Option ℚ

inductive DatabaseError where
  | checkViolation (column : String)
  | stringTooLong (column : String)
  | numericOverflow
  deriving DecidableEq, Repr

/-- The lengths of the `VARCHAR` columns that a record fills. -/
def SeedRecord.texts (r : SeedRecord) : List (String × String × ℕ) :=
  [("factor_id", r.factorId, 80), ("version", r.version, 40), ("substance", r.substance, 100),
    ("category", r.category, 40), ("source", r.source, 40), ("unit", r.unit, 40),
    ("vintage", r.vintage.getD "", 40)]

/-- A record with its texts as the columns keep them. -/
def SeedRecord.cut (r : SeedRecord) : SeedRecord :=
  { r with
    factorId := varchar 80 r.factorId
    version := varchar 40 r.version
    substance := varchar 100 r.substance
    category := varchar 40 r.category
    source := varchar 40 r.source
    unit := varchar 40 r.unit
    vintage := r.vintage.map (varchar 40) }

/-- The value as the column keeps it; `NULL` stays `NULL`. -/
def Connection.stored (db : Connection) (r : SeedRecord) : Option ℚ :=
  r.value.bind db.numeric

/-- What the database says to the values of a record. -/
def Connection.accepts (db : Connection) (r : SeedRecord) : Except DatabaseError Unit :=
  match r.texts.find? fun t => !varcharFits t.2.2 t.2.1 with
  | some t => .error (.stringTooLong t.1)
  | none =>
      if r.value.isSome ∧ (db.stored r).isNone then .error .numericOverflow
      else if r.scope < 1 ∨ 3 < r.scope then .error (.checkViolation "scope")
      else if r.cut.source ∉ sources then .error (.checkViolation "source")
      else .ok ()

/-- The row that `_UPSERT_SQL` inserts for a record. -/
def Connection.entry (db : Connection) (tenantId : Uuid) (evidenceUrl : String) (r : SeedRecord)
    (id : Uuid) : Entry where
  id := id
  tenantId := tenantId
  factorId := r.cut.factorId
  version := r.cut.version
  source := r.cut.source
  value := db.stored r
  biogenicCo2KgPerUnit := none
  unit := r.cut.unit
  gwpSet := r.gwpSet
  vintage := r.cut.vintage
  validFrom := db.today
  validTo := none
  isPublished := true
  substance := r.cut.substance
  scope := r.scope
  category := r.cut.category
  isLicenceOnly := r.isLicenceOnly
  isTbc := r.isTbc
  applicabilityNote := r.applicabilityNote
  pdfSourceUri := some evidenceUrl
  publishedBy := "system_seed"

/-- The rows for a list of records. `draw` gives their primary keys; equal records may share one, as
only the first of them can be stored. -/
def Connection.entries (db : Connection) (tenantId : Uuid) (evidenceUrl : String)
    (records : List SeedRecord) (draw : SeedRecord → Uuid) : List Entry :=
  records.map fun r => db.entry tenantId evidenceUrl r (draw r)

/-- `insert_factors`: the number of records submitted, and the table after the commit. The query
selects nothing when no tenant has the code. -/
def insertFactors (db : Connection) (records : List SeedRecord) (evidenceUrl : String)
    (draw : SeedRecord → Uuid) : Except DatabaseError (ℕ × Connection) :=
  match db.seedTenant with
  | none => .ok (records.length, db)
  | some tenantId =>
      match records.findSome? fun r => (match db.accepts r with
          | .error e => some e
          | .ok () => none) with
      | some e => .error e
      | none => .ok (records.length,
          { db with
            rows := insertAllNew Entry.key db.rows
              (db.entries tenantId evidenceUrl records draw) })

/-! ## Lookups -/

/-- The `WHERE` clause of `_SELECT_FACTOR`. -/
def Current (tenantId : Uuid) (factorId : String) (gwpSet : GwpTag) (e : Entry) : Prop :=
  e.tenantId = tenantId ∧ e.factorId = factorId ∧ e.gwpSet = gwpSet ∧ e.isPublished = true ∧
    e.validTo = none

/-- A row that `_SELECT_FACTOR` may answer with. -/
def Found (rows : List Entry) (tenantId : Uuid) (factorId : String) (gwpSet : GwpTag)
    (e : Entry) : Prop :=
  e ∈ rows ∧ Current tenantId factorId gwpSet e ∧
    ∀ e' ∈ rows, Current tenantId factorId gwpSet e' → e'.validFrom ≤ e.validFrom

/-- A lookup of a record's factor finds a row, and only rows with its value that are no
placeholders. -/
def Answers (rows : List Entry) (tenantId : Uuid) (r : SeedRecord) : Prop :=
  (∃ e, Found rows tenantId r.factorId r.gwpSet e) ∧
    ∀ e, Found rows tenantId r.factorId r.gwpSet e → e.value = r.value ∧ e.isTbc = false

/-! ## What is stored -/

def SeedRecord.key (tenantId : Uuid) (r : SeedRecord) : Uuid × String × String × GwpTag :=
  (tenantId, r.cut.factorId, r.cut.version, r.gwpSet)

/-- The row that is stored for `other` is one of the factor that a lookup of `r` asks for. -/
def SeedRecord.SameFactor (other r : SeedRecord) : Prop :=
  other.cut.factorId = r.factorId ∧ other.gwpSet = r.gwpSet

/-- A record that the load stores for a tenant: the tenant has the seed code, no row has the key of
the record and no earlier record has it. -/
structure Fresh (db : Connection) (tenantId : Uuid) (records : List SeedRecord) (r : SeedRecord) :
    Prop where
  tenant : db.seedTenant = some tenantId
  new : r.key tenantId ∉ db.rows.map Entry.key
  first : ∃ before after, records = before ++ r :: after ∧
    r.key tenantId ∉ before.map (SeedRecord.key tenantId)

variable {db db' : Connection} {records : List SeedRecord} {evidenceUrl : String}
  {draw : SeedRecord → Uuid} {n : ℕ} {tenantId : Uuid} {r : SeedRecord}

theorem insertFactors_spec (h : insertFactors db records evidenceUrl draw = .ok (n, db')) :
    n = records.length ∧ db'.seedTenant = db.seedTenant ∧ db'.numeric = db.numeric ∧
      (db.seedTenant = none ∧ db' = db ∨
        ∃ tenantId, db.seedTenant = some tenantId ∧
          (∀ r ∈ records, db.accepts r = .ok ()) ∧
          db'.rows = insertAllNew Entry.key db.rows
            (db.entries tenantId evidenceUrl records draw)) := by
  unfold insertFactors at h
  cases hseed : db.seedTenant with
  | none =>
      rw [hseed] at h
      cases h
      exact ⟨rfl, hseed, rfl, .inl ⟨rfl, rfl⟩⟩
  | some tenantId =>
      rw [hseed] at h
      dsimp only at h
      split at h
      · cases h
      · next hnone =>
          cases h
          refine ⟨rfl, rfl, rfl, .inr ⟨tenantId, rfl, ?_, rfl⟩⟩
          intro r hr
          have hok := List.findSome?_eq_none_iff.mp hnone r hr
          cases haccepts : db.accepts r with
          | error e => simp [haccepts] at hok
          | ok u => rfl

theorem insertFactors_ok (hseed : db.seedTenant = some tenantId)
    (haccepts : ∀ r ∈ records, db.accepts r = .ok ()) :
    insertFactors db records evidenceUrl draw = .ok (records.length,
      { db with
        rows := insertAllNew Entry.key db.rows
          (db.entries tenantId evidenceUrl records draw) }) := by
  have hnone : (records.findSome? fun r => (match db.accepts r with
      | .error e => some e
      | .ok () => none)) = none := by
    apply List.findSome?_eq_none_iff.mpr
    intro r hr
    rw [haccepts r hr]
  unfold insertFactors
  rw [hseed]
  dsimp only
  rw [hnone]

theorem entry_key (id : Uuid) : (db.entry tenantId evidenceUrl r id).key = r.key tenantId :=
  rfl

theorem firstNew_iff (hseed : db.seedTenant = some tenantId) {e : Entry} :
    FirstNew Entry.key db.rows (db.entries tenantId evidenceUrl records draw) e ↔
      ∃ r, Fresh db tenantId records r ∧ e = db.entry tenantId evidenceUrl r (draw r) := by
  have hkeys : ∀ rs : List SeedRecord,
      (db.entries tenantId evidenceUrl rs draw).map Entry.key =
        rs.map (SeedRecord.key tenantId) := by
    intro rs
    simp only [Connection.entries, List.map_map]
    rfl
  constructor
  · rintro ⟨hnew, before, after, heq, hfirst⟩
    obtain ⟨rs, rest, hrecords, hbefore, hrest⟩ := List.map_eq_append_iff.mp heq
    obtain ⟨r, rs', rfl, hr, -⟩ := List.map_eq_cons_iff.mp hrest
    refine ⟨r, ⟨hseed, ?_, rs, rs', hrecords, ?_⟩, hr.symm⟩
    · rwa [← hr, entry_key] at hnew
    · rw [← hkeys, Connection.entries, hbefore]
      rwa [← hr, entry_key] at hfirst
  · rintro ⟨r, ⟨-, hnew, before, after, rfl, hfirst⟩, rfl⟩
    refine ⟨hnew, db.entries tenantId evidenceUrl before draw,
      db.entries tenantId evidenceUrl after draw, ?_, ?_⟩
    · simp [Connection.entries]
    · rwa [hkeys]

/-- The current rows of a factor after a load: those before it, and the fresh records. -/
theorem current_mem_iff (h : insertFactors db records evidenceUrl draw = .ok (n, db'))
    {factorId : String} {gwpSet : GwpTag} {e : Entry}
    (he : Current tenantId factorId gwpSet e) :
    e ∈ db'.rows ↔ e ∈ db.rows ∨
      ∃ other, Fresh db tenantId records other ∧
        e = db.entry tenantId evidenceUrl other (draw other) := by
  obtain ⟨-, -, -, ⟨hnone, rfl⟩ | ⟨seed, hseed, -, hrows⟩⟩ := insertFactors_spec h
  · have hfresh : ¬ ∃ other, Fresh db' tenantId records other ∧
        e = db'.entry tenantId evidenceUrl other (draw other) := by
      rintro ⟨other, hother, -⟩
      have htenant := hother.tenant
      rw [hnone] at htenant
      cases htenant
    simp [hfresh]
  · rw [hrows, mem_insertAllNew, firstNew_iff hseed]
    by_cases hsame : seed = tenantId
    · rw [hsame]
    · have hseeded : ¬ ∃ other, Fresh db seed records other ∧
          e = db.entry seed evidenceUrl other (draw other) := by
        rintro ⟨other, -, rfl⟩
        exact hsame he.1
      have hfresh : ¬ ∃ other, Fresh db tenantId records other ∧
          e = db.entry tenantId evidenceUrl other (draw other) := by
        rintro ⟨other, hother, -⟩
        exact hsame (Option.some.inj (hseed.symm.trans hother.tenant))
      simp [hseeded, hfresh]

/-! ## When a load takes effect -/

/-- The load stores a current row of the record's factor, and none is newer than it. -/
def Overtakes (db : Connection) (tenantId : Uuid) (records : List SeedRecord) (r : SeedRecord) :
    Prop :=
  (∃ other, Fresh db tenantId records other ∧ other.SameFactor r) ∧
    ∀ e ∈ db.rows, Current tenantId r.factorId r.gwpSet e → e.validFrom ≤ db.today

/-- When the rows stored today come first, they and the current rows already dated today are as the
record says; otherwise the table was so before. -/
structure Effective (db : Connection) (tenantId : Uuid) (records : List SeedRecord)
    (r : SeedRecord) : Prop where
  stored : Overtakes db tenantId records r → ∀ other, Fresh db tenantId records other →
    other.SameFactor r → db.stored other = r.value ∧ other.isTbc = false
  today : Overtakes db tenantId records r → ∀ e ∈ db.rows,
    Current tenantId r.factorId r.gwpSet e → e.validFrom = db.today →
      e.value = r.value ∧ e.isTbc = false
  before : ¬ Overtakes db tenantId records r → Answers db.rows tenantId r

theorem entry_current (other : SeedRecord) (id : Uuid) (h : other.SameFactor r) :
    Current tenantId r.factorId r.gwpSet (db.entry tenantId evidenceUrl other id) :=
  ⟨rfl, h.1, h.2, rfl, rfl⟩

theorem sameFactor_of_current {other : SeedRecord} {id : Uuid}
    (h : Current tenantId r.factorId r.gwpSet (db.entry tenantId evidenceUrl other id)) :
    other.SameFactor r :=
  ⟨h.2.1, h.2.2.1⟩

theorem found_iff_of_overtakes (h : insertFactors db records evidenceUrl draw = .ok (n, db'))
    (hover : Overtakes db tenantId records r) {e : Entry} :
    Found db'.rows tenantId r.factorId r.gwpSet e ↔
      e ∈ db'.rows ∧ Current tenantId r.factorId r.gwpSet e ∧ e.validFrom = db.today := by
  obtain ⟨⟨other, hfresh, hsame⟩, hold⟩ := hover
  have hle : ∀ e ∈ db'.rows, Current tenantId r.factorId r.gwpSet e → e.validFrom ≤ db.today := by
    intro e he hcurrent
    rcases (current_mem_iff h hcurrent).mp he with he | ⟨_, _, rfl⟩
    · exact hold e he hcurrent
    · exact le_rfl
  have hcurrent : Current tenantId r.factorId r.gwpSet
      (db.entry tenantId evidenceUrl other (draw other)) := entry_current other (draw other) hsame
  have hnew : db.entry tenantId evidenceUrl other (draw other) ∈ db'.rows :=
    (current_mem_iff h hcurrent).mpr (.inr ⟨other, hfresh, rfl⟩)
  constructor
  · rintro ⟨he, hcur, hnewest⟩
    exact ⟨he, hcur, le_antisymm (hle e he hcur) (hnewest _ hnew hcurrent)⟩
  · rintro ⟨he, hcur, htoday⟩
    exact ⟨he, hcur, fun e' he' hcur' => htoday ▸ hle e' he' hcur'⟩

theorem found_iff_of_not_overtakes (h : insertFactors db records evidenceUrl draw = .ok (n, db'))
    (hover : ¬ Overtakes db tenantId records r) {e : Entry} :
    Found db'.rows tenantId r.factorId r.gwpSet e ↔
      Found db.rows tenantId r.factorId r.gwpSet e := by
  have hcases : (∀ e, Current tenantId r.factorId r.gwpSet e → (e ∈ db'.rows ↔ e ∈ db.rows)) ∨
      ∃ e ∈ db.rows, Current tenantId r.factorId r.gwpSet e ∧ db.today < e.validFrom := by
    by_cases hfresh : ∃ other, Fresh db tenantId records other ∧ other.SameFactor r
    · refine .inr ?_
      by_contra hnone
      push Not at hnone
      exact hover ⟨hfresh, hnone⟩
    · refine .inl fun e hcurrent => ?_
      rw [current_mem_iff h hcurrent]
      constructor
      · rintro (he | ⟨other, hother, rfl⟩)
        · exact he
        · exact absurd ⟨other, hother, sameFactor_of_current hcurrent⟩ hfresh
      · exact .inl
  have hkept : ∀ e, Current tenantId r.factorId r.gwpSet e → e ∈ db.rows → e ∈ db'.rows :=
    fun e hcurrent he => (current_mem_iff h hcurrent).mpr (.inl he)
  rcases hcases with hsame | ⟨later, hlater, hcurrent', hdate⟩
  · constructor
    · rintro ⟨he, hcurrent, hnewest⟩
      exact ⟨(hsame e hcurrent).mp he, hcurrent,
        fun e' he' hcur' => hnewest e' ((hsame e' hcur').mpr he') hcur'⟩
    · rintro ⟨he, hcurrent, hnewest⟩
      exact ⟨(hsame e hcurrent).mpr he, hcurrent,
        fun e' he' hcur' => hnewest e' ((hsame e' hcur').mp he') hcur'⟩
  · constructor
    · rintro ⟨he, hcurrent, hnewest⟩
      have hafter : db.today < e.validFrom :=
        hdate.trans_le (hnewest later (hkept later hcurrent' hlater) hcurrent')
      refine ⟨?_, hcurrent, fun e' he' hcur' => hnewest e' (hkept e' hcur' he') hcur'⟩
      rcases (current_mem_iff h hcurrent).mp he with he | ⟨other, _, rfl⟩
      · exact he
      · exact absurd hafter (lt_irrefl _)
    · rintro ⟨he, hcurrent, hnewest⟩
      refine ⟨hkept e hcurrent he, hcurrent, ?_⟩
      intro e' he' hcur'
      rcases (current_mem_iff h hcur').mp he' with he' | ⟨other, _, rfl⟩
      · exact hnewest e' he' hcur'
      · exact (hdate.trans_le (hnewest later hlater hcurrent')).le

theorem answers_iff (h : insertFactors db records evidenceUrl draw = .ok (n, db')) :
    Answers db'.rows tenantId r ↔ Effective db tenantId records r := by
  by_cases hover : Overtakes db tenantId records r
  · have hfound := fun e => found_iff_of_overtakes (e := e) h hover
    obtain ⟨other, hfresh, hsame⟩ := hover.1
    constructor
    · rintro ⟨-, hall⟩
      refine ⟨fun _ other hfresh hsame => ?_, fun _ e he hcurrent htoday => ?_,
        fun hnot => absurd hover hnot⟩
      · have hcurrent : Current tenantId r.factorId r.gwpSet
            (db.entry tenantId evidenceUrl other (draw other)) := entry_current other _ hsame
        exact hall (db.entry tenantId evidenceUrl other (draw other)) ((hfound _).mpr
          ⟨(current_mem_iff h hcurrent).mpr (.inr ⟨other, hfresh, rfl⟩), hcurrent, rfl⟩)
      · exact hall e ((hfound e).mpr
          ⟨(current_mem_iff h hcurrent).mpr (.inl he), hcurrent, htoday⟩)
    · intro heffective
      refine ⟨?_, ?_⟩
      · have hcurrent : Current tenantId r.factorId r.gwpSet
            (db.entry tenantId evidenceUrl other (draw other)) := entry_current other _ hsame
        exact ⟨db.entry tenantId evidenceUrl other (draw other), (hfound _).mpr
          ⟨(current_mem_iff h hcurrent).mpr (.inr ⟨other, hfresh, rfl⟩), hcurrent, rfl⟩⟩
      · intro e he
        obtain ⟨hmem, hcurrent, htoday⟩ := (hfound e).mp he
        rcases (current_mem_iff h hcurrent).mp hmem with hold | ⟨other, hother, rfl⟩
        · exact heffective.today hover e hold hcurrent htoday
        · exact heffective.stored hover other hother (sameFactor_of_current hcurrent)
  · have hfound := fun e => found_iff_of_not_overtakes (e := e) h hover
    have hsame : Answers db'.rows tenantId r ↔ Answers db.rows tenantId r := by
      simp only [Answers, hfound]
    rw [hsame]
    constructor
    · intro hanswers
      exact ⟨fun h => absurd h hover, fun h => absurd h hover, fun _ => hanswers⟩
    · intro heffective
      exact heffective.before hover

/-- A second load of the same records, on any later day, stores nothing. -/
theorem insertFactors_again (h : insertFactors db records evidenceUrl draw = .ok (n, db'))
    (today : ℕ) (evidenceUrl' : String) (draw' : SeedRecord → Uuid) :
    insertFactors { db' with today := today } records evidenceUrl' draw' =
      .ok (n, { db' with today := today }) := by
  obtain ⟨rfl, hseed, hnumeric, ⟨hnone, rfl⟩ | ⟨seed, hsome, haccepts, hrows⟩⟩ :=
    insertFactors_spec h
  · simp [insertFactors, hnone]
  · have hagain : ∀ r ∈ records, ({ db' with today := today } : Connection).accepts r = .ok () := by
      intro r hr
      rw [← haccepts r hr]
      unfold Connection.accepts Connection.stored
      dsimp only
      rw [hnumeric]
    have hsame : insertAllNew Entry.key db'.rows
        (({ db' with today := today } : Connection).entries seed evidenceUrl' records draw') =
          db'.rows := by
      apply insertAllNew_eq_self_iff.mpr
      intro e he
      obtain ⟨r, hr, rfl⟩ := List.mem_map.mp he
      have hstored : (db.entry seed evidenceUrl r (draw r)).key ∈
          (insertAllNew Entry.key db.rows (db.entries seed evidenceUrl records draw)).map
            Entry.key := key_mem_insertAllNew (List.mem_map_of_mem hr)
      rw [hrows]
      exact hstored
    have htenant : ({ db' with today := today } : Connection).seedTenant = some seed :=
      hseed.trans hsome
    rw [insertFactors_ok htenant hagain, hsame]

/-- The count it returns is all the loader reports: some record was not inserted. -/
def Reported (n : ℕ) (records : List SeedRecord) : Prop :=
  n < records.length

/-- After a load a lookup answers with what was loaded, or the loader reports a record as not
inserted, exactly when the rows stored today come first and are as the records say, or the table
was so before; a second load changes nothing in any case. -/
theorem seed_takes_effect_iff
    (h : insertFactors db records evidenceUrl draw = .ok (n, db')) (tenantId : Uuid) :
    ((∀ r ∈ records, Answers db'.rows tenantId r ∨ Reported n records) ∧
      ∀ today evidenceUrl' draw',
        insertFactors { db' with today := today } records evidenceUrl' draw' =
          .ok (n, { db' with today := today })) ↔
    ∀ r ∈ records, Effective db tenantId records r := by
  have hsilent : ¬ Reported n records := by
    rw [(insertFactors_spec h).1]
    exact lt_irrefl _
  constructor
  · rintro ⟨heffect, -⟩ r hr
    rcases heffect r hr with hanswers | hreported
    · exact (answers_iff h).mp hanswers
    · exact absurd hreported hsilent
  · intro hall
    exact ⟨fun r hr => .inl ((answers_iff h).mpr (hall r hr)), insertFactors_again h⟩

/-- `NUMERIC(20,8)`: eight decimals, and twelve digits before them. -/
def numeric208 (v : ℚ) : Option ℚ :=
  if |v| < 10 ^ 12 then some (roundHalfUp 8 v) else none

/-- What `parse_ispra_pdf` returns, with the value that a later migration pins. -/
def ispraRecord : SeedRecord where
  factorId := "LB_IT_GRID_ISPRA_2024"
  substance := "Electricity grid Italy LB"
  scope := 2
  category := "LB"
  source := "ISPRA"
  version := "Rapporto_413_2025"
  value := some (216 / 1000)
  unit := "kg CO2 / kWh"
  gwpSet := .ar6
  vintage := some "2024"

/-- The row that the seed migration leaves for the same factor. -/
def ispraPlaceholder : Entry where
  id := 4
  tenantId := 1
  factorId := "LB_IT_GRID_ISPRA_2024"
  version := "Rapporto_413_2025"
  source := "ISPRA"
  value := none
  biogenicCo2KgPerUnit := none
  unit := "kg CO2 / kWh"
  gwpSet := .ar6
  vintage := some "2024"
  validFrom := 20260513
  validTo := none
  isPublished := false
  substance := "Electricity grid Italy LB"
  scope := 2
  category := "LB"
  isLicenceOnly := false
  isTbc := true
  applicabilityNote := "Italian grid LB consumption-side"
  pdfSourceUri := none
  publishedBy := "system_seed"

def seededCatalog (rows : List Entry) : Connection :=
  { rows := rows, seedTenant := some 1, today := 20260601, numeric := numeric208 }

theorem accepts_ispraRecord (rows : List Entry) :
    (seededCatalog rows).accepts ispraRecord = .ok () := by
  have hstored : (seededCatalog rows).stored ispraRecord = some (roundHalfUp 8 (216 / 1000)) := by
    simp only [Connection.stored, seededCatalog, ispraRecord, Option.bind_some, numeric208]
    rw [if_pos (by norm_num [abs_of_pos])]
  have htexts : ispraRecord.texts.find? (fun t => !varcharFits t.2.2 t.2.1) = none := by
    decide
  unfold Connection.accepts
  rw [htexts, hstored]
  decide

/-- Into an empty catalog the record is stored. -/
theorem seed_takes_effect_iff_empty :
    ∃ db', insertFactors (seededCatalog []) [ispraRecord] "minio://ispra.pdf" (fun _ => 9) =
        .ok (1, db') ∧
      (((∀ r ∈ [ispraRecord], Answers db'.rows 1 r ∨ Reported 1 [ispraRecord]) ∧
        ∀ today evidenceUrl' draw',
          insertFactors { db' with today := today } [ispraRecord] evidenceUrl' draw' =
            .ok (1, { db' with today := today })) ↔
      ∀ r ∈ [ispraRecord], Effective (seededCatalog []) 1 [ispraRecord] r) := by
  have haccepts : ∀ r ∈ [ispraRecord], (seededCatalog []).accepts r = .ok () := by
    simpa using accepts_ispraRecord []
  exact ⟨_, insertFactors_ok rfl haccepts, seed_takes_effect_iff (insertFactors_ok rfl haccepts) 1⟩

/-- Where the placeholder is, the record is submitted, nothing is stored, and the lookup finds no
factor. -/
theorem placeholder_blocks_seed :
    insertFactors (seededCatalog [ispraPlaceholder]) [ispraRecord] "minio://ispra.pdf" (fun _ => 9) =
        .ok (1, seededCatalog [ispraPlaceholder]) ∧
      ¬ Reported 1 [ispraRecord] ∧
      ∀ e, ¬ Found [ispraPlaceholder] 1 "LB_IT_GRID_ISPRA_2024" .ar6 e := by
  refine ⟨?_, by simp [Reported], ?_⟩
  · have haccepts : ∀ r ∈ [ispraRecord], (seededCatalog [ispraPlaceholder]).accepts r = .ok () := by
      simpa using accepts_ispraRecord [ispraPlaceholder]
    have hsame : insertAllNew Entry.key [ispraPlaceholder]
        ((seededCatalog [ispraPlaceholder]).entries 1 "minio://ispra.pdf" [ispraRecord]
          (fun _ => 9)) = [ispraPlaceholder] := by
      apply insertAllNew_eq_self_iff.mpr
      intro e he
      obtain ⟨r, hr, rfl⟩ := List.mem_map.mp he
      rw [List.mem_singleton.mp hr]
      decide
    refine (insertFactors_ok rfl haccepts).trans ?_
    simp only [seededCatalog] at hsame ⊢
    rw [hsame]
    rfl
  · rintro e ⟨he, hcurrent, -⟩
    rw [List.mem_singleton.mp he] at hcurrent
    exact absurd hcurrent.2.2.2.1 (by decide)

end GhgTool.SeedLoader
