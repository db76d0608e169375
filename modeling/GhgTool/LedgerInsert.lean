import GhgTool.CalcPersistence

/-!
# When a list of records fits the ledger

Two active rows of one tenant clash exactly when they share a key: the natural key of the unique
index, or the site key of the exclusion constraint. `insertEmissions_succeeds` reduces a bulk
insertion to three conditions on the records; ids and timestamps play no part in them.
-/

namespace GhgTool

/-- The columns the exclusion constraint compares, for a row that has a site. -/
def EmissionRow.SharesSite (r s : EmissionRow) : Prop :=
  r.codiceSito.isSome ∧ r.tenantId = s.tenantId ∧ r.codiceSito = s.codiceSito ∧
    r.scope = s.scope ∧ r.subScope = s.subScope ∧ r.anno = s.anno

def EmissionRow.SharesKey (r s : EmissionRow) : Prop :=
  r.naturalKey = s.naturalKey ∨ r.SharesSite s

theorem EmissionRow.active_iff {r : EmissionRow} (h : r.Checks) :
    r.Active ↔ r.supersededBy = none :=
  h.2.2

theorem EmissionRow.clash_iff {r s : EmissionRow} (hid : r.id ≠ s.id) (hr : r.Checks)
    (hs : s.Active) (hs' : s.supersededBy = none) :
    r.Clash s ↔ r.Active ∧ r.SharesKey s := by
  constructor
  · rintro (h | ⟨hact, -, hkey⟩ | ⟨hsup, -, ht, hsome, hsite, hscope, hsub, hanno, -⟩)
    · exact absurd h hid
    · exact ⟨hact, .inl hkey⟩
    · exact ⟨(active_iff hr).mpr hsup, .inr ⟨hsome, ht, hsite, hscope, hsub, hanno⟩⟩
  · rintro ⟨hact, hkey | ⟨hsome, ht, hsite, hscope, hsub, hanno⟩⟩
    · exact .inr (.inl ⟨hact, hs, hkey⟩)
    · exact .inr (.inr ⟨(active_iff hr).mp hact, hs', ht, hsome, hsite, hscope, hsub, hanno,
        overlaps_of_active hact hs⟩)

variable {tenantId : Uuid} {now : Timestamp}

/-- Two records share a key when their rows do; ids and timestamps do not enter. -/
def SharesKey (tenantId : Uuid) (r s : EmissionRecord) : Prop :=
  (emissionToParams tenantId 0 0 r).SharesKey (emissionToParams tenantId 0 0 s)

theorem mem_emissionParams {id : ℕ} {records : List EmissionRecord} {row : EmissionRow}
    (h : row ∈ emissionParams tenantId now id records) :
    ∃ record ∈ records, ∃ id' : ℕ, id ≤ id' ∧ row = emissionToParams tenantId now id' record := by
  induction records generalizing id with
  | nil => cases h
  | cons record records ih =>
      rcases List.mem_cons.mp h with rfl | h
      · exact ⟨record, by simp, id, le_refl id, rfl⟩
      · obtain ⟨r, hr, id', hid, rfl⟩ := ih h
        exact ⟨r, by simp [hr], id', Nat.le_of_succ_le hid, rfl⟩

theorem exists_emissionParams (tenantId : Uuid) (now : Timestamp) (id : ℕ)
    {records : List EmissionRecord} {record : EmissionRecord} (h : record ∈ records) :
    ∃ id' : ℕ, id ≤ id' ∧ emissionToParams tenantId now id' record ∈
      emissionParams tenantId now id records := by
  induction records generalizing id with
  | nil => cases h
  | cons r records ih =>
      rcases List.mem_cons.mp h with rfl | h
      · exact ⟨id, le_refl id, by simp [emissionParams]⟩
      · obtain ⟨id', hid, hmem⟩ := ih (id + 1) h
        exact ⟨id', Nat.le_of_succ_le hid, by simp [emissionParams, hmem]⟩

/-- The rows of a run are active and in order, whatever their ids. -/
theorem checks_emissionToParams {id : Uuid} {record : EmissionRecord}
    (h : 2020 ≤ record.anno ∧ record.anno ≤ 2099) :
    (emissionToParams tenantId now id record).Checks :=
  ⟨h, record.tco2e_nonneg, by simp [emissionToParams]⟩

theorem clash_emissionToParams {i j : ℕ} {r s : EmissionRecord} (hij : i ≠ j)
    (hr : 2020 ≤ r.anno ∧ r.anno ≤ 2099) :
    (emissionToParams tenantId now i r).Clash (emissionToParams tenantId now j s) ↔
      SharesKey tenantId r s := by
  have hact : (emissionToParams tenantId now j s).Active := rfl
  rw [EmissionRow.clash_iff hij (checks_emissionToParams hr) hact rfl]
  exact ⟨fun h => h.2, fun h => ⟨rfl, h⟩⟩

theorem pairwise_emissionParams {id : ℕ} {records : List EmissionRecord}
    (hanno : ∀ r ∈ records, 2020 ≤ r.anno ∧ r.anno ≤ 2099) :
    (emissionParams tenantId now id records).Pairwise (fun r s => ¬ r.Clash s) ↔
      records.Pairwise fun r s => ¬ SharesKey tenantId r s := by
  induction records generalizing id with
  | nil => simp [emissionParams]
  | cons record records ih =>
      have hrecord := hanno record (by simp)
      rw [emissionParams, List.pairwise_cons, List.pairwise_cons,
        ih fun r hr => hanno r (by simp [hr])]
      refine and_congr_left fun _ => ⟨?_, ?_⟩
      · intro h s hs
        obtain ⟨id', hid, hmem⟩ := exists_emissionParams tenantId now (id + 1) hs
        have hne : id ≠ id' := Nat.ne_of_lt hid
        rw [← clash_emissionToParams hne hrecord]
        exact h _ hmem
      · intro h row hrow
        obtain ⟨s, hs, id', hid, rfl⟩ := mem_emissionParams hrow
        have hne : id ≠ id' := Nat.ne_of_lt hid
        rw [clash_emissionToParams hne hrecord]
        exact h s hs

/-- What a record needs of itself to be inserted. -/
def RecordInsertable (catalog : FactorCatalog) (r : EmissionRecord) : Prop :=
  (2020 ≤ r.anno ∧ r.anno ≤ 2099) ∧ r.factorIdUuid.getD nilUuid ∈ catalog.ids

theorem insertable_emissionToParams {catalog : FactorCatalog} {id : Uuid} {r : EmissionRecord} :
    EmissionsTable.Insertable catalog (emissionToParams tenantId now id r) ↔
      RecordInsertable catalog r :=
  ⟨fun h => ⟨h.1, h.2.2.2.2⟩, fun h => ⟨h.1, r.tco2e_nonneg, rfl, rfl, h.2⟩⟩

/-- Whether an active row of the ledger shares a key with a record of the tenant. -/
def BlocksRecord (tenantId : Uuid) (row : EmissionRow) (r : EmissionRecord) : Prop :=
  row.Active ∧ row.SharesKey (emissionToParams tenantId 0 0 r)

theorem clash_ledger_iff {t : EmissionsTable} {row : EmissionRow} (hrow : row ∈ t.rows) {id : ℕ}
    (hid : t.freshId ≤ id) {r : EmissionRecord} :
    row.Clash (emissionToParams tenantId now id r) ↔ BlocksRecord tenantId row r := by
  have hne : row.id ≠ id :=
    Nat.ne_of_lt (lt_of_lt_of_le (EmissionsTable.lt_freshId hrow) hid)
  have hact : (emissionToParams tenantId now id r).Active := rfl
  exact EmissionRow.clash_iff hne (t.checks row hrow) hact rfl

/-- A bulk insertion succeeds exactly when every record is insertable, no active row of the table
shares a key with one of them, and no two of them share a key. -/
theorem insertEmissions_succeeds (db : Database) (tenantId : Uuid) (t : EmissionsTable)
    (records : List EmissionRecord) :
    (∃ t', insertEmissions db tenantId t records = .ok t') ↔
      (∀ r ∈ records, RecordInsertable db.catalog r) ∧
      (∀ row ∈ t.rows, ∀ r ∈ records, ¬ BlocksRecord tenantId row r) ∧
      records.Pairwise fun r s => ¬ SharesKey tenantId r s := by
  rw [insertEmissions, (EmissionsTable.insertSpec db.catalog).succeeds_all]
  have hall : (∀ row ∈ emissionParams tenantId db.clock t.freshId records,
      EmissionsTable.Insertable db.catalog row) ↔
      ∀ r ∈ records, RecordInsertable db.catalog r := by
    constructor
    · intro h r hr
      obtain ⟨id', -, hmem⟩ := exists_emissionParams tenantId db.clock t.freshId hr
      exact insertable_emissionToParams.mp (h _ hmem)
    · intro h row hrow
      obtain ⟨r, hr, id', -, rfl⟩ := mem_emissionParams hrow
      exact insertable_emissionToParams.mpr (h r hr)
  rw [hall]
  refine and_congr_right fun hins => ?_
  rw [pairwise_emissionParams fun r hr => (hins r hr).1]
  refine and_congr_left fun _ => ⟨?_, ?_⟩
  · intro h row hrow r hr hblock
    obtain ⟨id', hid, hmem⟩ := exists_emissionParams tenantId db.clock t.freshId hr
    exact h row hrow _ hmem ((clash_ledger_iff hrow hid).mpr hblock)
  · intro h row hrow row' hrow' hclash
    obtain ⟨r, hr, id', hid, rfl⟩ := mem_emissionParams hrow'
    exact h row hrow r hr ((clash_ledger_iff hrow hid).mp hclash)

theorem insertEmissions_stores {db : Database} {t t' : EmissionsTable}
    {records : List EmissionRecord} (h : insertEmissions db tenantId t records = .ok t') :
    t'.rows = t.rows ++ emissionParams tenantId db.clock t.freshId records :=
  (EmissionsTable.insertSpec db.catalog).stores_all h

theorem onEmissions_of_insertEmissions {db : Database} {t : EmissionsTable}
    {records : List EmissionRecord} {v : Violation}
    (h : insertEmissions db tenantId t records = .error v) : v.onEmissions = true := by
  unfold insertEmissions at h
  generalize emissionParams tenantId db.clock t.freshId records = rows at h
  induction rows generalizing t with
  | nil => cases h
  | cons row rows ih =>
      rw [List.foldlM_cons] at h
      cases hins : EmissionsTable.insert db.catalog t row with
      | error v' =>
          rw [hins] at h
          cases h
          exact EmissionsTable.onEmissions_of_insert hins
      | ok t₁ =>
          rw [hins] at h
          exact ih h

end GhgTool
