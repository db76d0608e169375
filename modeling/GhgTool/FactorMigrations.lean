import GhgTool.RowTriggers
import GhgTool.SeedLoader

/-!
# Migrations of the factor catalog

`0010_M9` splits `created_at` off `published_at`, and `0031_M11` pins six placeholders of the seed,
each in one transaction of a superuser, to whom no row policy applies. The trigger
`trg_factor_immutable` sees the updates of `0010_M9`; `0031_M11` disables it.
-/

namespace GhgTool.FactorMigrations

/-! ## The catalog -/

/-- A row of `ref.factor_catalog`; it has `created_at` since `0010_M9`. -/
structure Entry extends CatalogRow where
  isTbc : Bool
  createdAt : Option Timestamp
  publishedAt : Option Timestamp
  publishedBy : Option String
  deriving DecidableEq

/-- The primary key, and the `UNIQUE` constraint. -/
def Entry.Clash (a b : Entry) : Prop :=
  a.id = b.id ∨ a.toCatalogRow.versionKey = b.toCatalogRow.versionKey

instance (a b : Entry) : Decidable (a.Clash b) :=
  inferInstanceAs (Decidable (_ ∨ _))

/-- `published_at` and `published_by` are not `NULL`. -/
def Entry.publishFieldsFilled (e : Entry) : Bool :=
  e.publishedAt.isSome && e.publishedBy.isSome

/-- `chk_factor_publish_fields_consistent`. -/
def Entry.publishFieldsConsistent (e : Entry) : Bool :=
  !e.isPublished || (e.isPublished && e.publishFieldsFilled)

/-- `ops.deny_factor_mutation` with the row that `RETURN NEW` returns, `none` for a deletion. -/
def denyFactorMutation (old : Entry) (new : Option Entry) : Verdict Entry :=
  if old.isPublished then
    .raise ("Factor " ++ old.factorId ++ "/" ++ old.version ++ " is published and immutable")
  else
    match new with
    | some row => .proceed row
    | none => .skip

/-- The table with the trigger enabled or not, and with `check` besides the list of sources. -/
def catalogRules (enabled : Bool) (check : Entry → Bool) : TableRules Entry where
  check e := decide (e.source ∈ SeedLoader.sources) && check e
  clash a b := decide (a.Clash b)
  beforeUpdate old new := if enabled then denyFactorMutation old (some new) else .proceed new
  beforeDelete old := if enabled then denyFactorMutation old none else .proceed old

/-- Before `0010_M9`. -/
def schema0009 : TableRules Entry :=
  catalogRules true fun e => e.createdAt.isNone && e.publishFieldsFilled

def check0010 (e : Entry) : Bool :=
  e.createdAt.isSome && e.publishFieldsConsistent

/-- After `0010_M9`; no migration up to `0030_M10` changes a constraint of these columns. -/
def schema0030 : TableRules Entry :=
  catalogRules true check0010

/-- A catalog that the schema allows. -/
structure CatalogState (rules : TableRules Entry) where
  rows : List Entry
  lawful : Lawful rules rows

/-! ## The migrations -/

/-- `SET NOT NULL` and `ADD CONSTRAINT … CHECK` go through the rows that are there. -/
def addConstraint (check : Entry → Bool) (rows : List Entry) :
    Except StatementError (List Entry) :=
  if rows.all check then .ok rows else .error .checkViolation

def Entry.backfilled (e : Entry) : Entry :=
  { e with createdAt := e.publishedAt }

def Entry.unpublished (e : Entry) : Entry :=
  { e with publishedAt := none, publishedBy := none }

/-- `upgrade` of `0010_M9`. -/
def upgrade0010 (rows : List Entry) : Except StatementError (List Entry) := do
  -- `created_at` is there and nullable, the other two columns are `NOT NULL`
  let rows ← updateRows (catalogRules true Entry.publishFieldsFilled) (fun _ => true)
    Entry.backfilled rows
  let rows ← addConstraint (fun e => e.createdAt.isSome) rows
  -- the other two columns are nullable now
  let rows ← updateRows (catalogRules true fun e => e.createdAt.isSome)
    (fun e => !e.isPublished) Entry.unpublished rows
  addConstraint Entry.publishFieldsConsistent rows

def pinnedValues : List (String × ℚ) :=
  [("LB_IT_GRID_ISPRA_2024", 0.216), ("MB_IT_RESIDUAL_AIB_2024", 0.441),
    ("WTT_GAS_NAT_DEFRA_2025", 0.46), ("WTT_GASOLIO_DEFRA_2025", 0.60),
    ("WTT_BENZINA_DEFRA_2025", 0.59), ("WTT_ELEC_DEFRA_2025", 0.039)]

def Entry.pinned (now : Timestamp) (value : ℚ) (e : Entry) : Entry :=
  { e with
    value := some value
    isTbc := false
    isPublished := true
    publishedBy := some "system_seed_wave5"
    publishedAt := some now }

def Entry.unpinned (e : Entry) : Entry :=
  { e with
    value := none
    isTbc := true
    isPublished := false
    publishedBy := some "system_seed"
    publishedAt := none }

/-- One `UPDATE` of `upgrade`, with the trigger disabled. -/
def pinFactor (now : Timestamp) (rows : List Entry) (entry : String × ℚ) :
    Except StatementError (List Entry) :=
  updateRows (catalogRules false check0010) (fun e => decide (e.factorId = entry.1) && e.isTbc)
    (Entry.pinned now entry.2) rows

/-- `upgrade` of `0031_M11`. -/
def upgrade0031 (now : Timestamp) (rows : List Entry) : Except StatementError (List Entry) :=
  pinnedValues.foldlM (pinFactor now) rows

/-- `downgrade` of `0031_M11`. -/
def downgrade0031 (rows : List Entry) : Except StatementError (List Entry) :=
  updateRows (catalogRules false check0010)
    (fun e => decide (e.factorId ∈ pinnedValues.map Prod.fst)) Entry.unpinned rows

/-! ## The statements on lawful tables -/

variable {rows rows' : List Entry} {enabled : Bool} {check : Entry → Bool}

theorem clash_symm (a b : Entry) :
    (catalogRules enabled check).clash a b = (catalogRules enabled check).clash b a :=
  decide_eq_decide.mpr (or_congr eq_comm eq_comm)

theorem check_eq_true {e : Entry} : (catalogRules enabled check).check e = true ↔
    e.source ∈ SeedLoader.sources ∧ check e = true := by
  simp [catalogRules]

theorem beforeUpdate_eq {e new : Entry} (h : enabled = true → e.isPublished = false) :
    (catalogRules enabled check).beforeUpdate e new = .proceed new := by
  cases enabled with
  | false => rfl
  | true => simp [catalogRules, denyFactorMutation, h rfl]

/-- An update that keeps the key and the source, meets the checks and hits no published row while
the trigger is enabled. -/
theorem update_eq_map (hit : Entry → Bool) (set : Entry → Entry)
    (hset : ∀ e, (set e).id = e.id ∧ (set e).versionKey = e.versionKey ∧
      (set e).source = e.source)
    (hrows : Lawful (catalogRules enabled check) rows)
    (hdraft : enabled = true → ∀ e ∈ rows, hit e = true → e.isPublished = false)
    (hcheck : ∀ e ∈ rows, hit e = true → check (set e) = true) :
    updateRows (catalogRules enabled check) hit set rows =
        .ok (rows.map fun e => if hit e then set e else e) ∧
      Lawful (catalogRules enabled check) (rows.map fun e => if hit e then set e else e) := by
  have hupdate : updateRows (catalogRules enabled check) hit set rows =
      .ok (rows.map fun e => if hit e then set e else e) := by
    apply updateRows_eq_map clash_symm _ hrows
    · intro e he hhit
      refine ⟨beforeUpdate_eq fun htrigger => hdraft htrigger e he hhit, check_eq_true.mpr ?_⟩
      rw [(hset e).2.2]
      exact ⟨(check_eq_true.mp (hrows.check e he)).1, hcheck e he hhit⟩
    · intro a b
      apply decide_eq_decide.mpr
      rw [Entry.Clash, Entry.Clash, (hset a).1, (hset a).2.1]
  exact ⟨hupdate, updateRows_lawful clash_symm hrows hupdate⟩

/-- Other checks, and the trigger enabled or not: the same rows are lawful if they meet the checks. -/
theorem lawful_of_check {enabled' : Bool} {check' : Entry → Bool}
    (hrows : Lawful (catalogRules enabled check) rows) (hcheck : ∀ e ∈ rows, check' e = true) :
    Lawful (catalogRules enabled' check') rows :=
  hrows.of_check rfl fun e he =>
    check_eq_true.mpr ⟨(check_eq_true.mp (hrows.check e he)).1, hcheck e he⟩

theorem addConstraint_eq (h : ∀ e ∈ rows, check e = true) :
    addConstraint check rows = .ok rows := by
  rw [addConstraint, if_pos (List.all_eq_true.mpr h)]

/-! ## `0010_M9` -/

/-- A row keeps the moment and the author of its publication. -/
def KeepsPublication (e e' : Entry) : Prop :=
  e.isPublished = true → e'.publishedAt = e.publishedAt ∧ e'.publishedBy = e.publishedBy

/-- The upgrade completes and keeps every published row's publication. -/
def UpgradeKeepsPublished (catalog : CatalogState schema0009) : Prop :=
  ∃ rows, upgrade0010 catalog.rows = .ok rows ∧ Evolves KeepsPublication catalog.rows rows

/-- The backfill hits every row, and the trigger raises for a published one. -/
theorem draft_of_upgrade (h : upgrade0010 rows = .ok rows') :
    ∀ e ∈ rows, e.isPublished = false := by
  intro e he
  unfold upgrade0010 at h
  obtain ⟨backfilled, hupdate, -⟩ := bind_eq_ok.mp h
  have hverdict := beforeUpdate_ne_raise hupdate he rfl
    ("Factor " ++ e.factorId ++ "/" ++ e.version ++ " is published and immutable")
  by_contra hpublished
  apply hverdict
  simp [catalogRules, denyFactorMutation, hpublished]

/-- What `0010_M9` makes of a draft. -/
def Entry.split (e : Entry) : Entry :=
  { e with createdAt := e.publishedAt, publishedAt := none, publishedBy := none }

theorem backfill_eq (hrows : Lawful (catalogRules true Entry.publishFieldsFilled) rows)
    (hdraft : ∀ e ∈ rows, e.isPublished = false) :
    updateRows (catalogRules true Entry.publishFieldsFilled) (fun _ => true) Entry.backfilled rows =
        .ok (rows.map Entry.backfilled) ∧
      Lawful (catalogRules true Entry.publishFieldsFilled) (rows.map Entry.backfilled) := by
  have hupdate := update_eq_map (fun _ => true) Entry.backfilled (fun e => ⟨rfl, rfl, rfl⟩) hrows
    (fun _ e he _ => hdraft e he) (fun e he _ => (check_eq_true.mp (hrows.check e he)).2)
  simpa only [if_true] using hupdate

theorem unpublish_eq (hrows : Lawful (catalogRules true fun e => e.createdAt.isSome) rows)
    (hdraft : ∀ e ∈ rows, e.isPublished = false) :
    updateRows (catalogRules true fun e => e.createdAt.isSome) (fun e => !e.isPublished)
      Entry.unpublished rows = .ok (rows.map Entry.unpublished) := by
  obtain ⟨hupdate, -⟩ := update_eq_map (fun e => !e.isPublished) Entry.unpublished
    (fun e => ⟨rfl, rfl, rfl⟩) hrows (fun _ e he _ => hdraft e he)
    (fun e he _ => (check_eq_true.mp (hrows.check e he)).2)
  rw [hupdate]
  congr 1
  apply List.map_congr_left
  intro e he
  rw [hdraft e he]
  rfl

theorem upgrade0010_eq (hrows : Lawful schema0009 rows)
    (hdraft : ∀ e ∈ rows, e.isPublished = false) :
    upgrade0010 rows = .ok (rows.map Entry.split) := by
  have hfilled : ∀ e ∈ rows, e.publishFieldsFilled = true := by
    intro e he
    have hcheck := (check_eq_true.mp (hrows.check e he)).2
    simp only [Bool.and_eq_true] at hcheck
    exact hcheck.2
  obtain ⟨hbackfill, hlawful⟩ := backfill_eq (lawful_of_check hrows hfilled) hdraft
  have hcreated : ∀ e ∈ rows.map Entry.backfilled, e.createdAt.isSome = true := by
    intro e he
    obtain ⟨old, hold, rfl⟩ := List.mem_map.mp he
    exact (Bool.and_eq_true_iff.mp (hfilled old hold)).1
  have hstill : ∀ e ∈ rows.map Entry.backfilled, e.isPublished = false := by
    intro e he
    obtain ⟨old, hold, rfl⟩ := List.mem_map.mp he
    exact hdraft old hold
  have hunpublish := unpublish_eq (lawful_of_check hlawful hcreated) hstill
  rw [List.map_map] at hunpublish
  have hconsistent : ∀ e ∈ rows.map Entry.split, e.publishFieldsConsistent = true := by
    intro e he
    obtain ⟨old, hold, rfl⟩ := List.mem_map.mp he
    simp [Entry.publishFieldsConsistent, Entry.split, hdraft old hold]
  exact bind_eq_ok.mpr ⟨_, hbackfill, bind_eq_ok.mpr ⟨_, addConstraint_eq hcreated,
    bind_eq_ok.mpr ⟨_, hunpublish, addConstraint_eq hconsistent⟩⟩⟩

theorem upgradeKeepsPublished_iff (catalog : CatalogState schema0009) :
    UpgradeKeepsPublished catalog ↔ ∀ e ∈ catalog.rows, e.isPublished = false := by
  constructor
  · rintro ⟨rows, hupgrade, -⟩
    exact draft_of_upgrade hupgrade
  · intro hdraft
    refine ⟨_, upgrade0010_eq catalog.lawful hdraft, ?_⟩
    intro i e he
    refine ⟨e.split, by rw [List.getElem?_map, he]; rfl, fun hpublished => ?_⟩
    rw [hdraft e (List.mem_of_getElem? he)] at hpublished
    cases hpublished

/-! ## `0031_M11` -/

/-- The downgrade after the upgrade restores every row. -/
def RoundTripRestores (now : Timestamp) (catalog : CatalogState schema0030) : Prop :=
  ∃ rows, (upgrade0031 now catalog.rows >>= downgrade0031) = .ok rows ∧
    ∀ e ∈ catalog.rows, e ∈ rows

/-- The one shape that the downgrade writes. -/
structure Entry.IsPlaceholder (e : Entry) : Prop where
  value : e.value = none
  isTbc : e.isTbc = true
  isPublished : e.isPublished = false
  publishedAt : e.publishedAt = none
  publishedBy : e.publishedBy = some "system_seed"

theorem unpinned_eq_iff (e : Entry) : e.unpinned = e ↔ e.IsPlaceholder := by
  constructor
  · intro h
    rw [← h]
    exact ⟨rfl, rfl, rfl, rfl, rfl⟩
  · rintro ⟨hvalue, htbc, hpublished, hat, hby⟩
    obtain ⟨row, tbc, created, at', by'⟩ := e
    obtain ⟨⟩ := row
    simp only at hvalue htbc hpublished hat hby
    subst hvalue htbc hpublished hat hby
    rfl

/-- What the upgrade and the downgrade together make of a row. -/
def Entry.reverted (e : Entry) : Entry :=
  if e.factorId ∈ pinnedValues.map Prod.fst then e.unpinned else e

variable (now : Timestamp)

theorem reverted_pinned {e : Entry} {entry : String × ℚ} (hentry : entry ∈ pinnedValues)
    (he : e.factorId = entry.1) : (e.pinned now entry.2).reverted = e.reverted := by
  have hid : e.factorId ∈ pinnedValues.map Prod.fst := he ▸ List.mem_map_of_mem hentry
  rw [Entry.reverted, Entry.reverted, if_pos hid, if_pos (show (e.pinned now entry.2).factorId ∈
    pinnedValues.map Prod.fst from hid)]
  rfl

theorem created_of_check0010 {e : Entry} (h : check0010 e = true) : e.createdAt.isSome = true :=
  (Bool.and_eq_true_iff.mp h).1

theorem pinFactor_ok {entry : String × ℚ} (hentry : entry ∈ pinnedValues)
    (hrows : Lawful (catalogRules false check0010) rows) :
    ∃ rows', pinFactor now rows entry = .ok rows' ∧
      Lawful (catalogRules false check0010) rows' ∧
      rows'.map Entry.reverted = rows.map Entry.reverted := by
  obtain ⟨hpin, hlawful⟩ := update_eq_map
    (fun e => decide (e.factorId = entry.1) && e.isTbc) (Entry.pinned now entry.2)
    (fun e => ⟨rfl, rfl, rfl⟩) hrows (fun h => by cases h) (fun e he _ => by
      have hcreated := created_of_check0010 (check_eq_true.mp (hrows.check e he)).2
      simpa [check0010, Entry.publishFieldsConsistent, Entry.publishFieldsFilled, Entry.pinned]
        using hcreated)
  refine ⟨_, hpin, hlawful, ?_⟩
  rw [List.map_map]
  apply List.map_congr_left
  intro e _
  rw [Function.comp_apply]
  split_ifs with hhit
  · simp only [Bool.and_eq_true, decide_eq_true_eq] at hhit
    exact reverted_pinned now hentry hhit.1
  · rfl

theorem foldlM_pinFactor_ok {entries : List (String × ℚ)}
    (hentries : ∀ entry ∈ entries, entry ∈ pinnedValues)
    (hrows : Lawful (catalogRules false check0010) rows) :
    ∃ rows', entries.foldlM (pinFactor now) rows = .ok rows' ∧
      Lawful (catalogRules false check0010) rows' ∧
      rows'.map Entry.reverted = rows.map Entry.reverted := by
  induction entries generalizing rows with
  | nil => exact ⟨rows, rfl, hrows, rfl⟩
  | cons entry entries ih =>
      obtain ⟨next, hpin, hnext, hsame⟩ := pinFactor_ok now (hentries entry (by simp)) hrows
      obtain ⟨rows', hrest, hrows', hsame'⟩ := ih (fun e he => hentries e (by simp [he])) hnext
      refine ⟨rows', ?_, hrows', hsame'.trans hsame⟩
      rw [List.foldlM_cons, hpin]
      exact hrest

theorem downgrade0031_eq (hrows : Lawful (catalogRules false check0010) rows) :
    downgrade0031 rows = .ok (rows.map Entry.reverted) := by
  obtain ⟨hunpin, -⟩ := update_eq_map
    (fun e => decide (e.factorId ∈ pinnedValues.map Prod.fst)) Entry.unpinned
    (fun e => ⟨rfl, rfl, rfl⟩) hrows (fun h => by cases h) (fun e he _ => by
      have hcreated := created_of_check0010 (check_eq_true.mp (hrows.check e he)).2
      simpa [check0010, Entry.publishFieldsConsistent, Entry.unpinned] using hcreated)
  simp only [decide_eq_true_eq] at hunpin
  exact hunpin

theorem roundTrip_eq (hrows : Lawful schema0030 rows) :
    (upgrade0031 now rows >>= downgrade0031) = .ok (rows.map Entry.reverted) := by
  have hdisabled : Lawful (catalogRules false check0010) rows :=
    hrows.of_check rfl hrows.check
  obtain ⟨rows', hupgrade, hrows', hsame⟩ :=
    foldlM_pinFactor_ok now (fun entry hentry => hentry) hdisabled
  rw [← hsame]
  exact bind_eq_ok.mpr ⟨rows', hupgrade, downgrade0031_eq hrows'⟩

theorem roundTripRestores_iff (catalog : CatalogState schema0030) :
    RoundTripRestores now catalog ↔
      ∀ e ∈ catalog.rows, e.factorId ∈ pinnedValues.map Prod.fst → e.IsPlaceholder := by
  unfold RoundTripRestores
  rw [roundTrip_eq now catalog.lawful]
  constructor
  · rintro ⟨rows, hrows, hmem⟩ e he hid
    cases hrows
    obtain ⟨old, -, hold⟩ := List.mem_map.mp (hmem e he)
    have hid' : old.factorId ∈ pinnedValues.map Prod.fst := by
      rw [← hold] at hid
      unfold Entry.reverted at hid
      split_ifs at hid with h
      · exact h
      · exact hid
    rw [Entry.reverted, if_pos hid'] at hold
    rw [← hold]
    exact ⟨rfl, rfl, rfl, rfl, rfl⟩
  · intro hplaceholder
    refine ⟨_, rfl, fun e he => List.mem_map.mpr ⟨e, he, ?_⟩⟩
    unfold Entry.reverted
    split_ifs with hid
    · exact (unpinned_eq_iff e).mpr (hplaceholder e he hid)
    · rfl

/-- The upgrade of `0010_M9` completes exactly on the catalogs without a published row, and the
round trip of `0031_M11` restores exactly those whose rows under the six ids already have the shape
that the downgrade writes. -/
theorem migrations_preserve_iff (before : CatalogState schema0009)
    (catalog : CatalogState schema0030) (now : Timestamp) :
    (UpgradeKeepsPublished before ↔ ∀ e ∈ before.rows, e.isPublished = false) ∧
    (RoundTripRestores now catalog ↔
      ∀ e ∈ catalog.rows, e.factorId ∈ pinnedValues.map Prod.fst → e.IsPlaceholder) :=
  ⟨upgradeKeepsPublished_iff before, roundTripRestores_iff now catalog⟩

/-- The grid factor as an admin publishes it before `0010_M9`. -/
def publishedGrid : Entry where
  id := 1
  tenantId := 1
  factorId := "LB_IT_GRID_ISPRA_2024"
  version := "2024"
  source := "ISPRA"
  value := some 1
  biogenicCo2KgPerUnit := none
  unit := "kg CO2 / kWh"
  gwpSet := .ar6
  vintage := some "2024"
  validFrom := 0
  validTo := none
  isPublished := true
  isTbc := false
  createdAt := none
  publishedAt := some 3
  publishedBy := some "admin"

/-- The placeholder of the seed as `0010_M9` leaves it. -/
def seedPlaceholder : Entry :=
  { publishedGrid with
    value := none
    isPublished := false
    isTbc := true
    createdAt := some 3
    publishedAt := none
    publishedBy := none }

/-- A published row stops `0010_M9`; the placeholder of the seed comes back from `0031_M11` with an
author of its publication. -/
theorem migrations_change_catalog :
    (∃ catalog : CatalogState schema0009, catalog.rows = [publishedGrid] ∧
      ¬ UpgradeKeepsPublished catalog) ∧
    ∃ catalog : CatalogState schema0030, catalog.rows = [seedPlaceholder] ∧
      ¬ RoundTripRestores 7 catalog := by
  constructor
  · refine ⟨⟨[publishedGrid], ⟨by decide, by simp⟩⟩, rfl, ?_⟩
    rintro ⟨rows, hupgrade, -⟩
    have hpublished := draft_of_upgrade hupgrade publishedGrid (by simp)
    cases hpublished
  · refine ⟨⟨[seedPlaceholder], ⟨by decide, by simp⟩⟩, rfl, ?_⟩
    rintro ⟨rows, hrows, hmem⟩
    have hresult : (upgrade0031 7 [seedPlaceholder] >>= downgrade0031) =
        .ok [seedPlaceholder.unpinned] := rfl
    rw [hresult] at hrows
    cases hrows
    have hback := hmem seedPlaceholder (by simp)
    simp [seedPlaceholder, Entry.unpinned] at hback

end GhgTool.FactorMigrations
