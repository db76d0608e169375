import GhgTool.AuthState
import GhgTool.Provenance

/-!
# From the preview to the three inserts

`compute_and_insert` previews a request and then writes, in one transaction, a row of
`raw.direct_entry`, a row of the ledger and a row of `calc.audit_log`. The preview finds its factor
by vintage, among the published rows; the foreign key of the ledger row is looked up by code and GWP
set alone, and is the nil UUID where there is none.
-/

namespace GhgTool.PreviewInsert

/-! ## The tables -/

/-- A row of `raw.direct_entry`; the payload is identified with the request it is the JSON of. -/
structure DirectEntry where
  id : Uuid
  tenantId : Uuid
  correlationId : CorrelationId
  insertedBy : String
  insertedAt : Timestamp
  requestPayload : CalcInputRequest
  factorId : String
  factorVintage : ℕ
  tco2e : ℚ

/-- A row of `calc.audit_log`; `afterState` names the emission and the raw entry. -/
structure AuditRow where
  id : Uuid
  tenantId : Uuid
  correlationId : CorrelationId
  userId : String
  userRole : RoleCode
  action : String
  resource : String
  resourceId : Uuid
  requestMethod : String
  requestPath : String
  statusCode : ℕ
  afterState : Uuid × Uuid

structure Tables where
  directEntries : List DirectEntry
  ledger : EmissionsTable
  auditLog : List AuditRow

/-- The surroundings of an insert with the tables that it writes and refers to; the UUIDs that are
drawn for it are new. -/
structure World extends InsertSetting where
  tenants : List Uuid
  users : List String
  role : RoleCode
  auditId : Uuid
  directEntries : List DirectEntry
  auditLog : List AuditRow
  emissionId_fresh : ∀ r ∈ ledger.rows, r.id ≠ draws.emissionId
  rawEntryId_fresh : ∀ e ∈ directEntries, e.id ≠ draws.rawEntryId
  auditId_fresh : ∀ a ∈ auditLog, a.id ≠ auditId

def World.tables (w : World) : Tables :=
  ⟨w.directEntries, w.ledger, w.auditLog⟩

/-- What the database answers to the queries: an adapter, and the key that a code resolves to. -/
structure Answers (w : World) where
  port : FactorCatalogPort
  adapter : AdapterPort w.catalog w.adapterTenant port
  resolve : String → Uuid
  resolves : ∀ code, FactorUuid w.catalog w.call.tenantId code w.call.body.gwpSet (resolve code)

/-! ## The inserts -/

inductive InsertError
  /-- 422 of the schema. -/
  | validation (errors : List RequestError)
  | preview (e : PreviewError)
  | foreignKey (column : String)
  /-- A text with a NUL character, which neither `text` nor `jsonb` can hold. -/
  | nulCharacter
  | stringTooLong (column : String)
  | numericOverflow (column : String)
  | checkViolation (column : String)
  | ledger (v : Violation)

def holdsNul (s : String) : Bool :=
  s.toList.any fun c => decide (c = Char.ofNat 0)

/-- The free texts of a request. -/
def texts (req : CalcInputRequest) : List String :=
  req.unita :: [req.codiceSito, req.sottocategoria, req.fonteDato, req.qualitaDato,
    req.note].filterMap id

def guardThat (p : Prop) [Decidable p] (e : InsertError) : Except InsertError Unit :=
  if p then .ok () else .error e

section Inserts

variable (w : World) (a : Answers w)

/-- `compute_preview`; the query for the site fails on a NUL character. -/
def preview : Except InsertError CalcPreviewResponse :=
  if (w.call.body.codiceSito.any holdsNul) = true then .error .nulCharacter
  else
    match computePreview w.print a.port (some w.sites) w.call.tenantId w.call.body with
    | .error e => .error (.preview e)
    | .ok p => .ok p

/-- `int(preview.factor_vintage)`, or the year of the request. -/
def factorVintageInt (p : CalcPreviewResponse) : ℕ :=
  (numericText p.factorVintage).getD w.call.body.anno

/-- The row of `raw.direct_entry`. A double holds every amount with six decimals that fits the column,
so that `float` loses nothing. -/
def directEntry (p : CalcPreviewResponse) : DirectEntry where
  id := w.draws.rawEntryId
  tenantId := w.call.tenantId
  correlationId := w.call.correlationId
  insertedBy := w.call.sub
  insertedAt := w.draws.now
  requestPayload := w.call.body
  factorId := p.factorId
  factorVintage := factorVintageInt w p
  tco2e := p.tco2e

def auditRow : AuditRow where
  id := w.auditId
  tenantId := w.call.tenantId
  correlationId := w.call.correlationId
  userId := w.call.sub
  userRole := w.role
  action := "emission_auto_calc"
  resource := "emissions"
  resourceId := w.draws.emissionId
  requestMethod := "POST"
  requestPath := "/api/v1/calc/insert"
  statusCode := 201
  afterState := (w.draws.emissionId, w.draws.rawEntryId)

def insertDirectEntry (p : CalcPreviewResponse) : Except InsertError (List DirectEntry) := do
  guardThat (w.call.tenantId ∈ w.tenants) (.foreignKey "tenant_id")
  guardThat ((texts w.call.body).any holdsNul = false) .nulCharacter
  -- `NUMERIC(15,6)`
  guardThat (p.tco2e < 10 ^ 9) (.numericOverflow "tco2e")
  guardThat (0 ≤ p.tco2e) (.checkViolation "tco2e")
  return w.directEntries ++ [directEntry w p]

/-- The site as its column of the ledger keeps it. -/
def storedSite : Option String :=
  w.call.body.codiceSito.map (varchar 40)

def ledgerRow (p : CalcPreviewResponse) (factorId : Uuid) : EmissionRow :=
  { insertedRow w.call w.draws p factorId with codiceSito := storedSite w }

/-- The columns of the ledger row: `VARCHAR(40)` and `NUMERIC(18,6)`. -/
def insertEmission (p : CalcPreviewResponse) : Except InsertError EmissionsTable := do
  guardThat (w.call.body.codiceSito.all (varcharFits 40) = true) (.stringTooLong "codice_sito")
  guardThat (∀ v ∈ p.co2BiogenicTonne, |v| < 10 ^ 12) (.numericOverflow "co2_biogenic_tonne")
  guardThat (∀ v ∈ p.co2FossilTonne, |v| < 10 ^ 12) (.numericOverflow "co2_fossil_tonne")
  match EmissionsTable.insert w.catalog w.ledger (ledgerRow w p (a.resolve p.factorId)) with
  | .error v => .error (.ledger v)
  | .ok ledger => .ok ledger

def insertAudit : Except InsertError (List AuditRow) := do
  guardThat (w.call.sub ∈ w.users) (.foreignKey "user_id")
  return w.auditLog ++ [auditRow w]

def insertResponse (p : CalcPreviewResponse) : CalcInsertResponse :=
  { p with
    emissionId := w.draws.emissionId
    correlationId := w.call.correlationId
    createdAt := w.draws.now }

def computeAndInsert : Except InsertError (CalcInsertResponse × Tables) := do
  let p ← preview w a
  let directEntries ← insertDirectEntry w p
  let ledger ← insertEmission w a p
  let auditLog ← insertAudit w
  return (insertResponse w p, ⟨directEntries, ledger, auditLog⟩)

/-- The endpoint: the schema first, then the insert. -/
def postInsert : Except InsertError (CalcInsertResponse × Tables) :=
  if w.call.body.Accepted then computeAndInsert w a
  else .error (.validation w.call.body.validationErrors)

/-- The tables after the transaction: committed, or rolled back. -/
def after : Tables :=
  match postInsert w a with
  | .ok (_, tables) => tables
  | .error _ => w.tables

end Inserts

/-! ## Where the batch files a label -/

/-- The sub-scope of the lines that the category 3 module builds from a factor. -/
def cat3SubScope (factorId : String) : SubScope :=
  if factorId = Scope3Cat3FuelEnergy.elecWttId then .cat3WttElec
  else if factorId = Scope3Cat3FuelEnergy.tndElecItId then .cat3Tnd
  else .cat3WttFuel

theorem cat3SubScope_of_line {port : FactorCatalogPort} {gwp : GwpValues}
    {sigma₁ : Scope3Cat3FuelEnergy.SigmaScope1} {sigma₂ : Scope3Cat3FuelEnergy.SigmaScope2}
    {line : EmissionArgs} (h : line ∈ Scope3Cat3FuelEnergy.sigmaLines port gwp sigma₁ sigma₂) :
    ∃ factorId ∈ Scope3Cat3FuelEnergy.factorIds,
      line.factor = factorOf port gwp.code factorId ∧ line.subScope = cat3SubScope factorId := by
  unfold Scope3Cat3FuelEnergy.sigmaLines at h
  rcases List.mem_append.mp h with hfuel | helec
  · obtain ⟨key, -, hline⟩ := List.mem_flatMap.mp hfuel
    unfold Scope3Cat3FuelEnergy.fuelArgs at hline
    cases hlookup : Scope3Cat3FuelEnergy.fuelWttFactorIds.lookup key.1 with
    | none => simp [hlookup] at hline
    | some factorId =>
        rw [hlookup] at hline
        rw [List.mem_singleton.mp hline]
        have hmem : factorId ∈ Scope3Cat3FuelEnergy.fuelWttFactorIds.map Prod.snd :=
          mem_of_lookup hlookup
        have hfuels : ∀ id ∈ Scope3Cat3FuelEnergy.fuelWttFactorIds.map Prod.snd,
            cat3SubScope id = .cat3WttFuel := by
          decide
        exact ⟨factorId, List.mem_append_left _ hmem, rfl, (hfuels factorId hmem).symm⟩
  · rcases List.mem_append.mp helec with hwtt | htnd
    · obtain ⟨year, -, rfl⟩ := List.mem_map.mp hwtt
      exact ⟨Scope3Cat3FuelEnergy.elecWttId, by decide, rfl, rfl⟩
    · obtain ⟨year, -, rfl⟩ := List.mem_map.mp htnd
      exact ⟨Scope3Cat3FuelEnergy.tndElecItId, by decide, rfl, rfl⟩

/-- The sub-scope under which the batch modules file the label of a request. -/
def batchSubScope (req : CalcInputRequest) : SubScope :=
  match req.subScope with
  | .cat3FuelEnergy => ((cat3FactorId req.label).map cat3SubScope).getD .cat3WttFuel
  | subScope => subScope.db

/-! ## The promise and its condition -/

section Promise

variable (w : World) (a : Answers w) (p : CalcPreviewResponse)

def resultingKey : NaturalKey :=
  ⟨w.call.tenantId, w.call.body.scope, w.call.body.subScope.db, (storedSite w).getD "",
    w.call.body.anno, .csrdEsrsE1, w.call.body.gwpSet⟩

/-- The request is accepted, the preview succeeds with `p`, and no active row has the key. -/
structure Granted : Prop where
  accepted : w.call.body.Accepted
  preview : preview w a = .ok p
  keyFree : ∀ r ∈ w.ledger.rows, r.Active → r.naturalKey ≠ resultingKey w

/-- One row is added to each of the three tables: the emission names the raw entry, carries the
previewed value and is filed where the batch files it. -/
def Commits : Prop :=
  ∃ entry row audit, (after w a).directEntries = w.directEntries ++ [entry] ∧
    (after w a).ledger.rows = w.ledger.rows ++ [row] ∧
    (after w a).auditLog = w.auditLog ++ [audit] ∧
    row.rawRowId = entry.id ∧ row.tco2e = p.tco2e ∧ row.subScope = batchSubScope w.call.body ∧
    audit.resourceId = row.id

def PreviewImpliesInsert : Prop :=
  (∀ p, Granted w a p → Commits w a p) ∧ ((¬ ∃ p, Granted w a p) → after w a = w.tables)

/-- An active row of the same site, sub-scope and year, under whatever stream and GWP set. -/
def SharesPeriod (s : EmissionRow) : Prop :=
  s.Active ∧ s.tenantId = w.call.tenantId ∧ s.codiceSito.isSome = true ∧
    s.codiceSito = storedSite w ∧ s.scope = w.call.body.scope ∧
    s.subScope = w.call.body.subScope.db ∧ s.anno = w.call.body.anno

/-- The sub-scope map files the label where the batch does. -/
def FiledAlike : Prop :=
  batchSubScope w.call.body = w.call.body.subScope.db

/-- What the three tables ask for beyond the preview. -/
structure Storable : Prop where
  tenant : w.call.tenantId ∈ w.tenants
  user : w.call.sub ∈ w.users
  texts : (texts w.call.body).any holdsNul = false
  anno : 2020 ≤ w.call.body.anno ∧ w.call.body.anno ≤ 2099
  site : w.call.body.codiceSito.all (varcharFits 40) = true
  amount : 0 ≤ p.tco2e ∧ p.tco2e < 10 ^ 9
  biogenic : ∀ v ∈ p.co2BiogenicTonne, |v| < 10 ^ 12
  fossil : ∀ v ∈ p.co2FossilTonne, |v| < 10 ^ 12
  factor : (∃ r ∈ w.catalog.rows, r.Coded w.call.tenantId p.factorId w.call.body.gwpSet) ∨
    nilUuid ∈ w.catalog.ids
  period : ∀ s ∈ w.ledger.rows, ¬ SharesPeriod w s

end Promise

/-! ## Each insert -/

section Proof

variable {w : World} {a : Answers w} {p : CalcPreviewResponse}

theorem guardThat_bind_eq_ok {α : Type} {q : Prop} [Decidable q] {e : InsertError}
    {f : Unit → Except InsertError α} {b : α} :
    guardThat q e >>= f = .ok b ↔ q ∧ f () = .ok b := by
  unfold guardThat
  by_cases hq : q
  · rw [if_pos hq]
    exact ⟨fun h => ⟨hq, h⟩, fun h => h.2⟩
  · rw [if_neg hq]
    exact ⟨fun h => (by cases h), fun h => absurd h.1 hq⟩

theorem insertDirectEntry_eq_ok {entries : List DirectEntry} :
    insertDirectEntry w p = .ok entries ↔ w.call.tenantId ∈ w.tenants ∧
      (texts w.call.body).any holdsNul = false ∧ p.tco2e < 10 ^ 9 ∧ 0 ≤ p.tco2e ∧
      w.directEntries ++ [directEntry w p] = entries := by
  unfold insertDirectEntry
  simp only [guardThat_bind_eq_ok, pure, Except.pure, Except.ok.injEq]

theorem insertAudit_eq_ok {rows : List AuditRow} :
    insertAudit w = .ok rows ↔ w.call.sub ∈ w.users ∧ w.auditLog ++ [auditRow w] = rows := by
  unfold insertAudit
  simp only [guardThat_bind_eq_ok, pure, Except.pure, Except.ok.injEq]

theorem resolve_mem_iff {code : String} : a.resolve code ∈ w.catalog.ids ↔
    (∃ r ∈ w.catalog.rows, r.Coded w.call.tenantId code w.call.body.gwpSet) ∨
      nilUuid ∈ w.catalog.ids := by
  have hresolves := a.resolves code
  generalize a.resolve code = u at hresolves
  cases hresolves with
  | found hnewest =>
      constructor
      · intro _
        exact .inl ⟨_, hnewest.1, hnewest.2.1⟩
      · intro _
        exact List.mem_map_of_mem hnewest.1
  | fallback hnone =>
      constructor
      · exact .inr
      · rintro (⟨r, hr, hcoded⟩ | hnil)
        · exact absurd hcoded (hnone r hr)
        · exact hnil

theorem temporalClash_iff {s : EmissionRow} (hs : s ∈ w.ledger.rows) (u : Uuid) :
    s.TemporalClash (ledgerRow w p u) ↔ SharesPeriod w s := by
  have hactive := (w.ledger.checks s hs).2.2
  constructor
  · rintro ⟨hsup, -, htenant, hsome, hsite, hscope, hsub, hanno, -⟩
    exact ⟨hactive.mpr hsup, htenant, hsome, hsite, hscope, hsub, hanno⟩
  · rintro ⟨hopen, htenant, hsome, hsite, hscope, hsub, hanno⟩
    exact ⟨hactive.mp hopen, rfl, htenant, hsome, hsite, hscope, hsub, hanno,
      EmissionRow.overlaps_of_active hopen rfl⟩

theorem naturalKeyClash_iff {s : EmissionRow} (u : Uuid) :
    s.NaturalKeyClash (ledgerRow w p u) ↔
      s.Active ∧ s.naturalKey = resultingKey w := by
  constructor
  · rintro ⟨hactive, -, hkey⟩
    exact ⟨hactive, hkey⟩
  · rintro ⟨hactive, hkey⟩
    exact ⟨hactive, rfl, hkey⟩

theorem ledger_accepts_iff {u : Uuid} :
    (∃ t, EmissionsTable.insert w.catalog w.ledger (ledgerRow w p u) = .ok t) ↔
      (2020 ≤ w.call.body.anno ∧ w.call.body.anno ≤ 2099) ∧ 0 ≤ p.tco2e ∧ u ∈ w.catalog.ids ∧
      (∀ s ∈ w.ledger.rows, s.Active → s.naturalKey ≠ resultingKey w) ∧
      ∀ s ∈ w.ledger.rows, ¬ SharesPeriod w s := by
  rw [(EmissionsTable.insertSpec w.catalog).succeeds]
  constructor
  · rintro ⟨⟨hanno, hpos, -, -, hfk⟩, hclash⟩
    refine ⟨hanno, hpos, hfk, ?_, ?_⟩
    · intro s hs hactive hkey
      exact hclash s hs (.inr (.inl ((naturalKeyClash_iff u).mpr ⟨hactive, hkey⟩)))
    · intro s hs hshares
      exact hclash s hs (.inr (.inr ((temporalClash_iff hs u).mpr hshares)))
  · rintro ⟨hanno, hpos, hfk, hkey, hperiod⟩
    refine ⟨⟨hanno, hpos, rfl, rfl, hfk⟩, ?_⟩
    intro s hs hclash
    rcases hclash with hid | hnatural | htemporal
    · exact w.emissionId_fresh s hs hid
    · obtain ⟨hactive, hsame⟩ := (naturalKeyClash_iff u).mp hnatural
      exact hkey s hs hactive hsame
    · exact hperiod s hs ((temporalClash_iff hs u).mp htemporal)

theorem insertEmission_eq_ok {t : EmissionsTable} :
    insertEmission w a p = .ok t ↔ w.call.body.codiceSito.all (varcharFits 40) = true ∧
      (∀ v ∈ p.co2BiogenicTonne, |v| < 10 ^ 12) ∧ (∀ v ∈ p.co2FossilTonne, |v| < 10 ^ 12) ∧
      EmissionsTable.insert w.catalog w.ledger (ledgerRow w p (a.resolve p.factorId)) =
        .ok t := by
  unfold insertEmission
  simp only [guardThat_bind_eq_ok]
  cases EmissionsTable.insert w.catalog w.ledger (ledgerRow w p (a.resolve p.factorId)) with
  | error v => simp
  | ok t' => simp

/-! ## The transaction -/

theorem postInsert_eq_ok {out : CalcInsertResponse × Tables} :
    postInsert w a = .ok out ↔ w.call.body.Accepted ∧ ∃ p, preview w a = .ok p ∧
      ∃ entries, insertDirectEntry w p = .ok entries ∧
      ∃ ledger, insertEmission w a p = .ok ledger ∧
      ∃ audit, insertAudit w = .ok audit ∧ (insertResponse w p, ⟨entries, ledger, audit⟩) = out := by
  unfold postInsert
  by_cases haccepted : w.call.body.Accepted
  · rw [if_pos haccepted]
    unfold computeAndInsert
    simp only [bind_eq_ok, pure, Except.pure, Except.ok.injEq, haccepted, true_and]
  · rw [if_neg haccepted]
    exact ⟨fun h => (by cases h), fun h => absurd h.1 haccepted⟩

theorem writes_of_storable (hgranted : Granted w a p) (hstorable : Storable w p) :
    (after w a).directEntries = w.directEntries ++ [directEntry w p] ∧
      (after w a).ledger.rows = w.ledger.rows ++ [ledgerRow w p (a.resolve p.factorId)] ∧
      (after w a).auditLog = w.auditLog ++ [auditRow w] := by
  have hentries : insertDirectEntry w p = .ok (w.directEntries ++ [directEntry w p]) :=
    insertDirectEntry_eq_ok.mpr ⟨hstorable.tenant, hstorable.texts, hstorable.amount.2,
      hstorable.amount.1, rfl⟩
  have haudit : insertAudit w = .ok (w.auditLog ++ [auditRow w]) :=
    insertAudit_eq_ok.mpr ⟨hstorable.user, rfl⟩
  obtain ⟨ledger, hledger⟩ := ledger_accepts_iff.mpr ⟨hstorable.anno, hstorable.amount.1,
    resolve_mem_iff.mpr hstorable.factor, hgranted.keyFree, hstorable.period⟩
  have hemission : insertEmission w a p = .ok ledger :=
    insertEmission_eq_ok.mpr ⟨hstorable.site, hstorable.biogenic, hstorable.fossil, hledger⟩
  have hpost := postInsert_eq_ok.mpr ⟨hgranted.accepted, p, hgranted.preview, _, hentries, _,
    hemission, _, haudit, rfl⟩
  unfold after
  rw [hpost]
  exact ⟨rfl, (EmissionsTable.insertSpec w.catalog).stores hledger, rfl⟩

theorem storable_of_posted {out : CalcInsertResponse × Tables} (h : postInsert w a = .ok out) :
    ∃ p, Granted w a p ∧ Storable w p := by
  obtain ⟨haccepted, p, hpreview, entries, hentries, ledger, hemission, audit, haudit, -⟩ :=
    postInsert_eq_ok.mp h
  obtain ⟨htenant, htexts, hupper, hlower, -⟩ := insertDirectEntry_eq_ok.mp hentries
  obtain ⟨hsite, hbiogenic, hfossil, hledger⟩ := insertEmission_eq_ok.mp hemission
  obtain ⟨hanno, -, hfk, hkey, hperiod⟩ := ledger_accepts_iff.mp ⟨ledger, hledger⟩
  obtain ⟨huser, -⟩ := insertAudit_eq_ok.mp haudit
  exact ⟨p, ⟨haccepted, hpreview, hkey⟩, ⟨htenant, huser, htexts, hanno, hsite, ⟨hlower, hupper⟩,
    hbiogenic, hfossil, resolve_mem_iff.mp hfk, hperiod⟩⟩

theorem after_of_error {e : InsertError} (h : postInsert w a = .error e) :
    after w a = w.tables := by
  unfold after
  rw [h]

/-- A request that is not granted changes nothing. -/
theorem unchanged_of_not_granted (h : ¬ ∃ p, Granted w a p) : after w a = w.tables := by
  cases hpost : postInsert w a with
  | error e => exact after_of_error hpost
  | ok out =>
      obtain ⟨p, hgranted, -⟩ := storable_of_posted hpost
      exact absurd ⟨p, hgranted⟩ h

theorem commits_iff (hgranted : Granted w a p) :
    Commits w a p ↔ Storable w p ∧ FiledAlike w := by
  constructor
  · rintro ⟨entry, row, audit, hentries, hrows, haudit, hraw, htco2e, hsub, hid⟩
    have hposted : ∃ out, postInsert w a = .ok out := by
      cases hpost : postInsert w a with
      | ok out => exact ⟨out, rfl⟩
      | error e =>
          rw [after_of_error hpost] at hentries
          have hlength := congrArg List.length hentries
          simp [World.tables] at hlength
    obtain ⟨out, hpost⟩ := hposted
    obtain ⟨p', hgranted', hstorable⟩ := storable_of_posted hpost
    obtain rfl : p' = p := Except.ok.inj (hgranted'.preview.symm.trans hgranted.preview)
    refine ⟨hstorable, ?_⟩
    have hwritten := (writes_of_storable hgranted hstorable).2.1
    rw [hrows] at hwritten
    have hrow := List.singleton_inj.mp (List.append_cancel_left hwritten)
    unfold FiledAlike
    rw [← hsub, hrow]
    rfl
  · rintro ⟨hstorable, hfiled⟩
    obtain ⟨hentries, hrows, haudit⟩ := writes_of_storable hgranted hstorable
    exact ⟨_, _, _, hentries, hrows, haudit, rfl, rfl, hfiled.symm, rfl⟩

/-- A preview promises the insert exactly where every granted request is storable and filed alike. -/
theorem preview_implies_insert_iff (w : World) (a : Answers w) :
    PreviewImpliesInsert w a ↔ ∀ p, Granted w a p → Storable w p ∧ FiledAlike w := by
  constructor
  · intro h p hgranted
    exact (commits_iff hgranted).mp (h.1 p hgranted)
  · intro h
    refine ⟨?_, unchanged_of_not_granted⟩
    intro p hgranted
    exact (commits_iff hgranted).mpr (h p hgranted)

end Proof

/-! ## Two requests -/

/-- The electricity labels of category 3 are the ones filed apart. -/
theorem filedAlike_iff (w : World) : FiledAlike w ↔
    (w.call.body.subScope = .cat3FuelEnergy →
      cat3FactorId w.call.body.label ≠ some Scope3Cat3FuelEnergy.elecWttId ∧
      cat3FactorId w.call.body.label ≠ some Scope3Cat3FuelEnergy.tndElecItId) := by
  unfold FiledAlike batchSubScope
  cases hsub : w.call.body.subScope
  case cat3FuelEnergy =>
    cases hid : cat3FactorId w.call.body.label with
    | none => simp [CalcSubScope.db]
    | some factorId =>
        by_cases helec : factorId = Scope3Cat3FuelEnergy.elecWttId
        · simp [helec, cat3SubScope, CalcSubScope.db]
        · by_cases htnd : factorId = Scope3Cat3FuelEnergy.tndElecItId
          · simp [htnd, cat3SubScope, CalcSubScope.db, Scope3Cat3FuelEnergy.elecWttId,
              Scope3Cat3FuelEnergy.tndElecItId]
          · simp [helec, htnd, cat3SubScope, CalcSubScope.db]
  all_goals simp

theorem preview_eq_ok {w : World} {a : Answers w} {p : CalcPreviewResponse} :
    preview w a = .ok p ↔ (w.call.body.codiceSito.any holdsNul) = false ∧
      computePreview w.print a.port (some w.sites) w.call.tenantId w.call.body = .ok p := by
  unfold preview
  cases hnul : w.call.body.codiceSito.any holdsNul with
  | true => simp
  | false =>
      cases computePreview w.print a.port (some w.sites) w.call.tenantId w.call.body with
      | error e => simp
      | ok p' => simp

/-- An emission entered directly is stored only where the catalog has a row with the code that
exists in the handler alone, or one under the nil UUID. -/
theorem factor_of_direct {w : World} {a : Answers w} {p : CalcPreviewResponse}
    (hpreview : preview w a = .ok p) (hids : lookedUp w.call.body w.country = some [])
    (hstorable : Storable w p) :
    (∃ r ∈ w.catalog.rows, r.factorId = "DIRECT_TCO2_INPUT") ∨ nilUuid ∈ w.catalog.ids := by
  obtain ⟨l, hl, -, htraced, -⟩ :=
    preview_spec (computePreview_ok_iff.mp (preview_eq_ok.mp hpreview).2).2.2
  obtain rfl : [] = l := Option.some.inj (hids.symm.trans hl)
  cases htraced with
  | direct hid _ =>
      rcases hstorable.factor with ⟨r, hr, -, hcode, -⟩ | hnil
      · exact .inl ⟨r, hr, hcode.trans hid⟩
      · exact .inr hnil

/-- Ten tonnes of process emissions of IANO, entered directly. -/
def directRequest : CalcInputRequest where
  scope := .one
  subScope := .process
  anno := 2025
  codiceSito := some "IANO"
  quantita := 10
  unita := "tCO2"
  gwpSet := .ar6
  combustibile := none
  processMode := none
  strumentoMb := none
  sottocategoria := none
  metodo := none
  fonteDato := none
  qualitaDato := none
  note := none
  anno_range := requestAnno_2025
  quantita_pos := by decide

/-- The losses of the electricity grid, as a category 3 label. -/
def gridLossRequest : CalcInputRequest :=
  { commutingRequest "TND" with subScope := .cat3FuelEnergy, unita := "kWh" }

/-- A request of the one user of a tenant, against an empty ledger. -/
def firstInsert (catalog : FactorCatalog) (req : CalcInputRequest) : World where
  print := plainPrinting
  catalog := catalog
  adapterTenant := 1
  sites := []
  ledger := EmissionsTable.empty
  call := ⟨1, "editor", none, req, .drawn 1⟩
  draws := ⟨1, 1, 0⟩
  tenants := [1]
  users := ["editor"]
  role := .editor
  auditId := 1
  directEntries := []
  auditLog := []
  emissionId_fresh := by simp [EmissionsTable.empty]
  rawEntryId_fresh := by simp
  auditId_fresh := by simp

/-- The answers that take the first of the newest rows. -/
def firstAnswers (w : World) : Answers w where
  port := sqlFactorCatalogAdapter w.catalog w.adapterTenant
  adapter := adapterPort_sql w.catalog w.adapterTenant
  resolve code := resolveFactorUuid w.catalog w.call.tenantId code w.call.body.gwpSet
  resolves code := factorUuid_resolve w.catalog w.call.tenantId code w.call.body.gwpSet

/-- The published factor of the grid losses. -/
def gridLossCatalog : FactorCatalog :=
  ⟨[publishedRow 1 Scope3Cat3FuelEnergy.tndElecItId "kg CO2e / kWh" .ar6 (2 / 100)],
    by decide, by decide⟩

theorem granted_of_toBool (catalog : FactorCatalog) (req : CalcInputRequest)
    (haccepted : req.Accepted)
    (hpreview : (preview (firstInsert catalog req) (firstAnswers (firstInsert catalog req))).toBool
      = true) :
    ∃ p, Granted (firstInsert catalog req) (firstAnswers (firstInsert catalog req)) p := by
  obtain ⟨p, hp⟩ := exists_ok_of_toBool hpreview
  exact ⟨p, haccepted, hp, by simp [firstInsert, EmissionsTable.empty]⟩

/-- The emission entered directly is previewed and not inserted, for want of a catalog row with its
code; the grid losses are inserted, as the well-to-tank emissions of a fuel. -/
theorem preview_without_insert :
    (∃ p, Granted (firstInsert gridLossCatalog directRequest) (firstAnswers _) p ∧
      ¬ Commits (firstInsert gridLossCatalog directRequest) (firstAnswers _) p) ∧
    ∃ p, Granted (firstInsert gridLossCatalog gridLossRequest) (firstAnswers _) p ∧
      ¬ Commits (firstInsert gridLossCatalog gridLossRequest) (firstAnswers _) p := by
  constructor
  · obtain ⟨p, hp⟩ := granted_of_toBool gridLossCatalog directRequest (by decide) (by decide +kernel)
    refine ⟨p, hp, ?_⟩
    intro hcommits
    have hfactor := factor_of_direct hp.preview rfl ((commits_iff hp).mp hcommits).1
    revert hfactor
    decide
  · obtain ⟨p, hp⟩ := granted_of_toBool gridLossCatalog gridLossRequest (by decide)
      (by decide +kernel)
    refine ⟨p, hp, ?_⟩
    intro hcommits
    have hfiled := ((commits_iff hp).mp hcommits).2
    have hids := (filedAlike_iff _).mp hfiled rfl
    exact hids.2 (by decide +kernel)

end GhgTool.PreviewInsert
