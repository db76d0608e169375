import GhgTool.AutoCalcAgreement
import GhgTool.CalcInsert
import GhgTool.DualTrack
import GhgTool.FactorVintage
import GhgTool.PreviewLookups
import GhgTool.RunPlan

/-!
# Where a ledger row says it comes from

A row names a catalog row by its key, a version and a source. The auto-calc insert takes the three
from two queries: the preview reads the newest published row of the reporting year, and the key is
looked up once more as the newest row under the code, published or not; the biogenic memo comes from
a third. A batch run copies all of them from one record, except for the declared zero-lines, which
have no catalog row and are stored under the nil UUID.
-/

namespace GhgTool

/-- The catalog row `c` is published, is one of the `multiplied` factors, and is what the ledger row
`r` says of its version, its source and its biogenic memo. -/
structure TruthfulTo (multiplied shared : FactorRecord → Prop) (r : EmissionRow) (c : CatalogRow) :
    Prop where
  id : c.id = r.factorId
  published : c.isPublished = true
  multiplied : multiplied (rowToFactorRecord c)
  version : c.version = r.factorVersion
  source : c.source = r.factorSource
  shared : r.co2BiogenicTonne.isSome = true → shared (rowToFactorRecord c)

theorem FactorCatalog.row_unique (catalog : FactorCatalog) {c d : CatalogRow}
    (hc : c ∈ catalog.rows) (hd : d ∈ catalog.rows) (h : c.id = d.id) : c = d :=
  List.inj_on_of_nodup_map catalog.pk hc hd h

/-! ## The auto-calc insert -/

/-- The `WHERE` clause of the query for the foreign key. -/
def CatalogRow.Coded (tenantId : Uuid) (code : String) (gwpSet : GwpSet) (r : CatalogRow) : Prop :=
  r.tenantId = tenantId ∧ r.factorId = code ∧ r.gwpSet = gwpSet.tag

instance (tenantId : Uuid) (code : String) (gwpSet : GwpSet) :
    DecidablePred (CatalogRow.Coded tenantId code gwpSet) :=
  fun r => inferInstanceAs (Decidable (r.tenantId = tenantId ∧ r.factorId = code ∧
    r.gwpSet = gwpSet.tag))

theorem CatalogRow.Selected.coded {tenantId : Uuid} {code : String} {gwpSet : GwpSet}
    {vintageYear : Option ℕ} {r : CatalogRow} (h : r.Selected tenantId code gwpSet vintageYear) :
    r.Coded tenantId code gwpSet :=
  ⟨h.1, h.2.1, h.2.2.1⟩

/-- What the query for the foreign key may end in: any of the newest rows, or the nil UUID. -/
inductive FactorUuid (catalog : FactorCatalog) (tenantId : Uuid) (code : String)
    (gwpSet : GwpSet) : Uuid → Prop
  | found {r : CatalogRow} (h : Newest catalog.rows (CatalogRow.Coded tenantId code gwpSet) r) :
      FactorUuid catalog tenantId code gwpSet r.id
  | fallback (h : ∀ r ∈ catalog.rows, ¬ r.Coded tenantId code gwpSet) :
      FactorUuid catalog tenantId code gwpSet nilUuid

/-- What the server draws for an insert. -/
structure InsertDraws where
  emissionId : Uuid
  rawEntryId : Uuid
  now : Timestamp

/-- The row `compute_and_insert` appends. -/
def insertedRow (call : InsertCall) (draws : InsertDraws) (preview : CalcPreviewResponse)
    (factorUuid : Uuid) : EmissionRow where
  id := draws.emissionId
  tenantId := call.tenantId
  correlationId := call.correlationId
  rawRowId := draws.rawEntryId
  rawScope := call.body.scope
  scope := call.body.scope
  subScope := call.body.subScope.db
  codiceSito := call.body.codiceSito
  anno := call.body.anno
  tco2e := preview.tco2e
  co2Tonne := none
  ch4Tco2e := none
  n2oTco2e := none
  co2BiogenicTonne := preview.co2BiogenicTonne
  co2FossilTonne := preview.co2FossilTonne
  factorId := factorUuid
  factorVersion := preview.factorVersion
  factorSource := preview.factorSource
  gwpSet := call.body.gwpSet
  methodology := preview.methodology
  regulatoryStream := .csrdEsrsE1
  calcTimestamp := draws.now
  createdBy := "api:" ++ call.sub
  validFrom := draws.now
  validTo := none
  supersededBy := none
  reasonCode := none

theorem factorUuid_resolve (catalog : FactorCatalog) (tenantId : Uuid) (code : String)
    (gwpSet : GwpSet) : FactorUuid catalog tenantId code gwpSet
      (resolveFactorUuid catalog tenantId code gwpSet) := by
  unfold resolveFactorUuid
  cases h : (catalog.rows.filter fun r => decide (r.tenantId = tenantId ∧ r.factorId = code ∧
      r.gwpSet = gwpSet.tag)).argmax CatalogRow.validFrom with
  | none => exact .fallback (not_of_argmax_eq_none h)
  | some r => exact .found (newest_of_argmax h)

/-- The surroundings of one insert. The adapter is one of `adapterTenant`. -/
structure InsertSetting where
  print : Printing
  catalog : FactorCatalog
  adapterTenant : Uuid
  sites : List RefSite
  ledger : EmissionsTable
  call : InsertCall
  draws : InsertDraws

namespace InsertSetting

variable (w : InsertSetting)

def country : String :=
  countryOf (siteMetaOf (some w.sites) w.call.tenantId w.call.body)

/-- One way the insert may go: with these answers of the adapter, this preview and this key, the row
is stored. -/
structure Stores (port : FactorCatalogPort) (p : CalcPreviewResponse) (factorUuid : Uuid) :
    Prop where
  adapter : AdapterPort w.catalog w.adapterTenant port
  preview : computePreview w.print port (some w.sites) w.call.tenantId w.call.body = .ok p
  key : FactorUuid w.catalog w.call.tenantId p.factorId w.call.body.gwpSet factorUuid
  stored : ∃ ledger', EmissionsTable.insert w.catalog w.ledger
    (insertedRow w.call w.draws p factorUuid) = .ok ledger'

/-- The factor that is reported and multiplied. -/
def Multiplied (port : FactorCatalogPort) (f : FactorRecord) : Prop :=
  ∃ factorId ids, lookedUp w.call.body w.country = some (factorId :: ids) ∧
    FindsFactor port w.call.body factorId f

/-- The record a biogenic share is read from. -/
def Shared (port : FactorCatalogPort) (f : FactorRecord) : Prop :=
  port.get f.factorId w.call.body.gwpSet none = .ok f

/-- The stored row is truthful. -/
def RowTruthful (port : FactorCatalogPort) (p : CalcPreviewResponse) (factorUuid : Uuid) : Prop :=
  ∃ c ∈ w.catalog.rows, TruthfulTo (w.Multiplied port) (w.Shared port)
    (insertedRow w.call w.draws p factorUuid) c

variable {w} {port : FactorCatalogPort} {p : CalcPreviewResponse} {factorUuid : Uuid}

theorem row_of_get {factorId : String} {vintageYear : Option ℕ} {f : FactorRecord}
    (hport : AdapterPort w.catalog w.adapterTenant port)
    (h : port.get factorId w.call.body.gwpSet vintageYear = .ok f) :
    ∃ c, Newest w.catalog.rows (CatalogRow.Selected w.adapterTenant factorId w.call.body.gwpSet
      vintageYear) c ∧ f = rowToFactorRecord c := by
  have hresult := hport.get factorId w.call.body.gwpSet vintageYear
  rw [h] at hresult
  cases hresult with
  | found hnewest => exact ⟨_, hnewest, rfl⟩

theorem eq_of_record {c d : CatalogRow} (hc : c ∈ w.catalog.rows) (hd : d ∈ w.catalog.rows)
    (h : rowToFactorRecord c = rowToFactorRecord d) : c = d :=
  w.catalog.row_unique hc hd (Option.some.inj (congrArg FactorRecord.factorDbId h))

/-- The factor a stored row reports: the one row the preview of a request that is not entered
directly got for it. -/
structure Reported (w : InsertSetting) (port : FactorCatalogPort) (p : CalcPreviewResponse)
    (factorId : String) (c : CatalogRow) : Prop where
  newest : Newest w.catalog.rows (CatalogRow.Selected w.adapterTenant factorId w.call.body.gwpSet
    (some w.call.body.anno)) c
  finds : FindsFactor port w.call.body factorId (rowToFactorRecord c)
  reports : ReportsFactor port w.call.body factorId (rowToFactorRecord c) p

theorem Stores.spec (h : w.Stores port p factorUuid) :
    HandlerSpec port w.call.body (lookedUp w.call.body w.country) p :=
  preview_spec (computePreview_ok_iff.mp h.preview).2.2

theorem Stores.reported (h : w.Stores port p factorUuid) {factorId : String} {ids : List String}
    (hids : lookedUp w.call.body w.country = some (factorId :: ids)) :
    ∃ c, Reported w port p factorId c := by
  obtain ⟨l, hl, -, htraced, -⟩ := h.spec
  obtain rfl : factorId :: ids = l := Option.some.inj (hids.symm.trans hl)
  cases htraced with
  | factor hf hp =>
      obtain ⟨c, hc, rfl⟩ := row_of_get h.adapter (requireVintage_ok_iff.mp hf).1
      exact ⟨c, hc, hf, hp⟩

theorem Reported.code {factorId : String} {c : CatalogRow} (h : Reported w port p factorId c) :
    p.factorId = factorId :=
  h.reports.factorId.trans h.newest.2.1.2.1

theorem reported_of_truthful (h : w.Stores port p factorUuid) {c : CatalogRow}
    (hc : c ∈ w.catalog.rows) (htrue : TruthfulTo (w.Multiplied port) (w.Shared port)
      (insertedRow w.call w.draws p factorUuid) c) :
    ∃ factorId ids, lookedUp w.call.body w.country = some (factorId :: ids) ∧
      Reported w port p factorId c := by
  obtain ⟨factorId, ids, hids, hfinds⟩ := htrue.multiplied
  obtain ⟨d, hd⟩ := h.reported hids
  have hrecord := Except.ok.inj (hd.finds.symm.trans hfinds)
  obtain rfl : d = c := eq_of_record hd.newest.1 hc hrecord
  exact ⟨factorId, ids, hids, hd⟩

/-- Another key, another preview with the same amount: the row is stored just as well. -/
theorem Stores.other (h : w.Stores port p factorUuid) {port' : FactorCatalogPort}
    {p' : CalcPreviewResponse} {factorUuid' : Uuid}
    (hport : AdapterPort w.catalog w.adapterTenant port')
    (hpreview : computePreview w.print port' (some w.sites) w.call.tenantId w.call.body = .ok p')
    (hkey : FactorUuid w.catalog w.call.tenantId p'.factorId w.call.body.gwpSet factorUuid')
    (htco2e : p'.tco2e = p.tco2e) (hfk : factorUuid' ∈ w.catalog.ids) :
    w.Stores port' p' factorUuid' := by
  have hspec := EmissionsTable.insertSpec w.catalog
  refine ⟨hport, hpreview, hkey, (hspec.succeeds _ _).mpr ?_⟩
  obtain ⟨⟨hanno, hpos, hsup, hact, -⟩, hclash⟩ := (hspec.succeeds _ _).mp h.stored
  have hpos' : 0 ≤ p'.tco2e := by
    rw [htco2e]
    exact hpos
  exact ⟨⟨hanno, hpos', hsup, hact, hfk⟩, hclash⟩

/-- The request asks for a biogenic share of this factor. -/
def AsksShare (w : InsertSetting) (factorId : String) : Prop :=
  w.call.body.subScope = .cat1PurchasedGoods ∧
    factorId ∈ Scope3Cat1PurchasedGoods.biogenicFactorIds

/-- The three queries can only end in the row `c`: it is published under the reporting year, newer
than everything else under its code, drafts and other vintages included, and still valid where a
biogenic share is asked for, unless there is none to be had. -/
structure SoleSource (w : InsertSetting) (factorId : String) (c : CatalogRow) : Prop where
  mem : c ∈ w.catalog.rows
  selected : c.Selected w.call.tenantId factorId w.call.body.gwpSet (some w.call.body.anno)
  newer : ∀ s ∈ w.catalog.rows, s.Coded w.call.tenantId factorId w.call.body.gwpSet → s ≠ c →
    s.validFrom < c.validFrom
  memo : w.AsksShare factorId → c.validTo = none ∨
    ∀ b, Newest w.catalog.rows (CatalogRow.Selected w.call.tenantId factorId w.call.body.gwpSet
      none) b → b.biogenicCo2KgPerUnit = none

theorem SoleSource.eq_of_newest {factorId : String} {c d : CatalogRow}
    (h : w.SoleSource factorId c) {q : CatalogRow → Prop} (hd : Newest w.catalog.rows q d)
    (hcoded : d.Coded w.call.tenantId factorId w.call.body.gwpSet) (hc : q c) : d = c := by
  by_contra hne
  have hlt := h.newer d hd.1 hcoded hne
  have hle := hd.2.2 c h.mem hc
  omega

/-- A stored row that has the key of the reported factor is truthful, unless its share is another
row's. -/
theorem truthful_of_reported {factorId : String} {ids : List String}
    (hids : lookedUp w.call.body w.country = some (factorId :: ids))
    (hport : AdapterPort w.catalog w.adapterTenant port) {d : CatalogRow}
    (hd : Reported w port p factorId d) (hkey : d.id = factorUuid)
    (hmemo : w.AsksShare factorId → ∀ b, Newest w.catalog.rows (CatalogRow.Selected w.adapterTenant
      factorId w.call.body.gwpSet none) b → b.biogenicCo2KgPerUnit ≠ none → b = d) :
    w.RowTruthful port p factorUuid := by
  refine ⟨d, hd.newest.1, ⟨hkey, hd.newest.2.1.2.2.2.1, ⟨factorId, ids, hids, hd.finds⟩,
    hd.reports.version.symm, hd.reports.source.symm, fun hsome => ?_⟩⟩
  have hshare : (memoShare port w.call.body factorId).isSome = true :=
    hd.reports.memo.symm.trans hsome
  unfold memoShare at hshare
  split_ifs at hshare with hasks
  · rw [hport.share] at hshare
    unfold Shared
    rw [show (rowToFactorRecord d).factorId = factorId from hd.newest.2.1.2.1]
    cases hget : port.get factorId w.call.body.gwpSet none with
    | error e => simp [hget] at hshare
    | ok f =>
        obtain ⟨b, hb, rfl⟩ := row_of_get hport hget
        simp only [hget] at hshare
        rw [hmemo hasks b hb (Option.isSome_iff_ne_none.mp hshare)]
  · cases hshare

theorem truthful_of_sole (htenant : w.adapterTenant = w.call.tenantId) {factorId : String}
    {ids : List String} (hids : lookedUp w.call.body w.country = some (factorId :: ids))
    {c : CatalogRow} (hsole : w.SoleSource factorId c) (h : w.Stores port p factorUuid) :
    w.RowTruthful port p factorUuid := by
  obtain ⟨d, hd⟩ := h.reported hids
  have hsel := hd.newest.2.1
  rw [htenant] at hsel
  obtain rfl : d = c := hsole.eq_of_newest hd.newest hsel.coded (htenant ▸ hsole.selected)
  have hkey := h.key
  rw [hd.code] at hkey
  refine truthful_of_reported hids h.adapter hd ?_ fun hasks b hb hshare => ?_
  · cases hkey with
    | @found k hk =>
        obtain rfl : k = d := hsole.eq_of_newest hk hk.2.1 hsel.coded
        rfl
    | fallback hnone => exact absurd hsel.coded (hnone d hsole.mem)
  · have hbsel := hb.2.1
    rw [htenant] at hb hbsel
    rcases hsole.memo hasks with hvalid | hnone
    · have hopen : d.Selected w.call.tenantId factorId w.call.body.gwpSet none :=
        ⟨hsel.1, hsel.2.1, hsel.2.2.1, hsel.2.2.2.1, hvalid⟩
      exact hsole.eq_of_newest hb hbsel.coded hopen
    · exact absurd (hnone b hb) hshare

/-! ### Another answer to the query for the share -/

/-- The adapter, but with the row `b` for a factor without a vintage. -/
def answering (port : FactorCatalogPort) (factorId : String) (gwpSet : GwpSet) (b : CatalogRow) :
    FactorCatalogPort :=
  let get := fun id set vintageYear =>
    if id = factorId ∧ set = gwpSet ∧ vintageYear = none then .ok (rowToFactorRecord b)
    else port.get id set vintageYear
  { get
    getBiogenicShare := fun id set =>
      match get id set none with
      | .error _ => none
      | .ok record => record.biogenicCo2KgPerUnit }

theorem adapterPort_answering {catalog : FactorCatalog} {tenantId : Uuid}
    (hport : AdapterPort catalog tenantId port) {factorId : String} {gwpSet : GwpSet}
    {b : CatalogRow}
    (hb : Newest catalog.rows (CatalogRow.Selected tenantId factorId gwpSet none) b) :
    AdapterPort catalog tenantId (answering port factorId gwpSet b) where
  get := by
    intro id set vintageYear
    dsimp only [answering]
    split_ifs with hquery
    · obtain ⟨rfl, rfl, rfl⟩ := hquery
      exact .found hb
    · exact hport.get id set vintageYear
  share := fun _ _ => rfl

theorem findsFactor_answering {req : CalcInputRequest} {factorId factorId' : String}
    {gwpSet : GwpSet} {b : CatalogRow} {f : FactorRecord} :
    FindsFactor (answering port factorId gwpSet b) req factorId' f ↔
      FindsFactor port req factorId' f := by
  unfold FindsFactor
  rw [requireVintage_ok_iff, requireVintage_ok_iff]
  simp [answering]

theorem getBiogenicShare_answering (port : FactorCatalogPort) (factorId : String) (gwpSet : GwpSet)
    (b : CatalogRow) :
    (answering port factorId gwpSet b).getBiogenicShare factorId gwpSet =
      b.biogenicCo2KgPerUnit := by
  simp [answering, rowToFactorRecord]

theorem cat1_preview (print : Printing) {req : CalcInputRequest} {factorId : String}
    {f : FactorRecord} (hlabel : Scope3Cat1PurchasedGoods.resolve req.label = some factorId)
    (hf : FindsFactor port req factorId f) :
    ∃ p, previewS3Cat1 print port req = .ok p ∧ p.factorId = f.factorId ∧
      p.tco2e = quantizeTco2e (f.valueOrZero * req.quantita * kgToTonne) := by
  simp only [previewS3Cat1, hlabel]
  exact ⟨_, bind_eq_ok.mpr ⟨f, hf, rfl⟩, rfl, rfl⟩

/-- Where the share may come from another row, some stored row is not truthful. -/
theorem memo_of_truthful
    (hall : ∀ port p factorUuid, w.Stores port p factorUuid → w.RowTruthful port p factorUuid)
    (h : w.Stores port p factorUuid) {factorId : String} {ids : List String}
    (hids : lookedUp w.call.body w.country = some (factorId :: ids)) {c : CatalogRow}
    (hc : Reported w port p factorId c)
    (hkey : FactorUuid w.catalog w.call.tenantId factorId w.call.body.gwpSet c.id)
    (hasks : w.AsksShare factorId) {b : CatalogRow}
    (hb : Newest w.catalog.rows (CatalogRow.Selected w.adapterTenant factorId w.call.body.gwpSet
      none) b) (hshare : b.biogenicCo2KgPerUnit ≠ none) : b = c := by
  obtain ⟨hscope, hsite, hdispatch⟩ := computePreview_ok_iff.mp h.preview
  have hlabel : Scope3Cat1PurchasedGoods.resolve w.call.body.label = some factorId := by
    simp only [lookedUp, hasks.1, Option.map_eq_some_iff] at hids
    obtain ⟨id, hid, hcons⟩ := hids
    rw [hid, (List.cons.inj hcons).1]
  simp only [previewDispatch, hasks.1] at hdispatch
  let port' := answering port factorId w.call.body.gwpSet b
  have hport' : AdapterPort w.catalog w.adapterTenant port' := adapterPort_answering h.adapter hb
  have hfinds' : FindsFactor port' w.call.body factorId (rowToFactorRecord c) :=
    findsFactor_answering.mpr hc.finds
  obtain ⟨p₀, hp₀, -, htco2e⟩ := cat1_preview w.print hlabel hc.finds
  obtain rfl : p₀ = p := Except.ok.inj (hp₀.symm.trans hdispatch)
  obtain ⟨p', hp', hid', htco2e'⟩ := cat1_preview w.print hlabel hfinds'
  have hpreview' : computePreview w.print port' (some w.sites) w.call.tenantId w.call.body =
      .ok p' := by
    refine computePreview_ok_iff.mpr ⟨hscope, hsite, ?_⟩
    simp only [previewDispatch, hasks.1, hp']
  have hcode : p'.factorId = factorId := hid'.trans hc.newest.2.1.2.1
  have hstores : w.Stores port' p' c.id := h.other hport' hpreview' (hcode ▸ hkey)
    (htco2e'.trans htco2e.symm) (List.mem_map_of_mem hc.newest.1)
  obtain ⟨d, hd⟩ := hstores.reported hids
  have hmemo : p'.co2BiogenicTonne.isSome = true := by
    rw [hd.reports.memo, memoShare, if_pos (And.intro hasks.1 hasks.2),
      getBiogenicShare_answering]
    exact Option.isSome_iff_ne_none.mpr hshare
  obtain ⟨e, he, htrue⟩ := hall _ _ _ hstores
  obtain rfl : e = c := w.catalog.row_unique he hc.newest.1 htrue.id
  have hshared : port'.get e.factorId w.call.body.gwpSet none = .ok (rowToFactorRecord e) :=
    htrue.shared hmemo
  rw [hc.newest.2.1.2.1] at hshared
  have hanswer : port'.get factorId w.call.body.gwpSet none = .ok (rowToFactorRecord b) :=
    if_pos ⟨rfl, rfl, rfl⟩
  have hrecord := Except.ok.inj (hanswer.symm.trans hshared)
  exact eq_of_record hb.1 he hrecord

/-- Truthfulness of every row that may be stored needs a sole source. -/
theorem sole_of_truthful (htenant : w.adapterTenant = w.call.tenantId)
    (hall : ∀ port p factorUuid, w.Stores port p factorUuid → w.RowTruthful port p factorUuid)
    (h : w.Stores port p factorUuid) :
    ∃ factorId ids c, lookedUp w.call.body w.country = some (factorId :: ids) ∧
      w.SoleSource factorId c := by
  obtain ⟨c, hc, htrue⟩ := hall _ _ _ h
  obtain ⟨factorId, ids, hids, hrep⟩ := reported_of_truthful h hc htrue
  have hsel := hrep.newest.2.1
  rw [htenant] at hsel
  -- whichever newest row gives the key, the stored row must point to the reported one
  have hnewest : ∀ k, Newest w.catalog.rows (CatalogRow.Coded w.call.tenantId factorId
      w.call.body.gwpSet) k → k = c := by
    intro k hk
    have hstores : w.Stores port p k.id := h.other h.adapter h.preview
      (hrep.code.symm ▸ .found hk) rfl (List.mem_map_of_mem hk.1)
    obtain ⟨d, hd, hdtrue⟩ := hall _ _ _ hstores
    obtain ⟨factorId', ids', hids', hdrep⟩ := reported_of_truthful hstores hd hdtrue
    obtain ⟨rfl, -⟩ := List.cons.inj (Option.some.inj (hids'.symm.trans hids))
    have hrecord := Except.ok.inj (hdrep.finds.symm.trans hrep.finds)
    rw [← eq_of_record hd hc hrecord]
    exact (w.catalog.row_unique hd hk.1 hdtrue.id).symm
  obtain ⟨k, hk⟩ := exists_newest hc hsel.coded
  obtain rfl : k = c := hnewest k hk
  refine ⟨factorId, ids, k, hids, hc, hsel, fun s hs hcoded hne => ?_, fun hasks => ?_⟩
  · refine lt_of_le_of_ne (hk.2.2 s hs hcoded) fun heq => hne (hnewest s ⟨hs, hcoded, ?_⟩)
    intro t ht htcoded
    rw [heq]
    exact hk.2.2 t ht htcoded
  · by_contra hmemo
    obtain ⟨hclosed, hmany⟩ := not_or.mp hmemo
    obtain ⟨b, hb⟩ := not_forall.mp hmany
    obtain ⟨hb, hshare⟩ := Classical.not_imp.mp hb
    obtain rfl : b = k :=
      memo_of_truthful hall h hids hrep (.found hk) hasks (htenant ▸ hb) hshare
    exact hclosed hb.2.1.2.2.2.2

/-! ### The adapter of another tenant -/

/-- With the adapter of another tenant a row can only be truthful by accident: the caller has no row
under the code, so the key falls back to the nil UUID, and that is the key of the row the adapter
finds. -/
structure NilSource (w : InsertSetting) (factorId : String) (c : CatalogRow) : Prop where
  mem : c ∈ w.catalog.rows
  id : c.id = nilUuid
  unkeyed : ∀ r ∈ w.catalog.rows, ¬ r.Coded w.call.tenantId factorId w.call.body.gwpSet
  found : ∀ port p factorUuid, w.Stores port p factorUuid →
    FindsFactor port w.call.body factorId (rowToFactorRecord c)
  memo : w.AsksShare factorId → ∀ b, Newest w.catalog.rows (CatalogRow.Selected w.adapterTenant
    factorId w.call.body.gwpSet none) b → b.biogenicCo2KgPerUnit ≠ none → b = c

theorem truthful_of_nil {factorId : String} {ids : List String}
    (hids : lookedUp w.call.body w.country = some (factorId :: ids)) {c : CatalogRow}
    (hnil : w.NilSource factorId c) (h : w.Stores port p factorUuid) :
    w.RowTruthful port p factorUuid := by
  obtain ⟨d, hd⟩ := h.reported hids
  have hrecord := Except.ok.inj (hd.finds.symm.trans (hnil.found port p factorUuid h))
  obtain rfl : d = c := eq_of_record hd.newest.1 hnil.mem hrecord
  have hkey := h.key
  rw [hd.code] at hkey
  refine truthful_of_reported hids h.adapter hd ?_ hnil.memo
  cases hkey with
  | @found k hk => exact absurd hk.2.1 (hnil.unkeyed k hk.1)
  | fallback _ => exact hnil.id

/-- A truthful row of another tenant's adapter has the nil UUID, as the caller has no key. -/
theorem nil_of_other_tenant (htenant : w.adapterTenant ≠ w.call.tenantId) {factorId : String}
    (h : w.Stores port p factorUuid) {c : CatalogRow} (hc : Reported w port p factorId c)
    (hid : c.id = factorUuid) : factorUuid = nilUuid ∧
      ∀ r ∈ w.catalog.rows, ¬ r.Coded w.call.tenantId factorId w.call.body.gwpSet := by
  have hkey := h.key
  rw [hc.code] at hkey
  cases hkey with
  | @found k hk =>
      obtain rfl : c = k := w.catalog.row_unique hc.newest.1 hk.1 hid
      exact absurd (hc.newest.2.1.1.symm.trans hk.2.1.1) htenant
  | fallback hnone => exact ⟨rfl, hnone⟩

theorem nilSource_of_truthful (htenant : w.adapterTenant ≠ w.call.tenantId)
    (hall : ∀ port p factorUuid, w.Stores port p factorUuid → w.RowTruthful port p factorUuid)
    (h : w.Stores port p factorUuid) :
    ∃ factorId ids c, lookedUp w.call.body w.country = some (factorId :: ids) ∧
      w.NilSource factorId c := by
  obtain ⟨c, hc, htrue⟩ := hall _ _ _ h
  obtain ⟨factorId, ids, hids, hrep⟩ := reported_of_truthful h hc htrue
  obtain ⟨hnil, hunkeyed⟩ := nil_of_other_tenant htenant h hrep htrue.id
  have hid : c.id = nilUuid := htrue.id.trans hnil
  refine ⟨factorId, ids, c, hids, hc, hid, hunkeyed, fun port' p' factorUuid' h' => ?_,
    fun hasks b hb hshare => ?_⟩
  · obtain ⟨d, hd, hdtrue⟩ := hall _ _ _ h'
    obtain ⟨factorId', ids', hids', hdrep⟩ := reported_of_truthful h' hd hdtrue
    obtain ⟨rfl, -⟩ := List.cons.inj (Option.some.inj (hids'.symm.trans hids))
    obtain ⟨hnil', -⟩ := nil_of_other_tenant htenant h' hdrep hdtrue.id
    obtain rfl : d = c := w.catalog.row_unique hd hc ((hdtrue.id.trans hnil').trans hid.symm)
    exact hdrep.finds
  · exact memo_of_truthful hall h hids hrep (hid ▸ .fallback hunkeyed) hasks hb hshare

/-- The reported factor and the key cannot come apart. -/
def Unmistakable (w : InsertSetting) (factorId : String) (c : CatalogRow) : Prop :=
  (w.adapterTenant = w.call.tenantId ∧ w.SoleSource factorId c) ∨
    (w.adapterTenant ≠ w.call.tenantId ∧ w.NilSource factorId c)

theorem truthful_iff :
    (∀ port p factorUuid, w.Stores port p factorUuid → w.RowTruthful port p factorUuid) ↔
      ((∃ port p factorUuid, w.Stores port p factorUuid) →
        ∃ factorId ids c, lookedUp w.call.body w.country = some (factorId :: ids) ∧
          w.Unmistakable factorId c) := by
  constructor
  · rintro hall ⟨port, p, factorUuid, h⟩
    by_cases htenant : w.adapterTenant = w.call.tenantId
    · obtain ⟨factorId, ids, c, hids, hc⟩ := sole_of_truthful htenant hall h
      exact ⟨factorId, ids, c, hids, .inl ⟨htenant, hc⟩⟩
    · obtain ⟨factorId, ids, c, hids, hc⟩ := nilSource_of_truthful htenant hall h
      exact ⟨factorId, ids, c, hids, .inr ⟨htenant, hc⟩⟩
  · intro hsource port p factorUuid h
    obtain ⟨factorId, ids, c, hids, ⟨htenant, hc⟩ | ⟨-, hc⟩⟩ := hsource ⟨port, p, factorUuid, h⟩
    · exact truthful_of_sole htenant hids hc h
    · exact truthful_of_nil hids hc h

end InsertSetting

/-! ## The batch run -/

section Batch

open CalcOrchestrator

variable {port : FactorCatalogPort} {gwp : GwpValues} {inputs : CalcRunInputs} {a : EmissionArgs}

/-- The factor a line carries came out of the catalog. -/
def Looked (port : FactorCatalogPort) (gwp : GwpValues) (a : EmissionArgs) : Prop :=
  ∃ factorId, port.get factorId gwp.code none = .ok a.factor

theorem looked_of_found {factorId : String} (h : Found port gwp.code factorId)
    (hfactor : a.factor = factorOf port gwp.code factorId) : Looked port gwp a :=
  ⟨factorId, hfactor ▸ h.get⟩

/-- Every line but the zero-lines carries a factor of the catalog. -/
theorem looked_of_mem (hready : RunReady port gwp inputs) {u : SubScope}
    (h : a ∈ linesOf port gwp inputs u) (hzero : u.isZeroLine = false) : Looked port gwp a := by
  obtain ⟨factorId, hfactor, hfound⟩ := (lineSpec_of_mem h).sourced hzero
  exact looked_of_found (hfound hready) hfactor

/-- The factor of a zero-line has no catalog row. -/
theorem factorDbId_of_zeroLine {u : SubScope} (h : a ∈ linesOf port gwp inputs u)
    (hzero : u.isZeroLine = true) : a.factor.factorDbId = none := by
  cases u
  case fugitive =>
    obtain ⟨site, -, rfl⟩ := List.mem_map.mp h
    rfl
  case cat8Zero | cat10Zero | cat11Zero | cat13Zero | cat14Zero | cat15Zero =>
    rw [List.mem_singleton.mp h]
    rfl
  all_goals exact absurd hzero (by decide)

theorem recorded_of_makeEmission {ctx : RunContext} {r : EmissionRecord}
    (h : makeEmission ctx a = .ok r) :
    r.factorVersion = a.factor.version ∧ r.factorSource = a.factor.source := by
  unfold makeEmission at h
  split_ifs at h
  cases h
  exact ⟨rfl, rfl⟩

variable {db : Database} {spec : RunSpec} {t t' : EmissionsTable} {records : List EmissionRecord}

/-- The ledger row was written for the line. -/
structure WrittenFor (port : FactorCatalogPort) (db : Database) (spec : RunSpec)
    (a : EmissionArgs) (row : EmissionRow) : Prop where
  line : a ∈ runArgs port (getGwpValues spec.gwpSet) (runInputs db spec)
  record : ∃ r id, makeEmission (commonCtx (runInputs db spec)) a = .ok r ∧
    row = emissionToParams spec.tenantId db.clock id r

/-- A row of a batch run is truthful to the factor of its line, whose record is also the one its
share is read from. -/
def BatchTruthful (port : FactorCatalogPort) (db : Database) (spec : RunSpec) (row : EmissionRow) :
    Prop :=
  ∃ a, WrittenFor port db spec a row ∧ ∃ c ∈ db.catalog.rows,
    TruthfulTo (· = a.factor)
      (fun f => port.get f.factorId (getGwpValues spec.gwpSet).code none = .ok f) row c

theorem batchTruthful_iff_of_line (hport : AdapterPort db.catalog spec.tenantId port)
    (hready : RunReady port (getGwpValues spec.gwpSet) (runInputs db spec)) {row : EmissionRow}
    (ha : WrittenFor port db spec a row) :
    BatchTruthful port db spec row ↔ row.subScope.isZeroLine = false := by
  constructor
  · rintro ⟨a', ha', c, hc, htrue⟩
    obtain ⟨u, hu⟩ := mem_runArgs.mp ha'.line
    obtain ⟨r, id, hr, rfl⟩ := ha'.record
    have hsub : r.subScope = u := (builtFrom_of_makeEmission hr).subScope.trans
      (marked_of_mem hu).subScope
    by_contra hzero
    have hline : u.isZeroLine = true := by
      rw [← hsub]
      exact eq_true_of_ne_false hzero
    have hnone := factorDbId_of_zeroLine hu hline
    rw [← htrue.multiplied] at hnone
    cases hnone
  · intro hzero
    refine ⟨a, ha, ?_⟩
    obtain ⟨u, hu⟩ := mem_runArgs.mp ha.line
    obtain ⟨r, id, hr, rfl⟩ := ha.record
    have hsub : r.subScope = u := (builtFrom_of_makeEmission hr).subScope.trans
      (marked_of_mem hu).subScope
    obtain ⟨factorId, hget⟩ := looked_of_mem hready hu (hsub ▸ hzero)
    have hresult := hport.get factorId (getGwpValues spec.gwpSet).code none
    rw [hget] at hresult
    generalize hfactor : a.factor = f at hget hresult
    cases hresult with
    | @found c hc =>
        obtain ⟨hversion, hsource⟩ := recorded_of_makeEmission hr
        have hid := (builtFrom_of_makeEmission hr).factorIdUuid
        rw [hfactor] at hversion hsource hid
        refine ⟨c, hc.1, ⟨?_, hc.2.1.2.2.2.1, rfl, hversion.symm, hsource.symm, fun _ => ?_⟩⟩
        · simp [emissionToParams, hid, rowToFactorRecord]
        · rw [show (rowToFactorRecord c).factorId = factorId from hc.2.1.2.1]
          exact hget

/-- The new rows of a run are truthful but for the zero-lines. -/
theorem batchTruthful_iff (hport : AdapterPort db.catalog spec.tenantId port)
    (hrun : CalcOrchestrator.run port (getGwpValues spec.gwpSet) (runInputs db spec) = .ok records)
    (hinsert : insertEmissions db spec.tenantId t records = .ok t') {row : EmissionRow}
    (hrow : row ∈ t'.rows) (hnew : row ∉ t.rows) :
    BatchTruthful port db spec row ↔ row.subScope.isZeroLine = false := by
  have hplan := run_plan port (getGwpValues spec.gwpSet) (runInputs db spec)
  rw [insertEmissions_stores hinsert] at hrow
  obtain ⟨r, hr, id, -, rfl⟩ := mem_emissionParams ((List.mem_append.mp hrow).resolve_left hnew)
  obtain ⟨a, ha, hbuild⟩ := (mem_built (hplan.builds records hrun)).mp hr
  exact batchTruthful_iff_of_line hport (hplan.succeeds.mp ⟨records, hrun⟩).1
    ⟨ha, r, id, hbuild, rfl⟩

theorem exists_zeroLine_row
    (hrun : CalcOrchestrator.run port (getGwpValues spec.gwpSet) (runInputs db spec) = .ok records)
    (hinsert : insertEmissions db spec.tenantId t records = .ok t') :
    ∃ row ∈ t'.rows, row ∉ t.rows ∧ row.subScope.isZeroLine = true := by
  have hplan := run_plan port (getGwpValues spec.gwpSet) (runInputs db spec)
  let a := Scope3Cat11ZeroLine.line (getGwpValues spec.gwpSet) (runInputs db spec).anno
  have ha : a ∈ runArgs port (getGwpValues spec.gwpSet) (runInputs db spec) :=
    mem_runArgs.mpr ⟨.cat11Zero, List.mem_singleton.mpr rfl⟩
  obtain ⟨r, hbuild⟩ := (hplan.succeeds.mp ⟨records, hrun⟩).2 a ha
  have hr : r ∈ records := (mem_built (hplan.builds records hrun)).mpr ⟨a, ha, hbuild⟩
  obtain ⟨id, hid, hmem⟩ := exists_emissionParams spec.tenantId db.clock t.freshId hr
  refine ⟨emissionToParams spec.tenantId db.clock id r, ?_, fun hold => ?_, ?_⟩
  · rw [insertEmissions_stores hinsert]
    exact List.mem_append_right _ hmem
  · have hlt : id < t.freshId := EmissionsTable.lt_freshId hold
    exact absurd hid (Nat.not_le_of_lt hlt)
  · rw [show (emissionToParams spec.tenantId db.clock id r).subScope = a.subScope from
      (builtFrom_of_makeEmission hbuild).subScope]
    rfl

/-! ### What the factor is multiplied with -/

/-- The tonnes that the factor of a line prices: the CO2 of a fuel, and all of any other line. -/
def EmissionArgs.factorTonnes (a : EmissionArgs) : ℚ :=
  if a.subScope = .combustion then a.co2FossilTonne.getD 0 else a.tco2e

def EmissionRow.factorTonnes (row : EmissionRow) : ℚ :=
  if row.subScope = .combustion then row.co2FossilTonne.getD 0 else row.tco2e

/-- `x` is what the factor of a line is multiplied with: the quantity of the raw row it names, or the
sum of the fuel or the electricity of a year, in thousands of the unit. -/
def AmountOf (gwp : GwpValues) (inputs : CalcRunInputs) (rawRowId : Option Uuid) (x : ℚ) :
    SubScope → Prop
  | .combustion => ∃ row ∈ inputs.scope1Rows, rawRowId = some row.id ∧ x = row.quantita * kgToTonne
  | .process => ∃ row ∈ inputs.scope1Rows, rawRowId = some row.id ∧ x = row.quantita * gwp.co2
  | .lb => ∃ row ∈ inputs.scope2Rows, rawRowId = some row.id ∧ x = row.quantita * kgToTonne
  | .mb => ∃ row ∈ inputs.scope2Rows, rawRowId = some row.id ∧
      x = if row.strumentoMb = some Scope2Mb.goInstrumentLabel then 0
        else row.quantita * kgToTonne
  | .cat3WttFuel => rawRowId = none ∧ ∃ key,
      x = ((sigmaScope1FromRows inputs.scope1Rows).lookup key).getD 0 * kgToTonne
  | .cat3WttElec | .cat3Tnd => rawRowId = none ∧ ∃ anno,
      x = ((sigmaScope2FromRows inputs.scope2Rows).lookup anno).getD 0 * kgToTonne
  | .cat12 => ∃ row ∈ inputs.scope3Rows, rawRowId = some row.id ∧
      (x = row.quantita * Scope3Cat12Eol.landfillFraction * kgToTonne ∨
        x = row.quantita * Scope3Cat12Eol.recycleFraction * kgToTonne)
  | .fugitive | .cat8Zero | .cat10Zero | .cat11Zero | .cat13Zero | .cat14Zero | .cat15Zero =>
      rawRowId = none ∧ x = 0
  | .cat1 | .cat2 | .cat4 | .cat5 | .cat6 | .cat7 | .cat9 =>
      ∃ row ∈ inputs.scope3Rows, rawRowId = some row.id ∧ x = row.quantita * kgToTonne

/-- The line is its factor times the amount of its raw row. -/
def Priced (gwp : GwpValues) (inputs : CalcRunInputs) (u : SubScope) (a : EmissionArgs) : Prop :=
  ∃ x, AmountOf gwp inputs a.rawRowId x u ∧ a.factorTonnes = a.factor.valueOrZero * x

theorem priced_scope3 {m : Methodology} {row : RawScope3Row} {factor : FactorRecord} {u : SubScope}
    (hrow : row ∈ inputs.scope3Rows)
    (hu : ∀ rawRowId x, AmountOf gwp inputs rawRowId x u = ∃ row ∈ inputs.scope3Rows,
      rawRowId = some row.id ∧ x = row.quantita * kgToTonne) (hfuel : u ≠ .combustion) :
    Priced gwp inputs u (scope3Args u m gwp row factor row.quantita) := by
  refine ⟨row.quantita * kgToTonne, ?_, ?_⟩
  · rw [hu]
    exact ⟨row, hrow, rfl, rfl⟩
  · exact (if_neg hfuel).trans (mul_assoc _ _ _)

theorem priced_of_mem {u : SubScope} (h : a ∈ linesOf port gwp inputs u) :
    Priced gwp inputs u a := by
  have label : ∀ m : LabelModule, (∀ rawRowId x, AmountOf gwp inputs rawRowId x m.subScope =
      ∃ row ∈ inputs.scope3Rows, rawRowId = some row.id ∧ x = row.quantita * kgToTonne) →
      m.subScope ≠ .combustion → a ∈ inputs.scope3Rows.flatMap (m.rowArgs port gwp) →
        Priced gwp inputs m.subScope a := by
    intro m hu hfuel ha
    obtain ⟨row, hrow, ha⟩ := List.mem_flatMap.mp ha
    unfold LabelModule.rowArgs at ha
    split at ha
    · cases ha
    · rw [List.mem_singleton.mp ha]
      exact priced_scope3 hrow hu hfuel
  cases u
  case combustion =>
    obtain ⟨row, hrow, ha⟩ := List.mem_flatMap.mp h
    unfold Scope1Combustion.rowArgs at ha
    split at ha
    · cases ha
    · rw [List.mem_singleton.mp ha]
      exact ⟨_, ⟨row, hrow, rfl, rfl⟩, mul_assoc _ _ _⟩
  case process =>
    obtain ⟨row, hrow, ha⟩ := List.mem_flatMap.mp h
    unfold Scope1Process.rowArgs at ha
    split_ifs at ha
    · rw [List.mem_singleton.mp ha]
      exact ⟨_, ⟨row, hrow, rfl, rfl⟩, mul_assoc _ _ _⟩
    · cases ha
  case lb =>
    obtain ⟨row, hrow, rfl⟩ := List.mem_map.mp h
    exact ⟨_, ⟨row, hrow, rfl, rfl⟩, mul_assoc _ _ _⟩
  case mb =>
    obtain ⟨row, hrow, rfl⟩ := List.mem_map.mp h
    unfold Scope2Mb.rowArgs
    split_ifs with hgo
    · exact ⟨0, ⟨row, hrow, rfl, (if_pos hgo).symm⟩, (mul_zero _).symm⟩
    · exact ⟨_, ⟨row, hrow, rfl, (if_neg hgo).symm⟩, mul_assoc _ _ _⟩
  case cat1 =>
    obtain ⟨row, hrow, ha⟩ := List.mem_flatMap.mp h
    unfold Scope3Cat1PurchasedGoods.rowArgs at ha
    split at ha
    · cases ha
    · rw [List.mem_singleton.mp ha]
      exact ⟨_, ⟨row, hrow, rfl, rfl⟩, mul_assoc _ _ _⟩
  case cat3WttFuel =>
    obtain ⟨key, -, ha⟩ := List.mem_flatMap.mp h
    unfold Scope3Cat3FuelEnergy.fuelArgs at ha
    split at ha
    · cases ha
    · rw [List.mem_singleton.mp ha]
      exact ⟨_, ⟨rfl, key, rfl⟩, mul_assoc _ _ _⟩
  case cat3WttElec | cat3Tnd =>
    obtain ⟨anno, -, rfl⟩ := List.mem_map.mp h
    exact ⟨_, ⟨rfl, anno, rfl⟩, mul_assoc _ _ _⟩
  case cat7 =>
    obtain ⟨row, hrow, ha⟩ := List.mem_flatMap.mp h
    unfold Scope3Cat7Commuting.rowArgs at ha
    split_ifs at ha
    · rw [List.mem_singleton.mp ha]
      exact priced_scope3 hrow (fun _ _ => rfl) SubScope.noConfusion
    · cases ha
  case cat12 =>
    obtain ⟨row, hrow, ha⟩ := List.mem_flatMap.mp h
    unfold Scope3Cat12Eol.rowArgs at ha
    split_ifs at ha
    · simp only [List.mem_cons, List.not_mem_nil, or_false] at ha
      rcases ha with rfl | rfl
      · exact ⟨_, ⟨row, hrow, rfl, .inl rfl⟩, mul_assoc _ _ _⟩
      · exact ⟨_, ⟨row, hrow, rfl, .inr rfl⟩, mul_assoc _ _ _⟩
    · cases ha
  case cat2 => exact label _ (fun _ _ => rfl) SubScope.noConfusion h
  case cat4 => exact label _ (fun _ _ => rfl) SubScope.noConfusion h
  case cat5 => exact label _ (fun _ _ => rfl) SubScope.noConfusion h
  case cat6 => exact label _ (fun _ _ => rfl) SubScope.noConfusion h
  case cat9 => exact label _ (fun _ _ => rfl) SubScope.noConfusion h
  case fugitive =>
    obtain ⟨site, -, rfl⟩ := List.mem_map.mp h
    exact ⟨0, ⟨rfl, rfl⟩, (mul_zero _).symm⟩
  all_goals
    rw [List.mem_singleton.mp h]
    exact ⟨0, ⟨rfl, rfl⟩, (mul_zero _).symm⟩

/-- A truthful row of a batch run is the value of the catalog row it points to, times the amount of
the raw row it names. -/
theorem BatchTruthful.priced {row : EmissionRow} (h : BatchTruthful port db spec row) :
    ∃ c ∈ db.catalog.rows, c.id = row.factorId ∧ ∃ rawRowId x,
      AmountOf (getGwpValues spec.gwpSet) (runInputs db spec) rawRowId x row.subScope ∧
        row.rawRowId = rawRowId.getD nilUuid ∧
        row.factorTonnes = (rowToFactorRecord c).valueOrZero * x := by
  obtain ⟨a, ⟨hline, r, id, hr, rfl⟩, c, hc, htrue⟩ := h
  obtain ⟨u, hu⟩ := mem_runArgs.mp hline
  obtain ⟨x, hamount, htonnes⟩ := priced_of_mem hu
  have hbuilt := builtFrom_of_makeEmission hr
  have hsub : r.subScope = u := hbuilt.subScope.trans (marked_of_mem hu).subScope
  refine ⟨c, hc, htrue.id, a.rawRowId, x, ?_, ?_, ?_⟩
  · change AmountOf _ _ _ _ r.subScope
    rwa [hsub]
  · change r.rawRowId.getD nilUuid = _
    rw [hbuilt.rawRowId]
  · have hsame : (emissionToParams spec.tenantId db.clock id r).factorTonnes = a.factorTonnes := by
      change (if r.subScope = .combustion then r.co2FossilTonne.getD 0 else r.tco2e) = _
      rw [hbuilt.subScope, hbuilt.tco2e, (amountsFrom_of_makeEmission hr).co2FossilTonne]
      rfl
    rw [hsame, htonnes, htrue.multiplied]

end Batch

/-- When the stored rows are truthful: for the auto-calc insert, when the request is not entered
directly and its reported factor and its key cannot come apart; for a batch run, the zero-lines
apart. -/
theorem rows_truthful_iff (w : InsertSetting) :
    ((∀ port p factorUuid, w.Stores port p factorUuid → w.RowTruthful port p factorUuid) ↔
      ((∃ port p factorUuid, w.Stores port p factorUuid) →
        ∃ factorId ids c, lookedUp w.call.body w.country = some (factorId :: ids) ∧
          w.Unmistakable factorId c)) ∧
    ∀ (db : Database) (spec : RunSpec) (port : FactorCatalogPort) (t t' : EmissionsTable)
      (records : List EmissionRecord), AdapterPort db.catalog spec.tenantId port →
      CalcOrchestrator.run port (getGwpValues spec.gwpSet) (runInputs db spec) = .ok records →
      insertEmissions db spec.tenantId t records = .ok t' →
        (∀ row ∈ t'.rows, row ∉ t.rows →
          (BatchTruthful port db spec row ↔ row.subScope.isZeroLine = false)) ∧
        ¬ ∀ row ∈ t'.rows, row ∉ t.rows → BatchTruthful port db spec row := by
  refine ⟨InsertSetting.truthful_iff, fun db spec port t t' records hport hrun hinsert =>
    ⟨fun row hrow hnew => batchTruthful_iff hport hrun hinsert hrow hnew, fun hall => ?_⟩⟩
  obtain ⟨row, hrow, hnew, hzero⟩ := exists_zeroLine_row hrun hinsert
  have htrue := (batchTruthful_iff hport hrun hinsert hrow hnew).mp (hall row hrow hnew)
  rw [hzero] at htrue
  cases htrue

/-- A commuting insert of tenant 1 into an empty ledger. -/
def commutingSetting (catalog : FactorCatalog) : InsertSetting where
  print := plainPrinting
  catalog := catalog
  adapterTenant := 1
  sites := []
  ledger := EmissionsTable.empty
  call := ⟨1, "editor", none, commutingRequest "commuting_auto", .drawn 1⟩
  draws := ⟨1, 1, 0⟩

theorem rows_truthful_iff_examples :
    (∀ port p factorUuid, (commutingSetting commutingCatalog).Stores port p factorUuid →
      (commutingSetting commutingCatalog).RowTruthful port p factorUuid) ∧
    ∃ records t', orchestrate (blankDatabase nilFactorCatalog) (csrdTrack 1 2024 (.drawn 1)) =
        .ok records ∧
      insertEmissions (blankDatabase nilFactorCatalog) 1 EmissionsTable.empty records = .ok t' ∧
      ¬ ∀ row ∈ t'.rows, row ∉ EmissionsTable.empty.rows →
        BatchTruthful (sqlFactorCatalogAdapter nilFactorCatalog 1) (blankDatabase nilFactorCatalog)
          (csrdTrack 1 2024 (.drawn 1)) row := by
  constructor
  · refine (rows_truthful_iff (commutingSetting commutingCatalog)).1.mpr fun _ => ?_
    refine ⟨Scope3Cat7Commuting.factorId, [],
      publishedRow 1 Scope3Cat7Commuting.factorId "kg CO2e / km" .ar6 (17 / 100), rfl, .inl ⟨rfl,
      List.mem_singleton.mpr rfl, ⟨rfl, rfl, rfl, rfl, by decide⟩, ?_, fun _ => .inl rfl⟩⟩
    intro s hs _ hne
    exact absurd (List.mem_singleton.mp hs) hne
  · have hinserts : (orchestrate (blankDatabase nilFactorCatalog)
        (csrdTrack 1 2024 (.drawn 1))).toOption.map (fun records =>
          (insertEmissions (blankDatabase nilFactorCatalog) 1 EmissionsTable.empty
            records).toBool) = some true := by
      decide +kernel
    obtain ⟨records, hrecords, htable⟩ := Option.map_eq_some_iff.mp hinserts
    obtain ⟨t', ht'⟩ := exists_ok_of_toBool htable
    have hrun := toOption_eq_some_iff.mp hrecords
    exact ⟨records, t', hrun, ht', ((rows_truthful_iff (commutingSetting commutingCatalog)).2 _ _ _
      _ _ records (adapterPort_sql nilFactorCatalog 1) hrun ht').2⟩

/-- The published factor of 2025, and a newer draft under its code. -/
def draftCatalog : FactorCatalog :=
  ⟨[publishedRow 1 Scope3Cat7Commuting.factorId "kg CO2e / km" .ar6 (17 / 100),
    { publishedRow 2 Scope3Cat7Commuting.factorId "kg CO2e / km" .ar6 (9 / 10) with
      version := "2026", vintage := some "2026", validFrom := 1, isPublished := false }],
    by decide, by decide⟩

/-- The stored row points to the draft. -/
theorem draft_is_pointed_to :
    ∃ port p, (commutingSetting draftCatalog).Stores port p 2 ∧ p.factorVersion = "2025" ∧
      ¬ (commutingSetting draftCatalog).RowTruthful port p 2 := by
  have hpreview : (computePreview plainPrinting (sqlFactorCatalogAdapter draftCatalog 1) (some [])
      1 (commutingRequest "commuting_auto")).toOption.map (fun p =>
        ((p.factorId, p.factorVersion), (EmissionsTable.insert draftCatalog EmissionsTable.empty
          (insertedRow (commutingSetting draftCatalog).call
            (commutingSetting draftCatalog).draws p 2)).toBool)) =
      some ((Scope3Cat7Commuting.factorId, "2025"), true) := by
    decide +kernel
  obtain ⟨p, hp, hfacts⟩ := Option.map_eq_some_iff.mp hpreview
  simp only [Prod.mk.injEq] at hfacts
  obtain ⟨⟨hcode, hversion⟩, hinsert⟩ := hfacts
  have hnewest : Newest draftCatalog.rows (CatalogRow.Coded 1 Scope3Cat7Commuting.factorId .ar6)
      (draftCatalog.rows.get ⟨1, by decide⟩) := by
    have hlatest : ∀ s ∈ draftCatalog.rows, s.validFrom ≤ 1 := by decide
    exact ⟨List.get_mem _ _, ⟨rfl, rfl, rfl⟩, fun s hs _ => hlatest s hs⟩
  refine ⟨_, p, ⟨adapterPort_sql draftCatalog 1, toOption_eq_some_iff.mp hp, ?_,
    exists_ok_of_toBool hinsert⟩, hversion, ?_⟩
  · rw [hcode]
    exact .found hnewest
  · rintro ⟨c, hc, htrue⟩
    have hdraft : c = draftCatalog.rows.get ⟨1, by decide⟩ :=
      draftCatalog.row_unique hc (List.get_mem _ _) htrue.id
    have hpublished := htrue.published
    rw [hdraft] at hpublished
    cases hpublished

end GhgTool
