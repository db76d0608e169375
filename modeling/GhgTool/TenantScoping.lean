import GhgTool.Provenance

/-!
# Whose catalog the API computes with

`get_factor_catalog` builds the adapter without the user of the request: it filters by a sentinel
tenant, the nil UUID, over a connection of its own on which no tenant is set, so row-level security
shows it nothing unless the role bypasses it. The rest of a request knows the tenant.
-/

namespace GhgTool

/-- What does not depend on the request: `answers` is how the database answers an adapter of a
tenant, ties included. -/
structure CalcApi where
  print : Printing
  sites : List RefSite
  bypassesRls : Bool
  answers : FactorCatalog → Uuid → FactorCatalogPort

def FactorCatalog.empty : FactorCatalog :=
  ⟨[], by simp, by simp⟩

/-- The catalog as a connection sees it on which `app.tenant_id` is not set. -/
def CalcApi.visible (api : CalcApi) (catalog : FactorCatalog) : FactorCatalog :=
  if api.bypassesRls then catalog else FactorCatalog.empty

/-- The dependency of both endpoints. -/
def getFactorCatalog (api : CalcApi) (catalog : FactorCatalog) : FactorCatalogPort :=
  api.answers (api.visible catalog) nilUuid

inductive CalcEndpoint
  | preview | insert
  deriving DecidableEq

section Serve

variable (api : CalcApi) (endpoint : CalcEndpoint) (catalog : FactorCatalog)
  (ledger : EmissionsTable) (call : InsertCall) (draws : InsertDraws)

/-- A request without an idempotency key, computed with the factors of `port`; nothing for an error
response. -/
def serve (port : FactorCatalogPort) : Option CalcPreviewResponse := do
  let p ← (computePreview api.print port (some api.sites) call.tenantId call.body).toOption
  match endpoint with
  | .preview => return p
  | .insert =>
    let factorUuid := resolveFactorUuid catalog call.tenantId p.factorId call.body.gwpSet
    let _ ← (EmissionsTable.insert catalog ledger
      (insertedRow call draws p factorUuid)).toOption
    return p

end Serve

/-- The request succeeds whenever it does with the caller's own catalog, and returns what that
catalog gives. -/
def TenantScoped (api : CalcApi) (endpoint : CalcEndpoint) (call : InsertCall) : Prop :=
  ∀ catalog ledger draws, (∃ r ∈ catalog.rows, r.tenantId = call.tenantId ∧ r.isPublished = true) →
    let own := serve api endpoint catalog ledger call draws (api.answers catalog call.tenantId)
    let served := serve api endpoint catalog ledger call draws (getFactorCatalog api catalog)
    (own.isSome → served.isSome) ∧ ∀ p, served = some p → own = some p

def CalcApi.countryOf (api : CalcApi) (call : InsertCall) : String :=
  GhgTool.countryOf (siteMetaOf (some api.sites) call.tenantId call.body)

/-- The request is computed from a factor, and nothing else stands in its way. -/
structure ReachesFactor (api : CalcApi) (endpoint : CalcEndpoint) (call : InsertCall) : Prop where
  factor : ∃ factorId ids, lookedUp call.body (api.countryOf call) = some (factorId :: ids)
  scope : call.body.subScope.scope = call.body.scope
  site : call.body.subScope = .process →
    SiteAllows (siteMetaOf (some api.sites) call.tenantId call.body)
  unit : UnitConverts call.body
  year : endpoint = .insert → 2020 ≤ call.body.anno ∧ call.body.anno ≤ 2099

section Serving

variable {api : CalcApi} {endpoint : CalcEndpoint} {catalog : FactorCatalog}
  {ledger : EmissionsTable} {call : InsertCall} {draws : InsertDraws} {port : FactorCatalogPort}
  {p : CalcPreviewResponse}

theorem serve_eq_some : serve api endpoint catalog ledger call draws port = some p ↔
    computePreview api.print port (some api.sites) call.tenantId call.body = .ok p ∧
      (endpoint = .insert → ∃ ledger', EmissionsTable.insert catalog ledger
        (insertedRow call draws p (resolveFactorUuid catalog call.tenantId p.factorId
          call.body.gwpSet)) = .ok ledger') := by
  unfold serve
  refine Option.bind_eq_some_iff.trans ?_
  simp only [toOption_eq_some_iff]
  constructor
  · rintro ⟨q, hq, h⟩
    cases endpoint with
    | preview =>
        cases h
        exact ⟨hq, fun h => by cases h⟩
    | insert =>
        obtain ⟨ledger', hledger, hp⟩ := Option.bind_eq_some_iff.mp h
        cases hp
        exact ⟨hq, fun _ => ⟨ledger', toOption_eq_some_iff.mp hledger⟩⟩
  · rintro ⟨hp, h⟩
    refine ⟨p, hp, ?_⟩
    cases endpoint with
    | preview => rfl
    | insert =>
        obtain ⟨ledger', hledger⟩ := h rfl
        exact Option.bind_eq_some_iff.mpr ⟨ledger', toOption_eq_some_iff.mpr hledger, rfl⟩

theorem reachesFactor_of_serve (h : serve api endpoint catalog ledger call draws port = some p)
    (hfactor : ∃ factorId ids, lookedUp call.body (api.countryOf call) = some (factorId :: ids)) :
    ReachesFactor api endpoint call := by
  obtain ⟨hpreview, hstored⟩ := serve_eq_some.mp h
  obtain ⟨hscope, hsite, hdispatch⟩ := computePreview_ok_iff.mp hpreview
  refine ⟨hfactor, hscope, hsite, unitConverts_of_preview hdispatch, fun hinsert => ?_⟩
  exact (((EmissionsTable.insertSpec catalog).succeeds _ _).mp (hstored hinsert)).1.1

theorem previewDispatch_direct {print : Printing} {req : CalcInputRequest} {country : String}
    (h : lookedUp req country = some []) (port port' : FactorCatalogPort) :
    previewDispatch print port req country = previewDispatch print port' req country := by
  unfold lookedUp at h
  unfold previewDispatch
  cases hsub : req.subScope
  all_goals simp only [hsub] at h
  case process =>
    cases hmode : req.effectiveMode with
    | directTco2 => simp only [previewS1Process, hmode]
    | caco3Mass => simp [hmode] at h
  all_goals simp at h

theorem serve_direct (h : lookedUp call.body (api.countryOf call) = some [])
    (port port' : FactorCatalogPort) : serve api endpoint catalog ledger call draws port =
      serve api endpoint catalog ledger call draws port' := by
  have hsame : ∀ q, computePreview api.print port (some api.sites) call.tenantId call.body =
      .ok q ↔ computePreview api.print port' (some api.sites) call.tenantId call.body = .ok q := by
    intro q
    rw [computePreview_ok_iff, computePreview_ok_iff]
    exact and_congr_right fun _ => and_congr_right fun _ =>
      iff_of_eq (congrArg (· = .ok q) (previewDispatch_direct h port port'))
  refine Option.ext fun q => ?_
  rw [serve_eq_some, serve_eq_some, hsame]

theorem exists_lookedUp (h : serve api endpoint catalog ledger call draws port = some p) :
    ∃ ids, lookedUp call.body (api.countryOf call) = some ids := by
  obtain ⟨ids, hids, -⟩ := preview_spec (computePreview_ok_iff.mp (serve_eq_some.mp h).1).2.2
  exact ⟨ids, hids⟩

/-- A request that reaches no factor is served alike from all catalogs. -/
theorem serve_congr (h : ¬ ReachesFactor api endpoint call) (port port' : FactorCatalogPort)
    (hserved : serve api endpoint catalog ledger call draws port = some p) :
    serve api endpoint catalog ledger call draws port' = some p := by
  obtain ⟨ids, hids⟩ := exists_lookedUp hserved
  cases ids with
  | nil => rw [← serve_direct hids port port', hserved]
  | cons factorId ids => exact absurd (reachesFactor_of_serve hserved ⟨factorId, ids, hids⟩) h

end Serving

section SentinelTenant

variable {api : CalcApi} {endpoint : CalcEndpoint} {call : InsertCall} {port : FactorCatalogPort}

/-- The sentinel is no other tenant, and the connection sees its catalog. -/
def CalcApi.SeesOwn (api : CalcApi) (call : InsertCall) : Prop :=
  api.bypassesRls = true ∧ call.tenantId = nilUuid

theorem getFactorCatalog_of_seesOwn (h : api.SeesOwn call) (catalog : FactorCatalog) :
    getFactorCatalog api catalog = api.answers catalog call.tenantId := by
  unfold getFactorCatalog CalcApi.visible
  rw [if_pos h.1, h.2]

/-- Where all rows are the caller's own, the sentinel finds none of them. -/
theorem not_findsFactor_sentinel {catalog : FactorCatalog} {factorId : String} {f : FactorRecord}
    (hunseen : ¬ api.SeesOwn call) (hown : ∀ r ∈ catalog.rows, r.tenantId = call.tenantId)
    (hport : AdapterPort (api.visible catalog) nilUuid port) :
    ¬ FindsFactor port call.body factorId f := by
  intro hf
  have hget := (requireVintage_ok_iff.mp hf).1
  have hresult := hport.get factorId call.body.gwpSet (some call.body.anno)
  rw [hget] at hresult
  cases hresult with
  | @found r hr =>
      have hvisible := hr.1
      unfold CalcApi.visible at hvisible
      split_ifs at hvisible with hbypass
      · exact hunseen ⟨hbypass, (hown r hvisible).symm.trans hr.2.1.1⟩
      · cases hvisible

/-! ### A catalog that has all the request needs -/

/-- A factor published for the tenant and the year of the call. -/
def vintageRow (call : InsertCall) (id : Uuid) (factorId : String) : CatalogRow :=
  { publishedRow id factorId "kg" call.body.gwpSet.tag (4397 / 10000) with
    tenantId := call.tenantId
    vintage := some (toString call.body.anno) }

def vintageCatalog (call : InsertCall) (factorIds : List String) : FactorCatalog where
  rows := factorIds.dedup.zipIdx.map fun s => vintageRow call s.2 s.1
  pk := by
    have hids : (factorIds.dedup.zipIdx.map fun s => vintageRow call s.2 s.1).map CatalogRow.id =
        List.range' 0 factorIds.dedup.length := by
      rw [List.map_map]
      exact List.zipIdx_map_snd 0 factorIds.dedup
    rw [hids]
    exact List.nodup_range'
  version_unique := by
    have hkeys : (factorIds.dedup.zipIdx.map fun s => vintageRow call s.2 s.1).map
        CatalogRow.versionKey = factorIds.dedup.map fun factorId =>
          (call.tenantId, factorId, "2025", call.body.gwpSet.tag) := by
      conv_rhs => rw [← List.zipIdx_map_fst 0 factorIds.dedup]
      rw [List.map_map, List.map_map]
      rfl
    rw [hkeys]
    refine (List.nodup_dedup factorIds).map fun a b h => ?_
    exact congrArg (fun key => key.2.1) h

variable {factorIds : List String} {factorId : String} {f : FactorRecord}

theorem mem_vintageCatalog {r : CatalogRow} : r ∈ (vintageCatalog call factorIds).rows ↔
    ∃ s ∈ factorIds.dedup.zipIdx, vintageRow call s.2 s.1 = r :=
  List.mem_map

theorem exists_vintageRow (call : InsertCall) (h : factorId ∈ factorIds) :
    ∃ id, vintageRow call id factorId ∈ (vintageCatalog call factorIds).rows := by
  have hdedup := List.mem_dedup.mpr h
  rw [← List.zipIdx_map_fst 0 factorIds.dedup] at hdedup
  obtain ⟨s, hs, rfl⟩ := List.mem_map.mp hdedup
  exact ⟨s.2, mem_vintageCatalog.mpr ⟨s, hs, rfl⟩⟩

theorem vintageRow_selected (id : Uuid) (factorId : String) :
    (vintageRow call id factorId).Selected call.tenantId factorId call.body.gwpSet
      (some call.body.anno) :=
  ⟨rfl, rfl, rfl, rfl, rfl⟩

theorem row_of_findsFactor
    (hport : AdapterPort (vintageCatalog call factorIds) call.tenantId port)
    (hf : FindsFactor port call.body factorId f) :
    ∃ id, vintageRow call id factorId ∈ (vintageCatalog call factorIds).rows ∧
      f = rowToFactorRecord (vintageRow call id factorId) := by
  have hget := (requireVintage_ok_iff.mp hf).1
  have hresult := hport.get factorId call.body.gwpSet (some call.body.anno)
  rw [hget] at hresult
  cases hresult with
  | @found r hr =>
      obtain ⟨s, hs, rfl⟩ := mem_vintageCatalog.mp hr.1
      have hcode : s.1 = factorId := hr.2.1.2.1
      exact ⟨s.2, hcode ▸ hr.1, by rw [hcode]⟩

theorem findsFactor_vintage
    (hport : AdapterPort (vintageCatalog call factorIds) call.tenantId port)
    (h : factorId ∈ factorIds) : ∃ f, FindsFactor port call.body factorId f := by
  obtain ⟨id, hid⟩ := exists_vintageRow call h
  have hresult := hport.get factorId call.body.gwpSet (some call.body.anno)
  generalize hget : port.get factorId call.body.gwpSet (some call.body.anno) = result at hresult
  cases hresult with
  | @found r hr =>
      obtain ⟨s, -, rfl⟩ := mem_vintageCatalog.mp hr.1
      exact ⟨_, requireVintage_ok_iff.mpr ⟨hget, fun hnone => by cases hnone⟩⟩
  | missing hnone => exact absurd (vintageRow_selected id factorId) (hnone _ hid)

theorem resolveFactorUuid_vintage (h : factorId ∈ factorIds) :
    resolveFactorUuid (vintageCatalog call factorIds) call.tenantId factorId call.body.gwpSet ∈
      (vintageCatalog call factorIds).ids := by
  obtain ⟨id, hid⟩ := exists_vintageRow call h
  have hkey := factorUuid_resolve (vintageCatalog call factorIds) call.tenantId factorId
    call.body.gwpSet
  generalize resolveFactorUuid (vintageCatalog call factorIds) call.tenantId factorId
    call.body.gwpSet = factorUuid at hkey
  cases hkey with
  | found hr => exact List.mem_map_of_mem hr.1
  | fallback hnone => exact absurd ⟨rfl, rfl, rfl⟩ (hnone _ hid)

theorem exists_served (hreach : ReachesFactor api endpoint call) {factorId : String}
    {ids : List String} (hids : lookedUp call.body (api.countryOf call) = some (factorId :: ids))
    (hport : AdapterPort (vintageCatalog call (factorId :: ids)) call.tenantId port)
    (draws : InsertDraws) :
    ∃ p, serve api endpoint (vintageCatalog call (factorId :: ids)) EmissionsTable.empty call draws
      port = some p := by
  obtain ⟨p, hp⟩ : ∃ p, previewDispatch api.print port call.body (api.countryOf call) = .ok p := by
    refine preview_succeeds hids hreach.unit (fun id hid => findsFactor_vintage hport hid)
      fun f hf => ?_
    obtain ⟨id, -, rfl⟩ := row_of_findsFactor hport hf
    rfl
  have hpreview := computePreview_ok_iff.mpr ⟨hreach.scope, hreach.site, hp⟩
  refine ⟨p, serve_eq_some.mpr ⟨hpreview, fun hinsert => ?_⟩⟩
  obtain ⟨l, hl, -, htraced, hnonneg⟩ := preview_spec hp
  obtain rfl : factorId :: ids = l := Option.some.inj (hids.symm.trans hl)
  have hpos : 0 ≤ p.tco2e := by
    refine hnonneg fun id _ f hf => ?_
    obtain ⟨id', -, rfl⟩ := row_of_findsFactor hport hf
    norm_num [FactorRecord.valueOrZero, rowToFactorRecord, vintageRow, publishedRow]
  have hcode : p.factorId = factorId := by
    cases htraced with
    | factor hf hreports =>
        obtain ⟨id, -, rfl⟩ := row_of_findsFactor hport hf
        exact hreports.factorId
  refine ((EmissionsTable.insertSpec _).succeeds _ _).mpr ⟨?_, fun s hs => by cases hs⟩
  refine ⟨hreach.year hinsert, hpos, rfl, rfl, ?_⟩
  rw [hcode]
  exact resolveFactorUuid_vintage (by simp)

end SentinelTenant

/-- The API computes with the caller's catalog exactly for the requests that reach no factor, and
for the caller whose tenant is the sentinel itself, if the role bypasses row-level security. -/
theorem tenantScoped_iff (api : CalcApi)
    (hanswers : ∀ catalog tenantId, AdapterPort catalog tenantId (api.answers catalog tenantId))
    (endpoint : CalcEndpoint) (call : InsertCall) :
    TenantScoped api endpoint call ↔
      (api.bypassesRls = true ∧ call.tenantId = nilUuid) ∨ ¬ ReachesFactor api endpoint call := by
  constructor
  · intro hscoped
    by_contra hcond
    obtain ⟨hunseen, hreach⟩ := not_or.mp hcond
    have hreach := not_not.mp hreach
    obtain ⟨factorId, ids, hids⟩ := hreach.factor
    have hrow : ∀ r ∈ (vintageCatalog call (factorId :: ids)).rows,
        r.tenantId = call.tenantId ∧ r.isPublished = true := by
      intro r hr
      obtain ⟨s, -, rfl⟩ := mem_vintageCatalog.mp hr
      exact ⟨rfl, rfl⟩
    have hmem : factorId ∈ factorId :: ids := List.mem_cons_self
    obtain ⟨id, hid⟩ := exists_vintageRow call hmem
    obtain ⟨hserved, -⟩ := hscoped (vintageCatalog call (factorId :: ids)) EmissionsTable.empty
      ⟨0, 0, 0⟩ ⟨_, hid, hrow _ hid⟩
    obtain ⟨p, hp⟩ := exists_served hreach hids (hanswers _ _) ⟨0, 0, 0⟩
    obtain ⟨q, hq⟩ := Option.isSome_iff_exists.mp (hserved (Option.isSome_iff_exists.mpr ⟨p, hp⟩))
    obtain ⟨l, hl, hfound, -⟩ := preview_spec (computePreview_ok_iff.mp (serve_eq_some.mp hq).1).2.2
    obtain rfl : factorId :: ids = l := Option.some.inj (hids.symm.trans hl)
    obtain ⟨f, hf⟩ := hfound factorId hmem
    exact not_findsFactor_sentinel hunseen (fun r hr => (hrow r hr).1) (hanswers _ _) hf
  · rintro (hown | hnone) catalog ledger draws -
    · have hsame := getFactorCatalog_of_seesOwn hown catalog
      exact ⟨fun h => hsame ▸ h, fun p h => hsame ▸ h⟩
    · refine ⟨fun h => ?_, fun p h => serve_congr hnone _ _ h⟩
      obtain ⟨p, hp⟩ := Option.isSome_iff_exists.mp h
      exact Option.isSome_iff_exists.mpr ⟨p, serve_congr hnone _ _ hp⟩

/-- A database that answers each query with the first of the newest rows. -/
def plainApi (bypassesRls : Bool) : CalcApi where
  print := plainPrinting
  sites := []
  bypassesRls := bypassesRls
  answers := sqlFactorCatalogAdapter

def commutingCall (tenantId : Uuid) : InsertCall :=
  ⟨tenantId, "editor", none, commutingRequest "commuting_auto", .drawn 1⟩

theorem tenantScoped_commuting :
    TenantScoped (plainApi true) .insert (commutingCall nilUuid) ∧
      ¬ TenantScoped (plainApi true) .insert (commutingCall 1) := by
  have hanswers : ∀ catalog tenantId, AdapterPort catalog tenantId
      ((plainApi true).answers catalog tenantId) := adapterPort_sql
  have hreach : ReachesFactor (plainApi true) .insert (commutingCall 1) :=
    ⟨⟨Scope3Cat7Commuting.factorId, [], rfl⟩, rfl, fun h => (by cases h), fun h => (by cases h),
      fun _ => by decide⟩
  constructor
  · exact (tenantScoped_iff (plainApi true) hanswers .insert (commutingCall nilUuid)).mpr
      (.inl ⟨rfl, rfl⟩)
  · intro h
    rcases (tenantScoped_iff (plainApi true) hanswers .insert (commutingCall 1)).mp h with hown | hno
    · exact absurd hown.2 (by decide)
    · exact hno hreach

/-- Tenant 1 and the sentinel have each published a factor for commuting. -/
def twoTenantCatalog : FactorCatalog :=
  ⟨[publishedRow 1 Scope3Cat7Commuting.factorId "kg CO2e / km" .ar6 (17 / 100),
    { publishedRow 2 Scope3Cat7Commuting.factorId "kg CO2e / km" .ar6 (9 / 10) with
      tenantId := nilUuid }], by decide, by decide⟩

/-- The request of tenant 1 is refused though its factor is published, and where a connection sees
all tenants it is answered with the factor of the sentinel. -/
theorem commuting_is_refused :
    (∀ bypassesRls, ¬ TenantScoped (plainApi bypassesRls) .preview (commutingCall 1)) ∧
      (serve (plainApi true) .preview twoTenantCatalog EmissionsTable.empty (commutingCall 1)
        ⟨1, 1, 0⟩ (getFactorCatalog (plainApi true) twoTenantCatalog)).map
          CalcPreviewResponse.factorValue = some (9 / 10) := by
  constructor
  · intro bypassesRls hscoped
    have hown : (serve (plainApi bypassesRls) .preview commutingCatalog EmissionsTable.empty
        (commutingCall 1) ⟨1, 1, 0⟩ (sqlFactorCatalogAdapter commutingCatalog 1)).isSome = true := by
      cases bypassesRls <;> decide +kernel
    have hserved : serve (plainApi bypassesRls) .preview commutingCatalog EmissionsTable.empty
        (commutingCall 1) ⟨1, 1, 0⟩ (getFactorCatalog (plainApi bypassesRls) commutingCatalog) =
          none := by
      cases bypassesRls <;> decide +kernel
    have hsome := (hscoped commutingCatalog EmissionsTable.empty ⟨1, 1, 0⟩
      ⟨_, List.mem_singleton.mpr rfl, rfl, rfl⟩).1 hown
    rw [hserved] at hsome
    cases hsome
  · decide +kernel

end GhgTool
