import Mathlib.Data.List.MinMax
import GhgTool.AuthState
import GhgTool.GoEvidence
import GhgTool.HalfUp
import GhgTool.IntensityView
import GhgTool.RowTriggers
import GhgTool.Runs

/-!
# Versions of a certificate

A validation of a Guarantee of Origin is meant to append a new version of its evidence row, with the
same `go_id`; the table has `UNIQUE (tenant_id, go_id)`. The listing filters by `all_qc_passed` with
eight equalities, the view computes it as a conjunction.
-/

namespace GhgTool.GoVersions

/-! ## The evidence table -/

/-- A full row of `ref.go_certificate_evidence`. -/
structure GoVersion extends GoCertificate where
  id : Uuid
  goId : String
  volumeMwh : ℚ
  vintageYear : ℕ
  cancellationDate : CalendarDate
  beneficiaryLegalEntity : String
  countryOfIssuance : String
  technology : String
  pdfEvidenceUri : String
  validatedBy : String
  validatedAt : Timestamp
  deriving DecidableEq

/-- The `CHECK`, the reference to `ref.sites`, the primary key and the unique key; no trigger. -/
def goEvidence (sites : List Uuid) : TableRules GoVersion where
  check c := decide (0 ≤ c.volumeMwh ∧ c.siteId ∈ sites)
  clash a b := decide (a.id = b.id ∨ (a.tenantId = b.tenantId ∧ a.goId = b.goId))
  beforeUpdate _ new := .proceed new
  beforeDelete old := .proceed old

structure QcChecks where
  qc1ConveyedClaimPassed : Bool
  qc2UniquePassed : Bool
  qc3RedeemedPassed : Bool
  qc4VintagePassed : Bool
  qc5GeographicPassed : Bool
  qc6ScopePassed : Bool
  qc7ExclusivityPassed : Bool
  qc8ResidualMixDisclosed : Bool
  deriving DecidableEq

def GoVersion.checks (c : GoVersion) : QcChecks where
  qc1ConveyedClaimPassed := c.qc1ConveyedClaimPassed
  qc2UniquePassed := c.qc2UniquePassed
  qc3RedeemedPassed := c.qc3RedeemedPassed
  qc4VintagePassed := c.qc4VintagePassed
  qc5GeographicPassed := c.qc5GeographicPassed
  qc6ScopePassed := c.qc6ScopePassed
  qc7ExclusivityPassed := c.qc7ExclusivityPassed
  qc8ResidualMixDisclosed := c.qc8ResidualMixDisclosed

/-! ## The requests -/

structure GoCertificateCreate extends QcChecks where
  goId : String
  siteId : Uuid
  anno : ℕ
  volumeMwh : ℚ
  vintageYear : ℕ
  cancellationDate : CalendarDate
  beneficiaryLegalEntity : String
  countryOfIssuance : String
  technology : String
  pdfEvidenceUri : String
  deriving DecidableEq

structure GoValidationPatch where
  qc1ConveyedClaimPassed : Option Bool := none
  qc2UniquePassed : Option Bool := none
  qc3RedeemedPassed : Option Bool := none
  qc4VintagePassed : Option Bool := none
  qc5GeographicPassed : Option Bool := none
  qc6ScopePassed : Option Bool := none
  qc7ExclusivityPassed : Option Bool := none
  qc8ResidualMixDisclosed : Option Bool := none
  pdfEvidenceUri : Option String := none
  deriving DecidableEq

/-- Checks overridden by the fields of a patch that are not null. -/
def GoValidationPatch.override (patch : GoValidationPatch) (c : QcChecks) : QcChecks where
  qc1ConveyedClaimPassed := patch.qc1ConveyedClaimPassed.getD c.qc1ConveyedClaimPassed
  qc2UniquePassed := patch.qc2UniquePassed.getD c.qc2UniquePassed
  qc3RedeemedPassed := patch.qc3RedeemedPassed.getD c.qc3RedeemedPassed
  qc4VintagePassed := patch.qc4VintagePassed.getD c.qc4VintagePassed
  qc5GeographicPassed := patch.qc5GeographicPassed.getD c.qc5GeographicPassed
  qc6ScopePassed := patch.qc6ScopePassed.getD c.qc6ScopePassed
  qc7ExclusivityPassed := patch.qc7ExclusivityPassed.getD c.qc7ExclusivityPassed
  qc8ResidualMixDisclosed := patch.qc8ResidualMixDisclosed.getD c.qc8ResidualMixDisclosed

structure GoFilter where
  siteId : Option Uuid := none
  anno : Option ℕ := none
  allQcPassed : Option Bool := none
  limit : ℕ := 50
  deriving DecidableEq

inductive GoRequest
  | create (body : GoCertificateCreate)
  | validate (goId : String) (patch : GoValidationPatch)
  | list (filters : GoFilter)
  deriving DecidableEq

/-- A request with its caller, the id drawn for a new row and the time. -/
structure GoCall where
  tenantId : Uuid
  sub : String
  request : GoRequest
  draw : Uuid
  now : Timestamp
  deriving DecidableEq

inductive GoError
  | notFound (problem : Problem)
  | database (e : StatementError)
  deriving DecidableEq, Repr

/-! ## The endpoints -/

def newCertificate (call : GoCall) (body : GoCertificateCreate) : GoVersion where
  id := call.draw
  tenantId := call.tenantId
  goId := body.goId
  siteId := body.siteId
  anno := body.anno
  volumeMwh := roundHalfUp 6 body.volumeMwh
  vintageYear := body.vintageYear
  cancellationDate := body.cancellationDate
  beneficiaryLegalEntity := body.beneficiaryLegalEntity
  countryOfIssuance := body.countryOfIssuance
  technology := body.technology
  qc1ConveyedClaimPassed := body.qc1ConveyedClaimPassed
  qc2UniquePassed := body.qc2UniquePassed
  qc3RedeemedPassed := body.qc3RedeemedPassed
  qc4VintagePassed := body.qc4VintagePassed
  qc5GeographicPassed := body.qc5GeographicPassed
  qc6ScopePassed := body.qc6ScopePassed
  qc7ExclusivityPassed := body.qc7ExclusivityPassed
  qc8ResidualMixDisclosed := body.qc8ResidualMixDisclosed
  pdfEvidenceUri := body.pdfEvidenceUri
  validatedBy := call.sub
  validatedAt := call.now

/-- The version that a validation adds to an existing one. -/
def newVersion (call : GoCall) (patch : GoValidationPatch) (existing : GoVersion) : GoVersion :=
  let checks := patch.override existing.checks
  { id := call.draw
    tenantId := existing.tenantId
    goId := existing.goId
    siteId := existing.siteId
    anno := existing.anno
    volumeMwh := existing.volumeMwh
    vintageYear := existing.vintageYear
    cancellationDate := existing.cancellationDate
    beneficiaryLegalEntity := existing.beneficiaryLegalEntity
    countryOfIssuance := existing.countryOfIssuance
    technology := existing.technology
    qc1ConveyedClaimPassed := checks.qc1ConveyedClaimPassed
    qc2UniquePassed := checks.qc2UniquePassed
    qc3RedeemedPassed := checks.qc3RedeemedPassed
    qc4VintagePassed := checks.qc4VintagePassed
    qc5GeographicPassed := checks.qc5GeographicPassed
    qc6ScopePassed := checks.qc6ScopePassed
    qc7ExclusivityPassed := checks.qc7ExclusivityPassed
    qc8ResidualMixDisclosed := checks.qc8ResidualMixDisclosed
    pdfEvidenceUri :=
      match patch.pdfEvidenceUri with
      | some uri => if uri = "" then existing.pdfEvidenceUri else uri
      | none => existing.pdfEvidenceUri
    validatedBy := call.sub
    validatedAt := call.now }

def goNotFound (goId : String) : Problem :=
  ⟨404, "GO certificate '" ++ goId ++ "' not found"⟩

def hasGoId (tenantId : Uuid) (goId : String) (c : GoVersion) : Bool :=
  decide (c.tenantId = tenantId ∧ c.goId = goId)

/-- `ORDER BY validated_at DESC LIMIT 1`. -/
def latestVersion (rows : List GoVersion) (tenantId : Uuid) (goId : String) : Option GoVersion :=
  (rows.filter (hasGoId tenantId goId)).argmax GoVersion.validatedAt

variable (sites : List Uuid) (rows : List GoVersion)

def insertVersion (new : GoVersion) : Except GoError (List GoVersion) :=
  match insertRow (goEvidence sites) new rows with
  | .ok rows' => .ok rows'
  | .error e => .error (.database e)

def createGoCertificate (call : GoCall) (body : GoCertificateCreate) :
    Except GoError (List GoVersion) :=
  insertVersion sites rows (newCertificate call body)

def validateGoCertificate (call : GoCall) (goId : String) (patch : GoValidationPatch) :
    Except GoError (List GoVersion) :=
  match latestVersion rows call.tenantId goId with
  | none => .error (.notFound (goNotFound goId))
  | some existing => insertVersion sites rows (newVersion call patch existing)

/-- The conjunction of eight equalities with the filter's value. -/
def GoVersion.allQcEqual (c : GoVersion) (value : Bool) : Bool :=
  decide (c.qc1ConveyedClaimPassed = value) && decide (c.qc2UniquePassed = value) &&
    decide (c.qc3RedeemedPassed = value) && decide (c.qc4VintagePassed = value) &&
    decide (c.qc5GeographicPassed = value) && decide (c.qc6ScopePassed = value) &&
    decide (c.qc7ExclusivityPassed = value) && decide (c.qc8ResidualMixDisclosed = value)

def GoFilter.matches (filters : GoFilter) (tenantId : Uuid) (c : GoVersion) : Bool :=
  decide (c.tenantId = tenantId) && filters.siteId.all (fun siteId => decide (c.siteId = siteId)) &&
    filters.anno.all (fun anno => decide (c.anno = anno)) && filters.allQcPassed.all c.allQcEqual

/-- The items of the page and the row that its cursor names. -/
def listGoCertificates (tenantId : Uuid) (filters : GoFilter) :
    List GoVersion × Option Uuid :=
  let found := (rows.filter (filters.matches tenantId)).take (filters.limit + 1)
  (found.take filters.limit,
    if filters.limit < found.length then (found[filters.limit - 1]?).map GoVersion.id else none)

/-- The table after a request; a request that fails, and a listing, leave it as it is. -/
def respond (call : GoCall) : Except GoError (List GoVersion) :=
  match call.request with
  | .create body => createGoCertificate sites rows call body
  | .validate goId patch => validateGoCertificate sites rows call goId patch
  | .list _ => .ok rows

def step (call : GoCall) : List GoVersion :=
  match respond sites rows call with
  | .ok rows' => rows'
  | .error _ => rows

/-! ## Validations -/

/-- The request validates a certificate that the caller's tenant has. -/
def Revalidates (rows : List GoVersion) (call : GoCall) : Prop :=
  ∃ goId patch, call.request = .validate goId patch ∧
    ∃ c ∈ rows, hasGoId call.tenantId goId c = true

/-- What a validation of an existing certificate promises: it succeeds and appends one row, the
newest version with the patch laid over its checks. -/
def Versions (rows : List GoVersion) (call : GoCall) : Prop :=
  ∀ goId patch, call.request = .validate goId patch →
    (∃ c ∈ rows, hasGoId call.tenantId goId c = true) →
    ∃ existing new, latestVersion rows call.tenantId goId = some existing ∧
      new.goId = goId ∧ new.tenantId = call.tenantId ∧
      new.checks = patch.override existing.checks ∧
      respond sites rows call = .ok (rows ++ [new])

variable {sites rows} {call : GoCall}

theorem latestVersion_spec {tenantId : Uuid} {goId : String} {c : GoVersion}
    (h : latestVersion rows tenantId goId = some c) :
    c ∈ rows ∧ c.tenantId = tenantId ∧ c.goId = goId := by
  have hmem := List.argmax_mem h
  rw [List.mem_filter] at hmem
  simpa [hasGoId] using hmem

/-- A new version always clashes with the version it starts from. -/
theorem insertVersion_newVersion (patch : GoValidationPatch) {existing : GoVersion}
    (h : existing ∈ rows) :
    insertVersion sites rows (newVersion call patch existing) =
      .error (.database (if (goEvidence sites).check (newVersion call patch existing) = false
        then .checkViolation else .uniqueViolation)) := by
  have hclash : rows.any ((goEvidence sites).clash (newVersion call patch existing)) = true := by
    refine List.any_eq_true.mpr ⟨existing, h, ?_⟩
    simp [goEvidence, newVersion]
  unfold insertVersion insertRow
  by_cases hcheck : (goEvidence sites).check (newVersion call patch existing) = false
  · rw [if_pos hcheck, if_pos hcheck]
  · rw [if_neg hcheck, if_pos hclash, if_neg hcheck]

theorem respond_validate {goId : String} {patch : GoValidationPatch} {existing : GoVersion}
    (hrequest : call.request = .validate goId patch)
    (hlatest : latestVersion rows call.tenantId goId = some existing) :
    respond sites rows call = insertVersion sites rows (newVersion call patch existing) := by
  unfold respond
  rw [hrequest]
  dsimp only
  unfold validateGoCertificate
  rw [hlatest]

variable (sites) in
/-- No validation of an existing certificate succeeds, and none changes the table. -/
theorem revalidation_fails (h : Revalidates rows call) :
    (∃ e, respond sites rows call = .error e) ∧ step sites rows call = rows := by
  obtain ⟨goId, patch, hrequest, c, hc, hid⟩ := h
  have herror : ∃ e, respond sites rows call = .error e := by
    cases hlatest : latestVersion rows call.tenantId goId with
    | none =>
        have hempty := List.argmax_eq_none.mp hlatest
        exact absurd hid (List.filter_eq_nil_iff.mp hempty c hc)
    | some existing =>
        exact ⟨_, (respond_validate hrequest hlatest).trans
          (insertVersion_newVersion patch (latestVersion_spec hlatest).1)⟩
  obtain ⟨e, he⟩ := herror
  exact ⟨⟨e, he⟩, by rw [step, he]⟩

theorem versions_iff : Versions sites rows call ↔ ¬ Revalidates rows call := by
  constructor
  · rintro hversions hrevalidates
    obtain ⟨e, he⟩ := (revalidation_fails sites hrevalidates).1
    obtain ⟨goId, patch, hrequest, hexists⟩ := hrevalidates
    obtain ⟨_, _, _, _, _, _, hok⟩ := hversions goId patch hrequest hexists
    rw [he] at hok
    cases hok
  · intro hnot goId patch hrequest hexists
    exact absurd ⟨goId, patch, hrequest, hexists⟩ hnot

/-! ## Listings -/

/-- The listings with the two values of the filter, on pages that hold the whole table. -/
def ListingsSplit (rows : List GoVersion) (tenantId : Uuid) : Prop :=
  ∀ limit, rows.length ≤ limit →
    let passed := (listGoCertificates rows tenantId { allQcPassed := some true, limit := limit }).1
    let failed := (listGoCertificates rows tenantId { allQcPassed := some false, limit := limit }).1
    (∀ c ∈ rows, c.tenantId = tenantId → c ∈ passed ∨ c ∈ failed) ∧
      (∀ c ∈ passed, c ∉ failed) ∧
      ∀ c ∈ rows, c.tenantId = tenantId → (c ∈ passed ↔ c.allQcPassed = true)

/-- All eight checks of a version agree. -/
def Uniform (c : GoVersion) : Prop :=
  c.allQcEqual true = true ∨ c.allQcEqual false = true

instance (c : GoVersion) : Decidable (Uniform c) :=
  inferInstanceAs (Decidable (_ ∨ _))

theorem allQcEqual_true (c : GoVersion) : c.allQcEqual true = c.allQcPassed := by
  simp [GoVersion.allQcEqual, GoCertificate.allQcPassed]

theorem not_both (c : GoVersion) (h : c.allQcEqual true = true) : c.allQcEqual false = false := by
  simp only [GoVersion.allQcEqual, Bool.and_eq_true, decide_eq_true_eq] at h
  simp [GoVersion.allQcEqual, h]

theorem items_eq {tenantId : Uuid} {filters : GoFilter} (h : rows.length ≤ filters.limit) :
    (listGoCertificates rows tenantId filters).1 = rows.filter (filters.matches tenantId) := by
  have hlength : (rows.filter (filters.matches tenantId)).length ≤ filters.limit :=
    (List.length_filter_le _ _).trans h
  unfold listGoCertificates
  dsimp only
  rw [List.take_of_length_le (hlength.trans (Nat.le_succ _)), List.take_of_length_le hlength]

theorem mem_items {tenantId : Uuid} {value : Bool} {limit : ℕ} (h : rows.length ≤ limit)
    (c : GoVersion) :
    c ∈ (listGoCertificates rows tenantId { allQcPassed := some value, limit := limit }).1 ↔
      c ∈ rows ∧ c.tenantId = tenantId ∧ c.allQcEqual value = true := by
  rw [items_eq h, List.mem_filter]
  simp [GoFilter.matches]

theorem listingsSplit_iff (tenantId : Uuid) :
    ListingsSplit rows tenantId ↔ ∀ c ∈ rows, c.tenantId = tenantId → Uniform c := by
  constructor
  · intro h c hc htenant
    rcases (h rows.length le_rfl).1 c hc htenant with hpassed | hfailed
    · exact .inl ((mem_items le_rfl c).mp hpassed).2.2
    · exact .inr ((mem_items le_rfl c).mp hfailed).2.2
  · intro huniform limit hlimit
    refine ⟨?_, ?_, ?_⟩
    · intro c hc htenant
      rcases huniform c hc htenant with hall | hnone
      · exact .inl ((mem_items hlimit c).mpr ⟨hc, htenant, hall⟩)
      · exact .inr ((mem_items hlimit c).mpr ⟨hc, htenant, hnone⟩)
    · intro c hpassed hfailed
      have hnone := ((mem_items hlimit c).mp hfailed).2.2
      rw [not_both c ((mem_items hlimit c).mp hpassed).2.2] at hnone
      cases hnone
    · intro c hc htenant
      rw [mem_items hlimit]
      simp [hc, htenant, allQcEqual_true]

/-! ## Runs -/

/-- The table only grows, whatever is asked. -/
theorem prefix_step : rows <+: step sites rows call := by
  have hinsert : ∀ new rows', insertVersion sites rows new = .ok rows' → rows <+: rows' := by
    intro new rows' h
    unfold insertVersion insertRow at h
    split_ifs at h
    cases h
    exact List.prefix_append _ _
  unfold step
  cases hrespond : respond sites rows call with
  | error e => exact List.prefix_refl _
  | ok rows' =>
      unfold respond at hrespond
      cases hrequest : call.request with
      | create body =>
          rw [hrequest] at hrespond
          exact hinsert _ _ hrespond
      | validate goId patch =>
          rw [hrequest] at hrespond
          dsimp only at hrespond
          unfold validateGoCertificate at hrespond
          cases hlatest : latestVersion rows call.tenantId goId with
          | none =>
              rw [hlatest] at hrespond
              cases hrespond
          | some existing =>
              rw [hlatest] at hrespond
              exact hinsert _ _ hrespond
      | list filters =>
          rw [hrequest] at hrespond
          cases hrespond
          exact List.prefix_refl _

theorem prefix_run (rows : List GoVersion) (calls : List GoCall) :
    rows <+: run (step sites) rows calls := by
  induction calls generalizing rows with
  | nil => exact List.prefix_refl _
  | cons call calls ih => exact prefix_step.trans (ih (step sites rows call))

/-- A run keeps the promise of versions exactly when it validates no certificate that exists; and
the two listings split a table exactly when no certificate has passed some of its checks only. -/
theorem go_versioning_iff (sites : List Uuid) (rows : List GoVersion) (calls : List GoCall)
    (tenantId : Uuid) :
    (Along (step sites) (Versions sites) rows calls ↔
      Along (step sites) (fun rows call => ¬ Revalidates rows call) rows calls) ∧
    (ListingsSplit rows tenantId ↔ ∀ c ∈ rows, c.tenantId = tenantId → Uniform c) := by
  refine ⟨?_, listingsSplit_iff tenantId⟩
  have hsame : Versions sites = fun rows call => ¬ Revalidates rows call := by
    funext rows call
    exact propext versions_iff
  rw [hsame]

/-- A certificate that has passed all checks but the last. -/
def windCertificate : GoVersion where
  id := 5
  tenantId := 1
  siteId := 2
  anno := 2024
  goId := "GO-2024-001"
  volumeMwh := 1000
  vintageYear := 2024
  cancellationDate := ⟨2025, 3, 31⟩
  beneficiaryLegalEntity := "Ceramic Tile Manufacturer S.p.A."
  countryOfIssuance := "IT"
  technology := "Wind"
  qc1ConveyedClaimPassed := true
  qc2UniquePassed := true
  qc3RedeemedPassed := true
  qc4VintagePassed := true
  qc5GeographicPassed := true
  qc6ScopePassed := true
  qc7ExclusivityPassed := true
  qc8ResidualMixDisclosed := false
  pdfEvidenceUri := "minio://go/001.pdf"
  validatedBy := "editor-1"
  validatedAt := 10

/-- The last check is given in a validation. -/
def residualMixDisclosed : GoCall where
  tenantId := 1
  sub := "editor-1"
  request := .validate "GO-2024-001" { qc8ResidualMixDisclosed := some true }
  draw := 6
  now := 20

/-- The validation fails on the unique key, and neither listing has the certificate. -/
theorem certificate_has_one_version :
    respond [2] [windCertificate] residualMixDisclosed = .error (.database .uniqueViolation) ∧
      (listGoCertificates [windCertificate] 1 { allQcPassed := some true }).1 = [] ∧
      (listGoCertificates [windCertificate] 1 { allQcPassed := some false }).1 = [] := by
  refine ⟨?_, by decide, by decide⟩
  have hcheck : (goEvidence [2]).check (newVersion residualMixDisclosed
      { qc8ResidualMixDisclosed := some true } windCertificate) = true := by
    simp [goEvidence, newVersion, windCertificate]
  have hlatest : latestVersion [windCertificate] 1 "GO-2024-001" = some windCertificate := by
    decide
  have hrequest : residualMixDisclosed.request =
      .validate "GO-2024-001" { qc8ResidualMixDisclosed := some true } := rfl
  rw [respond_validate hrequest hlatest, insertVersion_newVersion _ (List.mem_singleton_self _),
    hcheck]
  rfl

end GhgTool.GoVersions
