import GhgTool.Base64
import GhgTool.FactorPublish
import GhgTool.Reports
import GhgTool.RlsPolicies
import GhgTool.Runs

/-!
# Export jobs

`POST /exports/pdf` and `POST /exports/xlsx` send a message to the workers; a worker renders the
document and leaves it, in Base64, with the result backend, where the status endpoint and the download
look for it under the task id. The broker may deliver a message more than once and in any order, and
an idempotency key gives two submissions one task id.

The module `celery_app` imports no task: a worker that loads nothing else registers neither export task,
discards the messages, and the jobs stay as they were submitted. The deliveries here are those to
workers that have imported `export_tasks`.
-/

namespace GhgTool

/-! ## Requests -/

/-- `PdfReportRequest` and `ExcelReportRequest`. -/
inductive ExportRequest
  | pdf (anno : ℕ) (gwpSet : GwpSet) (language : ReportLanguage)
      (regulatoryStream : RegulatoryStream)
  | excel (anno : ℕ) (gwpSet : GwpSet) (includeAuditTrail includeFactorSnapshot : Bool)
  deriving DecidableEq, Repr

/-- The actions on the resource `reports`. -/
inductive ReportsAction
  | pdf | excel | status
  deriving DecidableEq, Repr

def ReportsAction.code : ReportsAction → String
  | .pdf => "pdf"
  | .excel => "excel"
  | .status => "status"

def ReportsAction.roles : ReportsAction → List RoleCode
  | .pdf => [.admin]
  | .excel => [.editor, .admin]
  | .status => [.editor, .admin, .viewer]

/-- `require_permission("reports", action)`. -/
def requireReportsPermission (user : UserContext) (action : ReportsAction) : Except Problem Unit :=
  if user.role ∈ action.roles then .ok ()
  else
    .error ⟨403, "Role '" ++ user.role.code ++ "' cannot perform '" ++ action.code ++
      "' on 'reports'."⟩

def ExportRequest.action : ExportRequest → ReportsAction
  | .pdf .. => .pdf
  | .excel .. => .excel

def ExportRequest.jobType : ExportRequest → String
  | .pdf .. => "pdf"
  | .excel .. => "excel"

/-! ## The task -/

/-- `_build_report_data`, which fetches nothing. -/
def buildReportData : ExportRequest → ReportData
  | .pdf anno gwpSet language _ => ⟨anno, gwpSet, language, [], []⟩
  | .excel anno gwpSet _ _ => ⟨anno, gwpSet, .it, [], []⟩

/-- WeasyPrint and openpyxl: the bytes at a moment, or the text of what they raise. -/
structure Renderer where
  writePdf : TemplateCtx → Timestamp → Except String (List Base64.Octet)
  saveWorkbook : ReportData → Timestamp → Except String (List Base64.Octet)

def noneAsFloat : String :=
  "float() argument must be a string or a real number, not 'NoneType'"

def buildDocument (R : Renderer) (request : ExportRequest) (now : Timestamp) :
    Except String (List Base64.Octet) :=
  match request with
  | .pdf .. =>
      match templateCtx (buildReportData request) with
      | .ok ctx => R.writePdf ctx now
      | .error _ => .error noneAsFloat
  | .excel .. => R.saveWorkbook (buildReportData request) now

structure ExportMessage where
  taskId : String
  tenantId : Uuid
  request : ExportRequest

/-- The dict that a task returns. -/
structure TaskResult where
  jobId : String
  jobType : String
  sizeBytes : ℕ
  resultB64 : String
  tenantId : Uuid

/-- What the backend holds as the result of a task. -/
inductive TaskValue
  | dict (result : TaskResult)
  | other

/-- The states of Celery that are not final. -/
inductive WaitState
  | pending | received | started | retry | revoked
  deriving DecidableEq, Repr

def WaitState.text : WaitState → String
  | .pending => "PENDING"
  | .received => "RECEIVED"
  | .started => "STARTED"
  | .retry => "RETRY"
  | .revoked => "REVOKED"

/-- A state outside the vocabulary of the API counts as pending. -/
def WaitState.wire : WaitState → String
  | .received => "PENDING"
  | state => state.text

inductive TaskMeta
  | waiting (state : WaitState)
  | success (value : TaskValue)
  | failure (exc : Option String)

def resultOf (m : ExportMessage) (bytes : List Base64.Octet) : TaskResult where
  jobId := m.taskId
  jobType := m.request.jobType
  sizeBytes := bytes.length
  resultB64 := String.ofList (Base64.standard.encode bytes)
  tenantId := m.tenantId

def failureText (request : ExportRequest) (text : String) : String :=
  match request with
  | .pdf .. => "Unexpected PDF build failure: " ++ text
  | .excel .. => "Unexpected Excel build failure: " ++ text

/-- `export_pdf_task` and `export_excel_task`, and what the worker makes of their outcome. -/
def exportTask (R : Renderer) (m : ExportMessage) (now : Timestamp) : TaskMeta :=
  match buildDocument R m.request now with
  | .ok bytes => .success (.dict (resultOf m bytes))
  | .error text => .failure (some (failureText m.request text))

/-! ## The endpoints -/

/-- The results by task id, and the messages that the broker has taken. -/
structure ExportState where
  backend : String → Option TaskMeta := fun _ => none
  messages : List ExportMessage := []

/-- `AsyncResult`; a task id that the backend does not know is pending. -/
def ExportState.result (st : ExportState) (taskId : String) : TaskMeta :=
  (st.backend taskId).getD (.waiting .pending)

def deriveTaskId (uuid5 : String → String) (tenantId : Uuid) (idempotencyKey : Option String) :
    Option String :=
  match idempotencyKey with
  | none => none
  | some key => if key = "" then none else some (uuid5 (uuidText tenantId ++ ":" ++ key))

/-- `trigger_pdf` and `trigger_xlsx`: the task id and the state with the message. Celery draws the id
where none is derived. -/
def trigger (uuid5 : String → String) (user : UserContext) (request : ExportRequest)
    (idempotencyKey : Option String) (drawn : String) (st : ExportState) :
    Except Problem (String × ExportState) := do
  requireReportsPermission user request.action
  let taskId := (deriveTaskId uuid5 user.tenantId idempotencyKey).getD drawn
  return (taskId, { st with messages := st.messages ++ [⟨taskId, user.tenantId, request⟩] })

/-- The result without `result_b64`. -/
structure TaskPayload where
  jobId : String
  jobType : String
  sizeBytes : ℕ
  tenantId : Uuid
  deriving DecidableEq

def TaskResult.payload (result : TaskResult) : TaskPayload :=
  ⟨result.jobId, result.jobType, result.sizeBytes, result.tenantId⟩

structure CeleryJobStatus where
  taskId : String
  state : String
  result : Option TaskPayload := none
  error : Option String := none

/-- `get_celery_task_status`, which does not ask whose task it is. -/
def celeryTaskStatus (st : ExportState) (user : UserContext) (taskId : String) :
    Except Problem CeleryJobStatus := do
  requireReportsPermission user .status
  match st.result taskId with
  | .waiting state => return { taskId, state := state.wire }
  | .success .other => return { taskId, state := "SUCCESS" }
  | .success (.dict raw) => return { taskId, state := "SUCCESS", result := some raw.payload }
  | .failure exc => return { taskId, state := "FAILURE", error := some (exc.getD "Unknown error") }

structure FileResponse where
  content : List Base64.Octet
  mediaType : String
  filename : String
  deriving DecidableEq

def fileResponse (jobType taskId : String) (content : List Base64.Octet) : FileResponse :=
  if jobType = "pdf" then ⟨content, "application/pdf", "ghg_report_" ++ taskId ++ ".pdf"⟩
  else
    ⟨content, "application/vnd.openxmlformats-officedocument.spreadsheetml.sheet",
      "ghg_report_" ++ taskId ++ ".xlsx"⟩

def taskFailed (exc : Option String) : Problem := ⟨500, exc.getD "Export task failed"⟩

def taskNotComplete (taskId : String) (state : WaitState) : Problem :=
  ⟨409, "Export task " ++ taskId ++ " is not yet complete (state=" ++ state.text ++ ")"⟩

def unexpectedResult : Problem := ⟨500, "Unexpected task result format"⟩

def exportNotFound (taskId : String) : Problem := ⟨404, "Export task " ++ taskId ++ " not found"⟩

def undecodableResult : Problem := ⟨500, "Could not decode task result bytes"⟩

def downloadCeleryExport (st : ExportState) (user : UserContext) (taskId : String) :
    Except Problem FileResponse := do
  requireReportsPermission user .status
  match st.result taskId with
  | .failure exc => throw (taskFailed exc)
  | .waiting state => throw (taskNotComplete taskId state)
  | .success .other => throw unexpectedResult
  | .success (.dict raw) =>
      if raw.tenantId ≠ user.tenantId then throw (exportNotFound taskId)
      else
        match Base64.standard.decode raw.resultB64.toList with
        | none => throw undecodableResult
        | some content => return fileResponse raw.jobType taskId content

/-! ## Runs -/

/-- How the backend stores under an id that it may know already. Celery leaves a success as it is and
writes anything else. -/
structure ResultBackend where
  store : Option TaskMeta → TaskMeta → TaskMeta
  store_cases : ∀ known new, store known new = new ∨ known = some (store known new)
  keeps_success : ∀ value new, store (some (.success value)) new = .success value

def ExportState.save (B : ResultBackend) (st : ExportState) (taskId : String) (new : TaskMeta) :
    ExportState :=
  { st with backend := Function.update st.backend taskId (B.store (st.backend taskId) new) }

/-- What happens to the exports: a submission; a worker that reports on a task, or finishes the
message at an index; a worker that is lost or runs out of time; a result that expires. -/
inductive ExportEvent
  | submit (user : UserContext) (request : ExportRequest) (idempotencyKey : Option String)
      (drawn : String)
  | report (taskId : String) (state : WaitState)
  | finish (index : ℕ) (now : Timestamp)
  | lose (taskId : String) (text : String)
  | expire (taskId : String)

def exportStep (B : ResultBackend) (R : Renderer) (uuid5 : String → String) (st : ExportState) :
    ExportEvent → ExportState
  | .submit user request idempotencyKey drawn =>
      match trigger uuid5 user request idempotencyKey drawn st with
      | .ok (_, st') => st'
      | .error _ => st
  | .report taskId state => st.save B taskId (.waiting state)
  | .finish index now =>
      match st.messages[index]? with
      | some m => st.save B m.taskId (exportTask R m now)
      | none => st
  | .lose taskId text => st.save B taskId (.failure (some text))
  | .expire taskId => { st with backend := Function.update st.backend taskId none }

/-! ## What the backend holds -/

section Steps

variable {B : ResultBackend} {R : Renderer} {uuid5 : String → String} {st : ExportState}
  {user : UserContext} {taskId : String} {value : TaskValue}

theorem permitted_status (user : UserContext) :
    requireReportsPermission user .status = .ok () := by
  unfold requireReportsPermission ReportsAction.roles
  cases user.role <;> rfl

theorem trigger_eq_ok {request : ExportRequest} {idempotencyKey : Option String} {drawn : String}
    {st' : ExportState} (h : trigger uuid5 user request idempotencyKey drawn st = .ok (taskId, st')) :
    user.role ∈ request.action.roles ∧
      taskId = (deriveTaskId uuid5 user.tenantId idempotencyKey).getD drawn ∧
      st' = { st with messages := st.messages ++ [⟨taskId, user.tenantId, request⟩] } := by
  unfold trigger requireReportsPermission at h
  split at h
  next hrole =>
    cases h
    exact ⟨hrole, rfl, rfl⟩
  next => cases h

/-- The value is the result of a message that a worker rendered. -/
def Rendered (R : Renderer) (messages : List ExportMessage) (taskId : String) (value : TaskValue) :
    Prop :=
  ∃ m ∈ messages, m.taskId = taskId ∧ ∃ now bytes,
    buildDocument R m.request now = .ok bytes ∧ value = .dict (resultOf m bytes)

theorem Rendered.mono {messages messages' : List ExportMessage} (hsub : messages ⊆ messages')
    (h : Rendered R messages taskId value) : Rendered R messages' taskId value := by
  obtain ⟨m, hm, hid, hbuild⟩ := h
  exact ⟨m, hsub hm, hid, hbuild⟩

/-- Every success the backend holds was rendered. -/
def Genuine (R : Renderer) (st : ExportState) : Prop :=
  ∀ taskId value, st.backend taskId = some (.success value) →
    Rendered R st.messages taskId value

theorem Genuine.save {new : TaskMeta} (h : Genuine R st)
    (hnew : ∀ value, new = .success value → Rendered R st.messages taskId value) :
    Genuine R (st.save B taskId new) := by
  intro id value hvalue
  by_cases hid : id = taskId
  · subst hid
    have hstored : B.store (st.backend id) new = .success value := by
      simpa [ExportState.save] using hvalue
    rcases B.store_cases (st.backend id) new with hcase | hcase
    · exact hnew value (hcase.symm.trans hstored)
    · exact h id value (hcase.trans (congrArg some hstored))
  · refine h id value ?_
    simpa [ExportState.save, Function.update_of_ne hid] using hvalue

theorem exportTask_eq_success {m : ExportMessage} {now : Timestamp}
    (h : exportTask R m now = .success value) :
    ∃ bytes, buildDocument R m.request now = .ok bytes ∧ value = .dict (resultOf m bytes) := by
  unfold exportTask at h
  split at h
  next bytes hbuild =>
    cases h
    exact ⟨bytes, hbuild, rfl⟩
  next => cases h

theorem genuine_step (event : ExportEvent) (h : Genuine R st) :
    Genuine R (exportStep B R uuid5 st event) := by
  cases event with
  | submit user request idempotencyKey drawn =>
      cases htrigger : trigger uuid5 user request idempotencyKey drawn st with
      | error problem => simpa only [exportStep, htrigger] using h
      | ok sent =>
          obtain ⟨taskId, st'⟩ := sent
          obtain ⟨_, _, rfl⟩ := trigger_eq_ok htrigger
          simp only [exportStep, htrigger]
          exact fun id value hvalue =>
            (h id value hvalue).mono (List.subset_append_left _ _)
  | report taskId state =>
      refine h.save fun value hvalue => ?_
      cases hvalue
  | finish index now =>
      cases hm : st.messages[index]? with
      | none => simpa only [exportStep, hm] using h
      | some m =>
          simp only [exportStep, hm]
          refine h.save fun value hvalue => ?_
          obtain ⟨bytes, hbuild, hdict⟩ := exportTask_eq_success hvalue
          exact ⟨m, List.mem_of_getElem? hm, rfl, now, bytes, hbuild, hdict⟩
  | lose taskId text =>
      refine h.save fun value hvalue => ?_
      cases hvalue
  | expire taskId =>
      intro id value hvalue
      by_cases hid : id = taskId
      · subst hid
        simp [exportStep] at hvalue
      · refine h id value ?_
        simpa [exportStep, Function.update_of_ne hid] using hvalue

variable (B R uuid5) in
theorem genuine_run (events : List ExportEvent) :
    Genuine R (run (exportStep B R uuid5) {} events) := by
  suffices h : ∀ st, Genuine R st → Genuine R (run (exportStep B R uuid5) st events) by
    refine h {} fun taskId value hvalue => ?_
    cases hvalue
  induction events with
  | nil => exact fun _ h => h
  | cons event events ih => exact fun st h => ih _ (genuine_step event h)

theorem submitted_of_mem_messages {events : List ExportEvent} {m : ExportMessage}
    (hm : m ∈ (run (exportStep B R uuid5) st events).messages) :
    m ∈ st.messages ∨ ∃ user idempotencyKey drawn,
      ExportEvent.submit user m.request idempotencyKey drawn ∈ events ∧
        user.role ∈ m.request.action.roles ∧ user.tenantId = m.tenantId ∧
        m.taskId = (deriveTaskId uuid5 user.tenantId idempotencyKey).getD drawn := by
  induction events generalizing st with
  | nil => exact .inl hm
  | cons event events ih =>
      rcases ih hm with hbefore | ⟨user, key, drawn, hmem, hsent⟩
      · cases event with
        | submit user request idempotencyKey drawn =>
            cases htrigger : trigger uuid5 user request idempotencyKey drawn st with
            | error problem =>
                simp only [exportStep, htrigger] at hbefore
                exact .inl hbefore
            | ok sent =>
                obtain ⟨taskId, st'⟩ := sent
                obtain ⟨hrole, hid, rfl⟩ := trigger_eq_ok htrigger
                simp only [exportStep, htrigger, List.mem_append, List.mem_singleton] at hbefore
                rcases hbefore with hold | rfl
                · exact .inl hold
                · exact .inr ⟨user, idempotencyKey, drawn, List.mem_cons_self, hrole, rfl, hid⟩
        | report taskId state => exact .inl hbefore
        | finish index now =>
            cases hmessage : st.messages[index]? with
            | none =>
                simp only [exportStep, hmessage] at hbefore
                exact .inl hbefore
            | some m' =>
                simp only [exportStep, hmessage] at hbefore
                exact .inl hbefore
        | lose taskId text => exact .inl hbefore
        | expire taskId => exact .inl hbefore
      · exact .inr ⟨user, key, drawn, List.mem_cons_of_mem _ hmem, hsent⟩

theorem decode_resultOf (m : ExportMessage) (bytes : List Base64.Octet) :
    Base64.standard.decode (resultOf m bytes).resultB64.toList = some bytes := by
  rw [resultOf, String.toList_ofList, Base64.Alphabet.decode_encode]

theorem download_rendered {m : ExportMessage} {bytes : List Base64.Octet} (user : UserContext)
    (h : st.backend taskId = some (.success (.dict (resultOf m bytes)))) :
    downloadCeleryExport st user taskId =
      if m.tenantId = user.tenantId then .ok (fileResponse m.request.jobType taskId bytes)
      else .error (exportNotFound taskId) := by
  have hdecode := decode_resultOf m bytes
  have htenant : (resultOf m bytes).tenantId = m.tenantId := rfl
  have hjob : (resultOf m bytes).jobType = m.request.jobType := rfl
  unfold downloadCeleryExport ExportState.result
  rw [permitted_status, h]
  simp only [Option.getD_some, hdecode, htenant, hjob, ne_eq]
  by_cases hown : m.tenantId = user.tenantId
  · rw [if_pos hown, if_neg (not_not.mpr hown)]
    rfl
  · rw [if_neg hown, if_pos hown]
    rfl

theorem download_eq_ok {response : FileResponse}
    (h : downloadCeleryExport st user taskId = .ok response) :
    ∃ value, st.backend taskId = some (.success value) := by
  unfold downloadCeleryExport ExportState.result at h
  rw [permitted_status] at h
  cases hmeta : st.backend taskId with
  | none =>
      rw [hmeta] at h
      cases h
  | some found =>
      rw [hmeta] at h
      cases found with
      | waiting state => cases h
      | success value => exact ⟨value, rfl⟩
      | failure exc => cases h

theorem wire_ne (state : WaitState) : state.wire ≠ "SUCCESS" ∧ state.wire ≠ "FAILURE" := by
  cases state <;> simp [WaitState.wire, WaitState.text]

theorem status_waiting {state : WaitState} (viewer : UserContext)
    (h : st.result taskId = .waiting state) :
    celeryTaskStatus st viewer taskId = .ok { taskId, state := state.wire } ∧
      ∀ user, downloadCeleryExport st user taskId = .error (taskNotComplete taskId state) := by
  unfold celeryTaskStatus downloadCeleryExport
  simp only [permitted_status, h]
  exact ⟨rfl, fun _ => rfl⟩

theorem status_failure {exc : Option String} (viewer : UserContext)
    (h : st.result taskId = .failure exc) :
    celeryTaskStatus st viewer taskId =
        .ok { taskId, state := "FAILURE", error := some (exc.getD "Unknown error") } ∧
      ∀ user, downloadCeleryExport st user taskId = .error (taskFailed exc) := by
  unfold celeryTaskStatus downloadCeleryExport
  simp only [permitted_status, h]
  exact ⟨rfl, fun _ => rfl⟩

theorem status_success {raw : TaskResult} (viewer : UserContext)
    (h : st.result taskId = .success (.dict raw)) :
    celeryTaskStatus st viewer taskId =
      .ok { taskId, state := "SUCCESS", result := some raw.payload } := by
  unfold celeryTaskStatus
  rw [permitted_status, h]
  rfl

theorem backend_of_result (h : st.result taskId = .success value) :
    st.backend taskId = some (.success value) := by
  unfold ExportState.result at h
  cases hmeta : st.backend taskId with
  | none =>
      rw [hmeta] at h
      cases h
  | some found =>
      rw [hmeta] at h
      exact congrArg some h

theorem result_step {event : ExportEvent} (hkept : event ≠ .expire taskId)
    (h : st.backend taskId = some (.success value)) :
    (exportStep B R uuid5 st event).backend taskId = some (.success value) := by
  have hsave : ∀ id new, (st.save B id new).backend taskId = some (.success value) := by
    intro id new
    by_cases hid : taskId = id
    · subst hid
      simp [ExportState.save, h, B.keeps_success]
    · simpa [ExportState.save, Function.update_of_ne hid] using h
  cases event with
  | submit user request idempotencyKey drawn =>
      cases htrigger : trigger uuid5 user request idempotencyKey drawn st with
      | error problem => simpa only [exportStep, htrigger] using h
      | ok sent =>
          obtain ⟨id, st'⟩ := sent
          obtain ⟨_, _, rfl⟩ := trigger_eq_ok htrigger
          simpa only [exportStep, htrigger] using h
  | report id state => exact hsave id _
  | finish index now =>
      cases hm : st.messages[index]? with
      | none => simpa only [exportStep, hm] using h
      | some m =>
          simp only [exportStep, hm]
          exact hsave m.taskId _
  | lose id text => exact hsave id _
  | expire id =>
      have hid : taskId ≠ id := by
        rintro rfl
        exact hkept rfl
      simpa [exportStep, Function.update_of_ne hid] using h

variable (B R uuid5) in
theorem result_run {events : List ExportEvent} (hkept : ExportEvent.expire taskId ∉ events)
    (h : st.backend taskId = some (.success value)) :
    (run (exportStep B R uuid5) st events).backend taskId = some (.success value) := by
  induction events generalizing st with
  | nil => exact h
  | cons event events ih =>
      obtain ⟨hne, hrest⟩ := List.ne_and_not_mem_of_not_mem_cons hkept
      exact ih hrest (result_step hne.symm h)

end Steps

/-! ## The exports -/

/-- There are no emissions to show, and no figure of the report differs from zero. -/
def ShowsNothing (data : ReportData) : Prop :=
  data.emissions = [] ∧ ∃ ctx, templateCtx data = .ok ctx ∧ ctx.scope1Total = 0 ∧
    ctx.scope2LbTotal = 0 ∧ ctx.scope2MbTotal = 0 ∧ ctx.scope3Total = 0 ∧
    ctx.biogenicTotalCo2 = 0 ∧ ctx.biogenicTotalFossil = 0

theorem buildReportData_showsNothing (request : ExportRequest) :
    ShowsNothing (buildReportData request) := by
  cases request with
  | pdf anno gwpSet language regulatoryStream =>
      exact ⟨rfl, _, rfl, rfl, rfl, rfl, rfl, rfl, rfl⟩
  | excel anno gwpSet includeAuditTrail includeFactorSnapshot =>
      exact ⟨rfl, _, rfl, rfl, rfl, rfl, rfl, rfl, rfl⟩

section Exports

variable (B : ResultBackend) (R : Renderer) (uuid5 : String → String)

/-- Whatever order the workers take the messages in, a download gives the very bytes that one of them
rendered for a submission of the caller's tenant under the task id, in the format it asked for; and it
was rendered from nothing. -/
theorem export_download_sound (events : List ExportEvent) {user : UserContext} {taskId : String}
    {response : FileResponse}
    (h : downloadCeleryExport (run (exportStep B R uuid5) {} events) user taskId = .ok response) :
    ∃ submitter request idempotencyKey drawn now bytes,
      ExportEvent.submit submitter request idempotencyKey drawn ∈ events ∧
        submitter.role ∈ request.action.roles ∧ submitter.tenantId = user.tenantId ∧
        taskId = (deriveTaskId uuid5 user.tenantId idempotencyKey).getD drawn ∧
        buildDocument R request now = .ok bytes ∧
        response = fileResponse request.jobType taskId bytes ∧
        ShowsNothing (buildReportData request) := by
  obtain ⟨value, hvalue⟩ := download_eq_ok h
  obtain ⟨m, hm, hid, now, bytes, hbuild, rfl⟩ :=
    genuine_run B R uuid5 events taskId value hvalue
  rw [download_rendered user hvalue] at h
  split at h
  next hown =>
    rcases submitted_of_mem_messages hm with hold | ⟨submitter, key, drawn, hsubmit, hrole, hst, hsent⟩
    · cases hold
    · refine ⟨submitter, m.request, key, drawn, now, bytes, hsubmit, hrole, hst.trans hown, ?_, hbuild,
        (Except.ok.inj h).symm, buildReportData_showsNothing _⟩
      rw [← hid, hsent, hst.trans hown]
  next => cases h

/-- A backend that keeps the first success, and a renderer of four bytes. -/
def firstSuccess : ResultBackend where
  store known new :=
    match known with
    | some (.success value) => .success value
    | _ => new
  store_cases known new := by
    cases known with
    | none => exact .inl rfl
    | some found =>
        cases found with
        | success value => exact .inr rfl
        | waiting state => exact .inl rfl
        | failure exc => exact .inl rfl
  keeps_success _ _ := rfl

def fourBytes : Renderer where
  writePdf _ _ := .ok (Base64.latin1 "%PDF")
  saveWorkbook _ _ := .ok (Base64.latin1 "PK\x03\x04")

def exportAdmin : UserContext := ⟨1, .admin, 1⟩

/-- A report submitted and rendered. -/
def pdfRun : List ExportEvent :=
  [.submit exportAdmin (.pdf 2024 .ar6 .it .csrdEsrsE1) (some "k") "drawn", .finish 0 5]

theorem export_download_of_pdf :
    downloadCeleryExport (run (exportStep firstSuccess fourBytes fun _ => "task") {} pdfRun)
        exportAdmin "task" = .ok (fileResponse "pdf" "task" (Base64.latin1 "%PDF")) ∧
      ∃ submitter request idempotencyKey drawn,
        ExportEvent.submit submitter request idempotencyKey drawn ∈ pdfRun ∧
          ShowsNothing (buildReportData request) := by
  have h : downloadCeleryExport (run (exportStep firstSuccess fourBytes fun _ => "task") {} pdfRun)
      exportAdmin "task" = .ok (fileResponse "pdf" "task" (Base64.latin1 "%PDF")) := by decide +kernel
  obtain ⟨submitter, request, key, drawn, _, _, hmem, _, _, _, _, _, hnothing⟩ :=
    export_download_sound firstSuccess fourBytes (fun _ => "task") pdfRun h
  exact ⟨h, submitter, request, key, drawn, hmem, hnothing⟩

/-- What the status endpoint tells any caller, of whatever tenant, is what the owner's download does:
a success is a document of the size it names, which callers of other tenants do not find, and short
of one the download fails, with the failure of the task or as premature. -/
theorem export_status_agrees (events : List ExportEvent) (viewer : UserContext) (taskId : String) :
    let st := run (exportStep B R uuid5) {} events
    ∃ status, celeryTaskStatus st viewer taskId = .ok status ∧
      ((status.state = "SUCCESS" ∧ ∃ payload content, status.result = some payload ∧
          content.length = payload.sizeBytes ∧
          ∀ user, downloadCeleryExport st user taskId =
            if payload.tenantId = user.tenantId then
              .ok (fileResponse payload.jobType taskId content)
            else .error (exportNotFound taskId)) ∨
        (status.state ≠ "SUCCESS" ∧ status.result = none ∧
          ∀ user, ∃ problem, downloadCeleryExport st user taskId = .error problem ∧
            problem.status = if status.state = "FAILURE" then 500 else 409)) := by
  intro st
  cases hmeta : st.result taskId with
  | waiting state =>
      obtain ⟨hsuccess, hfailure⟩ := wire_ne state
      obtain ⟨hstatus, hdownload⟩ := status_waiting viewer hmeta
      refine ⟨_, hstatus, .inr ⟨hsuccess, rfl, fun user => ⟨_, hdownload user, ?_⟩⟩⟩
      rw [if_neg hfailure]
      rfl
  | failure exc =>
      have hne : "FAILURE" ≠ "SUCCESS" := by decide
      obtain ⟨hstatus, hdownload⟩ := status_failure viewer hmeta
      exact ⟨_, hstatus, .inr ⟨hne, rfl, fun user => ⟨_, hdownload user, rfl⟩⟩⟩
  | success value =>
      have hvalue := backend_of_result hmeta
      obtain ⟨m, hm, hid, now, bytes, hbuild, rfl⟩ :=
        genuine_run B R uuid5 events taskId value hvalue
      refine ⟨_, status_success viewer hmeta, .inl ⟨rfl, _, bytes, rfl, rfl, fun user => ?_⟩⟩
      exact download_rendered user hvalue

/-- A document once downloaded stays what the task id gives until it expires, whatever is submitted
or reported under the id. -/
theorem export_result_stable (st : ExportState) {user : UserContext} {taskId : String}
    {response : FileResponse} (h : downloadCeleryExport st user taskId = .ok response)
    (events : List ExportEvent) (hkept : ExportEvent.expire taskId ∉ events) :
    downloadCeleryExport (run (exportStep B R uuid5) st events) user taskId = .ok response := by
  obtain ⟨value, hvalue⟩ := download_eq_ok h
  have hlater := result_run B R uuid5 hkept hvalue
  have hsame : (run (exportStep B R uuid5) st events).result taskId = st.result taskId := by
    rw [ExportState.result, ExportState.result, hvalue, hlater]
  rw [← h]
  unfold downloadCeleryExport
  rw [hsame]

/-- A workbook submitted under the key of the report is not to be had. -/
theorem export_result_of_second_format :
    downloadCeleryExport (run (exportStep firstSuccess fourBytes fun _ => "task")
        (run (exportStep firstSuccess fourBytes fun _ => "task") {} pdfRun)
        [.submit exportAdmin (.excel 2024 .ar6 true true) (some "k") "drawn", .finish 1 6])
      exportAdmin "task" = .ok (fileResponse "pdf" "task" (Base64.latin1 "%PDF")) :=
  export_result_stable firstSuccess fourBytes (fun _ => "task") _ (by decide +kernel) _ (by simp)

end Exports

end GhgTool
