import AccessAgent.Records
import AccessAgent.VerdictMessages

/-! The intake and diagnostic services with their repositories
(`app/services/intake_service.py`, `app/services/diagnostic_service.py`,
`app/repositories`, `AuditService.record`, `app/llm/intake_parser.py`). -/

namespace AccessAgent
open Semantics Handler

variable {σ : Type} [Clock σ] (deployment : Deployment σ)

/-! ### Repositories -/

namespace DiagnosticRepository

def createRequest (request : Uuid → DiagnosticRequestModel) : Handler σ DiagnosticRequestModel := do
  let id ← uuid4
  await deployment.flush
  modifyTables (fun tables => {tables with requests := tables.requests ++ [request id]})
  return request id

def getRequest (requestId : Uuid) : Handler σ (Option DiagnosticRequestModel) := do
  await deployment.select
  let tables ← tables
  return tables.requests.find? (fun request => request.id = requestId)

def createRun (run : Uuid → Datetime → DiagnosticRunModel) : Handler σ Unit := do
  let id ← uuid4
  await deployment.flush
  let startedAt ← transactionStart
  modifyTables (fun tables => {tables with runs := tables.runs ++ [run id startedAt]})

def listRunsForRequest (requestId : Uuid) : Handler σ (List DiagnosticRunModel) := do
  await deployment.select
  let tables ← tables
  return tables.runs.filter (fun run => run.requestId = requestId)

end DiagnosticRepository

namespace AuditRepository

def append (event : Uuid → Datetime → AuditEventModel) : Handler σ Unit := do
  let id ← uuid4
  await deployment.flush
  let occurredAt ← transactionStart
  modifyTables (fun tables => {tables with auditEvents := tables.auditEvents ++ [event id occurredAt]})

end AuditRepository

def AuditEvent.model (event : AuditEvent) (id : Uuid) (occurredAt : Datetime) : AuditEventModel :=
  ⟨id,event.correlationId,event.requesterSub,event.diagnosticSubjectSub,event.eventType.value,
    event.visibilityTier.value,event.payload,occurredAt⟩

def AuditService.record (event : AuditEvent) : Handler σ Unit := do
  AuditRepository.append deployment event.model
  await (deployment.ship event)

/-! ### Services -/

def connectorOf (policy : SystemPolicy) : Handler σ (ConnectorSPI σ) :=
  ⟨fun session =>
    let found := getConnector deployment.connectorTypes policy.systemId policy.connector.type policy.config
      session.instances
    (found.1,{session with instances := found.2})⟩

def buildIntakeUserMessage (freeText : String) : String :=
  "<complaint>\n" ++ freeText ++ "\n</complaint>"

def parseComplaint (intake : ComplaintIntake) : Handler σ DiagnosticRequestDraft :=
  await (deployment.parse (buildIntakeUserMessage intake.freeText))

def systemIdOf (intake : ComplaintIntake) : String :=
  match intake.systemId with
  | some systemId => if systemId = "" then deployment.defaultSystemId else systemId
  | none => deployment.defaultSystemId

def receivedEvent (correlationId subjectSub systemId : String) (draft : DiagnosticRequestDraft)
    (occurredAt : Datetime) : AuditEvent where
  correlationId := correlationId
  requesterSub := subjectSub
  diagnosticSubjectSub := subjectSub
  eventType := .diagnosticRequestReceived
  visibilityTier := .selfServiceUser
  payload := .obj [("system_id",.str systemId),("category",.str draft.complaintCategory.value)]
  occurredAt := occurredAt

def IntakeService.submit (loginId : String) (intake : ComplaintIntake) (correlationId : String) :
    Handler σ DiagnosticRequestModel := do
  let systemId := systemIdOf deployment intake
  let policy ← deployment.policies.get systemId
  let connector ← connectorOf deployment policy
  let subjectSub ← await (connector.resolveSubjectSub loginId)
  match subjectSub with
  | none => throw ⟨.loginNotFoundError,"No user found for login id '" ++ loginId ++ "'"⟩
  | some subjectSub =>
    let draft ← parseComplaint deployment intake
    let request ← DiagnosticRepository.createRequest deployment (fun id =>
      ⟨id,correlationId,subjectSub,subjectSub,systemId,intake.freeText,draft.dump⟩)
    let occurredAt ← datetimeNow
    AuditService.record deployment (receivedEvent correlationId subjectSub systemId draft occurredAt)
    return request

namespace DiagnosticService

def orchestrate (ctx : DiagnosticContext σ) : Handler σ DiagnosticRunResult :=
  ⟨fun session =>
    let outcome := DiagnosticOrchestrator.run.exec ⟨session.world,ctx⟩
    (outcome.1,{session with world := outcome.2.world})⟩

def requestFrom (model : DiagnosticRequestModel) (draft : DiagnosticRequestDraft) : DiagnosticRequest :=
  ⟨model.correlationId,model.requesterSub,model.subjectSub,model.systemId,draft.complaintCategory,
    draft.freeTextSummary⟩

def runModel (requestId : Uuid) (result : DiagnosticRunResult) (id : Uuid) (startedAt : Datetime) :
    DiagnosticRunModel :=
  ⟨id,requestId,result.correlationId,result.stepVerdicts.map VerdictResult.dump,result.outcome.value,
    result.escalated,result.passwordResetUrl,startedAt⟩

def resultEvent (eventType : AuditEventType) (principal : Principal) (subjectSub : String)
    (result : DiagnosticRunResult) (occurredAt : Datetime) : AuditEvent :=
  ⟨result.correlationId,principal.sub,subjectSub,eventType,.selfServiceUser,result.dump,occurredAt⟩

def runDiagnostic (requestId : Uuid) (principal : Principal) : Handler σ DiagnosticRunResult := do
  match ← DiagnosticRepository.getRequest deployment requestId with
  | none => throw ⟨.notFoundError,"Diagnostic request " ++ deployment.uuidText requestId ++ " not found"⟩
  | some model =>
    let draft ← DiagnosticRequestDraft.validate model.parsedDraft
    let request := requestFrom model draft
    let policy ← deployment.policies.get request.systemId
    let connector ← connectorOf deployment policy
    let result ← orchestrate
      (.fresh request principal connector request.correlationId defaultPerStepTimeout)
    DiagnosticRepository.createRun deployment (runModel model.id result)
    let occurredAt ← datetimeNow
    AuditService.record deployment
      (resultEvent .diagnosticRunCompleted principal request.subjectSub result occurredAt)
    if result.escalated then
      let occurredAt ← datetimeNow
      AuditService.record deployment
        (resultEvent .escalationCreated principal request.subjectSub result occurredAt)
      return result
    else return result

def scenarioOf (latestRun : Option DiagnosticRunModel) : Except Exn (Option FunnelStep × Json) :=
  match latestRun.bind (fun run => run.stepVerdicts.getLast?) with
  | none => .ok (none,.null)
  | some lastVerdict => do
    let step ← FunnelStep.parse (← lastVerdict.item "step")
    let causeCode ← lastVerdict.get "cause_code"
    return (some step,causeCode)

structure EscalationResponse where
  correlationId : String
  message : String

/-- `cause_code or ""` inside the cause key; only a string can match an eligible cause. -/
def causeText : Json → Option String
  | .str text => some text
  | _ => none

def latest : List DiagnosticRunModel → Except Exn (Option DiagnosticRunModel)
  | [] => .ok none
  | first::rest => do
    let run ← Datetime.order.scan DiagnosticRunModel.startedAt first rest
    return some run

def escalationPayload (note : Option String) (scenario : Option FunnelStep)
    (latestRun : Option DiagnosticRunModel) : Json :=
  .obj ([("note",.ofOption note),("escalation_reason",.str "user_requested"),
    ("scenario",.ofOption (scenario.map FunnelStep.value))] ++ match latestRun with
      | some run => [("step_verdicts",.arr run.stepVerdicts),("outcome",.str run.outcome)]
      | none => [])

def escalationEvent (model : DiagnosticRequestModel) (userSub : String) (payload : Json)
    (occurredAt : Datetime) : AuditEvent :=
  ⟨model.correlationId,userSub,model.subjectSub,.escalationCreated,.selfServiceUser,payload,occurredAt⟩

def escalateRequest (requestId : Uuid) (userSub : String) (note : Option String) :
    Handler σ EscalationResponse := do
  match ← DiagnosticRepository.getRequest deployment requestId with
  | none => throw ⟨.notFoundError,"Diagnostic request " ++ deployment.uuidText requestId ++ " not found"⟩
  | some model =>
    let runs ← DiagnosticRepository.listRunsForRequest deployment requestId
    let latestRun ← latest runs
    let (lastStep,causeCode) ← scenarioOf latestRun
    let occurredAt ← datetimeNow
    AuditService.record deployment
      (escalationEvent model userSub (escalationPayload note lastStep latestRun) occurredAt)
    return ⟨model.correlationId,VerdictMessages.buildEscalationMessage lastStep (causeText causeCode)
      (latestRun.bind DiagnosticRunModel.passwordResetUrl) model.correlationId⟩

end DiagnosticService

end AccessAgent
