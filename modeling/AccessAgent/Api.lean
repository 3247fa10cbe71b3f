import AccessAgent.Services

/-! The intake endpoints and the transaction around a request (`app/api/intake.py`,
`app/db/session.py`), and what a sequence of requests does to the committed tables. -/

namespace AccessAgent
open Semantics Handler

variable {σ : Type} [Clock σ] (deployment : Deployment σ)

structure IntakeDiagnosisResponse where
  diagnosticRequestId : String
  correlationId : String
  message : String
  run : DiagnosticRunResult

def assertAgentNotKilled : Handler σ Unit :=
  if deployment.agentKillSwitchEnabled then
    throw ⟨.killSwitchEngagedError,"Agent kill switch is engaged; no new diagnostic runs."⟩
  else pure ()

def submitIntake (intake : ComplaintIntake) : Handler σ IntakeDiagnosisResponse := do
  assertAgentNotKilled deployment
  let uuid ← uuid4
  let correlationId := deployment.uuidText uuid
  let request ← IntakeService.submit deployment intake.loginId intake correlationId
  let run ← DiagnosticService.runDiagnostic deployment request.id ⟨request.subjectSub,[]⟩
  return ⟨deployment.uuidText request.id,correlationId,VerdictMessages.buildVerdictMessage run,run⟩

structure EscalationRequest where
  userSub : String
  note : Option String
deriving DecidableEq

def escalateIntake (diagnosticRequestId : Uuid) (escalation : EscalationRequest) :
    Handler σ DiagnosticService.EscalationResponse := do
  assertAgentNotKilled deployment
  DiagnosticService.escalateRequest deployment diagnosticRequestId escalation.userSub escalation.note

/-! ### Transactions -/

structure App (σ : Type) where
  world : σ
  committed : Tables
  instances : Instances σ
  nextUuid : Nat

def App.start (world : σ) : App σ := ⟨world,⟨[],[],[]⟩,[],0⟩

def App.begin (app : App σ) : Session σ :=
  ⟨(Clock.now app.world).2,app.committed,(Clock.now app.world).1.value,app.instances,app.nextUuid⟩

/-- `get_db` around a handler: commit after a clean exit, roll back on any exception. -/
def transaction {α : Type} (handler : Handler σ α) (app : App σ) : Except Exn α × App σ :=
  match handler.exec app.begin with
  | (.error raised,after) => (.error raised,⟨after.world,app.committed,after.instances,after.nextUuid⟩)
  | (.ok value,after) => match deployment.commit.exec after.world with
    | (.error raised,world) => (.error raised,⟨world,app.committed,after.instances,after.nextUuid⟩)
    | (.ok (),world) => (.ok value,⟨world,after.tables,after.instances,after.nextUuid⟩)

inductive ApiRequest
  | submitIntake (intake : ComplaintIntake)
  | escalateIntake (diagnosticRequestId : Uuid) (escalation : EscalationRequest)
deriving DecidableEq

inductive ApiResponse
  | intake (response : IntakeDiagnosisResponse)
  | escalation (response : DiagnosticService.EscalationResponse)

def handle : ApiRequest → Handler σ ApiResponse
  | .submitIntake intake => do
    let response ← submitIntake deployment intake
    return .intake response
  | .escalateIntake diagnosticRequestId escalation => do
    let response ← escalateIntake deployment diagnosticRequestId escalation
    return .escalation response

def serve (request : ApiRequest) (app : App σ) : Except Exn ApiResponse × App σ :=
  transaction deployment (handle deployment request) app

structure Served where
  request : ApiRequest
  succeeded : Bool
deriving DecidableEq

def succeeds {α : Type} : Except Exn α → Bool
  | .ok _ => true
  | .error _ => false

def serveAll : List ApiRequest → App σ → List Served × App σ
  | [],app => ([],app)
  | request::rest,app =>
    let (response,next) := serve deployment request app
    let (served,last) := serveAll rest next
    (⟨request,succeeds response⟩::served,last)

theorem transaction_failed {α : Type} {handler : Handler σ α} {app after : App σ} {raised : Exn}
    (failed : transaction deployment handler app = (.error raised,after)) :
    after.committed = app.committed := by
  unfold transaction at failed
  split at failed
  next error session ran =>
    obtain ⟨_,rfl⟩ := Prod.mk.inj failed
    rfl
  next value session ran =>
    split at failed
    next error world refused =>
      obtain ⟨_,rfl⟩ := Prod.mk.inj failed
      rfl
    next world committed => cases failed

theorem transaction_succeeded {α : Type} {handler : Handler σ α} {app after : App σ} {value : α}
    (ok : transaction deployment handler app = (.ok value,after)) :
    ∃ session, handler.exec app.begin = (.ok value,session) ∧ after.committed = session.tables ∧
      after.nextUuid = session.nextUuid := by
  unfold transaction at ok
  split at ok
  next error session ran => cases ok
  next answer session ran =>
    split at ok
    next error world refused => cases ok
    next world committed =>
      obtain ⟨same,rfl⟩ := Prod.mk.inj ok
      obtain rfl := Except.ok.inj same
      exact ⟨session,ran,rfl,rfl⟩

end AccessAgent
