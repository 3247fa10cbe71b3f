import AccessAgent.RunStore
import AccessAgent.Semantics.Transition
import Mathlib.Logic.Function.Basic

/-! Requests in flight together. Each runs in a transaction of its own (`app/db/session.py`): a
statement sees the rows committed so far and those of its own transaction, which the others see
once it commits. A submission reads no table; an escalation reads in two statements, and others may
commit between them. -/

namespace AccessAgent
open Semantics Handler

variable {σ : Type} [Clock σ] (deployment : Deployment σ)

/-! ### The two statements of an escalation -/

/-- The admission of an escalation and its first read. -/
def escalatedRequest (requestId : Uuid) : Handler σ DiagnosticRequestModel := do
  assertAgentNotKilled deployment
  match ← DiagnosticRepository.getRequest deployment requestId with
  | none => throw ⟨.notFoundError,"Diagnostic request " ++ deployment.uuidText requestId ++ " not found"⟩
  | some model => return model

/-- The second read of an escalation, and what it writes. -/
def escalateFound (requestId : Uuid) (escalation : EscalationRequest) (model : DiagnosticRequestModel) :
    Handler σ DiagnosticService.EscalationResponse := do
  let runs ← DiagnosticRepository.listRunsForRequest deployment requestId
  let latestRun ← DiagnosticService.latest runs
  let (lastStep,causeCode) ← DiagnosticService.scenarioOf latestRun
  let occurredAt ← datetimeNow
  AuditService.record deployment (DiagnosticService.escalationEvent model escalation.userSub
    (DiagnosticService.escalationPayload escalation.note lastStep latestRun) occurredAt)
  return ⟨model.correlationId,VerdictMessages.buildEscalationMessage lastStep (DiagnosticService.causeText causeCode)
    (latestRun.bind DiagnosticRunModel.passwordResetUrl) model.correlationId⟩

theorem escalateIntake_statements (requestId : Uuid) (escalation : EscalationRequest) :
    escalateIntake deployment requestId escalation = (do
      let model ← escalatedRequest deployment requestId
      escalateFound deployment requestId escalation model) := by
  rw [escalateIntake,escalatedRequest,Effect.bind_assoc]
  refine bind_congr fun _ => ?_
  rw [DiagnosticService.escalateRequest,Effect.bind_assoc]
  refine bind_congr fun found => ?_
  cases found <;> rfl

/-! ### The transitions -/

/-- The rows that come after those of the first tables. -/
def Tables.since (before after : Tables) : Tables :=
  ⟨after.requests.drop before.requests.length,after.runs.drop before.runs.length,
    after.auditEvents.drop before.auditEvents.length⟩

def Tables.append (tables inserted : Tables) : Tables :=
  ⟨tables.requests ++ inserted.requests,tables.runs ++ inserted.runs,tables.auditEvents ++ inserted.auditEvents⟩

/-- A request in flight: an escalation after its first read, or a handler that has ended and
whose transaction is still open, with the first identifier that was free for it. -/
inductive Work
  | reading (requestId : Uuid) (escalation : EscalationRequest) (model : DiagnosticRequestModel) (startedAt : Datetime)
  | ended (request : ApiRequest) (firstUuid : Nat) (outcome : Except Exn ApiResponse) (inserted : Tables)

def Work.request : Work → ApiRequest
  | .reading requestId escalation _ _ => .escalateIntake requestId escalation
  | .ended request _ _ _ => request

/-- The process, the requests in flight by their connections, and those that are over. -/
structure Service (σ : Type) where
  app : App σ
  work : Nat → Option Work
  served : List Served

def Service.start (world : σ) : Service σ := ⟨App.start world,fun _ => none,[]⟩

/-- What a handler leaves behind before its transaction commits. -/
def App.left (app : App σ) (session : Session σ) : App σ :=
  ⟨session.world,app.committed,session.instances,session.nextUuid⟩

/-- A session that goes on in a transaction begun before. -/
def App.resume (app : App σ) (startedAt : Datetime) : Session σ :=
  ⟨app.world,app.committed,startedAt,app.instances,app.nextUuid⟩

def arrive (app : App σ) : ApiRequest → App σ × Work
  | .submitIntake intake =>
    let (outcome,after) := (handle deployment (.submitIntake intake)).exec app.begin
    (app.left after,.ended (.submitIntake intake) app.nextUuid outcome (app.committed.since after.tables))
  | .escalateIntake requestId escalation =>
    match (escalatedRequest deployment requestId).exec app.begin with
    | (.ok model,after) => (app.left after,.reading requestId escalation model after.startedAt)
    | (.error raised,after) =>
      (app.left after,.ended (.escalateIntake requestId escalation) app.nextUuid (.error raised) ⟨[],[],[]⟩)

def list (app : App σ) (requestId : Uuid) (escalation : EscalationRequest) (model : DiagnosticRequestModel)
    (startedAt : Datetime) : App σ × Work :=
  let (outcome,after) := (escalateFound deployment requestId escalation model).exec (app.resume startedAt)
  (app.left after,.ended (.escalateIntake requestId escalation) app.nextUuid (outcome.map .escalation)
    (app.committed.since after.tables))

/-- The commit after a clean exit, where it answers; otherwise nothing is stored. -/
def finish (app : App σ) (outcome : Except Exn ApiResponse) (inserted : Tables) : Except Exn ApiResponse × App σ :=
  match outcome with
  | .error raised => (.error raised,app)
  | .ok response => match deployment.commit.exec app.world with
    | (.ok (),world) => (.ok response,{app with world := world,committed := app.committed.append inserted})
    | (.error raised,world) => (.error raised,{app with world := world})

inductive Event (σ : Type)
  | elapse (world : σ)
  | arrive (connection : Nat) (request : ApiRequest)
  | list (connection : Nat)
  | finish (connection : Nat)
  | abort (connection : Nat)

namespace Service

def proceed (service : Service σ) (connection : Nat) (next : App σ × Work) : Service σ :=
  {service with app := next.1,work := Function.update service.work connection (some next.2)}

def close (service : Service σ) (connection : Nat) (app : App σ) (served : Served) : Service σ :=
  ⟨app,Function.update service.work connection none,service.served ++ [served]⟩

omit [Clock σ] in
@[simp] theorem proceed_work (service : Service σ) (connection : Nat) (next : App σ × Work) :
    (service.proceed connection next).work connection = some next.2 := Function.update_self ..

omit [Clock σ] in
theorem proceed_work_ne (service : Service σ) {connection other : Nat} (next : App σ × Work) (different : other ≠ connection) :
    (service.proceed connection next).work other = service.work other := Function.update_of_ne different ..

omit [Clock σ] in
@[simp] theorem close_work (service : Service σ) (connection : Nat) (app : App σ) (served : Served) :
    (service.close connection app served).work connection = none := Function.update_self ..

omit [Clock σ] in
theorem close_work_ne (service : Service σ) {connection other : Nat} (app : App σ) (served : Served)
    (different : other ≠ connection) : (service.close connection app served).work other = service.work other :=
  Function.update_of_ne different ..

def step (service : Service σ) : Event σ → Option (Service σ × Option (Except Exn ApiResponse))
  | .elapse world => some ({service with app := {service.app with world := world}},none)
  | .arrive connection request => match service.work connection with
    | none => some (service.proceed connection (AccessAgent.arrive deployment service.app request),none)
    | some _ => none
  | .list connection => match service.work connection with
    | some (.reading requestId escalation model startedAt) =>
      some (service.proceed connection (AccessAgent.list deployment service.app requestId escalation model startedAt),none)
    | _ => none
  | .finish connection => match service.work connection with
    | some (.ended request _ outcome inserted) =>
      let (answer,app) := AccessAgent.finish deployment service.app outcome inserted
      some (service.close connection app ⟨request,succeeds answer⟩,some answer)
    | _ => none
  | .abort connection => match service.work connection with
    | some work => some (service.close connection service.app ⟨work.request,false⟩,none)
    | none => none

/-- The states of a process that starts over an empty database. -/
abbrev Reached (world : σ) (service : Service σ) : Prop :=
  Reaches (step deployment) (fun _ _ => True) (start world) service

end Service

end AccessAgent
