import AccessAgent.Context
import AccessAgent.Policy

/-! The stored records and their JSON columns (`app/models`, `app/audit/events.py`),
and the unit of work that one API request runs in (`app/db/session.py`). -/

namespace AccessAgent
open Semantics

/-! ### JSON forms -/

def Json.ofOption : Option String → Json
  | some text => .str text
  | none => .null

def VerdictResult.dump (verdict : VerdictResult) : Json :=
  .obj [("step",.str verdict.step.value),("status",.str verdict.status.value),
    ("cause_code",.ofOption verdict.causeCode),("detail",.ofOption verdict.detail),
    ("source_connector_id",.ofOption verdict.sourceConnectorId),("evaluated_at",.str verdict.evaluatedAt.json)]

def DiagnosticRunResult.dump (result : DiagnosticRunResult) : Json :=
  .obj [("correlation_id",.str result.correlationId),
    ("step_verdicts",.arr (result.stepVerdicts.map VerdictResult.dump)),
    ("outcome",.str result.outcome.value),("escalated",.bool result.escalated),
    ("password_reset_url",.ofOption result.passwordResetUrl)]

def DiagnosticRequestDraft.dump (draft : DiagnosticRequestDraft) : Json :=
  .obj [("complaint_category",.str draft.complaintCategory.value),
    ("free_text_summary",.str draft.freeTextSummary),("mentioned_subject",.ofOption draft.mentionedSubject)]

def invalidField : Exn := ⟨.pydanticValidationError,"Input is not valid for this field"⟩

def ComplaintCategory.parse (value : Json) : Except Exn ComplaintCategory :=
  match [ComplaintCategory.loginFailure,.permissionDenied,.lockedAccount,.outage,.other].find?
    (fun category => value.isText category.value) with
  | some category => .ok category
  | none => .error invalidField

def DiagnosticRequestDraft.validate : Json → Except Exn DiagnosticRequestDraft
  | .obj fields => do
    let category ← ComplaintCategory.parse ((Json.find "complaint_category" fields).getD .null)
    let summary ← ((Json.find "free_text_summary" fields).getD .null).text
    let subject ← ((Json.find "mentioned_subject" fields).getD .null).optionalText
    return ⟨category,summary,subject⟩
  | _ => .error invalidField

def FunnelStep.parse (value : Json) : Except Exn FunnelStep :=
  match [FunnelStep.systemAvailability,.accountStatus,.authEvents,.authorization,.pathInfrastructure].find?
    (fun step => value.isText step.value) with
  | some step => .ok step
  | none => .error (Exn.valueError (value.pyRepr ++ " is not a valid FunnelStep"))

theorem DiagnosticRequestDraft.validate_dump (draft : DiagnosticRequestDraft) :
    DiagnosticRequestDraft.validate draft.dump = .ok draft := by
  obtain ⟨category,summary,subject⟩ := draft
  cases category <;> cases subject <;> rfl

theorem FunnelStep.parse_value (step : FunnelStep) : FunnelStep.parse (.str step.value) = .ok step := by
  cases step <;> rfl

/-! ### Tables -/

/-- A `uuid4`, named by its place among those drawn so far. -/
abbrev Uuid := Nat

structure DiagnosticRequestModel where
  id : Uuid
  correlationId : String
  requesterSub : String
  subjectSub : String
  systemId : String
  rawComplaintText : String
  parsedDraft : Json

structure DiagnosticRunModel where
  id : Uuid
  requestId : Uuid
  correlationId : String
  stepVerdicts : List Json
  outcome : String
  escalated : Bool
  passwordResetUrl : Option String
  startedAt : Datetime

inductive VisibilityTier
  | selfServiceUser
  | helpdesk
  | iamAdmin
deriving DecidableEq, Repr

def VisibilityTier.value : VisibilityTier → String
  | .selfServiceUser => "self_service_user"
  | .helpdesk => "helpdesk"
  | .iamAdmin => "iam_admin"

inductive AuditEventType
  | diagnosticRequestReceived
  | diagnosticRunCompleted
  | remediationRequested
  | remediationApproved
  | remediationDenied
  | remediationExecuted
  | escalationCreated
  | killSwitchToggled
deriving DecidableEq, Repr

def AuditEventType.value : AuditEventType → String
  | .diagnosticRequestReceived => "diagnostic_request_received"
  | .diagnosticRunCompleted => "diagnostic_run_completed"
  | .remediationRequested => "remediation_requested"
  | .remediationApproved => "remediation_approved"
  | .remediationDenied => "remediation_denied"
  | .remediationExecuted => "remediation_executed"
  | .escalationCreated => "escalation_created"
  | .killSwitchToggled => "kill_switch_toggled"

theorem AuditEventType.value_inj {a b : AuditEventType} : a.value = b.value ↔ a = b := by
  constructor
  · cases a <;> cases b <;> decide
  · intro same
    rw [same]

structure AuditEvent where
  correlationId : String
  requesterSub : String
  diagnosticSubjectSub : String
  eventType : AuditEventType
  visibilityTier : VisibilityTier
  payload : Json
  occurredAt : Datetime

structure AuditEventModel where
  id : Uuid
  correlationId : String
  requesterSub : String
  diagnosticSubjectSub : String
  eventType : String
  visibilityTier : String
  payload : Json
  occurredAt : Datetime

structure Tables where
  requests : List DiagnosticRequestModel
  runs : List DiagnosticRunModel
  auditEvents : List AuditEventModel

/-! ### The unit of work of one request -/

/-- The transaction of a request: the world outside, the tables as the transaction
sees them, its start time, and the state shared by all requests of the process. -/
structure Session (σ : Type) where
  world : σ
  tables : Tables
  startedAt : Datetime
  instances : Instances σ
  nextUuid : Nat

instance {σ : Type} [Clock σ] : Clock (Session σ) where
  now session := ((Clock.now session.world).1,{session with world := (Clock.now session.world).2})

abbrev Handler (σ α : Type) := Effect Exn (Session σ) α

/-- What the process runs against. Every operation that is awaited may raise. -/
structure Deployment (σ : Type) where
  policies : PolicyStore
  connectorTypes : ConnectorTypes σ
  defaultSystemId : String
  agentKillSwitchEnabled : Bool
  uuidText : Uuid → String
  uuidText_injective : Function.Injective uuidText
  parse : String → Effect Exn σ DiagnosticRequestDraft
  flush : Effect Exn σ Unit
  select : Effect Exn σ Unit
  ship : AuditEvent → Effect Exn σ Unit
  commit : Effect Exn σ Unit

namespace Handler
variable {σ α : Type}

def await (program : Effect Exn σ α) : Handler σ α :=
  Effect.zoom Session.world (fun world session => {session with world := world}) program

def tables : Handler σ Tables := Effect.read Session.tables

def modifyTables (change : Tables → Tables) : Handler σ Unit :=
  Effect.update (fun session => {session with tables := change session.tables})

def uuid4 : Handler σ Uuid :=
  ⟨fun session => (.ok session.nextUuid,{session with nextUuid := session.nextUuid + 1})⟩

def transactionStart : Handler σ Datetime := Effect.read Session.startedAt

@[simp] theorem await_exec (program : Effect Exn σ α) (session : Session σ) :
    (await program).exec session = ((program.exec session.world).1,
      {session with world := (program.exec session.world).2}) := rfl

@[simp] theorem tables_exec (session : Session σ) : tables.exec session = (.ok session.tables,session) := rfl

@[simp] theorem modifyTables_exec (change : Tables → Tables) (session : Session σ) :
    (modifyTables change).exec session = (.ok (),{session with tables := change session.tables}) := rfl

@[simp] theorem uuid4_exec (session : Session σ) :
    uuid4.exec session = (.ok session.nextUuid,{session with nextUuid := session.nextUuid + 1}) := rfl

@[simp] theorem transactionStart_exec (session : Session σ) :
    transactionStart.exec session = (.ok session.startedAt,session) := rfl

end Handler

/-! ### A still world with one system -/

theorem zeros_injective : Function.Injective (fun uuid : Uuid => String.ofList (List.replicate uuid '0')) := by
  intro a b same
  have lengths := congrArg List.length (String.ofList_injective same)
  simpa using lengths

def stillDeployment (connector : ConnectorSPI Unit) : Deployment Unit where
  policies := [("openiam",⟨"openiam",⟨"openiam",none,"",10,[]⟩,none,[]⟩)]
  connectorTypes := [("openiam",fun _ _ => connector)]
  defaultSystemId := "openiam"
  agentKillSwitchEnabled := false
  uuidText uuid := String.ofList (List.replicate uuid '0')
  uuidText_injective := zeros_injective
  parse _ := pure ⟨.other,"",none⟩
  flush := pure ()
  select := pure ()
  ship _ := pure ()
  commit := pure ()

end AccessAgent
