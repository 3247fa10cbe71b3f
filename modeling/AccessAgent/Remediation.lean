import AccessAgent.Records

/-! Remediation: playbooks and their registry, the executor with its gates and the
service in front of it (`app/remediation`, `app/services/remediation_service.py`).
The trail notes what the executor asks of its collaborators. -/

namespace AccessAgent
open Semantics

inductive Tier
  | informationalAutomatic
  | reversibleSelfAffecting
  | accessChanging
  | privilegedOutOfScope
deriving DecidableEq, Repr

def Tier.value : Tier → Nat
  | .informationalAutomatic => 0
  | .reversibleSelfAffecting => 1
  | .accessChanging => 2
  | .privilegedOutOfScope => 3

def tiersRequiringApproval : List Tier := [.accessChanging]
def tiersOutOfScope : List Tier := [.privilegedOutOfScope]

inductive ApprovalStatus
  | pending
  | approved
  | denied
  | expired
deriving DecidableEq, Repr

def ApprovalStatus.value : ApprovalStatus → String
  | .pending => "pending"
  | .approved => "approved"
  | .denied => "denied"
  | .expired => "expired"

structure LeasedCredential where
  value : String
  leaseId : String
  leaseDurationSeconds : Int

structure RemediationContext where
  subjectSub : String
  systemId : String
  writeCredential : LeasedCredential
  correlationId : String

structure Playbook (σ : Type) where
  id : String
  tier : Tier
  execute : RemediationContext → Effect Exn σ Json

abbrev PlaybookRegistry (σ : Type) := Dictionary String (Playbook σ)

namespace PlaybookRegistry
variable {σ : Type}

def register (registry : PlaybookRegistry σ) (playbook : Playbook σ) : PlaybookRegistry σ :=
  registry.set playbook.id playbook

def get (registry : PlaybookRegistry σ) (playbookId : String) : Except Exn (Playbook σ) :=
  match registry.find playbookId with
  | some playbook => .ok playbook
  | none => .error (Exn.keyError ("Playbook '" ++ playbookId ++ "' is not registered"))

end PlaybookRegistry

structure RemediationActionModel where
  id : Uuid
  diagnosticRunId : Uuid
  playbookId : String
  tier : Nat
  approvalId : Option String
  status : String
  rollbackData : Option Json
  executedAt : Option Datetime

/-! ### State and collaborators -/

inductive RemediationEvent
  | approvalChecked (ticketId : String) (answer : Option ApprovalStatus)
  | credentialRequested
  | playbookInvoked (playbookId : String)
deriving DecidableEq

structure RemediationState (σ : Type) where
  world : σ
  registry : PlaybookRegistry σ
  actions : List RemediationActionModel
  auditEvents : List AuditEventModel
  nextUuid : Nat
  trail : List RemediationEvent

/-- Everything the executor and its service call or read; each operation may raise. -/
structure Collaborators (σ : Type) where
  agentKillSwitchEnabled : σ → Bool
  remediationKillSwitchEnabled : σ → Bool
  checkApproval : String → Effect Exn σ ApprovalStatus
  getRemediationCredential : Effect Exn σ LeasedCredential
  parseUuid : String → Except Exn Uuid
  uuidText : Uuid → String
  select : Effect Exn σ Unit
  flush : Effect Exn σ Unit

abbrev Remediation (σ α : Type) := Effect Exn (RemediationState σ) α

namespace Remediation
variable {σ α : Type}

def await (program : Effect Exn σ α) : Remediation σ α :=
  Effect.zoom RemediationState.world (fun world state => {state with world := world}) program

def asked (event : Except Exn α → RemediationEvent) (program : Effect Exn σ α) : Remediation σ α :=
  ⟨fun state =>
    let outcome := program.exec state.world
    (outcome.1,{state with world := outcome.2,trail := state.trail ++ [event outcome.1]})⟩

end Remediation

open Remediation

variable {σ : Type} (collaborators : Collaborators σ)

def isRemediationKilled (world : σ) : Bool :=
  collaborators.agentKillSwitchEnabled world || collaborators.remediationKillSwitchEnabled world

def assertRemediationNotKilled : Remediation σ Unit := do
  let killed ← Effect.read (fun state => isRemediationKilled collaborators state.world)
  if killed then throw ⟨.killSwitchEngagedError,"Remediation kill switch is engaged."⟩
  else pure ()

namespace RemediationRepository

def createAction (action : Uuid → RemediationActionModel) : Remediation σ RemediationActionModel := do
  let id ← Effect.read RemediationState.nextUuid
  Effect.update (fun state => {state with nextUuid := state.nextUuid + 1})
  await collaborators.flush
  Effect.update (fun state => {state with actions := state.actions ++ [action id]})
  return action id

def getAction (actionId : Uuid) : Remediation σ (Option RemediationActionModel) := do
  await collaborators.select
  Effect.read (fun state => state.actions.find? (fun action => action.id = actionId))

def updateStatus (actionId : Uuid) (status : String) : Remediation σ Unit := do
  match ← getAction collaborators actionId with
  | none => throw (Exn.valueError ("Remediation action " ++ collaborators.uuidText actionId ++ " not found"))
  | some _ =>
    Effect.update (fun state => {state with actions := state.actions.map fun action =>
      if action.id = actionId then {action with status := status} else action})
    await collaborators.flush

end RemediationRepository

/-! ### The executor -/

structure ExecutorCall where
  remediationActionId : String
  playbookId : String
  subjectSub : String
  systemId : String
  correlationId : String
  approvalTicketId : Option String
deriving DecidableEq

namespace RemediationExecutor

def requireScope (call : ExecutorCall) (playbook : Playbook σ) : Remediation σ Unit :=
  if tiersOutOfScope.contains playbook.tier then
    throw ⟨.remediationTierForbiddenError,"Playbook '" ++ call.playbookId ++ "' is tier " ++
      toString playbook.tier.value ++ ", out of scope; route to the access-request workflow instead."⟩
  else pure ()

def requireApproval (call : ExecutorCall) (playbook : Playbook σ) : Remediation σ Unit :=
  if tiersRequiringApproval.contains playbook.tier then
    match call.approvalTicketId with
    | none => throw ⟨.approvalRequiredError,"Playbook '" ++ call.playbookId ++ "' requires approval"⟩
    | some ticketId => do
      let status ← asked (fun answer => .approvalChecked ticketId answer.toOption)
        (collaborators.checkApproval ticketId)
      if status = .approved then pure ()
      else throw ⟨.approvalRequiredError,"Approval ticket '" ++ ticketId ++ "' is not approved (status=" ++
        status.value ++ ")"⟩
  else pure ()

def remediate (call : ExecutorCall) (playbook : Playbook σ) : Remediation σ Json := do
  let credential ← asked (fun _ => .credentialRequested) collaborators.getRemediationCredential
  let rollbackData ← asked (fun _ => .playbookInvoked call.playbookId)
    (playbook.execute ⟨call.subjectSub,call.systemId,credential,call.correlationId⟩)
  let actionId ← collaborators.parseUuid call.remediationActionId
  RemediationRepository.updateStatus collaborators actionId "executed"
  return rollbackData

def execute (call : ExecutorCall) : Remediation σ Json := do
  assertRemediationNotKilled collaborators
  let registry ← Effect.read RemediationState.registry
  let playbook ← registry.get call.playbookId
  requireScope call playbook
  requireApproval collaborators call playbook
  remediate collaborators call playbook

end RemediationExecutor

namespace RemediationService

def requestRemediation (diagnosticRunId : Uuid) (playbookId : String) (tier : Tier) :
    Remediation σ RemediationActionModel :=
  RemediationRepository.createAction collaborators (fun id =>
    ⟨id,diagnosticRunId,playbookId,tier.value,none,"pending",none,none⟩)

def callFor (action : RemediationActionModel) (subjectSub systemId correlationId : String)
    (approvalTicketId : Option String) : ExecutorCall :=
  ⟨collaborators.uuidText action.id,action.playbookId,subjectSub,systemId,correlationId,approvalTicketId⟩

def execute (actionId : Uuid) (subjectSub systemId correlationId : String) (approvalTicketId : Option String) :
    Remediation σ Json := do
  match ← RemediationRepository.getAction collaborators actionId with
  | none => throw ⟨.notFoundError,"Remediation action " ++ collaborators.uuidText actionId ++ " not found"⟩
  | some action =>
    RemediationExecutor.execute collaborators
      (callFor collaborators action subjectSub systemId correlationId approvalTicketId)

end RemediationService

end AccessAgent
