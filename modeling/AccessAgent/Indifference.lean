import AccessAgent.Funnel
import AccessAgent.Services
import AccessAgent.Semantics.Lockstep

/-! The complaint text and the answer of the language model have no say in the
diagnosis: two cases that differ only in them run side by side. -/

namespace AccessAgent
open Semantics

variable {σ : Type} [Clock σ]

/-! ### The funnel -/

/-- Two diagnoses that differ at most in what the draft put into the request. -/
structure SameBut (left right : Diagnosis σ) : Prop where
  world : left.world = right.world
  ctx : right.ctx = {left.ctx with request := {left.ctx.request with
    complaintCategory := right.ctx.request.complaintCategory
    freeTextSummary := right.ctx.request.freeTextSummary}}

namespace DiagnosticOrchestrator

abbrev Indifferent {α : Type} (program : Step σ α) : Prop := Lockstep SameBut Eq program program

theorem step1_indifferent : Indifferent (Step1SystemAvailability.run : Step σ VerdictResult) := by
  intro ⟨world,ctx⟩ ⟨_,other⟩ ⟨same,shape⟩
  obtain rfl : world = _ := same
  dsimp only at shape
  rw [Step1SystemAvailability.run_exec,Step1SystemAvailability.run_exec,shape]
  dsimp only
  split <;> exact ⟨rfl,rfl,rfl⟩

theorem step2_indifferent : Indifferent (Step2AccountStatus.run : Step σ VerdictResult) := by
  intro ⟨world,ctx⟩ ⟨_,other⟩ ⟨same,shape⟩
  obtain rfl : world = _ := same
  dsimp only at shape
  rw [Step2AccountStatus.run_exec,Step2AccountStatus.run_exec,shape]
  dsimp only
  split <;> exact ⟨rfl,rfl,rfl⟩

theorem step3_indifferent : Indifferent (Step3AuthEvents.run : Step σ VerdictResult) := by
  intro ⟨world,ctx⟩ ⟨_,other⟩ ⟨same,shape⟩
  obtain rfl : world = _ := same
  dsimp only at shape
  rw [Step3AuthEvents.run_exec,Step3AuthEvents.run_exec,shape]
  dsimp only
  repeat' split
  all_goals exact ⟨rfl,rfl,rfl⟩

theorem step4_indifferent : Indifferent (Step4Authorization.run : Step σ VerdictResult) := by
  intro ⟨world,ctx⟩ ⟨_,other⟩ ⟨same,shape⟩
  obtain rfl : world = _ := same
  dsimp only at shape
  rw [Step4Authorization.run_exec,Step4Authorization.run_exec,shape]
  dsimp only
  repeat' split
  all_goals exact ⟨rfl,rfl,rfl⟩

theorem runStep_indifferent {stepFn : Step σ VerdictResult} (indifferent : Indifferent stepFn) (stepName : FunnelStep) :
    Indifferent (runStepFailClosed stepFn stepName) := by
  apply Lockstep.tryCatch indifferent
  intro raised left right same
  exact ⟨congrArg (fun world => stepError stepName (Clock.now world).1.value) same.world,
    congrArg (fun world => (Clock.now world).2) same.world,same.ctx⟩

theorem walk_indifferent (steps : List (Step σ VerdictResult × FunnelStep))
    (indifferent : ∀ step ∈ steps, Indifferent step.1) : Indifferent (walk steps) := by
  induction steps with
  | nil => exact Lockstep.pure rfl
  | cons step rest ih =>
    apply Lockstep.bind (runStep_indifferent (indifferent step List.mem_cons_self) step.2)
    intro verdict _ same
    obtain rfl := same
    have append : Indifferent (Step.modifyContext (appendVerdict verdict) : Step σ Unit) := by
      intro left right same
      refine ⟨rfl,same.world,?_⟩
      dsimp only [Step.modifyContext_exec]
      rw [same.ctx]
      rfl
    apply Lockstep.bind append
    intro _ _ _
    split
    · exact ih (fun step member => indifferent step (List.mem_cons_of_mem _ member))
    · exact Lockstep.pure rfl

theorem run_indifferent : Indifferent (run : Step σ DiagnosticRunResult) := by
  have modules : ∀ step ∈ (stepModules : List (Step σ VerdictResult × FunnelStep)), Indifferent step.1 := by
    simp only [stepModules,List.forall_mem_cons]
    exact ⟨step1_indifferent,step2_indifferent,step3_indifferent,step4_indifferent,by simp⟩
  apply Lockstep.bind (walk_indifferent stepModules modules)
  intro _ _ _ left right same
  refine ⟨?_,same⟩
  change Agree Eq (finalize left.ctx) (finalize right.ctx)
  rw [same.ctx]
  exact Agree.refl _

end DiagnosticOrchestrator

/-! ### The services -/

structure SameRequest (left right : DiagnosticRequestModel) : Prop where
  id : left.id = right.id
  correlationId : left.correlationId = right.correlationId
  requesterSub : left.requesterSub = right.requesterSub
  subjectSub : left.subjectSub = right.subjectSub
  systemId : left.systemId = right.systemId
  drafts : left.parsedDraft = right.parsedDraft ∨ ∃ first second : DiagnosticRequestDraft,
    left.parsedDraft = first.dump ∧ right.parsedDraft = second.dump

structure SameEvent (left right : AuditEventModel) : Prop where
  id : left.id = right.id
  correlationId : left.correlationId = right.correlationId
  requesterSub : left.requesterSub = right.requesterSub
  diagnosticSubjectSub : left.diagnosticSubjectSub = right.diagnosticSubjectSub
  eventType : left.eventType = right.eventType
  visibilityTier : left.visibilityTier = right.visibilityTier
  occurredAt : left.occurredAt = right.occurredAt

structure SameSession (left right : Session σ) : Prop where
  world : left.world = right.world
  requests : List.Forall₂ SameRequest left.tables.requests right.tables.requests
  runs : left.tables.runs = right.tables.runs
  auditEvents : List.Forall₂ SameEvent left.tables.auditEvents right.tables.auditEvents
  startedAt : left.startedAt = right.startedAt
  instances : left.instances = right.instances
  nextUuid : left.nextUuid = right.nextUuid

/-- The deployment whose language model answers every complaint with the draft. The
shipper only logs, as the code has it. -/
def Deployment.answering (deployment : Deployment σ) (draft : DiagnosticRequestDraft) : Deployment σ :=
  {deployment with
    parse := fun _ => pure draft
    ship := fun _ => pure ()}

namespace SameSession
variable {α : Type}

omit [Clock σ] in
theorem refl (session : Session σ) : SameSession session session where
  world := rfl
  requests := List.forall₂_same.mpr (fun _ _ => ⟨rfl,rfl,rfl,rfl,rfl,Or.inl rfl⟩)
  runs := rfl
  auditEvents := List.forall₂_same.mpr (fun _ _ => ⟨rfl,rfl,rfl,rfl,rfl,rfl,rfl⟩)
  startedAt := rfl
  instances := rfl
  nextUuid := rfl

omit [Clock σ] in
theorem await (program : Effect Exn σ α) :
    Lockstep SameSession Eq (Handler.await program) (Handler.await program) := by
  apply Lockstep.zoom
  · exact fun _ _ same => same.world
  · intro left right world same
    exact ⟨rfl,same.requests,same.runs,same.auditEvents,same.startedAt,same.instances,same.nextUuid⟩

omit [Clock σ] in
theorem uuid : Lockstep SameSession Eq (Handler.uuid4 : Handler σ Uuid) Handler.uuid4 := by
  intro left right same
  exact ⟨same.nextUuid,same.world,same.requests,same.runs,same.auditEvents,same.startedAt,same.instances,
    congrArg (· + 1) same.nextUuid⟩

theorem now : Lockstep SameSession Eq (datetimeNow : Handler σ Datetime) datetimeNow := by
  intro left right same
  exact ⟨congrArg (fun world : σ => (Clock.now world).1.value) same.world,
    congrArg (fun world : σ => (Clock.now world).2) same.world,same.requests,same.runs,same.auditEvents,
    same.startedAt,same.instances,same.nextUuid⟩

omit [Clock σ] in
theorem transactionStart :
    Lockstep SameSession Eq (Handler.transactionStart : Handler σ Datetime) Handler.transactionStart := by
  intro left right same
  exact ⟨same.startedAt,same⟩

variable (deployment : Deployment σ) (first second : DiagnosticRequestDraft)

omit [Clock σ] in
theorem connectorOf (policy : SystemPolicy) : Lockstep SameSession Eq
    (connectorOf (deployment.answering first) policy) (connectorOf (deployment.answering second) policy) := by
  intro left right same
  let found := fun instances => getConnector deployment.connectorTypes policy.systemId policy.connector.type
    policy.config instances
  have answers : Agree Eq (found left.instances).1 (found right.instances).1 := by
    rw [same.instances]
    exact Agree.refl _
  exact ⟨answers,same.world,same.requests,same.runs,same.auditEvents,same.startedAt,
    congrArg (fun instances => (found instances).2) same.instances,same.nextUuid⟩

omit [Clock σ] in
theorem createRequest {left right : Uuid → DiagnosticRequestModel} (rows : ∀ id, SameRequest (left id) (right id)) :
    Lockstep SameSession SameRequest
      (DiagnosticRepository.createRequest (deployment.answering first) left)
      (DiagnosticRepository.createRequest (deployment.answering second) right) := by
  apply Lockstep.bind uuid
  intro id _ rfl
  apply Lockstep.bind (await deployment.flush)
  intro _ _ _
  have append : Lockstep SameSession Eq
      (Handler.modifyTables (fun tables => {tables with requests := tables.requests ++ [left id]}) : Handler σ Unit)
      (Handler.modifyTables (fun tables => {tables with requests := tables.requests ++ [right id]})) := by
    intro s t same
    exact ⟨rfl,same.world,List.rel_append same.requests (List.Forall₂.cons (rows id) List.Forall₂.nil),same.runs,
      same.auditEvents,same.startedAt,same.instances,same.nextUuid⟩
  apply Lockstep.bind append
  intro _ _ _
  exact Lockstep.pure (rows id)

omit [Clock σ] in
theorem getRequest (requestId : Uuid) : Lockstep SameSession (Option.Rel SameRequest)
    (DiagnosticRepository.getRequest (deployment.answering first) requestId)
    (DiagnosticRepository.getRequest (deployment.answering second) requestId) := by
  apply Lockstep.bind (await deployment.select)
  intro _ _ _ left right same
  refine ⟨?_,same⟩
  apply find?_related _ same.requests
  intro request other related
  rw [related.id]

omit [Clock σ] in
theorem createRun (run : Uuid → Datetime → DiagnosticRunModel) : Lockstep SameSession Eq
    (DiagnosticRepository.createRun (deployment.answering first) run)
    (DiagnosticRepository.createRun (deployment.answering second) run) := by
  apply Lockstep.bind uuid
  intro id _ rfl
  apply Lockstep.bind (await deployment.flush)
  intro _ _ _
  apply Lockstep.bind transactionStart
  intro startedAt _ rfl left right same
  exact ⟨rfl,same.world,same.requests,congrArg (· ++ [run id startedAt]) same.runs,same.auditEvents,
    same.startedAt,same.instances,same.nextUuid⟩

omit [Clock σ] in
theorem record {left right : AuditEvent} (rows : ∀ id at', SameEvent (left.model id at') (right.model id at')) :
    Lockstep SameSession Eq (AuditService.record (deployment.answering first) left)
      (AuditService.record (deployment.answering second) right) := by
  have append : Lockstep SameSession Eq (AuditRepository.append (deployment.answering first) left.model)
      (AuditRepository.append (deployment.answering second) right.model) := by
    apply Lockstep.bind uuid
    intro id _ rfl
    apply Lockstep.bind (await deployment.flush)
    intro _ _ _
    apply Lockstep.bind transactionStart
    intro occurredAt _ rfl s t same
    exact ⟨rfl,same.world,same.requests,same.runs,
      List.rel_append same.auditEvents (List.Forall₂.cons (rows id occurredAt) List.Forall₂.nil),
      same.startedAt,same.instances,same.nextUuid⟩
  apply Lockstep.bind append
  intro _ _ _
  exact await (pure ())

theorem submit (intake : ComplaintIntake) (firstText secondText correlationId : String) :
    Lockstep SameSession SameRequest
      (IntakeService.submit (deployment.answering first) intake.loginId {intake with freeText := firstText}
        correlationId)
      (IntakeService.submit (deployment.answering second) intake.loginId {intake with freeText := secondText}
        correlationId) := by
  apply Lockstep.bind (Lockstep.lift (Agree.refl _))
  intro policy _ rfl
  apply Lockstep.bind (connectorOf deployment first second policy)
  intro connector _ rfl
  apply Lockstep.bind (await (connector.resolveSubjectSub intake.loginId))
  intro subject _ rfl
  cases subject with
  | none => exact Lockstep.throw _
  | some subjectSub =>
    have parse : Lockstep SameSession (fun a b => a = first ∧ b = second)
        (parseComplaint (deployment.answering first) {intake with freeText := firstText})
        (parseComplaint (deployment.answering second) {intake with freeText := secondText}) := by
      intro left right same
      exact ⟨⟨rfl,rfl⟩,same⟩
    apply Lockstep.bind parse
    intro _ _ ⟨rfl,rfl⟩
    apply Lockstep.bind
    · apply createRequest
      intro id
      exact ⟨rfl,rfl,rfl,rfl,rfl,Or.inr ⟨_,_,rfl,rfl⟩⟩
    intro request other related
    apply Lockstep.bind now
    intro occurredAt _ rfl
    apply Lockstep.bind
    · apply record
      intro id at'
      exact ⟨rfl,rfl,rfl,rfl,rfl,rfl,rfl⟩
    intro _ _ _
    exact Lockstep.pure related

theorem orchestrate {left right : DiagnosticContext σ} (same : right = {left with request := {left.request with
    complaintCategory := right.request.complaintCategory
    freeTextSummary := right.request.freeTextSummary}}) :
    Lockstep SameSession Eq (DiagnosticService.orchestrate left) (DiagnosticService.orchestrate right) := by
  intro s t related
  obtain ⟨answers,after⟩ := DiagnosticOrchestrator.run_indifferent ⟨s.world,left⟩ ⟨t.world,right⟩
    ⟨related.world,same⟩
  exact ⟨answers,after.world,related.requests,related.runs,related.auditEvents,related.startedAt,
    related.instances,related.nextUuid⟩

theorem runDiagnostic (requestId : Uuid) (principal : Principal) : Lockstep SameSession Eq
    (DiagnosticService.runDiagnostic (deployment.answering first) requestId principal)
    (DiagnosticService.runDiagnostic (deployment.answering second) requestId principal) := by
  apply Lockstep.bind (getRequest deployment first second requestId)
  intro found other related
  cases related with
  | none => exact Lockstep.throw _
  | some related =>
    rename_i left right
    have valid : Agree (fun _ _ => True) (DiagnosticRequestDraft.validate left.parsedDraft)
        (DiagnosticRequestDraft.validate right.parsedDraft) := by
      rcases related.drafts with same | ⟨first,second,shape,shape'⟩
      · rw [same]
        cases DiagnosticRequestDraft.validate right.parsedDraft <;> trivial
      · rw [shape,shape',DiagnosticRequestDraft.validate_dump,DiagnosticRequestDraft.validate_dump]
        trivial
    apply Lockstep.bind (Lockstep.lift valid)
    intro draft other _
    have known : Agree Eq (deployment.policies.get left.systemId) (deployment.policies.get right.systemId) := by
      rw [related.systemId]
      exact Agree.refl _
    apply Lockstep.bind (Lockstep.lift known)
    intro policy _ rfl
    apply Lockstep.bind (connectorOf deployment first second policy)
    intro connector _ rfl
    apply Lockstep.bind
    · apply orchestrate
      simp only [DiagnosticContext.fresh,DiagnosticService.requestFrom,related.correlationId,related.requesterSub,
        related.subjectSub,related.systemId]
    intro result _ rfl
    apply Lockstep.bind
    · rw [related.id]
      apply createRun
    intro _ _ _
    have event : ∀ eventType occurredAt, Lockstep SameSession Eq
        (AuditService.record (deployment.answering first) (DiagnosticService.resultEvent eventType principal
          (DiagnosticService.requestFrom left draft).subjectSub result occurredAt))
        (AuditService.record (deployment.answering second) (DiagnosticService.resultEvent eventType principal
          (DiagnosticService.requestFrom right other).subjectSub result occurredAt)) := by
      intro eventType occurredAt
      apply record
      intro id at'
      exact ⟨rfl,rfl,rfl,related.subjectSub,rfl,rfl,rfl⟩
    apply Lockstep.bind now
    intro completedAt _ rfl
    apply Lockstep.bind (event _ completedAt)
    intro _ _ _
    split
    · apply Lockstep.bind now
      intro escalatedAt _ rfl
      apply Lockstep.bind (event _ escalatedAt)
      intro _ _ _
      exact Lockstep.pure rfl
    · exact Lockstep.pure rfl

end SameSession

/-! ### Two complaints -/

/-- The deployment with its connectors observed; nothing else it does is recorded. -/
def Deployment.traced (deployment : Deployment σ) : Deployment (Traced σ) where
  policies := deployment.policies
  connectorTypes := deployment.connectorTypes.map fun entry =>
    (entry.1,fun connectorId config => (entry.2 connectorId config).traced)
  defaultSystemId := deployment.defaultSystemId
  agentKillSwitchEnabled := deployment.agentKillSwitchEnabled
  uuidText := deployment.uuidText
  uuidText_injective := deployment.uuidText_injective
  parse message := unrecorded (deployment.parse message)
  flush := unrecorded deployment.flush
  select := unrecorded deployment.select
  ship event := unrecorded (deployment.ship event)
  commit := unrecorded deployment.commit

def Session.traced (session : Session σ) : Session (Traced σ) where
  world := ⟨session.world,[]⟩
  tables := session.tables
  startedAt := session.startedAt
  instances := session.instances.map fun entry => (entry.1,entry.2.traced)
  nextUuid := session.nextUuid

structure Case where
  request : DiagnosticRequestModel
  run : DiagnosticRunResult
  message : String

def openCase (deployment : Deployment σ) (intake : ComplaintIntake) (correlationId : String)
    (principal : String → Principal) : Handler σ Case := do
  let request ← IntakeService.submit deployment intake.loginId intake correlationId
  let run ← DiagnosticService.runDiagnostic deployment request.id (principal request.subjectSub)
  return ⟨request,run,VerdictMessages.buildVerdictMessage run⟩

theorem openCase_indifferent (deployment : Deployment σ) (first second : DiagnosticRequestDraft)
    (intake : ComplaintIntake) (firstText secondText correlationId : String) (principal : String → Principal) :
    Lockstep SameSession (fun a b => SameRequest a.request b.request ∧ a.run = b.run ∧ a.message = b.message)
      (openCase (deployment.answering first) {intake with freeText := firstText} correlationId principal)
      (openCase (deployment.answering second) {intake with freeText := secondText} correlationId principal) := by
  apply Lockstep.bind (SameSession.submit deployment first second intake firstText secondText correlationId)
  intro request other related
  apply Lockstep.bind
  · rw [related.id,related.subjectSub]
    apply SameSession.runDiagnostic
  intro run _ rfl
  exact Lockstep.pure ⟨related,rfl,rfl⟩

/-- Two cases of one login and system, whatever their complaint texts and drafts: the same
subject, requester and system are stored, the connector sees the same calls, and the
diagnosis and its message are the same. -/
theorem complaint_has_no_authority (deployment : Deployment σ) (session : Session σ)
    (first second : DiagnosticRequestDraft) (intake : ComplaintIntake) (firstText secondText correlationId : String)
    (principal : String → Principal) :
    let left := (openCase (deployment.traced.answering first) {intake with freeText := firstText} correlationId
      principal).exec session.traced
    let right := (openCase (deployment.traced.answering second) {intake with freeText := secondText} correlationId
      principal).exec session.traced
    Agree (fun a b => SameRequest a.request b.request ∧ a.run = b.run ∧ a.message = b.message) left.1 right.1 ∧
      left.2.world.calls = right.2.world.calls ∧ SameSession left.2 right.2 := by
  intro left right
  obtain ⟨answers,after⟩ := openCase_indifferent deployment.traced first second intake firstText secondText
    correlationId principal session.traced session.traced (SameSession.refl _)
  exact ⟨answers,congrArg Traced.calls after.world,after⟩

end AccessAgent
