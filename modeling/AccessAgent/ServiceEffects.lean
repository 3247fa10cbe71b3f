import AccessAgent.Api

/-! What a successful call of a service adds to the tables, and that no call takes
back a drawn identifier. -/

namespace AccessAgent
open Semantics Handler

variable {σ : Type}

structure Kept (before after : Session σ) : Prop where
  tables : after.tables = before.tables
  nextUuid : after.nextUuid = before.nextUuid
  startedAt : after.startedAt = before.startedAt

theorem await_kept {α : Type} {program : Effect Exn σ α} {before after : Session σ} {value : α}
    (ok : (await program).exec before = (.ok value,after)) : Kept before after := by
  rw [await_exec] at ok
  obtain ⟨_,rfl⟩ := Prod.mk.inj ok
  exact ⟨rfl,rfl,rfl⟩

theorem lift_kept {α : Type} {outcome : Except Exn α} {before after : Session σ} {value : α}
    (ok : (liftM outcome : Handler σ α).exec before = (.ok value,after)) :
    outcome = .ok value ∧ before = after := by
  rw [Effect.lift_exec] at ok
  obtain ⟨answer,rfl⟩ := Prod.mk.inj ok
  exact ⟨answer,rfl⟩

theorem pure_kept {α : Type} {answer value : α} {before after : Session σ}
    (ok : (pure answer : Handler σ α).exec before = (.ok value,after)) : answer = value ∧ before = after := by
  rw [Effect.pure_exec] at ok
  obtain ⟨same,rfl⟩ := Prod.mk.inj ok
  exact ⟨Except.ok.inj same,rfl⟩

theorem now_kept [Clock σ] {before after : Session σ} {now : Datetime}
    (ok : (datetimeNow : Handler σ Datetime).exec before = (.ok now,after)) : Kept before after := by
  obtain ⟨_,rfl⟩ := Prod.mk.inj ok
  exact ⟨rfl,rfl,rfl⟩

variable (deployment : Deployment σ)

theorem createRequest_success {request : Uuid → DiagnosticRequestModel} {before after : Session σ}
    {model : DiagnosticRequestModel}
    (ok : (DiagnosticRepository.createRequest deployment request).exec before = (.ok model,after)) :
    model = request before.nextUuid ∧
      after.tables = {before.tables with requests := before.tables.requests ++ [model]} ∧
      after.nextUuid = before.nextUuid + 1 ∧ after.startedAt = before.startedAt := by
  rw [DiagnosticRepository.createRequest] at ok
  obtain ⟨id,drawn,uuid,ok⟩ := Effect.bind_success ok
  obtain ⟨rfl,rfl⟩ : before.nextUuid = id ∧ {before with nextUuid := before.nextUuid + 1} = drawn := by
    simpa using uuid
  obtain ⟨_,flushed,flush,ok⟩ := Effect.bind_success ok
  obtain ⟨_,added,change,ok⟩ := Effect.bind_success ok
  obtain ⟨rfl,rfl⟩ := pure_kept ok
  have kept := await_kept flush
  obtain ⟨_,rfl⟩ := Prod.mk.inj change
  exact ⟨rfl,by simp only [kept.tables],kept.nextUuid,kept.startedAt⟩

theorem createRun_success {run : Uuid → Datetime → DiagnosticRunModel} {before after : Session σ}
    (ok : (DiagnosticRepository.createRun deployment run).exec before = (.ok (),after)) :
    after.tables = {before.tables with
        runs := before.tables.runs ++ [run before.nextUuid before.startedAt]} ∧
      after.nextUuid = before.nextUuid + 1 ∧ after.startedAt = before.startedAt := by
  rw [DiagnosticRepository.createRun] at ok
  obtain ⟨id,drawn,uuid,ok⟩ := Effect.bind_success ok
  obtain ⟨rfl,rfl⟩ : before.nextUuid = id ∧ {before with nextUuid := before.nextUuid + 1} = drawn := by
    simpa using uuid
  obtain ⟨_,flushed,flush,ok⟩ := Effect.bind_success ok
  obtain ⟨start,same,read,ok⟩ := Effect.bind_success ok
  obtain ⟨rfl,rfl⟩ : flushed.startedAt = start ∧ flushed = same := by simpa using read
  have kept := await_kept flush
  obtain ⟨_,rfl⟩ := Prod.mk.inj ok
  exact ⟨by simp only [kept.tables,kept.startedAt],kept.nextUuid,kept.startedAt⟩

theorem record_success {event : AuditEvent} {before after : Session σ}
    (ok : (AuditService.record deployment event).exec before = (.ok (),after)) :
    after.tables = {before.tables with
        auditEvents := before.tables.auditEvents ++ [event.model before.nextUuid before.startedAt]} ∧
      after.nextUuid = before.nextUuid + 1 ∧ after.startedAt = before.startedAt := by
  rw [AuditService.record,AuditRepository.append] at ok
  obtain ⟨_,appended,append,ship⟩ := Effect.bind_success ok
  have shipped := await_kept ship
  obtain ⟨id,drawn,uuid,append⟩ := Effect.bind_success append
  obtain ⟨rfl,rfl⟩ : before.nextUuid = id ∧ {before with nextUuid := before.nextUuid + 1} = drawn := by
    simpa using uuid
  obtain ⟨_,flushed,flush,append⟩ := Effect.bind_success append
  obtain ⟨start,same,read,append⟩ := Effect.bind_success append
  obtain ⟨rfl,rfl⟩ : flushed.startedAt = start ∧ flushed = same := by simpa using read
  have kept := await_kept flush
  obtain ⟨_,rfl⟩ := Prod.mk.inj append
  refine ⟨?_,?_,?_⟩
  · rw [shipped.tables]
    simp only [kept.tables,kept.startedAt]
  · rw [shipped.nextUuid]
    exact kept.nextUuid
  · rw [shipped.startedAt]
    exact kept.startedAt

theorem getRequest_success {requestId : Uuid} {before after : Session σ} {found : Option DiagnosticRequestModel}
    (ok : (DiagnosticRepository.getRequest deployment requestId).exec before = (.ok found,after)) :
    found = before.tables.requests.find? (fun request => request.id = requestId) ∧ Kept before after := by
  rw [DiagnosticRepository.getRequest] at ok
  obtain ⟨_,selected,select,ok⟩ := Effect.bind_success ok
  have kept := await_kept select
  obtain ⟨tables,same,read,ok⟩ := Effect.bind_success ok
  obtain ⟨rfl,rfl⟩ : selected.tables = tables ∧ selected = same := by simpa using read
  obtain ⟨rfl,rfl⟩ := pure_kept ok
  rw [kept.tables]
  exact ⟨rfl,kept⟩

theorem listRuns_success {requestId : Uuid} {before after : Session σ} {runs : List DiagnosticRunModel}
    (ok : (DiagnosticRepository.listRunsForRequest deployment requestId).exec before = (.ok runs,after)) :
    runs = before.tables.runs.filter (fun run => run.requestId = requestId) ∧ Kept before after := by
  rw [DiagnosticRepository.listRunsForRequest] at ok
  obtain ⟨_,selected,select,ok⟩ := Effect.bind_success ok
  have kept := await_kept select
  obtain ⟨tables,same,read,ok⟩ := Effect.bind_success ok
  obtain ⟨rfl,rfl⟩ : selected.tables = tables ∧ selected = same := by simpa using read
  obtain ⟨rfl,rfl⟩ := pure_kept ok
  rw [kept.tables]
  exact ⟨rfl,kept⟩

theorem connectorOf_kept {policy : SystemPolicy} {before after : Session σ} {connector : ConnectorSPI σ}
    (ok : (connectorOf deployment policy).exec before = (.ok connector,after)) : Kept before after := by
  rw [connectorOf] at ok
  obtain ⟨_,rfl⟩ := Prod.mk.inj ok
  exact ⟨rfl,rfl,rfl⟩

variable [Clock σ]

theorem submit_success {loginId : String} {intake : ComplaintIntake} {correlationId : String}
    {before after : Session σ} {model : DiagnosticRequestModel}
    (ok : (IntakeService.submit deployment loginId intake correlationId).exec before = (.ok model,after)) :
    ∃ (subjectSub : String) (draft : DiagnosticRequestDraft) (occurredAt : Datetime),
      model = ⟨before.nextUuid,correlationId,subjectSub,subjectSub,systemIdOf deployment intake,
        intake.freeText,draft.dump⟩ ∧
      after.tables = {before.tables with
        requests := before.tables.requests ++ [model]
        auditEvents := before.tables.auditEvents ++ [(receivedEvent correlationId subjectSub
          (systemIdOf deployment intake) draft occurredAt).model (before.nextUuid + 1) before.startedAt]} ∧
      after.nextUuid = before.nextUuid + 2 ∧ after.startedAt = before.startedAt := by
  rw [IntakeService.submit] at ok
  obtain ⟨policy,known,found,ok⟩ := Effect.bind_success ok
  obtain ⟨_,rfl⟩ := lift_kept found
  obtain ⟨connector,chosen,choose,ok⟩ := Effect.bind_success ok
  have kept1 := connectorOf_kept deployment choose
  obtain ⟨subject,resolved,resolve,ok⟩ := Effect.bind_success ok
  have kept2 := await_kept resolve
  cases subject with
  | none => cases ok
  | some subjectSub =>
    obtain ⟨draft,parsed,parse,ok⟩ := Effect.bind_success ok
    have kept3 := await_kept parse
    obtain ⟨request,created,create,ok⟩ := Effect.bind_success ok
    obtain ⟨shape,tables,uuid,start⟩ := createRequest_success deployment create
    obtain ⟨occurredAt,dated,date,ok⟩ := Effect.bind_success ok
    have kept4 := now_kept date
    obtain ⟨_,recorded,record,ok⟩ := Effect.bind_success ok
    obtain ⟨rows,drawn,begun⟩ := record_success deployment record
    obtain ⟨rfl,rfl⟩ := pure_kept ok
    have first : parsed.nextUuid = before.nextUuid := by
      rw [kept3.nextUuid,kept2.nextUuid,kept1.nextUuid]
    have same : parsed.startedAt = before.startedAt := by
      rw [kept3.startedAt,kept2.startedAt,kept1.startedAt]
    have untouched : parsed.tables = before.tables := by rw [kept3.tables,kept2.tables,kept1.tables]
    refine ⟨subjectSub,draft,occurredAt,?_,?_,?_,?_⟩
    · rw [shape,first]
    · rw [rows,kept4.tables,tables,untouched,kept4.nextUuid,uuid,first,kept4.startedAt,start,same]
    · rw [drawn,kept4.nextUuid,uuid,first]
    · rw [begun,kept4.startedAt,start,same]

theorem orchestrate_success {ctx : DiagnosticContext σ} (fresh : ctx.verdicts = []) {before after : Session σ}
    {result : DiagnosticRunResult} (ok : (DiagnosticService.orchestrate ctx).exec before = (.ok result,after)) :
    Kept before after ∧ (DiagnosticOrchestrator.run.exec ⟨before.world,ctx⟩).1 = .ok result ∧
      result.correlationId = ctx.correlationId := by
  obtain ⟨last,found,ran⟩ := DiagnosticOrchestrator.run_exec ⟨before.world,ctx⟩ fresh
  rw [DiagnosticService.orchestrate] at ok
  obtain ⟨answer,rfl⟩ := Prod.mk.inj ok
  refine ⟨⟨rfl,rfl,rfl⟩,answer,?_⟩
  rw [ran] at answer
  rw [← Except.ok.inj answer]
  rfl

def Diagnosed (σ : Type) [Clock σ] (result : DiagnosticRunResult) : Prop :=
  ∃ (world : σ) (request : DiagnosticRequest) (principal : Principal) (connector : ConnectorSPI σ),
    (DiagnosticOrchestrator.run.exec ⟨world,.fresh request principal connector request.correlationId
      defaultPerStepTimeout⟩).1 = .ok result

/-- The rows that a completed run adds: one run, its completion, and an escalation if
the run is escalated. -/
def runEvents (principal : Principal) (subjectSub : String) (result : DiagnosticRunResult)
    (completedAt escalatedAt startedAt : Datetime) (nextUuid : Nat) : List AuditEventModel :=
  (DiagnosticService.resultEvent .diagnosticRunCompleted principal subjectSub result completedAt).model
      nextUuid startedAt ::
    if result.escalated then
      [(DiagnosticService.resultEvent .escalationCreated principal subjectSub result escalatedAt).model
        (nextUuid + 1) startedAt]
    else []

theorem runDiagnostic_success {requestId : Uuid} {principal : Principal} {before after : Session σ}
    {result : DiagnosticRunResult}
    (ok : (DiagnosticService.runDiagnostic deployment requestId principal).exec before = (.ok result,after)) :
    ∃ model completedAt escalatedAt,
      before.tables.requests.find? (fun request => request.id = requestId) = some model ∧
      result.correlationId = model.correlationId ∧ Diagnosed σ result ∧
      after.tables = {before.tables with
        runs := before.tables.runs ++ [DiagnosticService.runModel model.id result before.nextUuid before.startedAt]
        auditEvents := before.tables.auditEvents ++ runEvents principal model.subjectSub result completedAt
          escalatedAt before.startedAt (before.nextUuid + 1)} ∧
      before.nextUuid < after.nextUuid := by
  rw [DiagnosticService.runDiagnostic] at ok
  obtain ⟨found,selected,select,ok⟩ := Effect.bind_success ok
  obtain ⟨shape,kept1⟩ := getRequest_success deployment select
  cases found with
  | none => cases ok
  | some model =>
    obtain ⟨draft,_,valid,ok⟩ := Effect.bind_success ok
    obtain ⟨_,rfl⟩ := lift_kept valid
    obtain ⟨policy,_,known,ok⟩ := Effect.bind_success ok
    obtain ⟨_,rfl⟩ := lift_kept known
    obtain ⟨connector,chosen,choose,ok⟩ := Effect.bind_success ok
    have kept2 := connectorOf_kept deployment choose
    obtain ⟨answer,ended,run,ok⟩ := Effect.bind_success ok
    obtain ⟨kept3,ran,correlation⟩ := orchestrate_success rfl run
    obtain ⟨_,stored,store,ok⟩ := Effect.bind_success ok
    obtain ⟨rows,uuid,start⟩ := createRun_success deployment store
    obtain ⟨completedAt,dated,date,ok⟩ := Effect.bind_success ok
    have kept4 := now_kept date
    obtain ⟨_,completed,complete,ok⟩ := Effect.bind_success ok
    obtain ⟨rows2,uuid2,start2⟩ := record_success deployment complete
    have diagnosed : Diagnosed σ answer := ⟨chosen.world,_,_,_,ran⟩
    have first : ended.nextUuid = before.nextUuid := by rw [kept3.nextUuid,kept2.nextUuid,kept1.nextUuid]
    have same : ended.startedAt = before.startedAt := by rw [kept3.startedAt,kept2.startedAt,kept1.startedAt]
    have untouched : ended.tables = before.tables := by rw [kept3.tables,kept2.tables,kept1.tables]
    split at ok
    next escalated =>
      obtain ⟨escalatedAt,dated2,date2,ok⟩ := Effect.bind_success ok
      have kept5 := now_kept date2
      obtain ⟨_,recorded,escalate,ok⟩ := Effect.bind_success ok
      obtain ⟨rows3,uuid3,start3⟩ := record_success deployment escalate
      obtain ⟨rfl,rfl⟩ := pure_kept ok
      refine ⟨model,completedAt,escalatedAt,shape.symm,correlation,diagnosed,?_,?_⟩
      · rw [rows3,kept5.tables,rows2,kept4.tables,rows,untouched,runEvents,if_pos escalated,kept5.nextUuid,uuid2,
          kept4.nextUuid,uuid,first,kept5.startedAt,start2,kept4.startedAt,start,same]
        simp only [List.append_assoc,List.cons_append,List.nil_append]
        rfl
      · rw [uuid3,kept5.nextUuid,uuid2,kept4.nextUuid,uuid,first]
        omega
    next resolved =>
      obtain ⟨rfl,rfl⟩ := pure_kept ok
      refine ⟨model,completedAt,completedAt,shape.symm,correlation,diagnosed,?_,?_⟩
      · rw [rows2,kept4.tables,rows,untouched,runEvents,if_neg resolved,kept4.nextUuid,uuid,first,
          kept4.startedAt,start,same]
        rfl
      · rw [uuid2,kept4.nextUuid,uuid,first]
        omega

theorem escalateRequest_success {requestId : Uuid} {userSub : String} {note : Option String}
    {before after : Session σ} {response : DiagnosticService.EscalationResponse}
    (ok : (DiagnosticService.escalateRequest deployment requestId userSub note).exec before =
      (.ok response,after)) :
    ∃ model latestRun lastStep causeCode occurredAt,
      before.tables.requests.find? (fun request => request.id = requestId) = some model ∧
      DiagnosticService.latest (before.tables.runs.filter (fun run => run.requestId = requestId)) =
        .ok latestRun ∧
      DiagnosticService.scenarioOf latestRun = .ok (lastStep,causeCode) ∧
      response = ⟨model.correlationId,VerdictMessages.buildEscalationMessage lastStep
        (DiagnosticService.causeText causeCode) (latestRun.bind DiagnosticRunModel.passwordResetUrl)
        model.correlationId⟩ ∧
      after.tables = {before.tables with auditEvents := before.tables.auditEvents ++
        [(DiagnosticService.escalationEvent model userSub (DiagnosticService.escalationPayload note lastStep
          latestRun) occurredAt).model before.nextUuid before.startedAt]} ∧
      before.nextUuid < after.nextUuid := by
  rw [DiagnosticService.escalateRequest] at ok
  obtain ⟨found,selected,select,ok⟩ := Effect.bind_success ok
  obtain ⟨shape,kept1⟩ := getRequest_success deployment select
  cases found with
  | none => cases ok
  | some model =>
    obtain ⟨runs,listed,list,ok⟩ := Effect.bind_success ok
    obtain ⟨rows,kept2⟩ := listRuns_success deployment list
    rw [kept1.tables] at rows
    subst rows
    obtain ⟨latestRun,_,newest,ok⟩ := Effect.bind_success ok
    obtain ⟨isLatest,rfl⟩ := lift_kept newest
    obtain ⟨⟨lastStep,causeCode⟩,_,scenario,ok⟩ := Effect.bind_success ok
    obtain ⟨isScenario,rfl⟩ := lift_kept scenario
    obtain ⟨occurredAt,dated,date,ok⟩ := Effect.bind_success ok
    have kept3 := now_kept date
    obtain ⟨_,recorded,record,ok⟩ := Effect.bind_success ok
    obtain ⟨rows,uuid,start⟩ := record_success deployment record
    obtain ⟨rfl,rfl⟩ := pure_kept ok
    refine ⟨model,latestRun,lastStep,causeCode,occurredAt,shape.symm,isLatest,isScenario,rfl,?_,?_⟩
    · rw [rows,kept3.tables,kept2.tables,kept1.tables,kept3.nextUuid,kept2.nextUuid,kept1.nextUuid,
        kept3.startedAt,kept2.startedAt,kept1.startedAt]
    · rw [uuid,kept3.nextUuid,kept2.nextUuid,kept1.nextUuid]
      omega

abbrev Draws {α : Type} (program : Handler σ α) : Prop :=
  Always (fun before after => before.nextUuid ≤ after.nextUuid) program

namespace Draws
variable {α β : Type}

omit [Clock σ] in
theorem still {program : Handler σ α}
    (same : ∀ session, (program.exec session).2.nextUuid = session.nextUuid) : Draws program :=
  fun session => (same session).ge

omit [Clock σ] in
theorem bind {program : Handler σ α} {next : α → Handler σ β} (first : Draws program)
    (rest : ∀ value, Draws (next value)) : Draws (program >>= next) := by
  apply Always.bind _ first rest
  intro before middle after early late
  exact Nat.le_trans early late

omit [Clock σ] in
theorem uuid : Draws (uuid4 : Handler σ Uuid) := fun session => Nat.le_succ session.nextUuid

omit [Clock σ] in
theorem skip {program : Handler σ α} {next : α → Handler σ β}
    (same : ∀ session, (program.exec session).2.nextUuid = session.nextUuid) (rest : ∀ value, Draws (next value)) :
    Draws (program >>= next) :=
  bind (still same) rest

end Draws

omit [Clock σ] in
theorem record_draws (event : AuditEvent) : Draws (AuditService.record deployment event) := by
  refine Draws.bind ?_ (fun _ => Draws.still (fun _ => rfl))
  refine Draws.bind Draws.uuid (fun id => Draws.skip (fun _ => rfl) (fun _ => ?_))
  exact Draws.still (fun _ => rfl)

omit [Clock σ] in
theorem getRequest_draws (requestId : Uuid) : Draws (DiagnosticRepository.getRequest deployment requestId) := by
  refine Draws.skip (fun _ => rfl) ?_
  exact fun _ => Draws.still (fun _ => rfl)

omit [Clock σ] in
theorem listRunsForRequest_draws (requestId : Uuid) : Draws (DiagnosticRepository.listRunsForRequest deployment requestId) := by
  refine Draws.skip (fun _ => rfl) ?_
  exact fun _ => Draws.still (fun _ => rfl)

omit [Clock σ] in
theorem createRequest_draws (request : Uuid → DiagnosticRequestModel) :
    Draws (DiagnosticRepository.createRequest deployment request) := by
  apply Draws.bind Draws.uuid
  intro id
  refine Draws.skip (fun _ => rfl) ?_
  exact fun _ => Draws.still (fun _ => rfl)

omit [Clock σ] in
theorem createRun_draws (run : Uuid → Datetime → DiagnosticRunModel) :
    Draws (DiagnosticRepository.createRun deployment run) := by
  apply Draws.bind Draws.uuid
  intro id
  refine Draws.skip (fun _ => rfl) ?_
  exact fun _ => Draws.still (fun _ => rfl)

theorem submit_draws (loginId : String) (intake : ComplaintIntake) (correlationId : String) :
    Draws (IntakeService.submit deployment loginId intake correlationId) := by
  refine Draws.skip (fun _ => rfl) ?_
  intro policy
  refine Draws.skip (fun _ => rfl) ?_
  intro connector
  refine Draws.skip (fun _ => rfl) ?_
  intro subject
  cases subject with
  | none => exact Draws.still (fun _ => rfl)
  | some subjectSub =>
    refine Draws.skip (fun _ => rfl) ?_
    intro draft
    apply Draws.bind (createRequest_draws deployment _)
    intro request
    refine Draws.skip (fun _ => rfl) ?_
    intro occurredAt
    apply Draws.bind (record_draws deployment _)
    exact fun _ => Draws.still (fun _ => rfl)

theorem runDiagnostic_draws (requestId : Uuid) (principal : Principal) :
    Draws (DiagnosticService.runDiagnostic deployment requestId principal) := by
  apply Draws.bind (getRequest_draws deployment requestId)
  intro found
  cases found with
  | none => exact Draws.still (fun _ => rfl)
  | some model =>
    refine Draws.skip (fun _ => rfl) ?_
    intro draft
    refine Draws.skip (fun _ => rfl) ?_
    intro policy
    refine Draws.skip (fun _ => rfl) ?_
    intro connector
    refine Draws.skip (fun _ => rfl) ?_
    intro result
    apply Draws.bind (createRun_draws deployment _)
    intro run
    refine Draws.skip (fun _ => rfl) ?_
    intro completedAt
    apply Draws.bind (record_draws deployment _)
    intro completed
    split
    · refine Draws.skip (fun _ => rfl) ?_
      intro escalatedAt
      apply Draws.bind (record_draws deployment _)
      exact fun _ => Draws.still (fun _ => rfl)
    · exact Draws.still (fun _ => rfl)

theorem escalateRequest_draws (requestId : Uuid) (userSub : String) (note : Option String) :
    Draws (DiagnosticService.escalateRequest deployment requestId userSub note) := by
  apply Draws.bind (getRequest_draws deployment requestId)
  intro found
  cases found with
  | none => exact Draws.still (fun _ => rfl)
  | some model =>
    apply Draws.bind (listRunsForRequest_draws deployment requestId)
    intro runs
    refine Draws.skip (fun _ => rfl) ?_
    intro latestRun
    refine Draws.skip (fun _ => rfl) ?_
    intro scenario
    refine Draws.skip (fun _ => rfl) ?_
    intro occurredAt
    apply Draws.bind (record_draws deployment _)
    exact fun _ => Draws.still (fun _ => rfl)

theorem handle_draws (request : ApiRequest) : Draws (handle deployment request) := by
  have gate : Draws (assertAgentNotKilled deployment) := by
    rw [assertAgentNotKilled]
    split <;> exact Draws.still (fun _ => rfl)
  cases request with
  | submitIntake intake =>
    refine Draws.bind ?_ (fun _ => Draws.still (fun _ => rfl))
    apply Draws.bind gate
    intro admitted
    apply Draws.bind Draws.uuid
    intro uuid
    apply Draws.bind (submit_draws deployment _ _ _)
    intro model
    apply Draws.bind (runDiagnostic_draws deployment _ _)
    exact fun run => Draws.still (fun _ => rfl)
  | escalateIntake requestId escalation =>
    refine Draws.bind ?_ (fun _ => Draws.still (fun _ => rfl))
    apply Draws.bind gate
    exact fun admitted => escalateRequest_draws deployment _ _ _

end AccessAgent
