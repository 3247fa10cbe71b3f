import AccessAgent.EscalationAnswers
import AccessAgent.ConnectorCache

/-! A submission is answered, whatever is stored and whoever else is in flight, where its login is
known and the language model, the database and the log answer. Its one run goes over the connector
that the policies give for its system, which the registry has kept or builds now. -/

namespace AccessAgent
open Semantics Handler

variable {σ : Type} [Clock σ] {deployment : Deployment σ}

omit [Clock σ] in
theorem bind_ends {α β : Type} {program : Handler σ α} {next : α → Handler σ β} {before middle : Session σ} {value : α} {result : β}
    (answered : program.exec before = (.ok value,middle)) (ends : ∃ after, (next value).exec middle = (.ok result,after)) :
    ∃ after, (program >>= next).exec before = (.ok result,after) := by
  rwa [Effect.bind_answered answered]

/-! ### The registry of the process -/

/-- The program leaves in the registry only connectors that the policies give. -/
abbrev KeepsRegistry (deployment : Deployment σ) {α : Type} (program : Handler σ α) : Prop :=
  Always (fun before after => Memo.Agrees (makeConnector deployment) before.instances →
    Memo.Agrees (makeConnector deployment) after.instances) program

namespace KeepsRegistry
variable {α β : Type}

omit [Clock σ] in
theorem still {program : Handler σ α} (same : ∀ session, (program.exec session).2.instances = session.instances) :
    KeepsRegistry deployment program := by
  intro session agrees
  rwa [same]

omit [Clock σ] in
theorem bind {program : Handler σ α} {next : α → Handler σ β} (first : KeepsRegistry deployment program)
    (rest : ∀ value, KeepsRegistry deployment (next value)) : KeepsRegistry deployment (program >>= next) :=
  Always.bind (fun _ _ _ early late agrees => late (early agrees)) first rest

omit [Clock σ] in
theorem kept {program : Handler σ α} (discards : KeepsRegistry deployment (discarded program)) :
    KeepsRegistry deployment program := by
  intro session agrees
  have after := discards session agrees
  rw [discarded,Effect.bind_exec] at after
  rcases ran : program.exec session with ⟨raised | value,left⟩
  · rwa [ran] at after
  · rwa [ran] at after

end KeepsRegistry

/-- Policies are stored under their own ids, as the loader stores them. -/
def OwnPolicies (deployment : Deployment σ) : Prop :=
  ∀ systemId policy, deployment.policies.find systemId = some policy → policy.systemId = systemId

theorem call_keeps (own : OwnPolicies deployment) (call : ServiceCall) : KeepsRegistry deployment (call.serve deployment) := by
  intro session agrees
  obtain ⟨keys,ran⟩ := call.serve_memo own agrees
  rw [(Prod.mk.inj ran).2]
  exact Memo.run_agrees agrees keys

omit [Clock σ] in
theorem gate_keeps : KeepsRegistry deployment (assertAgentNotKilled deployment) := by
  rw [assertAgentNotKilled]
  split <;> exact KeepsRegistry.still (fun _ => rfl)

theorem submitIntake_keeps (own : OwnPolicies deployment) (intake : ComplaintIntake) :
    KeepsRegistry deployment (submitIntake deployment intake) := by
  apply KeepsRegistry.bind gate_keeps
  intro admitted
  apply KeepsRegistry.bind (KeepsRegistry.still fun _ => rfl)
  intro uuid
  apply KeepsRegistry.bind (KeepsRegistry.kept (call_keeps own (.submit _ _ _)))
  intro request
  apply KeepsRegistry.bind (KeepsRegistry.kept (call_keeps own (.runDiagnostic _ _)))
  exact fun run => KeepsRegistry.still (fun _ => rfl)

omit [Clock σ] in
theorem escalatedRequest_keeps (requestId : Uuid) : KeepsRegistry deployment (escalatedRequest deployment requestId) := by
  apply KeepsRegistry.bind gate_keeps
  intro admitted
  apply KeepsRegistry.bind
  · apply KeepsRegistry.bind (KeepsRegistry.still fun _ => rfl)
    exact fun _ => KeepsRegistry.still (fun _ => rfl)
  intro found
  cases found <;> exact KeepsRegistry.still (fun _ => rfl)

theorem escalateFound_keeps (requestId : Uuid) (escalation : EscalationRequest) (model : DiagnosticRequestModel) :
    KeepsRegistry deployment (escalateFound deployment requestId escalation model) := by
  apply KeepsRegistry.bind
  · apply KeepsRegistry.bind (KeepsRegistry.still fun _ => rfl)
    exact fun _ => KeepsRegistry.still (fun _ => rfl)
  intro runs
  apply KeepsRegistry.bind (KeepsRegistry.still fun _ => rfl)
  intro latestRun
  apply KeepsRegistry.bind (KeepsRegistry.still fun _ => rfl)
  intro scenario
  apply KeepsRegistry.bind (KeepsRegistry.still fun _ => rfl)
  intro occurredAt
  apply KeepsRegistry.bind (KeepsRegistry.still (record_spares deployment _))
  exact fun _ => KeepsRegistry.still (fun _ => rfl)

theorem arrive_keeps (own : OwnPolicies deployment) (app : App σ) (request : ApiRequest)
    (agrees : Memo.Agrees (makeConnector deployment) app.instances) :
    Memo.Agrees (makeConnector deployment) (arrive deployment app request).1.instances := by
  cases request with
  | submitIntake intake =>
    have handled : KeepsRegistry deployment (handle deployment (.submitIntake intake)) :=
      KeepsRegistry.bind (submitIntake_keeps own intake) fun _ => KeepsRegistry.still (fun _ => rfl)
    exact handled app.begin agrees
  | escalateIntake requestId escalation =>
    have keeps : KeepsRegistry deployment (escalatedRequest deployment requestId) := escalatedRequest_keeps requestId
    have kept := keeps app.begin agrees
    rw [arrive]
    rcases ran : (escalatedRequest deployment requestId).exec app.begin with ⟨raised | model,after⟩
    · rwa [ran] at kept
    · rwa [ran] at kept

omit [Clock σ] in
theorem finish_instances (deployment : Deployment σ) (app : App σ) (outcome : Except Exn ApiResponse) (inserted : Tables) :
    (finish deployment app outcome inserted).2.instances = app.instances := by
  cases outcome with
  | error raised => rfl
  | ok response =>
    rw [finish]
    rcases deployment.commit.exec app.world with ⟨raised | _,world⟩ <;> rfl

theorem Service.reached_registry (own : OwnPolicies deployment) {world : σ} {service : Service σ}
    (reached : Service.Reached deployment world service) :
    Memo.Agrees (makeConnector deployment) service.app.instances := by
  apply reached.invariant
  · exact Memo.agrees_nil
  · intro before event after output agrees _ taken
    cases event with
    | elapse later =>
      obtain ⟨rfl,rfl⟩ := Prod.mk.inj (Option.some.inj taken)
      exact agrees
    | arrive connection request =>
      rw [Service.step] at taken
      split at taken
      next free =>
        obtain ⟨rfl,rfl⟩ := Prod.mk.inj (Option.some.inj taken)
        exact arrive_keeps own before.app request agrees
      next busy => cases taken
    | list connection =>
      rw [Service.step] at taken
      split at taken
      next requestId escalation model startedAt reading =>
        obtain ⟨rfl,rfl⟩ := Prod.mk.inj (Option.some.inj taken)
        exact escalateFound_keeps requestId escalation model (before.app.resume startedAt) agrees
      next => cases taken
    | finish connection =>
      rw [Service.step] at taken
      split at taken
      next request firstUuid outcome inserted ended =>
        have same := finish_instances deployment before.app outcome inserted
        generalize AccessAgent.finish deployment before.app outcome inserted = finished at taken same
        obtain ⟨rfl,rfl⟩ := Prod.mk.inj (Option.some.inj taken)
        rw [Service.close,same]
        exact agrees
      next => cases taken
    | abort connection =>
      rw [Service.step] at taken
      split at taken
      next work found =>
        obtain ⟨rfl,rfl⟩ := Prod.mk.inj (Option.some.inj taken)
        exact agrees
      next => cases taken

/-! ### A submission that goes through -/

/-- The service takes the complaint, knows its login, and diagnoses it over this connector. -/
structure Attends (deployment : Deployment σ) (intake : ComplaintIntake) (connector : ConnectorSPI σ) (subjectSub : String) :
    Prop where
  admitted : deployment.agentKillSwitchEnabled = false
  responsive : Responsive deployment
  parses : ∀ message world, ∃ draft next, (deployment.parse message).exec world = (.ok draft,next)
  own : OwnPolicies deployment
  connects : makeConnector deployment (systemIdOf deployment intake) = .ok connector
  resolves : ∀ world, ∃ next, (connector.resolveSubjectSub intake.loginId).exec world = (.ok (some subjectSub),next)

namespace Responsive
variable (responsive : Responsive deployment)
include responsive

omit [Clock σ] in
theorem createRequest_exec (request : Uuid → DiagnosticRequestModel) (session : Session σ) : ∃ world,
    (DiagnosticRepository.createRequest deployment request).exec session = (.ok (request session.nextUuid),{session with
      world := world
      nextUuid := session.nextUuid + 1
      tables := {session.tables with requests := session.tables.requests ++ [request session.nextUuid]}}) := by
  obtain ⟨flushed,flush⟩ := responsive.flush session.world
  refine ⟨flushed,?_⟩
  simp only [DiagnosticRepository.createRequest,Effect.bind_exec,uuid4_exec,await_exec,flush,modifyTables_exec,Effect.pure_exec]

omit [Clock σ] in
theorem createRun_exec (run : Uuid → Datetime → DiagnosticRunModel) (session : Session σ) : ∃ after,
    (DiagnosticRepository.createRun deployment run).exec session = (.ok (),after) := by
  obtain ⟨flushed,flush⟩ := responsive.flush session.world
  simp only [DiagnosticRepository.createRun,Effect.bind_exec,uuid4_exec,await_exec,flush,transactionStart_exec,modifyTables_exec]
  exact ⟨_,rfl⟩

omit [Clock σ] in
theorem getRequest_exec {requestId : Uuid} {session : Session σ} {request : DiagnosticRequestModel}
    (found : session.tables.requests.find? (fun request => request.id = requestId) = some request) : ∃ world,
    (DiagnosticRepository.getRequest deployment requestId).exec session = (.ok (some request),{session with world := world}) := by
  obtain ⟨world,select⟩ := responsive.select session.world
  refine ⟨world,?_⟩
  simp only [DiagnosticRepository.getRequest,Effect.bind_exec,await_exec,select,tables_exec,Effect.pure_exec,found]

end Responsive

theorem submit_connects (loginId : String) (intake : ComplaintIntake) (correlationId : String) :
    IntakeService.submit deployment loginId intake correlationId = lookupConnector deployment (systemIdOf deployment intake) >>=
      IntakeService.submitWith deployment loginId intake correlationId := by
  simp only [IntakeService.submit,lookupConnector,Effect.bind_assoc]
  rfl

theorem diagnose_connects {request : DiagnosticRequestModel} {draft : DiagnosticRequestDraft}
    (drafted : request.parsedDraft = draft.dump) (principal : Principal) {session : Session σ} {world : σ}
    (get : (DiagnosticRepository.getRequest deployment request.id).exec session =
      (.ok (some request),{session with world := world})) :
    (DiagnosticService.runDiagnostic deployment request.id principal).exec session =
      (lookupConnector deployment request.systemId >>= DiagnosticService.runWith deployment request draft principal).exec
        {session with world := world} := by
  rw [DiagnosticService.runDiagnostic,Effect.bind_answered get]
  dsimp only
  rw [drafted,DiagnosticRequestDraft.validate_dump,Effect.bind_answered (Effect.lift_exec _ _),lookupConnector,Effect.bind_assoc]
  rfl

namespace Attends
variable {intake : ComplaintIntake} {connector : ConnectorSPI σ} {subjectSub : String}
variable (attends : Attends deployment intake connector subjectSub)
include attends

omit [Clock σ] in
theorem lookup_exec {session : Session σ} (agrees : Memo.Agrees (makeConnector deployment) session.instances) : ∃ instances,
    (lookupConnector deployment (systemIdOf deployment intake)).exec session =
      (.ok connector,{session with instances := instances}) := by
  have found := lookupConnector_memo attends.own agrees (systemIdOf deployment intake)
  rw [Memo.lookup_answer agrees,attends.connects] at found
  exact ⟨_,found⟩

theorem submit_ends (correlationId : String) {session : Session σ}
    (agrees : Memo.Agrees (makeConnector deployment) session.instances) : ∃ draft : DiagnosticRequestDraft, ∃ after,
    (IntakeService.submit deployment intake.loginId intake correlationId).exec session = (.ok ⟨session.nextUuid,correlationId,
      subjectSub,subjectSub,systemIdOf deployment intake,intake.freeText,draft.dump⟩,after) := by
  obtain ⟨instances,lookup⟩ := attends.lookup_exec agrees
  obtain ⟨resolved,resolve⟩ := attends.resolves session.world
  obtain ⟨draft,parsed,parse⟩ := attends.parses (buildIntakeUserMessage intake.freeText) resolved
  obtain ⟨created,create⟩ := attends.responsive.createRequest_exec (fun id => ⟨id,correlationId,subjectSub,subjectSub,
    systemIdOf deployment intake,intake.freeText,draft.dump⟩) {session with instances := instances,world := parsed}
  have awaited : (await (connector.resolveSubjectSub intake.loginId)).exec {session with instances := instances} =
      (.ok (some subjectSub),{session with instances := instances,world := resolved}) := by
    rw [await_exec,resolve]
  have drafted : (parseComplaint deployment intake).exec {session with instances := instances,world := resolved} =
      (.ok draft,{session with instances := instances,world := parsed}) := by
    rw [parseComplaint,await_exec,parse]
  refine ⟨draft,?_⟩
  rw [submit_connects]
  refine bind_ends lookup (bind_ends awaited (bind_ends drafted (bind_ends create (bind_ends rfl ?_))))
  obtain ⟨recorded,record⟩ := attends.responsive.record_exec _ _
  exact bind_ends record ⟨_,rfl⟩

/-- A stored complaint is diagnosed, in a run over the connector of its system. -/
theorem diagnose_ends {request : DiagnosticRequestModel} {draft : DiagnosticRequestDraft} (drafted : request.parsedDraft = draft.dump)
    (system : request.systemId = systemIdOf deployment intake) (principal : Principal) {session : Session σ}
    (agrees : Memo.Agrees (makeConnector deployment) session.instances)
    (found : session.tables.requests.find? (fun other => other.id = request.id) = some request) : ∃ started result,
    (DiagnosticOrchestrator.run.exec ⟨started,.fresh (DiagnosticService.requestFrom request draft) principal connector
        request.correlationId defaultPerStepTimeout⟩).1 = .ok result ∧
      ∃ after, (DiagnosticService.runDiagnostic deployment request.id principal).exec session = (.ok result,after) := by
  obtain ⟨world,get⟩ := attends.responsive.getRequest_exec found
  have agreed : Memo.Agrees (makeConnector deployment) {session with world := world}.instances := agrees
  obtain ⟨instances,lookup⟩ := attends.lookup_exec agreed
  let ctx : DiagnosticContext σ := .fresh (DiagnosticService.requestFrom request draft) principal connector
    request.correlationId defaultPerStepTimeout
  obtain ⟨last,_,ran⟩ := DiagnosticOrchestrator.run_exec (⟨world,ctx⟩ : Diagnosis σ) rfl
  have orchestrated : (DiagnosticService.orchestrate ctx).exec {session with world := world,instances := instances} =
      (.ok (DiagnosticOrchestrator.resultOf ⟨world,ctx⟩ last),{session with
        world := (DiagnosticOrchestrator.final DiagnosticOrchestrator.stepModules ⟨world,ctx⟩).world,instances := instances}) := by
    rw [DiagnosticService.orchestrate]
    dsimp only
    rw [ran]
  refine ⟨world,_,congrArg Prod.fst ran,?_⟩
  rw [diagnose_connects drafted principal get,system]
  refine bind_ends lookup (bind_ends orchestrated ?_)
  obtain ⟨stored,store⟩ := attends.responsive.createRun_exec _ _
  refine bind_ends store (bind_ends rfl ?_)
  obtain ⟨completed,complete⟩ := attends.responsive.record_exec _ _
  refine bind_ends complete ?_
  split
  next escalated =>
    refine bind_ends rfl ?_
    obtain ⟨recorded,record⟩ := attends.responsive.record_exec _ _
    exact bind_ends record ⟨_,rfl⟩
  next resolved => exact ⟨_,rfl⟩

/-- The row of the complaint, under the identifiers drawn for it. -/
def requestRow (deployment : Deployment σ) (intake : ComplaintIntake) (subjectSub : String) (uuid : Nat)
    (draft : DiagnosticRequestDraft) : DiagnosticRequestModel :=
  ⟨uuid + 1,deployment.uuidText uuid,subjectSub,subjectSub,systemIdOf deployment intake,intake.freeText,draft.dump⟩

/-- The diagnosis of the complaint, in a world. -/
def diagnosis (deployment : Deployment σ) (intake : ComplaintIntake) (connector : ConnectorSPI σ) (subjectSub : String) (uuid : Nat)
    (draft : DiagnosticRequestDraft) (started : σ) : Diagnosis σ :=
  ⟨started,.fresh (DiagnosticService.requestFrom (requestRow deployment intake subjectSub uuid draft) draft) ⟨subjectSub,[]⟩
    connector (deployment.uuidText uuid) defaultPerStepTimeout⟩

theorem intake_ends {session : Session σ} (agrees : Memo.Agrees (makeConnector deployment) session.instances)
    (fresh : ∀ request ∈ session.tables.requests, request.id < session.nextUuid) : ∃ draft started response after,
    (submitIntake deployment intake).exec session = (.ok response,after) ∧
      after.tables.requests = session.tables.requests ++ [requestRow deployment intake subjectSub session.nextUuid draft] ∧
      (DiagnosticOrchestrator.run.exec (diagnosis deployment intake connector subjectSub session.nextUuid draft started)).1 =
        .ok response.run := by
  let drawn : Session σ := {session with nextUuid := session.nextUuid + 1}
  obtain ⟨draft,submitted,submit⟩ := attends.submit_ends (deployment.uuidText session.nextUuid)
    (show Memo.Agrees (makeConnector deployment) drawn.instances from agrees)
  obtain ⟨_,_,_,_,stored,_,_⟩ := submit_success deployment submit
  have kept := KeepsRegistry.kept (call_keeps attends.own (.submit intake.loginId intake (deployment.uuidText session.nextUuid)))
    drawn agrees
  have registry : Memo.Agrees (makeConnector deployment) submitted.instances := by
    rwa [submit] at kept
  let row := requestRow deployment intake subjectSub session.nextUuid draft
  have rows : submitted.tables.requests = session.tables.requests ++ [row] := by
    rw [stored]
    rfl
  have found : submitted.tables.requests.find? (fun other => other.id = row.id) = some row := by
    have none : session.tables.requests.find? (fun other => other.id = row.id) = none := by
      rw [List.find?_eq_none]
      intro request old
      have smaller := fresh request old
      simp only [decide_eq_true_eq]
      exact Nat.ne_of_lt (Nat.lt_succ_of_lt smaller)
    rw [rows,List.find?_append,none]
    simp
  obtain ⟨started,result,ran,after,diagnose⟩ := attends.diagnose_ends (show row.parsedDraft = draft.dump from rfl) rfl
    ⟨subjectSub,[]⟩ registry found
  obtain ⟨_,_,_,_,_,_,ended,_⟩ := runDiagnostic_success deployment diagnose
  refine ⟨draft,started,⟨deployment.uuidText row.id,deployment.uuidText session.nextUuid,
    VerdictMessages.buildVerdictMessage result,result⟩,after,?_,?_,ran⟩
  · have admitted : (assertAgentNotKilled deployment).exec session = (.ok (),session) := by
      rw [assertAgentNotKilled,attends.admitted]
      rfl
    refine (Effect.bind_answered admitted _).trans ?_
    refine (Effect.bind_answered (show uuid4.exec session = (.ok session.nextUuid,drawn) from rfl) _).trans ?_
    refine (Effect.bind_answered submit _).trans ?_
    exact Effect.bind_answered diagnose _
  · rw [ended]
    exact rows

end Attends

namespace Service
variable {intake : ComplaintIntake} {connector : ConnectorSPI σ} {subjectSub : String}

/-- After any history of overlapping requests, a submission that arrives on a free connection ends well: it leaves for its
commit the row of the complaint and of one run over the connector, with the answer made of this run. -/
theorem submission_answers (attends : Attends deployment intake connector subjectSub) {world : σ} {service : Service σ}
    (reached : Reached deployment world service) {connection : Nat} (free : service.work connection = none) :
    ∃ draft started next response inserted,
      step deployment service (.arrive connection (.submitIntake intake)) = some (next,none) ∧
      next.work connection = some (.ended (.submitIntake intake) service.app.nextUuid (.ok (.intake response)) inserted) ∧
      Submitted deployment intake response service.app.committed service.app.nextUuid (service.app.committed.append inserted) ∧
      inserted.requests = [Attends.requestRow deployment intake subjectSub service.app.nextUuid draft] ∧
      (DiagnosticOrchestrator.run.exec (Attends.diagnosis deployment intake connector subjectSub service.app.nextUuid draft
        started)).1 = .ok response.run := by
  have consistent := reached_consistent reached
  obtain ⟨draft,started,response,after,ends,rows,ran⟩ :=
    attends.intake_ends (show Memo.Agrees _ service.app.begin.instances from reached_registry attends.own reached)
      consistent.drawn
  have handled : (handle deployment (.submitIntake intake)).exec service.app.begin = (.ok (.intake response),after) :=
    Effect.bind_answered ends _
  have arrived : AccessAgent.arrive deployment service.app (.submitIntake intake) = (service.app.left after,
      .ended (.submitIntake intake) service.app.nextUuid (.ok (.intake response)) (service.app.committed.since after.tables)) := by
    rw [AccessAgent.arrive,handled]
  have apart : ∀ request ∈ service.app.begin.tables.requests, request.id ≠ service.app.begin.nextUuid + 1 := by
    intro request old
    exact Nat.ne_of_lt (Nat.lt_succ_of_lt (consistent.drawn request old))
  obtain ⟨submitted,_⟩ := submitIntake_success deployment apart ends
  obtain ⟨inserted,shape⟩ := submitted.inserts
  refine ⟨draft,started,_,response,service.app.committed.since after.tables,by rw [step,free],?_,?_,?_,ran⟩
  · rw [proceed_work,arrived]
  · have same : service.app.committed.append (service.app.committed.since after.tables) = after.tables := by
      rw [shape]
      exact Tables.append_since service.app.committed inserted
    rw [same]
    exact submitted
  · rw [Tables.since,rows]
    exact List.drop_left

end Service

end AccessAgent
