import AccessAgent.Serializability
import AccessAgent.MessageAgreement

/-! An escalation of a stored request is answered, whatever has been stored and whoever commits in
between, as long as the database and the log answer. -/

namespace AccessAgent
open Semantics Handler

variable {σ : Type} [Clock σ] (deployment : Deployment σ)

/-- The database and the log answer. -/
structure Responsive : Prop where
  select : ∀ world, ∃ next, deployment.select.exec world = (.ok (),next)
  flush : ∀ world, ∃ next, deployment.flush.exec world = (.ok (),next)
  ship : ∀ event world, ∃ next, (deployment.ship event).exec world = (.ok (),next)

variable {deployment}

namespace Responsive
variable (responsive : Responsive deployment)
include responsive

omit [Clock σ] in
theorem record_exec (event : AuditEvent) (session : Session σ) : ∃ world,
    (AuditService.record deployment event).exec session =
      (.ok (),{session with
        world := world
        nextUuid := session.nextUuid + 1
        tables := session.tables.append ⟨[],[],[event.model session.nextUuid session.startedAt]⟩}) := by
  obtain ⟨flushed,flush⟩ := responsive.flush session.world
  obtain ⟨shipped,ship⟩ := responsive.ship event flushed
  refine ⟨shipped,?_⟩
  simp only [AuditService.record,AuditRepository.append,Effect.bind_exec,uuid4_exec,await_exec,flush,transactionStart_exec,
    modifyTables_exec,ship,Tables.append,List.append_nil]

omit [Clock σ] in
theorem listRuns_exec (requestId : Uuid) (session : Session σ) : ∃ world,
    (DiagnosticRepository.listRunsForRequest deployment requestId).exec session =
      (.ok (runsOf session.tables requestId),{session with world := world}) := by
  obtain ⟨world,select⟩ := responsive.select session.world
  refine ⟨world,?_⟩
  simp only [DiagnosticRepository.listRunsForRequest,Effect.bind_exec,await_exec,select,tables_exec,Effect.pure_exec]
  rfl

theorem escalateFound_exec {requestId : Uuid} (escalation : EscalationRequest) (model : DiagnosticRequestModel)
    (session : Session σ) {run : DiagnosticRunModel} {lastStep : Option FunnelStep} {causeCode : Json}
    (stored : runsOf session.tables requestId = [run]) (scenario : DiagnosticService.scenarioOf (some run) = .ok (lastStep,causeCode)) :
    ∃ world occurredAt, (escalateFound deployment requestId escalation model).exec session =
      (.ok ⟨model.correlationId,VerdictMessages.buildEscalationMessage lastStep (DiagnosticService.causeText causeCode)
          run.passwordResetUrl model.correlationId⟩,
        {session with
          world := world
          nextUuid := session.nextUuid + 1
          tables := session.tables.append ⟨[],[],[(DiagnosticService.escalationEvent model escalation.userSub
            (DiagnosticService.escalationPayload escalation.note lastStep (some run)) occurredAt).model session.nextUuid
            session.startedAt]⟩}) := by
  obtain ⟨listed,list⟩ := responsive.listRuns_exec requestId session
  obtain ⟨world,record⟩ := responsive.record_exec (DiagnosticService.escalationEvent model escalation.userSub
    (DiagnosticService.escalationPayload escalation.note lastStep (some run)) (Clock.now listed).1.value)
    {session with world := (Clock.now listed).2}
  refine ⟨world,(Clock.now listed).1.value,?_⟩
  rw [stored] at list
  refine (Effect.bind_answered list _).trans ?_
  refine (Effect.bind_answered (show _ = (Except.ok (some run),_) from rfl) _).trans ?_
  rw [scenario]
  refine (Effect.bind_answered (show _ = (Except.ok (lastStep,causeCode),_) from rfl) _).trans ?_
  refine (Effect.bind_answered (show _ = (Except.ok (Clock.now listed).1.value,{session with world := (Clock.now listed).2}) from
    rfl) _).trans ?_
  exact Effect.bind_answered record _

omit [Clock σ] in
theorem escalatedRequest_exec (admitted : deployment.agentKillSwitchEnabled = false) {requestId : Uuid} (session : Session σ)
    {request : DiagnosticRequestModel}
    (found : session.tables.requests.find? (fun request => request.id = requestId) = some request) : ∃ world,
    (escalatedRequest deployment requestId).exec session = (.ok request,{session with world := world}) := by
  obtain ⟨world,select⟩ := responsive.select session.world
  refine ⟨world,?_⟩
  have get : (DiagnosticRepository.getRequest deployment requestId).exec session =
      (.ok (some request),{session with world := world}) := by
    simp only [DiagnosticRepository.getRequest,Effect.bind_exec,await_exec,select,tables_exec,Effect.pure_exec,found]
  rw [escalatedRequest,assertAgentNotKilled,admitted]
  exact (Effect.bind_answered (show _ = (Except.ok (),session) from rfl) _).trans (Effect.bind_answered get _)

end Responsive

@[simp] theorem Tables.since_append (tables inserted : Tables) : tables.since (tables.append inserted) = inserted := by
  simp [Tables.append,Tables.since]

omit [Clock σ] in
theorem Books.find_request {served : List Served} {tables : Tables} (books : Books deployment served tables)
    {request : DiagnosticRequestModel} (stored : request ∈ tables.requests) :
    tables.requests.find? (fun other => other.id = request.id) = some request := by
  cases found : tables.requests.find? (fun other => other.id = request.id) with
  | none => simpa using List.find?_eq_none.mp found request stored
  | some other =>
    have same : other.id = request.id := by simpa using List.find?_some found
    rw [List.inj_on_of_nodup_map books.distinct (List.mem_of_find?_eq_some found) stored same]

theorem Stores.diagnosed {before after : Tables} {request : ApiRequest} {response : ApiResponse}
    (stores : Stores deployment before request response after) (stored : RunsDiagnosed σ before) : RunsDiagnosed σ after := by
  cases stores with
  | submitted rows =>
    obtain ⟨_,_,_,_,_,startedAt,_,_,diagnosed,committed⟩ := rows
    rw [committed]
    intro run member
    rcases List.mem_append.mp member with old | new
    · exact stored run old
    · rw [List.mem_singleton.mp new]
      exact ⟨_,_,startedAt,diagnosed,rfl⟩
  | escalated rows =>
    obtain ⟨_,_,_,_,_,_,_,_,_,_,committed⟩ := rows
    rw [committed]
    exact stored

namespace Service

theorem reached_diagnosed {world : σ} {service : Service σ} (reached : Reached deployment world service) :
    RunsDiagnosed σ service.app.committed := by
  have both : Consistent deployment world service ∧ RunsDiagnosed σ service.app.committed := by
    apply reached.invariant
    · exact ⟨reached_consistent .start,nofun⟩
    · rintro before event after output ⟨consistent,stored⟩ _ taken
      obtain ⟨kept,effects⟩ := step_consistent consistent taken
      refine ⟨kept,?_⟩
      cases output with
      | none =>
        rw [show after.app.committed = _ from effects]
        exact stored
      | some outcome => cases outcome with
        | error raised =>
          rw [show after.app.committed = _ from effects]
          exact stored
        | ok response =>
          obtain ⟨_,_,_,_,commits⟩ := effects
          exact commits.stores.diagnosed stored
  exact both.2

/-- The run of a stored request reads back. -/
theorem stored_scenario {world : σ} {service : Service σ} (reached : Reached deployment world service)
    {request : DiagnosticRequestModel} (stored : request ∈ service.app.committed.requests) :
    ∃ run lastStep causeCode, runsOf service.app.committed request.id = [run] ∧
      DiagnosticService.scenarioOf (some run) = .ok (lastStep,causeCode) := by
  obtain ⟨run,only,_⟩ := ((reached_consistent reached).books.accounted request stored).run
  have member : run ∈ runsOf service.app.committed request.id := by simp [only]
  obtain ⟨result,id,startedAt,diagnosed,shape⟩ := reached_diagnosed reached run (List.mem_of_mem_filter member)
  obtain ⟨last,found⟩ := diagnosed.nonempty
  refine ⟨run,some last.step,Json.ofOption last.causeCode,only,?_⟩
  rw [shape]
  exact scenarioOf_runModel found

/-- What an escalation of a stored request answers and leaves for its commit: both tell what the one run of the request
has found. -/
structure Reports (tables : Tables) (request : DiagnosticRequestModel) (response : DiagnosticService.EscalationResponse)
    (event : AuditEventModel) : Prop where
  answered : response.correlationId = request.correlationId
  created : event.eventType = AuditEventType.escalationCreated.value
  recorded : event.correlationId = request.correlationId
  reported : ∃ run lastStep causeCode, runsOf tables request.id = [run] ∧
    DiagnosticService.scenarioOf (some run) = .ok (lastStep,causeCode) ∧
    response.message = VerdictMessages.buildEscalationMessage lastStep (DiagnosticService.causeText causeCode)
      run.passwordResetUrl request.correlationId ∧
    event.payload.item "step_verdicts" = .ok (.arr run.stepVerdicts) ∧ event.payload.item "outcome" = .ok (.str run.outcome)

/-- After any history of overlapping requests an escalation of a stored request is taken up, and one
that is taken up is answered with what the one run of its request has found, whatever others have
committed in between. -/
theorem escalation_answers (admitted : deployment.agentKillSwitchEnabled = false) (responsive : Responsive deployment) {world : σ}
    {service : Service σ} (reached : Reached deployment world service) :
    (∀ connection request escalation, service.work connection = none → request ∈ service.app.committed.requests →
      ∃ next startedAt, step deployment service (.arrive connection (.escalateIntake request.id escalation)) = some (next,none) ∧
        next.work connection = some (.reading request.id escalation request startedAt)) ∧
    ∀ connection requestId escalation request startedAt,
      service.work connection = some (.reading requestId escalation request startedAt) →
      ∃ next response event, step deployment service (.list connection) = some (next,none) ∧
        next.work connection = some (.ended (.escalateIntake requestId escalation) service.app.nextUuid
          (.ok (.escalation response)) ⟨[],[],[event]⟩) ∧
        Reports service.app.committed request response event := by
  have consistent := reached_consistent reached
  constructor
  · intro connection request escalation free stored
    have found : service.app.committed.requests.find? (fun other => other.id = request.id) = some request :=
      consistent.books.find_request stored
    obtain ⟨after,exec⟩ := responsive.escalatedRequest_exec admitted service.app.begin found
    refine ⟨_,service.app.begin.startedAt,by rw [step,free],?_⟩
    rw [proceed_work,arrive,exec]
  · intro connection requestId escalation request startedAt reading
    obtain found : service.app.committed.requests.find? (fun request => request.id = requestId) = some request := by
      have committable := consistent.work connection _ reading
      cases committable with
      | reading _ found _ => exact (escalatedRequest_success deployment found).1
    have stored := List.mem_of_find?_eq_some found
    obtain rfl : request.id = requestId := by simpa using List.find?_some found
    obtain ⟨run,lastStep,causeCode,only,scenario⟩ := stored_scenario reached stored
    obtain ⟨after,occurredAt,exec⟩ := responsive.escalateFound_exec escalation request
      (service.app.resume startedAt) only scenario
    let event := (DiagnosticService.escalationEvent request escalation.userSub (DiagnosticService.escalationPayload
      escalation.note lastStep (some run)) occurredAt).model service.app.nextUuid startedAt
    let response : DiagnosticService.EscalationResponse := ⟨request.correlationId,VerdictMessages.buildEscalationMessage lastStep
      (DiagnosticService.causeText causeCode) run.passwordResetUrl request.correlationId⟩
    refine ⟨_,response,event,by rw [step,reading],?_,⟨rfl,rfl,rfl,run,lastStep,causeCode,only,scenario,rfl,rfl,rfl⟩⟩
    rw [proceed_work,AccessAgent.list,exec]
    change some (Work.ended _ _ _ (service.app.committed.since (service.app.committed.append ⟨[],[],[event]⟩))) = _
    rw [Tables.since_append]
    rfl

theorem escalation_answers_overlapping :
    let deployment := stillDeployment (stillConnector some .up)
    ∃ service answers request startedAt next response event,
      execute (step deployment) (fun _ _ => True) overlapping.dropLast (start ()) = some (service,answers) ∧
      service.work 2 = some (.reading 7 ⟨"bob",none⟩ request startedAt) ∧
      step deployment service (.list 2) = some (next,none) ∧
      next.work 2 = some (.ended (.escalateIntake 7 ⟨"bob",none⟩) service.app.nextUuid (.ok (.escalation response)) ⟨[],[],[event]⟩) ∧
      Reports service.app.committed request response event := by
  intro deployment
  have responsive : Responsive deployment := ⟨fun _ => ⟨(),rfl⟩,fun _ => ⟨(),rfl⟩,fun _ _ => ⟨(),rfl⟩⟩
  obtain ⟨⟨service,answers⟩,request,startedAt,ran,reading⟩ : ∃ result request startedAt,
      execute (step deployment) (fun _ _ => True) overlapping.dropLast (start ()) = some result ∧
        result.1.work 2 = some (.reading 7 ⟨"bob",none⟩ request startedAt) := ⟨_,_,_,rfl,rfl⟩
  obtain ⟨next,response,event,taken,ended,reports⟩ := (escalation_answers rfl responsive (reaches_execute Reaches.start ran)).2 2 7
    ⟨"bob",none⟩ request startedAt reading
  exact ⟨service,answers,request,startedAt,next,response,event,ran,reading,taken,ended,reports⟩

end Service

end AccessAgent
