import AccessAgent.ServiceEffects
import Mathlib.Data.List.Nodup

/-! The run store and the audit trail agree after any history of requests: what a
request adds to the tables balances, whichever of its operations raises. -/

namespace AccessAgent
open Semantics

def eventsOf (tables : Tables) (eventType : AuditEventType) (correlationId : String) : List AuditEventModel :=
  tables.auditEvents.filter fun event =>
    event.eventType = eventType.value ∧ event.correlationId = correlationId

def runsOf (tables : Tables) (requestId : Uuid) : List DiagnosticRunModel :=
  tables.runs.filter fun run => run.requestId = requestId

def ApiRequest.escalates (requestId : Uuid) : ApiRequest → Bool
  | .submitIntake _ => false
  | .escalateIntake diagnosticRequestId _ => diagnosticRequestId = requestId

def escalations (served : List Served) (requestId : Uuid) : Nat :=
  served.countP fun entry => entry.succeeded && entry.request.escalates requestId

theorem filter_row (row : AuditEventModel) (kind : AuditEventType) {correlationId : String}
    (typed : row.eventType = kind.value) (named : row.correlationId = correlationId) (eventType : AuditEventType) :
    [row].filter (fun event => event.eventType = eventType.value ∧ event.correlationId = correlationId) =
      if kind = eventType then [row] else [] := by
  by_cases same : kind = eventType <;> simp [typed,named,AuditEventType.value_inj,same]

theorem runEvents_own {principal : Principal} {subjectSub : String} {result : DiagnosticRunResult}
    {completedAt escalatedAt startedAt : Datetime} {nextUuid : Nat} {event : AuditEventModel}
    (member : event ∈ runEvents principal subjectSub result completedAt escalatedAt startedAt nextUuid) :
    event.correlationId = result.correlationId ∧ event.diagnosticSubjectSub = subjectSub := by
  rw [runEvents] at member
  rcases List.mem_cons.mp member with rfl | later
  · exact ⟨rfl,rfl⟩
  · split at later
    · rw [List.mem_singleton.mp later]
      exact ⟨rfl,rfl⟩
    · cases later

theorem submission_events (received : AuditEventModel) (principal : Principal) (subjectSub : String)
    (result : DiagnosticRunResult) (completedAt escalatedAt startedAt : Datetime) (nextUuid : Nat)
    (typed : received.eventType = AuditEventType.diagnosticRequestReceived.value)
    (named : received.correlationId = result.correlationId) (eventType : AuditEventType) :
    ∃ completed escalated,
      (received::runEvents principal subjectSub result completedAt escalatedAt startedAt nextUuid).filter (fun event =>
          event.eventType = eventType.value ∧ event.correlationId = result.correlationId) =
        (if AuditEventType.diagnosticRequestReceived = eventType then [received] else []) ++
          (if AuditEventType.diagnosticRunCompleted = eventType then [completed] else []) ++
            if AuditEventType.escalationCreated = eventType ∧ result.escalated then [escalated] else [] := by
  let completed := (DiagnosticService.resultEvent .diagnosticRunCompleted principal subjectSub result completedAt).model
    nextUuid startedAt
  let escalated := (DiagnosticService.resultEvent .escalationCreated principal subjectSub result escalatedAt).model
    (nextUuid + 1) startedAt
  refine ⟨completed,escalated,?_⟩
  have split : received::runEvents principal subjectSub result completedAt escalatedAt startedAt nextUuid =
      [received] ++ [completed] ++ if result.escalated then [escalated] else [] := rfl
  have second : [completed].filter (fun event => event.eventType = eventType.value ∧
      event.correlationId = result.correlationId) = _ := filter_row completed .diagnosticRunCompleted rfl rfl eventType
  have third : [escalated].filter (fun event => event.eventType = eventType.value ∧
      event.correlationId = result.correlationId) = _ := filter_row escalated .escalationCreated rfl rfl eventType
  rw [split,List.filter_append,List.filter_append,filter_row received .diagnosticRequestReceived typed named,second]
  congr 1
  cases result.escalated with
  | false => simp
  | true => simpa using third

/-- The books of one stored request balance. -/
structure Accounted (served : List Served) (tables : Tables) (request : DiagnosticRequestModel) : Prop where
  run : ∃ run, runsOf tables request.id = [run] ∧ run.correlationId = request.correlationId ∧
    (eventsOf tables .escalationCreated request.correlationId).length =
      (if run.escalated then 1 else 0) + escalations served request.id
  received : ∃ event, eventsOf tables .diagnosticRequestReceived request.correlationId = [event]
  completed : ∃ event, eventsOf tables .diagnosticRunCompleted request.correlationId = [event]
  subject : ∀ event ∈ tables.auditEvents, event.correlationId = request.correlationId →
    event.diagnosticSubjectSub = request.subjectSub

/-- A request keeps its books over rows that are not its own. -/
theorem Accounted.frame {served later : List Served} {before after : Tables} {request : DiagnosticRequestModel}
    {runs : List DiagnosticRunModel} {events : List AuditEventModel} (accounted : Accounted served before request)
    (runRows : after.runs = before.runs ++ runs) (eventRows : after.auditEvents = before.auditEvents ++ events)
    (otherRuns : ∀ run ∈ runs, run.requestId ≠ request.id)
    (otherEvents : ∀ event ∈ events, event.correlationId ≠ request.correlationId)
    (count : escalations later request.id = escalations served request.id) : Accounted later after request := by
  have sameRuns : runsOf after request.id = runsOf before request.id := by
    have none : runs.filter (fun run => run.requestId = request.id) = [] := by
      rw [List.filter_eq_nil_iff]
      intro run member
      simpa using otherRuns run member
    rw [runsOf,runRows,List.filter_append,none,List.append_nil]
    rfl
  have sameEvents : ∀ eventType, eventsOf after eventType request.correlationId =
      eventsOf before eventType request.correlationId := by
    intro eventType
    have none : events.filter (fun event => event.eventType = eventType.value ∧
        event.correlationId = request.correlationId) = [] := by
      rw [List.filter_eq_nil_iff]
      intro event member
      simp [otherEvents event member]
    rw [eventsOf,eventRows,List.filter_append,none,List.append_nil]
    rfl
  refine ⟨?_,?_,?_,?_⟩
  · rw [sameRuns,sameEvents,count]
    exact accounted.run
  · rw [sameEvents]
    exact accounted.received
  · rw [sameEvents]
    exact accounted.completed
  · intro event member own
    rw [eventRows] at member
    rcases List.mem_append.mp member with old | new
    · exact accounted.subject event old own
    · exact absurd own (otherEvents event new)

/-- A request keeps its books over one more escalation of its own. -/
theorem Accounted.heard {served later : List Served} {before after : Tables} {request : DiagnosticRequestModel}
    {event : AuditEventModel} (accounted : Accounted served before request) (runRows : after.runs = before.runs)
    (eventRows : after.auditEvents = before.auditEvents ++ [event])
    (typed : event.eventType = AuditEventType.escalationCreated.value)
    (named : event.correlationId = request.correlationId) (subject : event.diagnosticSubjectSub = request.subjectSub)
    (count : escalations later request.id = escalations served request.id + 1) : Accounted later after request := by
  have added : ∀ eventType, eventsOf after eventType request.correlationId =
      eventsOf before eventType request.correlationId ++
        if AuditEventType.escalationCreated = eventType then [event] else [] := by
    intro eventType
    rw [eventsOf,eventRows,List.filter_append,filter_row event .escalationCreated typed named eventType]
    rfl
  obtain ⟨run,only,correlation,books⟩ := accounted.run
  refine ⟨⟨run,?_,correlation,?_⟩,?_,?_,?_⟩
  · rw [runsOf,runRows]
    exact only
  · rw [added,if_pos rfl,List.length_append,books,count,List.length_singleton,Nat.add_assoc]
  · rw [added]
    simpa using accounted.received
  · rw [added]
    simpa using accounted.completed
  · intro row inside own
    rw [eventRows] at inside
    rcases List.mem_append.mp inside with old | new
    · exact accounted.subject row old own
    · rw [List.mem_singleton.mp new]
      exact subject

variable {σ : Type} [Clock σ] (deployment : Deployment σ)

def Submitted (intake : ComplaintIntake) (response : IntakeDiagnosisResponse) (before : Tables) (nextUuid : Nat)
    (after : Tables) : Prop :=
  ∃ (subjectSub : String) (draft : DiagnosticRequestDraft) (receivedAt completedAt escalatedAt startedAt : Datetime),
    let id := nextUuid + 1
    let correlationId := deployment.uuidText nextUuid
    let systemId := systemIdOf deployment intake
    response = ⟨deployment.uuidText id,correlationId,VerdictMessages.buildVerdictMessage response.run,response.run⟩ ∧
    response.run.correlationId = correlationId ∧ Diagnosed σ response.run ∧
    after = {
      requests := before.requests ++
        [⟨id,correlationId,subjectSub,subjectSub,systemId,intake.freeText,draft.dump⟩]
      runs := before.runs ++ [DiagnosticService.runModel id response.run (id + 2) startedAt]
      auditEvents := before.auditEvents ++
        (receivedEvent correlationId subjectSub systemId draft receivedAt).model (id + 1) startedAt ::
          runEvents ⟨subjectSub,[]⟩ subjectSub response.run completedAt escalatedAt startedAt (id + 3) }

def Escalated (requestId : Uuid) (escalation : EscalationRequest) (response : DiagnosticService.EscalationResponse)
    (before : Tables) (nextUuid : Nat) (after : Tables) : Prop :=
  ∃ model latestRun lastStep causeCode occurredAt startedAt,
    before.requests.find? (fun request => request.id = requestId) = some model ∧
    DiagnosticService.latest (runsOf before requestId) = .ok latestRun ∧
    DiagnosticService.scenarioOf latestRun = .ok (lastStep,causeCode) ∧
    response = ⟨model.correlationId,VerdictMessages.buildEscalationMessage lastStep
      (DiagnosticService.causeText causeCode) (latestRun.bind DiagnosticRunModel.passwordResetUrl)
      model.correlationId⟩ ∧
    after = {before with auditEvents := before.auditEvents ++
      [(DiagnosticService.escalationEvent model escalation.userSub (DiagnosticService.escalationPayload
        escalation.note lastStep latestRun) occurredAt).model nextUuid startedAt]}

inductive Transition (app : App σ) : ApiRequest → Except Exn ApiResponse → App σ → Prop
  | refused {request : ApiRequest} {raised : Exn} {after : App σ} (unchanged : after.committed = app.committed)
      (drawn : app.nextUuid ≤ after.nextUuid) : Transition app request (.error raised) after
  | submitted {intake : ComplaintIntake} {response : IntakeDiagnosisResponse} {after : App σ}
      (rows : Submitted deployment intake response app.committed app.nextUuid after.committed)
      (drawn : app.nextUuid + 1 < after.nextUuid) :
      Transition app (.submitIntake intake) (.ok (.intake response)) after
  | escalated {requestId : Uuid} {escalation : EscalationRequest}
      {response : DiagnosticService.EscalationResponse} {after : App σ}
      (rows : Escalated requestId escalation response app.committed app.nextUuid after.committed)
      (drawn : app.nextUuid < after.nextUuid) :
      Transition app (.escalateIntake requestId escalation) (.ok (.escalation response)) after

theorem submitIntake_success {intake : ComplaintIntake} {before after : Session σ}
    {response : IntakeDiagnosisResponse} (fresh : ∀ request ∈ before.tables.requests, request.id ≠ before.nextUuid + 1)
    (ok : (submitIntake deployment intake).exec before = (.ok response,after)) :
    Submitted deployment intake response before.tables before.nextUuid after.tables ∧
      before.nextUuid + 1 < after.nextUuid := by
  rw [submitIntake] at ok
  obtain ⟨_,admitted,gate,ok⟩ := Effect.bind_success ok
  rw [assertAgentNotKilled] at gate
  split at gate
  · cases gate
  obtain ⟨_,rfl⟩ := pure_kept gate
  obtain ⟨uuid,drawn,draw,ok⟩ := Effect.bind_success ok
  obtain ⟨rfl,rfl⟩ : before.nextUuid = uuid ∧ {before with nextUuid := before.nextUuid + 1} = drawn := by
    simpa using draw
  obtain ⟨model,submitted,submit,ok⟩ := Effect.bind_success ok
  obtain ⟨subjectSub,draft,receivedAt,shape,rows,uuid,start⟩ := submit_success deployment submit
  obtain ⟨run,ended,diagnose,ok⟩ := Effect.bind_success ok
  obtain ⟨found,completedAt,escalatedAt,member,correlation,diagnosed,rows2,more⟩ :=
    runDiagnostic_success deployment diagnose
  obtain ⟨rfl,rfl⟩ := pure_kept ok
  dsimp only at shape rows uuid start
  -- every older request has another id
  have own : found = model := by
    have none : before.tables.requests.find? (fun request => request.id = model.id) = none := by
      rw [List.find?_eq_none]
      intro request old
      simp only [shape,decide_eq_true_eq]
      exact fresh request old
    rw [rows,List.find?_append,none] at member
    simpa using member.symm
  rw [own] at correlation rows2
  refine ⟨⟨subjectSub,draft,receivedAt,completedAt,escalatedAt,before.startedAt,?_,?_,diagnosed,?_⟩,?_⟩
  · rw [shape]
  · rw [correlation,shape]
  · rw [rows2,rows,uuid,start,shape]
    simp only [List.append_assoc,List.cons_append,List.nil_append]
  · rw [uuid] at more
    omega

theorem escalateIntake_success {requestId : Uuid} {escalation : EscalationRequest} {before after : Session σ}
    {response : DiagnosticService.EscalationResponse}
    (ok : (escalateIntake deployment requestId escalation).exec before = (.ok response,after)) :
    Escalated requestId escalation response before.tables before.nextUuid after.tables ∧
      before.nextUuid < after.nextUuid := by
  rw [escalateIntake] at ok
  obtain ⟨_,admitted,gate,ok⟩ := Effect.bind_success ok
  rw [assertAgentNotKilled] at gate
  split at gate
  · cases gate
  obtain ⟨_,rfl⟩ := pure_kept gate
  obtain ⟨model,latestRun,lastStep,causeCode,occurredAt,found,newest,scenario,answer,rows,drawn⟩ :=
    escalateRequest_success deployment ok
  exact ⟨⟨model,latestRun,lastStep,causeCode,occurredAt,before.startedAt,found,newest,scenario,answer,rows⟩,drawn⟩

theorem serve_transition (request : ApiRequest) (app : App σ)
    (fresh : ∀ request ∈ app.committed.requests, request.id < app.nextUuid) :
    Transition deployment app request (serve deployment request app).1 (serve deployment request app).2 := by
  rcases served : serve deployment request app with ⟨raised | answer,after⟩
  · apply Transition.refused
    · exact transaction_failed deployment served
    · have drawn := handle_draws deployment request app.begin
      rw [serve,transaction] at served
      split at served
      next error session ran =>
        obtain ⟨_,rfl⟩ := Prod.mk.inj served
        rwa [ran] at drawn
      next value session ran =>
        rw [ran] at drawn
        split at served
        next error world refused =>
          obtain ⟨_,rfl⟩ := Prod.mk.inj served
          exact drawn
        next world committed => cases served
  · obtain ⟨session,ran,committed,drawn⟩ := transaction_succeeded deployment served
    cases request with
    | submitIntake intake =>
      obtain ⟨response,submitted,submit,ok⟩ := Effect.bind_success ran
      obtain ⟨rfl,rfl⟩ := pure_kept ok
      obtain ⟨rows,more⟩ := submitIntake_success deployment (fun _ old => Nat.ne_of_lt (Nat.lt_succ_of_lt (fresh _ old))) submit
      rw [← committed] at rows
      rw [← drawn] at more
      exact Transition.submitted rows more
    | escalateIntake requestId escalation =>
      obtain ⟨response,escalated,escalate,ok⟩ := Effect.bind_success ran
      obtain ⟨rfl,rfl⟩ := pure_kept ok
      obtain ⟨rows,more⟩ := escalateIntake_success deployment escalate
      rw [← committed] at rows
      rw [← drawn] at more
      exact Transition.escalated rows more

theorem Transition.appends {app after : App σ} {request : ApiRequest} {response : Except Exn ApiResponse}
    (transition : Transition deployment app request response after) :
    app.committed.runs <+: after.committed.runs ∧ app.committed.auditEvents <+: after.committed.auditEvents := by
  cases transition with
  | refused unchanged drawn =>
    rw [unchanged]
    exact ⟨List.prefix_refl _,List.prefix_refl _⟩
  | submitted rows drawn =>
    obtain ⟨_,_,_,_,_,_,_,_,_,committed⟩ := rows
    rw [committed]
    exact ⟨List.prefix_append _ _,List.prefix_append _ _⟩
  | escalated rows drawn =>
    obtain ⟨_,_,_,_,_,_,_,_,_,_,committed⟩ := rows
    rw [committed]
    exact ⟨List.prefix_refl _,List.prefix_append _ _⟩

/-! ### The invariant -/

/-- The identifiers in the tables were drawn, and the books of every request balance. -/
structure Agreement (served : List Served) (app : App σ) : Prop where
  accounted : ∀ request ∈ app.committed.requests, Accounted served app.committed request
  named : ∀ request ∈ app.committed.requests, ∃ uuid, uuid + 1 < app.nextUuid ∧ request.id = uuid + 1 ∧
    request.correlationId = deployment.uuidText uuid
  distinct : (app.committed.requests.map DiagnosticRequestModel.id).Nodup
  runs : ∀ run ∈ app.committed.runs, run.requestId < app.nextUuid
  events : ∀ event ∈ app.committed.auditEvents, ∃ uuid < app.nextUuid,
    event.correlationId = deployment.uuidText uuid
  unheard : ∀ requestId ≥ app.nextUuid, escalations served requestId = 0

theorem escalations_append (served : List Served) (request : ApiRequest) (succeeded : Bool) (requestId : Uuid) :
    escalations (served ++ [⟨request,succeeded⟩]) requestId =
      escalations served requestId + if succeeded && request.escalates requestId then 1 else 0 := by
  simp [escalations,List.countP_append,List.countP_singleton]

namespace Agreement
variable {deployment} {served : List Served} {app after : App σ}

omit [Clock σ] in
theorem fresh (agreement : Agreement deployment served app) :
    ∀ request ∈ app.committed.requests, request.id < app.nextUuid := by
  intro request member
  obtain ⟨uuid,drawn,id,_⟩ := agreement.named request member
  rw [id]
  exact drawn

omit [Clock σ] in
theorem same_request (agreement : Agreement deployment served app) {a b : DiagnosticRequestModel}
    (left : a ∈ app.committed.requests) (right : b ∈ app.committed.requests) :
    a.correlationId = b.correlationId ↔ a.id = b.id := by
  obtain ⟨uuid,_,id,correlation⟩ := agreement.named a left
  obtain ⟨uuid',_,id',correlation'⟩ := agreement.named b right
  rw [id,id',correlation,correlation',deployment.uuidText_injective.eq_iff]
  exact Nat.succ_inj.symm

omit [Clock σ] in
theorem refused (agreement : Agreement deployment served app) (request : ApiRequest)
    (unchanged : after.committed = app.committed) (drawn : app.nextUuid ≤ after.nextUuid) :
    Agreement deployment (served ++ [⟨request,false⟩]) after := by
  have same : ∀ requestId, escalations (served ++ [⟨request,false⟩]) requestId = escalations served requestId := by
    intro requestId
    simp [escalations_append]
  refine ⟨?_,?_,?_,?_,?_,?_⟩
  · intro request member
    rw [unchanged] at member ⊢
    exact (agreement.accounted request member).frame (List.append_nil _).symm (List.append_nil _).symm
      nofun nofun (same _)
  · intro request member
    rw [unchanged] at member
    obtain ⟨uuid,early,id,correlation⟩ := agreement.named request member
    exact ⟨uuid,Nat.lt_of_lt_of_le early drawn,id,correlation⟩
  · rw [unchanged]
    exact agreement.distinct
  · intro run member
    rw [unchanged] at member
    exact Nat.lt_of_lt_of_le (agreement.runs run member) drawn
  · intro event member
    rw [unchanged] at member
    obtain ⟨uuid,early,correlation⟩ := agreement.events event member
    exact ⟨uuid,Nat.lt_of_lt_of_le early drawn,correlation⟩
  · intro requestId late
    rw [same]
    exact agreement.unheard requestId (Nat.le_trans drawn late)

omit [Clock σ] in
theorem escalated (agreement : Agreement deployment served app) {requestId : Uuid} {escalation : EscalationRequest}
    {response : DiagnosticService.EscalationResponse}
    (rows : Escalated requestId escalation response app.committed app.nextUuid after.committed)
    (drawn : app.nextUuid < after.nextUuid) :
    Agreement deployment (served ++ [⟨.escalateIntake requestId escalation,true⟩]) after := by
  obtain ⟨model,latestRun,lastStep,causeCode,occurredAt,startedAt,found,_,_,_,committed⟩ := rows
  generalize shape : (DiagnosticService.escalationEvent model escalation.userSub (DiagnosticService.escalationPayload
    escalation.note lastStep latestRun) occurredAt).model app.nextUuid startedAt = event at committed
  have stored : model ∈ app.committed.requests := List.mem_of_find?_eq_some found
  have named : model.id = requestId := by simpa using List.find?_some found
  have counted : ∀ id, escalations (served ++ [⟨.escalateIntake requestId escalation,true⟩]) id =
      escalations served id + if requestId = id then 1 else 0 := by
    intro id
    rw [escalations_append]
    simp [ApiRequest.escalates]
  refine ⟨?_,?_,?_,?_,?_,?_⟩
  · intro request member
    rw [committed] at member
    have accounted := agreement.accounted request member
    by_cases same : request.id = requestId
    · obtain rfl : request = model :=
        List.inj_on_of_nodup_map agreement.distinct member stored (same.trans named.symm)
      apply accounted.heard (by rw [committed]) (by rw [committed])
      · rw [← shape]
        rfl
      · rw [← shape]
        rfl
      · rw [← shape]
        rfl
      · rw [counted,if_pos same.symm]
    · have sameRuns : after.committed.runs = app.committed.runs ++ [] := by rw [committed,List.append_nil]
      refine accounted.frame sameRuns (by rw [committed]) nofun ?_ ?_
      · intro row new own
        rw [List.mem_singleton.mp new,← shape] at own
        exact same (((agreement.same_request stored member).mp own).symm.trans named)
      · rw [counted,if_neg (Ne.symm same)]
        rfl
  · intro request member
    rw [committed] at member
    obtain ⟨uuid,early,id,correlation⟩ := agreement.named request member
    exact ⟨uuid,early.trans drawn,id,correlation⟩
  · rw [committed]
    exact agreement.distinct
  · intro run member
    rw [committed] at member
    exact (agreement.runs run member).trans drawn
  · intro event member
    rw [committed] at member
    rcases List.mem_append.mp member with old | new
    · obtain ⟨uuid,early,correlation⟩ := agreement.events event old
      exact ⟨uuid,early.trans drawn,correlation⟩
    · obtain ⟨uuid,early,_,correlation⟩ := agreement.named model stored
      rw [List.mem_singleton.mp new,← shape]
      exact ⟨uuid,(Nat.lt_of_succ_lt early).trans drawn,correlation⟩
  · intro id late
    have known : requestId < app.nextUuid := by
      rw [← named]
      exact agreement.fresh model stored
    have early : app.nextUuid ≤ id := Nat.le_trans drawn.le late
    rw [counted,agreement.unheard id early,if_neg (Nat.ne_of_lt (Nat.lt_of_lt_of_le known early))]

omit [Clock σ] in
theorem no_runs (agreement : Agreement deployment served app) {requestId : Uuid} (late : app.nextUuid ≤ requestId) :
    runsOf app.committed requestId = [] := by
  rw [runsOf,List.filter_eq_nil_iff]
  intro run old
  have early := agreement.runs run old
  simpa using Nat.ne_of_lt (Nat.lt_of_lt_of_le early late)

omit [Clock σ] in
theorem no_events (agreement : Agreement deployment served app) {uuid : Uuid} (late : app.nextUuid ≤ uuid)
    (eventType : AuditEventType) : eventsOf app.committed eventType (deployment.uuidText uuid) = [] := by
  rw [eventsOf,List.filter_eq_nil_iff]
  intro event old
  obtain ⟨other,early,known⟩ := agreement.events event old
  have different := deployment.uuidText_injective.ne (Nat.ne_of_lt (Nat.lt_of_lt_of_le early late))
  simp [known,different]

omit [Clock σ] in
/-- The books of a request that a submission has just stored under fresh identifiers. -/
theorem opened (agreement : Agreement deployment served app) {later : List Served} {tables : Tables}
    {request : DiagnosticRequestModel} {result : DiagnosticRunResult} {received : AuditEventModel}
    {completedAt escalatedAt startedAt : Datetime} {runId next : Nat} (id : app.nextUuid ≤ request.id)
    (known : request.correlationId = deployment.uuidText app.nextUuid)
    (correlation : result.correlationId = request.correlationId)
    (runRows : tables.runs = app.committed.runs ++ [DiagnosticService.runModel request.id result runId startedAt])
    (eventRows : tables.auditEvents = app.committed.auditEvents ++
      received::runEvents ⟨request.subjectSub,[]⟩ request.subjectSub result completedAt escalatedAt startedAt next)
    (typed : received.eventType = AuditEventType.diagnosticRequestReceived.value)
    (named : received.correlationId = request.correlationId)
    (subject : received.diagnosticSubjectSub = request.subjectSub) (count : escalations later request.id = 0) :
    Accounted later tables request := by
  have counts : ∀ eventType, ∃ completed escalated, eventsOf tables eventType request.correlationId =
      (if AuditEventType.diagnosticRequestReceived = eventType then [received] else []) ++
        (if AuditEventType.diagnosticRunCompleted = eventType then [completed] else []) ++
          if AuditEventType.escalationCreated = eventType ∧ result.escalated then [escalated] else [] := by
    intro eventType
    obtain ⟨completed,escalated,rows⟩ := submission_events received ⟨request.subjectSub,[]⟩ request.subjectSub result
      completedAt escalatedAt startedAt next typed (named.trans correlation.symm) eventType
    have none := agreement.no_events (le_refl app.nextUuid) eventType
    rw [← known,eventsOf] at none
    rw [correlation] at rows
    refine ⟨completed,escalated,?_⟩
    rw [eventsOf,eventRows,List.filter_append,none,rows]
    rfl
  refine ⟨?_,?_,?_,?_⟩
  · obtain ⟨_,escalated,rows⟩ := counts .escalationCreated
    have none := agreement.no_runs id
    rw [runsOf] at none
    refine ⟨DiagnosticService.runModel request.id result runId startedAt,?_,correlation,?_⟩
    · rw [runsOf,runRows,List.filter_append,none]
      simp [DiagnosticService.runModel]
    · rw [rows,count]
      cases escalates : result.escalated <;> simp [DiagnosticService.runModel,escalates]
  · obtain ⟨_,_,rows⟩ := counts .diagnosticRequestReceived
    exact ⟨received,rows⟩
  · obtain ⟨completed,_,rows⟩ := counts .diagnosticRunCompleted
    exact ⟨completed,rows⟩
  · intro event member own
    rw [eventRows] at member
    rcases List.mem_append.mp member with old | new
    · obtain ⟨uuid,early,other⟩ := agreement.events event old
      rw [other,known] at own
      exact absurd (deployment.uuidText_injective own) (Nat.ne_of_lt early)
    · rcases List.mem_cons.mp new with rfl | run
      · exact subject
      · exact (runEvents_own run).2

theorem submitted (agreement : Agreement deployment served app) {intake : ComplaintIntake}
    {response : IntakeDiagnosisResponse}
    (rows : Submitted deployment intake response app.committed app.nextUuid after.committed)
    (drawn : app.nextUuid + 1 < after.nextUuid) :
    Agreement deployment (served ++ [⟨.submitIntake intake,true⟩]) after := by
  obtain ⟨subjectSub,draft,receivedAt,completedAt,escalatedAt,startedAt,_,correlation,_,committed⟩ := rows
  have same : ∀ requestId, escalations (served ++ [⟨.submitIntake intake,true⟩]) requestId =
      escalations served requestId := by
    intro requestId
    rw [escalations_append]
    rfl
  have drawnOne : app.nextUuid < after.nextUuid := (Nat.lt_succ_self _).trans drawn
  generalize receivedRow : (receivedEvent (deployment.uuidText app.nextUuid) subjectSub (systemIdOf deployment intake)
    draft receivedAt).model (app.nextUuid + 1 + 1) startedAt = received at committed
  have ownEvents : ∀ event ∈ received::runEvents ⟨subjectSub,[]⟩ subjectSub response.run completedAt escalatedAt
      startedAt (app.nextUuid + 1 + 3), event.correlationId = deployment.uuidText app.nextUuid := by
    intro event member
    rcases List.mem_cons.mp member with rfl | later
    · rw [← receivedRow]
      rfl
    · exact (runEvents_own later).1.trans correlation
  refine ⟨?_,?_,?_,?_,?_,?_⟩
  · intro request member
    rw [committed] at member
    rcases List.mem_append.mp member with old | new
    · obtain ⟨uuid,early,id,known⟩ := agreement.named request old
      refine (agreement.accounted request old).frame (by rw [committed]) (by rw [committed]) ?_ ?_ (same _)
      · intro run added
        rw [List.mem_singleton.mp added,id]
        exact (Nat.ne_of_lt (early.trans (Nat.lt_succ_self _))).symm
      · intro event added own
        rw [ownEvents event added,known] at own
        have smaller : app.nextUuid = uuid := deployment.uuidText_injective own
        exact absurd ((Nat.lt_succ_self _).trans early) (Nat.not_lt.mpr (Nat.le_of_eq smaller))
    · obtain rfl := List.mem_singleton.mp new
      apply agreement.opened (Nat.le_succ _) rfl correlation (by rw [committed]) (by rw [committed])
      · rw [← receivedRow]
        rfl
      · rw [← receivedRow]
        rfl
      · rw [← receivedRow]
        rfl
      · rw [same]
        exact agreement.unheard _ (Nat.le_succ _)
  · intro request member
    rw [committed] at member
    rcases List.mem_append.mp member with old | new
    · obtain ⟨uuid,early,id,known⟩ := agreement.named request old
      exact ⟨uuid,early.trans drawnOne,id,known⟩
    · rw [List.mem_singleton.mp new]
      exact ⟨app.nextUuid,drawn,rfl,rfl⟩
  · rw [committed,List.map_append,List.nodup_append]
    refine ⟨agreement.distinct,List.nodup_singleton _,?_⟩
    intro id old other new
    obtain ⟨request,member,rfl⟩ := List.mem_map.mp old
    have early := agreement.fresh request member
    rw [List.mem_singleton.mp new]
    exact Nat.ne_of_lt (early.trans (Nat.lt_succ_self _))
  · intro run member
    rw [committed] at member
    rcases List.mem_append.mp member with old | new
    · exact (agreement.runs run old).trans drawnOne
    · rw [List.mem_singleton.mp new]
      exact drawn
  · intro event member
    rw [committed] at member
    rcases List.mem_append.mp member with old | new
    · obtain ⟨uuid,early,known⟩ := agreement.events event old
      exact ⟨uuid,early.trans drawnOne,known⟩
    · exact ⟨app.nextUuid,drawnOne,ownEvents event new⟩
  · intro requestId late
    rw [same]
    exact agreement.unheard requestId (drawnOne.le.trans late)

theorem step (agreement : Agreement deployment served app) (request : ApiRequest) :
    Agreement deployment (served ++ [⟨request,succeeds (serve deployment request app).1⟩])
      (serve deployment request app).2 := by
  have transition := serve_transition deployment request app agreement.fresh
  generalize (serve deployment request app).1 = answer at transition ⊢
  generalize (serve deployment request app).2 = after at transition ⊢
  cases transition with
  | refused unchanged drawn => exact agreement.refused request unchanged drawn
  | submitted rows drawn => exact agreement.submitted rows drawn
  | escalated rows drawn => exact agreement.escalated rows drawn

theorem run (agreement : Agreement deployment served app) (requests : List ApiRequest) :
    Agreement deployment (served ++ (serveAll deployment requests app).1) (serveAll deployment requests app).2 ∧
      app.committed.runs <+: (serveAll deployment requests app).2.committed.runs ∧
      app.committed.auditEvents <+: (serveAll deployment requests app).2.committed.auditEvents := by
  induction requests generalizing served app with
  | nil =>
    rw [serveAll,List.append_nil]
    exact ⟨agreement,List.prefix_refl _,List.prefix_refl _⟩
  | cons request rest ih =>
    obtain ⟨later,runs,events⟩ := ih (agreement.step request)
    have appends := (serve_transition deployment request app agreement.fresh).appends
    rw [List.append_assoc] at later
    exact ⟨later,appends.1.trans runs,appends.2.trans events⟩

/-- What every transition keeps of the committed tables, every history keeps. -/
theorem keeps (agreement : Agreement deployment served app) (holds : Tables → Prop)
    (kept : ∀ before request response after, Transition deployment before request response after →
      holds before.committed → holds after.committed) (requests : List ApiRequest) (initial : holds app.committed) :
    holds (serveAll deployment requests app).2.committed := by
  induction requests generalizing served app with
  | nil => exact initial
  | cons request rest ih =>
    have transition := serve_transition deployment request app agreement.fresh
    exact ih (agreement.step request) (kept _ _ _ _ transition initial)

omit [Clock σ] in
theorem start (world : σ) : Agreement deployment [] (App.start world) where
  accounted := nofun
  named := nofun
  distinct := List.nodup_nil
  runs := nofun
  events := nofun
  unheard := fun _ _ => rfl

end Agreement

/-- After any history the books of every stored request balance, a request that fails
leaves the tables as they were, and no committed audit row changes or goes. -/
theorem runStore_agrees (world : σ) (requests : List ApiRequest) :
    let served := (serveAll deployment requests (App.start world)).1
    let app := (serveAll deployment requests (App.start world)).2
    (∀ request ∈ app.committed.requests, Accounted served app.committed request) ∧
      (∀ next, succeeds (serve deployment next app).1 = false →
        (serve deployment next app).2.committed = app.committed) ∧
      ∀ later, app.committed.auditEvents <+: (serveAll deployment later app).2.committed.auditEvents := by
  intro served app
  have agreement : Agreement deployment served app := ((Agreement.start world).run requests).1
  refine ⟨agreement.accounted,?_,fun later => (agreement.run later).2.2⟩
  intro next failed
  have transition := serve_transition deployment next app agreement.fresh
  generalize (serve deployment next app).1 = answer at transition failed
  cases transition with
  | refused unchanged drawn => exact unchanged
  | submitted rows drawn => cases failed
  | escalated rows drawn => cases failed

/-- A submission and an escalation of it are answered, and an escalation of an unknown request is not. -/
theorem runStore_agrees_escalated :
    let deployment := stillDeployment (stillConnector some .down)
    let history := [.submitIntake ⟨"alice",by decide,"I cannot sign in",none⟩,.escalateIntake 1 ⟨"alice",none⟩]
    let (served,app) := serveAll deployment history (App.start ())
    let unknown := serve deployment (.escalateIntake 9 ⟨"alice",none⟩) app
    served.map Served.succeeded = [true,true] ∧ succeeds unknown.1 = false ∧ unknown.2.committed = app.committed ∧
      ∃ request run, app.committed.requests = [request] ∧ runsOf app.committed request.id = [run] ∧
        run.correlationId = request.correlationId ∧
        (eventsOf app.committed .escalationCreated request.correlationId).length = (if run.escalated then 1 else 0) + 1 := by
  intro deployment history
  obtain ⟨accounted,refused,_⟩ := runStore_agrees deployment () history
  have succeeded : (serveAll deployment history (App.start ())).1.map Served.succeeded = [true,true] := rfl
  have failed : succeeds (serve deployment (.escalateIntake 9 ⟨"alice",none⟩) (serveAll deployment history (App.start ())).2).1 =
      false := rfl
  obtain ⟨request,only,heard⟩ : ∃ request, (serveAll deployment history (App.start ())).2.committed.requests = [request] ∧
      escalations (serveAll deployment history (App.start ())).1 request.id = 1 := ⟨_,rfl,rfl⟩
  obtain ⟨run,own,correlation,balance⟩ := (accounted request (by simp [only])).run
  rw [heard] at balance
  exact ⟨succeeded,failed,refused _ failed,request,run,only,own,correlation,balance⟩

end AccessAgent
