import AccessAgent.ConcurrentRequests

/-! The books of every stored request, whichever identifiers were drawn and in whichever order requests
commit: what a commit adds to the tables balances. -/

namespace AccessAgent
open Semantics

variable {σ : Type} [Clock σ] (deployment : Deployment σ)

/-- Every row belongs to a stored request, and the books of every stored request balance. -/
structure Books (served : List Served) (tables : Tables) : Prop where
  accounted : ∀ request ∈ tables.requests, Accounted served tables request
  named : ∀ request ∈ tables.requests, ∃ uuid, request.id = uuid + 1 ∧ request.correlationId = deployment.uuidText uuid
  distinct : (tables.requests.map DiagnosticRequestModel.id).Nodup
  runs : ∀ run ∈ tables.runs, ∃ request ∈ tables.requests, run.requestId = request.id
  events : ∀ event ∈ tables.auditEvents, ∃ request ∈ tables.requests, event.correlationId = request.correlationId
  unheard : ∀ id, (∀ request ∈ tables.requests, request.id ≠ id) → escalations served id = 0

namespace Books
variable {deployment} {served : List Served} {tables after : Tables}

omit [Clock σ] in
theorem same_request (books : Books deployment served tables) {a b : DiagnosticRequestModel} (left : a ∈ tables.requests)
    (right : b ∈ tables.requests) (same : a.correlationId = b.correlationId) : a = b := by
  obtain ⟨uuid,id,correlation⟩ := books.named a left
  obtain ⟨other,otherId,otherCorrelation⟩ := books.named b right
  have uuids : uuid = other := deployment.uuidText_injective (correlation.symm.trans (same.trans otherCorrelation))
  exact List.inj_on_of_nodup_map books.distinct left right (by rw [id,otherId,uuids])

omit [Clock σ] in
theorem start : Books deployment [] ⟨[],[],[]⟩ :=
  ⟨nofun,nofun,List.nodup_nil,nofun,nofun,fun _ _ => rfl⟩

omit [Clock σ] in
theorem refused (books : Books deployment served tables) (request : ApiRequest) :
    Books deployment (served ++ [⟨request,false⟩]) tables := by
  have same : ∀ id, escalations (served ++ [⟨request,false⟩]) id = escalations served id := by
    intro id
    simp [escalations_append]
  refine ⟨?_,books.named,books.distinct,books.runs,books.events,?_⟩
  · intro stored member
    exact (books.accounted stored member).frame (List.append_nil _).symm (List.append_nil _).symm nofun nofun (same _)
  · intro id absent
    rw [same]
    exact books.unheard id absent

omit [Clock σ] in
/-- The books of the request that a submission stores. -/
theorem opened {later : List Served} {request : DiagnosticRequestModel} {result : DiagnosticRunResult}
    {received : AuditEventModel} {completedAt escalatedAt startedAt : Datetime} {runId next : Nat}
    (noRuns : ∀ run ∈ tables.runs, run.requestId ≠ request.id)
    (noEvents : ∀ event ∈ tables.auditEvents, event.correlationId ≠ request.correlationId)
    (correlation : result.correlationId = request.correlationId)
    (runRows : after.runs = tables.runs ++ [DiagnosticService.runModel request.id result runId startedAt])
    (eventRows : after.auditEvents = tables.auditEvents ++
      received::runEvents ⟨request.subjectSub,[]⟩ request.subjectSub result completedAt escalatedAt startedAt next)
    (typed : received.eventType = AuditEventType.diagnosticRequestReceived.value)
    (named : received.correlationId = request.correlationId) (subject : received.diagnosticSubjectSub = request.subjectSub)
    (count : escalations later request.id = 0) : Accounted later after request := by
  have counts : ∀ eventType, ∃ completed escalated, eventsOf after eventType request.correlationId =
      (if AuditEventType.diagnosticRequestReceived = eventType then [received] else []) ++
        (if AuditEventType.diagnosticRunCompleted = eventType then [completed] else []) ++
          if AuditEventType.escalationCreated = eventType ∧ result.escalated then [escalated] else [] := by
    intro eventType
    obtain ⟨completed,escalated,rows⟩ := submission_events received ⟨request.subjectSub,[]⟩ request.subjectSub result
      completedAt escalatedAt startedAt next typed (named.trans correlation.symm) eventType
    have none : tables.auditEvents.filter (fun event => event.eventType = eventType.value ∧
        event.correlationId = request.correlationId) = [] := by
      rw [List.filter_eq_nil_iff]
      intro event member
      simp [noEvents event member]
    rw [correlation] at rows
    refine ⟨completed,escalated,?_⟩
    rw [eventsOf,eventRows,List.filter_append,none,rows]
    rfl
  refine ⟨?_,?_,?_,?_⟩
  · obtain ⟨_,escalated,rows⟩ := counts .escalationCreated
    have none : tables.runs.filter (fun run => run.requestId = request.id) = [] := by
      rw [List.filter_eq_nil_iff]
      intro run member
      simpa using noRuns run member
    refine ⟨DiagnosticService.runModel request.id result runId startedAt,?_,correlation,?_⟩
    · rw [runsOf,runRows,List.filter_append,none]
      simp [DiagnosticService.runModel]
    · rw [rows,count]
      cases escalates : result.escalated <;> simp [DiagnosticService.runModel,escalates]
  · obtain ⟨_,_,rows⟩ := counts .diagnosticRequestReceived
    exact ⟨received,rows⟩
  · obtain ⟨completed,_,rows⟩ := counts .diagnosticRunCompleted
    exact ⟨completed,rows⟩
  · intro event member own
    rw [eventRows] at member
    rcases List.mem_append.mp member with old | new
    · exact absurd own (noEvents event old)
    · rcases List.mem_cons.mp new with rfl | run
      · exact subject
      · exact (runEvents_own run).2

omit [Clock σ] in
theorem apart (books : Books deployment served tables) {uuid : Nat} (fresh : ∀ request ∈ tables.requests, request.id ≠ uuid + 1) :
    ∀ request ∈ tables.requests, request.correlationId ≠ deployment.uuidText uuid := by
  intro request member same
  obtain ⟨other,id,known⟩ := books.named request member
  have uuids : other = uuid := deployment.uuidText_injective (known.symm.trans same)
  exact fresh request member (by rw [id,uuids])

omit [Clock σ] in
/-- A request with a run and events of its own keeps the books where its own balance. -/
theorem joined (books : Books deployment served tables) {later : List Served} {request : DiagnosticRequestModel} {uuid : Nat}
    {run : DiagnosticRunModel} {events : List AuditEventModel} (fresh : ∀ old ∈ tables.requests, old.id ≠ uuid + 1)
    (id : request.id = uuid + 1) (correlation : request.correlationId = deployment.uuidText uuid)
    (requestRows : after.requests = tables.requests ++ [request]) (runRows : after.runs = tables.runs ++ [run])
    (eventRows : after.auditEvents = tables.auditEvents ++ events) (ownRun : run.requestId = request.id)
    (ownEvents : ∀ event ∈ events, event.correlationId = request.correlationId)
    (count : ∀ id, escalations later id = escalations served id) (balanced : Accounted later after request) :
    Books deployment later after := by
  refine ⟨?_,?_,?_,?_,?_,?_⟩
  · intro owner member
    rw [requestRows] at member
    rcases List.mem_append.mp member with old | new
    · refine (books.accounted owner old).frame runRows eventRows ?_ ?_ (count _)
      · intro row added
        rw [List.mem_singleton.mp added,ownRun,id]
        exact (fresh owner old).symm
      · intro event added own
        rw [ownEvents event added,correlation] at own
        exact books.apart fresh owner old own.symm
    · rw [List.mem_singleton.mp new]
      exact balanced
  · intro owner member
    rw [requestRows] at member
    rcases List.mem_append.mp member with old | new
    · exact books.named owner old
    · rw [List.mem_singleton.mp new]
      exact ⟨uuid,id,correlation⟩
  · rw [requestRows,List.map_append,List.nodup_append]
    refine ⟨books.distinct,List.nodup_singleton _,?_⟩
    intro old inside other new
    obtain ⟨owner,member,rfl⟩ := List.mem_map.mp inside
    rw [List.mem_singleton.mp new,id]
    exact fresh owner member
  · intro row member
    rw [runRows] at member
    rw [requestRows]
    rcases List.mem_append.mp member with old | new
    · obtain ⟨owner,inside,same⟩ := books.runs row old
      exact ⟨owner,List.mem_append_left _ inside,same⟩
    · rw [List.mem_singleton.mp new]
      exact ⟨request,by simp,ownRun⟩
  · intro event member
    rw [eventRows] at member
    rw [requestRows]
    rcases List.mem_append.mp member with old | new
    · obtain ⟨owner,inside,same⟩ := books.events event old
      exact ⟨owner,List.mem_append_left _ inside,same⟩
    · exact ⟨request,by simp,ownEvents event new⟩
  · intro unknown absent
    rw [count]
    refine books.unheard unknown fun owner member => absent owner ?_
    rw [requestRows]
    exact List.mem_append_left _ member

/-- A submission keeps the books, whatever identifiers it has drawn that no stored request has. -/
theorem submitted (books : Books deployment served tables) {intake : ComplaintIntake} {response : IntakeDiagnosisResponse}
    {uuid : Nat} (rows : Submitted deployment intake response tables uuid after)
    (fresh : ∀ request ∈ tables.requests, request.id ≠ uuid + 1) :
    Books deployment (served ++ [⟨.submitIntake intake,true⟩]) after := by
  obtain ⟨subjectSub,draft,receivedAt,completedAt,escalatedAt,startedAt,_,correlation,_,stored⟩ := rows
  generalize receivedRow : (receivedEvent (deployment.uuidText uuid) subjectSub (systemIdOf deployment intake) draft
    receivedAt).model (uuid + 1 + 1) startedAt = received at stored
  let request : DiagnosticRequestModel := ⟨uuid + 1,deployment.uuidText uuid,subjectSub,subjectSub,
    systemIdOf deployment intake,intake.freeText,draft.dump⟩
  have requestRows : after.requests = tables.requests ++ [request] := by rw [stored]
  have runRows : after.runs = tables.runs ++ [DiagnosticService.runModel request.id response.run (uuid + 1 + 2) startedAt] := by
    rw [stored]
  have eventRows : after.auditEvents = tables.auditEvents ++
      received::runEvents ⟨subjectSub,[]⟩ subjectSub response.run completedAt escalatedAt startedAt (uuid + 1 + 3) := by
    rw [stored]
  have count : ∀ id, escalations (served ++ [⟨.submitIntake intake,true⟩]) id = escalations served id := by
    intro id
    rw [escalations_append]
    rfl
  have named : received.correlationId = request.correlationId := by
    rw [← receivedRow]
    rfl
  have unrun : ∀ run ∈ tables.runs, run.requestId ≠ request.id := by
    intro run old
    obtain ⟨owner,inside,same⟩ := books.runs run old
    rw [same]
    exact fresh owner inside
  have unseen : ∀ event ∈ tables.auditEvents, event.correlationId ≠ request.correlationId := by
    intro event old
    obtain ⟨owner,inside,same⟩ := books.events event old
    rw [same]
    exact books.apart fresh owner inside
  refine books.joined fresh rfl rfl requestRows runRows eventRows rfl ?_ count ?_
  · intro event member
    rcases List.mem_cons.mp member with rfl | later
    · exact named
    · exact (runEvents_own later).1.trans correlation
  · refine opened unrun unseen correlation runRows eventRows ?_ named ?_ ?_
    · rw [← receivedRow]
      rfl
    · rw [← receivedRow]
      rfl
    · rw [count]
      exact books.unheard _ fresh

omit [Clock σ] in
theorem escalated (books : Books deployment served tables) {requestId : Uuid} {escalation : EscalationRequest}
    {response : DiagnosticService.EscalationResponse} {uuid : Nat}
    (rows : Escalated requestId escalation response tables uuid after) :
    Books deployment (served ++ [⟨.escalateIntake requestId escalation,true⟩]) after := by
  obtain ⟨model,latestRun,lastStep,causeCode,occurredAt,startedAt,found,_,_,_,stored⟩ := rows
  generalize shape : (DiagnosticService.escalationEvent model escalation.userSub (DiagnosticService.escalationPayload
    escalation.note lastStep latestRun) occurredAt).model uuid startedAt = event at stored
  have inside : model ∈ tables.requests := List.mem_of_find?_eq_some found
  have named : model.id = requestId := by simpa using List.find?_some found
  have counted : ∀ id, escalations (served ++ [⟨.escalateIntake requestId escalation,true⟩]) id =
      escalations served id + if requestId = id then 1 else 0 := by
    intro id
    rw [escalations_append]
    simp [ApiRequest.escalates]
  have requestRows : after.requests = tables.requests := by rw [stored]
  have runRows : after.runs = tables.runs := by rw [stored]
  have eventRows : after.auditEvents = tables.auditEvents ++ [event] := by rw [stored]
  have own : event.correlationId = model.correlationId := by
    rw [← shape]
    rfl
  refine ⟨?_,?_,?_,?_,?_,?_⟩
  · intro owner member
    rw [requestRows] at member
    by_cases same : owner = model
    · subst same
      apply (books.accounted owner member).heard runRows eventRows ?_ own ?_ ?_
      · rw [← shape]
        rfl
      · rw [← shape]
        rfl
      · rw [counted,if_pos named.symm]
    · have noRuns : after.runs = tables.runs ++ [] := by rw [runRows,List.append_nil]
      refine (books.accounted owner member).frame noRuns eventRows (List.forall_mem_nil _) ?_ ?_
      · intro row new other
        rw [List.mem_singleton.mp new,own] at other
        exact same (books.same_request member inside other.symm)
      · have apart : requestId ≠ owner.id := by
          intro equal
          exact same (List.inj_on_of_nodup_map books.distinct member inside (equal.symm.trans named.symm))
        rw [counted,if_neg apart]
        rfl
  · rw [requestRows]
    exact books.named
  · rw [requestRows]
    exact books.distinct
  · rw [requestRows,runRows]
    exact books.runs
  · intro row member
    rw [eventRows] at member
    rw [requestRows]
    rcases List.mem_append.mp member with old | new
    · exact books.events row old
    · rw [List.mem_singleton.mp new]
      exact ⟨model,inside,own⟩
  · intro id absent
    rw [requestRows] at absent
    have apart : requestId ≠ id := by
      rw [← named]
      exact absent model inside
    rw [counted,books.unheard id absent,if_neg apart]

end Books

end AccessAgent
