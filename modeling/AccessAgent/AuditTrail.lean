import AccessAgent.AuditRead

/-! From recording to reading: which fields of an event survive the store, and when the
subject of a case reads its own trail back. -/

namespace AccessAgent
open Semantics Handler

/-! ### One event through the store -/

structure Carries (found : AuditEventResponse) (event : AuditEvent) : Prop where
  correlationId : found.correlationId = event.correlationId
  requesterSub : found.requesterSub = event.requesterSub
  diagnosticSubjectSub : found.diagnosticSubjectSub = event.diagnosticSubjectSub
  eventType : found.eventType = event.eventType.value
  visibilityTier : found.visibilityTier = event.visibilityTier.value
  payload : found.payload = event.payload
  occurredAt : found.occurredAt.same event.occurredAt

structure AuditQueryFilters.Matches (filters : AuditQueryFilters) (event : AuditEvent) : Prop where
  correlationId : admits filters.correlationId event.correlationId = true
  subjectSub : admits filters.subjectSub event.diagnosticSubjectSub = true
  eventType : admits filters.eventType event.eventType.value = true

variable {σ : Type} (deployment : Deployment σ)

/-- The query answers what it would answer without the event, and one response that
carries it. -/
def RoundTripped (principal : Principal) (filters : AuditQueryFilters) (event : AuditEvent)
    (earlier later : List AuditEventModel) (responses : List AuditEventResponse) : Prop :=
  ∃ found, responses = AuditService.answer deployment principal filters earlier ++
      found::AuditService.answer deployment principal filters later ∧ Carries found event

theorem model_selected {principal : Principal} (elevated : principal.elevated = true) {filters : AuditQueryFilters}
    {event : AuditEvent} (matching : filters.Matches event) (id : Uuid) (occurredAt : Datetime) :
    (AuditService.scopedFilters principal filters).selects (event.model id occurredAt) = true := by
  rw [AuditService.scopedFilters,elevated,AuditQueryFilters.selects]
  simp [AuditEvent.model,matching.correlationId,matching.subjectSub,matching.eventType]

/-- An elevated reader gets back everything about a recorded event but its time: the row
is dated by the start of the transaction it was recorded in. -/
theorem record_roundtrip_iff (event : AuditEvent) {before after reader ended : Session σ}
    (recorded : (AuditService.record deployment event).exec before = (.ok (),after))
    (later : List AuditEventModel) (rows : reader.tables.auditEvents = after.tables.auditEvents ++ later)
    (principal : Principal) (elevated : principal.elevated = true) (filters : AuditQueryFilters)
    (matching : filters.Matches event) {responses : List AuditEventResponse}
    (answered : (AuditService.query deployment principal filters).exec reader = (.ok responses,ended)) :
    RoundTripped deployment principal filters event before.tables.auditEvents later responses ↔
      before.startedAt.same event.occurredAt := by
  obtain ⟨stored,_,_⟩ := record_success deployment recorded
  let row := event.model before.nextUuid before.startedAt
  have selected : AuditService.answer deployment principal filters [row] = [AuditService.response deployment row] := by
    have matched : (AuditService.scopedFilters principal filters).selects row = true :=
      model_selected elevated matching _ _
    rw [AuditService.answer,List.filter_cons_of_pos matched]
    rfl
  have shown : responses = AuditService.answer deployment principal filters before.tables.auditEvents ++
      AuditService.response deployment row::AuditService.answer deployment principal filters later := by
    rw [AuditService.query_success deployment answered,rows,stored,AuditService.answer_append,
      AuditService.answer_append,selected,List.append_assoc]
    rfl
  constructor
  · intro returned
    obtain ⟨found,same,carried⟩ := returned
    obtain ⟨rfl,_⟩ := List.cons.inj (List.append_cancel_left (shown.symm.trans same))
    exact carried.occurredAt
  · intro dated
    exact ⟨_,shown,rfl,rfl,rfl,rfl,rfl,rfl,dated⟩

def sampleEvent (occurredAt : Datetime) : AuditEvent :=
  ⟨"c","alice","alice",.escalationCreated,.selfServiceUser,.obj [],occurredAt⟩

def auditor : Principal := ⟨"admin",["iam_admin"]⟩

def afterSecond : Datetime := ⟨⟨1970,1,1,0,0,1,0,some 0⟩,by decide⟩

theorem record_roundtrip_start :
    let deployment := stillDeployment (stillConnector some .up)
    let event := sampleEvent (default : UtcNow).value
    let row := event.model 0 (default : UtcNow).value
    RoundTripped deployment auditor ⟨none,none,none⟩ event [] [] [AuditService.response deployment row] ↔
      (default : UtcNow).value.same (default : UtcNow).value := by
  intro deployment event row
  have recorded : (AuditService.record deployment event).exec (stillSession []) = (.ok (),_) := rfl
  have answered : (AuditService.query deployment auditor ⟨none,none,none⟩).exec (stillSession [row]) =
      (.ok [AuditService.response deployment row],_) := rfl
  exact record_roundtrip_iff deployment event recorded [] rfl auditor rfl ⟨none,none,none⟩ ⟨rfl,rfl,rfl⟩ answered

/-- Two events of one transaction, a second apart, come back with one time. -/
theorem occurredAt_lost :
    let deployment := stillDeployment (stillConnector some .up)
    let start := (default : UtcNow).value
    ∃ middle after responses ended,
      (AuditService.record deployment (sampleEvent start)).exec (stillSession []) = (.ok (),middle) ∧
      (AuditService.record deployment (sampleEvent afterSecond)).exec middle = (.ok (),after) ∧
      (AuditService.query deployment auditor ⟨none,none,none⟩).exec after = (.ok responses,ended) ∧
      responses.map AuditEventResponse.occurredAt = [start,start] ∧
      ¬RoundTripped deployment auditor ⟨none,none,none⟩ (sampleEvent afterSecond) middle.tables.auditEvents [] responses := by
  intro deployment start
  refine ⟨_,_,_,_,rfl,rfl,rfl,rfl,?_⟩
  intro returned
  obtain ⟨found,same,carried⟩ := returned
  have row : AuditService.response deployment ((sampleEvent afterSecond).model 1 start) = found :=
    (List.cons.inj (List.cons.inj same).2).1
  rw [← row] at carried
  exact absurd carried.occurredAt.2 (by decide)

/-! ### A subject's own trail -/

variable [Clock σ]

/-- The answer of the system's connector for the login of an intake. -/
def resolvedSubject (intake : ComplaintIntake) (session : Session σ) : Option String :=
  match deployment.policies.get (systemIdOf deployment intake) with
  | .error _ => none
  | .ok policy => match (connectorOf deployment policy).exec session with
    | (.error _,_) => none
    | (.ok connector,chosen) => match ((connector.resolveSubjectSub intake.loginId).exec chosen.world).1 with
      | .error _ => none
      | .ok subjectSub => subjectSub

omit [Clock σ] in
theorem resolvedSubject_drawn (intake : ComplaintIntake) (session : Session σ) (drawn : Nat) :
    resolvedSubject deployment intake {session with nextUuid := drawn} = resolvedSubject deployment intake session := by
  rw [resolvedSubject,resolvedSubject]
  cases deployment.policies.get (systemIdOf deployment intake) with
  | error raised => rfl
  | ok policy =>
    dsimp only [connectorOf]
    rcases getConnector deployment.connectorTypes policy.systemId policy.connector.type policy.config
      session.instances with ⟨raised | connector,instances⟩ <;> rfl

theorem submit_resolved {intake : ComplaintIntake} {correlationId : String} {before after : Session σ}
    {model : DiagnosticRequestModel}
    (ok : (IntakeService.submit deployment intake.loginId intake correlationId).exec before = (.ok model,after)) :
    resolvedSubject deployment intake before = some model.subjectSub := by
  rw [IntakeService.submit] at ok
  obtain ⟨policy,_,found,ok⟩ := Effect.bind_success ok
  obtain ⟨known,rfl⟩ := lift_kept found
  obtain ⟨connector,chosen,choose,ok⟩ := Effect.bind_success ok
  obtain ⟨subject,resolved,resolve,ok⟩ := Effect.bind_success ok
  rw [await_exec] at resolve
  cases subject with
  | none => cases ok
  | some subjectSub =>
    obtain ⟨draft,parsed,parse,ok⟩ := Effect.bind_success ok
    obtain ⟨request,created,create,ok⟩ := Effect.bind_success ok
    obtain ⟨shape,_,_,_⟩ := createRequest_success deployment create
    obtain ⟨occurredAt,dated,date,ok⟩ := Effect.bind_success ok
    obtain ⟨_,recorded,record,ok⟩ := Effect.bind_success ok
    obtain ⟨rfl,rfl⟩ := pure_kept ok
    rw [resolvedSubject,known]
    dsimp only
    rw [choose]
    dsimp only
    rw [(Prod.mk.inj resolve).1,shape]

theorem submitIntake_resolved {intake : ComplaintIntake} {before after : Session σ} {response : IntakeDiagnosisResponse}
    (ok : (submitIntake deployment intake).exec before = (.ok response,after)) :
    ∃ model, after.tables.requests = before.tables.requests ++ [model] ∧
      resolvedSubject deployment intake before = some model.subjectSub := by
  rw [submitIntake] at ok
  obtain ⟨_,admitted,gate,ok⟩ := Effect.bind_success ok
  rw [assertAgentNotKilled] at gate
  split at gate
  · cases gate
  obtain ⟨_,rfl⟩ := pure_kept gate
  obtain ⟨uuid,drawn,draw,ok⟩ := Effect.bind_success ok
  obtain ⟨rfl,rfl⟩ : before.nextUuid = uuid ∧ {before with nextUuid := before.nextUuid + 1} = drawn := by
    simpa using draw
  obtain ⟨model,submitted,submit,ok⟩ := Effect.bind_success ok
  obtain ⟨_,_,_,_,rows,_,_⟩ := submit_success deployment submit
  obtain ⟨run,ended,diagnose,ok⟩ := Effect.bind_success ok
  obtain ⟨_,_,_,_,_,_,rows2,_⟩ := runDiagnostic_success deployment diagnose
  obtain ⟨rfl,rfl⟩ := pure_kept ok
  refine ⟨model,by rw [rows2,rows],?_⟩
  exact (resolvedSubject_drawn deployment intake before _).symm.trans (submit_resolved deployment submit)

theorem Transition.keeps_requests {app after : App σ} {request : ApiRequest} {response : Except Exn ApiResponse}
    (transition : Transition deployment app request response after) :
    app.committed.requests <+: after.committed.requests := by
  cases transition with
  | refused unchanged drawn => exact ⟨[],by rw [unchanged,List.append_nil]⟩
  | submitted rows drawn =>
    obtain ⟨_,_,_,_,_,_,_,_,_,committed⟩ := rows
    exact ⟨_,by rw [committed]⟩
  | escalated rows drawn =>
    obtain ⟨_,_,_,_,_,_,_,_,_,_,committed⟩ := rows
    exact ⟨[],by rw [committed,List.append_nil]⟩

theorem Agreement.keeps_requests {deployment : Deployment σ} {served : List Served} {app : App σ}
    (agreement : Agreement deployment served app) (requests : List ApiRequest) :
    app.committed.requests <+: (serveAll deployment requests app).2.committed.requests :=
  agreement.keeps (fun tables => app.committed.requests <+: tables.requests)
    (fun _ _ _ _ transition kept => kept.trans transition.keeps_requests) requests (List.prefix_refl _)

theorem query_own {loginId : String} (present : loginId ≠ "") {app final : App σ} {responses : List AuditEventResponse}
    (answered : transaction deployment (queryAuditEvents deployment (some loginId) none none none) app =
      (.ok responses,final)) (row : AuditEventModel) (stored : row ∈ app.committed.auditEvents) :
    AuditService.response deployment row ∈ responses ↔ row.diagnosticSubjectSub = loginId := by
  obtain ⟨session,ran,_,_⟩ := transaction_succeeded deployment answered
  rw [queryAuditEvents] at ran
  obtain ⟨principal,_,header,asked⟩ := Effect.bind_success ran
  obtain ⟨produced,rfl⟩ := lift_kept header
  obtain ⟨same,_,plain⟩ := getPrincipal_ok produced
  obtain rfl := Option.some.inj same
  rw [AuditService.query_success deployment asked,AuditService.mem_answer]
  constructor
  · intro shown
    obtain ⟨other,_,selected,same⟩ := shown
    have subject : other.diagnosticSubjectSub = row.diagnosticSubjectSub :=
      congrArg AuditEventResponse.diagnosticSubjectSub same
    rw [← subject]
    exact scoped_subject present plain selected
  · intro own
    refine ⟨row,stored,?_,rfl⟩
    rw [AuditService.scopedFilters,plain,Bool.not_false,if_pos rfl,AuditQueryFilters.selects]
    simp [AuditQueryFilters.admits,own]

/-- After an intake that completed, whatever is served before and after it, the caller of
that login reads back all the events of the request exactly when the connector resolves
the login to itself. -/
theorem own_trail_iff (world : σ) (earlier : List ApiRequest) (intake : ComplaintIntake)
    (response : IntakeDiagnosisResponse) (next : App σ)
    (completed : serve deployment (.submitIntake intake) (serveAll deployment earlier (App.start world)).2 =
      (.ok (.intake response),next)) (later : List ApiRequest) (responses : List AuditEventResponse) (final : App σ)
    (answered : transaction deployment (queryAuditEvents deployment (some intake.loginId) none none none)
      (serveAll deployment later next).2 = (.ok responses,final)) :
    (∀ row ∈ (serveAll deployment later next).2.committed.auditEvents, row.correlationId = response.correlationId →
        row.visibilityTier = VisibilityTier.selfServiceUser.value →
        AuditService.response deployment row ∈ responses) ↔
      resolvedSubject deployment intake (serveAll deployment earlier (App.start world)).2.begin =
        some intake.loginId := by
  have agreement := ((Agreement.start world : Agreement deployment [] _).run earlier).1
  have transition := serve_transition deployment (.submitIntake intake) _ agreement.fresh
  have agreed := agreement.step (.submitIntake intake)
  rw [completed] at transition agreed
  obtain ⟨session,ran,committed,_⟩ := transaction_succeeded deployment completed
  obtain ⟨answer,submitted,submit,ran⟩ := Effect.bind_success ran
  obtain ⟨_,rfl⟩ := pure_kept ran
  obtain ⟨model,stored,resolved⟩ := submitIntake_resolved deployment submit
  rw [resolved]
  rw [← committed] at stored
  cases transition with
  | submitted rows drawn =>
    obtain ⟨subjectSub,draft,receivedAt,completedAt,escalatedAt,startedAt,shape,_,_,tables⟩ := rows
    have known : model.correlationId = response.correlationId ∧ model.subjectSub = subjectSub := by
      rw [tables] at stored
      obtain ⟨rfl,_⟩ := List.cons.inj (List.append_cancel_left stored)
      exact ⟨(congrArg IntakeDiagnosisResponse.correlationId shape).symm,rfl⟩
    obtain ⟨balanced,_,events⟩ := agreed.run later
    have kept := (agreed.keeps_requests later).subset (by rw [stored]; exact List.mem_append_right _ List.mem_cons_self)
    have subject := (balanced.accounted model kept).subject
    rw [known.1] at subject
    constructor
    · intro readable
      have received := events.subset (by rw [tables]; exact List.mem_append_right _ List.mem_cons_self)
      have shown := readable _ received (congrArg IntakeDiagnosisResponse.correlationId shape).symm rfl
      have own := (query_own deployment intake.nonempty answered _ received).mp shown
      rw [known.2]
      exact congrArg some own
    · intro same row member named _
      rw [query_own deployment intake.nonempty answered row member,subject row member named]
      exact Option.some.inj same

theorem alice_nonempty : "alice" ≠ "" := by decide

def caseIntake : ComplaintIntake := ⟨"alice",alice_nonempty,"I cannot sign in",none⟩

theorem own_trail_alice :
    let deployment := stillDeployment (stillConnector some .up)
    ∃ response next responses final,
      serve deployment (.submitIntake caseIntake) (App.start ()) = (.ok (.intake response),next) ∧
      transaction deployment (queryAuditEvents deployment (some "alice") none none none) next = (.ok responses,final) ∧
      ((∀ row ∈ next.committed.auditEvents, row.correlationId = response.correlationId →
          row.visibilityTier = VisibilityTier.selfServiceUser.value →
          AuditService.response deployment row ∈ responses) ↔
        resolvedSubject deployment caseIntake (App.start ()).begin = some "alice") := by
  intro deployment
  exact ⟨_,_,_,_,rfl,rfl,own_trail_iff deployment () [] caseIntake _ _ rfl [] _ _ rfl⟩

theorem own_trail_unreadable :
    let deployment := stillDeployment (stillConnector (fun _ => some "u-1") .up)
    ∃ response next final row,
      serve deployment (.submitIntake caseIntake) (App.start ()) = (.ok (.intake response),next) ∧
      transaction deployment (queryAuditEvents deployment (some "alice") none none none) next = (.ok [],final) ∧
      row ∈ next.committed.auditEvents ∧ row.correlationId = response.correlationId ∧
      row.visibilityTier = VisibilityTier.selfServiceUser.value :=
  ⟨_,_,_,_,rfl,rfl,List.mem_cons_self,rfl,rfl⟩

end AccessAgent
