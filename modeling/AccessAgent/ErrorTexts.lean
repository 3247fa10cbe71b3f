import AccessAgent.Http
import AccessAgent.Semantics.Veil

/-! What exceptions say. A client reads the text of an `AppError` or an `HTTPException` that ends its
request; what any other exception says, and whatever a check raises, it never learns. -/

namespace AccessAgent
open Semantics

/-- Two exceptions that a client cannot tell apart: they are equal, or neither is answered with its text and both or none
of them say that the request is not valid. -/
def Indistinct (left right : Exn) : Prop :=
  left = right ∨ worded left.cls = none ∧ worded right.cls = none ∧
    (left.cls = .requestValidationError ↔ right.cls = .requestValidationError)

theorem Indistinct.refl (raised : Exn) : Indistinct raised raised := Or.inl rfl

theorem errorResponse_indistinct {left right : Exn} (indistinct : Indistinct left right) :
    errorResponse left = errorResponse right := by
  rcases indistinct with rfl | ⟨first,second,validates⟩
  · rfl
  · rw [errorResponse,errorResponse,first,second]
    simp only [validates]

variable {σ : Type}

/-- In worlds that are alike the connector answers alike or raises in both. Of what the lookup of a
login raises, a client must not be able to tell more; a check may raise anything. -/
structure ConnectorSPI.Discreet (alike : σ → σ → Prop) (connector : ConnectorSPI σ) : Prop where
  resolveSubjectSub : ∀ loginId, Veiled Indistinct alike (connector.resolveSubjectSub loginId)
  checkAvailability : ∀ sub, Veiled (fun _ _ => True) alike (connector.checkAvailability sub)
  getUserStatus : ∀ sub, Veiled (fun _ _ => True) alike (connector.getUserStatus sub)
  getAuthEvents : ∀ sub window, Veiled (fun _ _ => True) alike (connector.getAuthEvents sub window)
  getEffectivePermissions : ∀ sub resource, Veiled (fun _ _ => True) alike (connector.getEffectivePermissions sub resource)
  getRequiredPermissions : ∀ resource, Veiled (fun _ _ => True) alike (connector.getRequiredPermissions resource)
  getPermissionAuditEvents : ∀ sub window, Veiled (fun _ _ => True) alike (connector.getPermissionAuditEvents sub window)

variable [Clock σ]

/-- In worlds that are alike everything a deployment awaits ends alike. -/
structure Deployment.Discreet (deployment : Deployment σ) (alike : σ → σ → Prop) : Prop where
  clock : SameClock alike
  connectors : ∀ connectorType connectorClass, deployment.connectorTypes.find connectorType = some connectorClass →
    ∀ connectorId config, (connectorClass connectorId config).Discreet alike
  parse : ∀ message, Veiled Indistinct alike (deployment.parse message)
  flush : Veiled Indistinct alike deployment.flush
  select : Veiled Indistinct alike deployment.select
  ship : ∀ event, Veiled Indistinct alike (deployment.ship event)
  commit : Veiled Indistinct alike deployment.commit

/-! ### The funnel -/

namespace DiagnosticOrchestrator
open Step

/-- Two diagnoses in worlds that are alike. -/
structure Alike (alike : σ → σ → Prop) (left right : Diagnosis σ) : Prop where
  world : alike left.world right.world
  ctx : left.ctx = right.ctx
  discreet : left.ctx.connector.Discreet alike

variable {alike : σ → σ → Prop} {errors : Exn → Exn → Prop} {α : Type}

omit [Clock σ] in
theorem await_veiled {program : Effect Exn σ α} (veiled : Veiled errors alike program) :
    Veiled errors (Alike alike) (await program) :=
  Veiled.zoom (fun _ _ same => same.world) (fun _ _ _ _ same after => ⟨after,same.ctx,same.discreet⟩) veiled

omit [Clock σ] in
theorem context_veiled {next : DiagnosticContext σ → Step σ α}
    (rest : ∀ ctx, ctx.connector.Discreet alike → Veiled errors (Alike alike) (next ctx)) :
    Veiled errors (Alike alike) (context >>= next) := by
  apply Veiled.bind_holding (fun ctx => ctx.connector.Discreet alike) (Veiled.read fun _ _ same => same.ctx)
  · intro left right ctx same answered
    rw [← Except.ok.inj answered]
    exact same.discreet
  · exact rest

omit [Clock σ] in
theorem modifyContext_veiled {change : DiagnosticContext σ → DiagnosticContext σ}
    (sameConnector : ∀ ctx, (change ctx).connector = ctx.connector) :
    Veiled errors (Alike alike) (modifyContext change) := by
  apply Veiled.update
  intro left right same
  refine ⟨same.world,congrArg change same.ctx,?_⟩
  rw [sameConnector]
  exact same.discreet

theorem now_veiled (clock : SameClock alike) : Veiled errors alike (datetimeNow : Effect Exn σ Datetime) := by
  intro left right same
  obtain ⟨reading,after⟩ := clock left right same
  exact ⟨congrArg UtcNow.value reading,after⟩

variable (clock : SameClock alike)
include clock

theorem dated_veiled (result : Datetime → α) :
    Veiled errors (Alike alike) (do return result (← await datetimeNow)) :=
  Veiled.bind (await_veiled (now_veiled clock)) fun _ => Veiled.pure _

theorem step1_veiled : Veiled (fun _ _ => True) (Alike alike) Step1SystemAvailability.run := by
  apply context_veiled
  intro ctx discreet
  apply Veiled.bind (await_veiled (discreet.checkAvailability _))
  exact fun result => dated_veiled clock _

theorem step2_veiled : Veiled (fun _ _ => True) (Alike alike) Step2AccountStatus.run := by
  apply context_veiled
  intro ctx discreet
  apply Veiled.bind (await_veiled (discreet.getUserStatus _))
  intro result
  apply Veiled.bind
  · exact modifyContext_veiled fun _ => rfl
  · exact fun _ => dated_veiled clock _

theorem step3_veiled : Veiled (fun _ _ => True) (Alike alike) Step3AuthEvents.run := by
  apply context_veiled
  intro ctx discreet
  apply Veiled.bind (await_veiled (discreet.getAuthEvents _ _))
  intro events
  cases events with
  | nil => exact dated_veiled clock _
  | cons first rest =>
    apply Veiled.bind (Veiled.lift (fun _ => trivial) _)
    exact fun latest => dated_veiled clock _

theorem step4_veiled : Veiled (fun _ _ => True) (Alike alike) Step4Authorization.run := by
  apply context_veiled
  intro ctx discreet
  apply Veiled.bind (await_veiled (discreet.getRequiredPermissions _))
  intro required
  cases required with
  | nil => exact dated_veiled clock _
  | cons first rest =>
    apply Veiled.bind (await_veiled (discreet.getEffectivePermissions _ _))
    intro effective
    apply Veiled.bind (await_veiled (now_veiled clock))
    intro now
    apply Veiled.bind (Veiled.lift (fun _ => trivial) _)
    intro assessed
    apply Veiled.bind (await_veiled (discreet.getPermissionAuditEvents _ _))
    intro auditEvents
    apply Veiled.bind (Veiled.lift (fun _ => trivial) _)
    exact fun conclusion => dated_veiled clock _

theorem walk_veiled (steps : List (Step σ VerdictResult × FunnelStep))
    (veiled : ∀ step ∈ steps, Veiled (fun _ _ => True) (Alike alike) step.1) :
    Veiled Indistinct (Alike alike) (walk steps) := by
  induction steps with
  | nil => exact Veiled.pure _
  | cons step rest ih =>
    -- what a step raises is not looked at
    apply Veiled.bind (Veiled.recover (veiled step List.mem_cons_self) (dated_veiled clock _))
    intro verdict
    have appends : Veiled Indistinct (Alike alike) (modifyContext (appendVerdict verdict)) :=
      modifyContext_veiled fun _ => rfl
    apply Veiled.bind appends
    intro _
    split
    · exact ih fun step member => veiled step (List.mem_cons_of_mem _ member)
    · exact Veiled.pure _

theorem run_veiled : Veiled Indistinct (Alike alike) run := by
  apply Veiled.bind
  · apply walk_veiled clock
    simp only [stepModules,List.forall_mem_cons]
    exact ⟨step1_veiled clock,step2_veiled clock,step3_veiled clock,step4_veiled clock,by simp⟩
  · intro _
    exact context_veiled fun ctx _ => Veiled.lift Indistinct.refl _

end DiagnosticOrchestrator

/-! ### The services -/

/-- Two sessions in worlds that are alike, with connectors that tell nothing. -/
structure Session.Alike (alike : σ → σ → Prop) (left right : Session σ) : Prop where
  world : alike left.world right.world
  tables : left.tables = right.tables
  startedAt : left.startedAt = right.startedAt
  instances : left.instances = right.instances
  discreet : ∀ connectorId connector, left.instances.find connectorId = some connector → connector.Discreet alike
  nextUuid : left.nextUuid = right.nextUuid

section Handlers
variable {alike : σ → σ → Prop} {errors : Exn → Exn → Prop} {α : Type}

omit [Clock σ] in
theorem Handler.await_veiled {program : Effect Exn σ α} (veiled : Veiled errors alike program) :
    Veiled errors (Session.Alike alike) (Handler.await program) := by
  apply Veiled.zoom (fun _ _ same => same.world) _ veiled
  intro left right first second same after
  exact ⟨after,same.tables,same.startedAt,same.instances,same.discreet,same.nextUuid⟩

omit [Clock σ] in
theorem Handler.tables_veiled : Veiled errors (Session.Alike alike) (Handler.tables : Handler σ Tables) :=
  Veiled.read fun _ _ same => same.tables

omit [Clock σ] in
theorem Handler.transactionStart_veiled :
    Veiled errors (Session.Alike alike) (Handler.transactionStart : Handler σ Datetime) :=
  Veiled.read fun _ _ same => same.startedAt

omit [Clock σ] in
theorem Handler.modifyTables_veiled (change : Tables → Tables) :
    Veiled errors (Session.Alike alike) (Handler.modifyTables change) := by
  apply Veiled.update
  intro left right same
  exact ⟨same.world,congrArg change same.tables,same.startedAt,same.instances,same.discreet,same.nextUuid⟩

omit [Clock σ] in
theorem Handler.uuid4_veiled : Veiled errors (Session.Alike alike) (Handler.uuid4 : Handler σ Uuid) := by
  intro left right same
  exact ⟨same.nextUuid,same.world,same.tables,same.startedAt,same.instances,same.discreet,
    congrArg (· + 1) same.nextUuid⟩

theorem Handler.now_veiled (clock : SameClock alike) :
    Veiled errors (Session.Alike alike) (datetimeNow : Handler σ Datetime) := by
  intro left right same
  obtain ⟨reading,after⟩ := clock _ _ same.world
  exact ⟨congrArg UtcNow.value reading,after,same.tables,same.startedAt,same.instances,same.discreet,same.nextUuid⟩

variable {deployment : Deployment σ} (discreet : deployment.Discreet alike)
include discreet

theorem getConnector_discreet (policy : SystemPolicy) {instances : Instances σ}
    (cached : ∀ connectorId connector, instances.find connectorId = some connector → connector.Discreet alike) :
    let found := getConnector deployment.connectorTypes policy.systemId policy.connector.type policy.config instances
    (∀ connector, found.1 = .ok connector → connector.Discreet alike) ∧
      ∀ connectorId connector, found.2.find connectorId = some connector → connector.Discreet alike := by
  dsimp only
  rw [getConnector]
  split
  next connector known =>
    refine ⟨fun other same => ?_,cached⟩
    rw [← Except.ok.inj same]
    exact cached _ _ known
  next =>
    split
    next => exact ⟨nofun,cached⟩
    next connectorClass registered =>
      have made := discreet.connectors _ connectorClass registered policy.systemId policy.config
      refine ⟨fun other same => ?_,fun connectorId connector found => ?_⟩
      · rw [← Except.ok.inj same]
        exact made
      · rw [Dictionary.find_set] at found
        split at found
        next => rwa [← Option.some.inj found]
        next => exact cached connectorId connector found

theorem connectorOf_veiled {policy : SystemPolicy} {next : ConnectorSPI σ → Handler σ α}
    (rest : ∀ connector, connector.Discreet alike → Veiled Indistinct (Session.Alike alike) (next connector)) :
    Veiled Indistinct (Session.Alike alike) (connectorOf deployment policy >>= next) := by
  apply Veiled.bind_holding (fun connector => connector.Discreet alike) _ _ rest
  · intro left right same
    have known := getConnector_discreet discreet policy same.discreet
    rw [connectorOf]
    dsimp only
    refine ⟨?_,same.world,same.tables,same.startedAt,?_,known.2,same.nextUuid⟩
    · rw [same.instances]
      exact SameUpTo.refl Indistinct.refl _
    · rw [same.instances]
  · intro left right connector same answered
    exact (getConnector_discreet discreet policy same.discreet).1 connector answered

theorem getRequest_veiled (requestId : Uuid) :
    Veiled Indistinct (Session.Alike alike) (DiagnosticRepository.getRequest deployment requestId) :=
  Veiled.bind (Handler.await_veiled discreet.select) fun _ => Veiled.bind Handler.tables_veiled fun _ => Veiled.pure _

theorem listRuns_veiled (requestId : Uuid) :
    Veiled Indistinct (Session.Alike alike) (DiagnosticRepository.listRunsForRequest deployment requestId) :=
  Veiled.bind (Handler.await_veiled discreet.select) fun _ => Veiled.bind Handler.tables_veiled fun _ => Veiled.pure _

theorem createRequest_veiled (request : Uuid → DiagnosticRequestModel) :
    Veiled Indistinct (Session.Alike alike) (DiagnosticRepository.createRequest deployment request) := by
  apply Veiled.bind Handler.uuid4_veiled
  intro id
  apply Veiled.bind (Handler.await_veiled discreet.flush)
  intro _
  exact Veiled.bind (Handler.modifyTables_veiled _) fun _ => Veiled.pure _

theorem createRun_veiled (run : Uuid → Datetime → DiagnosticRunModel) :
    Veiled Indistinct (Session.Alike alike) (DiagnosticRepository.createRun deployment run) := by
  apply Veiled.bind Handler.uuid4_veiled
  intro id
  apply Veiled.bind (Handler.await_veiled discreet.flush)
  intro _
  exact Veiled.bind Handler.transactionStart_veiled fun _ => Handler.modifyTables_veiled _

theorem record_veiled (event : AuditEvent) :
    Veiled Indistinct (Session.Alike alike) (AuditService.record deployment event) := by
  have appends : Veiled Indistinct (Session.Alike alike) (AuditRepository.append deployment event.model) := by
    apply Veiled.bind Handler.uuid4_veiled
    intro id
    apply Veiled.bind (Handler.await_veiled discreet.flush)
    intro _
    exact Veiled.bind Handler.transactionStart_veiled fun _ => Handler.modifyTables_veiled _
  exact Veiled.bind appends fun _ => Handler.await_veiled (discreet.ship event)

theorem submit_veiled (intake : ComplaintIntake) (correlationId : String) : Veiled Indistinct (Session.Alike alike)
    (IntakeService.submit deployment intake.loginId intake correlationId) := by
  apply Veiled.bind (Veiled.lift Indistinct.refl _)
  intro policy
  apply connectorOf_veiled discreet
  intro connector quiet
  apply Veiled.bind (Handler.await_veiled (quiet.resolveSubjectSub _))
  intro subject
  cases subject with
  | none => exact Veiled.throw Indistinct.refl _
  | some subjectSub =>
    apply Veiled.bind (Handler.await_veiled (discreet.parse _))
    intro draft
    apply Veiled.bind (createRequest_veiled discreet _)
    intro request
    apply Veiled.bind (Handler.now_veiled discreet.clock)
    intro occurredAt
    exact Veiled.bind (record_veiled discreet _) fun _ => Veiled.pure _

theorem orchestrate_veiled {ctx : DiagnosticContext σ} (quiet : ctx.connector.Discreet alike) :
    Veiled Indistinct (Session.Alike alike) (DiagnosticService.orchestrate ctx) := by
  intro left right same
  obtain ⟨answers,after⟩ := DiagnosticOrchestrator.run_veiled discreet.clock ⟨left.world,ctx⟩ ⟨right.world,ctx⟩
    ⟨same.world,rfl,quiet⟩
  exact ⟨answers,after.world,same.tables,same.startedAt,same.instances,same.discreet,same.nextUuid⟩

theorem runDiagnostic_veiled (requestId : Uuid) (principal : Principal) : Veiled Indistinct (Session.Alike alike)
    (DiagnosticService.runDiagnostic deployment requestId principal) := by
  apply Veiled.bind (getRequest_veiled discreet requestId)
  intro found
  cases found with
  | none => exact Veiled.throw Indistinct.refl _
  | some model =>
    apply Veiled.bind (Veiled.lift Indistinct.refl _)
    intro draft
    apply Veiled.bind (Veiled.lift Indistinct.refl _)
    intro policy
    apply connectorOf_veiled discreet
    intro connector quiet
    apply Veiled.bind (orchestrate_veiled discreet quiet)
    intro result
    apply Veiled.bind (createRun_veiled discreet _)
    intro _
    apply Veiled.bind (Handler.now_veiled discreet.clock)
    intro completedAt
    apply Veiled.bind (record_veiled discreet _)
    intro _
    split
    · apply Veiled.bind (Handler.now_veiled discreet.clock)
      intro escalatedAt
      exact Veiled.bind (record_veiled discreet _) fun _ => Veiled.pure _
    · exact Veiled.pure _

theorem escalateRequest_veiled (requestId : Uuid) (userSub : String) (note : Option String) :
    Veiled Indistinct (Session.Alike alike) (DiagnosticService.escalateRequest deployment requestId userSub note) := by
  apply Veiled.bind (getRequest_veiled discreet requestId)
  intro found
  cases found with
  | none => exact Veiled.throw Indistinct.refl _
  | some model =>
    apply Veiled.bind (listRuns_veiled discreet requestId)
    intro runs
    apply Veiled.bind (Veiled.lift Indistinct.refl _)
    intro latestRun
    apply Veiled.bind (Veiled.lift Indistinct.refl _)
    intro scenario
    apply Veiled.bind (Handler.now_veiled discreet.clock)
    intro occurredAt
    exact Veiled.bind (record_veiled discreet _) fun _ => Veiled.pure _

/-! ### The endpoints -/

omit [Clock σ] discreet in
theorem killed_veiled : Veiled Indistinct (Session.Alike alike) (assertAgentNotKilled deployment) := by
  rw [assertAgentNotKilled]
  split
  · exact Veiled.throw Indistinct.refl _
  · exact Veiled.pure _

theorem handle_veiled (request : ApiRequest) :
    Veiled Indistinct (Session.Alike alike) (handle deployment request) := by
  cases request with
  | submitIntake intake =>
    have submits : Veiled Indistinct (Session.Alike alike) (submitIntake deployment intake) := by
      apply Veiled.bind killed_veiled
      intro _
      apply Veiled.bind Handler.uuid4_veiled
      intro uuid
      apply Veiled.bind (submit_veiled discreet intake _)
      intro model
      exact Veiled.bind (runDiagnostic_veiled discreet _ _) fun _ => Veiled.pure _
    exact Veiled.bind submits fun _ => Veiled.pure _
  | escalateIntake diagnosticRequestId escalation =>
    have escalates : Veiled Indistinct (Session.Alike alike)
        (escalateIntake deployment diagnosticRequestId escalation) :=
      Veiled.bind killed_veiled fun _ => escalateRequest_veiled discreet _ _ _
    exact Veiled.bind escalates fun _ => Veiled.pure _

theorem queryAuditEvents_veiled (xLoginId correlationId subjectSub eventType : Option String) :
    Veiled Indistinct (Session.Alike alike)
      (queryAuditEvents deployment xLoginId correlationId subjectSub eventType) := by
  apply Veiled.bind (Veiled.lift Indistinct.refl _)
  intro principal
  have rows : ∀ filters, Veiled Indistinct (Session.Alike alike) (AuditRepository.query deployment filters) := by
    intro filters
    apply Veiled.bind (Handler.await_veiled discreet.select)
    exact fun _ => Veiled.bind Handler.tables_veiled fun _ => Veiled.pure _
  exact Veiled.bind (rows _) fun _ => Veiled.pure _

theorem endpoint_veiled {parseUuid : String → Option Uuid} {request : HttpRequest} {handler : Handler σ HttpBody}
    (valid : endpoint deployment parseUuid request = .ok handler) :
    Veiled Indistinct (Session.Alike alike) handler := by
  cases request with
  | postIntake body =>
    simp only [endpoint,Raising.bind_ok] at valid
    obtain ⟨_,_,intake,_,same⟩ := valid
    rw [← Except.ok.inj same]
    exact Veiled.map (handle_veiled discreet _) _
  | postEscalate diagnosticRequestId body =>
    simp only [endpoint,Raising.bind_ok] at valid
    obtain ⟨_,_,escalation,_,requestId,_,same⟩ := valid
    rw [← Except.ok.inj same]
    exact Veiled.map (handle_veiled discreet _) _
  | getAudit xLoginId correlationId subjectSub eventType =>
    rw [← Except.ok.inj valid]
    exact Veiled.map (queryAuditEvents_veiled discreet _ _ _ _) _

end Handlers

/-! ### Histories -/

/-- Two applications in worlds that are alike. -/
structure App.Alike (alike : σ → σ → Prop) (left right : App σ) : Prop where
  world : alike left.world right.world
  committed : left.committed = right.committed
  instances : left.instances = right.instances
  discreet : ∀ connectorId connector, left.instances.find connectorId = some connector → connector.Discreet alike
  nextUuid : left.nextUuid = right.nextUuid

theorem respond_indistinct {left right : Except Exn HttpBody} (same : SameUpTo Indistinct left right) :
    respond left = respond right := by
  cases left with
  | error raised =>
    cases right with
    | error other => exact errorResponse_indistinct same
    | ok body => exact same.elim
  | ok body =>
    cases right with
    | error other => exact same.elim
    | ok other =>
      obtain rfl : body = other := same
      rfl

section Histories
variable {alike : σ → σ → Prop} {deployment : Deployment σ} (discreet : deployment.Discreet alike)
include discreet

theorem begin_alike {left right : App σ} (same : App.Alike alike left right) :
    Session.Alike alike left.begin right.begin := by
  obtain ⟨reading,ticked⟩ := discreet.clock _ _ same.world
  exact ⟨ticked,same.committed,congrArg UtcNow.value reading,same.instances,same.discreet,same.nextUuid⟩

theorem transaction_veiled {handler : Handler σ HttpBody} (veiled : Veiled Indistinct (Session.Alike alike) handler)
    {left right : App σ} (same : App.Alike alike left right) :
    App.Alike alike (transaction deployment handler left).2 (transaction deployment handler right).2 := by
  obtain ⟨answers,after⟩ := veiled left.begin right.begin (begin_alike discreet same)
  rw [transaction,transaction]
  rcases ranLeft : handler.exec left.begin with ⟨raised | value,first⟩
  · rcases ranRight : handler.exec right.begin with ⟨other | value,second⟩
    · rw [ranLeft,ranRight] at after
      exact ⟨after.world,same.committed,after.instances,after.discreet,after.nextUuid⟩
    · rw [ranLeft,ranRight] at answers
      exact answers.elim
  · rcases ranRight : handler.exec right.begin with ⟨other | value',second⟩
    · rw [ranLeft,ranRight] at answers
      exact answers.elim
    · rw [ranLeft,ranRight] at after
      obtain ⟨outcomes,world⟩ := discreet.commit _ _ after.world
      dsimp only
      rcases commitLeft : deployment.commit.exec first.world with ⟨raised | _,one⟩
      · rcases commitRight : deployment.commit.exec second.world with ⟨other | _,two⟩
        · rw [commitLeft,commitRight] at world
          exact ⟨world,same.committed,after.instances,after.discreet,after.nextUuid⟩
        · rw [commitLeft,commitRight] at outcomes
          exact outcomes.elim
      · rcases commitRight : deployment.commit.exec second.world with ⟨other | _,two⟩
        · rw [commitLeft,commitRight] at outcomes
          exact outcomes.elim
        · rw [commitLeft,commitRight] at world
          exact ⟨world,after.tables,after.instances,after.discreet,after.nextUuid⟩

theorem serveHttp_veiled (parseUuid : String → Option Uuid) (request : HttpRequest) {left right : App σ}
    (same : App.Alike alike left right) :
    (serveHttp deployment parseUuid request left).1 = (serveHttp deployment parseUuid request right).1 ∧
      App.Alike alike (serveHttp deployment parseUuid request left).2 (serveHttp deployment parseUuid request right).2 := by
  rw [serveHttp,serveHttp]
  cases valid : endpoint deployment parseUuid request with
  | error raised => exact ⟨rfl,same⟩
  | ok handler =>
    have veiled := endpoint_veiled discreet valid
    obtain ⟨answers,_⟩ := veiled left.begin right.begin (begin_alike discreet same)
    exact ⟨respond_indistinct answers,transaction_veiled discreet veiled same⟩

theorem serveHttpAll_veiled (parseUuid : String → Option Uuid) (requests : List HttpRequest) {left right : App σ}
    (same : App.Alike alike left right) :
    (serveHttpAll deployment parseUuid requests left).1 = (serveHttpAll deployment parseUuid requests right).1 ∧
      App.Alike alike (serveHttpAll deployment parseUuid requests left).2
        (serveHttpAll deployment parseUuid requests right).2 := by
  induction requests generalizing left right with
  | nil => exact ⟨rfl,same⟩
  | cons request rest ih =>
    obtain ⟨response,after⟩ := serveHttp_veiled discreet parseUuid request same
    obtain ⟨responses,last⟩ := ih after
    rw [serveHttpAll,serveHttpAll]
    exact ⟨congrArg₂ List.cons response responses,last⟩

/-- Whatever requests come, the responses and the stored tables are the same in any two worlds that
differ in what exceptions say: of an exception that is neither an `AppError` nor an `HTTPException`, or
that a check has raised, no text reaches a client. -/
theorem error_texts_unseen (parseUuid : String → Option Uuid) {left right : σ} (worlds : alike left right)
    (requests : List HttpRequest) :
    let ends := fun world => serveHttpAll deployment parseUuid requests (App.start world)
    (ends left).1 = (ends right).1 ∧ (ends left).2.committed = (ends right).2.committed := by
  have started : App.Alike alike (App.start left) (App.start right) := ⟨worlds,rfl,rfl,nofun,rfl⟩
  obtain ⟨responses,after⟩ := serveHttpAll_veiled discreet parseUuid requests started
  exact ⟨responses,after.committed⟩

end Histories

/-! ### A check that says something else each time -/

/-- A world that exceptions quote. -/
structure Quoted where
  text : String

instance : Clock Quoted where
  now world := (default,world)

def quotingConnector : ConnectorSPI Quoted where
  connectorId := "openiam"
  resolveSubjectSub loginId := pure (some loginId)
  checkAvailability _ := ⟨fun world => (.error (⟨.openIAMAuthError,world.text⟩ : Exn),world)⟩
  getUserStatus _ := pure ⟨.active,none,none⟩
  getAuthEvents _ _ := pure []
  getEffectivePermissions _ _ := pure []
  getRequiredPermissions _ := pure []
  getPermissionAuditEvents _ _ := pure []

def quotingDeployment : Deployment Quoted where
  policies := [("openiam",⟨"openiam",⟨"openiam",none,"",10,[]⟩,none,[]⟩)]
  connectorTypes := [("openiam",fun _ _ => quotingConnector)]
  defaultSystemId := "openiam"
  agentKillSwitchEnabled := false
  uuidText uuid := String.ofList (List.replicate uuid '0')
  uuidText_injective := zeros_injective
  parse _ := pure ⟨.other,"",none⟩
  flush := pure ()
  select := pure ()
  ship _ := pure ()
  commit := pure ()

theorem quotingConnector_discreet : quotingConnector.Discreet (fun _ _ => True) where
  resolveSubjectSub _ := Veiled.pure _
  checkAvailability _ _ _ _ := ⟨trivial,trivial⟩
  getUserStatus _ := Veiled.pure _
  getAuthEvents _ _ := Veiled.pure _
  getEffectivePermissions _ _ := Veiled.pure _
  getRequiredPermissions _ := Veiled.pure _
  getPermissionAuditEvents _ _ := Veiled.pure _

theorem quotingDeployment_discreet : quotingDeployment.Discreet (fun _ _ => True) where
  clock _ _ _ := ⟨rfl,trivial⟩
  connectors connectorType connectorClass found connectorId config := by
    have registered := Dictionary.mem_of_find found
    obtain ⟨_,rfl⟩ := Prod.mk.inj (List.mem_singleton.mp registered)
    exact quotingConnector_discreet
  parse _ := Veiled.pure _
  flush := Veiled.pure _
  select := Veiled.pure _
  ship _ := Veiled.pure _
  commit := Veiled.pure _

theorem error_texts_unseen_quoted :
    let intake : Json := .obj [("login_id",.str "alice"),("free_text",.str "cannot sign in")]
    let ends := fun world => serveHttpAll quotingDeployment (fun _ => none) [.postIntake (.json intake)] (App.start world)
    (ends ⟨"401 from https://iam"⟩).1 = (ends ⟨"500 from https://iam"⟩).1 ∧
      (ends ⟨"401 from https://iam"⟩).2.committed = (ends ⟨"500 from https://iam"⟩).2.committed :=
  error_texts_unseen quotingDeployment_discreet (fun _ => none) trivial _

end AccessAgent
