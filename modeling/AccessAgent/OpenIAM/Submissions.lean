import AccessAgent.SubmissionAnswers
import AccessAgent.Advice
import AccessAgent.OpenIAM.Diagnosis
import AccessAgent.OpenIAM.LoginSearch

/-! A complaint from its arrival to its answer, over an OpenIAM server with the records of the user
behind it. The answer is the one that the user's situation asks for, however many other requests
are in flight. -/

namespace AccessAgent.OpenIAM
open Semantics Raising

variable {σ : Type} [Clock σ]

/-! ### Lookups about one user -/

/-- Two connectors whose lookups about this user are the same. -/
structure SameLookups (subjectSub : String) (connector other : ConnectorSPI σ) : Prop where
  checkAvailability : connector.checkAvailability subjectSub = other.checkAvailability subjectSub
  getUserStatus : connector.getUserStatus subjectSub = other.getUserStatus subjectSub
  getAuthEvents : connector.getAuthEvents subjectSub = other.getAuthEvents subjectSub
  getEffectivePermissions : connector.getEffectivePermissions subjectSub = other.getEffectivePermissions subjectSub
  getRequiredPermissions : connector.getRequiredPermissions = other.getRequiredPermissions
  getPermissionAuditEvents : connector.getPermissionAuditEvents subjectSub = other.getPermissionAuditEvents subjectSub

namespace SameLookups
variable {connector other : ConnectorSPI σ} {request : DiagnosticRequest}
variable (same : SameLookups request.subjectSub connector other) (world : σ)
include same

theorem answers : AccessAgent.answers connector request world = AccessAgent.answers other request world := by
  simp only [AccessAgent.answers,authorizationAnswers,same.checkAvailability,same.getUserStatus,same.getAuthEvents,
    same.getEffectivePermissions,same.getRequiredPermissions,same.getPermissionAuditEvents]

theorem timesOf : Directory.timesOf connector request world = Directory.timesOf other request world := by
  simp only [Directory.timesOf,same.checkAvailability,same.getUserStatus,same.getAuthEvents]

end SameLookups

namespace Directory
variable (directory : Directory) (settings : Settings) (setOrder : SetOrder) (serve : Request → Response)

/-- What the server answers about this user is what the directory holds. -/
structure Backs (subjectSub : String) : Prop where
  account : serve (userGet subjectSub) = directory.user
  systems : ∀ name, Named directory.account.body name → serve (dashboardSearch (.str name)) = directory.dashboard name
  log : ∀ start stop actions size, serve (auditlogSearch subjectSub start stop actions size) =
    directory.serve (auditlogSearch subjectSub start stop actions size)

variable {directory serve} {subjectSub : String}

namespace Backs
variable (backs : directory.Backs serve subjectSub)
include backs

omit [Clock σ] in
theorem checkManagedSystem {name : String} (named : Named directory.account.body name) :
    OpenIAM.checkManagedSystem (σ := σ) (answering serve) (.str name) =
      OpenIAM.checkManagedSystem (answering directory.serve) (.str name) := by
  have asked : (answering (σ := σ) serve).authorizedGet (dashboardSearch (.str name)) =
      (answering directory.serve).authorizedGet (dashboardSearch (.str name)) := congrArg pure (backs.systems name named)
  rw [OpenIAM.checkManagedSystem,OpenIAM.checkManagedSystem,asked]

theorem checkAvailability : OpenIAM.checkAvailability (σ := σ) ⟨settings,setOrder,answering serve⟩ subjectSub =
    OpenIAM.checkAvailability (directory.environment settings setOrder σ) subjectSub := by
  obtain ⟨systems,shape,_,member⟩ := nameSet_texts setOrder ((logins directory.account.body).filterMap nameOf)
  have tests : (systems.map .str).map (OpenIAM.checkManagedSystem (σ := σ) (answering serve)) =
      (systems.map .str).map (OpenIAM.checkManagedSystem (answering directory.serve)) := by
    rw [List.map_map,List.map_map]
    exact List.map_congr_left fun name inside => backs.checkManagedSystem (mem_names.mp ((member name).mp inside))
  have asked : (answering (σ := σ) serve).authorizedGet (userGet subjectSub) = pure directory.user :=
    congrArg pure backs.account
  have known : (answering (σ := σ) directory.serve).authorizedGet (userGet subjectSub) = pure directory.user := rfl
  have names : (directory.account.body.field "principalList").items.filterMapM managedSysName =
      .ok (((logins directory.account.body).filterMap nameOf).map .str) := directory.systems.names_ok
  have object := Json.get_field directory.account.object "principalList"
  have records := Json.orEmpty_elements directory.account.principalList.1
  rw [OpenIAM.checkAvailability,OpenIAM.checkAvailability,environment]
  dsimp only
  rw [asked,known,Effect.pure_bind,Effect.pure_bind,show directory.user.failed = false from rfl,if_neg Bool.false_ne_true,
    if_neg Bool.false_ne_true,show directory.user.json = .ok directory.account.body from rfl]
  simp only [Effect.liftM_bind,Effect.lift_bind,object,records,names,shape,tests]

/-- A search of the audit log for this user. -/
theorem auditlog {α : Type} (timeWindow : Timedelta) (actions : List String) (size : Int) (next : Response → Effect Exn σ α) :
    (auditlogPage subjectSub timeWindow actions size >>= fun request => (answering serve).authorizedGet request >>= next) =
      auditlogPage subjectSub timeWindow actions size >>= fun request =>
        (answering directory.serve).authorizedGet request >>= next := by
  simp only [auditlogPage,Effect.bind_assoc,Effect.pure_bind]
  refine bind_congr fun now => bind_congr fun start => ?_
  exact congrArg (· >>= next) (congrArg pure (backs.log _ _ actions size))

theorem sameLookups (connectorId : String) (config : Config) : SameLookups subjectSub
    (connector (σ := σ) ⟨settings,setOrder,answering serve⟩ connectorId config)
    (directory.openiam settings setOrder config connectorId σ) where
  checkAvailability := backs.checkAvailability settings setOrder
  getUserStatus := congrArg (· >>= _) (congrArg pure backs.account)
  getAuthEvents := funext fun timeWindow => backs.auditlog timeWindow _ _ _
  getEffectivePermissions := funext fun _ => congrArg (· >>= _) (congrArg pure backs.account)
  getRequiredPermissions := rfl
  getPermissionAuditEvents := funext fun timeWindow => backs.auditlog timeWindow _ _ _

end Backs

/-! ### A complaint and its answer -/

/-- The service takes the complaint, its system is on this server, and its login is an account of this user there. -/
structure Hosts (directory : Directory) (settings : Settings) (setOrder : SetOrder) (serve : Request → Response)
    (deployment : Deployment σ) (intake : ComplaintIntake) (policy : SystemPolicy) (subjectSub : String) : Prop where
  admitted : deployment.agentKillSwitchEnabled = false
  responsive : Responsive deployment
  parses : ∀ message world, ∃ draft next, (deployment.parse message).exec world = (.ok draft,next)
  own : OwnPolicies deployment
  registered : deployment.connectorTypes = connectorTypes ⟨settings,setOrder,answering serve⟩
  known : deployment.policies.find (systemIdOf deployment intake) = some policy
  openiam : policy.connector.type = "openiam"
  login : ∃ answer : SearchAnswer, serve (usersSearch intake.loginId) = answer.response ∧ answer.resolved = some subjectSub
  backs : directory.Backs serve subjectSub
  opens : LooksBack σ

namespace Hosts
variable {settings setOrder} {deployment : Deployment σ} {intake : ComplaintIntake} {policy : SystemPolicy}
variable (hosts : directory.Hosts settings setOrder serve deployment intake policy subjectSub)
include hosts

theorem attends : Attends deployment intake
    (connector ⟨settings,setOrder,answering serve⟩ (systemIdOf deployment intake) policy.config) subjectSub where
  admitted := hosts.admitted
  responsive := hosts.responsive
  parses := hosts.parses
  own := hosts.own
  connects := by
    rw [makeConnector,PolicyStore.get,hosts.known]
    change (getConnector deployment.connectorTypes policy.systemId policy.connector.type policy.config []).1 = _
    rw [hosts.registered,hosts.openiam,hosts.own _ _ hosts.known]
    rfl
  resolves world := by
    obtain ⟨answer,answered,resolved⟩ := hosts.login
    refine ⟨world,?_⟩
    have found := resolveSubjectSub_answer ⟨settings,setOrder,answering serve⟩ intake.loginId answer
      (show ((answering serve).authorizedGet (usersSearch intake.loginId)).exec world = (.ok answer.response,world) by
        rw [← answered]
        rfl)
    rw [← resolved]
    exact found

end Hosts

/-- The answer to a complaint: its one run goes over this server for this user, and the answer is the one that the
user's situation asks for at the times of the run. -/
def Answers (directory : Directory) (settings : Settings) (setOrder : SetOrder) (serve : Request → Response)
    (policy : SystemPolicy) (systemId : String) (diagnosis : Diagnosis σ) (response : IntakeDiagnosisResponse) : Prop :=
  diagnosis.ctx.connector = connector ⟨settings,setOrder,answering serve⟩ systemId policy.config ∧
  (DiagnosticOrchestrator.run.exec diagnosis).1 = .ok response.run ∧
  ∃ signIns changes,
    let times := timesOf diagnosis.ctx.connector diagnosis.ctx.request diagnosis.world
    Searches diagnosis.ctx.request.subjectSub times signIns changes ∧
    (directory.situation policy.config (systemId ++ ":default") times signIns changes).AnsweredBy response

variable {settings setOrder} {deployment : Deployment σ} {intake : ComplaintIntake} {policy : SystemPolicy}

/-- A run for this user over this server, with the message made of it. -/
theorem run_answers (backs : directory.Backs serve subjectSub) (opens : LooksBack σ) (systemId : String) {request : DiagnosticRequest}
    (subject : request.subjectSub = subjectSub) (system : request.systemId = systemId) (principal : Principal) (correlationId : String)
    (started : σ) {result : DiagnosticRunResult} (requestId : String)
    (ran : (DiagnosticOrchestrator.run.exec ⟨started,.fresh request principal
      (connector ⟨settings,setOrder,answering serve⟩ systemId policy.config) correlationId defaultPerStepTimeout⟩).1 = .ok result) :
    directory.Answers settings setOrder serve policy systemId ⟨started,.fresh request principal
        (connector ⟨settings,setOrder,answering serve⟩ systemId policy.config) correlationId defaultPerStepTimeout⟩
      ⟨requestId,result.correlationId,VerdictMessages.buildVerdictMessage result,result⟩ := by
  have same := backs.sameLookups (σ := σ) settings setOrder systemId policy.config
  rw [← subject] at same
  obtain ⟨signIns,changes,searches⟩ := searches_exist opens (connector ⟨settings,setOrder,answering serve⟩ systemId policy.config)
    request started
  have describes := directory.answers_describe settings setOrder policy.config systemId request started
    (same.timesOf started ▸ searches)
  rw [← same.answers started,← same.timesOf started,system] at describes
  obtain ⟨found,after,again,findings,outcome⟩ := DiagnosticOrchestrator.run_situation _ started request principal correlationId
    defaultPerStepTimeout describes
  rw [again] at ran
  obtain rfl := Except.ok.inj ran
  exact ⟨rfl,congrArg Prod.fst again,signIns,changes,searches,Situation.answeredBy findings outcome⟩

/-- After any history of overlapping requests a complaint that arrives on a free connection is answered with what the
user's situation asks for, and whatever others do before it ends, its rows are stored with this answer. -/
theorem complaint_answered (hosts : directory.Hosts settings setOrder serve deployment intake policy subjectSub)
    (commits : ∀ world, ∃ next, deployment.commit.exec world = (.ok (),next)) {world : σ} {service : Service σ}
    (reached : Service.Reached deployment world service) {connection : Nat} (free : service.work connection = none) :
    ∃ draft started next response inserted,
      Service.step deployment service (.arrive connection (.submitIntake intake)) = some (next,none) ∧
      next.work connection = some (.ended (.submitIntake intake) service.app.nextUuid (.ok (.intake response)) inserted) ∧
      Submitted deployment intake response service.app.committed service.app.nextUuid (service.app.committed.append inserted) ∧
      inserted.requests = [Attends.requestRow deployment intake subjectSub service.app.nextUuid draft] ∧
      directory.Answers settings setOrder serve policy (systemIdOf deployment intake) (Attends.diagnosis deployment intake
        (connector ⟨settings,setOrder,answering serve⟩ (systemIdOf deployment intake) policy.config) subjectSub
        service.app.nextUuid draft started) response ∧
      ∀ later : Service σ, later.work connection = next.work connection → ∃ stored,
        Service.step deployment later (.finish connection) = some (stored,some (.ok (.intake response))) ∧
          stored.app.committed = later.app.committed.append inserted := by
  obtain ⟨draft,started,next,response,inserted,taken,ended,rows,row,ran⟩ :=
    Service.submission_answers hosts.attends reached free
  refine ⟨draft,started,next,response,inserted,taken,ended,rows,row,?_,?_⟩
  · have answers := run_answers hosts.backs hosts.opens (systemIdOf deployment intake) (by rfl) (by rfl) _ _ started
      (deployment.uuidText (service.app.nextUuid + 1)) ran
    obtain ⟨_,_,_,_,_,_,shape,correlated,_⟩ := rows
    have same : response = ⟨deployment.uuidText (service.app.nextUuid + 1),response.run.correlationId,
        VerdictMessages.buildVerdictMessage response.run,response.run⟩ := by
      rw [correlated]
      exact shape
    rwa [same]
  · intro later work
    rw [ended] at work
    obtain ⟨left,commit⟩ := commits later.app.world
    refine ⟨later.close connection {later.app with world := left,committed := later.app.committed.append inserted}
      ⟨.submitIntake intake,true⟩,?_,rfl⟩
    rw [Service.step,work]
    dsimp only
    rw [AccessAgent.finish,commit]
    rfl

/-! ### A complaint of a user without the role -/

/-- The server of this directory, with its search for users. -/
def searching (search : String → SearchAnswer) (directory : Directory) (request : Request) : Response :=
  match Json.find "searchTerm" request.params with
  | some (.str loginId) => (search loginId).response
  | _ => directory.serve request

def appUserPolicy : SystemPolicy := ⟨"openiam",appUserConfig.connector,none,appUserConfig.rolePermissionMap⟩

def appUserServer : Request → Response := searching (fun _ => ⟨200,[[("id",.str "u1")]]⟩) (ofLogins [unending "AD"])

def appUserDeployment : Deployment Unit := {stillDeployment (stillConnector some .up) with
  policies := [("openiam",appUserPolicy)]
  connectorTypes := connectorTypes ⟨⟨"",[]⟩,.insertion,answering appUserServer⟩}

def appUserIntake : ComplaintIntake := ⟨"alice",Service.alice_named,"I cannot sign in",none⟩

theorem appUser_hosts : (ofLogins [unending "AD"]).Hosts ⟨"",[]⟩ .insertion appUserServer appUserDeployment appUserIntake
    appUserPolicy "u1" where
  admitted := rfl
  responsive := ⟨fun _ => ⟨(),rfl⟩,fun _ => ⟨(),rfl⟩,fun _ _ => ⟨(),rfl⟩⟩
  parses _ _ := ⟨_,_,rfl⟩
  own systemId policy found := by
    have member := Dictionary.mem_of_find found
    obtain ⟨rfl,rfl⟩ := Prod.mk.inj (List.mem_singleton.mp member)
    rfl
  registered := rfl
  known := rfl
  openiam := rfl
  login := ⟨⟨200,[[("id",.str "u1")]]⟩,rfl,rfl⟩
  backs := ⟨rfl,fun _ _ => rfl,fun _ _ _ _ => rfl⟩
  opens := looksBack_unit

/-- Two submissions overlap, one of which has committed and is being escalated. -/
def busy : List (Event Unit) :=
  [.arrive 0 (.submitIntake ⟨"bob",Service.bob_named,"My account is locked",none⟩),
    .arrive 1 (.submitIntake ⟨"bob",Service.bob_named,"My account is locked",none⟩),.finish 1,
    .arrive 1 (.escalateIntake 6 ⟨"bob",none⟩)]

/-- The complaint arrives among other requests, one of which ends before it. -/
theorem complaint_answered_busy : ∃ service answers model startedAt next other answer response stored,
    execute (Service.step appUserDeployment) (fun _ _ => True) busy (Service.start ()) = some (service,answers) ∧
    service.work 1 = some (.reading 6 ⟨"bob",none⟩ model startedAt) ∧
    Service.step appUserDeployment service (.arrive 2 (.submitIntake appUserIntake)) = some (next,none) ∧
    Service.step appUserDeployment next (.finish 0) = some (other,answer) ∧
    Service.step appUserDeployment other (.finish 2) = some (stored,some (.ok (.intake response))) ∧
    response.run.outcome = .accessGap ∧ response.message = VerdictMessages.submitAccessRequest.format "" "" := by
  obtain ⟨⟨service,answers⟩,model,startedAt,request,uuid,outcome,rows,ran,free,reading,first⟩ :
      ∃ result model startedAt request uuid outcome rows,
        execute (Service.step appUserDeployment) (fun _ _ => True) busy (Service.start ()) = some result ∧
          result.1.work 2 = none ∧ result.1.work 1 = some (.reading 6 ⟨"bob",none⟩ model startedAt) ∧
          result.1.work 0 = some (.ended request uuid outcome rows) := ⟨_,_,_,_,_,_,_,rfl,rfl,rfl,rfl⟩
  obtain ⟨draft,started,next,response,inserted,taken,_,_,_,⟨_,_,signIns,changes,_,answered⟩,finishes⟩ :=
    complaint_answered appUser_hosts (fun _ => ⟨(),rfl⟩) (reaches_execute Reaches.start ran) free
  -- the other submission ends in between
  have kept : next.work 0 = service.work 0 := by
    rw [Service.step,free] at taken
    obtain ⟨rfl,_⟩ := Prod.mk.inj (Option.some.inj taken)
    exact Service.proceed_work_ne _ _ (by decide)
  obtain ⟨other,answer,ends,same⟩ : ∃ other answer, Service.step appUserDeployment next (.finish 0) = some (other,answer) ∧
      other.work 2 = next.work 2 := by
    rw [Service.step,kept,first]
    exact ⟨_,_,rfl,Service.close_work_ne _ _ _ (by decide)⟩
  obtain ⟨stored,finished,_⟩ := finishes other same
  let diagnosis := Attends.diagnosis appUserDeployment appUserIntake (connector ⟨⟨"",[]⟩,.insertion,answering appUserServer⟩
    "openiam" appUserConfig) "u1" service.app.nextUuid draft started
  obtain ⟨causes,gap⟩ := situation_unending (timesOf diagnosis.ctx.connector diagnosis.ctx.request diagnosis.world) signIns changes
  let situation := (ofLogins [unending "AD"]).situation appUserConfig "openiam:default"
    (timesOf diagnosis.ctx.connector diagnosis.ctx.request diagnosis.world) signIns changes
  have known : situation.AnsweredBy response := answered
  have advice : situation.advice = VerdictMessages.submitAccessRequest := by
    rw [Situation.advice,causes]
    rfl
  refine ⟨service,answers,model,startedAt,next,other,answer,response,stored,ran,reading,taken,ends,finished,
    known.outcome.trans (situation.outcome_accessGap.mpr gap),?_⟩
  have plain := known.plain
  rw [advice] at plain
  refine plain ?_
  rintro ⟨_,expired⟩
  rcases gap with ⟨_,gone | unknown | ⟨active,_⟩⟩
  · cases gone.symm.trans expired
  · cases unknown.symm.trans expired
  · cases active.symm.trans expired

end Directory

end AccessAgent.OpenIAM
