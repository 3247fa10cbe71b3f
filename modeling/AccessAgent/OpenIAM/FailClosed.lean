import AccessAgent.OpenIAM.Connector
import AccessAgent.FunnelOutcome

/-! Error answers and the outcome of a run over the OpenIAM connector. The account
lookup reads an error as `not_found`, the permission lookup and the audit search read
one as an empty list; a run rests on such an answer exactly when it is not caught by
an earlier or later answer. -/

namespace AccessAgent.OpenIAM
open Semantics DiagnosticOrchestrator

variable {σ α β : Type}

/-! ### What reaches the log -/

abbrev Silent (program : Effect Exn (Logged σ) α) : Prop :=
  Always (fun before after => after.exchanges = before.exchanges) program

namespace Silent

theorem pure (value : α) : Silent (Pure.pure value : Effect Exn (Logged σ) α) := fun _ => rfl

theorem lift (value : Except Exn α) : Silent (liftM value : Effect Exn (Logged σ) α) := fun _ => rfl

theorem now [Clock σ] : Silent (datetimeNow : Effect Exn (Logged σ) Datetime) := fun _ => rfl

theorem bind {program : Effect Exn (Logged σ) α} {next : α → Effect Exn (Logged σ) β}
    (first : Silent program) (rest : ∀ value, Silent (next value)) : Silent (program >>= next) :=
  Always.bind (fun _ _ _ early late => late.trans early) first rest

end Silent

theorem isDeprovisioned_silent [Clock σ] (principalList roleBeans groupBeans : Json) :
    Silent (isDeprovisioned (σ := Logged σ) principalList roleBeans groupBeans) := by
  refine Silent.bind (Silent.lift _) (fun entries => Silent.bind (Silent.lift _) (fun deleted => ?_))
  split
  · exact Silent.pure _
  · refine Silent.bind (Silent.lift _) (fun grants => ?_)
    split
    · exact Silent.bind Silent.now (fun now => Silent.bind (Silent.lift _) (fun beans => Silent.lift _))
    · exact Silent.pure _

theorem accountStatus_silent [Clock σ] (locked : Bool) {deprovisioned : Effect Exn (Logged σ) Bool}
    (silent : Silent deprovisioned) (rawStatus : Json) (expired : List (Json × Datetime)) :
    Silent (accountStatus locked deprovisioned rawStatus expired) := by
  rw [accountStatus]
  split
  · exact Silent.pure _
  · refine Silent.bind silent (fun gone => ?_)
    split
    · exact Silent.pure _
    · split
      · exact Silent.pure _
      · split <;> exact Silent.pure _

theorem userStatusFrom_silent [Clock σ] (settings : Settings) (config : Config) (body : Json) :
    Silent (userStatusFrom (σ := Logged σ) settings config body) := by
  refine Silent.bind (Silent.lift _) (fun rawStatus => ?_)
  refine Silent.bind (Silent.lift _) (fun rawSecondaryStatus => ?_)
  refine Silent.bind (Silent.lift _) (fun principalList => ?_)
  refine Silent.bind (Silent.lift _) (fun roleBeans => ?_)
  refine Silent.bind (Silent.lift _) (fun groupBeans => ?_)
  refine Silent.bind ?_ (fun expired => ?_)
  · exact Silent.bind Silent.now (fun now => Silent.bind (Silent.lift _) (fun entries => Silent.lift _))
  refine Silent.bind (Silent.lift _) (fun locked => ?_)
  refine Silent.bind (accountStatus_silent locked (isDeprovisioned_silent _ _ _) _ _) (fun status => ?_)
  refine Silent.bind (Silent.lift _) (fun login => ?_)
  refine Silent.bind (Silent.lift _) (fun passwordResetUrl => ?_)
  split <;> exact Silent.pure _

section Lookups
variable (client : TokenClient σ)

theorem lookup_log {request : Request} {next : Response → Effect Exn (Logged σ) α}
    (silent : ∀ response, Silent (next response)) (state : Logged σ) :
    ((client.logged.authorizedGet request >>= next).exec state).2.exchanges =
      state.exchanges ++ entryOf request ((client.authorizedGet request).exec state.world).1 := by
  rw [Effect.bind_exec]
  simp only [TokenClient.logged]
  rcases (client.authorizedGet request).exec state.world with ⟨raised | response,after⟩
  · rfl
  · exact silent response _

theorem lookup_answered {request : Request} {state : Logged σ} {response : Response}
    (answered : ((client.authorizedGet request).exec state.world).1 = .ok response)
    (next : Response → Effect Exn (Logged σ) α) :
    ∃ after, (client.logged.authorizedGet request >>= next).exec state = (next response).exec after := by
  rw [Effect.bind_exec]
  simp only [TokenClient.logged,answered]
  exact ⟨_,rfl⟩

def auditLookup [Clock σ] (subjectSub : String) (timeWindow : Timedelta) (actions : List String) (size : Int) :
    Effect Exn σ Response :=
  auditlogPage subjectSub timeWindow actions size >>= client.authorizedGet

def auditlogPath : String := "/webconsole/rest/api/auditlog/search"

variable [Clock σ] (subjectSub : String) (timeWindow : Timedelta) (actions : List String) (size : Int)

theorem auditlogPage_logged (state : Logged σ) :
    (∃ raised, (auditlogPage subjectSub timeWindow actions size).exec state = (.error raised,
        ⟨(Clock.now state.world).2,state.exchanges⟩) ∧
      (auditlogPage subjectSub timeWindow actions size).exec state.world =
        (.error raised,(Clock.now state.world).2)) ∨
    (∃ request, request.path = auditlogPath ∧
      (auditlogPage subjectSub timeWindow actions size).exec state = (.ok request,
        ⟨(Clock.now state.world).2,state.exchanges⟩) ∧
      (auditlogPage subjectSub timeWindow actions size).exec state.world =
        (.ok request,(Clock.now state.world).2)) := by
  simp only [auditlogPage,Effect.bind_exec,datetimeNow,Effect.lift_exec,Effect.pure_exec]
  have same : Clock.now state = ((Clock.now state.world).1,
    (⟨(Clock.now state.world).2,state.exchanges⟩ : Logged σ)) := rfl
  rw [same]
  rcases (Clock.now state.world).1.value.minus timeWindow with raised | start
  · exact Or.inl ⟨raised,rfl,rfl⟩
  · exact Or.inr ⟨_,rfl,rfl,rfl⟩

theorem page_log {next : Response → Effect Exn (Logged σ) α} (silent : ∀ response, Silent (next response))
    (state : Logged σ) :
    ∃ request, request.path = auditlogPath ∧
      ((auditlogPage subjectSub timeWindow actions size >>= fun request =>
        client.logged.authorizedGet request >>= next).exec state).2.exchanges = state.exchanges ++
          entryOf request ((auditLookup client subjectSub timeWindow actions size).exec state.world).1 := by
  rw [Effect.bind_exec,auditLookup,Effect.bind_exec]
  rcases auditlogPage_logged subjectSub timeWindow actions size state
    with ⟨raised,logged,plain⟩ | ⟨request,path,logged,plain⟩
  · rw [logged,plain]
    exact ⟨⟨auditlogPath,[]⟩,rfl,(List.append_nil _).symm⟩
  · rw [logged,plain]
    exact ⟨request,path,lookup_log client silent _⟩

theorem page_answered {state : Logged σ} {response : Response}
    (answered : ((auditLookup client subjectSub timeWindow actions size).exec state.world).1 = .ok response)
    (next : Response → Effect Exn (Logged σ) α) :
    ∃ after, (auditlogPage subjectSub timeWindow actions size >>= fun request =>
      client.logged.authorizedGet request >>= next).exec state = (next response).exec after := by
  rw [auditLookup,Effect.bind_exec] at answered
  rw [Effect.bind_exec]
  rcases auditlogPage_logged subjectSub timeWindow actions size state
    with ⟨raised,logged,plain⟩ | ⟨request,path,logged,plain⟩
  · rw [plain] at answered
    cases answered
  · rw [plain] at answered
    rw [logged]
    exact lookup_answered client answered next

end Lookups

section Methods
variable [Clock σ] (env : Environment (Logged σ)) (client : TokenClient σ) (shape : env.client = client.logged)
include shape

theorem getUserStatus_log (config : Config) (subjectSub : String) (state : Logged σ) :
    ((getUserStatus env config subjectSub).exec state).2.exchanges = state.exchanges ++
      entryOf (userGet subjectSub) ((client.authorizedGet (userGet subjectSub)).exec state.world).1 := by
  rw [getUserStatus,shape]
  refine lookup_log client (fun response => ?_) state
  split
  · exact Silent.pure _
  · exact Silent.bind (Silent.lift _) (fun body => userStatusFrom_silent _ _ _)

theorem getUserStatus_failed (config : Config) {subjectSub : String} {state : Logged σ} {response : Response}
    (answered : ((client.authorizedGet (userGet subjectSub)).exec state.world).1 = .ok response)
    (failed : response.failed = true) :
    ∃ result, ((getUserStatus env config subjectSub).exec state).1 = .ok result ∧ result.status = .notFound := by
  rw [getUserStatus,shape]
  obtain ⟨after,ran⟩ := lookup_answered client answered _
  rw [ran,if_pos failed]
  exact ⟨_,rfl,rfl⟩

omit [Clock σ] in
theorem getEffectivePermissions_log (subjectSub : String) (state : Logged σ) :
    ((getEffectivePermissions env subjectSub).exec state).2.exchanges = state.exchanges ++
      entryOf (userGet subjectSub) ((client.authorizedGet (userGet subjectSub)).exec state.world).1 := by
  rw [getEffectivePermissions,shape]
  refine lookup_log client (fun response => ?_) state
  split
  · exact Silent.pure _
  · exact Silent.bind (Silent.lift _) (fun body => Silent.lift _)

theorem getAuthEvents_log (subjectSub : String) (timeWindow : Timedelta) (state : Logged σ) :
    ∃ request, request.path = auditlogPath ∧
      ((getAuthEvents env subjectSub timeWindow).exec state).2.exchanges = state.exchanges ++ entryOf request
        ((auditLookup client subjectSub timeWindow ["LOGIN","DO_LOGIN"] 10).exec state.world).1 := by
  simp only [getAuthEvents,shape]
  refine page_log client _ _ _ _ (fun response => ?_) state
  split
  · exact Silent.pure _
  · exact Silent.bind (Silent.lift _) (fun body => Silent.lift _)

theorem getAuthEvents_failed {subjectSub : String} {timeWindow : Timedelta} {state : Logged σ}
    {response : Response} (answered : ((auditLookup client subjectSub timeWindow ["LOGIN","DO_LOGIN"] 10).exec
      state.world).1 = .ok response) (failed : response.failed = true) :
    ((getAuthEvents env subjectSub timeWindow).exec state).1 = .ok [] := by
  simp only [getAuthEvents,shape]
  obtain ⟨after,ran⟩ := page_answered client _ _ _ _ answered _
  rw [ran,if_pos failed]
  rfl

theorem getPermissionAuditEvents_log (subjectSub : String) (timeWindow : Timedelta) (state : Logged σ) :
    ∃ request, request.path = auditlogPath ∧
      ((getPermissionAuditEvents env subjectSub timeWindow).exec state).2.exchanges = state.exchanges ++
        entryOf request ((auditLookup client subjectSub timeWindow (grantChangeActions ++ syncActions) 50).exec
          state.world).1 := by
  simp only [getPermissionAuditEvents,shape]
  refine page_log client _ _ _ _ (fun response => ?_) state
  split
  · exact Silent.pure _
  · exact Silent.bind (Silent.lift _) (fun body => Silent.lift _)

end Methods

/-! ### The lookups of a run -/

/-- An error answer, other than a 404 that says that the user does not exist. -/
def Exchange.Misread (exchange : Exchange) : Prop :=
  400 ≤ exchange.response.statusCode ∧
    ¬(exchange.response.statusCode = 404 ∧ userGetPath.toList <+: exchange.request.path.toList)

def exchangesOf (entry : StepRecord (Logged σ)) : List Exchange :=
  entry.after.world.exchanges.drop entry.before.world.exchanges.length

theorem exchangesOf_settled [Clock σ] {stepFn : Step (Logged σ) VerdictResult} {stepName : FunnelStep}
    {before : Diagnosis (Logged σ)} {outcome : Except Exn α × Logged σ} {entries : List Exchange}
    (world : (record stepFn stepName before).after.world = settle outcome)
    (log : outcome.2.exchanges = before.world.exchanges ++ entries) :
    exchangesOf (record stepFn stepName before) = entries := by
  rw [exchangesOf,world,record_before]
  change outcome.2.exchanges.drop _ = entries
  rw [log,List.drop_left]

structure Lookups where
  account : Except Exn Response
  permissions : Except Exn Response
  audit : Except Exn Response

def lookups [Clock σ] (client : TokenClient σ) (spi : ConnectorSPI (Logged σ)) (request : DiagnosticRequest)
    (world : Logged σ) : Lookups :=
  let checked := (spi.checkAvailability request.subjectSub).exec world
  let status := (spi.getUserStatus request.subjectSub).exec (settle checked)
  let events := (spi.getAuthEvents request.subjectSub Step3AuthEvents.lookback).exec (settle status)
  let search := auditLookup client request.subjectSub Step4Authorization.auditLookback
    (grantChangeActions ++ syncActions) 50
  ⟨((client.authorizedGet (userGet request.subjectSub)).exec (settle checked).world).1,
    ((client.authorizedGet (userGet request.subjectSub)).exec (settle events).world).1,
    (search.exec (auditWorld spi request (settle events)).world).1⟩

def ErrorAnswer (lookup : Except Exn Response) : Prop :=
  ∃ response, lookup = .ok response ∧ 400 ≤ response.statusCode

def UserErrorAnswer (lookup : Except Exn Response) : Prop :=
  ∃ response, lookup = .ok response ∧ 400 ≤ response.statusCode ∧ response.statusCode ≠ 404

/-- The account lookup of a run that gets past the first check was answered with an
error, or the lookups of the fourth check leave a gap and one of them was. -/
def RestsOnError (a : Answers) (l : Lookups) : Prop :=
  a.SystemsUp ∧ (UserErrorAnswer l.account ∨
    a.Account .active ∧ a.SignInClear ∧ a.authorization.Gap ∧
      (UserErrorAnswer l.permissions ∨ ErrorAnswer l.audit))

theorem misread_userGet (subjectSub : String) (lookup : Except Exn Response) :
    (∃ exchange ∈ entryOf (userGet subjectSub) lookup, exchange.Misread) ↔ UserErrorAnswer lookup := by
  have path : userGetPath.toList <+: (userGet subjectSub).path.toList := by
    rw [userGet,String.toList_append]
    exact List.prefix_append _ _
  rcases lookup with raised | response
  · simp [entryOf,UserErrorAnswer]
  · simp [entryOf,UserErrorAnswer,Exchange.Misread,path]

theorem misread_audit {request : Request} (path : request.path = auditlogPath) (lookup : Except Exn Response) :
    (∃ exchange ∈ entryOf request lookup, exchange.Misread) ↔ ErrorAnswer lookup := by
  have other : ¬userGetPath.toList <+: request.path.toList := by
    rw [path]
    decide
  rcases lookup with raised | response
  · simp [entryOf,ErrorAnswer]
  · simp [entryOf,ErrorAnswer,Exchange.Misread,other]

section Run
variable [Clock σ] (env : Environment (Logged σ)) (client : TokenClient σ) (shape : env.client = client.logged)
  (connectorId : String) (config : Config) (start : Diagnosis (Logged σ))
  (spi : start.ctx.connector = connector env connectorId config)
include shape spi

theorem account_exchanges :
    exchangesOf (record Step2AccountStatus.run .accountStatus (second start)) =
      entryOf (userGet start.ctx.request.subjectSub)
        (lookups client start.ctx.connector start.ctx.request start.world).account := by
  obtain ⟨world2,world3,_⟩ := step_worlds start
  rw [spi] at world3
  have log := getUserStatus_log env client shape config start.ctx.request.subjectSub (second start).world
  refine (exchangesOf_settled world3 log).trans ?_
  rw [world2]
  rfl

theorem account_misread (failed : UserErrorAnswer
    (lookups client start.ctx.connector start.ctx.request start.world).account) :
    (answers start.ctx.connector start.ctx.request start.world).Account .notFound := by
  obtain ⟨response,answered,status,_⟩ := failed
  have found := getUserStatus_failed env client shape config answered (by simpa [Response.failed] using status)
  rw [Answers.Account]
  obtain ⟨result,ok,missing⟩ := found
  refine ⟨result,?_,missing⟩
  rw [← ok]
  simp only [answers,spi]
  rfl

theorem signIn_exchanges (exchange : Exchange)
    (member : exchange ∈ exchangesOf (record Step3AuthEvents.run .authEvents (third start)))
    (failed : 400 ≤ exchange.response.statusCode) :
    signInDecides (answers start.ctx.connector start.ctx.request start.world).authEvents = none := by
  obtain ⟨world2,world3,world4⟩ := step_worlds start
  rw [spi] at world4
  obtain ⟨request,_,log⟩ := getAuthEvents_log env client shape start.ctx.request.subjectSub
    Step3AuthEvents.lookback (third start).world
  rw [exchangesOf_settled world4 log] at member
  rcases answered : ((auditLookup client start.ctx.request.subjectSub Step3AuthEvents.lookback
    ["LOGIN","DO_LOGIN"] 10).exec (third start).world.world).1 with raised | response
  · rw [answered] at member
    simp [entryOf] at member
  · rw [answered] at member
    obtain rfl := List.mem_singleton.mp member
    have empty := getAuthEvents_failed env client shape answered (by simpa [Response.failed] using failed)
    have events : (answers start.ctx.connector start.ctx.request start.world).authEvents = .ok [] := by
      rw [← empty,world3,world2]
      simp only [answers,spi]
      rfl
    rw [events]
    rfl

theorem authorization_exchanges
    (gap : (answers start.ctx.connector start.ctx.request start.world).authorization.Gap) :
    ∃ request, request.path = auditlogPath ∧
      exchangesOf (record Step4Authorization.run .authorization (fourth start)) =
        entryOf (userGet start.ctx.request.subjectSub)
          (lookups client start.ctx.connector start.ctx.request start.world).permissions ++
        entryOf request (lookups client start.ctx.connector start.ctx.request start.world).audit := by
  obtain ⟨world2,world3,world4⟩ := step_worlds start
  obtain ⟨_,_,_,authorization⟩ := step_decisions start
  rw [authorization] at gap
  have world := step4_world (fourth start) gap
  rw [(fourth_ctx start).1,(fourth_ctx start).2,spi] at world
  have permissions := getEffectivePermissions_log env client shape start.ctx.request.subjectSub (fourth start).world
  obtain ⟨request,path,audit⟩ := getPermissionAuditEvents_log env client shape start.ctx.request.subjectSub
    Step4Authorization.auditLookback (auditWorld (connector env connectorId config) start.ctx.request (fourth start).world)
  have log : ((getPermissionAuditEvents env start.ctx.request.subjectSub Step4Authorization.auditLookback).exec
      (auditWorld (connector env connectorId config) start.ctx.request (fourth start).world)).2.exchanges =
      (fourth start).world.exchanges ++ (entryOf (userGet start.ctx.request.subjectSub)
        ((client.authorizedGet (userGet start.ctx.request.subjectSub)).exec (fourth start).world.world).1 ++
      entryOf request ((auditLookup client start.ctx.request.subjectSub Step4Authorization.auditLookback
        (grantChangeActions ++ syncActions) 50).exec
          (auditWorld (connector env connectorId config) start.ctx.request (fourth start).world).world).1) := by
    rw [audit,← List.append_assoc,← permissions]
    rfl
  refine ⟨request,path,(exchangesOf_settled world log).trans ?_⟩
  rw [world4,world3,world2,spi]
  rfl

/-- The fourth check misread one of its two lookups. -/
theorem authorization_misread
    (gap : (answers start.ctx.connector start.ctx.request start.world).authorization.Gap) :
    (∃ exchange ∈ exchangesOf (record Step4Authorization.run .authorization (fourth start)), exchange.Misread) ↔
      UserErrorAnswer (lookups client start.ctx.connector start.ctx.request start.world).permissions ∨
        ErrorAnswer (lookups client start.ctx.connector start.ctx.request start.world).audit := by
  obtain ⟨request,path,made⟩ := authorization_exchanges env client shape connectorId config start spi gap
  rw [made,← misread_userGet start.ctx.request.subjectSub,← misread_audit path]
  simp only [List.mem_append,or_and_right,exists_or]

end Run

theorem account_unique {a : Answers} {status other : AccountStatus} (left : a.Account status)
    (right : a.Account other) : status = other := by
  obtain ⟨result,ok,same⟩ := left
  obtain ⟨result',ok',same'⟩ := right
  obtain rfl := Except.ok.inj (ok.symm.trans ok')
  exact same.symm.trans same'

theorem active_iff (a : Answers) : a.Account .active ↔ accountDecides a.userStatus = none := by
  rw [Answers.Account]
  rcases a.userStatus with raised | result
  · simp [accountDecides]
  · cases same : result.status <;> simp [accountDecides,same]

/-- An active account with a clear sign-in leaves the user nothing to fix. -/
theorem no_fix {a : Answers} (isActive : a.Account .active) (isClear : a.SignInClear) :
    ¬(a.Account .locked ∨ a.Account .passwordExpired ∨ a.Account .active ∧ a.SignInFails) := by
  rintro (locked | expired | ⟨_,fails⟩)
  · cases account_unique isActive locked
  · cases account_unique isActive expired
  · have clear : signInDecides a.authEvents = none := (signIn_iff a).2.1.mp isClear
    have decided : signInDecides a.authEvents = some .selfServiceFix := (signIn_iff a).1.mp fails
    exact absurd (clear.symm.trans decided) (by simp)

/-- Access that an active account lacks is a gap in its grants. -/
theorem gap_active {a : Answers} (isActive : a.Account .active) (missing : a.Account .deprovisioned ∨
    a.Account .notFound ∨ a.Account .active ∧ a.SignInClear ∧ a.authorization.Gap) : a.authorization.Gap := by
  rcases missing with gone | unknown | ⟨_,_,gap⟩
  · cases account_unique isActive gone
  · cases account_unique isActive unknown
  · exact gap

theorem unescalated_fails {start : Diagnosis σ} [Clock σ] {last : StepRecord σ}
    (decided : (resultOf start last).outcome = .selfServiceFix ∨ (resultOf start last).outcome = .accessGap) :
    last.verdict.status = .fail := by
  change resolveOutcome last.verdict = _ ∨ resolveOutcome last.verdict = _ at decided
  rw [resolveOutcome] at decided
  cases status : last.verdict.status with
  | fail => rfl
  | pass => simp [status] at decided
  | inconclusive => simp [status] at decided

/-- The decision of an un-escalated run rests on no misread answer. -/
def Clean [Clock σ] (start : Diagnosis (Logged σ)) (last : StepRecord (Logged σ)) : Prop :=
  (resultOf start last).outcome = .selfServiceFix ∨ (resultOf start last).outcome = .accessGap →
    ¬∃ exchange ∈ exchangesOf last, exchange.Misread

theorem clean_iff [Clock σ] {start : Diagnosis (Logged σ)} {last : StepRecord (Logged σ)} :
    ((resultOf start last).outcome = .selfServiceFix ∨ (resultOf start last).outcome = .accessGap →
      last.verdict.status = .fail ∧ ∀ exchange ∈ exchangesOf last, ¬exchange.Misread) ↔ Clean start last := by
  constructor
  · intro clean decided misreading
    obtain ⟨exchange,member,misread⟩ := misreading
    exact (clean decided).2 exchange member misread
  · intro clean decided
    refine ⟨unescalated_fails decided,?_⟩
    intro exchange member misread
    exact clean decided ⟨exchange,member,misread⟩

section Rests
variable {a : Answers} {l : Lookups}

theorem account_answered (misread : UserErrorAnswer l.account → a.Account .notFound) (active : a.Account .active) :
    ¬UserErrorAnswer l.account := by
  intro failed
  have same := account_unique active (misread failed)
  cases same

theorem rests_account (up : a.SystemsUp) (inactive : ¬a.Account .active) :
    RestsOnError a l ↔ UserErrorAnswer l.account := by
  constructor
  · intro rests
    rcases rests.2 with account | later
    · exact account
    · exact absurd later.1 inactive
  · intro failed
    exact ⟨up,Or.inl failed⟩

theorem rests_signIn (answered : ¬UserErrorAnswer l.account) (unclear : ¬a.SignInClear) : ¬RestsOnError a l := by
  intro rests
  rcases rests.2 with account | later
  · exact answered account
  · exact unclear later.2.1

theorem rests_authorization (up : a.SystemsUp) (active : a.Account .active) (clear : a.SignInClear)
    (answered : ¬UserErrorAnswer l.account) : RestsOnError a l ↔
      a.authorization.Gap ∧ (UserErrorAnswer l.permissions ∨ ErrorAnswer l.audit) := by
  constructor
  · intro rests
    rcases rests.2 with account | later
    · exact absurd account answered
    · exact later.2.2
  · intro later
    exact ⟨up,Or.inr ⟨active,clear,later⟩⟩

end Rests

/-- An un-escalated run rests on no error answer exactly when the lookups behind the
account and authorization verdicts leave it none to rest on. -/
theorem fail_closed_iff [Clock σ] (client : TokenClient σ) (settings : Settings) (setOrder : SetOrder)
    (connectorId : String) (config : Config) (world : σ) (request : DiagnosticRequest) (principal : Principal)
    (correlationId : String) (perStepTimeout : Timedelta) :
    let spi := connector ⟨settings,setOrder,client.logged⟩ connectorId config
    let start : Diagnosis (Logged σ) :=
      ⟨⟨world,[]⟩,.fresh request principal spi correlationId perStepTimeout⟩
    ∃ result last, run.exec start = (.ok result,final stepModules start) ∧
      (executed stepModules start).getLast? = some last ∧
      ((result.outcome = .selfServiceFix ∨ result.outcome = .accessGap →
          last.verdict.status = .fail ∧ ∀ exchange ∈ exchangesOf last, ¬exchange.Misread) ↔
        ¬RestsOnError (answers spi request ⟨world,[]⟩) (lookups client spi request ⟨world,[]⟩)) := by
  intro spi start
  let a := answers spi request ⟨world,[]⟩
  let l := lookups client spi request ⟨world,[]⟩
  obtain ⟨last,found,ran,fix,gap,_⟩ := run_decides start rfl
  refine ⟨resultOf start last,last,ran,found,?_⟩
  rw [clean_iff]
  change (Clean start last ↔ ¬RestsOnError a l)
  change (_ ↔ a.SystemsUp ∧ _) at fix
  change (_ ↔ a.SystemsUp ∧ _) at gap
  have misread : UserErrorAnswer l.account → a.Account .notFound :=
    account_misread _ client rfl connectorId config start rfl
  rcases deciding_step start with ⟨down,_⟩ | ⟨up,inactive,same⟩ | ⟨up,active,unclear,same⟩ | ⟨up,active,clear,same⟩
  · have systemsDown : ¬a.SystemsUp := fun holds => down ((systemsUp_iff a).mp holds)
    rw [Clean,fix,gap,RestsOnError]
    simp [systemsDown]
  · have systemsUp : a.SystemsUp := (systemsUp_iff a).mpr up
    have notActive : ¬a.Account .active := fun holds => inactive ((active_iff a).mp holds)
    obtain rfl := Option.some.inj (found.symm.trans same)
    rw [rests_account systemsUp notActive,Clean,account_exchanges _ client rfl connectorId config start rfl,
      misread_userGet]
    change ((_ → ¬UserErrorAnswer l.account) ↔ _)
    constructor
    · intro clean failed
      have missing := gap.mpr ⟨systemsUp,Or.inr (Or.inl (misread failed))⟩
      exact clean (Or.inr missing) failed
    · intro answered _
      exact answered
  · have isActive : a.Account .active := (active_iff a).mpr active
    have notClear : ¬a.SignInClear := fun holds => unclear ((signIn_iff a).2.1.mp holds)
    obtain rfl := Option.some.inj (found.symm.trans same)
    apply iff_of_true
    · intro _ misreading
      obtain ⟨exchange,member,failed⟩ := misreading
      exact unclear (signIn_exchanges _ client rfl connectorId config start rfl exchange member failed.1)
    · exact rests_signIn (account_answered misread isActive) notClear
  · have systemsUp : a.SystemsUp := (systemsUp_iff a).mpr up
    have isActive : a.Account .active := (active_iff a).mpr active
    have isClear : a.SignInClear := (signIn_iff a).2.1.mpr clear
    obtain rfl := Option.some.inj (found.symm.trans same)
    rw [rests_authorization systemsUp isActive isClear (account_answered misread isActive)]
    by_cases holds : a.authorization.Gap
    · have missing := gap.mpr ⟨systemsUp,Or.inr (Or.inr ⟨isActive,isClear,holds⟩)⟩
      have errors : (∃ exchange ∈ exchangesOf (record Step4Authorization.run .authorization (fourth start)),
          exchange.Misread) ↔ UserErrorAnswer l.permissions ∨ ErrorAnswer l.audit :=
        authorization_misread _ client rfl connectorId config start rfl holds
      rw [Clean,errors]
      constructor
      · intro clean rests
        exact clean (Or.inr missing) rests.2
      · intro clean _ failed
        exact clean ⟨holds,failed⟩
    · apply iff_of_true
      · rintro (fixed | missing)
        · exact absurd (fix.mp fixed).2 (no_fix isActive isClear)
        · exact absurd (gap_active isActive (gap.mp missing).2) holds
      · intro rests
        exact holds rests.1

/-! ### A run that rests on an error answer -/

structure Replay where
  answers : List Response
  time : UtcNow

instance : Clock Replay where
  now world := (world.time,world)

def replayClient : TokenClient Replay where
  authorizedGet _ := ⟨fun world => match world.answers with
    | [] => (.error ⟨.other "httpx.ConnectError",""⟩,world)
    | response::rest => (.ok response,⟨rest,world.time⟩)⟩

def newYear : UtcNow := ⟨⟨⟨2026,1,1,0,0,0,0,some 0⟩,by decide⟩,rfl⟩

instance (exchange : Exchange) : Decidable exchange.Misread := by
  unfold Exchange.Misread
  infer_instance

def failingAccountLookup : Diagnosis (Logged Replay) :=
  ⟨⟨⟨[⟨200,.ok (.obj [])⟩,⟨500,.error (Exn.valueError "Expecting value")⟩],newYear⟩,[]⟩,
    .fresh ⟨"c-1","u-1","u-1","openiam",.loginFailure,"cannot sign in"⟩ ⟨"u-1",[]⟩
      (connector ⟨⟨"",[]⟩,.insertion,replayClient.logged⟩ "openiam"
        ⟨⟨"openiam",none,"",10,[]⟩,none,[]⟩) "c-1"
      defaultPerStepTimeout⟩

/-- The 500 of the account lookup ends as an access gap, not as an escalation. -/
theorem account_error_not_escalated :
    ∃ result last, (run.exec failingAccountLookup).1 = .ok result ∧
      (executed stepModules failingAccountLookup).getLast? = some last ∧
      result.outcome = .accessGap ∧ result.escalated = false ∧ last.step = .accountStatus ∧
      last.verdict.status = .fail ∧ ∃ exchange ∈ exchangesOf last, exchange.Misread := by
  refine ⟨_,_,rfl,rfl,?_⟩
  decide

end AccessAgent.OpenIAM
