import AccessAgent.OpenIAM.UserRecord
import AccessAgent.Requirements
import AccessAgent.FunnelSteps

/-! The checks over a client whose answers are given: what each lookup reads, and the verdict
of a check from its lookups. -/

namespace AccessAgent.OpenIAM
open Semantics Raising

variable {σ : Type} [Clock σ]
variable (settings : Settings) (setOrder : SetOrder) (answer : Request → Response)

/-! ### The lookups -/

/-- The request for the audit log at a time, where the window can be taken from it. -/
def auditRequest (now : Datetime) (subjectSub : String) (timeWindow : Timedelta) (actions : List String) (size : Int) :
    Except Exn Request := do
  let start ← now.minus timeWindow
  return auditlogSearch subjectSub (Datetime.milliseconds start) (Datetime.milliseconds now.instant) actions size

def auditAnswer {α : Type} (parse : Json → Except Exn (Option α)) (response : Response) : Except Exn (List α) :=
  if response.failed then .ok [] else response.json >>= beansFrom parse

theorem auditlogPage_answer (subjectSub : String) (timeWindow : Timedelta) (actions : List String) (size : Int) (world : σ) :
    (auditlogPage subjectSub timeWindow actions size).answer world =
      auditRequest (Clock.now world).1.value subjectSub timeWindow actions size := by
  simp only [auditlogPage,Effect.answer_bind,datetimeNow_answer,pure_bind,Effect.answer_lift]
  rfl

/-- A lookup in the audit log. -/
def auditEvents {α : Type} (parse : Json → Except Exn (Option α)) (actions : List String) (size : Int)
    (subjectSub : String) (timeWindow : Timedelta) (now : Datetime) : Except Exn (List α) := do
  let request ← auditRequest now subjectSub timeWindow actions size
  auditAnswer parse (answer request)

/-- What a lookup reads from the log is settled by the time at which it asks. -/
theorem lookup_answer {α : Type} (parse : Json → Except Exn (Option α)) (actions : List String) (size : Int)
    (subjectSub : String) (timeWindow : Timedelta) (world : σ) :
    (auditlogPage subjectSub timeWindow actions size >>= fun request => do
      let response ← (answering answer).authorizedGet request
      if response.failed then return []
      else
        let body ← response.json
        Effect.lift (beansFrom parse body)).answer world =
      auditEvents answer parse actions size subjectSub timeWindow (Clock.now world).1.value := by
  rw [Effect.answer_bind,auditlogPage_answer,auditEvents]
  refine bind_congr fun request => ?_
  rw [answering,Effect.answer_bind,Effect.answer_pure,pure_bind,auditAnswer]
  cases (answer request).failed with
  | true => rfl
  | false => simp only [Bool.false_eq_true,if_false,Effect.answer_bind,Effect.answer_lift,Effect.answer_lifted]

theorem getAuthEvents_answer (subjectSub : String) (timeWindow : Timedelta) (world : σ) :
    (getAuthEvents ⟨settings,setOrder,answering answer⟩ subjectSub timeWindow).answer world =
      auditEvents answer parseAuditBean ["LOGIN","DO_LOGIN"] 10 subjectSub timeWindow (Clock.now world).1.value :=
  lookup_answer answer parseAuditBean _ _ subjectSub timeWindow world

theorem getPermissionAuditEvents_answer (subjectSub : String) (timeWindow : Timedelta) (world : σ) :
    (getPermissionAuditEvents ⟨settings,setOrder,answering answer⟩ subjectSub timeWindow).answer world =
      auditEvents answer parsePermissionAuditEvent (grantChangeActions ++ syncActions) 50 subjectSub timeWindow
        (Clock.now world).1.value :=
  lookup_answer answer parsePermissionAuditEvent _ _ subjectSub timeWindow world

def grantsAnswer (response : Response) : Except Exn (List EffectivePermission) :=
  if response.failed then .ok [] else response.json >>= effectivePermissionsFrom

omit [Clock σ] in
theorem getEffectivePermissions_exec (subjectSub : String) (world : σ) :
    (getEffectivePermissions ⟨settings,setOrder,answering answer⟩ subjectSub).exec world =
      (grantsAnswer (answer (userGet subjectSub)),world) := by
  rw [getEffectivePermissions,Effect.bind_exec,answering,Effect.pure_exec,grantsAnswer]
  dsimp only
  split
  · rfl
  · rw [Effect.bind_exec,Effect.lift_exec]
    cases (answer (userGet subjectSub)).json <;> rfl

/-- The audit log is what is asked for by actions; any other request is for the account. -/
def served (account : Response) (records : Request → List Json) (request : Request) : Response :=
  if (Json.find "actions[]" request.params).isSome then ⟨200,.ok (.obj [("beans",.arr (records request))])⟩ else account

theorem auditAnswer_served {α : Type} (parse : Json → Except Exn (Option α)) (account : Response)
    (records : Request → List Json) (subjectSub : String) (start stop : Int) (actions : List String) (size : Int) :
    auditAnswer parse (served account records (auditlogSearch subjectSub start stop actions size)) =
      (records (auditlogSearch subjectSub start stop actions size)).filterMapM parse := rfl

theorem auditEvents_served {α : Type} (parse : Json → Except Exn (Option α)) (account : Response)
    (records : Request → List Json) (actions : List String) (size : Int) (subjectSub : String) (timeWindow : Timedelta)
    (now : Datetime) : auditEvents (served account records) parse actions size subjectSub timeWindow now =
      auditRequest now subjectSub timeWindow actions size >>= fun request => (records request).filterMapM parse := by
  rw [auditEvents,auditRequest]
  cases now.minus timeWindow <;> rfl

/-! ### The verdicts -/

variable (config : Config) (connectorId : String)

/-- A diagnosis over the OpenIAM connector. -/
def diagnosisOf (ctx : DiagnosticContext σ) (world : σ) : Diagnosis σ :=
  ⟨world,{ctx with connector := connector ⟨settings,setOrder,answering answer⟩ connectorId config}⟩

def accountVerdict (evaluatedAt : Datetime) (result : UserStatusResult) : VerdictResult :=
  ⟨.accountStatus,if result.status = .active then .pass else .fail,
    if result.status = .active then none else some result.status.value,result.detail,some connectorId,evaluatedAt⟩

theorem step2_answer (ctx : DiagnosticContext σ) (world : σ) :
    ∃ evaluatedAt, Step2AccountStatus.run.answer (diagnosisOf settings setOrder answer config connectorId ctx world) =
      accountVerdict connectorId evaluatedAt <$>
        (getUserStatus ⟨settings,setOrder,answering answer⟩ config ctx.request.subjectSub).answer world := by
  refine ⟨(Clock.now ((getUserStatus ⟨settings,setOrder,answering answer⟩ config ctx.request.subjectSub).after world)).1.value,?_⟩
  rw [Effect.answer,Step2AccountStatus.run_exec]
  simp only [diagnosisOf,connector,Effect.answer,Effect.after]
  rcases (getUserStatus ⟨settings,setOrder,answering answer⟩ config ctx.request.subjectSub).exec world
    with ⟨raised | result,after⟩ <;> rfl

def signInVerdict (evaluatedAt : Datetime) : List AuthEvent → Except Exn VerdictResult
  | [] => .ok ⟨.authEvents,.pass,none,none,some connectorId,evaluatedAt⟩
  | first::rest => do
    let latest ← Step3AuthEvents.latest first rest
    return ⟨.authEvents,if latest.success then .pass else .fail,
      if latest.success then none else some (Step3AuthEvents.failureCause latest),latest.failureReason,some connectorId,
      evaluatedAt⟩

theorem step3_answer (ctx : DiagnosticContext σ) (world : σ) :
    ∃ evaluatedAt, Step3AuthEvents.run.answer (diagnosisOf settings setOrder answer config connectorId ctx world) =
      auditEvents answer parseAuditBean ["LOGIN","DO_LOGIN"] 10 ctx.request.subjectSub Step3AuthEvents.lookback
        (Clock.now world).1.value >>= signInVerdict connectorId evaluatedAt := by
  have asked := getAuthEvents_answer settings setOrder answer ctx.request.subjectSub Step3AuthEvents.lookback world
  rw [← asked]
  refine ⟨(Clock.now ((getAuthEvents ⟨settings,setOrder,answering answer⟩ ctx.request.subjectSub
    Step3AuthEvents.lookback).after world)).1.value,?_⟩
  rw [Effect.answer,Step3AuthEvents.run_exec]
  simp only [diagnosisOf,connector,Effect.answer,Effect.after]
  rcases (getAuthEvents ⟨settings,setOrder,answering answer⟩ ctx.request.subjectSub Step3AuthEvents.lookback).exec world
    with ⟨raised | events,after⟩
  · rfl
  · cases events with
    | nil => rfl
    | cons first rest =>
      simp only [bind,Except.bind,signInVerdict]
      cases Step3AuthEvents.latest first rest <;> rfl

def authorizationVerdict (evaluatedAt : Datetime) (missing : List String) (expired : Semantics.Dictionary String Datetime)
    (auditEvents : List PermissionAuditEvent) : Except Exn VerdictResult := do
  let conclusion ← Step4Authorization.conclude missing expired auditEvents
  return Step4Authorization.verdictOf connectorId evaluatedAt conclusion

theorem step4_answer (ctx : DiagnosticContext σ) (world : σ) : ∃ evaluatedAt,
    Step4Authorization.run.answer (diagnosisOf settings setOrder answer config connectorId ctx world) =
      if requiredPermissions (ctx.request.systemId ++ ":default") config.rolePermissionMap = [] then
        .ok (Step4Authorization.verdictOf connectorId evaluatedAt ⟨.pass,none,none⟩)
      else (do
        let effective ← grantsAnswer (answer (userGet ctx.request.subjectSub))
        let (missing,expired) ← Step4Authorization.assess (Clock.now world).1.value
          (requiredPermissions (ctx.request.systemId ++ ":default") config.rolePermissionMap) effective
        let events ← auditEvents answer parsePermissionAuditEvent (grantChangeActions ++ syncActions) 50
          ctx.request.subjectSub Step4Authorization.auditLookback (Clock.now (Clock.now world).2).1.value
        authorizationVerdict connectorId evaluatedAt missing expired events) := by
  let diagnosis := diagnosisOf settings setOrder answer config connectorId ctx world
  have verdict := @Step4Authorization.run_answer σ _ diagnosis
    (requiredPermissions (ctx.request.systemId ++ ":default") config.rolePermissionMap) world rfl
  have grants := getEffectivePermissions_exec settings setOrder answer ctx.request.subjectSub world
  have granted : (diagnosis.ctx.connector.getEffectivePermissions diagnosis.ctx.request.subjectSub
      (diagnosis.ctx.request.systemId ++ ":default")).answer world = grantsAnswer (answer (userGet ctx.request.subjectSub)) :=
    congrArg Prod.fst grants
  have unmoved : (diagnosis.ctx.connector.getEffectivePermissions diagnosis.ctx.request.subjectSub
      (diagnosis.ctx.request.systemId ++ ":default")).after world = world := congrArg Prod.snd grants
  have audit : (diagnosis.ctx.connector.getPermissionAuditEvents diagnosis.ctx.request.subjectSub
      Step4Authorization.auditLookback).answer (Clock.now world).2 = _ :=
    getPermissionAuditEvents_answer settings setOrder answer ctx.request.subjectSub _ (Clock.now world).2
  let settled := (Clock.now ((diagnosis.ctx.connector.getPermissionAuditEvents diagnosis.ctx.request.subjectSub
    Step4Authorization.auditLookback).after (Clock.now world).2)).1.value
  dsimp only at verdict
  rw [granted,unmoved,audit] at verdict
  by_cases asked : requiredPermissions (ctx.request.systemId ++ ":default") config.rolePermissionMap = []
  · refine ⟨(Clock.now world).1.value,verdict.trans ?_⟩
    rw [if_pos asked,if_pos asked]
    rfl
  · refine ⟨settled,verdict.trans ?_⟩
    rw [if_neg asked,if_neg asked]
    rfl

/-! ### What the checks decide from the records of the audit log -/

variable (account : Response)

def signInDecision (ctx : DiagnosticContext σ) (world : σ) (records : Request → List Json) :
    Except Exn (VerdictStatus × Option String) :=
  Step4Authorization.decision
    (Step3AuthEvents.run.answer (diagnosisOf settings setOrder (served account records) config connectorId ctx world))

def authorizationDecision (ctx : DiagnosticContext σ) (world : σ) (records : Request → List Json) :
    Except Exn (VerdictStatus × Option String) :=
  Step4Authorization.decision
    (Step4Authorization.run.answer (diagnosisOf settings setOrder (served account records) config connectorId ctx world))

end AccessAgent.OpenIAM
