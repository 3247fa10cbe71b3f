import AccessAgent.ResetLink
import AccessAgent.AuditRead

/-! What the user is told against what was decided: the template of a finished run
against its outcome, and the confirmation of an escalation against the run it is about. -/

namespace AccessAgent
open Semantics

namespace VerdictMessages

/-- The template that `build_verdict_message` selects. -/
def selectTemplate (result : DiagnosticRunResult) : MessageTemplate :=
  match result.stepVerdicts.getLast? with
  | none => inconclusive
  | some last => match last.status with
    | .inconclusive => inconclusive
    | .pass => allClearEscalation
    | .fail => (causeMessages.find (last.step,last.causeCode.getD "")).getD (stepFallback last.step)

theorem buildVerdictMessage_template (result : DiagnosticRunResult) :
    ∃ detail link, buildVerdictMessage result = (selectTemplate result).format result.correlationId detail ++
      appended " Reset your password here: " link := by
  rw [buildVerdictMessage,selectTemplate]
  cases result.stepVerdicts.getLast? with
  | none => exact ⟨"",none,(String.append_empty).symm⟩
  | some last =>
    dsimp only
    cases last.status with
    | inconclusive => exact ⟨"",none,(String.append_empty).symm⟩
    | pass => exact ⟨"",none,(String.append_empty).symm⟩
    | fail =>
      dsimp only
      split
      next url eligible given =>
        refine ⟨last.detail.getD "",result.passwordResetUrl,?_⟩
        rw [appended,given,String.append_assoc]
      next => exact ⟨_,none,(String.append_empty).symm⟩

end VerdictMessages

/-! ### The template and the outcome -/

/-- The phrase occurs in the text, in any case. -/
def occursIn (phrase : List Char) : List Char → Bool
  | [] => phrase.isEmpty
  | c::rest => phrase.isPrefixOf ((c::rest).map Char.toLower) || occursIn phrase rest

namespace MessageTemplate

def mentions (phrase : String) : MessageTemplate → Bool
  | [] => false
  | .text literal::rest => occursIn phrase.toList literal.toList || mentions phrase rest
  | .correlationId::rest => mentions phrase rest
  | .detail::rest => mentions phrase rest

def statesEscalated (template : MessageTemplate) : Bool := template.mentions "escalated"

def carriesReference (template : MessageTemplate) : Bool := template.contains .correlationId

def asksForAccess (template : MessageTemplate) : Bool :=
  template.mentions "submit an access request" || template.mentions "submit a new access request"

/-- The text names no problem of its own: the checks were clear or could not be finished. -/
def unexplained (template : MessageTemplate) : Bool :=
  template.mentions "couldn't pin down" || template.mentions "couldn't finish"

structure Agrees (template : MessageTemplate) (outcome : Outcome) (explained : Bool) : Prop where
  stated : template.statesEscalated = decide (outcome = .escalation)
  referenced : template.carriesReference = decide (outcome = .escalation)
  requested : template.asksForAccess = decide (outcome = .accessGap)
  explained : template.unexplained = !explained

end MessageTemplate

open VerdictMessages MessageTemplate

private theorem finished_agrees :
    inconclusive.Agrees .escalation false ∧ allClearEscalation.Agrees .escalation false := by
  constructor <;> constructor
  all_goals
    simp only [statesEscalated,asksForAccess,carriesReference,unexplained,mentions,inconclusive,allClearEscalation,
      referenced,String.toList_append]
    repeat rw [String.toList_ofList]
    decide +kernel

def defaultOutcome : FunnelStep → Outcome
  | .systemAvailability => .escalation
  | .accountStatus => .escalation
  | .authEvents => .selfServiceFix
  | .authorization => .accessGap
  | .pathInfrastructure => .escalation

private theorem fallback_agrees (step : FunnelStep) : (stepFallback step).Agrees (defaultOutcome step) true := by
  cases step <;> constructor
  all_goals
    simp only [statesEscalated,asksForAccess,carriesReference,unexplained,mentions,stepFallback,submitAccessRequest,
      referenced,String.toList_append,defaultOutcome]
    repeat rw [String.toList_ofList]
    decide +kernel

/-- A cause with a message of its own has the outcome that the message tells. -/
private theorem cause_agrees {verdict : VerdictResult} {template : MessageTemplate}
    (known : ((verdict.step,verdict.causeCode.getD ""),template) ∈ causeMessages) :
    template.Agrees (DiagnosticOrchestrator.resolveFailOutcome verdict) true := by
  rw [DiagnosticOrchestrator.resolveFailOutcome]
  generalize verdict.step = step at known ⊢
  generalize verdict.causeCode.getD "" = cause at known ⊢
  simp only [causeMessages,List.mem_cons,Prod.mk.injEq,List.not_mem_nil,or_false] at known
  rcases known with ⟨⟨rfl,rfl⟩,rfl⟩ | ⟨⟨rfl,rfl⟩,rfl⟩ | ⟨⟨rfl,rfl⟩,rfl⟩ | ⟨⟨rfl,rfl⟩,rfl⟩ |
    ⟨⟨rfl,rfl⟩,rfl⟩ | ⟨⟨rfl,rfl⟩,rfl⟩ | ⟨⟨rfl,rfl⟩,rfl⟩ | ⟨⟨rfl,rfl⟩,rfl⟩
  all_goals constructor
  all_goals
    simp only [statesEscalated,asksForAccess,carriesReference,unexplained,mentions,lockedAccount,submitAccessRequest,
      referenced,String.toList_append]
    repeat rw [String.toList_ofList]
    decide +kernel

/-- A cause without a message of its own has the outcome of its step. -/
theorem outcome_default {verdict : VerdictResult}
    (unknown : causeMessages.find (verdict.step,verdict.causeCode.getD "") = none) :
    DiagnosticOrchestrator.resolveFailOutcome verdict = defaultOutcome verdict.step := by
  have absent : (verdict.step,verdict.causeCode.getD "") ∉ causeMessages.keys := by
    rw [Dictionary.mem_keys,unknown]
    exact Bool.false_ne_true
  rw [DiagnosticOrchestrator.resolveFailOutcome]
  generalize verdict.causeCode.getD "" = cause at absent ⊢
  cases step : verdict.step with
  | systemAvailability => rfl
  | authEvents => rfl
  | pathInfrastructure => rfl
  | accountStatus =>
    obtain ⟨locked,expired,disabled,missing,deprovisioned⟩ : cause ≠ "locked" ∧ cause ≠ "password_expired" ∧
        cause ≠ "disabled" ∧ cause ≠ "not_found" ∧ cause ≠ "deprovisioned" := by
      simpa [causeMessages,Dictionary.keys,step] using absent
    simp [accountStatusOutcome,AccountStatus.value,Dictionary.find,locked.symm,expired.symm,disabled.symm,
      missing.symm,deprovisioned.symm,defaultOutcome]
  | authorization =>
    obtain ⟨missing,expired,revoked⟩ : cause ≠ "missing_role" ∧ cause ≠ "access_expired" ∧
        cause ≠ "access_revoked" := by
      simpa [causeMessages,Dictionary.keys,step] using absent
    simp [authorizationOutcome,Dictionary.find,missing.symm,expired.symm,revoked.symm,defaultOutcome]

theorem selectTemplate_agrees {result : DiagnosticRunResult} {last : VerdictResult}
    (found : result.stepVerdicts.getLast? = some last) :
    (selectTemplate result).Agrees (DiagnosticOrchestrator.resolveOutcome last) (last.status = .fail) := by
  rw [selectTemplate,found,DiagnosticOrchestrator.resolveOutcome]
  dsimp only
  cases last.status with
  | inconclusive => exact finished_agrees.1
  | pass => exact finished_agrees.2
  | fail =>
    dsimp only
    cases known : causeMessages.find (last.step,last.causeCode.getD "") with
    | some template => exact cause_agrees (Dictionary.mem_of_find known)
    | none =>
      rw [outcome_default known]
      exact fallback_agrees last.step

/-- Whatever verdicts are finalized, the message speaks of an escalation with its
reference exactly when the case is escalated, and asks for an access request exactly
when an access gap was decided. -/
theorem message_agrees {σ : Type} (ctx : DiagnosticContext σ) (nonempty : ctx.verdicts ≠ []) :
    ∃ result detail link, DiagnosticOrchestrator.finalize ctx = .ok result ∧ result.stepVerdicts = ctx.verdicts ∧
      buildVerdictMessage result = (selectTemplate result).format result.correlationId detail ++
        appended " Reset your password here: " link ∧
      ((selectTemplate result).statesEscalated = true ↔ result.escalated = true) ∧
      ((selectTemplate result).carriesReference = true ↔ result.escalated = true) ∧
      ((selectTemplate result).asksForAccess = true ↔ result.outcome = .accessGap) := by
  have found := List.getLast?_eq_some_getLast nonempty
  generalize ctx.verdicts.getLast nonempty = last at found
  obtain ⟨result,finalized,verdicts,outcome,escalated⟩ : ∃ result, DiagnosticOrchestrator.finalize ctx = .ok result ∧
      result.stepVerdicts = ctx.verdicts ∧ result.outcome = DiagnosticOrchestrator.resolveOutcome last ∧
      result.escalated = decide (DiagnosticOrchestrator.resolveOutcome last = .escalation) := by
    rw [DiagnosticOrchestrator.finalize,found]
    exact ⟨_,rfl,rfl,rfl,rfl⟩
  obtain ⟨detail,link,message⟩ := buildVerdictMessage_template result
  have agrees := selectTemplate_agrees (verdicts ▸ found)
  refine ⟨result,detail,link,finalized,verdicts,message,?_⟩
  rw [agrees.stated,agrees.referenced,agrees.requested,escalated,outcome]
  exact ⟨Iff.rfl,Iff.rfl,decide_eq_true_iff⟩

def sampleRequest : DiagnosticRequest := ⟨"c","alice","alice","openiam",.other,""⟩

def sampleVerdict : VerdictResult := ⟨.authorization,.fail,some "access_expired",none,none,(default : UtcNow).value⟩

theorem message_agrees_expired :
    let ctx : DiagnosticContext Unit :=
      ⟨sampleRequest,⟨"alice",[]⟩,stillConnector some .up,"c",defaultPerStepTimeout,[sampleVerdict],none⟩
    ∃ result detail link, DiagnosticOrchestrator.finalize ctx = .ok result ∧ result.stepVerdicts = [sampleVerdict] ∧
      buildVerdictMessage result = (selectTemplate result).format result.correlationId detail ++
        appended " Reset your password here: " link ∧
      ((selectTemplate result).statesEscalated = true ↔ result.escalated = true) ∧
      ((selectTemplate result).carriesReference = true ↔ result.escalated = true) ∧
      ((selectTemplate result).asksForAccess = true ↔ result.outcome = .accessGap) :=
  message_agrees _ (List.cons_ne_nil _ _)

/-! ### The scenario of an escalation -/

/-- The step that a run found at fault. -/
def DiagnosticRunResult.scenario (result : DiagnosticRunResult) : Option FunnelStep :=
  match result.stepVerdicts.getLast? with
  | none => none
  | some last => if last.status = .fail then some last.step else none

theorem scenario_explained (result : DiagnosticRunResult) :
    result.scenario = none ↔ (selectTemplate result).unexplained = true := by
  cases found : result.stepVerdicts.getLast? with
  | none =>
    have shape : selectTemplate result = inconclusive := by rw [selectTemplate,found]
    rw [DiagnosticRunResult.scenario,found,shape,finished_agrees.1.explained]
    simp
  | some last =>
    rw [DiagnosticRunResult.scenario,found,(selectTemplate_agrees found).explained]
    by_cases failed : last.status = .fail <;> simp [failed]

def escalationTemplate : Option FunnelStep → MessageTemplate
  | none => genericEscalation
  | some step => escalationMessage step

structure NamesScenario (scenario : Option FunnelStep) (response : DiagnosticService.EscalationResponse)
    (payload : Json) : Prop where
  message : ∃ link, response.message = (escalationTemplate scenario).format response.correlationId "" ++
    appended " In the meantime, you're welcome to try resetting your password yourself here: " link
  payload : payload.item "scenario" = .ok (Json.ofOption (scenario.map FunnelStep.value))

theorem buildEscalationMessage_template (scenario : Option FunnelStep) (causeCode passwordResetUrl : Option String)
    (correlationId : String) :
    ∃ link, buildEscalationMessage scenario causeCode passwordResetUrl correlationId =
      (escalationTemplate scenario).format correlationId "" ++
        appended " In the meantime, you're welcome to try resetting your password yourself here: " link := by
  cases scenario with
  | none => exact ⟨none,(String.append_empty).symm⟩
  | some step =>
    simp only [buildEscalationMessage,escalationTemplate]
    split
    next url eligible given =>
      refine ⟨passwordResetUrl,?_⟩
      rw [appended,given,String.append_assoc]
    next => exact ⟨none,(String.append_empty).symm⟩

variable {σ : Type} [Clock σ] (deployment : Deployment σ)

/-- Every stored run was made by the funnel. -/
def RunsDiagnosed (σ : Type) [Clock σ] (tables : Tables) : Prop :=
  ∀ run ∈ tables.runs, ∃ result id startedAt, Diagnosed σ result ∧
    run = DiagnosticService.runModel run.requestId result id startedAt

theorem latest_found {runs : List DiagnosticRunModel} {latestRun : Option DiagnosticRunModel}
    (found : DiagnosticService.latest runs = .ok latestRun) :
    latestRun = none ∧ runs = [] ∨ ∃ run ∈ runs, latestRun = some run := by
  cases runs with
  | nil => exact Or.inl ⟨(Except.ok.inj found).symm,rfl⟩
  | cons first rest =>
    rw [DiagnosticService.latest] at found
    cases scanned : Datetime.order.scan DiagnosticRunModel.startedAt first rest with
    | error raised =>
      rw [scanned] at found
      cases found
    | ok chosen =>
      rw [scanned] at found
      exact Or.inr ⟨chosen,((Datetime.order.scan_ok _ _ _ _).mp scanned).member,(Except.ok.inj found).symm⟩

theorem Diagnosed.nonempty {result : DiagnosticRunResult} (diagnosed : Diagnosed σ result) :
    ∃ last, result.stepVerdicts.getLast? = some last := by
  obtain ⟨world,request,principal,connector,ran⟩ := diagnosed
  obtain ⟨last,found,exec⟩ := DiagnosticOrchestrator.run_exec (σ := σ)
    ⟨world,.fresh request principal connector request.correlationId defaultPerStepTimeout⟩ rfl
  rw [exec] at ran
  obtain rfl := Except.ok.inj ran
  refine ⟨last.verdict,?_⟩
  rw [DiagnosticOrchestrator.resultOf,List.getLast?_map,found]
  rfl

/-- The last diagnosis of a request, if it has one. -/
inductive LatestDiagnosis (σ : Type) [Clock σ] (tables : Tables) (requestId : Uuid) : Option DiagnosticRunResult → Prop
  | absent (empty : runsOf tables requestId = []) : LatestDiagnosis σ tables requestId none
  | run {result : DiagnosticRunResult} {id : Uuid} {startedAt : Datetime} (diagnosed : Diagnosed σ result)
      (newest : DiagnosticService.latest (runsOf tables requestId) =
        .ok (some (DiagnosticService.runModel requestId result id startedAt))) :
      LatestDiagnosis σ tables requestId (some result)

theorem latestDiagnosis {tables : Tables} (stored : RunsDiagnosed σ tables) {requestId : Uuid}
    {latestRun : Option DiagnosticRunModel} (newest : DiagnosticService.latest (runsOf tables requestId) = .ok latestRun) :
    (latestRun = none ∧ LatestDiagnosis σ tables requestId none) ∨
      ∃ result id startedAt, latestRun = some (DiagnosticService.runModel requestId result id startedAt) ∧
        Diagnosed σ result ∧ LatestDiagnosis σ tables requestId (some result) := by
  rcases latest_found newest with ⟨rfl,empty⟩ | ⟨run,member,rfl⟩
  · exact Or.inl ⟨rfl,.absent empty⟩
  · obtain ⟨inside,own⟩ := List.mem_filter.mp member
    obtain ⟨result,id,startedAt,diagnosed,shape⟩ := stored run inside
    rw [of_decide_eq_true own] at shape
    rw [shape] at newest
    exact Or.inr ⟨result,id,startedAt,by rw [shape],diagnosed,.run diagnosed newest⟩

theorem Transition.diagnosed {app after : App σ} {request : ApiRequest} {answer : Except Exn ApiResponse}
    (transition : Transition deployment app request answer after) (stored : RunsDiagnosed σ app.committed) :
    RunsDiagnosed σ after.committed := by
  cases transition with
  | refused unchanged drawn =>
    rw [unchanged]
    exact stored
  | submitted rows drawn =>
    obtain ⟨_,_,_,_,_,startedAt,_,_,diagnosed,committed⟩ := rows
    rw [committed]
    intro run member
    rcases List.mem_append.mp member with old | new
    · exact stored run old
    · rw [List.mem_singleton.mp new]
      exact ⟨_,_,startedAt,diagnosed,rfl⟩
  | escalated rows drawn =>
    obtain ⟨_,_,_,_,_,_,_,_,_,_,committed⟩ := rows
    rw [committed]
    exact stored

theorem namesScenario_iff {result : DiagnosticRunResult} {last : VerdictResult}
    (found : result.stepVerdicts.getLast? = some last) {requestId id : Uuid} {startedAt : Datetime}
    {note link : Option String} {correlationId : String} :
    NamesScenario result.scenario
        ⟨correlationId,buildEscalationMessage (some last.step) last.causeCode link correlationId⟩
        (DiagnosticService.escalationPayload note (some last.step)
          (some (DiagnosticService.runModel requestId result id startedAt))) ↔
      last.status = .fail := by
  rw [DiagnosticRunResult.scenario,found]
  dsimp only
  constructor
  · intro named
    by_contra other
    have payload := named.payload
    rw [if_neg other] at payload
    cases payload
  · intro failed
    rw [if_pos failed]
    exact ⟨buildEscalationMessage_template (some last.step) last.causeCode link correlationId,rfl⟩

/-- An escalation names the scenario that its run found exactly when there is no run, or
the run ended with a failure: the last step is named whatever its verdict. -/
theorem escalation_scenario :
    (∀ (world : σ) (requests : List ApiRequest),
      RunsDiagnosed σ (serveAll deployment requests (App.start world)).2.committed) ∧
    (∀ result : DiagnosticRunResult, result.scenario = none ↔ (selectTemplate result).unexplained = true) ∧
    ∀ (before after : Session σ) (requestId : Uuid) (userSub : String) (note : Option String)
        (response : DiagnosticService.EscalationResponse),
      RunsDiagnosed σ before.tables →
      (DiagnosticService.escalateRequest deployment requestId userSub note).exec before = (.ok response,after) →
      ∃ diagnosed row, LatestDiagnosis σ before.tables requestId diagnosed ∧
        after.tables.auditEvents = before.tables.auditEvents ++ [row] ∧
        (NamesScenario (diagnosed.bind DiagnosticRunResult.scenario) response row.payload ↔
          ∀ result, diagnosed = some result →
            ∃ last, result.stepVerdicts.getLast? = some last ∧ last.status = .fail) := by
  refine ⟨fun world requests => ?_,scenario_explained,?_⟩
  · have agreement : Agreement deployment [] (App.start world) := Agreement.start world
    exact agreement.keeps (RunsDiagnosed σ)
      (fun _ _ _ _ transition stored => transition.diagnosed deployment stored) requests nofun
  intro before after requestId userSub note response stored ok
  obtain ⟨model,latestRun,lastStep,causeCode,occurredAt,_,newest,scenario,shape,rows,_⟩ :=
    escalateRequest_success deployment ok
  rcases latestDiagnosis stored newest with ⟨rfl,absent⟩ | ⟨result,id,startedAt,rfl,diagnosed,latest⟩
  · obtain ⟨rfl,rfl⟩ := Prod.mk.inj (Except.ok.inj scenario)
    refine ⟨none,_,absent,by rw [rows],fun _ => nofun,fun _ => ⟨?_,rfl⟩⟩
    rw [shape]
    exact buildEscalationMessage_template none (DiagnosticService.causeText .null) none model.correlationId
  · obtain ⟨last,found⟩ := diagnosed.nonempty
    rw [scenarioOf_runModel found] at scenario
    obtain ⟨rfl,rfl⟩ := Prod.mk.inj (Except.ok.inj scenario)
    refine ⟨some result,_,latest,by rw [rows],?_⟩
    rw [shape,causeText_ofOption]
    constructor
    · intro named other same
      obtain rfl := Option.some.inj same
      exact ⟨last,found,(namesScenario_iff found).mp named⟩
    · intro condition
      obtain ⟨other,same,failed⟩ := condition result rfl
      obtain rfl := Option.some.inj (found.symm.trans same)
      exact (namesScenario_iff found).mpr failed

/-- The run of a system that is down, and a later escalation of it. -/
theorem escalation_scenario_down :
    let deployment := stillDeployment (stillConnector some .down)
    let app := (serveAll deployment [.submitIntake ⟨"alice",by decide,"I cannot sign in",none⟩] (App.start ())).2
    ∃ response after result row, (DiagnosticService.escalateRequest deployment 1 "alice" none).exec app.begin = (.ok response,after) ∧
      LatestDiagnosis Unit app.committed 1 (some result) ∧ result.scenario = some .systemAvailability ∧
      after.tables.auditEvents = app.committed.auditEvents ++ [row] ∧
      NamesScenario (some .systemAvailability) response row.payload := by
  intro deployment app
  obtain ⟨response,after,ran⟩ : ∃ response after,
      (DiagnosticService.escalateRequest deployment 1 "alice" none).exec app.begin = (.ok response,after) := ⟨_,_,rfl⟩
  obtain ⟨histories,_,escalations⟩ := escalation_scenario deployment
  obtain ⟨diagnosed,row,latest,rows,names⟩ := escalations app.begin after 1 "alice" none response (histories () _) ran
  cases latest with
  | absent empty => cases empty
  | @run result id startedAt diagnosed newest =>
    obtain ⟨verdict,dumped,step,status⟩ : ∃ verdict : VerdictResult, [verdict.dump] = result.stepVerdicts.map VerdictResult.dump ∧
        verdict.step = .systemAvailability ∧ verdict.status = .fail :=
      ⟨_,congrArg DiagnosticRunModel.stepVerdicts (Option.some.inj (Except.ok.inj newest)),rfl,rfl⟩
    obtain ⟨last,only,same⟩ := List.map_eq_singleton_iff.mp dumped.symm
    simp only [VerdictResult.dump,Json.obj.injEq,List.cons.injEq,Prod.mk.injEq,Json.str.injEq,true_and,step,status] at same
    have down : last.step = .systemAvailability ∧ last.status = .fail := by
      obtain ⟨steps,statuses,_⟩ := same
      cases known : last.step <;> cases shown : last.status <;> simp_all [FunnelStep.value,VerdictStatus.value]
    have scenario : result.scenario = some .systemAvailability := by
      rw [DiagnosticRunResult.scenario,only,List.getLast?_singleton]
      dsimp only
      rw [if_pos down.2,down.1]
    have named := names.mpr (by
      rintro _ ⟨⟩
      exact ⟨last,by rw [only]; rfl,down.2⟩)
    rw [Option.bind_some,scenario] at named
    exact ⟨response,after,result,row,ran,.run diagnosed newest,scenario,rows,named⟩

theorem clear_run_misnamed :
    let deployment := stillDeployment (stillConnector some .up)
    let app := (serveAll deployment [.submitIntake ⟨"alice",by decide,"I cannot sign in",none⟩] (App.start ())).2
    ∃ result startedAt response row after,
      runsOf app.committed 1 = [DiagnosticService.runModel 1 result 3 startedAt] ∧ result.scenario = none ∧
      (DiagnosticService.escalateRequest deployment 1 "alice" none).exec app.begin = (.ok response,after) ∧
      after.tables.auditEvents = app.committed.auditEvents ++ [row] ∧
      row.payload.item "scenario" = .ok (.str "authorization") ∧
      ¬NamesScenario result.scenario response row.payload := by
  refine ⟨_,_,_,_,_,rfl,rfl,rfl,rfl,rfl,fun named => ?_⟩
  have impossible : Except.ok (Json.str "authorization") = .ok Json.null := named.payload
  cases impossible

end AccessAgent
