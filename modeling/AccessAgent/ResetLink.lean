import AccessAgent.FunnelOutcome
import AccessAgent.RunStore

/-! The password-reset link over the life of a case: it is shown for an expired
password that the connector gave a link for, when the run answers and at every
later escalation, and nowhere else. -/

namespace AccessAgent
open Semantics

def DiagnosticRunResult.PasswordExpired (result : DiagnosticRunResult) : Prop :=
  ∃ last, result.stepVerdicts.getLast? = some last ∧ last.step = .accountStatus ∧ last.status = .fail ∧
    last.causeCode = some "password_expired"

def Answers.suppliedLink (a : Answers) : Option String :=
  match a.userStatus with
  | .ok result => result.passwordResetUrl
  | .error _ => none

/-- What a message gains from a link; an empty link counts as none. -/
def appended (invitation : String) (link : Option String) : String :=
  match VerdictMessages.nonEmpty link with
  | some url => invitation ++ url
  | none => ""

theorem resetEligible_iff (last : VerdictResult) : DiagnosticOrchestrator.resetEligible last = true ↔
    last.step = .accountStatus ∧ last.causeCode = some "password_expired" := by
  obtain ⟨step,status,causeCode,detail,source,evaluatedAt⟩ := last
  cases causeCode with
  | none => simp [DiagnosticOrchestrator.resetEligible,passwordResetEligibleCauses]
  | some cause => simp [DiagnosticOrchestrator.resetEligible,passwordResetEligibleCauses]

namespace DiagnosticOrchestrator
variable {σ : Type} [Clock σ]

omit [Clock σ] in
theorem not_eligible {last : VerdictResult} (other : last.step ≠ .accountStatus) : resetEligible last = false := by
  have equivalent := resetEligible_iff last
  cases eligible : resetEligible last with
  | false => rfl
  | true => exact absurd (equivalent.mp eligible).1 other

theorem step2_link (before : Diagnosis σ) :
    let last := record Step2AccountStatus.run .accountStatus before
    resetEligible last.verdict = true → last.verdict.status = .fail ∧
      ∃ result, ((before.ctx.connector.getUserStatus before.ctx.request.subjectSub).exec before.world).1 = .ok result ∧
        last.after.ctx.subjectPasswordResetUrl = result.passwordResetUrl := by
  intro last eligible
  have cause := ((resetEligible_iff _).mp eligible).2
  have exec := Step2AccountStatus.run_exec before
  rcases ran : (before.ctx.connector.getUserStatus before.ctx.request.subjectSub).exec before.world
    with ⟨raised | result,world⟩
  · rw [ran] at exec
    have stepError : last = _ := record_raised _ exec
    rw [stepError] at cause
    exact absurd cause (by simp [DiagnosticOrchestrator.stepError])
  · rw [ran] at exec
    have answered : last = _ := record_answered _ exec
    rw [answered] at cause ⊢
    refine ⟨?_,result,rfl,rfl⟩
    by_cases active : result.status = .active
    · simp [active] at cause
    · simp [active]

/-- A run carries the link of its own status answer when that answer ends it with an
expired password, and no link otherwise. -/
theorem resultOf_link (start : Diagnosis σ) (last : StepRecord σ)
    (found : (executed stepModules start).getLast? = some last) :
    let a := answers start.ctx.connector start.ctx.request start.world
    (resetEligible last.verdict = true → last.verdict.status = .fail) ∧
      (resultOf start last).passwordResetUrl =
        if resetEligible last.verdict then a.suppliedLink else none := by
  intro a
  have other : last.verdict.step ≠ .accountStatus →
      (resetEligible last.verdict = true → last.verdict.status = .fail) ∧
        (resultOf start last).passwordResetUrl =
          if resetEligible last.verdict then a.suppliedLink else none := by
    intro different
    rw [resultOf,not_eligible different]
    simp
  rcases deciding_step start with ⟨_,first⟩ | ⟨_,_,second⟩ | ⟨_,_,_,third⟩ | ⟨_,_,_,fourth⟩
  · obtain rfl := Option.some.inj (first.symm.trans found)
    exact other (by rw [record_named step1_law]; decide)
  · obtain rfl := Option.some.inj (second.symm.trans found)
    rw [resultOf]
    by_cases eligible : resetEligible
        (record Step2AccountStatus.run .accountStatus (DiagnosticOrchestrator.second start)).verdict = true
    · obtain ⟨failed,result,answer,link⟩ := step2_link _ eligible
      refine ⟨fun _ => failed,?_⟩
      rw [if_pos eligible,if_pos eligible,link]
      rw [(second_ctx start).1,(second_ctx start).2,(step_worlds start).1] at answer
      have status : a.userStatus = .ok result := answer
      rw [Answers.suppliedLink,status]
    · rw [if_neg eligible,if_neg eligible]
      exact ⟨fun same => absurd same eligible,rfl⟩
  · obtain rfl := Option.some.inj (third.symm.trans found)
    exact other (by rw [record_named step3_law]; decide)
  · obtain rfl := Option.some.inj (fourth.symm.trans found)
    exact other (by rw [record_named step4_law]; decide)

end DiagnosticOrchestrator

structure Confined (a : Answers) (result : DiagnosticRunResult) : Prop where
  carried : result.PasswordExpired → result.passwordResetUrl = a.suppliedLink
  withheld : ¬result.PasswordExpired → result.passwordResetUrl = none
  message : VerdictMessages.buildVerdictMessage result =
    VerdictMessages.buildVerdictMessage {result with passwordResetUrl := none} ++
      appended " Reset your password here: " result.passwordResetUrl

theorem buildVerdictMessage_link (result : DiagnosticRunResult)
    (withheld : ¬result.PasswordExpired → result.passwordResetUrl = none) :
    VerdictMessages.buildVerdictMessage result =
      VerdictMessages.buildVerdictMessage {result with passwordResetUrl := none} ++
        appended " Reset your password here: " result.passwordResetUrl := by
  by_cases expired : result.PasswordExpired
  · obtain ⟨last,found,step,status,cause⟩ := expired
    have eligible : passwordResetEligibleCauses.contains (last.step,last.causeCode.getD "") = true :=
      (resetEligible_iff last).mpr ⟨step,cause⟩
    simp only [VerdictMessages.buildVerdictMessage,found,status,eligible,appended]
    cases VerdictMessages.nonEmpty result.passwordResetUrl <;> simp [VerdictMessages.nonEmpty,String.append_assoc]
  · have same : {result with passwordResetUrl := none} = result := by rw [← withheld expired]
    rw [same,withheld expired,appended]
    simp [VerdictMessages.nonEmpty]

theorem scenarioOf_runModel {requestId id : Uuid} {result : DiagnosticRunResult} {startedAt : Datetime}
    {last : VerdictResult} (found : result.stepVerdicts.getLast? = some last) :
    DiagnosticService.scenarioOf (some (DiagnosticService.runModel requestId result id startedAt)) =
      .ok (some last.step,Json.ofOption last.causeCode) := by
  have stored : (result.stepVerdicts.map VerdictResult.dump).getLast? = some last.dump := by
    rw [List.getLast?_map,found]
    rfl
  rw [DiagnosticService.scenarioOf,Option.bind_some,DiagnosticService.runModel,stored]
  change (do
    let step ← FunnelStep.parse (.str last.step.value)
    return (some step,Json.ofOption last.causeCode)) = _
  rw [FunnelStep.parse_value]
  rfl

theorem causeText_ofOption (causeCode : Option String) :
    DiagnosticService.causeText (Json.ofOption causeCode) = causeCode := by
  cases causeCode <;> rfl

theorem buildEscalationMessage_link (last : VerdictResult) (link : Option String) (correlationId : String)
    (withheld : DiagnosticOrchestrator.resetEligible last = false → link = none) :
    VerdictMessages.buildEscalationMessage (some last.step) last.causeCode link correlationId =
      VerdictMessages.buildEscalationMessage (some last.step) last.causeCode none correlationId ++
        appended " In the meantime, you're welcome to try resetting your password yourself here: " link := by
  cases eligible : DiagnosticOrchestrator.resetEligible last with
  | false =>
    rw [withheld eligible,appended]
    simp [VerdictMessages.nonEmpty]
  | true =>
    rw [DiagnosticOrchestrator.resetEligible] at eligible
    simp only [VerdictMessages.buildEscalationMessage,eligible,appended]
    cases VerdictMessages.nonEmpty link <;> simp [VerdictMessages.nonEmpty,String.append_assoc]

variable {σ : Type} [Clock σ]

theorem run_confined (connector : ConnectorSPI σ) (world : σ) (request : DiagnosticRequest)
    (principal : Principal) (correlationId : String) (perStepTimeout : Timedelta) :
    ∃ result last, (DiagnosticOrchestrator.run.exec
        ⟨world,.fresh request principal connector correlationId perStepTimeout⟩).1 = .ok result ∧
      Confined (answers connector request world) result ∧ result.stepVerdicts.getLast? = some last ∧
      (DiagnosticOrchestrator.resetEligible last = false → result.passwordResetUrl = none) := by
  let start : Diagnosis σ := ⟨world,.fresh request principal connector correlationId perStepTimeout⟩
  obtain ⟨last,found,ran⟩ := DiagnosticOrchestrator.run_exec start rfl
  obtain ⟨failed,link⟩ := DiagnosticOrchestrator.resultOf_link start last found
  have verdict : (DiagnosticOrchestrator.resultOf start last).stepVerdicts.getLast? = some last.verdict := by
    rw [DiagnosticOrchestrator.resultOf,List.getLast?_map,found]
    rfl
  have expired : (DiagnosticOrchestrator.resultOf start last).PasswordExpired ↔
      DiagnosticOrchestrator.resetEligible last.verdict = true := by
    rw [DiagnosticRunResult.PasswordExpired,verdict,resetEligible_iff]
    constructor
    · intro holds
      obtain ⟨other,same,step,_,cause⟩ := holds
      obtain rfl := Option.some.inj same
      exact ⟨step,cause⟩
    · intro eligible
      obtain ⟨step,cause⟩ := eligible
      exact ⟨last.verdict,rfl,step,failed ((resetEligible_iff _).mpr ⟨step,cause⟩),cause⟩
  have carried : (DiagnosticOrchestrator.resultOf start last).PasswordExpired →
      (DiagnosticOrchestrator.resultOf start last).passwordResetUrl = (answers connector request world).suppliedLink := by
    intro holds
    rw [link,if_pos (expired.mp holds)]
    rfl
  have withheld : ¬(DiagnosticOrchestrator.resultOf start last).PasswordExpired →
      (DiagnosticOrchestrator.resultOf start last).passwordResetUrl = none := by
    intro fails
    rw [link,if_neg (fun eligible => fails (expired.mpr eligible))]
  refine ⟨_,last.verdict,by rw [ran],⟨carried,withheld,buildVerdictMessage_link _ withheld⟩,verdict,?_⟩
  intro eligible
  rw [link,eligible]
  rfl

variable (deployment : Deployment σ)

omit [Clock σ] in
theorem escalation_confined {served : List Served} {app : App σ} (agreement : Agreement deployment served app)
    {requestId id : Uuid} {result : DiagnosticRunResult} {startedAt : Datetime} {last : VerdictResult}
    (stored : DiagnosticService.runModel requestId result id startedAt ∈ app.committed.runs)
    (found : result.stepVerdicts.getLast? = some last)
    (withheld : DiagnosticOrchestrator.resetEligible last = false → result.passwordResetUrl = none)
    {escalation : EscalationRequest} {answer : DiagnosticService.EscalationResponse} {after : Tables}
    (rows : Escalated requestId escalation answer app.committed app.nextUuid after) :
    answer.message = VerdictMessages.buildEscalationMessage (some last.step) last.causeCode none
        result.correlationId ++
      appended " In the meantime, you're welcome to try resetting your password yourself here: "
        result.passwordResetUrl := by
  obtain ⟨model,latestRun,lastStep,causeCode,occurredAt,_,member,newest,scenario,shape,_⟩ := rows
  have named : model.id = requestId := by simpa using List.find?_some member
  obtain ⟨run,only,correlation,_⟩ := (agreement.accounted model (List.mem_of_find?_eq_some member)).run
  rw [named] at only
  have listed : DiagnosticService.runModel requestId result id startedAt ∈ runsOf app.committed requestId := by
    rw [runsOf,List.mem_filter]
    exact ⟨stored,by simp [DiagnosticService.runModel]⟩
  rw [only] at listed newest
  obtain rfl := (List.mem_singleton.mp listed).symm
  obtain rfl : some (DiagnosticService.runModel requestId result id startedAt) = latestRun := Except.ok.inj newest
  rw [scenarioOf_runModel found] at scenario
  obtain ⟨rfl,rfl⟩ := Prod.mk.inj (Except.ok.inj scenario)
  have same : result.correlationId = model.correlationId := correlation
  rw [shape,causeText_ofOption,← same]
  exact buildEscalationMessage_link last result.passwordResetUrl result.correlationId withheld

/-- Every run carries a link exactly for an expired password, its message shows that
link and no other, and so does every later escalation of the stored run. -/
theorem resetLink_confined :
    (∀ (connector : ConnectorSPI σ) (world : σ) (request : DiagnosticRequest) (principal : Principal)
        (correlationId : String) (perStepTimeout : Timedelta),
      ∃ result, (DiagnosticOrchestrator.run.exec
          ⟨world,.fresh request principal connector correlationId perStepTimeout⟩).1 = .ok result ∧
        Confined (answers connector request world) result) ∧
    ∀ (world : σ) (earlier : List ApiRequest) (intake : ComplaintIntake) (response : IntakeDiagnosisResponse)
        (next : App σ),
      serve deployment (.submitIntake intake) (serveAll deployment earlier (App.start world)).2 =
        (.ok (.intake response),next) →
      ∃ (connector : ConnectorSPI σ) (reached : σ) (request : DiagnosticRequest) (principal : Principal)
        (requestId : Uuid) (last : VerdictResult),
        (DiagnosticOrchestrator.run.exec ⟨reached,.fresh request principal connector request.correlationId
          defaultPerStepTimeout⟩).1 = .ok response.run ∧
        Confined (answers connector request reached) response.run ∧
        response.message = VerdictMessages.buildVerdictMessage response.run ∧
        response.run.stepVerdicts.getLast? = some last ∧
        deployment.uuidText requestId = response.diagnosticRequestId ∧
        ∀ later escalation answer final,
          serve deployment (.escalateIntake requestId escalation) (serveAll deployment later next).2 =
            (.ok (.escalation answer),final) →
          answer.message = VerdictMessages.buildEscalationMessage (some last.step) last.causeCode none
              response.correlationId ++
            appended " In the meantime, you're welcome to try resetting your password yourself here: "
              response.run.passwordResetUrl := by
  refine ⟨?_,?_⟩
  · intro connector world request principal correlationId perStepTimeout
    obtain ⟨result,_,ran,confined,_⟩ :=
      run_confined connector world request principal correlationId perStepTimeout
    exact ⟨result,ran,confined⟩
  intro world earlier intake response next ok
  have agreement := ((Agreement.start world : Agreement deployment [] _).run earlier).1
  have transition := serve_transition deployment (.submitIntake intake) _ agreement.fresh
  have agreed := agreement.step (.submitIntake intake)
  rw [ok] at transition agreed
  cases transition with
  | submitted rows drawn =>
    obtain ⟨subjectSub,draft,_,_,_,startedAt,shape,correlation,diagnosed,committed⟩ := rows
    obtain ⟨reached,request,principal,connector,ran⟩ := diagnosed
    obtain ⟨result,last,ran',confined,found,withheld⟩ := run_confined connector reached request principal
      request.correlationId defaultPerStepTimeout
    obtain rfl := Except.ok.inj (ran'.symm.trans ran)
    let requestId := (serveAll deployment earlier (App.start world)).2.nextUuid + 1
    refine ⟨connector,reached,request,principal,requestId,last,ran,confined,congrArg IntakeDiagnosisResponse.message shape,found,
      (congrArg IntakeDiagnosisResponse.diagnosticRequestId shape).symm,?_⟩
    intro later escalation answer final escalated
    obtain ⟨balanced,runs,_⟩ := agreed.run later
    have transition := serve_transition deployment (.escalateIntake requestId escalation) _ balanced.fresh
    rw [escalated] at transition
    cases transition with
    | escalated rows drawn =>
      have stored := runs.subset (by rw [committed]; exact List.mem_append_right _ List.mem_cons_self)
      rw [escalation_confined deployment balanced stored found withheld rows,correlation]
      exact congrArg (fun id => VerdictMessages.buildEscalationMessage _ _ _ id ++ _)
        (congrArg IntakeDiagnosisResponse.correlationId shape).symm

/-- A second submission meets an expired password, and its run is escalated after the first one. -/
theorem resetLink_confined_offered :
    let connector := {stillConnector some .up with getUserStatus := fun _ => pure ⟨.passwordExpired,none,some "https://reset"⟩}
    let deployment := stillDeployment connector
    ∃ response next answer final last,
      serve deployment (.submitIntake ⟨"alice",by decide,"My password is refused",none⟩)
        (serveAll deployment [.submitIntake ⟨"bob",by decide,"I cannot sign in",none⟩] (App.start ())).2 =
          (.ok (.intake response),next) ∧
      serve deployment (.escalateIntake 6 ⟨"alice",none⟩) (serveAll deployment [.escalateIntake 1 ⟨"bob",none⟩] next).2 =
        (.ok (.escalation answer),final) ∧
      response.run.passwordResetUrl = some "https://reset" ∧ response.run.stepVerdicts.getLast? = some last ∧
      answer.message = VerdictMessages.buildEscalationMessage (some last.step) last.causeCode none response.correlationId ++
        " In the meantime, you're welcome to try resetting your password yourself here: https://reset" := by
  intro connector deployment
  obtain ⟨response,next,ok,link,id,answer,final,escalated⟩ : ∃ response next,
      serve deployment (.submitIntake ⟨"alice",by decide,"My password is refused",none⟩)
        (serveAll deployment [.submitIntake ⟨"bob",by decide,"I cannot sign in",none⟩] (App.start ())).2 =
          (.ok (.intake response),next) ∧
      response.run.passwordResetUrl = some "https://reset" ∧ response.diagnosticRequestId = deployment.uuidText 6 ∧
      ∃ answer final, serve deployment (.escalateIntake 6 ⟨"alice",none⟩)
        (serveAll deployment [.escalateIntake 1 ⟨"bob",none⟩] next).2 = (.ok (.escalation answer),final) :=
    ⟨_,_,rfl,rfl,rfl,_,_,rfl⟩
  obtain ⟨_,confined⟩ := resetLink_confined deployment
  obtain ⟨_,_,_,_,requestId,last,_,_,_,found,same,escalations⟩ := confined () _ _ response next ok
  obtain rfl := deployment.uuidText_injective (same.trans id)
  refine ⟨response,next,answer,final,last,ok,escalated,link,found,?_⟩
  rw [escalations _ _ answer final escalated,link]
  rfl

end AccessAgent
