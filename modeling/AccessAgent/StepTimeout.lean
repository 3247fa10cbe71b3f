import AccessAgent.FunnelOutcome

/-! The time limit of a step against a run. Every connector call takes some time; the
limit is carried by the context, and nothing in the orchestrator reads it. -/

namespace AccessAgent
open Semantics Step

variable {σ : Type}

structure Timed (σ : Type) where
  world : σ
  elapsed : Timedelta

instance [Clock σ] : Clock (Timed σ) where
  now timed := ((Clock.now timed.world).1,{timed with world := (Clock.now timed.world).2})

/-- A call that lasts as long as the world it is made in says. -/
def timedCall {α : Type} (duration : ConnectorCall → σ → Nat) (call : ConnectorCall) (method : Effect Exn σ α) :
    Effect Exn (Timed σ) α :=
  ⟨fun timed =>
    let outcome := method.exec timed.world
    (outcome.1,⟨outcome.2,timed.elapsed + duration call timed.world⟩)⟩

def ConnectorSPI.timed (duration : ConnectorCall → σ → Nat) (connector : ConnectorSPI σ) : ConnectorSPI (Timed σ) where
  connectorId := connector.connectorId
  resolveSubjectSub loginId :=
    timedCall duration (.resolveSubjectSub loginId) (connector.resolveSubjectSub loginId)
  checkAvailability sub := timedCall duration (.checkAvailability sub) (connector.checkAvailability sub)
  getUserStatus sub := timedCall duration (.getUserStatus sub) (connector.getUserStatus sub)
  getAuthEvents sub window := timedCall duration (.getAuthEvents sub window) (connector.getAuthEvents sub window)
  getEffectivePermissions sub resource :=
    timedCall duration (.getEffectivePermissions sub resource) (connector.getEffectivePermissions sub resource)
  getRequiredPermissions resource :=
    timedCall duration (.getRequiredPermissions resource) (connector.getRequiredPermissions resource)
  getPermissionAuditEvents sub window :=
    timedCall duration (.getPermissionAuditEvents sub window) (connector.getPermissionAuditEvents sub window)

namespace DiagnosticOrchestrator
variable [Clock σ]

/-! ### Late steps -/

/-- The time that the calls of a step take together. -/
def StepRecord.elapsed (entry : StepRecord (Timed σ)) : Timedelta :=
  entry.after.world.elapsed - entry.before.world.elapsed

theorem step_answers_decide : ∀ step ∈ (stepModules : List (Step σ VerdictResult × FunnelStep)),
    ∀ before verdict after, step.1.exec before = (.ok verdict,after) → verdict.status ≠ .inconclusive := by
  simp only [stepModules,List.mem_cons,List.not_mem_nil,or_false]
  intro step member before verdict after ok
  rcases member with rfl | rfl | rfl | rfl
  · dsimp only at ok
    rw [Step1SystemAvailability.run_exec] at ok
    split at ok <;> cases ok
    dsimp only
    split <;> decide
  · dsimp only at ok
    rw [Step2AccountStatus.run_exec] at ok
    split at ok <;> cases ok
    dsimp only
    split <;> decide
  · dsimp only at ok
    rw [Step3AuthEvents.run_exec] at ok
    repeat' split at ok
    all_goals cases ok
    all_goals simp
  · have value := step4_assessment before
    have gap := assessment_gap (authorizationAnswers before.ctx.connector before.ctx.request before.world)
    dsimp only at ok
    rw [ok] at value
    rw [← value] at gap
    intro undecided
    simp only [undecided,bind,Except.bind,pure,Except.pure] at gap

theorem executed_last {steps : List (Step σ VerdictResult × FunnelStep)} {before : Diagnosis σ} {entry : StepRecord σ}
    (member : entry ∈ executed steps before) (stopped : entry.verdict.status ≠ .pass) :
    (executed steps before).getLast? = some entry := by
  have nonempty := List.ne_nil_of_mem member
  rw [List.getLast?_eq_some_getLast nonempty]
  rw [← List.dropLast_append_getLast nonempty] at member
  rcases List.mem_append.mp member with early | last
  · exact absurd (executed_passed steps before entry early) stopped
  · rw [List.mem_singleton.mp last]

end DiagnosticOrchestrator

/-! ### Answers in time -/

variable [Clock σ]

/-- How long the calls behind each of the answers take. -/
structure AnswerTimes where
  availability : Timedelta
  userStatus : Timedelta
  authEvents : Timedelta
  authorization : Timedelta

/-- The time of a fourth check that is answered: one call where nothing is required,
all three otherwise. -/
def authorizationTime (connector : ConnectorSPI (Timed σ)) (request : DiagnosticRequest) (world : Timed σ) : Timedelta :=
  let required := (connector.getRequiredPermissions (request.systemId ++ ":default")).exec world
  match required.1 with
  | .ok [] => required.2.elapsed - world.elapsed
  | _ => ((connector.getPermissionAuditEvents request.subjectSub Step4Authorization.auditLookback).exec
      (DiagnosticOrchestrator.auditWorld connector request world)).2.elapsed - world.elapsed

def answerTimes (connector : ConnectorSPI (Timed σ)) (request : DiagnosticRequest) (world : Timed σ) : AnswerTimes :=
  let checked := (connector.checkAvailability request.subjectSub).exec world
  let status := (connector.getUserStatus request.subjectSub).exec (settle checked)
  let events := (connector.getAuthEvents request.subjectSub Step3AuthEvents.lookback).exec (settle status)
  ⟨checked.2.elapsed - world.elapsed,status.2.elapsed - checked.2.elapsed,events.2.elapsed - status.2.elapsed,
    authorizationTime connector request (settle events)⟩

/-- Every check that the funnel reaches either raises or is answered within the limit. -/
structure AnswersInTime (limit : Timedelta) (a : Answers) (times : AnswerTimes) : Prop where
  availability : (∃ result, a.availability = .ok result) → times.availability ≤ limit
  userStatus : a.SystemsUp → (∃ result, a.userStatus = .ok result) → times.userStatus ≤ limit
  authEvents : a.SystemsUp → a.Account .active → a.SignInFails ∨ a.SignInClear → times.authEvents ≤ limit
  authorization : a.SystemsUp → a.Account .active → a.SignInClear →
    (∃ conclusion, DiagnosticOrchestrator.assessment a.authorization = .ok conclusion) → times.authorization ≤ limit

namespace DiagnosticOrchestrator

theorem step1_answered (before : Diagnosis σ) :
    (∃ verdict, (record Step1SystemAvailability.run .systemAvailability before).raw = .ok verdict) ↔
      ∃ result, ((before.ctx.connector.checkAvailability before.ctx.request.subjectSub).exec before.world).1 =
        .ok result := by
  rw [record_raw,Step1SystemAvailability.run_exec]
  rcases (before.ctx.connector.checkAvailability before.ctx.request.subjectSub).exec before.world with
    ⟨raised | result,world⟩ <;> simp

theorem step2_answered (before : Diagnosis σ) :
    (∃ verdict, (record Step2AccountStatus.run .accountStatus before).raw = .ok verdict) ↔
      ∃ result, ((before.ctx.connector.getUserStatus before.ctx.request.subjectSub).exec before.world).1 =
        .ok result := by
  rw [record_raw,Step2AccountStatus.run_exec]
  rcases (before.ctx.connector.getUserStatus before.ctx.request.subjectSub).exec before.world with
    ⟨raised | result,world⟩ <;> simp

theorem step3_answered (before : Diagnosis σ) :
    (∃ verdict, (record Step3AuthEvents.run .authEvents before).raw = .ok verdict) ↔
      signInDecides ((before.ctx.connector.getAuthEvents before.ctx.request.subjectSub
        Step3AuthEvents.lookback).exec before.world).1 ≠ some .escalation := by
  rw [record_raw,Step3AuthEvents.run_exec]
  rcases (before.ctx.connector.getAuthEvents before.ctx.request.subjectSub Step3AuthEvents.lookback).exec
    before.world with ⟨raised | events,world⟩
  · simp [signInDecides]
  cases events with
  | nil => simp [signInDecides]
  | cons first rest =>
    simp only [signInDecides]
    cases Step3AuthEvents.latest first rest with
    | error raised => simp
    | ok event => cases event.success <;> simp

theorem step4_answered (before : Diagnosis σ) :
    (∃ verdict, (record Step4Authorization.run .authorization before).raw = .ok verdict) ↔
      ∃ conclusion, assessment (authorizationAnswers before.ctx.connector before.ctx.request before.world) =
        .ok conclusion := by
  rw [record_raw,← step4_assessment]
  cases (Step4Authorization.run.exec before).1 with
  | error raised => simp [bind,Except.bind]
  | ok verdict => simp [bind,Except.bind,pure,Except.pure]

theorem step4_elapsed {before : Diagnosis (Timed σ)}
    (answered : ∃ verdict, (record Step4Authorization.run .authorization before).raw = .ok verdict) :
    (record Step4Authorization.run .authorization before).elapsed =
      authorizationTime before.ctx.connector before.ctx.request before.world := by
  obtain ⟨verdict,raw⟩ := answered
  rw [record_raw] at raw
  rcases ran : Step4Authorization.run.exec before with ⟨raised | verdict,after⟩
  · rw [ran] at raw
    cases raw
  rw [StepRecord.elapsed,record_answered _ ran]
  dsimp only
  rw [Step4Authorization.run_exec] at ran
  rw [authorizationTime,auditWorld]
  dsimp only at ran ⊢
  rcases asked1 : (before.ctx.connector.getRequiredPermissions (before.ctx.request.systemId ++ ":default")).exec
    before.world with ⟨raised | required,world1⟩
  · rw [asked1] at ran
    cases ran
  simp only [asked1] at ran ⊢
  cases required with
  | nil =>
    obtain ⟨_,rfl⟩ := Prod.mk.inj ran
    rfl
  | cons first rest =>
    dsimp only at ran ⊢
    rcases asked2 : (before.ctx.connector.getEffectivePermissions before.ctx.request.subjectSub
      (before.ctx.request.systemId ++ ":default")).exec world1 with ⟨raised | effective,world2⟩
    · rw [asked2] at ran
      cases ran
    simp only [asked2,settle] at ran ⊢
    rcases assessed : Step4Authorization.assess (Clock.now world2).1.value (first::rest) effective with
      raised | ⟨missing,expired⟩
    · rw [assessed] at ran
      cases ran
    simp only [assessed] at ran
    rcases asked3 : (before.ctx.connector.getPermissionAuditEvents before.ctx.request.subjectSub
      Step4Authorization.auditLookback).exec (Clock.now world2).2 with ⟨raised | auditEvents,world3⟩
    · rw [asked3] at ran
      cases ran
    simp only [asked3] at ran ⊢
    rcases concluded : Step4Authorization.conclude missing expired auditEvents with raised | conclusion
    · rw [concluded] at ran
      cases ran
    · rw [concluded] at ran
      obtain ⟨_,rfl⟩ := Prod.mk.inj ran
      rfl

theorem executed_forall_cons (property : StepRecord σ → Prop) (stepFn : Step σ VerdictResult) (stepName : FunnelStep)
    (rest : List (Step σ VerdictResult × FunnelStep)) (before : Diagnosis σ) :
    (∀ entry ∈ executed ((stepFn,stepName)::rest) before, property entry) ↔
      property (record stepFn stepName before) ∧ ((record stepFn stepName before).verdict.status = .pass →
        ∀ entry ∈ executed rest (record stepFn stepName before).after, property entry) := by
  rw [executed_cons,List.forall_mem_cons]
  apply and_congr_right
  intro _
  split
  next passed => exact ⟨fun later _ => later,fun later => later passed⟩
  next stopped => exact ⟨fun _ passed => absurd passed stopped,fun _ => List.forall_mem_nil property⟩

theorem executed_stepModules (property : StepRecord σ → Prop) (start : Diagnosis σ) :
    (∀ entry ∈ executed stepModules start, property entry) ↔
      property (record Step1SystemAvailability.run .systemAvailability start) ∧
      ((record Step1SystemAvailability.run .systemAvailability start).verdict.status = .pass →
        property (record Step2AccountStatus.run .accountStatus (second start)) ∧
        ((record Step2AccountStatus.run .accountStatus (second start)).verdict.status = .pass →
          property (record Step3AuthEvents.run .authEvents (third start)) ∧
          ((record Step3AuthEvents.run .authEvents (third start)).verdict.status = .pass →
            property (record Step4Authorization.run .authorization (fourth start))))) := by
  rw [stepModules,executed_forall_cons,executed_forall_cons,executed_forall_cons,executed_forall_cons]
  refine and_congr_right fun _ => imp_congr_right fun _ => and_congr_right fun _ => imp_congr_right fun _ =>
    and_congr_right fun _ => imp_congr_right fun _ => ?_
  exact and_iff_left fun _ => List.forall_mem_nil property

theorem stepOutcome_none (verdict : VerdictResult) : stepOutcome verdict = none ↔ verdict.status = .pass := by
  rw [stepOutcome]
  split
  next passed => simp [passed]
  next stopped => simp [stopped]

theorem active_iff (a : Answers) : a.Account .active ↔ accountDecides a.userStatus = none := by
  rw [account_iff]
  rcases a.userStatus with raised | result
  · simp [accountDecides,Except.map]
  · cases same : result.status <;> simp [accountDecides,Except.map,same]

theorem signIn_answered (a : Answers) :
    signInDecides a.authEvents ≠ some .escalation ↔ a.SignInFails ∨ a.SignInClear := by
  obtain ⟨fails,clear,range⟩ := signIn_iff a
  rw [fails,clear]
  rcases range with none | escalates | fix
  · simp [none]
  · simp [escalates]
  · simp [fix]

/-- A step that overruns the limit is inconclusive, is the last of the run, and makes it
escalate. -/
def TimeoutClosed (start : Diagnosis (Timed σ)) : Prop :=
  ∃ result, run.exec start = (.ok result,final stepModules start) ∧
    ∀ entry ∈ executed stepModules start, start.ctx.perStepTimeout < entry.elapsed →
      entry.verdict.status = .inconclusive ∧ (executed stepModules start).getLast? = some entry ∧
        result.outcome = .escalation

theorem timeoutClosed_steps (start : Diagnosis (Timed σ)) :
    TimeoutClosed start ↔ ∀ entry ∈ executed stepModules start,
      (∃ verdict, entry.raw = .ok verdict) → entry.elapsed ≤ start.ctx.perStepTimeout := by
  obtain ⟨last,result,found,ran,outcome⟩ := run_last start
  constructor
  · intro closed
    obtain ⟨_,_,closed⟩ := closed
    have answered : ∀ entry ∈ executed stepModules start, ∀ verdict, entry.raw = .ok verdict →
        entry.verdict.status ≠ .inconclusive := by
      apply executed_forall (fun _ => True)
      · intro step member state _
        refine ⟨fun verdict raw => ?_,trivial⟩
        rcases stepped : step.1.exec state with ⟨raised | other,after⟩
        · rw [record_raised _ stepped] at raw
          cases raw
        · rw [record_answered _ stepped]
          exact step_answers_decide step member state other after stepped
      · trivial
    intro entry member answers
    obtain ⟨verdict,raw⟩ := answers
    by_contra late
    exact answered entry member verdict raw (closed entry member (not_le.mp late)).1
  · intro timely
    refine ⟨result,ran,fun entry member late => ?_⟩
    have failed : ∃ evaluatedAt, entry.verdict = stepError entry.step evaluatedAt := by
      have rule : ∀ entry ∈ executed stepModules start, ∀ raised, entry.raw = .error raised →
          ∃ evaluatedAt, entry.verdict = stepError entry.step evaluatedAt := by
        apply executed_forall (fun _ => True)
        · intro step _ state _
          refine ⟨fun raised raw => ?_,trivial⟩
          rw [record_step]
          exact record_closed raw
        · trivial
      cases raw : entry.raw with
      | error raised => exact rule entry member raised raw
      | ok verdict => exact absurd (timely entry member ⟨verdict,raw⟩) (not_le.mpr late)
    obtain ⟨evaluatedAt,verdict⟩ := failed
    have ends := executed_last member (by rw [verdict]; exact nofun)
    refine ⟨by rw [verdict]; rfl,ends,?_⟩
    obtain rfl := Option.some.inj (found.symm.trans ends)
    rw [outcome,verdict]
    rfl

theorem steps_passed (start : Diagnosis σ) :
    let a := answers start.ctx.connector start.ctx.request start.world
    ((record Step1SystemAvailability.run .systemAvailability start).verdict.status = .pass ↔ a.SystemsUp) ∧
    ((record Step2AccountStatus.run .accountStatus (second start)).verdict.status = .pass ↔ a.Account .active) ∧
    ((record Step3AuthEvents.run .authEvents (third start)).verdict.status = .pass ↔ a.SignInClear) := by
  intro a
  obtain ⟨first,account,signIn,_⟩ := step_decisions start
  rw [← stepOutcome_none,← stepOutcome_none,← stepOutcome_none,first,account,signIn]
  exact ⟨(systemsUp_iff a).symm,(active_iff a).symm,(signIn_iff a).2.1.symm⟩

theorem steps_answered (start : Diagnosis σ) :
    let a := answers start.ctx.connector start.ctx.request start.world
    ((∃ verdict, (record Step1SystemAvailability.run .systemAvailability start).raw = .ok verdict) ↔
      ∃ result, a.availability = .ok result) ∧
    ((∃ verdict, (record Step2AccountStatus.run .accountStatus (second start)).raw = .ok verdict) ↔
      ∃ result, a.userStatus = .ok result) ∧
    ((∃ verdict, (record Step3AuthEvents.run .authEvents (third start)).raw = .ok verdict) ↔
      a.SignInFails ∨ a.SignInClear) ∧
    ((∃ verdict, (record Step4Authorization.run .authorization (fourth start)).raw = .ok verdict) ↔
      ∃ conclusion, assessment a.authorization = .ok conclusion) := by
  intro a
  obtain ⟨world2,world3,_⟩ := step_worlds start
  have authorization := (step_decisions start).2.2.2
  refine ⟨step1_answered start,?_,?_,?_⟩
  · rw [step2_answered,(second_ctx start).1,(second_ctx start).2,world2]
    rfl
  · rw [step3_answered,(third_ctx start).1,(third_ctx start).2,world3,world2]
    exact signIn_answered a
  · rw [step4_answered,← authorization]

theorem steps_elapsed (start : Diagnosis (Timed σ)) :
    let times := answerTimes start.ctx.connector start.ctx.request start.world
    (record Step1SystemAvailability.run .systemAvailability start).elapsed = times.availability ∧
    (record Step2AccountStatus.run .accountStatus (second start)).elapsed = times.userStatus ∧
    (record Step3AuthEvents.run .authEvents (third start)).elapsed = times.authEvents ∧
    ((∃ verdict, (record Step4Authorization.run .authorization (fourth start)).raw = .ok verdict) →
      (record Step4Authorization.run .authorization (fourth start)).elapsed = times.authorization) := by
  intro times
  obtain ⟨world2,world3,world4⟩ := step_worlds start
  refine ⟨?_,?_,?_,fun answered => ?_⟩
  · rw [StepRecord.elapsed,record_before,(step1_outcome start).1]
    rfl
  · rw [StepRecord.elapsed,record_before,(step2_outcome _).1,(second_ctx start).1,(second_ctx start).2,world2]
    rfl
  · rw [StepRecord.elapsed,record_before,(step3_outcome _).1,(third_ctx start).1,(third_ctx start).2,world3,world2]
    rfl
  · rw [step4_elapsed answered,(fourth_ctx start).1,(fourth_ctx start).2,world4,world3,world2]
    rfl

/-- A run closes on every overrun exactly when no check that it reaches is answered late:
the limit itself stops nothing. -/
theorem timeoutClosed_iff (connector : ConnectorSPI σ) (duration : ConnectorCall → σ → Nat)
    (start : Diagnosis (Timed σ)) (timed : start.ctx.connector = connector.timed duration) :
    TimeoutClosed start ↔ AnswersInTime start.ctx.perStepTimeout
      (answers (connector.timed duration) start.ctx.request start.world)
      (answerTimes (connector.timed duration) start.ctx.request start.world) := by
  rw [timeoutClosed_steps start,← timed]
  obtain ⟨up,active,clear⟩ := steps_passed start
  obtain ⟨answered1,answered2,answered3,answered4⟩ := steps_answered start
  obtain ⟨elapsed1,elapsed2,elapsed3,elapsed4⟩ := steps_elapsed start
  rw [executed_stepModules]
  rw [up,active,clear,answered1,answered2,answered3,elapsed1,elapsed2,elapsed3]
  constructor
  · intro holds
    obtain ⟨first,rest⟩ := holds
    refine ⟨first,fun systems => (rest systems).1,fun systems account => ((rest systems).2 account).1,?_⟩
    intro systems account signIn conclusion
    have answered := answered4.mpr conclusion
    rw [← elapsed4 answered]
    exact ((rest systems).2 account).2 signIn answered
  · intro timely
    refine ⟨timely.availability,fun systems => ⟨timely.userStatus systems,fun account =>
      ⟨timely.authEvents systems account,fun signIn answered => ?_⟩⟩⟩
    rw [elapsed4 answered]
    exact timely.authorization systems account signIn (answered4.mp answered)

/-- A case at the system's desk in which every call takes the given time. -/
def slowCase (duration : Nat) : Diagnosis (Timed Unit) :=
  ⟨⟨(),0⟩,.fresh ⟨"c","alice","alice","openiam",.other,""⟩ ⟨"alice",[]⟩
    ((stillConnector some .up).timed fun _ _ => duration) "c" defaultPerStepTimeout⟩

theorem timeoutClosed_prompt : TimeoutClosed (slowCase 1000000) ↔ AnswersInTime defaultPerStepTimeout
    (answers ((stillConnector some .up).timed fun _ _ => 1000000) (slowCase 1000000).ctx.request ⟨(),0⟩)
    (answerTimes ((stillConnector some .up).timed fun _ _ => 1000000) (slowCase 1000000).ctx.request ⟨(),0⟩) :=
  timeoutClosed_iff (stillConnector some .up) (fun _ _ => 1000000) (slowCase 1000000) rfl

/-- Eleven seconds against a limit of ten: the late answer passes. -/
theorem late_answer_passes : ¬TimeoutClosed (slowCase 11000000) := by
  intro closed
  obtain ⟨_,_,closed⟩ := closed
  have late := closed (record Step1SystemAvailability.run .systemAvailability (slowCase 11000000)) List.mem_cons_self
    (by decide)
  have passed : (record Step1SystemAvailability.run .systemAvailability (slowCase 11000000)).verdict.status = .pass := rfl
  rw [passed] at late
  cases late.1

end DiagnosticOrchestrator

end AccessAgent
