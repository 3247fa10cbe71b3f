import AccessAgent.Funnel
import AccessAgent.MissingAccess

/-! The outcome of a run, stated over the answers of the connector at the worlds
the run reaches. -/

namespace AccessAgent
open Semantics

variable {σ : Type} [Clock σ]

def settle {α : Type} (outcome : Except Exn α × σ) : σ := (Clock.now outcome.2).2

structure AuthorizationAnswers where
  required : Except Exn (List RequiredPermission)
  effective : Except Exn (List EffectivePermission)
  now : Datetime
  auditEvents : Except Exn (List PermissionAuditEvent)

def authorizationAnswers (connector : ConnectorSPI σ) (request : DiagnosticRequest) (world : σ) :
    AuthorizationAnswers :=
  let resource := request.systemId ++ ":default"
  let required := (connector.getRequiredPermissions resource).exec world
  let effective := (connector.getEffectivePermissions request.subjectSub resource).exec required.2
  let audit := (connector.getPermissionAuditEvents request.subjectSub
    Step4Authorization.auditLookback).exec (settle effective)
  ⟨required.1,effective.1,(Clock.now effective.2).1.value,audit.1⟩

/-- The answers that a run may see, each at the world in which the run asks for it. -/
structure Answers where
  availability : Except Exn AvailabilityResult
  userStatus : Except Exn UserStatusResult
  authEvents : Except Exn (List AuthEvent)
  authorization : AuthorizationAnswers

def answers (connector : ConnectorSPI σ) (request : DiagnosticRequest) (world : σ) : Answers :=
  let checked := (connector.checkAvailability request.subjectSub).exec world
  let status := (connector.getUserStatus request.subjectSub).exec (settle checked)
  let events := (connector.getAuthEvents request.subjectSub Step3AuthEvents.lookback).exec (settle status)
  ⟨checked.1,status.1,events.1,authorizationAnswers connector request (settle events)⟩

/-- The fourth check completes and finds a required name that is not held, and no
name it finds missing was revoked. -/
def AuthorizationAnswers.Gap (a : AuthorizationAnswers) : Prop :=
  ∃ required effective auditEvents, a.required = .ok required ∧ a.effective = .ok effective ∧
    a.auditEvents = .ok auditEvents ∧
    (∃ missing expired conclusion, Step4Authorization.assess a.now required effective = .ok (missing,expired) ∧
      Step4Authorization.conclude missing expired auditEvents = .ok conclusion) ∧
    (∃ name, Step4Authorization.Missing a.now required effective name) ∧
    ∀ name, Step4Authorization.Missing a.now required effective name →
      ¬Step4Authorization.Revoked auditEvents name

namespace Answers

def SystemsUp (a : Answers) : Prop := ∃ result, a.availability = .ok result ∧ result.status = .up

def Account (a : Answers) (status : AccountStatus) : Prop :=
  ∃ result, a.userStatus = .ok result ∧ result.status = status

/-- The newest event, the first one among equals, is the given one. -/
def Newest (a : Answers) (event : AuthEvent) : Prop :=
  ∃ events, a.authEvents = .ok events ∧ Datetime.order.First AuthEvent.timestamp events event

def SignInFails (a : Answers) : Prop := ∃ event, a.Newest event ∧ event.success = false

def SignInClear (a : Answers) : Prop :=
  a.authEvents = .ok [] ∨ ∃ event, a.Newest event ∧ event.success = true

end Answers

namespace DiagnosticOrchestrator

def stepOutcome (verdict : VerdictResult) : Option Outcome :=
  if verdict.status = .pass then none else some (resolveOutcome verdict)

def outcomeFrom : List (Step σ VerdictResult × FunnelStep) → Diagnosis σ → Outcome
  | [],_ => .escalation
  | (stepFn,stepName)::rest,before =>
    (stepOutcome (record stepFn stepName before).verdict).getD
      (outcomeFrom rest (record stepFn stepName before).after)

theorem resolve_last (steps : List (Step σ VerdictResult × FunnelStep)) (before : Diagnosis σ)
    (last : StepRecord σ) (found : (executed steps before).getLast? = some last) :
    resolveOutcome last.verdict = outcomeFrom steps before := by
  induction steps generalizing before with
  | nil => simp [executed] at found
  | cons step rest ih =>
    obtain ⟨stepFn,stepName⟩ := step
    rw [executed_cons,List.getLast?_cons] at found
    rw [outcomeFrom,stepOutcome]
    split at found
    next passed =>
      rw [if_pos passed]
      cases later : (executed rest (record stepFn stepName before).after).getLast? with
      | none =>
        have empty : executed rest (record stepFn stepName before).after = [] :=
          List.getLast?_eq_none_iff.mp later
        have done : rest = [] := by
          cases rest with
          | nil => rfl
          | cons step rest => exact absurd empty (executed_ne_nil step rest _)
        rw [later] at found
        rw [← Option.some.inj found,done,resolveOutcome]
        simp [passed,outcomeFrom]
      | some entry =>
        rw [later] at found
        obtain rfl := Option.some.inj found
        exact ih _ later
    next stopped =>
      rw [if_neg stopped]
      rw [← Option.some.inj found]
      rfl

def availabilityDecides : Except Exn AvailabilityResult → Option Outcome
  | .ok result => if result.status = .up then none else some .escalation
  | .error _ => some .escalation

def accountDecides : Except Exn UserStatusResult → Option Outcome
  | .ok result => match result.status with
    | .active => none
    | .locked => some .selfServiceFix
    | .passwordExpired => some .selfServiceFix
    | .disabled => some .escalation
    | .deprovisioned => some .accessGap
    | .notFound => some .accessGap
  | .error _ => some .escalation

def signInDecides : Except Exn (List AuthEvent) → Option Outcome
  | .ok [] => none
  | .ok (first::rest) => match Step3AuthEvents.latest first rest with
    | .ok newest => if newest.success then none else some .selfServiceFix
    | .error _ => some .escalation
  | .error _ => some .escalation

theorem step1_outcome (before : Diagnosis σ) :
    (record Step1SystemAvailability.run .systemAvailability before).after.world =
      settle ((before.ctx.connector.checkAvailability before.ctx.request.subjectSub).exec before.world) ∧
    stepOutcome (record Step1SystemAvailability.run .systemAvailability before).verdict =
      availabilityDecides
        ((before.ctx.connector.checkAvailability before.ctx.request.subjectSub).exec before.world).1 := by
  have exec := Step1SystemAvailability.run_exec before
  rcases ran : (before.ctx.connector.checkAvailability before.ctx.request.subjectSub).exec before.world
    with ⟨raised | result,world⟩
  · rw [ran] at exec
    rw [record_raised _ exec]
    exact ⟨rfl,rfl⟩
  · rw [ran] at exec
    rw [record_answered _ exec]
    refine ⟨rfl,?_⟩
    by_cases up : result.status = .up <;>
      simp [availabilityDecides,stepOutcome,resolveOutcome,resolveFailOutcome,up]

theorem step2_outcome (before : Diagnosis σ) :
    (record Step2AccountStatus.run .accountStatus before).after.world =
      settle ((before.ctx.connector.getUserStatus before.ctx.request.subjectSub).exec before.world) ∧
    stepOutcome (record Step2AccountStatus.run .accountStatus before).verdict =
      accountDecides
        ((before.ctx.connector.getUserStatus before.ctx.request.subjectSub).exec before.world).1 := by
  have exec := Step2AccountStatus.run_exec before
  rcases ran : (before.ctx.connector.getUserStatus before.ctx.request.subjectSub).exec before.world
    with ⟨raised | result,world⟩
  · rw [ran] at exec
    rw [record_raised _ exec]
    exact ⟨rfl,rfl⟩
  · rw [ran] at exec
    rw [record_answered _ exec]
    refine ⟨rfl,?_⟩
    simp only [accountDecides]
    cases result.status <;> rfl

theorem step3_outcome (before : Diagnosis σ) :
    (record Step3AuthEvents.run .authEvents before).after.world = settle
      ((before.ctx.connector.getAuthEvents before.ctx.request.subjectSub Step3AuthEvents.lookback).exec
        before.world) ∧
    stepOutcome (record Step3AuthEvents.run .authEvents before).verdict =
      signInDecides ((before.ctx.connector.getAuthEvents before.ctx.request.subjectSub
        Step3AuthEvents.lookback).exec before.world).1 := by
  have exec := Step3AuthEvents.run_exec before
  rcases ran : (before.ctx.connector.getAuthEvents before.ctx.request.subjectSub
    Step3AuthEvents.lookback).exec before.world with ⟨raised | events,world⟩
  · rw [ran] at exec
    rw [record_raised _ exec]
    exact ⟨rfl,rfl⟩
  rw [ran] at exec
  cases events with
  | nil =>
    rw [record_answered _ exec]
    exact ⟨rfl,rfl⟩
  | cons first rest =>
    simp only [signInDecides] at exec ⊢
    cases newest : Step3AuthEvents.latest first rest with
    | error raised =>
      rw [newest] at exec
      rw [record_raised _ exec]
      exact ⟨rfl,rfl⟩
    | ok event =>
      rw [newest] at exec
      rw [record_answered _ exec]
      refine ⟨rfl,?_⟩
      cases success : event.success <;> simp [stepOutcome,resolveOutcome,resolveFailOutcome,success]

/-- The status and cause that the answers lead the fourth check to. -/
def assessment (a : AuthorizationAnswers) : Except Exn (VerdictStatus × Option String) := do
  let required ← a.required
  if required.isEmpty then return (.pass,none)
  else
    let effective ← a.effective
    let (missing,expired) ← Step4Authorization.assess a.now required effective
    let auditEvents ← a.auditEvents
    let conclusion ← Step4Authorization.conclude missing expired auditEvents
    return (conclusion.status,conclusion.causeCode)

theorem step4_assessment (before : Diagnosis σ) :
    (do
      let verdict ← (Step4Authorization.run.exec before).1
      return (verdict.status,verdict.causeCode) : Except Exn (VerdictStatus × Option String)) =
      assessment (authorizationAnswers before.ctx.connector before.ctx.request before.world) := by
  rw [Step4Authorization.run_exec,assessment,authorizationAnswers]
  dsimp only
  rcases (before.ctx.connector.getRequiredPermissions (before.ctx.request.systemId ++ ":default")).exec
    before.world with ⟨raised | required,world⟩
  · rfl
  cases required with
  | nil => rfl
  | cons first rest =>
    dsimp only
    rcases (before.ctx.connector.getEffectivePermissions before.ctx.request.subjectSub
      (before.ctx.request.systemId ++ ":default")).exec world with ⟨raised | effective,world⟩
    · rfl
    dsimp only [settle,bind,Except.bind,List.isEmpty_cons]
    rcases Step4Authorization.assess (Clock.now world).1.value (first::rest) effective with
      raised | ⟨missing,expired⟩
    · rfl
    dsimp only
    rcases (before.ctx.connector.getPermissionAuditEvents before.ctx.request.subjectSub
      Step4Authorization.auditLookback).exec (Clock.now world).2 with ⟨raised | auditEvents,world⟩
    · rfl
    dsimp only
    rcases Step4Authorization.conclude missing expired auditEvents with raised | conclusion
    · rfl
    · rfl

theorem assessment_gap (a : AuthorizationAnswers) :
    match assessment a with
    | .error _ => ¬a.Gap
    | .ok (.pass,_) => ¬a.Gap
    | .ok (.fail,cause) => ∃ code, cause = some code ∧
        (code = "access_revoked" ∨ code = "access_expired" ∨ code = "missing_role") ∧
        (a.Gap ↔ code ≠ "access_revoked")
    | .ok (.inconclusive,_) => False := by
  obtain ⟨required,effective,now,audit⟩ := a
  rcases required with raised | required
  · simp [assessment,AuthorizationAnswers.Gap,bind,Except.bind]
  cases required with
  | nil => simp [assessment,AuthorizationAnswers.Gap,Step4Authorization.Missing,bind,Except.bind,pure,Except.pure]
  | cons first rest =>
    rcases effective with raised | effective
    · simp [assessment,AuthorizationAnswers.Gap,bind,Except.bind]
    rcases assessed : Step4Authorization.assess now (first::rest) effective with raised | ⟨missing,expired⟩
    · simp [assessment,AuthorizationAnswers.Gap,bind,Except.bind,assessed]
    rcases audit with raised | audit
    · simp [assessment,AuthorizationAnswers.Gap,bind,Except.bind,assessed]
    rcases concluded : Step4Authorization.conclude missing expired audit with raised | conclusion
    · simp [assessment,AuthorizationAnswers.Gap,bind,Except.bind,assessed,concluded]
    have member := Step4Authorization.assess_success assessed
    have gap : (⟨.ok (first::rest),.ok effective,now,.ok audit⟩ : AuthorizationAnswers).Gap ↔
        missing ≠ [] ∧ ∀ name ∈ missing, ¬Step4Authorization.Revoked audit name := by
      constructor
      · rintro ⟨_,_,_,⟨⟩,⟨⟩,⟨⟩,_,⟨name,absent⟩,clear⟩
        have inside := (member name).mpr absent
        exact ⟨List.ne_nil_of_mem inside,fun name found => clear name ((member name).mp found)⟩
      · rintro ⟨nonempty,clear⟩
        obtain ⟨name,inside⟩ := List.exists_mem_of_ne_nil missing nonempty
        exact ⟨_,_,_,rfl,rfl,rfl,⟨_,_,_,assessed,concluded⟩,⟨name,(member name).mp inside⟩,
          fun name absent => clear name ((member name).mpr absent)⟩
    have value : assessment ⟨.ok (first::rest),.ok effective,now,.ok audit⟩ =
        .ok (conclusion.status,conclusion.causeCode) := by
      simp [assessment,bind,Except.bind,pure,Except.pure,assessed,concluded]
    rw [value,gap]
    rcases Step4Authorization.conclude_success concluded with ⟨none,status⟩ | ⟨found,status,code,cause,known,revoked⟩
    · rw [status]
      exact fun nonempty => nonempty.1 none
    · rw [status]
      refine ⟨code,cause,known,?_⟩
      refine Iff.trans ?_ (not_congr revoked).symm
      constructor
      · intro clear event
        obtain ⟨name,member,event⟩ := event
        exact clear.2 name member event
      · intro clear
        exact ⟨found,fun name member event => clear ⟨name,member,event⟩⟩

theorem step4_outcome (before : Diagnosis σ) :
    let a := authorizationAnswers before.ctx.connector before.ctx.request before.world
    let decided := stepOutcome (record Step4Authorization.run .authorization before).verdict
    (decided = some .accessGap ↔ a.Gap) ∧
      (decided = none ∨ decided = some .escalation ∨ decided = some .accessGap) := by
  intro a decided
  have value := step4_assessment before
  have gap := assessment_gap a
  rcases ran : Step4Authorization.run.exec before with ⟨raised | verdict,after⟩
  · rw [ran] at value
    rw [← value] at gap
    have escalates : decided = some .escalation := by
      change stepOutcome (record Step4Authorization.run .authorization before).verdict = _
      rw [record_raised _ ran]
      rfl
    simp only [escalates]
    exact ⟨⟨nofun,fun found => absurd found gap⟩,by simp⟩
  · have named := step4_law.named before verdict after ran
    have same : decided = stepOutcome verdict := by
      change stepOutcome (record Step4Authorization.run .authorization before).verdict = _
      rw [record_answered _ ran]
    rw [ran] at value
    change Except.ok (verdict.status,verdict.causeCode) = assessment a at value
    rw [← value] at gap
    rw [same,stepOutcome,resolveOutcome,resolveFailOutcome,named]
    cases status : verdict.status with
    | pass =>
      rw [status] at gap
      simpa using gap
    | inconclusive =>
      rw [status] at gap
      exact gap.elim
    | fail =>
      rw [status] at gap
      obtain ⟨code,cause,known,revoked⟩ := gap
      rw [revoked,cause]
      rcases known with rfl | rfl | rfl <;> decide

def auditWorld (connector : ConnectorSPI σ) (request : DiagnosticRequest) (world : σ) : σ :=
  let resource := request.systemId ++ ":default"
  settle ((connector.getEffectivePermissions request.subjectSub resource).exec
    ((connector.getRequiredPermissions resource).exec world).2)

theorem step4_world (before : Diagnosis σ)
    (gap : (authorizationAnswers before.ctx.connector before.ctx.request before.world).Gap) :
    (record Step4Authorization.run .authorization before).after.world = settle
      ((before.ctx.connector.getPermissionAuditEvents before.ctx.request.subjectSub
        Step4Authorization.auditLookback).exec
        (auditWorld before.ctx.connector before.ctx.request before.world)) := by
  obtain ⟨required,effective,auditEvents,answered1,answered2,answered3,computes,missing,_⟩ := gap
  obtain ⟨names,expired,conclusion,assessed,concluded⟩ := computes
  obtain ⟨name,⟨permission,member,_⟩,_⟩ := missing
  have exec := Step4Authorization.run_exec before
  simp only [authorizationAnswers] at answered1 answered2 answered3 assessed
  rw [auditWorld]
  rcases ran1 : (before.ctx.connector.getRequiredPermissions (before.ctx.request.systemId ++ ":default")).exec
    before.world with ⟨answer1,world1⟩
  rw [ran1] at answered1 answered2 answered3 assessed
  obtain rfl : answer1 = .ok required := answered1
  rcases ran2 : (before.ctx.connector.getEffectivePermissions before.ctx.request.subjectSub
    (before.ctx.request.systemId ++ ":default")).exec world1 with ⟨answer2,world2⟩
  simp only [ran2] at answered2 answered3 assessed
  subst answered2
  rcases ran3 : (before.ctx.connector.getPermissionAuditEvents before.ctx.request.subjectSub
    Step4Authorization.auditLookback).exec (Clock.now world2).2 with ⟨answer3,world3⟩
  simp only [settle,ran3] at answered3
  subst answered3
  cases required with
  | nil => simp at member
  | cons first rest =>
    simp only [ran1,ran2,assessed,ran3,concluded] at exec
    rw [record_answered _ exec]
    simp only [settle,ran3]

def second (start : Diagnosis σ) : Diagnosis σ :=
  (record Step1SystemAvailability.run .systemAvailability start).after

def third (start : Diagnosis σ) : Diagnosis σ :=
  (record Step2AccountStatus.run .accountStatus (second start)).after

def fourth (start : Diagnosis σ) : Diagnosis σ := (record Step3AuthEvents.run .authEvents (third start)).after

theorem second_ctx (start : Diagnosis σ) : (second start).ctx.connector = start.ctx.connector ∧
    (second start).ctx.request = start.ctx.request :=
  ⟨record_connector step1_law start,record_request step1_law start⟩

theorem third_ctx (start : Diagnosis σ) : (third start).ctx.connector = start.ctx.connector ∧
    (third start).ctx.request = start.ctx.request :=
  ⟨(record_connector step2_law _).trans (second_ctx start).1,(record_request step2_law _).trans (second_ctx start).2⟩

theorem fourth_ctx (start : Diagnosis σ) : (fourth start).ctx.connector = start.ctx.connector ∧
    (fourth start).ctx.request = start.ctx.request :=
  ⟨(record_connector step3_law _).trans (third_ctx start).1,(record_request step3_law _).trans (third_ctx start).2⟩

theorem step_worlds (start : Diagnosis σ) :
    let connector := start.ctx.connector
    let request := start.ctx.request
    (second start).world = settle ((connector.checkAvailability request.subjectSub).exec start.world) ∧
    (third start).world = settle ((connector.getUserStatus request.subjectSub).exec (second start).world) ∧
    (fourth start).world = settle ((connector.getAuthEvents request.subjectSub Step3AuthEvents.lookback).exec
      (third start).world) := by
  have world2 := (step1_outcome start).1
  have world3 := (step2_outcome (second start)).1
  have world4 := (step3_outcome (third start)).1
  rw [(second_ctx start).1,(second_ctx start).2] at world3
  rw [(third_ctx start).1,(third_ctx start).2] at world4
  exact ⟨world2,world3,world4⟩

theorem step_decisions (start : Diagnosis σ) :
    let a := answers start.ctx.connector start.ctx.request start.world
    stepOutcome (record Step1SystemAvailability.run .systemAvailability start).verdict =
      availabilityDecides a.availability ∧
    stepOutcome (record Step2AccountStatus.run .accountStatus (second start)).verdict =
      accountDecides a.userStatus ∧
    stepOutcome (record Step3AuthEvents.run .authEvents (third start)).verdict = signInDecides a.authEvents ∧
    a.authorization = authorizationAnswers (fourth start).ctx.connector (fourth start).ctx.request
      (fourth start).world := by
  obtain ⟨world2,world3,world4⟩ := step_worlds start
  have account := (step2_outcome (second start)).2
  have signIn := (step3_outcome (third start)).2
  rw [(second_ctx start).1,(second_ctx start).2,world2] at account
  rw [(third_ctx start).1,(third_ctx start).2,world3,world2] at signIn
  refine ⟨(step1_outcome start).2,account,signIn,?_⟩
  rw [(fourth_ctx start).1,(fourth_ctx start).2,world4,world3,world2]
  rfl

theorem outcomeFrom_answers (start : Diagnosis σ) :
    let a := answers start.ctx.connector start.ctx.request start.world
    ∃ decided, (decided = some .accessGap ↔ a.authorization.Gap) ∧
      (decided = none ∨ decided = some .escalation ∨ decided = some .accessGap) ∧
      outcomeFrom stepModules start = (availabilityDecides a.availability).getD
        ((accountDecides a.userStatus).getD ((signInDecides a.authEvents).getD (decided.getD .escalation))) := by
  intro a
  obtain ⟨first,account,signIn,authorization⟩ := step_decisions start
  obtain ⟨gap,range⟩ := step4_outcome (fourth start)
  rw [← authorization] at gap
  refine ⟨_,gap,range,?_⟩
  simp only [stepModules,outcomeFrom]
  rw [first]
  change (availabilityDecides a.availability).getD ((stepOutcome (record Step2AccountStatus.run .accountStatus
    (second start)).verdict).getD ((stepOutcome (record Step3AuthEvents.run .authEvents
      (third start)).verdict).getD _)) = _
  rw [account,signIn]
  rfl

theorem last_decides {stepFn : Step σ VerdictResult} {stepName : FunnelStep} {before : Diagnosis σ}
    (rest : List (Step σ VerdictResult × FunnelStep)) {outcome : Outcome}
    (decided : stepOutcome (record stepFn stepName before).verdict = some outcome) :
    (executed ((stepFn,stepName)::rest) before).getLast? = some (record stepFn stepName before) := by
  have stopped : (record stepFn stepName before).verdict.status ≠ .pass := by
    intro passed
    simp [stepOutcome,passed] at decided
  rw [executed_cons,if_neg stopped]
  rfl

theorem last_continues {stepFn : Step σ VerdictResult} {stepName : FunnelStep} {before : Diagnosis σ}
    (next : Step σ VerdictResult × FunnelStep) (rest : List (Step σ VerdictResult × FunnelStep))
    (undecided : stepOutcome (record stepFn stepName before).verdict = none) :
    (executed ((stepFn,stepName)::next::rest) before).getLast? =
      (executed (next::rest) (record stepFn stepName before).after).getLast? := by
  have passed : (record stepFn stepName before).verdict.status = .pass := by
    by_contra stopped
    simp [stepOutcome,stopped] at undecided
  rw [executed_cons,if_pos passed,List.getLast?_cons]
  have nonempty := executed_ne_nil next rest (record stepFn stepName before).after
  rw [List.getLast?_eq_some_getLast nonempty]
  rfl

/-- The last executed step is the first one whose answers decide, or the fourth. -/
theorem deciding_step (start : Diagnosis σ) :
    let a := answers start.ctx.connector start.ctx.request start.world
    let last := (executed stepModules start).getLast?
    (availabilityDecides a.availability ≠ none ∧
      last = some (record Step1SystemAvailability.run .systemAvailability start)) ∨
    (availabilityDecides a.availability = none ∧ accountDecides a.userStatus ≠ none ∧
      last = some (record Step2AccountStatus.run .accountStatus (second start))) ∨
    (availabilityDecides a.availability = none ∧ accountDecides a.userStatus = none ∧
      signInDecides a.authEvents ≠ none ∧
      last = some (record Step3AuthEvents.run .authEvents (third start))) ∨
    (availabilityDecides a.availability = none ∧ accountDecides a.userStatus = none ∧
      signInDecides a.authEvents = none ∧
      last = some (record Step4Authorization.run .authorization (fourth start))) := by
  intro a last
  obtain ⟨first,account,signIn,_⟩ := step_decisions start
  rcases up : availabilityDecides a.availability with _ | outcome
  · have reached2 : last = _ := last_continues _ _ (first.trans up)
    rcases active : accountDecides a.userStatus with _ | outcome
    · have reached3 := reached2.trans (last_continues _ _ (account.trans active))
      rcases clear : signInDecides a.authEvents with _ | outcome
      · have reached4 := reached3.trans (last_continues _ _ (signIn.trans clear))
        refine Or.inr (Or.inr (Or.inr ⟨rfl,rfl,rfl,reached4.trans ?_⟩))
        rw [executed_cons]
        split <;> rfl
      · exact Or.inr (Or.inr (Or.inl ⟨rfl,rfl,nofun,reached3.trans (last_decides _ (signIn.trans clear))⟩))
    · exact Or.inr (Or.inl ⟨rfl,nofun,reached2.trans (last_decides _ (account.trans active))⟩)
  · exact Or.inl ⟨nofun,last_decides _ (first.trans up)⟩

theorem systemsUp_iff (a : Answers) : a.SystemsUp ↔ availabilityDecides a.availability = none := by
  rw [Answers.SystemsUp]
  rcases a.availability with raised | result
  · simp [availabilityDecides]
  · simp [availabilityDecides]

theorem account_iff (a : Answers) (status : AccountStatus) :
    a.Account status ↔ a.userStatus.map UserStatusResult.status = .ok status := by
  rw [Answers.Account]
  rcases a.userStatus with raised | result
  · simp [Except.map]
  · simp [Except.map]

theorem signIn_iff (a : Answers) :
    (a.SignInFails ↔ signInDecides a.authEvents = some .selfServiceFix) ∧
      (a.SignInClear ↔ signInDecides a.authEvents = none) ∧
      (signInDecides a.authEvents = none ∨ signInDecides a.authEvents = some .escalation ∨
        signInDecides a.authEvents = some .selfServiceFix) := by
  rw [Answers.SignInFails,Answers.SignInClear]
  simp only [Answers.Newest]
  rcases a.authEvents with raised | events
  · simp [signInDecides]
  cases events with
  | nil =>
    have none : ∀ event, ¬Datetime.order.First AuthEvent.timestamp [] event :=
      fun event first => nomatch first.member
    simp [signInDecides,none]
  | cons first rest =>
    have scanned := Datetime.order.scan_ok AuthEvent.timestamp first rest
    simp only [Except.ok.injEq,exists_eq_left',← scanned,signInDecides,Step3AuthEvents.latest]
    cases newest : Datetime.order.scan AuthEvent.timestamp first rest with
    | error raised => simp
    | ok event => cases success : event.success <;> simp [success]

theorem availability_range (answer : Except Exn AvailabilityResult) :
    availabilityDecides answer = none ∨ availabilityDecides answer = some .escalation := by
  rcases answer with raised | result
  · exact Or.inr rfl
  · by_cases up : result.status = .up <;> simp [availabilityDecides,up]

theorem decides_outcome (a : Answers) (decided : Option Outcome)
    (gap : decided = some .accessGap ↔ a.authorization.Gap)
    (range : decided = none ∨ decided = some .escalation ∨ decided = some .accessGap) {outcome : Outcome}
    (value : outcome = (availabilityDecides a.availability).getD
      ((accountDecides a.userStatus).getD ((signInDecides a.authEvents).getD (decided.getD .escalation)))) :
    (outcome = .selfServiceFix ↔ a.SystemsUp ∧
      (a.Account .locked ∨ a.Account .passwordExpired ∨ a.Account .active ∧ a.SignInFails)) ∧
    (outcome = .accessGap ↔ a.SystemsUp ∧
      (a.Account .deprovisioned ∨ a.Account .notFound ∨
        a.Account .active ∧ a.SignInClear ∧ a.authorization.Gap)) ∧
    outcome ≠ .remediationPending := by
  obtain ⟨fails,clear,signIn⟩ := signIn_iff a
  rw [systemsUp_iff,fails,clear,← gap]
  simp only [account_iff]
  rcases availability_range a.availability with up | down
  · rw [up] at value ⊢
    rcases status : a.userStatus with raised | result
    · simp [value,status,accountDecides,Except.map]
    · cases same : result.status with
      | active =>
        have account : accountDecides a.userStatus = none := by simp [status,accountDecides,same]
        rw [account] at value
        rcases signIn with none | escalates | fix
        · rw [none] at value ⊢
          rcases range with rfl | rfl | rfl <;> simp [value,Except.map,same]
        · rw [escalates] at value ⊢
          simp [value,Except.map,same]
        · rw [fix] at value ⊢
          simp [value,Except.map,same]
      | _ => simp [value,status,accountDecides,Except.map,same]
  · simp [value,down]

theorem run_decides (start : Diagnosis σ) (fresh : start.ctx.verdicts = []) :
    let a := answers start.ctx.connector start.ctx.request start.world
    ∃ last, (executed stepModules start).getLast? = some last ∧
      run.exec start = (.ok (resultOf start last),final stepModules start) ∧
      ((resultOf start last).outcome = .selfServiceFix ↔ a.SystemsUp ∧
        (a.Account .locked ∨ a.Account .passwordExpired ∨ a.Account .active ∧ a.SignInFails)) ∧
      ((resultOf start last).outcome = .accessGap ↔ a.SystemsUp ∧
        (a.Account .deprovisioned ∨ a.Account .notFound ∨
          a.Account .active ∧ a.SignInClear ∧ a.authorization.Gap)) ∧
      (resultOf start last).outcome ≠ .remediationPending := by
  intro a
  obtain ⟨last,found,ran⟩ := run_exec start fresh
  obtain ⟨decided,gap,range,value⟩ := outcomeFrom_answers start
  have outcome := (resolve_last _ _ last found).trans value
  exact ⟨last,found,ran,decides_outcome a decided gap range outcome⟩

/-- The outcome of a run is decided by the first answer that stops it. A gap needs an
account that is gone, or a clear sign-in and a missing name none of which was revoked. -/
theorem run_outcome (connector : ConnectorSPI σ) (world : σ) (request : DiagnosticRequest)
    (principal : Principal) (correlationId : String) (perStepTimeout : Timedelta) :
    let a := answers connector request world
    ∃ result after, run.exec ⟨world,.fresh request principal connector correlationId perStepTimeout⟩ =
        (.ok result,after) ∧
      (result.outcome = .selfServiceFix ↔ a.SystemsUp ∧
        (a.Account .locked ∨ a.Account .passwordExpired ∨ a.Account .active ∧ a.SignInFails)) ∧
      (result.outcome = .accessGap ↔ a.SystemsUp ∧
        (a.Account .deprovisioned ∨ a.Account .notFound ∨
          a.Account .active ∧ a.SignInClear ∧ a.authorization.Gap)) ∧
      (result.outcome = .selfServiceFix ∨ result.outcome = .accessGap ∨ result.outcome = .escalation) ∧
      result.outcome ≠ .remediationPending ∧
      (result.escalated = true ↔ result.outcome = .escalation) := by
  intro a
  let start : Diagnosis σ := ⟨world,.fresh request principal connector correlationId perStepTimeout⟩
  obtain ⟨last,_,ran,fix,gap,never⟩ := run_decides start rfl
  refine ⟨resultOf start last,_,ran,fix,gap,?_,never,decide_eq_true_iff⟩
  revert never
  cases (resultOf start last).outcome <;> simp

end DiagnosticOrchestrator

end AccessAgent
