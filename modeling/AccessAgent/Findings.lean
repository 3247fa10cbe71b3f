import AccessAgent.FunnelOutcome
import AccessAgent.AccessOutcome

/-! What the checks of a run find, apart from the texts and times of their verdicts: whether each
of them passed, and the cause where it did not. A run finds what its answers say, check after check,
up to the first that does not pass. -/

namespace AccessAgent
open Semantics

/-- What a verdict says was found. -/
structure Finding where
  step : FunnelStep
  status : VerdictStatus
  causeCode : Option String
deriving DecidableEq

def VerdictResult.finding (verdict : VerdictResult) : Finding := ⟨verdict.step,verdict.status,verdict.causeCode⟩

def DiagnosticRunResult.findings (result : DiagnosticRunResult) : List Finding :=
  result.stepVerdicts.map VerdictResult.finding

/-- A check fails where it has a cause to report. -/
def statusOf (cause : Option String) : VerdictStatus := if cause = none then .pass else .fail

def findingOf (step : FunnelStep) (cause : Option String) : Finding := ⟨step,statusOf cause,cause⟩

/-- The checks in their order, up to the first that fails. -/
def findingsOf : List (FunnelStep × Option String) → List Finding
  | [] => []
  | (step,cause)::rest => findingOf step cause::if cause = none then findingsOf rest else []

def availabilityCause (status : AvailabilityStatus) : Option String :=
  if status = .up then none else some ("system_" ++ status.value)

def accountCause (status : AccountStatus) : Option String :=
  if status = .active then none else some status.value

/-- The cause in the newest sign-in, the first of equal ones, or none where it succeeded or there is
no sign-in. -/
def SignInCause (events : List AuthEvent) : Option String → Prop
  | none => events = [] ∨ ∃ event, Datetime.order.First AuthEvent.timestamp events event ∧ event.success = true
  | some cause => ∃ event, Datetime.order.First AuthEvent.timestamp events event ∧ event.success = false ∧
      Step3AuthEvents.failureCause event = cause

namespace DiagnosticOrchestrator
variable {σ : Type} [Clock σ]

theorem step1_finding (before : Diagnosis σ) {result : AvailabilityResult}
    (answered : (before.ctx.connector.checkAvailability before.ctx.request.subjectSub).answer before.world = .ok result) :
    (record Step1SystemAvailability.run .systemAvailability before).verdict.finding =
      findingOf .systemAvailability (availabilityCause result.status) := by
  have exec := Step1SystemAvailability.run_exec before
  rcases ran : (before.ctx.connector.checkAvailability before.ctx.request.subjectSub).exec before.world with ⟨answer,world⟩
  obtain rfl : answer = .ok result := (congrArg Prod.fst ran).symm.trans answered
  rw [ran] at exec
  rw [record_answered _ exec]
  by_cases up : result.status = .up <;> simp [VerdictResult.finding,findingOf,statusOf,availabilityCause,up]

theorem step2_finding (before : Diagnosis σ) {result : UserStatusResult}
    (answered : (before.ctx.connector.getUserStatus before.ctx.request.subjectSub).answer before.world = .ok result) :
    (record Step2AccountStatus.run .accountStatus before).verdict.finding =
      findingOf .accountStatus (accountCause result.status) := by
  have exec := Step2AccountStatus.run_exec before
  rcases ran : (before.ctx.connector.getUserStatus before.ctx.request.subjectSub).exec before.world with ⟨answer,world⟩
  obtain rfl : answer = .ok result := (congrArg Prod.fst ran).symm.trans answered
  rw [ran] at exec
  rw [record_answered _ exec]
  by_cases active : result.status = .active <;> simp [VerdictResult.finding,findingOf,statusOf,accountCause,active]

theorem step3_finding (before : Diagnosis σ) {events : List AuthEvent} {cause : Option String}
    (answered : (before.ctx.connector.getAuthEvents before.ctx.request.subjectSub Step3AuthEvents.lookback).answer
      before.world = .ok events) (found : SignInCause events cause) :
    (record Step3AuthEvents.run .authEvents before).verdict.finding = findingOf .authEvents cause := by
  have exec := Step3AuthEvents.run_exec before
  rcases ran : (before.ctx.connector.getAuthEvents before.ctx.request.subjectSub Step3AuthEvents.lookback).exec before.world
    with ⟨answer,world⟩
  obtain rfl : answer = .ok events := (congrArg Prod.fst ran).symm.trans answered
  rw [ran] at exec
  cases events with
  | nil =>
    rw [record_answered _ exec]
    cases cause with
    | none => rfl
    | some cause =>
      obtain ⟨event,first,_⟩ := found
      cases first.member
  | cons earliest rest =>
    have scanned : ∀ event, Datetime.order.First AuthEvent.timestamp (earliest::rest) event →
        Step3AuthEvents.latest earliest rest = .ok event :=
      fun event => (Datetime.order.scan_ok AuthEvent.timestamp earliest rest event).mpr
    cases cause with
    | none =>
      obtain ⟨event,first,success⟩ := found.resolve_left (List.cons_ne_nil earliest rest)
      simp only [scanned event first] at exec
      rw [record_answered _ exec]
      simp [VerdictResult.finding,findingOf,statusOf,success]
    | some cause =>
      obtain ⟨event,first,failed,rfl⟩ := found
      simp only [scanned event first] at exec
      rw [record_answered _ exec]
      simp [VerdictResult.finding,findingOf,statusOf,failed]

theorem step4_finding (before : Diagnosis σ) {cause : Option String}
    (assessed : assessment (authorizationAnswers before.ctx.connector before.ctx.request before.world) =
      .ok (statusOf cause,cause)) :
    (record Step4Authorization.run .authorization before).verdict.finding = findingOf .authorization cause := by
  have value := (step4_assessment before).trans assessed
  rcases ran : Step4Authorization.run.exec before with ⟨raised | verdict,after⟩
  · rw [ran] at value
    cases value
  · have named := step4_law.named before verdict after ran
    rw [ran] at value
    obtain ⟨status,code⟩ := Prod.mk.inj (Raising.pure_success value)
    rw [record_answered _ ran,VerdictResult.finding,findingOf,named,status,code]

theorem executed_findings {stepFn : Step σ VerdictResult} {stepName : FunnelStep} {before : Diagnosis σ}
    {rest : List (Step σ VerdictResult × FunnelStep)} {cause : Option String} {later : List (FunnelStep × Option String)}
    (found : (record stepFn stepName before).verdict.finding = findingOf stepName cause)
    (others : (executed rest (record stepFn stepName before).after).map (fun entry => entry.verdict.finding) =
      findingsOf later) :
    (executed ((stepFn,stepName)::rest) before).map (fun entry => entry.verdict.finding) =
      findingsOf ((stepName,cause)::later) := by
  have passed : (record stepFn stepName before).verdict.status = .pass ↔ cause = none := by
    rw [show (record stepFn stepName before).verdict.status = statusOf cause from congrArg Finding.status found,statusOf]
    split <;> simp [*]
  rw [executed_cons,List.map_cons,found,findingsOf]
  by_cases none : cause = none
  · rw [if_pos (passed.mpr none),if_pos none,others]
  · rw [if_neg (fun pass => none (passed.mp pass)),if_neg none,List.map_nil]

/-- A run finds what its answers say. -/
theorem run_findings (start : Diagnosis σ) {available : AvailabilityResult} {account : UserStatusResult}
    {events : List AuthEvent} {signIn access : Option String}
    (available_ok : (answers start.ctx.connector start.ctx.request start.world).availability = .ok available)
    (account_ok : (answers start.ctx.connector start.ctx.request start.world).userStatus = .ok account)
    (events_ok : (answers start.ctx.connector start.ctx.request start.world).authEvents = .ok events)
    (signIn_ok : SignInCause events signIn)
    (access_ok : assessment (answers start.ctx.connector start.ctx.request start.world).authorization =
      .ok (statusOf access,access)) :
    (executed stepModules start).map (fun entry => entry.verdict.finding) =
      findingsOf [(.systemAvailability,availabilityCause available.status),(.accountStatus,accountCause account.status),
        (.authEvents,signIn),(.authorization,access)] := by
  obtain ⟨world2,world3,world4⟩ := step_worlds start
  refine executed_findings (step1_finding start available_ok) ?_
  refine executed_findings (step2_finding (second start) ?_) ?_
  · rw [(second_ctx start).1,(second_ctx start).2,world2]
    exact account_ok
  refine executed_findings (step3_finding (third start) ?_ signIn_ok) ?_
  · rw [(third_ctx start).1,(third_ctx start).2,world3,world2]
    exact events_ok
  refine executed_findings (step4_finding (fourth start) ?_) rfl
  rw [← (step_decisions start).2.2.2]
  exact access_ok

end DiagnosticOrchestrator

end AccessAgent
