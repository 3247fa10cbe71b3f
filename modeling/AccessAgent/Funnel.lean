import AccessAgent.FunnelSteps
import AccessAgent.Authorization

/-! The orchestrator (`app/orchestrator/state_machine.py`): the fixed step order,
the fail-closed conversion of exceptions, and the outcome tables. -/

namespace AccessAgent
open Semantics Step

variable {σ : Type}

def accountStatusOutcome : Dictionary String Outcome :=
  [(AccountStatus.locked.value,.selfServiceFix),(AccountStatus.passwordExpired.value,.selfServiceFix),
    (AccountStatus.disabled.value,.escalation),(AccountStatus.deprovisioned.value,.accessGap),
    (AccountStatus.notFound.value,.accessGap)]

def authorizationOutcome : Dictionary String Outcome :=
  [("missing_role",.accessGap),("access_expired",.accessGap),("access_revoked",.escalation)]

namespace DiagnosticOrchestrator

def stepModules [Clock σ] : List (Step σ VerdictResult × FunnelStep) :=
  [(Step1SystemAvailability.run,.systemAvailability),(Step2AccountStatus.run,.accountStatus),
    (Step3AuthEvents.run,.authEvents),(Step4Authorization.run,.authorization)]

def stepError (stepName : FunnelStep) (evaluatedAt : Datetime) : VerdictResult :=
  ⟨stepName,.inconclusive,some "step_error",none,none,evaluatedAt⟩

def runStepFailClosed [Clock σ] (stepFn : Step σ VerdictResult) (stepName : FunnelStep) :
    Step σ VerdictResult :=
  tryCatch stepFn (fun _ => do
    let evaluatedAt ← await datetimeNow
    return stepError stepName evaluatedAt)

def appendVerdict (verdict : VerdictResult) (ctx : DiagnosticContext σ) : DiagnosticContext σ :=
  {ctx with verdicts := ctx.verdicts ++ [verdict]}

/-- The loop of `run`, which breaks at the first verdict that is not a pass. -/
def walk [Clock σ] : List (Step σ VerdictResult × FunnelStep) → Step σ Unit
  | [] => pure ()
  | (stepFn,stepName)::rest => do
    let verdict ← runStepFailClosed stepFn stepName
    modifyContext (appendVerdict verdict)
    if verdict.status = .pass then walk rest else pure ()

def resolveFailOutcome (verdict : VerdictResult) : Outcome :=
  match verdict.step with
  | .systemAvailability => .escalation
  | .accountStatus => (accountStatusOutcome.find (verdict.causeCode.getD "")).getD .escalation
  | .authEvents => .selfServiceFix
  | .authorization => (authorizationOutcome.find (verdict.causeCode.getD "")).getD .accessGap
  | .pathInfrastructure => .escalation

def resolveOutcome (last : VerdictResult) : Outcome :=
  match last.status with
  | .inconclusive => .escalation
  | .fail => resolveFailOutcome last
  | .pass => .escalation

def resetEligible (last : VerdictResult) : Bool :=
  passwordResetEligibleCauses.contains (last.step,last.causeCode.getD "")

def finalize (ctx : DiagnosticContext σ) : Except Exn DiagnosticRunResult :=
  match ctx.verdicts.getLast? with
  | none => .error ⟨.indexError,"list index out of range"⟩
  | some last => .ok {
      correlationId := ctx.correlationId
      stepVerdicts := ctx.verdicts
      outcome := resolveOutcome last
      escalated := resolveOutcome last = .escalation
      passwordResetUrl := if resetEligible last then ctx.subjectPasswordResetUrl else none }

def run [Clock σ] : Step σ DiagnosticRunResult := do
  walk stepModules
  let ctx ← context
  finalize ctx

/-! ### What a step may do -/

def Frame (before after : Diagnosis σ) : Prop :=
  after.ctx = {before.ctx with subjectPasswordResetUrl := after.ctx.subjectPasswordResetUrl}

/-- What the orchestrator relies on for one step: it keeps the frame and its
answers carry its own name. -/
structure StepLaw (stepFn : Step σ VerdictResult) (stepName : FunnelStep) : Prop where
  frame : Always Frame stepFn
  named : ∀ diagnosis verdict after, stepFn.exec diagnosis = (.ok verdict,after) → verdict.step = stepName

variable [Clock σ]

theorem step1_law : StepLaw (Step1SystemAvailability.run : Step σ VerdictResult) .systemAvailability where
  frame diagnosis := by
    rw [Step1SystemAvailability.run_exec]
    split <;> rfl
  named diagnosis verdict after ok := by
    rw [Step1SystemAvailability.run_exec] at ok
    split at ok <;> cases ok
    rfl

theorem step2_law : StepLaw (Step2AccountStatus.run : Step σ VerdictResult) .accountStatus where
  frame diagnosis := by
    rw [Step2AccountStatus.run_exec]
    split <;> rfl
  named diagnosis verdict after ok := by
    rw [Step2AccountStatus.run_exec] at ok
    split at ok <;> cases ok
    rfl

theorem step3_law : StepLaw (Step3AuthEvents.run : Step σ VerdictResult) .authEvents where
  frame diagnosis := by
    rw [Step3AuthEvents.run_exec]
    repeat' split
    all_goals rfl
  named diagnosis verdict after ok := by
    rw [Step3AuthEvents.run_exec] at ok
    repeat' split at ok
    all_goals cases ok
    all_goals rfl

theorem step4_law : StepLaw (Step4Authorization.run : Step σ VerdictResult) .authorization where
  frame diagnosis := by
    rw [Step4Authorization.run_exec]
    dsimp only
    repeat' split
    all_goals rfl
  named diagnosis verdict after ok := by
    rw [Step4Authorization.run_exec] at ok
    dsimp only at ok
    repeat' split at ok
    all_goals cases ok
    all_goals rfl

theorem stepModules_law : ∀ step ∈ (stepModules : List (Step σ VerdictResult × FunnelStep)), StepLaw step.1 step.2 := by
  simp only [stepModules,List.mem_cons,List.not_mem_nil,or_false]
  rintro step (rfl | rfl | rfl | rfl)
  · exact step1_law
  · exact step2_law
  · exact step3_law
  · exact step4_law

/-! ### The steps a run executes -/

/-- One executed step: the state it started in, what its function did there, the
verdict the run appended, and the state the next step starts in. -/
structure StepRecord (σ : Type) where
  step : FunnelStep
  before : Diagnosis σ
  raw : Except Exn VerdictResult
  verdict : VerdictResult
  after : Diagnosis σ

def record (stepFn : Step σ VerdictResult) (stepName : FunnelStep) (before : Diagnosis σ) : StepRecord σ :=
  match stepFn.exec before with
  | (.ok verdict,after) =>
    ⟨stepName,before,.ok verdict,verdict,⟨after.world,appendVerdict verdict after.ctx⟩⟩
  | (.error raised,after) =>
    let verdict := stepError stepName (Clock.now after.world).1.value
    ⟨stepName,before,.error raised,verdict,
      ⟨(Clock.now after.world).2,appendVerdict verdict after.ctx⟩⟩

def executed : List (Step σ VerdictResult × FunnelStep) → Diagnosis σ → List (StepRecord σ)
  | [],_ => []
  | (stepFn,stepName)::rest,before =>
    let first := record stepFn stepName before
    first::if first.verdict.status = .pass then executed rest first.after else []

def final (steps : List (Step σ VerdictResult × FunnelStep)) (before : Diagnosis σ) : Diagnosis σ :=
  ((executed steps before).getLast?.map StepRecord.after).getD before

theorem executed_cons (stepFn : Step σ VerdictResult) (stepName : FunnelStep)
    (rest : List (Step σ VerdictResult × FunnelStep)) (before : Diagnosis σ) :
    executed ((stepFn,stepName)::rest) before = record stepFn stepName before ::
      if (record stepFn stepName before).verdict.status = .pass then
        executed rest (record stepFn stepName before).after else [] := rfl

theorem final_pass (stepFn : Step σ VerdictResult) (stepName : FunnelStep)
    (rest : List (Step σ VerdictResult × FunnelStep)) (before : Diagnosis σ)
    (passed : (record stepFn stepName before).verdict.status = .pass) :
    final ((stepFn,stepName)::rest) before = final rest (record stepFn stepName before).after := by
  rw [final,executed_cons,if_pos passed,List.getLast?_cons,final]
  cases (executed rest (record stepFn stepName before).after).getLast? <;> rfl

theorem final_stop (stepFn : Step σ VerdictResult) (stepName : FunnelStep)
    (rest : List (Step σ VerdictResult × FunnelStep)) (before : Diagnosis σ)
    (stopped : (record stepFn stepName before).verdict.status ≠ .pass) :
    final ((stepFn,stepName)::rest) before = (record stepFn stepName before).after := by
  rw [final,executed_cons,if_neg stopped]
  rfl

theorem runStep_exec (stepFn : Step σ VerdictResult) (stepName : FunnelStep) (before : Diagnosis σ) :
    (do
      let verdict ← runStepFailClosed stepFn stepName
      modifyContext (appendVerdict verdict)
      return verdict : Step σ VerdictResult).exec before =
      (.ok (record stepFn stepName before).verdict,(record stepFn stepName before).after) := by
  simp only [runStepFailClosed,Effect.bind_exec,Effect.tryCatch_exec,record]
  rcases stepFn.exec before with ⟨raised | verdict,after⟩ <;> rfl

theorem walk_exec (steps : List (Step σ VerdictResult × FunnelStep)) (before : Diagnosis σ) :
    (walk steps).exec before = (.ok (),final steps before) := by
  induction steps generalizing before with
  | nil => rfl
  | cons step rest ih =>
    obtain ⟨stepFn,stepName⟩ := step
    have first := runStep_exec stepFn stepName before
    simp only [Effect.bind_exec] at first
    simp only [walk,Effect.bind_exec]
    rcases run : (runStepFailClosed stepFn stepName).exec before with ⟨raised | verdict,after⟩
    · simp [run] at first
    simp only [run,modifyContext_exec,Effect.pure_exec,Prod.mk.injEq,Except.ok.injEq] at first
    obtain ⟨same,state⟩ := first
    simp only [modifyContext_exec,state]
    rw [same]
    split
    next passed => rw [ih,final_pass stepFn stepName rest before passed]
    next stopped => rw [final_stop stepFn stepName rest before stopped]; rfl

/-- What each step keeps holds along the run, and what each step then does holds of
every executed step. -/
theorem executed_forall (invariant : Diagnosis σ → Prop) (property : StepRecord σ → Prop)
    (steps : List (Step σ VerdictResult × FunnelStep))
    (each : ∀ step ∈ steps, ∀ state, invariant state →
      property (record step.1 step.2 state) ∧ invariant (record step.1 step.2 state).after)
    (before : Diagnosis σ) (initial : invariant before) :
    ∀ entry ∈ executed steps before, property entry := by
  induction steps generalizing before with
  | nil => simp [executed]
  | cons step rest ih =>
    obtain ⟨stepFn,stepName⟩ := step
    obtain ⟨holds,kept⟩ := each (stepFn,stepName) (by simp) before initial
    rw [executed_cons]
    intro entry member
    rcases List.mem_cons.mp member with rfl | later
    · exact holds
    · split at later
      next passed => exact ih (fun step member => each step (by simp [member])) _ kept entry later
      next stopped => simp at later

theorem record_answered {stepFn : Step σ VerdictResult} {before after : Diagnosis σ} {verdict : VerdictResult}
    (stepName : FunnelStep) (ok : stepFn.exec before = (.ok verdict,after)) :
    record stepFn stepName before =
      ⟨stepName,before,.ok verdict,verdict,⟨after.world,appendVerdict verdict after.ctx⟩⟩ := by
  rw [record,ok]

theorem record_raised {stepFn : Step σ VerdictResult} {before after : Diagnosis σ} {raised : Exn}
    (stepName : FunnelStep) (failed : stepFn.exec before = (.error raised,after)) :
    record stepFn stepName before = ⟨stepName,before,.error raised,
      stepError stepName (Clock.now after.world).1.value,⟨(Clock.now after.world).2,
        appendVerdict (stepError stepName (Clock.now after.world).1.value) after.ctx⟩⟩ := by
  rw [record,failed]

@[simp] theorem record_step (stepFn : Step σ VerdictResult) (stepName : FunnelStep) (before : Diagnosis σ) :
    (record stepFn stepName before).step = stepName := by
  unfold record
  split <;> rfl

@[simp] theorem record_before (stepFn : Step σ VerdictResult) (stepName : FunnelStep) (before : Diagnosis σ) :
    (record stepFn stepName before).before = before := by
  unfold record
  split <;> rfl

theorem record_raw (stepFn : Step σ VerdictResult) (stepName : FunnelStep) (before : Diagnosis σ) :
    (record stepFn stepName before).raw = (stepFn.exec before).1 := by
  rcases ran : stepFn.exec before with ⟨raised | verdict,after⟩
  · rw [record_raised stepName ran]
  · rw [record_answered stepName ran]

theorem record_closed {stepFn : Step σ VerdictResult} {stepName : FunnelStep} {before : Diagnosis σ}
    {raised : Exn} (failed : (record stepFn stepName before).raw = .error raised) :
    ∃ evaluatedAt, (record stepFn stepName before).verdict = stepError stepName evaluatedAt := by
  rcases ran : stepFn.exec before with ⟨raised | verdict,after⟩
  · rw [record_raised stepName ran]
    exact ⟨_,rfl⟩
  · rw [record_answered stepName ran] at failed
    cases failed

theorem record_named {stepFn : Step σ VerdictResult} {stepName : FunnelStep}
    (law : StepLaw stepFn stepName) (before : Diagnosis σ) :
    (record stepFn stepName before).verdict.step = stepName := by
  rcases ran : stepFn.exec before with ⟨raised | verdict,after⟩
  · rw [record_raised stepName ran]
    rfl
  · rw [record_answered stepName ran]
    exact law.named before verdict after ran

theorem executed_ne_nil (step : Step σ VerdictResult × FunnelStep)
    (rest : List (Step σ VerdictResult × FunnelStep)) (before : Diagnosis σ) :
    executed (step::rest) before ≠ [] := by
  obtain ⟨stepFn,stepName⟩ := step
  simp [executed_cons]

theorem executed_prefix (steps : List (Step σ VerdictResult × FunnelStep)) (before : Diagnosis σ) :
    (executed steps before).map StepRecord.step <+: steps.map Prod.snd := by
  induction steps generalizing before with
  | nil => simp [executed]
  | cons step rest ih =>
    obtain ⟨stepFn,stepName⟩ := step
    rw [executed_cons,List.map_cons,List.map_cons,record_step,List.prefix_cons_inj]
    split
    next passed => exact ih _
    next stopped => exact List.nil_prefix

theorem executed_passed (steps : List (Step σ VerdictResult × FunnelStep)) (before : Diagnosis σ) :
    ∀ entry ∈ (executed steps before).dropLast, entry.verdict.status = .pass := by
  induction steps generalizing before with
  | nil => simp [executed]
  | cons step rest ih =>
    obtain ⟨stepFn,stepName⟩ := step
    rw [executed_cons]
    split
    next passed =>
      intro entry member
      cases later : executed rest (record stepFn stepName before).after with
      | nil => simp [later] at member
      | cons second tail =>
        rw [later,List.dropLast_cons_of_ne_nil (by simp)] at member
        rcases List.mem_cons.mp member with rfl | inside
        · exact passed
        · exact ih _ entry (by rwa [later])
    next stopped => simp

theorem executed_stopped (steps : List (Step σ VerdictResult × FunnelStep)) (before : Diagnosis σ)
    (shorter : (executed steps before).length < steps.length) :
    ∃ last ∈ (executed steps before).getLast?, last.verdict.status ≠ .pass := by
  induction steps generalizing before with
  | nil => simp [executed] at shorter
  | cons step rest ih =>
    obtain ⟨stepFn,stepName⟩ := step
    rw [executed_cons] at shorter ⊢
    split at shorter
    next passed =>
      obtain ⟨last,found,stopped⟩ := ih (record stepFn stepName before).after (by simpa using shorter)
      refine ⟨last,?_,stopped⟩
      rw [if_pos passed,List.getLast?_cons,Option.mem_def.mp found]
      rfl
    next stopped =>
      rw [if_neg stopped]
      exact ⟨_,rfl,stopped⟩

theorem record_context {stepFn : Step σ VerdictResult} {stepName : FunnelStep}
    (law : StepLaw stepFn stepName) (before : Diagnosis σ) :
    (record stepFn stepName before).after.ctx = {before.ctx with
      verdicts := before.ctx.verdicts ++ [(record stepFn stepName before).verdict]
      subjectPasswordResetUrl := (record stepFn stepName before).after.ctx.subjectPasswordResetUrl} := by
  have frame := law.frame before
  unfold Frame at frame
  rcases ran : stepFn.exec before with ⟨raised | verdict,after⟩
  · rw [record_raised stepName ran]
    rw [ran] at frame
    simp only [appendVerdict]
    rw [frame]
  · rw [record_answered stepName ran]
    rw [ran] at frame
    simp only [appendVerdict]
    rw [frame]

theorem record_connector {stepFn : Step σ VerdictResult} {stepName : FunnelStep}
    (law : StepLaw stepFn stepName) (before : Diagnosis σ) :
    (record stepFn stepName before).after.ctx.connector = before.ctx.connector := by
  rw [record_context law before]

theorem record_request {stepFn : Step σ VerdictResult} {stepName : FunnelStep}
    (law : StepLaw stepFn stepName) (before : Diagnosis σ) :
    (record stepFn stepName before).after.ctx.request = before.ctx.request := by
  rw [record_context law before]

theorem final_context (steps : List (Step σ VerdictResult × FunnelStep))
    (laws : ∀ step ∈ steps, StepLaw step.1 step.2) (before : Diagnosis σ) :
    (final steps before).ctx = {before.ctx with
      verdicts := before.ctx.verdicts ++ (executed steps before).map StepRecord.verdict
      subjectPasswordResetUrl := (final steps before).ctx.subjectPasswordResetUrl} := by
  induction steps generalizing before with
  | nil => simp [final,executed]
  | cons step rest ih =>
    obtain ⟨stepFn,stepName⟩ := step
    have first := record_context (laws (stepFn,stepName) (by simp)) before
    by_cases passed : (record stepFn stepName before).verdict.status = .pass
    · rw [final_pass stepFn stepName rest before passed,executed_cons,if_pos passed]
      have later := ih (fun step member => laws step (by simp [member])) (record stepFn stepName before).after
      rw [later,first]
      simp
    · rw [final_stop stepFn stepName rest before passed,executed_cons,if_neg passed]
      rw [first]
      simp

def resultOf (start : Diagnosis σ) (last : StepRecord σ) : DiagnosticRunResult where
  correlationId := start.ctx.correlationId
  stepVerdicts := (executed stepModules start).map StepRecord.verdict
  outcome := resolveOutcome last.verdict
  escalated := resolveOutcome last.verdict = .escalation
  passwordResetUrl := if resetEligible last.verdict then last.after.ctx.subjectPasswordResetUrl else none

/-- Whatever verdicts the context already holds, the last step that runs decides. -/
theorem run_last (start : Diagnosis σ) : ∃ last result, (executed stepModules start).getLast? = some last ∧
    run.exec start = (.ok result,final stepModules start) ∧ result.outcome = resolveOutcome last.verdict := by
  have nonempty : executed stepModules start ≠ [] := executed_ne_nil _ _ _
  have found := List.getLast?_eq_some_getLast nonempty
  have ends : (final stepModules start).ctx.verdicts.getLast? =
      some ((executed stepModules start).getLast nonempty).verdict := by
    rw [final_context stepModules stepModules_law start,List.getLast?_append,List.getLast?_map,found]
    rfl
  simp only [run,Effect.bind_exec,walk_exec,context_exec,Effect.lift_exec]
  rw [finalize,ends]
  exact ⟨_,_,found,rfl,rfl⟩

theorem run_exec (start : Diagnosis σ) (fresh : start.ctx.verdicts = []) :
    ∃ last, (executed stepModules start).getLast? = some last ∧
      run.exec start = (.ok (resultOf start last),final stepModules start) := by
  have nonempty : executed stepModules start ≠ [] := executed_ne_nil _ _ _
  have found := List.getLast?_eq_some_getLast nonempty
  refine ⟨_,found,?_⟩
  have ctx := final_context stepModules stepModules_law start
  have verdicts : (final stepModules start).ctx.verdicts =
      (executed stepModules start).map StepRecord.verdict := by
    rw [ctx,fresh]
    rfl
  have url : (final stepModules start).ctx.subjectPasswordResetUrl =
      ((executed stepModules start).getLast nonempty).after.ctx.subjectPasswordResetUrl := by
    rw [final,found]
    rfl
  have id : (final stepModules start).ctx.correlationId = start.ctx.correlationId := by
    rw [ctx]
  simp only [run,Effect.bind_exec,walk_exec,context_exec,Effect.lift_exec]
  rw [finalize,verdicts,List.getLast?_map,found]
  simp only [Option.map_some,url,id,resultOf]

end DiagnosticOrchestrator

end AccessAgent
