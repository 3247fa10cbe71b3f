import AccessAgent.Semantics.Weakening
import AccessAgent.Funnel

/-! A connector that raises where another one answers. A run over it ends as the run over the
other one does, or it escalates at the first check that raised. -/

namespace AccessAgent
open Semantics Step

variable {σ τ : Type}

/-- Where the first connector answers, the second one gives the same answer. Each may have a world of its own. -/
structure ConnectorSPI.Weaker (alike : σ → τ → Prop) (failing : ConnectorSPI σ) (working : ConnectorSPI τ) : Prop where
  connectorId : failing.connectorId = working.connectorId
  resolveSubjectSub : ∀ loginId,
    Semantics.Weaker alike Eq (failing.resolveSubjectSub loginId) (working.resolveSubjectSub loginId)
  checkAvailability : ∀ sub, Semantics.Weaker alike Eq (failing.checkAvailability sub) (working.checkAvailability sub)
  getUserStatus : ∀ sub, Semantics.Weaker alike Eq (failing.getUserStatus sub) (working.getUserStatus sub)
  getAuthEvents : ∀ sub window,
    Semantics.Weaker alike Eq (failing.getAuthEvents sub window) (working.getAuthEvents sub window)
  getEffectivePermissions : ∀ sub resource,
    Semantics.Weaker alike Eq (failing.getEffectivePermissions sub resource) (working.getEffectivePermissions sub resource)
  getRequiredPermissions : ∀ resource,
    Semantics.Weaker alike Eq (failing.getRequiredPermissions resource) (working.getRequiredPermissions resource)
  getPermissionAuditEvents : ∀ sub window,
    Semantics.Weaker alike Eq (failing.getPermissionAuditEvents sub window) (working.getPermissionAuditEvents sub window)

theorem now_weaker [Clock σ] [Clock τ] {alike : σ → τ → Prop} (clock : SameClock alike) :
    Weaker alike Eq (datetimeNow : Effect Exn σ Datetime) (datetimeNow : Effect Exn τ Datetime) := by
  intro world other same answer after ok
  obtain ⟨time,moved⟩ := clock world other same
  obtain ⟨known,rfl⟩ := Prod.mk.inj ok
  refine ⟨_,_,rfl,?_,moved⟩
  rw [← Except.ok.inj known,time]

namespace DiagnosticOrchestrator

section Steps
variable (alike : σ → τ → Prop) (failing : ConnectorSPI σ) (working : ConnectorSPI τ)

def withConnector (connector : ConnectorSPI τ) (ctx : DiagnosticContext σ) : DiagnosticContext τ :=
  ⟨ctx.request,ctx.principal,connector,ctx.correlationId,ctx.perStepTimeout,ctx.verdicts,ctx.subjectPasswordResetUrl⟩

theorem withConnector_connector (connector : ConnectorSPI τ) (ctx : DiagnosticContext σ) :
    (withConnector connector ctx).connector = connector := rfl

/-- Two contexts that differ in their connectors. -/
def OverBoth (left : DiagnosticContext σ) (right : DiagnosticContext τ) : Prop :=
  left.connector = failing ∧ right = withConnector working left

/-- Two diagnoses that differ in their connectors, in worlds that are alike. -/
def InBoth (left : Diagnosis σ) (right : Diagnosis τ) : Prop :=
  alike left.world right.world ∧ OverBoth failing working left.ctx right.ctx

/-- A step that answers over the failing connector answers the same over the working one. -/
abbrev Robust {α : Type} (stepFn : Step σ α) (other : Step τ α) : Prop :=
  Weaker (InBoth alike failing working) Eq stepFn other

variable {alike failing working}

theorem context_both : Weaker (InBoth alike failing working) (OverBoth failing working) context context :=
  Weaker.read fun _ _ related => related.2

theorem await_both {α : Type} {left : Effect Exn σ α} {right : Effect Exn τ α} (weaker : Weaker alike Eq left right) :
    Robust alike failing working (await left) (await right) :=
  Weaker.zoom (fun _ _ related => related.1) (fun _ _ _ _ related same => ⟨same,related.2⟩) weaker

theorem lift_both {α : Type} (answer : Except Exn α) :
    Robust alike failing working (liftM answer : Step σ α) (liftM answer) :=
  Weaker.lift fun value known => ⟨value,known,rfl⟩

theorem url_both (url : Option String) :
    Robust alike failing working (modifyContext fun ctx => {ctx with subjectPasswordResetUrl := url})
      (modifyContext fun ctx => {ctx with subjectPasswordResetUrl := url}) := by
  apply Weaker.update
  rintro ⟨world,ctx⟩ ⟨other,_⟩ ⟨same,rfl,rfl⟩
  exact ⟨same,rfl,rfl⟩

variable [Clock σ] [Clock τ] (clock : SameClock alike)
include clock

theorem now_both : Robust alike failing working (await datetimeNow) (await datetimeNow) := await_both (now_weaker clock)

variable (weaker : failing.Weaker alike working)
include weaker

theorem step1_robust : Robust alike failing working Step1SystemAvailability.run Step1SystemAvailability.run := by
  apply Weaker.bind context_both
  rintro ctx _ ⟨rfl,rfl⟩
  apply Weaker.bind (await_both (weaker.checkAvailability _))
  rintro result _ rfl
  apply Weaker.bind (now_both clock)
  rintro evaluatedAt _ rfl
  exact Weaker.pure (by rw [weaker.connectorId,withConnector_connector])

theorem step2_robust : Robust alike failing working Step2AccountStatus.run Step2AccountStatus.run := by
  apply Weaker.bind context_both
  rintro ctx _ ⟨rfl,rfl⟩
  apply Weaker.bind (await_both (weaker.getUserStatus _))
  rintro result _ rfl
  apply Weaker.bind (url_both _)
  rintro _ _ rfl
  apply Weaker.bind (now_both clock)
  rintro evaluatedAt _ rfl
  exact Weaker.pure (by rw [weaker.connectorId,withConnector_connector])

theorem step3_robust : Robust alike failing working Step3AuthEvents.run Step3AuthEvents.run := by
  apply Weaker.bind context_both
  rintro ctx _ ⟨rfl,rfl⟩
  apply Weaker.bind (await_both (weaker.getAuthEvents _ _))
  rintro events _ rfl
  cases events with
  | nil =>
    apply Weaker.bind (now_both clock)
    rintro evaluatedAt _ rfl
    exact Weaker.pure (by rw [weaker.connectorId,withConnector_connector])
  | cons first rest =>
    apply Weaker.bind (lift_both _)
    rintro latest _ rfl
    apply Weaker.bind (now_both clock)
    rintro evaluatedAt _ rfl
    exact Weaker.pure (by rw [weaker.connectorId,withConnector_connector])

theorem step4_robust : Robust alike failing working Step4Authorization.run Step4Authorization.run := by
  apply Weaker.bind context_both
  rintro ctx _ ⟨rfl,rfl⟩
  apply Weaker.bind (await_both (weaker.getRequiredPermissions _))
  rintro required _ rfl
  cases required with
  | nil =>
    apply Weaker.bind (now_both clock)
    rintro evaluatedAt _ rfl
    exact Weaker.pure (by rw [weaker.connectorId,withConnector_connector])
  | cons first rest =>
    apply Weaker.bind (await_both (weaker.getEffectivePermissions _ _))
    rintro effective _ rfl
    apply Weaker.bind (now_both clock)
    rintro now _ rfl
    apply Weaker.bind (lift_both _)
    rintro assessed _ rfl
    apply Weaker.bind (await_both (weaker.getPermissionAuditEvents _ _))
    rintro auditEvents _ rfl
    apply Weaker.bind (lift_both _)
    rintro conclusion _ rfl
    apply Weaker.bind (now_both clock)
    rintro evaluatedAt _ rfl
    exact Weaker.pure (by rw [weaker.connectorId,withConnector_connector])

/-- The checks of a run over the one connector and over the other. -/
theorem stepModules_robust : List.Forall₂ (fun left right => left.2 = right.2 ∧ Robust alike failing working left.1 right.1)
    (stepModules : List (Step σ VerdictResult × FunnelStep)) (stepModules : List (Step τ VerdictResult × FunnelStep)) := by
  refine .cons ⟨rfl,step1_robust clock weaker⟩ (.cons ⟨rfl,step2_robust clock weaker⟩ ?_)
  exact .cons ⟨rfl,step3_robust clock weaker⟩ (.cons ⟨rfl,step4_robust clock weaker⟩ .nil)

end Steps

/-! ### Runs over both connectors -/

/-- The verdicts of the second run up to a check, which has raised in the first run. -/
def Curtailed (left right : List VerdictResult) : Prop :=
  ∃ shared lost rest evaluatedAt, right = shared ++ lost::rest ∧ left = shared ++ [stepError lost.step evaluatedAt]

theorem Curtailed.cons {left right : List VerdictResult} (verdict : VerdictResult) (curtailed : Curtailed left right) :
    Curtailed (verdict::left) (verdict::right) := by
  obtain ⟨shared,lost,rest,evaluatedAt,rfl,rfl⟩ := curtailed
  exact ⟨verdict::shared,lost,rest,evaluatedAt,rfl,rfl⟩

variable {alike : σ → τ → Prop} {failing : ConnectorSPI σ} {working : ConnectorSPI τ}

theorem appendVerdict_both {left : DiagnosticContext σ} {right : DiagnosticContext τ} (verdict : VerdictResult)
    (both : OverBoth failing working left right) :
    OverBoth failing working (appendVerdict verdict left) (appendVerdict verdict right) := by
  obtain ⟨rfl,rfl⟩ := both
  exact ⟨rfl,rfl⟩

theorem finalize_both {left : DiagnosticContext σ} {right : DiagnosticContext τ} (both : OverBoth failing working left right) :
    finalize left = finalize right := by
  obtain ⟨_,rfl⟩ := both
  rfl

variable [Clock σ] [Clock τ]

theorem record_both {stepFn : Step σ VerdictResult} {other : Step τ VerdictResult}
    (robust : Robust alike failing working stepFn other) (stepName : FunnelStep) {left : Diagnosis σ} {right : Diagnosis τ}
    (both : InBoth alike failing working left right) :
    (∃ raised, (record stepFn stepName left).raw = .error raised) ∨
      (record stepFn stepName left).verdict = (record other stepName right).verdict ∧
        InBoth alike failing working (record stepFn stepName left).after (record other stepName right).after := by
  rcases ran : stepFn.exec left with ⟨raised | verdict,after⟩
  · refine Or.inl ⟨raised,?_⟩
    rw [record_raw,ran]
  · obtain ⟨_,later,known,rfl,world,ctx⟩ := robust left right both verdict after ran
    rw [record_answered stepName ran,record_answered stepName known]
    exact Or.inr ⟨rfl,world,appendVerdict_both verdict ctx⟩

/-- Two walks give the same verdicts until a check of the failing connector raises. -/
theorem executed_both {steps : List (Step σ VerdictResult × FunnelStep)} {others : List (Step τ VerdictResult × FunnelStep)}
    (robust : List.Forall₂ (fun left right => left.2 = right.2 ∧ Robust alike failing working left.1 right.1) steps others)
    (laws : ∀ step ∈ others, StepLaw step.1 step.2) {left : Diagnosis σ} {right : Diagnosis τ}
    (both : InBoth alike failing working left right) :
    (executed steps left).map StepRecord.verdict = (executed others right).map StepRecord.verdict ∧
        InBoth alike failing working (final steps left) (final others right) ∨
      Curtailed ((executed steps left).map StepRecord.verdict) ((executed others right).map StepRecord.verdict) := by
  induction robust generalizing left right with
  | nil => exact Or.inl ⟨rfl,both⟩
  | @cons first second rest later head tail ih =>
    obtain ⟨stepFn,stepName⟩ := first
    obtain ⟨other,_⟩ := second
    obtain ⟨rfl,robust⟩ := head
    rcases record_both robust stepName both with ⟨raised,failed⟩ | ⟨same,after⟩
    · -- the check raised, and the walk over the failing connector ends
      obtain ⟨evaluatedAt,closed⟩ := record_closed failed
      have named : (record other stepName right).verdict.step = stepName := record_named (laws (other,stepName) (by simp)) right
      have ahead := congrArg (List.map StepRecord.verdict) (executed_cons other stepName later right)
      refine Or.inr ⟨[],(record other stepName right).verdict,_,evaluatedAt,ahead,?_⟩
      rw [executed_cons,List.map_cons,closed,named,if_neg (by simp [stepError])]
      rfl
    · by_cases passed : (record stepFn stepName left).verdict.status = .pass
      · have passedRight := passed
        rw [same] at passedRight
        rw [executed_cons,executed_cons,if_pos passed,if_pos passedRight,List.map_cons,List.map_cons,same,
          final_pass _ _ _ _ passed,final_pass _ _ _ _ passedRight]
        rcases ih (fun step member => laws step (by simp [member])) after with ⟨verdicts,ends⟩ | curtailed
        · exact Or.inl ⟨by rw [verdicts],ends⟩
        · exact Or.inr (curtailed.cons _)
      · have stopped := passed
        rw [same] at stopped
        rw [executed_cons,executed_cons,if_neg passed,if_neg stopped,List.map_cons,List.map_cons,same,
          final_stop _ _ _ _ passed,final_stop _ _ _ _ stopped]
        exact Or.inl ⟨rfl,after⟩

/-- What a run concludes from a check that raised. -/
theorem resultOf_curtailed {start : Diagnosis σ} {last : StepRecord σ} {right : List VerdictResult}
    (found : (executed stepModules start).getLast? = some last)
    (curtailed : Curtailed ((executed stepModules start).map StepRecord.verdict) right) :
    (resultOf start last).outcome = .escalation ∧ (resultOf start last).escalated = true ∧
      (resultOf start last).passwordResetUrl = none := by
  obtain ⟨shared,lost,rest,evaluatedAt,_,shape⟩ := curtailed
  have ends : last.verdict = stepError lost.step evaluatedAt := by
    have verdicts := congrArg List.getLast? shape
    rw [List.getLast?_map,found,List.getLast?_append] at verdicts
    exact Option.some.inj verdicts
  have ineligible : resetEligible last.verdict = false := by
    rw [ends]
    cases lost.step <;> rfl
  rw [resultOf,ends]
  refine ⟨rfl,rfl,?_⟩
  rw [← ends,ineligible]
  rfl

/-- The result of the first run is that of the second one, or an escalation from a check that
raised. -/
inductive Degraded (result expected : DiagnosticRunResult) : Prop
  | same (same : result = expected) : Degraded result expected
  | escalated (curtailed : Curtailed result.stepVerdicts expected.stepVerdicts) (outcome : result.outcome = .escalation)
      (escalated : result.escalated = true) (noReset : result.passwordResetUrl = none) : Degraded result expected

theorem run_both (clock : SameClock alike) (weaker : failing.Weaker alike working) {left : Diagnosis σ} {right : Diagnosis τ}
    (both : InBoth alike failing working left right) (fresh : left.ctx.verdicts = []) : ∃ result expected,
      run.answer left = .ok result ∧ run.answer right = .ok expected ∧ Degraded result expected := by
  have freshRight : right.ctx.verdicts = [] := by
    rw [both.2.2]
    exact fresh
  obtain ⟨last,found,ran⟩ := run_exec left fresh
  obtain ⟨lastRight,foundRight,ranRight⟩ := run_exec right freshRight
  refine ⟨_,_,congrArg Prod.fst ran,congrArg Prod.fst ranRight,?_⟩
  rcases executed_both (stepModules_robust clock weaker) stepModules_law both with ⟨_,ends⟩ | curtailed
  · refine Degraded.same ?_
    have finals := finalize_both ends.2
    have whole : ∀ {ρ : Type} [Clock ρ] (diagnosis : Diagnosis ρ),
        run.answer diagnosis = finalize (final stepModules diagnosis).ctx := by
      intro ρ _ diagnosis
      simp only [run,Effect.answer,Effect.bind_exec,walk_exec,context_exec,Effect.lift_exec]
    rw [← whole,← whole,Effect.answer,Effect.answer,ran,ranRight] at finals
    exact Except.ok.inj finals
  · obtain ⟨outcome,escalated,noReset⟩ := resultOf_curtailed found curtailed
    exact Degraded.escalated curtailed outcome escalated noReset

/-- Raising exceptions in place of answers, at any calls, changes a run in one way only: it ends
with an inconclusive verdict at some check and escalates. -/
theorem run_degrades (clock : SameClock alike) (weaker : failing.Weaker alike working) {world : σ} {other : τ}
    (same : alike world other) (request : DiagnosticRequest) (principal : Principal) (correlationId : String)
    (perStepTimeout : Timedelta) : ∃ result expected,
      run.answer ⟨world,.fresh request principal failing correlationId perStepTimeout⟩ = .ok result ∧
      run.answer ⟨other,.fresh request principal working correlationId perStepTimeout⟩ = .ok expected ∧
      Degraded result expected :=
  run_both clock weaker ⟨same,rfl,rfl⟩ rfl

theorem sameClock_eq : SameClock (Eq : σ → σ → Prop) := by
  rintro world _ rfl
  exact ⟨rfl,rfl⟩

/-- A connector that answers all but the account lookup. -/
def unansweredConnector : ConnectorSPI Unit :=
  {stillConnector (fun _ => none) .up with getUserStatus := fun _ => throw ⟨.other "TimeoutError",""⟩}

theorem unanswered_weaker : unansweredConnector.Weaker Eq (stillConnector (fun _ => none) .up) where
  connectorId := rfl
  resolveSubjectSub _ := Weaker.refl _
  checkAvailability _ := Weaker.refl _
  getUserStatus _ := Weaker.throw _ _
  getAuthEvents _ _ := Weaker.refl _
  getEffectivePermissions _ _ := Weaker.refl _
  getRequiredPermissions _ := Weaker.refl _
  getPermissionAuditEvents _ _ := Weaker.refl _

theorem unanswered_degrades :
    let start (connector : ConnectorSPI Unit) : Diagnosis Unit :=
      ⟨(),.fresh ⟨"c-1","u-1","u-1","openiam",.other,""⟩ ⟨"u-1",[]⟩ connector "c-1" defaultPerStepTimeout⟩
    ∃ result expected, run.answer (start unansweredConnector) = .ok result ∧
      run.answer (start (stillConnector (fun _ => none) .up)) = .ok expected ∧ Degraded result expected :=
  run_degrades sameClock_eq unanswered_weaker rfl _ _ _ _

end DiagnosticOrchestrator

end AccessAgent
