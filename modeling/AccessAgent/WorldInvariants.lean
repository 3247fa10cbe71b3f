import AccessAgent.Semantics.Contract
import AccessAgent.Funnel

/-! A property of the world that the lookups for the subject keep, a whole run keeps, whichever
of them answer and whichever raise. -/

namespace AccessAgent
open Semantics Step

variable {σ : Type}

/-- Every lookup that a diagnosis of the subject may make keeps the property. -/
structure ConnectorSPI.Preserves [Clock σ] (connector : ConnectorSPI σ) (subjectSub : String) (holds : σ → Prop) : Prop where
  ticks : ∀ world, holds world → holds (Clock.now world).2
  checkAvailability : Keeps holds (connector.checkAvailability subjectSub)
  getUserStatus : Keeps holds (connector.getUserStatus subjectSub)
  getAuthEvents : Keeps holds (connector.getAuthEvents subjectSub Step3AuthEvents.lookback)
  getEffectivePermissions : ∀ resource, Keeps holds (connector.getEffectivePermissions subjectSub resource)
  getRequiredPermissions : ∀ resource, Keeps holds (connector.getRequiredPermissions resource)
  getPermissionAuditEvents : Keeps holds (connector.getPermissionAuditEvents subjectSub Step4Authorization.auditLookback)

namespace DiagnosticOrchestrator

/-- The property holds of the world, and the context is still the one of the run. -/
def Inside (connector : ConnectorSPI σ) (request : DiagnosticRequest) (holds : σ → Prop) (diagnosis : Diagnosis σ) : Prop :=
  holds diagnosis.world ∧ diagnosis.ctx.connector = connector ∧ diagnosis.ctx.request = request

variable {connector : ConnectorSPI σ} {request : DiagnosticRequest} {holds : σ → Prop}

theorem context_bind {α : Type} {next : DiagnosticContext σ → Step σ α}
    (rest : ∀ ctx, ctx.connector = connector → ctx.request = request → Keeps (Inside connector request holds) (next ctx)) :
    Keeps (Inside connector request holds) (context >>= next) :=
  fun diagnosis inside => rest diagnosis.ctx inside.2.1 inside.2.2 diagnosis inside

theorem await_keeps {α : Type} {program : Effect Exn σ α} (keeps : Keeps holds program) :
    Keeps (Inside connector request holds) (await program) :=
  Contract.zoom keeps (fun _ inside => inside.1) fun _ _ inside kept => ⟨kept,inside.2⟩

theorem modifyContext_keeps {change : DiagnosticContext σ → DiagnosticContext σ}
    (sameConnector : ∀ ctx, (change ctx).connector = ctx.connector) (sameRequest : ∀ ctx, (change ctx).request = ctx.request) :
    Keeps (Inside connector request holds) (modifyContext change) := by
  apply Contract.update
  rintro ⟨world,ctx⟩ ⟨kept,rfl,rfl⟩
  exact ⟨kept,sameConnector ctx,sameRequest ctx⟩

variable [Clock σ] (preserves : connector.Preserves request.subjectSub holds)
include preserves

theorem await_now_keeps : Keeps (Inside connector request holds) (await datetimeNow) :=
  await_keeps fun world => preserves.ticks world

theorem dated_keeps {α : Type} (result : Datetime → α) :
    Keeps (Inside connector request holds) (do return result (← await datetimeNow)) :=
  Keeps.bind (await_now_keeps preserves) fun _ => Keeps.pure _

theorem step1_keeps : Keeps (Inside connector request holds) Step1SystemAvailability.run := by
  apply context_bind
  rintro ctx rfl rfl
  exact Keeps.bind (await_keeps preserves.checkAvailability) fun result => dated_keeps preserves _

theorem step2_keeps : Keeps (Inside connector request holds) Step2AccountStatus.run := by
  apply context_bind
  rintro ctx rfl rfl
  apply Keeps.bind (await_keeps preserves.getUserStatus)
  intro result
  exact Keeps.bind (modifyContext_keeps (fun _ => rfl) fun _ => rfl) fun _ => dated_keeps preserves _

theorem step3_keeps : Keeps (Inside connector request holds) Step3AuthEvents.run := by
  apply context_bind
  rintro ctx rfl rfl
  apply Keeps.bind (await_keeps preserves.getAuthEvents)
  intro events
  cases events with
  | nil => exact dated_keeps preserves _
  | cons first rest => exact Keeps.bind (Keeps.lift _) fun latest => dated_keeps preserves _

theorem step4_keeps : Keeps (Inside connector request holds) Step4Authorization.run := by
  apply context_bind
  rintro ctx rfl rfl
  apply Keeps.bind (await_keeps (preserves.getRequiredPermissions _))
  intro required
  cases required with
  | nil => exact dated_keeps preserves _
  | cons first rest =>
    apply Keeps.bind (await_keeps (preserves.getEffectivePermissions _))
    intro effective
    apply Keeps.bind (await_now_keeps preserves)
    intro now
    refine Keeps.bind (Keeps.lift _) fun assessed => ?_
    apply Keeps.bind (await_keeps preserves.getPermissionAuditEvents)
    intro auditEvents
    exact Keeps.bind (Keeps.lift _) fun conclusion => dated_keeps preserves _

theorem runStep_keeps {stepFn : Step σ VerdictResult} (keeps : Keeps (Inside connector request holds) stepFn)
    (stepName : FunnelStep) : Keeps (Inside connector request holds) (runStepFailClosed stepFn stepName) :=
  Contract.tryCatch keeps fun _ => dated_keeps preserves _

theorem walk_keeps (steps : List (Step σ VerdictResult × FunnelStep))
    (keeps : ∀ step ∈ steps, Keeps (Inside connector request holds) step.1) :
    Keeps (Inside connector request holds) (walk steps) := by
  induction steps with
  | nil => exact Keeps.pure _
  | cons step rest ih =>
    apply Keeps.bind (runStep_keeps preserves (keeps step (by simp)) step.2)
    intro verdict
    have appends : Keeps (Inside connector request holds) (modifyContext (appendVerdict verdict)) :=
      modifyContext_keeps (fun _ => rfl) fun _ => rfl
    apply Keeps.bind appends
    intro _
    split
    · exact ih fun step member => keeps step (by simp [member])
    · exact Keeps.pure _

theorem run_keeps : Keeps (Inside connector request holds) run := by
  apply Keeps.bind
  · apply walk_keeps preserves
    simp only [stepModules,List.mem_cons,List.not_mem_nil,or_false]
    rintro step (rfl | rfl | rfl | rfl)
    · exact step1_keeps preserves
    · exact step2_keeps preserves
    · exact step3_keeps preserves
    · exact step4_keeps preserves
  · intro _
    exact context_bind fun ctx _ _ => Keeps.lift _

end DiagnosticOrchestrator

end AccessAgent
