import AccessAgent.Context

/-! The first three checks of the funnel (`app/orchestrator/steps/step1..3`). -/

namespace AccessAgent
open Semantics Step

variable {σ : Type} [Clock σ]

namespace Step1SystemAvailability

def run : Step σ VerdictResult := do
  let ctx ← context
  let result ← await (ctx.connector.checkAvailability ctx.request.subjectSub)
  let status : VerdictStatus := if result.status = .up then .pass else .fail
  let evaluatedAt ← await datetimeNow
  return {
    step := .systemAvailability
    status := status
    causeCode := if status = .pass then none else some ("system_" ++ result.status.value)
    detail := result.detail
    sourceConnectorId := some ctx.connector.connectorId
    evaluatedAt := evaluatedAt }

theorem run_exec (diagnosis : Diagnosis σ) :
    run.exec diagnosis =
      match (diagnosis.ctx.connector.checkAvailability diagnosis.ctx.request.subjectSub).exec
          diagnosis.world with
      | (.ok result,world) => (.ok {
          step := .systemAvailability
          status := if result.status = .up then .pass else .fail
          causeCode := if result.status = .up then none else some ("system_" ++ result.status.value)
          detail := result.detail
          sourceConnectorId := some diagnosis.ctx.connector.connectorId
          evaluatedAt := (Clock.now world).1.value },⟨(Clock.now world).2,diagnosis.ctx⟩)
      | (.error raised,world) => (.error raised,⟨world,diagnosis.ctx⟩) := by
  simp only [run,Effect.bind_exec,context_exec,await_exec]
  rcases (diagnosis.ctx.connector.checkAvailability diagnosis.ctx.request.subjectSub).exec
    diagnosis.world with ⟨raised | result,world⟩
  · rfl
  · by_cases up : result.status = .up <;> simp [up,datetimeNow]

end Step1SystemAvailability

namespace Step2AccountStatus

def run : Step σ VerdictResult := do
  let ctx ← context
  let result ← await (ctx.connector.getUserStatus ctx.request.subjectSub)
  modifyContext (fun ctx => {ctx with subjectPasswordResetUrl := result.passwordResetUrl})
  let status : VerdictStatus := if result.status = .active then .pass else .fail
  let evaluatedAt ← await datetimeNow
  return {
    step := .accountStatus
    status := status
    causeCode := if status = .pass then none else some result.status.value
    detail := result.detail
    sourceConnectorId := some ctx.connector.connectorId
    evaluatedAt := evaluatedAt }

theorem run_exec (diagnosis : Diagnosis σ) :
    run.exec diagnosis =
      match (diagnosis.ctx.connector.getUserStatus diagnosis.ctx.request.subjectSub).exec
          diagnosis.world with
      | (.ok result,world) => (.ok {
          step := .accountStatus
          status := if result.status = .active then .pass else .fail
          causeCode := if result.status = .active then none else some result.status.value
          detail := result.detail
          sourceConnectorId := some diagnosis.ctx.connector.connectorId
          evaluatedAt := (Clock.now world).1.value },
          ⟨(Clock.now world).2,{diagnosis.ctx with subjectPasswordResetUrl := result.passwordResetUrl}⟩)
      | (.error raised,world) => (.error raised,⟨world,diagnosis.ctx⟩) := by
  simp only [run,Effect.bind_exec,context_exec,await_exec]
  rcases (diagnosis.ctx.connector.getUserStatus diagnosis.ctx.request.subjectSub).exec
    diagnosis.world with ⟨raised | result,world⟩
  · rfl
  · by_cases active : result.status = .active <;> simp [active,datetimeNow]

end Step2AccountStatus

namespace Step3AuthEvents

def lookback : Timedelta := 24 * 3600000000

def latest (first : AuthEvent) (rest : List AuthEvent) : Except Exn AuthEvent :=
  Datetime.order.scan AuthEvent.timestamp first rest

def failureCause (event : AuthEvent) : String :=
  match event.failureReason with
  | some reason => if reason = "" then "auth_failed" else reason
  | none => "auth_failed"

def run : Step σ VerdictResult := do
  let ctx ← context
  let events ← await (ctx.connector.getAuthEvents ctx.request.subjectSub lookback)
  match events with
  | [] =>
    let evaluatedAt ← await datetimeNow
    return ⟨.authEvents,.pass,none,none,some ctx.connector.connectorId,evaluatedAt⟩
  | first::rest =>
    let latest ← latest first rest
    let status : VerdictStatus := if latest.success then .pass else .fail
    let evaluatedAt ← await datetimeNow
    return {
      step := .authEvents
      status := status
      causeCode := if status = .pass then none else some (failureCause latest)
      detail := latest.failureReason
      sourceConnectorId := some ctx.connector.connectorId
      evaluatedAt := evaluatedAt }

theorem run_exec (diagnosis : Diagnosis σ) :
    run.exec diagnosis =
      match (diagnosis.ctx.connector.getAuthEvents diagnosis.ctx.request.subjectSub lookback).exec
          diagnosis.world with
      | (.ok [],world) => (.ok ⟨.authEvents,.pass,none,none,some diagnosis.ctx.connector.connectorId,
          (Clock.now world).1.value⟩,⟨(Clock.now world).2,diagnosis.ctx⟩)
      | (.ok (first::rest),world) => match latest first rest with
        | .ok latest => (.ok {
            step := .authEvents
            status := if latest.success then .pass else .fail
            causeCode := if latest.success then none else some (failureCause latest)
            detail := latest.failureReason
            sourceConnectorId := some diagnosis.ctx.connector.connectorId
            evaluatedAt := (Clock.now world).1.value },⟨(Clock.now world).2,diagnosis.ctx⟩)
        | .error raised => (.error raised,⟨world,diagnosis.ctx⟩)
      | (.error raised,world) => (.error raised,⟨world,diagnosis.ctx⟩) := by
  simp only [run,Effect.bind_exec,context_exec,await_exec]
  rcases (diagnosis.ctx.connector.getAuthEvents diagnosis.ctx.request.subjectSub lookback).exec
    diagnosis.world with ⟨raised | events,world⟩
  · rfl
  cases events with
  | nil => rfl
  | cons first rest =>
    simp only [Effect.bind_exec,Effect.lift_exec]
    cases latest first rest with
    | error raised => rfl
    | ok latest => cases success : latest.success <;> simp [success,datetimeNow]

end Step3AuthEvents

end AccessAgent
