import AccessAgent.OpenIAM.AccountStatus
import AccessAgent.OpenIAM.CheckRuns
import AccessAgent.FunnelOutcome

/-! An account that the server refuses to look up. The first check reads the same record as the
second, so that the second never meets the refusal unless the server changes its answer in
between. -/

namespace AccessAgent.OpenIAM
open Semantics Raising DiagnosticOrchestrator

variable {σ : Type} [Clock σ]
variable (settings : Settings) (setOrder : SetOrder) (config : Config) (connectorId : String) (answer : Request → Response)

/-- The connector over a server that does not change its answers. -/
def settled (σ : Type) [Clock σ] : ConnectorSPI σ := connector ⟨settings,setOrder,answering answer⟩ connectorId config

theorem checkAvailability_refused {subjectSub : String} (refused : 400 ≤ (answer (userGet subjectSub)).statusCode) (world : σ) :
    ∃ result, ((settled settings setOrder config connectorId answer σ).checkAvailability subjectSub).answer world = .ok result ∧
      result.status = .degraded := by
  have asked : (answering (σ := σ) answer).authorizedGet (userGet subjectSub) = pure (answer (userGet subjectSub)) := rfl
  have error : (answer (userGet subjectSub)).failed = true := decide_eq_true refused
  change ∃ result, (checkAvailability ⟨settings,setOrder,answering answer⟩ subjectSub).answer world = .ok result ∧ _
  rw [checkAvailability]
  dsimp only
  rw [asked,Effect.answer_bind,Effect.answer_pure,pure_bind,error,if_pos rfl,Effect.answer_bind,datetimeNow_answer,pure_bind]
  exact ⟨_,rfl,rfl⟩

theorem getUserStatus_found {subjectSub : String} (found : (answer (userGet subjectSub)).statusCode < 400) {world : σ}
    {result : UserStatusResult}
    (ok : ((settled settings setOrder config connectorId answer σ).getUserStatus subjectSub).answer world = .ok result) :
    result.status ≠ .notFound := by
  have asked := getUserStatus_answer settings setOrder config (answer (userGet subjectSub)) subjectSub world
  have succeeded : (answer (userGet subjectSub)).failed = false := decide_eq_false (not_le.mpr found)
  rw [succeeded,if_neg Bool.false_ne_true] at asked
  obtain ⟨body,_,classified⟩ := bind_success (asked.symm.trans ok)
  obtain ⟨status,classifies,_,rest⟩ := userStatusAt_success classified
  rw [(statusResult_success rest).1]
  cases classifies <;> simp

/-- A verdict that the account is unknown. -/
def ReportsUnknown (verdict : VerdictResult) : Prop := verdict.step = .accountStatus ∧ verdict.causeCode = some "not_found"

theorem value_notFound {status : AccountStatus} : status.value = "not_found" ↔ status = .notFound := by
  cases status <;> decide

theorem record_known {subjectSub : String} (found : (answer (userGet subjectSub)).statusCode < 400)
    {step : Step σ VerdictResult × FunnelStep} (member : step ∈ stepModules) {state : Diagnosis σ}
    (same : state.ctx.connector = settled settings setOrder config connectorId answer σ)
    (subject : state.ctx.request.subjectSub = subjectSub) : ¬ReportsUnknown (record step.1 step.2 state).verdict := by
  rintro ⟨named,unknown⟩
  rw [record_named (stepModules_law step member)] at named
  obtain rfl : step = (Step2AccountStatus.run,.accountStatus) := by
    simp only [stepModules,List.mem_cons,List.not_mem_nil,or_false] at member
    rcases member with rfl | rfl | rfl | rfl <;> first | rfl | cases named
  have exec := Step2AccountStatus.run_exec state
  rw [same,subject] at exec
  rcases ran : ((settled settings setOrder config connectorId answer σ).getUserStatus subjectSub).exec state.world
    with ⟨raised | result,world⟩
  · rw [ran] at exec
    rw [record_raised _ exec] at unknown
    simp [stepError] at unknown
  · rw [ran] at exec
    rw [record_answered _ exec] at unknown
    have known := getUserStatus_found settings setOrder config connectorId answer found (congrArg Prod.fst ran)
    dsimp only at unknown
    split at unknown
    next active => cases unknown
    next other => exact known (value_notFound.mp (Option.some.inj unknown))

theorem record_refused {state : Diagnosis σ} (same : state.ctx.connector = settled settings setOrder config connectorId answer σ)
    (refused : 400 ≤ (answer (userGet state.ctx.request.subjectSub)).statusCode) :
    (record Step1SystemAvailability.run .systemAvailability state).verdict.status = .fail := by
  have exec := Step1SystemAvailability.run_exec state
  obtain ⟨result,answered,degraded⟩ := checkAvailability_refused settings setOrder config connectorId answer refused state.world
  rw [same] at exec
  rcases ran : ((settled settings setOrder config connectorId answer σ).checkAvailability state.ctx.request.subjectSub).exec
    state.world with ⟨outcome,world⟩
  rw [Effect.answer,ran] at answered
  obtain rfl : outcome = .ok result := answered
  rw [ran] at exec
  rw [record_answered _ exec]
  simp [degraded]

/-- Over a server that keeps to its answers an account it refuses is escalated at the first
check, and no verdict ever reports an account as unknown. -/
theorem refused_account_escalates (request : DiagnosticRequest) (principal : Principal) (correlationId : String)
    (perStepTimeout : Timedelta) (world : σ) : ∃ result after,
    run.exec ⟨world,.fresh request principal (settled settings setOrder config connectorId answer σ) correlationId
        perStepTimeout⟩ = (.ok result,after) ∧
      (400 ≤ (answer (userGet request.subjectSub)).statusCode → result.outcome = .escalation ∧
        result.stepVerdicts.map VerdictResult.step = [.systemAvailability]) ∧
      ∀ verdict ∈ result.stepVerdicts, ¬ReportsUnknown verdict := by
  let start : Diagnosis σ := ⟨world,.fresh request principal (settled settings setOrder config connectorId answer σ)
    correlationId perStepTimeout⟩
  let first := record Step1SystemAvailability.run .systemAvailability start
  have named : first.verdict.step = .systemAvailability := record_named step1_law start
  obtain ⟨last,found,ran⟩ := run_exec start rfl
  refine ⟨resultOf start last,_,ran,?_⟩
  have stops : 400 ≤ (answer (userGet request.subjectSub)).statusCode →
      executed stepModules start = [first] ∧ first.verdict.status = .fail := by
    intro refused
    have fails : first.verdict.status = .fail := record_refused settings setOrder config connectorId answer rfl refused
    refine ⟨?_,fails⟩
    rw [stepModules,executed_cons,if_neg]
    change ¬first.verdict.status = .pass
    rw [fails]
    decide
  constructor
  · intro refused
    obtain ⟨only,fails⟩ := stops refused
    rw [only] at found
    obtain rfl : first = last := Option.some.inj found
    constructor
    · simp [resultOf,resolveOutcome,fails,resolveFailOutcome,named]
    · simp [resultOf,only,named]
  · intro verdict member
    obtain ⟨entry,inside,rfl⟩ := List.mem_map.mp member
    rcases le_or_gt 400 (answer (userGet request.subjectSub)).statusCode with refused | known
    · rw [(stops refused).1,List.mem_singleton] at inside
      rintro ⟨account,_⟩
      rw [inside,named] at account
      cases account
    · refine executed_forall (fun state => state.ctx.connector = start.ctx.connector ∧ state.ctx.request = start.ctx.request)
        (fun entry => ¬ReportsUnknown entry.verdict) stepModules ?_ start ⟨rfl,rfl⟩ entry inside
      rintro step among state ⟨connector,same⟩
      have law := stepModules_law step among
      exact ⟨record_known settings setOrder config connectorId answer known among connector (congrArg _ same),
        (record_connector law state).trans connector,(record_request law state).trans same⟩

end AccessAgent.OpenIAM
