import AccessAgent.Python.Datetime

/-! Step verdicts and the result of a run (`app/orchestrator/verdicts.py`). -/

namespace AccessAgent

inductive VerdictStatus
  | pass
  | fail
  | inconclusive
deriving DecidableEq, Repr

def VerdictStatus.value : VerdictStatus → String
  | .pass => "pass"
  | .fail => "fail"
  | .inconclusive => "inconclusive"

inductive FunnelStep
  | systemAvailability
  | accountStatus
  | authEvents
  | authorization
  | pathInfrastructure
deriving DecidableEq, Repr

def FunnelStep.value : FunnelStep → String
  | .systemAvailability => "system_availability"
  | .accountStatus => "account_status"
  | .authEvents => "auth_events"
  | .authorization => "authorization"
  | .pathInfrastructure => "path_infrastructure"

structure VerdictResult where
  step : FunnelStep
  status : VerdictStatus
  causeCode : Option String
  detail : Option String
  sourceConnectorId : Option String
  evaluatedAt : Datetime
deriving DecidableEq

inductive Outcome
  | selfServiceFix
  | remediationPending
  | accessGap
  | escalation
deriving DecidableEq, Repr

def Outcome.value : Outcome → String
  | .selfServiceFix => "self_service_fix"
  | .remediationPending => "remediation_pending"
  | .accessGap => "access_gap"
  | .escalation => "escalation"

def passwordResetEligibleCauses : List (FunnelStep × String) :=
  [(.accountStatus,"password_expired")]

structure DiagnosticRunResult where
  correlationId : String
  stepVerdicts : List VerdictResult
  outcome : Outcome
  escalated : Bool
  passwordResetUrl : Option String
deriving DecidableEq

end AccessAgent
