import AccessAgent.Python.Datetime

/-! The typed answers of a connector (`app/connectors/types.py`). -/

namespace AccessAgent

inductive AvailabilityStatus
  | up
  | down
  | degraded
deriving DecidableEq, Repr

def AvailabilityStatus.value : AvailabilityStatus → String
  | .up => "up"
  | .down => "down"
  | .degraded => "degraded"

structure AvailabilityResult where
  status : AvailabilityStatus
  detail : Option String
  checkedAt : Datetime
deriving DecidableEq

inductive AccountStatus
  | active
  | locked
  | disabled
  | passwordExpired
  | deprovisioned
  | notFound
deriving DecidableEq, Repr

def AccountStatus.value : AccountStatus → String
  | .active => "active"
  | .locked => "locked"
  | .disabled => "disabled"
  | .passwordExpired => "password_expired"
  | .deprovisioned => "deprovisioned"
  | .notFound => "not_found"

structure UserStatusResult where
  status : AccountStatus
  detail : Option String
  passwordResetUrl : Option String
deriving DecidableEq

structure AuthEvent where
  timestamp : Datetime
  success : Bool
  failureReason : Option String
  sourceIp : Option String
deriving DecidableEq

structure EffectivePermission where
  kind : String
  name : String
  source : Option String
  endDate : Option Datetime
deriving DecidableEq

structure RequiredPermission where
  kind : String
  name : String
deriving DecidableEq

structure PermissionAuditEvent where
  action : String
  result : Option String
  targetNames : List String
  actor : Option String
  occurredAt : Datetime
deriving DecidableEq

end AccessAgent
