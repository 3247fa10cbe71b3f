import AccessAgent.Context
import AccessAgent.Semantics.Dictionary

/-! The fourth check: required against effective permissions
(`app/orchestrator/steps/step4_authorization.py`). The computation is cut at the
await points: `assess` before the audit lookup, `conclude` after it. -/

namespace AccessAgent
open Semantics Step

namespace Step4Authorization

def revokeActions : List String := ["DELETE_USER_FROM_ROLE","DELETE_USER_FROM_GROUP"]

def syncAdvisoryActions : List String :=
  ["PROVISIONING","GROUP_PROVISIONING","SEND_REPORT_OF_FAILED_PROVISION_REQUESTS",
    "RETRY_PROVISIONING","RECONCILE_USER","RECONCILE_IDM_WITH_TARGET","RECONCILE_TARGET_WITH_IDM",
    "RECONCILIATION_RECORD_FALSE","SYNCHRONIZATION_ORPHAN"]

def auditLookback : Timedelta := 365 * dayMicroseconds

def causePriority : Dictionary String Nat :=
  [("access_revoked",0),("access_expired",1),("missing_role",2)]

def lookup {α : Type} (key : String) (dictionary : Dictionary String α) : Except Exn α :=
  match dictionary.find key with
  | some value => .ok value
  | none => .error (Exn.keyError key)

def classifyMissing (name : String) (expiredNames revokedNames : List String) : String :=
  if revokedNames.contains name then "access_revoked"
  else if expiredNames.contains name then "access_expired"
  else "missing_role"

def describeMissing (name cause : String) (expiredEndDates : Dictionary String Datetime)
    (revokeEvents : Dictionary String PermissionAuditEvent) : Except Exn String := do
  if cause = "access_revoked" then
    let event ← lookup name revokeEvents
    return "'" ++ name ++ "' was revoked on " ++ event.occurredAt.isoformat
  else if cause = "access_expired" then
    let endDate ← lookup name expiredEndDates
    return "'" ++ name ++ "' access expired on " ++ endDate.isoformat
  else return "'" ++ name ++ "'"

def syncAdvisoryNote : List PermissionAuditEvent → Except Exn (Option String)
  | [] => .ok none
  | first::rest => do
    let latest ← Datetime.order.scan PermissionAuditEvent.occurredAt first rest
    return some ("A provisioning/sync event was also recorded (action=" ++ latest.action ++
      ", result=" ++ latest.result.getD "None" ++ ", at=" ++ latest.occurredAt.isoformat ++
      ") — may be related; not yet confirmed as a definitive cause.")

def currentlyHeld (now : Datetime) (permission : EffectivePermission) : Except Exn Bool :=
  match permission.endDate with
  | none => .ok true
  | some endDate => endDate.gt now

def heldNames (now : Datetime) : List EffectivePermission → Except Exn (List String)
  | [] => .ok []
  | permission::rest => do
    let held ← currentlyHeld now permission
    let names ← heldNames now rest
    return if held then permission.name::names else names

def noteExpired (now : Datetime) (dates : Dictionary String Datetime)
    (permission : EffectivePermission) : Except Exn (Dictionary String Datetime) :=
  match permission.endDate with
  | none => .ok dates
  | some endDate => do
    let past ← endDate.le now
    return if past then dates.set permission.name endDate else dates

def expiredEndDates (now : Datetime) (effective : List EffectivePermission) :
    Except Exn (Dictionary String Datetime) :=
  effective.foldlM (noteExpired now) []

def noteRevoked (event : PermissionAuditEvent) (revoked : Dictionary String PermissionAuditEvent)
    (name : String) : Except Exn (Dictionary String PermissionAuditEvent) :=
  match revoked.find name with
  | none => .ok (revoked.set name event)
  | some existing => do
    let later ← event.occurredAt.gt existing.occurredAt
    return if later then revoked.set name event else revoked

def noteEvent (revoked : Dictionary String PermissionAuditEvent) (event : PermissionAuditEvent) :
    Except Exn (Dictionary String PermissionAuditEvent) :=
  if revokeActions.contains event.action then event.targetNames.foldlM (noteRevoked event) revoked
  else .ok revoked

def revokeEvents (auditEvents : List PermissionAuditEvent) :
    Except Exn (Dictionary String PermissionAuditEvent) :=
  auditEvents.foldlM noteEvent []

def leastCause : List String → Except Exn String
  | [] => .error (Exn.valueError "min() iterable argument is empty")
  | first::rest => do
    let priority ← lookup first causePriority
    let least ← rest.foldlM (fun best cause => do
      let priority ← lookup cause causePriority
      return if priority < best.2 then (cause,priority) else best) (first,priority)
    return least.1

/-- The required names not held and the end dates of the expired grants. -/
def assess (now : Datetime) (required : List RequiredPermission) (effective : List EffectivePermission) :
    Except Exn (List String × Dictionary String Datetime) := do
  let held ← heldNames now effective
  let expired ← expiredEndDates now effective
  return ((required.map RequiredPermission.name).filter (fun name => !held.contains name),expired)

def causesOf (missing : List String) (expired : Dictionary String Datetime)
    (revoked : Dictionary String PermissionAuditEvent) : Dictionary String String :=
  Dictionary.fill (fun name => classifyMissing name expired.keys revoked.keys) missing

structure Conclusion where
  status : VerdictStatus
  causeCode : Option String
  detail : Option String

def conclude (missing : List String) (expired : Dictionary String Datetime)
    (auditEvents : List PermissionAuditEvent) : Except Exn Conclusion := do
  let syncEvents := auditEvents.filter (fun event => syncAdvisoryActions.contains event.action)
  if missing.isEmpty then
    let note ← syncAdvisoryNote syncEvents
    return ⟨.pass,none,note⟩
  else
    let revoked ← revokeEvents auditEvents
    let causes := causesOf missing expired revoked
    let causeCode ← leastCause causes.values
    let descriptions ← missing.mapM (fun name => do
      let cause ← lookup name causes
      describeMissing name cause expired revoked)
    let detail := "Missing required access: " ++ Text.join "; " descriptions
    let note ← syncAdvisoryNote syncEvents
    return ⟨.fail,some causeCode,some (match note with
      | some note => detail ++ ". " ++ note
      | none => detail)⟩

variable {σ : Type} [Clock σ]

def run : Step σ VerdictResult := do
  let ctx ← context
  let resource := ctx.request.systemId ++ ":default"
  let required ← await (ctx.connector.getRequiredPermissions resource)
  if required.isEmpty then
    let evaluatedAt ← await datetimeNow
    return ⟨.authorization,.pass,none,none,some ctx.connector.connectorId,evaluatedAt⟩
  else
    let effective ← await (ctx.connector.getEffectivePermissions ctx.request.subjectSub resource)
    let now ← await datetimeNow
    let (missing,expired) ← assess now required effective
    let auditEvents ← await
      (ctx.connector.getPermissionAuditEvents ctx.request.subjectSub auditLookback)
    let conclusion ← conclude missing expired auditEvents
    let evaluatedAt ← await datetimeNow
    return ⟨.authorization,conclusion.status,conclusion.causeCode,conclusion.detail,
      some ctx.connector.connectorId,evaluatedAt⟩

theorem run_exec (diagnosis : Diagnosis σ) :
    run.exec diagnosis =
      let ctx := diagnosis.ctx
      let resource := ctx.request.systemId ++ ":default"
      match (ctx.connector.getRequiredPermissions resource).exec diagnosis.world with
      | (.error raised,world) => (.error raised,⟨world,ctx⟩)
      | (.ok [],world) => (.ok ⟨.authorization,.pass,none,none,some ctx.connector.connectorId,
          (Clock.now world).1.value⟩,⟨(Clock.now world).2,ctx⟩)
      | (.ok (first::rest),world) =>
        match (ctx.connector.getEffectivePermissions ctx.request.subjectSub resource).exec world with
        | (.error raised,world) => (.error raised,⟨world,ctx⟩)
        | (.ok effective,world) =>
          match assess (Clock.now world).1.value (first::rest) effective with
          | .error raised => (.error raised,⟨(Clock.now world).2,ctx⟩)
          | .ok (missing,expired) =>
            match (ctx.connector.getPermissionAuditEvents ctx.request.subjectSub auditLookback).exec
                (Clock.now world).2 with
            | (.error raised,world) => (.error raised,⟨world,ctx⟩)
            | (.ok auditEvents,world) => match conclude missing expired auditEvents with
              | .error raised => (.error raised,⟨world,ctx⟩)
              | .ok conclusion => (.ok ⟨.authorization,conclusion.status,conclusion.causeCode,
                  conclusion.detail,some ctx.connector.connectorId,(Clock.now world).1.value⟩,
                  ⟨(Clock.now world).2,ctx⟩) := by
  simp only [run,Effect.bind_exec,context_exec,await_exec]
  rcases (diagnosis.ctx.connector.getRequiredPermissions (diagnosis.ctx.request.systemId ++ ":default")).exec
    diagnosis.world with ⟨raised | required,world⟩
  · rfl
  cases required with
  | nil => rfl
  | cons first rest =>
    simp only [List.isEmpty_cons,Bool.false_eq_true,if_false,Effect.bind_exec,await_exec]
    rcases (diagnosis.ctx.connector.getEffectivePermissions diagnosis.ctx.request.subjectSub
      (diagnosis.ctx.request.systemId ++ ":default")).exec world with ⟨raised | effective,world⟩
    · rfl
    simp only [datetimeNow,Effect.lift_exec]
    rcases assess (Clock.now world).1.value (first::rest) effective with raised | ⟨missing,expired⟩
    · rfl
    dsimp only
    rcases (diagnosis.ctx.connector.getPermissionAuditEvents diagnosis.ctx.request.subjectSub
      auditLookback).exec (Clock.now world).2 with ⟨raised | auditEvents,world⟩
    · rfl
    dsimp only
    rcases conclude missing expired auditEvents with raised | conclusion
    · rfl
    · rfl

end Step4Authorization

end AccessAgent
