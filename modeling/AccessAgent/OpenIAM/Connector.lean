import AccessAgent.OpenIAM.Http
import AccessAgent.Policy
import AccessAgent.Authorization

/-! The OpenIAM connector (`app/connectors/openiam/connector.py`). Bodies are
read as untyped JSON, in the order in which the code reads them. -/

namespace AccessAgent.OpenIAM
open Semantics

variable {σ : Type} [Clock σ]

def lockedSecondaryStatuses : List String := ["LOCKED","LOCKED_ADMIN"]
def deletedLoginStatuses : List String := ["DELETE"]
def grantChangeActions : List String :=
  ["ADD_USER_TO_ROLE","DELETE_USER_FROM_ROLE","ADD_USER_TO_GROUP","DELETE_USER_FROM_GROUP"]
def syncActions : List String :=
  ["PROVISIONING","GROUP_PROVISIONING","SEND_REPORT_OF_FAILED_PROVISION_REQUESTS",
    "RETRY_PROVISIONING","RECONCILE_USER","RECONCILE_IDM_WITH_TARGET","RECONCILE_TARGET_WITH_IDM",
    "RECONCILIATION_RECORD_FALSE","SYNCHRONIZATION_ORPHAN"]

/-! ### Settings, policy configuration and set order -/

inductive TemplatePiece
  | literal (text : String)
  | baseUrl
  | login

structure Settings where
  baseUrl : String
  passwordResetUrlTemplate : List TemplatePiece

def defaultPasswordResetUrlTemplate : List TemplatePiece :=
  [.baseUrl,.literal ("/idp/auth-select?reqAuthTypes=PASSWORD_AUTH,PUSH_AUTH,CERT_AUTH,SMS_AUTH," ++
    "VOICE_AUTH,CHALLENGE_RESPONSE_AUTH,DUO_AUTH,TOTP_AUTH,CRIIPTO_AUTH,KERB_AUTH,WEB_AUTH," ++
    "EMAIL_AUTH&login="),.login,.literal "&postbackUrl=%2Fidp%2FresetPasswordForm%3Flogin%3D",.login]

/-- The order in which a set built from these elements is walked: some permutation. -/
structure SetOrder where
  order : List Json → List Json
  perm : ∀ elements, (order elements).Perm elements

def SetOrder.insertion : SetOrder := ⟨id,fun _ => List.Perm.refl _⟩

structure Environment (σ : Type) where
  settings : Settings
  setOrder : SetOrder
  client : TokenClient σ

/-! ### Dates and records -/

def parseEndDate : Json → Option Datetime
  | .null => none
  | raw => Datetime.fromisoformat raw.pyStr

def successSpellings : List String := ["SUCCESS","PASS","PASSED","OK"]

def parseAuditBean (bean : Json) : Except Exn (Option AuthEvent) := do
  let rawTimestamp ← bean.get "timestamp"
  match parseEndDate rawTimestamp with
  | none => return none
  | some timestamp =>
    let result ← bean.getD "result" (.str "")
    let success := successSpellings.contains (Text.upper result.pyStr)
    let reason ← if success then pure Json.null else bean.get "action"
    let sourceIp ← bean.get "clientIP"
    return some ⟨timestamp,success,← reason.optionalText,← sourceIp.optionalText⟩

def targetName (entry : Json) : Except Exn (Option String) := do
  let value ← entry.get "value"
  if value.truthy then
    let value ← entry.item "value"
    return some value.pyStr
  else return none

def parsePermissionAuditEvent (bean : Json) : Except Exn (Option PermissionAuditEvent) := do
  let rawTimestamp ← bean.get "timestamp"
  match parseEndDate rawTimestamp with
  | none => return none
  | some occurredAt =>
    let roles ← bean.get "targetRoles"
    let groups ← bean.get "targetGroups"
    let entries ← (← roles.orEmpty.add groups.orEmpty).elements
    let targetNames ← entries.filterMapM targetName
    let action ← bean.getD "action" (.str "")
    let result ← bean.get "result"
    let actor ← bean.get "principal"
    return some ⟨action.pyStr,← result.optionalText,targetNames,← actor.optionalText,occurredAt⟩

/-! ### Reading a user record -/

def past (now : Datetime) (raw : Json) : Except Exn (Option Datetime) :=
  match parseEndDate raw with
  | none => .ok none
  | some date => do
    let before ← date.lt now
    return if before then some date else none

def deletedLogin (entry : Json) : Except Exn Bool := do
  let status ← entry.get "status"
  if ← status.memberOf deletedLoginStatuses then return true
  else
    let active ← entry.get "active"
    match active with
    | .bool false => return true
    | _ => return false

def endDated (now : Datetime) (bean : Json) : Except Exn Bool := do
  let raw ← bean.get "accessRightEndDate"
  return (← past now raw).isSome

def isDeprovisioned (principalList roleBeans groupBeans : Json) : Effect Exn σ Bool := do
  let entries ← principalList.elements
  if ← Effect.lift (entries.anyM deletedLogin) then return true
  else
    let grants ← roleBeans.add groupBeans
    if grants.truthy then
      let now ← datetimeNow
      let beans ← grants.elements
      Effect.lift (beans.allM (endDated now))
    else return false

def expiredLogin (now : Datetime) (entry : Json) : Except Exn (Option (Json × Datetime)) := do
  let raw ← entry.get "pwdExp"
  match ← past now raw with
  | none => return none
  | some expiry =>
    let name ← entry.get "managedSys"
    return some (if name.truthy then name else .str "unknown system",expiry)

def expiredPasswordLogins (principalList : Json) : Effect Exn σ (List (Json × Datetime)) := do
  let now ← datetimeNow
  let entries ← principalList.elements
  Effect.lift (entries.filterMapM (expiredLogin now))

def formatExpiredPasswordDetail (expired : List (Json × Datetime)) : String :=
  Text.join ", " (expired.map (fun login => login.1.pyStr ++ " (expired " ++ login.2.isodate ++ ")"))

def nativeEntry : List Json → Except Exn (Option Json)
  | [] => .ok none
  | entry::rest => do
    let managedSys ← entry.get "managedSys"
    if managedSys.isText "OPENIAM" then return some entry else nativeEntry rest

def selectLogin (principalList : Json) : Except Exn Json := do
  let entries ← principalList.elements
  match ← nativeEntry entries with
  | some entry => entry.get "login"
  | none => if principalList.truthy then (← principalList.head).get "login" else return .null

def buildPasswordResetUrl (settings : Settings) (baseUrl : String) (login : Json) : Except Exn String :=
  match login with
  | .str login => .ok (String.join (settings.passwordResetUrlTemplate.map fun
    | .literal text => text
    | .baseUrl => Text.rstripSlash baseUrl
    | .login => Text.quote login))
  | _ => .error (Exn.typeError "quote_from_bytes() expected bytes")

def baseUrlOf (settings : Settings) (config : Config) : String :=
  match config.connector.baseUrl with
  | some url => if url = "" then settings.baseUrl else url
  | none => settings.baseUrl

def resetUrl (settings : Settings) (config : Config) (login : Json) : Except Exn (Option String) := do
  if login.truthy then
    let url ← buildPasswordResetUrl settings (baseUrlOf settings config) login
    return some url
  else return none

def accountStatus (locked : Bool) (deprovisioned : Effect Exn σ Bool) (rawStatus : Json)
    (expired : List (Json × Datetime)) : Effect Exn σ AccountStatus := do
  if locked then return .locked
  else
    if ← deprovisioned then return .deprovisioned
    else if !rawStatus.isText "ACTIVE" then return .disabled
    else if !expired.isEmpty then return .passwordExpired
    else return .active

def userStatusFrom (settings : Settings) (config : Config) (body : Json) : Effect Exn σ UserStatusResult := do
  let rawStatus ← body.get "status"
  let rawSecondaryStatus ← body.get "secondaryStatus"
  let principalList := (← body.get "principalList").orEmpty
  let roleBeans := (← body.get "roleBeans").orEmpty
  let groupBeans := (← body.get "groupBeans").orEmpty
  let expired ← expiredPasswordLogins principalList
  let locked ← rawSecondaryStatus.memberOf lockedSecondaryStatuses
  let status ← accountStatus locked (isDeprovisioned principalList roleBeans groupBeans) rawStatus expired
  let login ← selectLogin principalList
  let passwordResetUrl ← resetUrl settings config login
  if status = .passwordExpired then
    let native := expired.any (fun login => login.1.isText "OPENIAM")
    return ⟨status,some (formatExpiredPasswordDetail expired),if native then passwordResetUrl else none⟩
  else
    return ⟨status,some ("OpenIAM status=" ++ rawStatus.pyStr ++ " secondaryStatus=" ++
      rawSecondaryStatus.pyStr),passwordResetUrl⟩

def roleOrGroup (kind : String) (bean : Json) : Except Exn EffectivePermission := do
  let name ← bean.item "name"
  let source ← bean.get "managedSysName"
  let raw ← bean.get "accessRightEndDate"
  return ⟨kind,← name.text,← source.optionalText,parseEndDate raw⟩

def effectivePermissionsFrom (body : Json) : Except Exn (List EffectivePermission) := do
  let roles ← (← body.get "roleBeans").orEmpty.elements
  let roles ← roles.mapM (roleOrGroup "role")
  let groups ← (← body.get "groupBeans").orEmpty.elements
  let groups ← groups.mapM (roleOrGroup "group")
  return roles ++ groups

/-! ### Managed systems -/

/-- The elements of `set(names)` in the order of a walk; the first of equal ones stays. -/
def nameSet (order : SetOrder) (names : List Json) : List Json :=
  order.order (names.foldl (fun found name => if found.any name.sameKey then found else found ++ [name]) [])

def managedSysName (entry : Json) : Except Exn (Option Json) := do
  let name ← entry.get "managedSys"
  if name.truthy then
    let name ← entry.item "managedSys"
    let _ ← name.memberOf []
    return some name
  else return none

def datedReply (reply : Json) : Except Exn (Option (Datetime × Json)) := do
  let date ← reply.get "dateStr"
  return (Datetime.strptime date.pyStr).map (fun date => (date,reply))

def latestReply (replies : Json) : Except Exn (Option Json) := do
  if replies.truthy then
    let replies ← replies.elements
    match ← replies.filterMapM datedReply with
    | [] => return replies.getLast?
    | first::rest =>
      let latest ← Datetime.order.scan Prod.fst first rest
      return some latest.2
  else return none

/-- What a dashboard answer says of the system, `none` where it says nothing. -/
def systemReply (body : Json) : Except Exn (Option Bool) := do
  let beans := (← body.get "beans").orEmpty
  if beans.truthy then
    let bean ← beans.head
    match ← latestReply (← bean.get "replies").orEmpty with
    | none => return none
    | some reply =>
      let status ← reply.get "status"
      return some (status.isText "Ok")
  else return none

def checkManagedSystem (client : TokenClient σ) (name : Json) : Effect Exn σ (Json × Option Bool) := do
  let response ← client.authorizedGet (dashboardSearch name)
  if response.failed then return (name,none)
  else
    let body ← response.json
    let reply ← systemReply body
    return (name,reply)

/-- `asyncio.gather`: every task runs, and the first exception among them is raised. -/
def gather {α : Type} : List (Effect Exn σ α) → Effect Exn σ (List α)
  | [] => pure []
  | task::rest => ⟨fun world =>
    let first := task.exec world
    let others := (gather rest).exec first.2
    (do return (← first.1)::(← others.1),others.2)⟩

def sortedNames (names : List Json) : Except Exn String := do
  let names ← names.mapM (fun
    | .str name => .ok name
    | other => .error (Exn.typeError ("sequence item 0: expected str instance, " ++ other.typeName ++ " found")))
  return Text.join ", " (names.mergeSort (fun a b => decide (a ≤ b)))

def checkAvailability (env : Environment σ) (subjectSub : String) : Effect Exn σ AvailabilityResult := do
  let userResponse ← env.client.authorizedGet (userGet subjectSub)
  if userResponse.failed then
    let checkedAt ← datetimeNow
    return ⟨.degraded,some ("Could not look up managed systems: user/admin/get returned " ++
      toString userResponse.statusCode),checkedAt⟩
  else
    let body ← userResponse.json
    let principalList ← (← body.get "principalList").orEmpty.elements
    let names ← Effect.lift (principalList.filterMapM managedSysName)
    let names := nameSet env.setOrder names
    if names.isEmpty then
      let checkedAt ← datetimeNow
      return ⟨.up,some "No managed systems found for this user.",checkedAt⟩
    else
      let results ← gather (names.map (checkManagedSystem env.client))
      let down := results.filter (fun result => result.2 == some false)
      if down.isEmpty then
        let names ← sortedNames names
        let checkedAt ← datetimeNow
        return ⟨.up,some ("All managed systems OK: " ++ names),checkedAt⟩
      else
        let checkedAt ← datetimeNow
        return ⟨.down,some ("Managed system(s) not working: " ++
          Text.join ", " (down.map (fun result => result.1.pyStr ++ " (status not Ok)"))),checkedAt⟩

/-! ### The methods of the interface -/

def resolveSubjectSub (env : Environment σ) (loginId : String) : Effect Exn σ (Option String) := do
  let response ← env.client.authorizedGet (usersSearch loginId)
  if response.failed then return none
  else
    let body ← response.json
    let beans := (← body.get "beans").orEmpty
    if beans.truthy then
      let bean ← beans.head
      let resolvedId ← bean.get "id"
      match resolvedId with
      | .null => return none
      | id => return some id.pyStr
    else return none

def getUserStatus (env : Environment σ) (config : Config) (subjectSub : String) :
    Effect Exn σ UserStatusResult := do
  let response ← env.client.authorizedGet (userGet subjectSub)
  if response.failed then
    return ⟨.notFound,some ("OpenIAM user/admin/get returned " ++ toString response.statusCode),none⟩
  else
    let body ← response.json
    userStatusFrom env.settings config body

def auditlogPage (subjectSub : String) (timeWindow : Timedelta) (actions : List String) (size : Int) :
    Effect Exn σ Request := do
  let now ← datetimeNow
  let start ← now.minus timeWindow
  return auditlogSearch subjectSub (Datetime.milliseconds start) (Datetime.milliseconds now.instant) actions size

def beansFrom {α : Type} (parse : Json → Except Exn (Option α)) (body : Json) : Except Exn (List α) := do
  let beans ← (← body.getD "beans" (.arr [])).elements
  beans.filterMapM parse

def getAuthEvents (env : Environment σ) (subjectSub : String) (timeWindow : Timedelta) :
    Effect Exn σ (List AuthEvent) := do
  let request ← auditlogPage subjectSub timeWindow ["LOGIN","DO_LOGIN"] 10
  let response ← env.client.authorizedGet request
  if response.failed then return []
  else
    let body ← response.json
    Effect.lift (beansFrom parseAuditBean body)

def getEffectivePermissions (env : Environment σ) (subjectSub : String) :
    Effect Exn σ (List EffectivePermission) := do
  let response ← env.client.authorizedGet (userGet subjectSub)
  if response.failed then return []
  else
    let body ← response.json
    Effect.lift (effectivePermissionsFrom body)

def requiredPermissions (resource : String) : List RolePermissionMapping → List RequiredPermission
  | [] => []
  | entry::rest =>
    if entry.resource = resource then entry.requiredRoles.map (fun role => ⟨"role",role⟩)
    else requiredPermissions resource rest

def getPermissionAuditEvents (env : Environment σ) (subjectSub : String) (timeWindow : Timedelta) :
    Effect Exn σ (List PermissionAuditEvent) := do
  let request ← auditlogPage subjectSub timeWindow (grantChangeActions ++ syncActions) 50
  let response ← env.client.authorizedGet request
  if response.failed then return []
  else
    let body ← response.json
    Effect.lift (beansFrom parsePermissionAuditEvent body)

def connector (env : Environment σ) (connectorId : String) (config : Config) : ConnectorSPI σ where
  connectorId := connectorId
  resolveSubjectSub := resolveSubjectSub env
  checkAvailability := checkAvailability env
  getUserStatus := getUserStatus env config
  getAuthEvents := getAuthEvents env
  getEffectivePermissions subjectSub _ := getEffectivePermissions env subjectSub
  getRequiredPermissions resource := pure (requiredPermissions resource config.rolePermissionMap)
  getPermissionAuditEvents := getPermissionAuditEvents env

end AccessAgent.OpenIAM
