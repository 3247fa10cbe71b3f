import AccessAgent.Situation
import AccessAgent.OpenIAM.BadRecords
import AccessAgent.OpenIAM.Availability

/-! An OpenIAM server that answers, the situation that its records of a user amount to, and what
each lookup of the connector reads of it. -/

namespace AccessAgent.OpenIAM
open Semantics Raising

variable {σ : Type} [Clock σ]

/-! ### The server -/

/-- An entry of the audit log whose values are of the expected kinds. -/
structure AuditEntry (bean : Json) : Prop where
  object : bean.isObject = true
  texts : Dateless bean ∨ SignInTexts bean ∧ ChangeTexts bean
  offset : ¬Naive (bean.field "timestamp")

/-- A server with a record of the user, the connection tests of the user's systems and an audit
log. Its dates carry offsets, are missing or cannot be parsed. -/
structure Directory where
  account : AccountRecord
  named : ∀ entry ∈ logins account.body, (entry.field "managedSys").truthy = true →
    ∃ name, entry.field "managedSys" = .str name
  offsets : account.OffsetDates
  dashboard : String → Response
  tested : ∀ name, Named account.body name → (dashboard name).statusCode < 400 →
    ∃ record : DashboardRecord, (dashboard name).json = .ok record.document
  log : Request → List Json
  entries : ∀ request, ∀ bean ∈ log request, AuditEntry bean

namespace Directory
variable (directory : Directory)

def systems : SystemsRecord :=
  ⟨directory.account.body,directory.account.object,directory.account.principalList,directory.named⟩

def user : Response := ⟨200,.ok directory.account.body⟩

def serve (request : Request) : Response :=
  if (Json.find "actions[]" request.params).isSome then ⟨200,.ok (.obj [("beans",.arr (directory.log request))])⟩
  else observed directory.user directory.dashboard request

/-! ### The situation -/

/-- The times at which a diagnosis compares dates. -/
structure Times where
  passwordsAt : UtcNow
  grantsAt : UtcNow
  signInsAt : UtcNow
  authorizedAt : UtcNow
  changesAt : UtcNow

open Classical in
noncomputable def statusAt (passwordsAt grantsAt : Datetime) (body : Json) : AccountStatus :=
  if Locked body then .locked
  else if Deprovisioned grantsAt body then .deprovisioned
  else if ¬Active body then .disabled
  else if PasswordExpired passwordsAt body then .passwordExpired
  else .active

theorem statusAt_classifies {passwordsAt grantsAt : Datetime} {body : Json} {status : AccountStatus}
    (classified : Classifies passwordsAt grantsAt body status) : status = statusAt passwordsAt grantsAt body := by
  rw [statusAt]
  cases classified <;> simp [*]

/-- The newest entry with a time, the first of equal ones. -/
def Newest (beans : List Json) (bean : Json) : Prop :=
  ∃ before after date, beans = before ++ bean::after ∧ parseEndDate (bean.field "timestamp") = some date ∧
    (∀ other ∈ before, ∀ earlier, parseEndDate (other.field "timestamp") = some earlier → earlier.instant < date.instant) ∧
    ∀ other ∈ after, ∀ later, parseEndDate (other.field "timestamp") = some later → later.instant ≤ date.instant

/-- Some grant of this name has not ended. -/
def HeldAt (now : Datetime) (body : Json) (name : String) : Prop :=
  ∃ bean ∈ grants body, bean.field "name" = .str name ∧ ¬(Ended now bean ∨ EndsAt now bean)

/-- Some grant of this name has ended. -/
def EndedAt (now : Datetime) (body : Json) (name : String) : Prop :=
  ∃ bean ∈ grants body, bean.field "name" = .str name ∧ (Ended now bean ∨ EndsAt now bean)

/-- What a failed sign-in gives as its cause. -/
def failureAction (bean : Json) : String :=
  match bean.field "action" with
  | .str action => if action = "" then "auth_failed" else action
  | _ => "auth_failed"

open Classical in
/-- Why the newest sign-in failed, where it did. -/
noncomputable def lastFailure (beans : List Json) : Option String :=
  if failed : ∃ bean, Newest beans bean ∧ signInSucceeded bean = false then some (failureAction failed.choose) else none

def Demanded (config : Config) (resource name : String) : Prop :=
  ∃ permission ∈ requiredPermissions resource config.rolePermissionMap, permission.name = name

def SystemsWork : Prop := ∀ name, Named directory.account.body name → ¬Failing (directory.dashboard name)

open Classical in
noncomputable def situation (config : Config) (resource : String) (times : Times) (signIns changes : Request) : Situation where
  systems := if directory.SystemsWork then .up else .down
  account := statusAt times.passwordsAt.value times.grantsAt.value directory.account.body
  signInFailure := lastFailure (directory.log signIns)
  lacking := {name | Demanded config resource name ∧ ¬HeldAt times.authorizedAt.value directory.account.body name}
  revoked := {name | ∃ bean ∈ directory.log changes, ¬Dateless bean ∧ RemovalOf name bean}
  ended := {name | EndedAt times.authorizedAt.value directory.account.body name}

/-! ### The account and its systems -/

variable (settings : Settings) (setOrder : SetOrder) (config : Config)

/-- The environment of the connector over this server. -/
def environment (σ : Type) : Environment σ := ⟨settings,setOrder,answering directory.serve⟩

theorem checkAvailability_serve (subjectSub : String) : checkAvailability (directory.environment settings setOrder σ) subjectSub =
    checkAvailability ⟨settings,setOrder,answering (observed directory.user directory.dashboard)⟩ subjectSub := by rfl

theorem tests_answer {name : String} (named : Named directory.account.body name) :
    Succeeds (systemAnswer (directory.dashboard name)) := by
  rw [systemAnswer]
  split
  · exact succeeds_ok none
  next succeeded =>
    obtain ⟨record,read⟩ := directory.tested name named (not_le.mp fun error => succeeded (decide_eq_true error))
    rw [read]
    exact record.succeeds_systemReply

theorem user_found : directory.user.statusCode < 400 := by
  change 200 < 400
  decide

/-- The systems are up when none of those the user has logins for is failing, and down otherwise. -/
theorem systems_known (subjectSub : String) (world : σ) : ∃ result,
    (checkAvailability (directory.environment settings setOrder σ) subjectSub).answer world = .ok result ∧
      (result.status = .up ↔ directory.SystemsWork) ∧
      (result.status ≠ .down → result.status = .up) := by
  rw [checkAvailability_serve]
  obtain ⟨result,ok⟩ := (succeeds_checkAvailability settings setOrder directory.dashboard subjectSub world directory.systems
    directory.user_found rfl).mpr fun name named => directory.tests_answer named
  have classified := checkAvailability_success settings setOrder directory.dashboard subjectSub world directory.systems
    directory.user_found rfl ok
  have up : result.status = .up ↔ result.status ≠ .down :=
    ⟨fun up => by simp [up],classified.up⟩
  refine ⟨result,ok,?_,up.mpr⟩
  simp only [up,Ne,classified.down,not_exists,not_and]
  rfl

theorem account_known (subjectSub : String) (world : σ) : ∃ result,
    (getUserStatus (directory.environment settings setOrder σ) config subjectSub).answer world = .ok result ∧
      result.status = statusAt (Clock.now world).1.value (Clock.now (Clock.now world).2).1.value directory.account.body := by
  have answer := getUserStatus_answer settings setOrder config directory.user subjectSub world
  rw [if_neg (show ¬directory.user.failed = true from Bool.false_ne_true)] at answer
  obtain ⟨result,ok⟩ := directory.account.succeeds_offsetDates directory.offsets settings config (Clock.now world).1
    (Clock.now (Clock.now world).2).1
  obtain ⟨status,classified,_,rest⟩ := userStatusAt_success ok
  refine ⟨result,answer.trans ok,?_⟩
  rw [(statusResult_success rest).1]
  exact statusAt_classifies classified

/-! ### The audit log -/

theorem auditEvents_serve {α : Type} (parse : Json → Except Exn (Option α)) (actions : List String) (size : Int)
    (subjectSub : String) (timeWindow : Timedelta) (now : Datetime) :
    auditEvents directory.serve parse actions size subjectSub timeWindow now =
      auditRequest now subjectSub timeWindow actions size >>= fun request => (directory.log request).filterMapM parse := by
  rw [auditEvents,auditRequest]
  cases now.minus timeWindow <;> rfl

theorem signIns_read (request : Request) :
    (directory.log request).filterMapM parseAuditBean = .ok (recorded parseAuditBean (directory.log request)) := by
  obtain ⟨events,ok⟩ : Succeeds ((directory.log request).filterMapM parseAuditBean) := succeeds_filterMapM.mpr fun bean member =>
    (succeeds_parseAuditBean (directory.entries request bean member).object).mpr
      ((directory.entries request bean member).texts.imp_right And.left)
  rw [ok,recorded_success ok]

theorem changes_read (request : Request) : (directory.log request).filterMapM parsePermissionAuditEvent =
    .ok (recorded parsePermissionAuditEvent (directory.log request)) := by
  obtain ⟨events,ok⟩ : Succeeds ((directory.log request).filterMapM parsePermissionAuditEvent) :=
    succeeds_filterMapM.mpr fun bean member =>
      (succeeds_parsePermissionAuditEvent (directory.entries request bean member).object).mpr
        ((directory.entries request bean member).texts.imp_right And.right)
  rw [ok,recorded_success ok]

theorem parseAuditBean_success {bean : Json} {event : AuthEvent} (ok : parseAuditBean bean = .ok (some event)) :
    event.success = signInSucceeded bean := by
  obtain ⟨raw,_,ok⟩ := bind_success ok
  split at ok
  next undated => cases ok
  next time dated =>
    obtain ⟨result,read,ok⟩ := bind_success ok
    rw [signInSucceeded,read]
    dsimp only at ok
    split at ok <;>
    · obtain ⟨reason,_,ok⟩ := bind_success ok
      obtain ⟨sourceIp,_,ok⟩ := bind_success ok
      obtain ⟨failureReason,_,ok⟩ := bind_success ok
      obtain ⟨address,_,ok⟩ := bind_success ok
      rw [← Option.some.inj (pure_success ok)]

theorem parseAuditBean_failure {bean : Json} {event : AuthEvent} (ok : parseAuditBean bean = .ok (some event))
    (failed : event.success = false) : Step3AuthEvents.failureCause event = failureAction bean := by
  obtain ⟨raw,_,ok⟩ := bind_success ok
  split at ok
  next undated => cases ok
  next time dated =>
    obtain ⟨result,read,ok⟩ := bind_success ok
    dsimp only at ok
    split at ok
    next success =>
      obtain ⟨reason,_,ok⟩ := bind_success ok
      obtain ⟨sourceIp,_,ok⟩ := bind_success ok
      obtain ⟨failureReason,_,ok⟩ := bind_success ok
      obtain ⟨address,_,ok⟩ := bind_success ok
      rw [← Option.some.inj (pure_success ok)] at failed
      exact absurd (failed.symm.trans success) Bool.false_ne_true
    next failure =>
      obtain ⟨reason,read,ok⟩ := bind_success ok
      obtain ⟨sourceIp,_,ok⟩ := bind_success ok
      obtain ⟨failureReason,kept,ok⟩ := bind_success ok
      obtain ⟨address,_,ok⟩ := bind_success ok
      obtain ⟨_,known⟩ := Json.get_success read
      rw [← Option.some.inj (pure_success ok),Step3AuthEvents.failureCause,failureAction]
      rw [known] at kept
      cases action : bean.field "action" <;> rw [action] at kept <;> cases kept <;> rfl

/-- The event made of an entry, where it has a time. -/
def eventOf (bean : Json) : Option AuthEvent :=
  match parseAuditBean bean with
  | .ok found => found
  | .error _ => none

theorem eventOf_some {bean : Json} {event : AuthEvent} : eventOf bean = some event ↔ parseAuditBean bean = .ok (some event) := by
  rw [eventOf]
  cases parseAuditBean bean <;> simp

theorem eventOf_dated {bean : Json} (entry : AuditEntry bean) {date : Datetime} :
    parseEndDate (bean.field "timestamp") = some date ↔ ∃ event, eventOf bean = some event ∧ event.timestamp = date := by
  obtain ⟨found,read⟩ := (succeeds_parseAuditBean entry.object).mpr (entry.texts.imp_right And.left)
  rw [← parseAuditBean_time read,Option.map_eq_some_iff,eventOf,read]

theorem event_aware {bean : Json} (entry : AuditEntry bean) {event : AuthEvent} (made : eventOf bean = some event) :
    event.timestamp.aware = true := by
  by_contra naive
  exact entry.offset ⟨event.timestamp,(eventOf_dated entry).mpr ⟨event,made,rfl⟩,by simpa using naive⟩

theorem recorded_events (beans : List Json) : recorded parseAuditBean beans = beans.filterMap eventOf := by
  refine congrFun (congrArg List.filterMap (funext fun bean => ?_)) beans
  rw [eventOf]
  cases parseAuditBean bean <;> rfl

/-- The sign-in that counts, as an event and as an entry of the log. -/
theorem newest_iff (request : Request) (event : AuthEvent) :
    Datetime.order.First AuthEvent.timestamp (recorded parseAuditBean (directory.log request)) event ↔
      ∃ bean, Newest (directory.log request) bean ∧ eventOf bean = some event := by
  have entries := directory.entries request
  rw [recorded_events,Comparison.first_filterMap]
  constructor
  · rintro ⟨before,bean,after,shape,found,below,notAbove⟩
    rw [shape] at entries
    have dated := (eventOf_dated (entries bean (by simp))).mpr ⟨event,found,rfl⟩
    refine ⟨bean,⟨before,after,event.timestamp,shape,dated,?_,?_⟩,found⟩
    · intro other member earlier known
      obtain ⟨made,read,rfl⟩ := (eventOf_dated (entries other (by simp [member]))).mp known
      exact (below other member made read).2
    · intro other member later known
      obtain ⟨made,read,rfl⟩ := (eventOf_dated (entries other (by simp [member]))).mp known
      exact (notAbove other member made read).2
  · rintro ⟨bean,⟨before,after,date,shape,dated,below,notAbove⟩,found⟩
    rw [shape] at entries
    have here := event_aware (entries bean (by simp)) found
    obtain ⟨again,made,rfl⟩ := (eventOf_dated (entries bean (by simp))).mp dated
    obtain rfl := Option.some.inj (found.symm.trans made)
    refine ⟨before,bean,after,shape,found,?_,?_⟩
    · intro other member made read
      have entry := entries other (by simp [member])
      exact ⟨(event_aware entry read).trans here.symm,below other member _ ((eventOf_dated entry).mpr ⟨made,read,rfl⟩)⟩
    · intro other member made read
      have entry := entries other (by simp [member])
      exact ⟨(event_aware entry read).trans here.symm,notAbove other member _ ((eventOf_dated entry).mpr ⟨made,read,rfl⟩)⟩

theorem newest_event {request : Request} {bean : Json} (newest : Newest (directory.log request) bean) :
    ∃ event, Datetime.order.First AuthEvent.timestamp (recorded parseAuditBean (directory.log request)) event := by
  have known := newest
  obtain ⟨before,after,date,shape,dated,_,_⟩ := known
  obtain ⟨event,made,_⟩ := (eventOf_dated (directory.entries request bean (by simp [shape]))).mp dated
  exact ⟨event,(directory.newest_iff request event).mpr ⟨bean,newest,made⟩⟩

/-- The newest entry and the event that counts fail together, for one cause. -/
theorem newest_agrees {request : Request} {bean : Json} {event : AuthEvent} (newest : Newest (directory.log request) bean)
    (first : Datetime.order.First AuthEvent.timestamp (recorded parseAuditBean (directory.log request)) event) :
    event.success = signInSucceeded bean ∧ (event.success = false → Step3AuthEvents.failureCause event = failureAction bean) := by
  have known := newest
  obtain ⟨before,after,date,shape,dated,_,_⟩ := known
  obtain ⟨other,made,_⟩ := (eventOf_dated (directory.entries request bean (by simp [shape]))).mp dated
  obtain rfl := first.unique ((directory.newest_iff request other).mpr ⟨bean,newest,made⟩)
  exact ⟨parseAuditBean_success (eventOf_some.mp made),parseAuditBean_failure (eventOf_some.mp made)⟩

theorem lastFailure_cause {request : Request} {bean : Json} (newest : Newest (directory.log request) bean)
    (failed : signInSucceeded bean = false) : lastFailure (directory.log request) = some (failureAction bean) := by
  have some : ∃ bean, Newest (directory.log request) bean ∧ signInSucceeded bean = false := ⟨bean,newest,failed⟩
  obtain ⟨event,first⟩ := directory.newest_event newest
  obtain ⟨success,cause⟩ := directory.newest_agrees newest first
  obtain ⟨_,chosen⟩ := directory.newest_agrees some.choose_spec.1 first
  rw [lastFailure,dif_pos some,← cause (success.trans failed),← chosen (success.trans failed)]

theorem exists_newest (request : Request) (some : recorded parseAuditBean (directory.log request) ≠ []) :
    ∃ event, Datetime.order.First AuthEvent.timestamp (recorded parseAuditBean (directory.log request)) event := by
  have aware : ∀ event ∈ recorded parseAuditBean (directory.log request), event.timestamp.aware = true := by
    intro event member
    rw [recorded_events] at member
    obtain ⟨bean,inside,made⟩ := List.mem_filterMap.mp member
    exact event_aware (directory.entries request bean inside) made
  cases shape : recorded parseAuditBean (directory.log request) with
  | nil => exact absurd shape some
  | cons first rest =>
    rw [shape] at aware
    obtain ⟨event,scanned⟩ : Succeeds (Datetime.order.scan AuthEvent.timestamp first rest) :=
      Comparison.succeeds_scan_pairs.mpr fun left one right two => (aware left one).trans (aware right two).symm
    exact ⟨event,(Datetime.order.scan_ok AuthEvent.timestamp first rest event).mp scanned⟩

/-- The sign-ins of the log tell whether the newest has failed, and why. -/
theorem signIn_known (request : Request) :
    SignInCause (recorded parseAuditBean (directory.log request)) (lastFailure (directory.log request)) := by
  by_cases failed : ∃ bean, Newest (directory.log request) bean ∧ signInSucceeded bean = false
  · obtain ⟨bean,newest,bad⟩ := failed
    obtain ⟨event,first⟩ := directory.newest_event newest
    obtain ⟨success,cause⟩ := directory.newest_agrees newest first
    rw [directory.lastFailure_cause newest bad]
    exact ⟨event,first,success.trans bad,cause (success.trans bad)⟩
  · rw [lastFailure,dif_neg failed]
    by_cases none : recorded parseAuditBean (directory.log request) = []
    · exact Or.inl none
    · obtain ⟨event,first⟩ := directory.exists_newest request none
      obtain ⟨bean,newest,_⟩ := (directory.newest_iff request event).mp first
      refine Or.inr ⟨event,first,(directory.newest_agrees newest first).1.trans ?_⟩
      by_contra bad
      exact failed ⟨bean,newest,by simpa using bad⟩

/-! ### The access -/

theorem over_permissionOf {now : Datetime} {kind : String} {bean : Json} :
    (∃ date, (permissionOf kind bean).endDate = some date ∧ Datetime.order.NotAfter date now) ↔
      Ended now bean ∨ EndsAt now bean := by
  rw [OpenIAM.ended_iff,EndsAt,← exists_or]
  refine exists_congr fun date => ?_
  rw [← and_or_left]
  refine and_congr_right fun _ => ?_
  rw [Comparison.NotAfter,Comparison.Before,le_iff_lt_or_eq,and_or_left]
  rfl

theorem held_iff (now : UtcNow) (name : String) :
    Step4Authorization.Held now.value directory.account.permissions name ↔ HeldAt now.value directory.account.body name := by
  have comparable : ∀ bean ∈ grants directory.account.body, ¬Clashes now.value (bean.field "accessRightEndDate") :=
    fun bean member clash => directory.offsets.2 bean member ((clashes_utcNow now _).mp clash)
  constructor
  · rintro ⟨permission,member,inForce,rfl⟩
    obtain ⟨kind,bean,inside,rfl⟩ := directory.account.mem_permissions member
    obtain ⟨name,known⟩ := directory.account.name bean inside
    refine ⟨bean,inside,?_,(inForce_permissionOf (comparable bean inside)).mp inForce⟩
    rw [permissionOf,known]
    rfl
  · rintro ⟨bean,inside,known,lasting⟩
    obtain ⟨kind,granted⟩ := directory.account.permission_of_grant inside
    refine ⟨_,granted,(inForce_permissionOf (comparable bean inside)).mpr lasting,?_⟩
    rw [permissionOf,known]
    rfl

theorem ended_iff (now : Datetime) (name : String) :
    Step4Authorization.Expired now directory.account.permissions name ↔ EndedAt now directory.account.body name := by
  constructor
  · rintro ⟨permission,member,named,lapsed⟩
    obtain ⟨kind,bean,inside,rfl⟩ := directory.account.mem_permissions member
    obtain ⟨text,known⟩ := directory.account.name bean inside
    rw [permissionOf,known] at named
    exact ⟨bean,inside,known.trans (congrArg Json.str named),over_permissionOf.mp lapsed⟩
  · rintro ⟨bean,inside,known,lapsed⟩
    obtain ⟨kind,granted⟩ := directory.account.permission_of_grant inside
    refine ⟨_,granted,?_,over_permissionOf.mpr lapsed⟩
    rw [permissionOf,known]
    rfl

theorem revoked_iff (request : Request) (name : String) :
    Step4Authorization.Revoked (recorded parsePermissionAuditEvent (directory.log request)) name ↔
      ∃ bean ∈ directory.log request, ¬Dateless bean ∧ RemovalOf name bean := by
  constructor
  · rintro ⟨event,member,removes,targets⟩
    obtain ⟨bean,inside,read⟩ := mem_recorded.mp member
    obtain ⟨dated,said⟩ := parsePermissionAuditEvent_success read
    obtain ⟨action,names⟩ := said event rfl
    refine ⟨bean,inside,?_,action ▸ removes,names ▸ targets⟩
    rw [Dateless,← dated]
    simp
  · rintro ⟨bean,inside,dated,removes,targets⟩
    have entry := directory.entries request bean inside
    obtain ⟨found,read⟩ := (succeeds_parsePermissionAuditEvent entry.object).mpr (entry.texts.imp_right And.right)
    obtain ⟨time,said⟩ := parsePermissionAuditEvent_success read
    cases found with
    | none => exact absurd time.symm dated
    | some event =>
      obtain ⟨action,names⟩ := said event rfl
      exact ⟨event,mem_recorded.mpr ⟨bean,inside,read⟩,action ▸ removes,names ▸ targets⟩

theorem conclude_answers (request : Request) (missing : List String) (expired : Dictionary String Datetime) :
    Succeeds (Step4Authorization.conclude missing expired (recorded parsePermissionAuditEvent (directory.log request))) := by
  let audit : AuditRecords := ⟨directory.log,fun request bean member => (directory.entries request bean member).object⟩
  have compare : ∀ kind, TimesCompare kind (directory.log request) := by
    intro kind left inside _ right other _ earlier later first second
    have aware : ∀ bean ∈ directory.log request, ∀ date, parseEndDate (bean.field "timestamp") = some date →
        date.aware = true := by
      intro bean member date dated
      by_contra naive
      exact (directory.entries request bean member).offset ⟨date,dated,by simpa using naive⟩
    exact (aware left inside earlier first).trans (aware right other later second).symm
  have answers : Succeeds ((directory.log request).filterMapM parsePermissionAuditEvent >>=
      authorizationVerdict "" (default : UtcNow).value missing expired) := (succeeds_changes audit).mpr
    ⟨fun bean member => (directory.entries request bean member).texts.imp_right And.right,compare _,fun _ _ => compare _⟩
  rw [directory.changes_read,ok_bind,authorizationVerdict,succeeds_return] at answers
  exact answers

/-- The authorization check, over the answers of this server, says why access is lacking. -/
theorem access_known (resource : String) (times : Times) (signIns changes : Request) {answers : AuthorizationAnswers}
    (required : answers.required = .ok (requiredPermissions resource config.rolePermissionMap))
    (effective : answers.effective = .ok directory.account.permissions) (now : answers.now = times.authorizedAt.value)
    (audited : answers.auditEvents = .ok (recorded parsePermissionAuditEvent (directory.log changes))) :
    DiagnosticOrchestrator.assessment answers =
      .ok (statusOf (directory.situation config resource times signIns changes).accessCause,
        (directory.situation config resource times signIns changes).accessCause) := by
  refine DiagnosticOrchestrator.assessment_cause required effective audited ?_ (directory.conclude_answers changes) _ ?_
    (directory.revoked_iff changes) ?_
  · rw [now]
    exact (directory.account.dated_iff times.authorizedAt).mpr directory.offsets.2
  · intro name
    rw [now,Step4Authorization.Missing,directory.held_iff]
    rfl
  · rw [now]
    exact directory.ended_iff times.authorizedAt.value

end Directory

end AccessAgent.OpenIAM
