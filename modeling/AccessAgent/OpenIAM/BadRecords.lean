import AccessAgent.OpenIAM.AccountStatus
import AccessAgent.OpenIAM.GrantDates
import AccessAgent.OpenIAM.CheckRuns
import AccessAgent.Requirements

/-! One bad record and the checks that read it. A record without a time is passed over. One
with a time must have values of the expected types, and its time must compare with the others:
where it does not, the whole check raises. -/

namespace AccessAgent.OpenIAM
open Semantics Raising Step4Authorization

variable {σ : Type} [Clock σ]

/-! ### One record -/

def Dateless (bean : Json) : Prop := parseEndDate (bean.field "timestamp") = none

instance (bean : Json) : Decidable (Dateless bean) := inferInstanceAs (Decidable (_ = _))

def signInSucceeded (bean : Json) : Bool :=
  match bean.getD "result" (.str "") with
  | .ok result => successSpellings.contains (Text.upper result.pyStr)
  | .error _ => false

/-- The texts of a sign-in record that are kept are texts, or missing. -/
def SignInTexts (bean : Json) : Prop :=
  (signInSucceeded bean = false → (bean.field "action").optional = true) ∧ (bean.field "clientIP").optional = true

/-- The texts of a grant-change record are texts or missing, and its targets are records. -/
def ChangeTexts (bean : Json) : Prop :=
  (bean.field "targetRoles").Records ∧ (bean.field "targetGroups").Records ∧ (bean.field "result").optional = true ∧
    (bean.field "principal").optional = true

theorem parseAuditBean_dateless {bean : Json} (object : bean.isObject = true) (dateless : Dateless bean) :
    parseAuditBean bean = .ok none := by
  rw [parseAuditBean,Json.get_field object,ok_bind,show parseEndDate (bean.field "timestamp") = none from dateless]
  rfl

theorem parsePermissionAuditEvent_dateless {bean : Json} (object : bean.isObject = true) (dateless : Dateless bean) :
    parsePermissionAuditEvent bean = .ok none := by
  rw [parsePermissionAuditEvent,Json.get_field object,ok_bind,show parseEndDate (bean.field "timestamp") = none from dateless]
  rfl

theorem getD_object {bean : Json} (object : bean.isObject = true) (key : String) (default : Json) :
    Succeeds (bean.getD key default) := by
  cases bean with
  | obj fields => exact ⟨_,rfl⟩
  | _ => simp [Json.isObject] at object

theorem succeeds_parseAuditBean {bean : Json} (object : bean.isObject = true) :
    Succeeds (parseAuditBean bean) ↔ Dateless bean ∨ SignInTexts bean := by
  by_cases dateless : Dateless bean
  · exact iff_of_true ⟨none,parseAuditBean_dateless object dateless⟩ (Or.inl dateless)
  · obtain ⟨time,dated⟩ := Option.ne_none_iff_exists'.mp dateless
    obtain ⟨result,read⟩ := getD_object object "result" (.str "")
    rw [or_iff_right dateless,parseAuditBean,Json.get_field object,ok_bind,dated]
    dsimp only
    rw [read,ok_bind,SignInTexts,signInSucceeded,read]
    dsimp only
    have texts : ∀ reason : Json, Succeeds (do
        let sourceIp ← bean.get "clientIP"
        return some (⟨time,successSpellings.contains (Text.upper result.pyStr),← reason.optionalText,
          ← sourceIp.optionalText⟩ : AuthEvent)) ↔ reason.optional = true ∧ (bean.field "clientIP").optional = true := by
      intro reason
      rw [Json.get_field object,ok_bind,← Json.succeeds_optionalText,← Json.succeeds_optionalText]
      simp only [succeeds_bind,succeeds_pure,and_true,exists_and_right]
      rfl
    cases success : successSpellings.contains (Text.upper result.pyStr) with
    | true =>
      rw [success] at texts
      simpa [Json.optional] using texts .null
    | false =>
      rw [success] at texts
      simpa [Json.get_field object,ok_bind] using texts (bean.field "action")

theorem succeeds_targetName {entry : Json} : Succeeds (targetName entry) ↔ entry.isObject = true := by
  rw [targetName,succeeds_bind]
  constructor
  · rintro ⟨value,read,_⟩
    exact (Json.get_success read).1
  · intro object
    refine ⟨_,Json.get_field object _,?_⟩
    split
    next truthy =>
      have present : entry.field "value" ≠ .null := by
        intro null
        simp [null,Json.truthy] at truthy
      exact succeeds_bind.mpr ⟨_,Json.item_field present,succeeds_pure _⟩
    next => exact succeeds_pure none

theorem succeeds_targets {roles groups : Json} :
    Succeeds (do (← (← roles.orEmpty.add groups.orEmpty).elements).filterMapM targetName) ↔ roles.Records ∧ groups.Records := by
  constructor
  · intro answers
    obtain ⟨sum,added,answers⟩ := succeeds_bind.mp answers
    obtain ⟨entries,walked,answers⟩ := succeeds_bind.mp answers
    have objects : ∀ entry ∈ entries, entry.isObject = true := fun entry member =>
      succeeds_targetName.mp (succeeds_filterMapM.mp answers entry member)
    rcases Json.add_success added with ⟨⟨left,right⟩,rfl⟩ | ⟨_,_,walks⟩
    · obtain rfl := Except.ok.inj walked
      exact ⟨⟨left,fun entry member => objects entry (List.mem_append_left _ member)⟩,right,fun entry member =>
        objects entry (List.mem_append_right _ member)⟩
    · obtain ⟨text,rest,rfl⟩ := walks entries walked
      simpa [Json.isObject] using objects (.str text) (by simp)
  · rintro ⟨⟨left,roleObjects⟩,right,groupObjects⟩
    rw [Json.orEmpty_items left,Json.orEmpty_items right]
    refine succeeds_bind.mpr ⟨_,rfl,succeeds_bind.mpr ⟨_,rfl,succeeds_filterMapM.mpr fun entry member => ?_⟩⟩
    rcases List.mem_append.mp member with role | group
    · exact succeeds_targetName.mpr (roleObjects entry role)
    · exact succeeds_targetName.mpr (groupObjects entry group)

theorem succeeds_parsePermissionAuditEvent {bean : Json} (object : bean.isObject = true) :
    Succeeds (parsePermissionAuditEvent bean) ↔ Dateless bean ∨ ChangeTexts bean := by
  by_cases dateless : Dateless bean
  · exact iff_of_true ⟨none,parsePermissionAuditEvent_dateless object dateless⟩ (Or.inl dateless)
  · obtain ⟨time,dated⟩ := Option.ne_none_iff_exists'.mp dateless
    obtain ⟨action,read⟩ := getD_object object "action" (.str "")
    rw [or_iff_right dateless,parsePermissionAuditEvent,ChangeTexts,Json.get_field object,ok_bind,dated]
    dsimp only
    rw [Json.get_field object,ok_bind,Json.get_field object,ok_bind,← and_assoc,← succeeds_targets,← Json.succeeds_optionalText,
      ← Json.succeeds_optionalText,read]
    simp only [Json.get_field object,succeeds_bind,succeeds_pure,and_true,exists_and_right]
    simp only [Succeeds,Except.ok.injEq,exists_eq',exists_eq_left',true_and,← exists_and_right,and_assoc]

/-! ### A list of records -/

/-- What an audit log returns for each request: records with values of any kind. -/
structure AuditRecords where
  records : Request → List Json
  objects : ∀ request, ∀ bean ∈ records request, bean.isObject = true

def recorded {α : Type} (parse : Json → Except Exn (Option α)) (beans : List Json) : List α :=
  beans.filterMap fun bean => match parse bean with
    | .ok found => found
    | .error _ => none

theorem recorded_success {α : Type} {parse : Json → Except Exn (Option α)} {beans : List Json} {events : List α}
    (ok : beans.filterMapM parse = .ok events) : events = recorded parse beans := by
  refine filterMapM_success (fun bean found known => ?_) ok
  rw [known]

theorem mem_recorded {α : Type} {parse : Json → Except Exn (Option α)} {beans : List Json} {event : α} :
    event ∈ recorded parse beans ↔ ∃ bean ∈ beans, parse bean = .ok (some event) := by
  rw [recorded,List.mem_filterMap]
  refine exists_congr fun bean => and_congr_right fun _ => ?_
  cases parse bean <;> simp

/-- The records of a kind that have times have times that compare with each other. -/
def TimesCompare (kind : Json → Prop) (beans : List Json) : Prop :=
  ∀ left ∈ beans, kind left → ∀ right ∈ beans, kind right → ∀ earlier later,
    parseEndDate (left.field "timestamp") = some earlier → parseEndDate (right.field "timestamp") = some later →
      earlier.aware = later.aware

/-- The events made of the records compare where the records do. -/
theorem times_compare {α : Type} {parse : Json → Except Exn (Option α)} {time : α → Datetime} {chosen : α → Prop}
    {kind : Json → Prop} {beans : List Json} {events : List α} (ok : beans.filterMapM parse = .ok events)
    (times : ∀ bean found, parse bean = .ok found → found.map time = parseEndDate (bean.field "timestamp"))
    (kinds : ∀ bean event, parse bean = .ok (some event) → (chosen event ↔ kind bean)) :
    (∀ left ∈ events, chosen left → ∀ right ∈ events, chosen right → (time left).aware = (time right).aware) ↔
      TimesCompare kind beans := by
  have member : ∀ event, event ∈ events ↔ ∃ bean ∈ beans, parse bean = .ok (some event) := by
    intro event
    rw [recorded_success ok,mem_recorded]
  have dated : ∀ bean ∈ beans, ∀ date, parseEndDate (bean.field "timestamp") = some date →
      ∃ event, parse bean = .ok (some event) ∧ time event = date := by
    intro bean inside date parsed
    obtain ⟨found,read⟩ := succeeds_filterMapM.mp ⟨events,ok⟩ bean inside
    have known := times bean found read
    rw [parsed] at known
    obtain ⟨event,rfl,same⟩ := Option.map_eq_some_iff.mp known
    exact ⟨event,read,same⟩
  constructor
  · intro compare left inside ofKind right other again earlier later first second
    obtain ⟨event,read,rfl⟩ := dated left inside earlier first
    obtain ⟨next,found,rfl⟩ := dated right other later second
    exact compare event ((member event).mpr ⟨left,inside,read⟩) ((kinds left event read).mpr ofKind) next
      ((member next).mpr ⟨right,other,found⟩) ((kinds right next found).mpr again)
  · intro compare left one ofKind right two again
    obtain ⟨bean,inside,read⟩ := (member left).mp one
    obtain ⟨other,present,found⟩ := (member right).mp two
    exact compare bean inside ((kinds bean left read).mp ofKind) other present ((kinds other right found).mp again) _ _
      (times bean _ read).symm (times other _ found).symm

theorem parseAuditBean_time {bean : Json} {found : Option AuthEvent} (ok : parseAuditBean bean = .ok found) :
    found.map AuthEvent.timestamp = parseEndDate (bean.field "timestamp") := by
  obtain ⟨raw,read,ok⟩ := bind_success ok
  obtain ⟨_,rfl⟩ := Json.get_success read
  split at ok
  next undated => rw [← pure_success ok,undated,Option.map_none]
  next time dated =>
    rw [dated]
    obtain ⟨result,_,ok⟩ := bind_success ok
    dsimp only at ok
    split at ok <;>
    · obtain ⟨reason,_,ok⟩ := bind_success ok
      obtain ⟨sourceIp,_,ok⟩ := bind_success ok
      obtain ⟨failureReason,_,ok⟩ := bind_success ok
      obtain ⟨address,_,ok⟩ := bind_success ok
      rw [← pure_success ok,Option.map_some]

/-! ### The sign-in check -/

theorem signInVerdict_decided {connectorId : String} {evaluatedAt : Datetime} {events : List AuthEvent} {verdict : VerdictResult}
    (ok : signInVerdict connectorId evaluatedAt events = .ok verdict) : verdict.status = .pass ∨ verdict.status = .fail := by
  cases events with
  | nil =>
    rw [← Except.ok.inj ok]
    exact Or.inl rfl
  | cons first rest =>
    obtain ⟨latest,_,ok⟩ := bind_success ok
    rw [← pure_success ok]
    cases latest.success with
    | true => exact Or.inl rfl
    | false => exact Or.inr rfl

theorem succeeds_signInVerdict {connectorId : String} {evaluatedAt : Datetime} {events : List AuthEvent} :
    Succeeds (signInVerdict connectorId evaluatedAt events) ↔
      ∀ left ∈ events, ∀ right ∈ events, left.timestamp.aware = right.timestamp.aware := by
  cases events with
  | nil => simp [signInVerdict]
  | cons first rest =>
    rw [signInVerdict,succeeds_return]
    exact Comparison.succeeds_scan_pairs

/-- The check of the sign-ins answers: its dated records have texts, and their times compare. -/
theorem succeeds_signIns (audit : AuditRecords) {request : Request} {connectorId : String} {evaluatedAt : Datetime} :
    Succeeds ((audit.records request).filterMapM parseAuditBean >>= signInVerdict connectorId evaluatedAt) ↔
      (∀ bean ∈ audit.records request, Dateless bean ∨ SignInTexts bean) ∧
        TimesCompare (fun _ => True) (audit.records request) := by
  rw [succeeds_bind_and fun events ok => ?_,succeeds_filterMapM]
  · exact and_congr_left fun _ => forall₂_congr fun bean member => succeeds_parseAuditBean (audit.objects request bean member)
  · rw [succeeds_signInVerdict,← times_compare ok (fun _ _ => parseAuditBean_time) (fun _ _ _ => Iff.rfl)]
    simp only [true_implies]

/-! ### The changes of grants -/

def changeAction (bean : Json) : String :=
  match bean.getD "action" (.str "") with
  | .ok action => action.pyStr
  | .error _ => ""

def targetOf (entry : Json) : Option String :=
  if (entry.field "value").truthy then some (entry.field "value").pyStr else none

def changeTargets (bean : Json) : List String :=
  (bean.listed "targetRoles" ++ bean.listed "targetGroups").filterMap targetOf

theorem targetName_success {entry : Json} {found : Option String} (ok : targetName entry = .ok found) :
    found = targetOf entry := by
  obtain ⟨value,read,ok⟩ := bind_success ok
  obtain ⟨object,rfl⟩ := Json.get_success read
  rw [targetOf]
  split at ok
  next truthy =>
    have present : entry.field "value" ≠ .null := by
      intro null
      simp [null,Json.truthy] at truthy
    obtain ⟨value,taken,ok⟩ := bind_success ok
    obtain rfl := Except.ok.inj ((Json.item_field present).symm.trans taken)
    rw [if_pos truthy,← pure_success ok]
  next falsy => rw [if_neg falsy,← pure_success ok]

/-- What a parsed change says: the time, the action and the targets of the record. -/
theorem parsePermissionAuditEvent_success {bean : Json} {found : Option PermissionAuditEvent}
    (ok : parsePermissionAuditEvent bean = .ok found) :
    found.map PermissionAuditEvent.occurredAt = parseEndDate (bean.field "timestamp") ∧
      ∀ event, found = some event → event.action = changeAction bean ∧ event.targetNames = changeTargets bean := by
  obtain ⟨raw,read,ok⟩ := bind_success ok
  obtain ⟨_,rfl⟩ := Json.get_success read
  split at ok
  next undated =>
    rw [← pure_success ok,undated]
    exact ⟨rfl,by simp⟩
  next occurredAt dated =>
    obtain ⟨roles,read,ok⟩ := bind_success ok
    obtain ⟨_,rfl⟩ := Json.get_success read
    obtain ⟨groups,read,ok⟩ := bind_success ok
    obtain ⟨_,rfl⟩ := Json.get_success read
    obtain ⟨sum,added,ok⟩ := bind_success ok
    obtain ⟨entries,walked,ok⟩ := bind_success ok
    obtain ⟨targetNames,named,ok⟩ := bind_success ok
    obtain ⟨action,acted,ok⟩ := bind_success ok
    obtain ⟨result,_,ok⟩ := bind_success ok
    obtain ⟨actor,_,ok⟩ := bind_success ok
    obtain ⟨resultText,_,ok⟩ := bind_success ok
    obtain ⟨actorText,_,ok⟩ := bind_success ok
    have targets : targetNames = changeTargets bean := by
      rw [filterMapM_success (fun _ _ => targetName_success) named,changeTargets]
      rcases Json.add_success added with ⟨_,rfl⟩ | ⟨_,_,walks⟩
      · rw [← Except.ok.inj walked]
        rfl
      · obtain ⟨text,rest,rfl⟩ := walks entries walked
        have object := succeeds_targetName.mp (succeeds_filterMapM.mp ⟨targetNames,named⟩ (.str text) (by simp))
        simp [Json.isObject] at object
    rw [← pure_success ok,dated]
    refine ⟨rfl,fun event same => ?_⟩
    rw [← Option.some.inj same,changeAction,acted]
    exact ⟨rfl,targets⟩

/-- A record of a provisioning or synchronization. -/
def SyncRecord (bean : Json) : Prop := changeAction bean ∈ syncAdvisoryActions

/-- A record of a grant of the name taken away. -/
def RemovalOf (name : String) (bean : Json) : Prop := changeAction bean ∈ revokeActions ∧ name ∈ changeTargets bean

theorem authorizationVerdict_decided {connectorId : String} {evaluatedAt : Datetime} {missing : List String}
    {expired : Dictionary String Datetime} {events : List PermissionAuditEvent} {verdict : VerdictResult}
    (ok : authorizationVerdict connectorId evaluatedAt missing expired events = .ok verdict) :
    verdict.status = .pass ∨ verdict.status = .fail := by
  obtain ⟨conclusion,concluded,ok⟩ := bind_success ok
  rw [← pure_success ok]
  rw [conclude_eq] at concluded
  split at concluded
  · obtain ⟨note,_,concluded⟩ := bind_success concluded
    rw [← pure_success concluded]
    exact Or.inl rfl
  · obtain ⟨revoked,_,concluded⟩ := bind_success concluded
    obtain ⟨note,_,concluded⟩ := bind_success concluded
    rw [← pure_success concluded]
    exact Or.inr rfl

theorem succeeds_authorizationVerdict {connectorId : String} {evaluatedAt : Datetime} {missing : List String}
    {expired : Dictionary String Datetime} {events : List PermissionAuditEvent} :
    Succeeds (authorizationVerdict connectorId evaluatedAt missing expired events) ↔
      Succeeds (syncAdvisoryNote (syncEvents events)) ∧ (missing ≠ [] → Succeeds (revokeEvents events)) := by
  rw [authorizationVerdict,succeeds_return,conclude_eq]
  by_cases none : missing = []
  · rw [if_pos none,succeeds_return]
    simp [none]
  · rw [if_neg none,succeeds_bind_and fun revoked _ => succeeds_return,and_comm]
    exact and_congr_right fun _ => (imp_iff_right none).symm

theorem succeeds_changes (audit : AuditRecords) {request : Request} {connectorId : String} {evaluatedAt : Datetime}
    {missing : List String} {expired : Dictionary String Datetime} :
    Succeeds ((audit.records request).filterMapM parsePermissionAuditEvent >>=
        authorizationVerdict connectorId evaluatedAt missing expired) ↔
      (∀ bean ∈ audit.records request, Dateless bean ∨ ChangeTexts bean) ∧ TimesCompare SyncRecord (audit.records request) ∧
        (missing ≠ [] → ∀ name, TimesCompare (RemovalOf name) (audit.records request)) := by
  rw [succeeds_bind_and fun events ok => ?_,succeeds_filterMapM]
  · exact and_congr_left fun _ => forall₂_congr fun bean member =>
      succeeds_parsePermissionAuditEvent (audit.objects request bean member)
  · have times : ∀ bean found, parsePermissionAuditEvent bean = .ok found →
        found.map PermissionAuditEvent.occurredAt = parseEndDate (bean.field "timestamp") :=
      fun bean found read => (parsePermissionAuditEvent_success read).1
    have sync : ∀ bean event, parsePermissionAuditEvent bean = .ok (some event) →
        (event.action ∈ syncAdvisoryActions ↔ SyncRecord bean) := by
      intro bean event read
      rw [SyncRecord,((parsePermissionAuditEvent_success read).2 event rfl).1]
    have removal : ∀ name bean event, parsePermissionAuditEvent bean = .ok (some event) →
        (event.action ∈ revokeActions ∧ name ∈ event.targetNames ↔ RemovalOf name bean) := by
      intro name bean event read
      obtain ⟨action,targets⟩ := (parsePermissionAuditEvent_success read).2 event rfl
      rw [RemovalOf,action,targets]
    rw [succeeds_authorizationVerdict,succeeds_syncAdvisoryNote,succeeds_revokeEvents,← times_compare ok times sync]
    simp only [← times_compare ok times (removal _)]
    refine and_congr ?_ (imp_congr_right fun _ => forall_congr' fun name => ?_)
    · simp only [syncEvents,List.mem_filter,List.contains_iff_mem,and_imp]
    · exact forall₂_congr fun left _ => ⟨fun compare ofName right member again => compare right member ofName again,
        fun compare right member ofName again => compare ofName right member again⟩

/-! ### The checks -/

/-- A body whose dates are of any kind; its other values are of the expected types. -/
structure AccountRecord extends UserRecord, GrantRecord

def Finishes (answer : Except Exn VerdictResult) : Prop :=
  ∃ verdict, answer = .ok verdict ∧ (verdict.status = .pass ∨ verdict.status = .fail)

/-- Records without a time put into a log. -/
def Inserts (records others : Request → List Json) : Prop :=
  ∀ request, ∃ before inserted after, records request = before ++ after ∧ others request = before ++ inserted ++ after ∧
    ∀ bean ∈ inserted, bean.isObject = true ∧ Dateless bean

variable (settings : Settings) (setOrder : SetOrder) (config : Config) (connectorId : String)

/-- The second, third and fourth check come to a verdict, and records without a time are of
no consequence. -/
structure Sturdy (ctx : DiagnosticContext σ) (world : σ) (record : AccountRecord) (audit : AuditRecords) : Prop where
  account : Finishes (Step2AccountStatus.run.answer
    (diagnosisOf settings setOrder (served ⟨200,.ok record.body⟩ audit.records) config connectorId ctx world))
  signIns : Finishes (Step3AuthEvents.run.answer
    (diagnosisOf settings setOrder (served ⟨200,.ok record.body⟩ audit.records) config connectorId ctx world))
  authorization : Finishes (Step4Authorization.run.answer
    (diagnosisOf settings setOrder (served ⟨200,.ok record.body⟩ audit.records) config connectorId ctx world))
  insertion : ∀ others, Inserts audit.records others →
    signInDecision settings setOrder config connectorId ⟨200,.ok record.body⟩ ctx world others =
        signInDecision settings setOrder config connectorId ⟨200,.ok record.body⟩ ctx world audit.records ∧
      authorizationDecision settings setOrder config connectorId ⟨200,.ok record.body⟩ ctx world others =
        authorizationDecision settings setOrder config connectorId ⟨200,.ok record.body⟩ ctx world audit.records

/-- No date that the account check reaches lacks an offset. -/
def AccountReads (world : σ) (record : AccountRecord) : Prop :=
  (∀ entry ∈ logins record.body, ¬Naive (entry.field "pwdExp")) ∧
    (Locked record.body ∨ (∃ entry ∈ logins record.body, DeletedLogin entry) ∨
      GrantsRead (Clock.now (Clock.now world).2).1.value (grants record.body))

def SignInsRead (ctx : DiagnosticContext σ) (world : σ) (audit : AuditRecords) : Prop :=
  ∃ request, auditRequest (Clock.now world).1.value ctx.request.subjectSub Step3AuthEvents.lookback ["LOGIN","DO_LOGIN"] 10 =
      .ok request ∧
    (∀ bean ∈ audit.records request, Dateless bean ∨ SignInTexts bean) ∧
    TimesCompare (fun _ => True) (audit.records request)

def ChangesRead (ctx : DiagnosticContext σ) (world : σ) (record : AccountRecord) (audit : AuditRecords) : Prop :=
  let required := requiredPermissions (ctx.request.systemId ++ ":default") config.rolePermissionMap
  required = [] ∨ (∀ bean ∈ grants record.body, ¬Naive (bean.field "accessRightEndDate")) ∧
    ∃ request, auditRequest (Clock.now (Clock.now world).2).1.value ctx.request.subjectSub auditLookback
        (grantChangeActions ++ syncActions) 50 = .ok request ∧
      (∀ bean ∈ audit.records request, Dateless bean ∨ ChangeTexts bean) ∧
      TimesCompare SyncRecord (audit.records request) ∧
      ((∃ name, Missing (Clock.now world).1.value required record.permissions name) →
        ∀ name, TimesCompare (RemovalOf name) (audit.records request))

theorem finishes_iff {answer : Except Exn VerdictResult}
    (decided : ∀ verdict, answer = .ok verdict → verdict.status = .pass ∨ verdict.status = .fail) :
    Finishes answer ↔ Succeeds answer :=
  ⟨fun finishes => finishes.imp fun _ known => known.1,fun answers => answers.imp fun verdict ok => ⟨ok,decided verdict ok⟩⟩

theorem account_finishes (ctx : DiagnosticContext σ) (world : σ) (record : AccountRecord) (audit : AuditRecords) :
    Finishes (Step2AccountStatus.run.answer (diagnosisOf settings setOrder (served ⟨200,.ok record.body⟩ audit.records) config
      connectorId ctx world)) ↔ AccountReads world record := by
  obtain ⟨evaluatedAt,run⟩ := step2_answer settings setOrder (served ⟨200,.ok record.body⟩ audit.records) config connectorId ctx
    world
  have asked := getUserStatus_answer settings setOrder config ⟨200,.ok record.body⟩ ctx.request.subjectSub world
  rw [if_neg (show ¬Response.failed ⟨200,.ok record.body⟩ = true from Bool.false_ne_true),ok_bind] at asked
  have answer : Step2AccountStatus.run.answer _ = accountVerdict connectorId evaluatedAt <$> userStatusAt settings config
    (Clock.now world).1.value (Clock.now (Clock.now world).2).1.value record.body := run.trans (congrArg _ asked)
  have reads := record.succeeds_userStatusAt settings config (Clock.now world).1.value (Clock.now (Clock.now world).2).1.value
  simp only [clashes_utcNow] at reads
  rw [AccountReads,← reads,answer]
  cases userStatusAt settings config (Clock.now world).1.value (Clock.now (Clock.now world).2).1.value record.body with
  | error raised => exact iff_of_false (fun finishes => nomatch finishes.choose_spec.1) (succeeds_error raised)
  | ok result =>
    refine iff_of_true ⟨_,rfl,?_⟩ ⟨result,rfl⟩
    rw [accountVerdict]
    split
    · exact Or.inl rfl
    · exact Or.inr rfl

theorem signIns_finish (ctx : DiagnosticContext σ) (world : σ) (record : AccountRecord) (audit : AuditRecords) :
    Finishes (Step3AuthEvents.run.answer (diagnosisOf settings setOrder (served ⟨200,.ok record.body⟩ audit.records) config
      connectorId ctx world)) ↔ SignInsRead ctx world audit := by
  obtain ⟨evaluatedAt,run⟩ := step3_answer settings setOrder (served ⟨200,.ok record.body⟩ audit.records) config connectorId ctx
    world
  rw [run,auditEvents_served,finishes_iff,SignInsRead,bind_assoc,succeeds_bind]
  · exact exists_congr fun request => and_congr_right fun _ => succeeds_signIns audit
  · intro verdict ok
    obtain ⟨events,_,ok⟩ := bind_success ok
    exact signInVerdict_decided ok

theorem authorization_finishes (ctx : DiagnosticContext σ) (world : σ) (record : AccountRecord) (audit : AuditRecords) :
    Finishes (Step4Authorization.run.answer (diagnosisOf settings setOrder (served ⟨200,.ok record.body⟩ audit.records) config
      connectorId ctx world)) ↔ ChangesRead config ctx world record audit := by
  obtain ⟨evaluatedAt,run⟩ := step4_answer settings setOrder (served ⟨200,.ok record.body⟩ audit.records) config connectorId ctx
    world
  rw [run,ChangesRead]
  by_cases asked : requiredPermissions (ctx.request.systemId ++ ":default") config.rolePermissionMap = []
  · rw [if_pos asked]
    exact iff_of_true ⟨_,rfl,Or.inl rfl⟩ (Or.inl asked)
  · have granted : grantsAnswer (served ⟨200,.ok record.body⟩ audit.records (userGet ctx.request.subjectSub)) =
        .ok record.permissions := record.effectivePermissionsFrom_ok
    rw [if_neg asked,or_iff_right asked,granted,ok_bind,finishes_iff,succeeds_bind_and fun assessment assessed => ?_,
      succeeds_assess,record.dated_iff]
    · obtain ⟨missing,expired⟩ := assessment
      have lacking := assess_success assessed
      have some : missing ≠ [] ↔ ∃ name, name ∈ missing :=
        ⟨List.exists_mem_of_ne_nil missing,fun found => List.ne_nil_of_mem found.choose_spec⟩
      dsimp only
      rw [auditEvents_served,bind_assoc,succeeds_bind]
      refine exists_congr fun request => and_congr_right fun _ => ?_
      rw [succeeds_changes audit,some]
      simp only [lacking]
    · intro verdict ok
      obtain ⟨assessment,_,ok⟩ := bind_success ok
      obtain ⟨events,_,ok⟩ := bind_success ok
      exact authorizationVerdict_decided ok

/-! ### Records without a time -/

theorem decision_bind {α : Type} (first : Except Exn α) (next : α → Except Exn VerdictResult) :
    decision (first >>= next) = first >>= fun value => decision (next value) := by
  cases first <;> rfl

omit [Clock σ] in
theorem decision_signIns (connectorId : String) (evaluatedAt other : Datetime) (events : List AuthEvent) :
    decision (signInVerdict connectorId evaluatedAt events) = decision (signInVerdict connectorId other events) := by
  cases events with
  | nil => rfl
  | cons first rest =>
    rw [signInVerdict,signInVerdict]
    cases Step3AuthEvents.latest first rest <;> rfl

theorem decision_changes (connectorId : String) (evaluatedAt other : Datetime) (missing : List String)
    (expired : Dictionary String Datetime) (events : List PermissionAuditEvent) :
    decision (authorizationVerdict connectorId evaluatedAt missing expired events) =
      decision (authorizationVerdict connectorId other missing expired events) := by
  rw [authorizationVerdict,authorizationVerdict]
  cases conclude missing expired events <;> rfl

/-- A lookup reads the same from a log with records without a time in it. -/
theorem auditEvents_inserted {α : Type} {parse : Json → Except Exn (Option α)} {account : Response}
    {records others : Request → List Json} (inserts : Inserts records others)
    (skips : ∀ bean : Json, bean.isObject = true → Dateless bean → parse bean = .ok none) (actions : List String) (size : Int)
    (subjectSub : String) (timeWindow : Timedelta) (now : Datetime) :
    auditEvents (served account others) parse actions size subjectSub timeWindow now =
      auditEvents (served account records) parse actions size subjectSub timeWindow now := by
  rw [auditEvents_served,auditEvents_served]
  refine bind_congr fun request => ?_
  obtain ⟨before,inserted,after,shape,other,dateless⟩ := inserts request
  rw [shape,other]
  exact filterMapM_skip fun bean member => skips bean (dateless bean member).1 (dateless bean member).2

theorem signIn_inserted (ctx : DiagnosticContext σ) (world : σ) (account : Response) {records others : Request → List Json}
    (inserts : Inserts records others) :
    signInDecision settings setOrder config connectorId account ctx world others =
      signInDecision settings setOrder config connectorId account ctx world records := by
  obtain ⟨evaluatedAt,left⟩ := step3_answer settings setOrder (served account others) config connectorId ctx world
  obtain ⟨again,right⟩ := step3_answer settings setOrder (served account records) config connectorId ctx world
  rw [signInDecision,signInDecision,left,right,decision_bind,decision_bind,
    auditEvents_inserted inserts fun _ => parseAuditBean_dateless]
  exact bind_congr fun events => decision_signIns connectorId evaluatedAt again events

theorem authorization_inserted (ctx : DiagnosticContext σ) (world : σ) (account : Response)
    {records others : Request → List Json} (inserts : Inserts records others) :
    authorizationDecision settings setOrder config connectorId account ctx world others =
      authorizationDecision settings setOrder config connectorId account ctx world records := by
  obtain ⟨evaluatedAt,left⟩ := step4_answer settings setOrder (served account others) config connectorId ctx world
  obtain ⟨again,right⟩ := step4_answer settings setOrder (served account records) config connectorId ctx world
  rw [authorizationDecision,authorizationDecision,left,right]
  split
  · rfl
  · rw [decision_bind,decision_bind]
    refine bind_congr fun effective => ?_
    rw [decision_bind,decision_bind]
    refine bind_congr fun assessment => ?_
    dsimp only
    rw [decision_bind,decision_bind,auditEvents_inserted inserts fun _ => parsePermissionAuditEvent_dateless]
    exact bind_congr fun events => decision_changes connectorId evaluatedAt again _ _ events

/-- The checks come to a verdict when the records and dates that they read are of the kinds
that they compare. -/
theorem sturdy_iff (ctx : DiagnosticContext σ) (world : σ) (record : AccountRecord) (audit : AuditRecords) :
    Sturdy settings setOrder config connectorId ctx world record audit ↔
      AccountReads world record ∧ SignInsRead ctx world audit ∧ ChangesRead config ctx world record audit := by
  rw [← account_finishes settings setOrder config connectorId ctx world record audit,
    ← signIns_finish settings setOrder config connectorId ctx world record audit,
    ← authorization_finishes settings setOrder config connectorId ctx world record audit]
  constructor
  · intro sturdy
    exact ⟨sturdy.account,sturdy.signIns,sturdy.authorization⟩
  · rintro ⟨account,signIns,authorization⟩
    refine ⟨account,signIns,authorization,?_⟩
    intro others inserts
    exact ⟨signIn_inserted settings setOrder config connectorId ctx world _ inserts,
      authorization_inserted settings setOrder config connectorId ctx world _ inserts⟩

def signInRecord (timestamp : String) : Json := .obj [("timestamp",.str timestamp),("result",.str "SUCCESS")]

/-- Two sign-ins, one with an offset and one without. -/
def mixedTimes : List Json := [signInRecord "1969-12-31T12:00:00Z",signInRecord "1969-12-31T13:00:00"]

def mixedContext : DiagnosticContext Unit :=
  .fresh ⟨"c-1","u-1","u-1","openiam",.loginFailure,"no access"⟩ ⟨"u-1",[]⟩ (stillConnector (fun _ => none) .up) "c-1"
    defaultPerStepTimeout

theorem mixed_times_raise : ∃ record : AccountRecord, ∃ audit : AuditRecords, record.body = .obj [] ∧
    audit.records = (fun _ => mixedTimes) ∧
    ¬Sturdy ⟨"",[]⟩ .insertion ⟨⟨"openiam",none,"",10,[]⟩,none,[]⟩ "openiam" mixedContext () record audit := by
  have nothing : ∀ key, (Json.obj []).field key = .null := fun key => rfl
  have records : ∀ key, ((Json.obj []).field key).Records := fun key => ⟨rfl,by simp [nothing,Json.items]⟩
  have noGrants : ∀ property : Json → Prop, ∀ bean ∈ grants (.obj []), property bean := by
    simp [grants,Json.listed,nothing,Json.items]
  have noLogins : ∀ property : Json → Prop, ∀ entry ∈ logins (.obj []), property entry := by
    simp [logins,Json.listed,nothing,Json.items]
  refine ⟨⟨⟨.obj [],rfl,rfl,records _,records _,records _,noLogins _,noLogins _⟩,noGrants _,noGrants _⟩,
    ⟨fun _ => mixedTimes,?_⟩,rfl,rfl,?_⟩
  · intro request
    simp [mixedTimes,signInRecord,Json.isObject]
  · intro sturdy
    obtain ⟨request,_,_,times⟩ := (signIns_finish _ _ _ _ mixedContext () _ _).mp sturdy.signIns
    have mixed := times (signInRecord "1969-12-31T12:00:00Z") (by simp [mixedTimes]) trivial
      (signInRecord "1969-12-31T13:00:00") (by simp [mixedTimes]) trivial _ _ rfl rfl
    exact absurd mixed (by decide)

end AccessAgent.OpenIAM
