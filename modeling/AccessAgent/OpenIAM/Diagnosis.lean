import AccessAgent.OpenIAM.Directory
import AccessAgent.Semantics.Matching

/-! A diagnosis over an OpenIAM server that answers: what it decides is what the records of the
user amount to at the times at which they are read, however they are listed and whatever offsets their
dates have. -/

namespace AccessAgent.OpenIAM.Directory
open Semantics Raising

variable {σ : Type} [Clock σ]
variable (directory : Directory) (settings : Settings) (setOrder : SetOrder) (config : Config) (connectorId : String)

/-! ### The diagnosis -/

def openiam (σ : Type) [Clock σ] : ConnectorSPI σ := connector (directory.environment settings setOrder σ) connectorId config

/-- When a run reads the clock to compare dates. -/
def timesOf (connector : ConnectorSPI σ) (request : DiagnosticRequest) (world : σ) : Times :=
  let checked := settle ((connector.checkAvailability request.subjectSub).exec world)
  let known := settle ((connector.getUserStatus request.subjectSub).exec checked)
  let listed := settle ((connector.getAuthEvents request.subjectSub Step3AuthEvents.lookback).exec known)
  ⟨(Clock.now checked).1,(Clock.now (Clock.now checked).2).1,(Clock.now known).1,(Clock.now listed).1,
    (Clock.now (Clock.now listed).2).1⟩

/-- The two audit searches of a run, at its times. -/
structure Searches (subjectSub : String) (times : Times) (signIns changes : Request) : Prop where
  signIns : auditRequest times.signInsAt.value subjectSub Step3AuthEvents.lookback ["LOGIN","DO_LOGIN"] 10 = .ok signIns
  changes : auditRequest times.changesAt.value subjectSub Step4Authorization.auditLookback (grantChangeActions ++ syncActions)
    50 = .ok changes

theorem answers_describe (request : DiagnosticRequest) (world : σ) {signIns changes : Request}
    (searches : Searches request.subjectSub (timesOf (directory.openiam settings setOrder config connectorId σ) request world)
      signIns changes) :
    (answers (directory.openiam settings setOrder config connectorId σ) request world).Describes
      (directory.situation config (request.systemId ++ ":default")
        (timesOf (directory.openiam settings setOrder config connectorId σ) request world) signIns changes) := by
  let openiam := directory.openiam settings setOrder config connectorId σ
  let checked := settle ((openiam.checkAvailability request.subjectSub).exec world)
  let known := settle ((openiam.getUserStatus request.subjectSub).exec checked)
  let listed := settle ((openiam.getAuthEvents request.subjectSub Step3AuthEvents.lookback).exec known)
  have signedIn : (answers openiam request world).authEvents = .ok (recorded parseAuditBean (directory.log signIns)) := by
    have asked : (openiam.getAuthEvents request.subjectSub Step3AuthEvents.lookback).answer known = _ :=
      getAuthEvents_answer settings setOrder directory.serve request.subjectSub Step3AuthEvents.lookback known
    refine asked.trans ?_
    rw [directory.auditEvents_serve,← directory.signIns_read,show auditRequest (Clock.now known).1.value _ _ _ _ = _ from
      searches.signIns]
    rfl
  have changed : (answers openiam request world).authorization.auditEvents =
      .ok (recorded parsePermissionAuditEvent (directory.log changes)) := by
    have asked : (openiam.getPermissionAuditEvents request.subjectSub Step4Authorization.auditLookback).answer
        (Clock.now listed).2 = _ := getPermissionAuditEvents_answer settings setOrder directory.serve request.subjectSub
      Step4Authorization.auditLookback (Clock.now listed).2
    refine asked.trans ?_
    rw [directory.auditEvents_serve,← directory.changes_read,
      show auditRequest (Clock.now (Clock.now listed).2).1.value _ _ _ _ = _ from searches.changes]
    rfl
  refine ⟨?_,?_,⟨_,signedIn,directory.signIn_known signIns⟩,?_⟩
  · obtain ⟨result,answered,up,other⟩ := directory.systems_known settings setOrder request.subjectSub world
    refine ⟨result,answered,?_⟩
    rw [situation]
    split
    next works => exact up.mpr works
    next fails =>
      by_contra stands
      exact fails (up.mp (other stands))
  · exact directory.account_known settings setOrder config request.subjectSub checked
  · refine directory.access_known config _ _ signIns changes rfl ?_ rfl changed
    have granted := getEffectivePermissions_exec settings setOrder directory.serve request.subjectSub listed
    refine (congrArg Prod.fst granted).trans ?_
    change grantsAnswer directory.user = _
    rw [grantsAnswer,if_neg (show ¬directory.user.failed = true from Bool.false_ne_true)]
    exact directory.account.effectivePermissionsFrom_ok

/-! ### A server that knows nothing of the user but the logins for some systems -/

structure KnownLogin where
  system : String
  expiry : String
  offset : ¬Naive (.str expiry)

def unending (system : String) : KnownLogin := ⟨system,"",by rintro ⟨date,⟨⟩,_⟩⟩

def loginFor (login : KnownLogin) : Json := .obj [("managedSys",.str login.system),("pwdExp",.str login.expiry)]

def loginsOnly (known : List KnownLogin) : Json :=
  .obj [("status",.str "ACTIVE"),("principalList",.arr (known.map loginFor))]

theorem forall_loginFor {property : Json → Prop} {known : List KnownLogin} (each : ∀ login, property (loginFor login)) :
    ∀ entry ∈ logins (loginsOnly known), property entry :=
  List.forall_mem_map.mpr fun login _ => each login

theorem forall_noGrant {property : Json → Prop} {known : List KnownLogin} : ∀ bean ∈ grants (loginsOnly known), property bean :=
  nofun

def ofLogins (known : List KnownLogin) : Directory where
  account := {
    body := loginsOnly known
    object := rfl
    hashable := rfl
    principalList := ⟨rfl,forall_loginFor fun _ => rfl⟩
    roleBeans := ⟨rfl,nofun⟩
    groupBeans := ⟨rfl,nofun⟩
    loginStatus := forall_loginFor fun _ => rfl
    loginText := forall_loginFor fun _ => nofun
    name := forall_noGrant
    source := forall_noGrant
  }
  named := forall_loginFor fun login _ => ⟨login.system,rfl⟩
  offsets := ⟨forall_loginFor KnownLogin.offset,forall_noGrant⟩
  dashboard _ := ⟨404,.ok .null⟩
  tested _ _ found := absurd found (by decide)
  log _ := []
  entries _ := nofun

def appUserConfig : Config := ⟨⟨"openiam",none,"",10,[]⟩,none,[⟨"openiam:default",["APP_USER"]⟩]⟩

/-- The clock is late enough to look back from. -/
def LooksBack (σ : Type) [Clock σ] : Prop := ∀ world : σ,
  Succeeds ((Clock.now world).1.value.minus Step3AuthEvents.lookback) ∧
    Succeeds ((Clock.now world).1.value.minus Step4Authorization.auditLookback)

theorem looksBack_unit : LooksBack Unit := by
  intro world
  change Succeeds ((default : UtcNow).value.minus _) ∧ Succeeds ((default : UtcNow).value.minus _)
  exact ⟨⟨_,rfl⟩,⟨_,rfl⟩⟩

theorem searches_exist (opens : LooksBack σ) (connector : ConnectorSPI σ) (request : DiagnosticRequest) (world : σ) :
    ∃ signIns changes, Searches request.subjectSub (timesOf connector request world) signIns changes := by
  have searched : ∀ now window actions size, Succeeds (Datetime.minus now window) →
      Succeeds (auditRequest now request.subjectSub window actions size) := by
    rintro now window actions size ⟨start,opens⟩
    rw [auditRequest,opens]
    exact succeeds_pure _
  obtain ⟨signIns,asked⟩ := searched _ Step3AuthEvents.lookback ["LOGIN","DO_LOGIN"] 10 (opens _).1
  obtain ⟨changes,audited⟩ := searched _ Step4Authorization.auditLookback (grantChangeActions ++ syncActions) 50 (opens _).2
  exact ⟨signIns,changes,asked,audited⟩

/-! ### What is decided -/

/-- What a diagnosis over the server finds and decides is what the records of the user amount to. -/
theorem diagnosis_refines (request : DiagnosticRequest) (principal : Principal) (correlationId : String)
    (perStepTimeout : Timedelta) (world : σ) {signIns changes : Request}
    (searches : Searches request.subjectSub (timesOf (directory.openiam settings setOrder config connectorId σ) request world)
      signIns changes) :
    let situation := directory.situation config (request.systemId ++ ":default")
      (timesOf (directory.openiam settings setOrder config connectorId σ) request world) signIns changes
    ∃ result after, DiagnosticOrchestrator.run.exec ⟨world,.fresh request principal
        (directory.openiam settings setOrder config connectorId σ) correlationId perStepTimeout⟩ = (.ok result,after) ∧
      result.findings = situation.findings ∧ result.outcome = situation.outcome :=
  DiagnosticOrchestrator.run_situation _ world request principal correlationId perStepTimeout
    (directory.answers_describe settings setOrder config connectorId request world searches)

/-- A user with a login for one system and no role, where one is required. -/
theorem situation_unending (times : Times) (signIns changes : Request) :
    let situation := (ofLogins [unending "AD"]).situation appUserConfig "openiam:default" times signIns changes
    situation.causes = [(.systemAvailability,none),(.accountStatus,none),(.authEvents,none),
      (.authorization,some "missing_role")] ∧ situation.AccessGap := by
  intro situation
  have each : ∀ entry ∈ logins (ofLogins [unending "AD"]).account.body, entry = loginFor (unending "AD") := fun _ => List.mem_singleton.mp
  have noGrants : grants (ofLogins [unending "AD"]).account.body = [] := rfl
  have systems : situation.systems = .up := by
    refine if_pos fun name _ => ?_
    rintro ⟨found,_⟩
    exact absurd (show 404 < 400 from found) (by decide)
  have account : situation.account = .active := by
    symm
    apply statusAt_classifies
    refine .active ?_ ?_ rfl ?_
    · rintro ⟨status,_,locked⟩
      cases locked
    · rintro (⟨entry,member,deleted⟩ | ⟨some,_⟩)
      · obtain rfl := each entry member
        rcases deleted with ⟨status,_,shape⟩ | shape <;> cases shape
      · exact some noGrants
    · rintro ⟨entry,member,expired⟩
      obtain rfl := each entry member
      cases expired
  have signIn : situation.signInFailure = none := by
    refine dif_neg ?_
    rintro ⟨bean,⟨before,after,_,shape,_⟩,_⟩
    exact absurd shape (List.append_ne_nil_of_right_ne_nil before (List.cons_ne_nil bean after)).symm
  have lacking : situation.lacking.Nonempty := by
    refine ⟨"APP_USER",⟨⟨"role","APP_USER"⟩,List.mem_singleton.mpr rfl,rfl⟩,?_⟩
    rintro ⟨bean,member,_⟩
    rw [noGrants] at member
    cases member
  have revoked : situation.revoked = ∅ := by
    refine Set.eq_empty_iff_forall_notMem.mpr fun name => ?_
    rintro ⟨bean,member,_⟩
    cases member
  have ended : situation.ended = ∅ := by
    refine Set.eq_empty_iff_forall_notMem.mpr fun name => ?_
    rintro ⟨bean,member,_⟩
    rw [noGrants] at member
    cases member
  have access : situation.accessCause = some "missing_role" := by
    simp [Situation.accessCause,revoked,ended,lacking]
  refine ⟨?_,systems,Or.inr (Or.inr ⟨account,signIn,lacking,?_⟩)⟩
  · rw [Situation.causes,systems,account,signIn,access]
    rfl
  · rw [revoked]
    exact disjoint_bot_right

/-! ### A user who was an administrator -/

def formerBody : Json :=
  .obj [("status",.str "ACTIVE"),
    ("principalList",.arr [.obj [("managedSys",.str "AD"),("pwdExp",.str "1999-12-31T00:00:00.000Z")],
      .obj [("managedSys",.str "SAP"),("pwdExp",.null)]]),
    ("roleBeans",.arr [.obj [("name",.str "APP_USER"),("accessRightEndDate",.str "2001-01-01T00:00:00.000+01:00")],
      .obj [("name",.str "APP_ADMIN"),("accessRightEndDate",.str "1969-12-01T00:00:00.000Z")]]),
    ("groupBeans",.arr [.obj [("name",.str "STAFF")]])]

/-- One of the systems has passed its latest test; the other was never tested. -/
def formerTests (name : String) : Response :=
  ⟨200,.ok (if name = "AD" then .obj [("beans",.arr [.obj [("replies",.arr [
      .obj [("dateStr",.str "12/30/1969 08:00:00"),("status",.str "Fail")],
      .obj [("dateStr",.str "12/31/1969 08:00:00"),("status",.str "Ok")]])]])]
    else .obj [("beans",.arr [])])⟩

/-- A sign-in that failed before one that did not, or the removal of a role. -/
def formerLog (request : Request) : List Json :=
  if (Json.find "size" request.params).any fun size => size.sameKey (.int 10) then
    [.obj [("timestamp",.str "1969-12-30T08:00:00.000Z"),("action",.str "LOGIN"),("result",.str "FAILURE")],
      .obj [("timestamp",.str "1969-12-31T08:00:00.000Z"),("action",.str "LOGIN"),("result",.str "SUCCESS")]]
  else [.obj [("timestamp",.str "1969-12-02T08:00:00.000Z"),("action",.str "DELETE_USER_FROM_ROLE"),
    ("targetRoles",.arr [.obj [("value",.str "APP_ADMIN")]])]]

theorem offset_aware {raw : Json} (aware : (parseEndDate raw).all Datetime.aware = true) : ¬Naive raw := by
  rintro ⟨date,parsed,naive⟩
  simp [parsed,naive] at aware

theorem formerLog_entry (request : Request) : ∀ bean ∈ formerLog request, AuditEntry bean := by
  rw [formerLog]
  split
  · refine List.forall_mem_cons.mpr ⟨⟨rfl,Or.inr ⟨⟨fun _ => rfl,rfl⟩,⟨rfl,nofun⟩,⟨rfl,nofun⟩,rfl,rfl⟩,offset_aware (by decide +kernel)⟩,?_⟩
    exact List.forall_mem_singleton.mpr
      ⟨rfl,Or.inr ⟨⟨fun _ => rfl,rfl⟩,⟨rfl,nofun⟩,⟨rfl,nofun⟩,rfl,rfl⟩,offset_aware (by decide +kernel)⟩
  · exact List.forall_mem_singleton.mpr
      ⟨rfl,Or.inr ⟨⟨fun _ => rfl,rfl⟩,⟨rfl,by decide⟩,⟨rfl,nofun⟩,rfl,rfl⟩,offset_aware (by decide +kernel)⟩

def former : Directory where
  account := {
    body := formerBody
    object := rfl
    hashable := rfl
    principalList := ⟨rfl,by decide⟩
    roleBeans := ⟨rfl,by decide⟩
    groupBeans := ⟨rfl,by decide⟩
    loginStatus := by decide
    loginText := List.forall_mem_cons.mpr ⟨fun unnamed => absurd unnamed Bool.false_ne_true,
      List.forall_mem_singleton.mpr fun unnamed => absurd unnamed Bool.false_ne_true⟩
    name := List.forall_mem_cons.mpr ⟨⟨_,rfl⟩,List.forall_mem_cons.mpr ⟨⟨_,rfl⟩,List.forall_mem_singleton.mpr ⟨_,rfl⟩⟩⟩
    source := by decide
  }
  named := List.forall_mem_cons.mpr ⟨fun _ => ⟨_,rfl⟩,List.forall_mem_singleton.mpr fun _ => ⟨_,rfl⟩⟩
  offsets := by
    have aware : (∀ entry ∈ logins formerBody, (parseEndDate (entry.field "pwdExp")).all Datetime.aware = true) ∧
        ∀ bean ∈ grants formerBody, (parseEndDate (bean.field "accessRightEndDate")).all Datetime.aware = true := by
      decide +kernel
    exact ⟨fun entry member => offset_aware (aware.1 entry member),fun bean member => offset_aware (aware.2 bean member)⟩
  dashboard := formerTests
  tested name _ _ := by
    rw [formerTests]
    split
    · exact ⟨⟨_,rfl,⟨rfl,by decide⟩,List.forall_mem_singleton.mpr ⟨rfl,by decide⟩⟩,rfl⟩
    · exact ⟨⟨.obj [("beans",.arr [])],rfl,⟨rfl,nofun⟩,nofun⟩,rfl⟩
  log := formerLog
  entries := formerLog_entry

def appAdminConfig : Config := ⟨⟨"openiam",none,"",10,[]⟩,none,[⟨"openiam:default",["APP_USER","APP_ADMIN"]⟩]⟩

/-- The systems and the account are in order, and the role is gone, as it was taken away. -/
theorem diagnosis_refines_former : ∃ signIns changes result after,
    let openiam := former.openiam ⟨"",[]⟩ .insertion appAdminConfig "openiam" Unit
    let situation := former.situation appAdminConfig "openiam:default" (timesOf openiam mixedContext.request ()) signIns changes
    DiagnosticOrchestrator.run.exec ⟨(),.fresh mixedContext.request mixedContext.principal openiam "c"
      defaultPerStepTimeout⟩ = (.ok result,after) ∧
    result.findings = [⟨.systemAvailability,.pass,none⟩,⟨.accountStatus,.pass,none⟩,⟨.authEvents,.pass,none⟩,
      ⟨.authorization,.fail,some "access_revoked"⟩] ∧
    result.findings = situation.findings ∧ result.outcome = .escalation ∧ result.outcome = situation.outcome := by
  obtain ⟨signIns,changes,searches⟩ := searches_exist looksBack_unit
    (former.openiam ⟨"",[]⟩ .insertion appAdminConfig "openiam" Unit) mixedContext.request ()
  obtain ⟨result,after,ran,findings,outcome⟩ := former.diagnosis_refines ⟨"",[]⟩ .insertion appAdminConfig
    "openiam" mixedContext.request mixedContext.principal "c" defaultPerStepTimeout () searches
  have known : (DiagnosticOrchestrator.run.exec ⟨(),.fresh mixedContext.request mixedContext.principal
      (former.openiam ⟨"",[]⟩ .insertion appAdminConfig "openiam" Unit) "c" defaultPerStepTimeout⟩).1.map (fun result => (result.findings,result.outcome)) =
      .ok ([⟨.systemAvailability,.pass,none⟩,⟨.accountStatus,.pass,none⟩,⟨.authEvents,.pass,none⟩,
        ⟨.authorization,.fail,some "access_revoked"⟩],.escalation) := by
    decide +kernel
  rw [ran] at known
  obtain ⟨shown,decided⟩ := Prod.mk.inj (Except.ok.inj known)
  exact ⟨signIns,changes,result,after,ran,shown,findings,decided,outcome⟩

/-! ### Records that are alike -/

/-- Two dates at one instant, with whatever offsets they are written, or none. -/
def SameMoment (raw other : Json) : Prop :=
  (parseEndDate raw).map (fun date => (date.aware,date.instant)) =
    (parseEndDate other).map fun date => (date.aware,date.instant)

structure SameLogin (entry other : Json) : Prop where
  managedSys : other.field "managedSys" = entry.field "managedSys"
  status : other.field "status" = entry.field "status"
  active : other.field "active" = entry.field "active"
  expires : SameMoment (entry.field "pwdExp") (other.field "pwdExp")

structure SameGrant (bean other : Json) : Prop where
  name : other.field "name" = bean.field "name"
  ends : SameMoment (bean.field "accessRightEndDate") (other.field "accessRightEndDate")

structure SameEntry (bean other : Json) : Prop where
  result : signInSucceeded other = signInSucceeded bean
  action : changeAction other = changeAction bean
  failure : failureAction other = failureAction bean
  targets : changeTargets other = changeTargets bean
  timestamp : SameMoment (bean.field "timestamp") (other.field "timestamp")

/-- The same records of the user, in any order and number, and with any offsets in their dates. -/
structure SameRecords (directory other : Directory) : Prop where
  status : other.account.body.field "status" = directory.account.body.field "status"
  secondaryStatus : other.account.body.field "secondaryStatus" = directory.account.body.field "secondaryStatus"
  logins : Matching SameLogin (logins directory.account.body) (logins other.account.body)
  grants : Matching SameGrant (grants directory.account.body) (grants other.account.body)
  dashboard : other.dashboard = directory.dashboard
  log : ∀ request, List.Forall₂ SameEntry (directory.log request) (other.log request)

namespace SameMoment
variable {raw other : Json}

variable (same : SameMoment raw other)
include same

theorem date {found : Datetime} (parsed : parseEndDate raw = some found) :
    ∃ date, parseEndDate other = some date ∧ date.aware = found.aware ∧ date.instant = found.instant := by
  have mapped := same
  rw [SameMoment,parsed,Option.map_some] at mapped
  obtain ⟨date,known,pair⟩ := Option.map_eq_some_iff.mp mapped.symm
  obtain ⟨aware,instant⟩ := Prod.mk.inj pair
  exact ⟨date,known,aware,instant⟩

theorem symm : SameMoment other raw := Eq.symm same

theorem past_iff (now : Datetime) : (pastDate now raw).isSome = true ↔ (pastDate now other).isSome = true := by
  have kept : ∀ {raw other : Json}, SameMoment raw other → (pastDate now raw).isSome = true →
      (pastDate now other).isSome = true := by
    intro raw other same past
    obtain ⟨found,filtered⟩ := Option.isSome_iff_exists.mp past
    obtain ⟨parsed,passed⟩ := Option.filter_eq_some_iff.mp filtered
    obtain ⟨date,known,aware,instant⟩ := same.date parsed
    refine Option.isSome_iff_exists.mpr ⟨date,Option.filter_eq_some_iff.mpr ⟨known,?_⟩⟩
    rwa [aware,instant]
  exact ⟨kept same,kept same.symm⟩

theorem none_iff : parseEndDate raw = none ↔ parseEndDate other = none := by
  rw [← Option.map_eq_none_iff,same,Option.map_eq_none_iff]

end SameMoment

theorem SameGrant.endsAt_iff {bean other : Json} (same : SameGrant bean other) (now : Datetime) :
    EndsAt now bean ↔ EndsAt now other := by
  have kept : ∀ {bean other : Json}, SameMoment (bean.field "accessRightEndDate") (other.field "accessRightEndDate") →
      EndsAt now bean → EndsAt now other := by
    rintro bean other same ⟨found,parsed,aware,here⟩
    obtain ⟨date,known,sameAware,instant⟩ := same.date parsed
    exact ⟨date,known,sameAware.trans aware,instant.trans here⟩
  exact ⟨kept same.ends,kept same.ends.symm⟩

theorem SameEntry.symm {bean other : Json} (same : SameEntry bean other) : SameEntry other bean :=
  ⟨same.result.symm,same.action.symm,same.failure.symm,same.targets.symm,same.timestamp.symm⟩

theorem newest_alike {beans others : List Json} (rows : List.Forall₂ SameEntry beans others) {bean : Json}
    (newest : Newest beans bean) : ∃ other, Newest others other ∧ SameEntry bean other := by
  obtain ⟨before,after,date,rfl,parsed,earlier,later⟩ := newest
  obtain ⟨before',other,after',rfl,first,pair,last⟩ := forall₂_split rows
  obtain ⟨here,known,_,instant⟩ := pair.timestamp.date parsed
  refine ⟨other,⟨before',after',here,rfl,known,?_,?_⟩,pair⟩
  · intro row member time timed
    obtain ⟨source,inside,like⟩ := (matching_forall₂ first).back row member
    obtain ⟨stated,read,_,same⟩ := like.timestamp.symm.date timed
    rw [← same,instant]
    exact earlier source inside stated read
  · intro row member time timed
    obtain ⟨source,inside,like⟩ := (matching_forall₂ last).back row member
    obtain ⟨stated,read,_,same⟩ := like.timestamp.symm.date timed
    rw [← same,instant]
    exact later source inside stated read

namespace SameRecords
variable {directory other : Directory} (same : SameRecords directory other)
include same

theorem deprovisioned_iff (now : Datetime) :
    Deprovisioned now directory.account.body ↔ Deprovisioned now other.account.body := by
  refine or_congr (same.logins.exists_iff fun entry other pair => ?_) (and_congr same.grants.ne_nil_iff
    (same.grants.forall_iff fun bean other pair => pair.ends.past_iff now))
  rw [DeletedLogin,DeletedLogin,pair.status,pair.active]

theorem statusAt (passwordsAt grantsAt : Datetime) : statusAt passwordsAt grantsAt other.account.body =
    Directory.statusAt passwordsAt grantsAt directory.account.body := by
  have locked : Locked other.account.body = Locked directory.account.body := by rw [Locked,Locked,same.secondaryStatus]
  have active : Active other.account.body = Active directory.account.body := by rw [Active,Active,same.status]
  have expired : PasswordExpired passwordsAt directory.account.body ↔ PasswordExpired passwordsAt other.account.body :=
    same.logins.exists_iff fun entry other pair => pair.expires.past_iff passwordsAt
  rw [Directory.statusAt,locked,← propext (same.deprovisioned_iff grantsAt),active,← propext expired]
  rfl

theorem heldAt_iff (now : Datetime) (name : String) :
    HeldAt now directory.account.body name ↔ HeldAt now other.account.body name := by
  refine same.grants.exists_iff fun bean other pair => ?_
  rw [pair.name,Ended,Ended,pair.ends.past_iff now,pair.endsAt_iff now]

theorem endedAt_iff (now : Datetime) (name : String) :
    EndedAt now directory.account.body name ↔ EndedAt now other.account.body name := by
  refine same.grants.exists_iff fun bean other pair => ?_
  rw [pair.name,Ended,Ended,pair.ends.past_iff now,pair.endsAt_iff now]

theorem named_iff (name : String) : Named directory.account.body name ↔ Named other.account.body name := by
  refine and_congr Iff.rfl (same.logins.exists_iff fun entry other pair => ?_)
  rw [pair.managedSys]

theorem systemsWork : other.SystemsWork = directory.SystemsWork := by
  simp only [SystemsWork,same.named_iff,same.dashboard]

theorem lastFailure (request : Request) :
    Directory.lastFailure (other.log request) = Directory.lastFailure (directory.log request) := by
  by_cases failed : ∃ bean, Newest (directory.log request) bean ∧ signInSucceeded bean = false
  · obtain ⟨bean,newest,bad⟩ := failed
    obtain ⟨like,latest,pair⟩ := newest_alike (same.log request) newest
    rw [directory.lastFailure_cause newest bad,other.lastFailure_cause latest (pair.result.trans bad),pair.failure]
  · have none : ¬∃ bean, Newest (other.log request) bean ∧ signInSucceeded bean = false := by
      rintro ⟨bean,newest,bad⟩
      have back : List.Forall₂ SameEntry (other.log request) (directory.log request) :=
        (same.log request).flip.imp fun _ _ pair => pair.symm
      obtain ⟨like,latest,pair⟩ := newest_alike back newest
      exact failed ⟨like,latest,pair.result.trans bad⟩
    rw [Directory.lastFailure,Directory.lastFailure,dif_neg failed,dif_neg none]

theorem revoked_iff (request : Request) (name : String) :
    (∃ bean ∈ directory.log request, ¬Dateless bean ∧ RemovalOf name bean) ↔
      ∃ bean ∈ other.log request, ¬Dateless bean ∧ RemovalOf name bean := by
  refine (matching_forall₂ (same.log request)).exists_iff fun bean other pair => ?_
  rw [Dateless,Dateless,pair.timestamp.none_iff,RemovalOf,RemovalOf,pair.action,pair.targets]

theorem situation (config : Config) (resource : String) (times : Times) (signIns changes : Request) :
    other.situation config resource times signIns changes = directory.situation config resource times signIns changes := by
  simp only [Directory.situation,same.statusAt,same.heldAt_iff,same.lastFailure,same.revoked_iff,same.endedAt_iff]
  rw [same.systemsWork]

end SameRecords

/-- The records of the user decide in whatever order they are listed and with whatever offsets their
dates are written, and whatever the order in which the systems are walked. -/
theorem diagnosis_alike {directory other : Directory} (same : SameRecords directory other) (settings : Settings)
    (setOrder otherOrder : SetOrder) (config : Config) (connectorId : String) (request : DiagnosticRequest)
    (principal : Principal) (correlationId : String) (perStepTimeout : Timedelta) {world later : σ} {signIns changes : Request}
    (searches : Searches request.subjectSub (timesOf (directory.openiam settings setOrder config connectorId σ) request world)
      signIns changes)
    (times : timesOf (other.openiam settings otherOrder config connectorId σ) request later =
      timesOf (directory.openiam settings setOrder config connectorId σ) request world) : ∃ result again,
    DiagnosticOrchestrator.run.answer ⟨world,.fresh request principal (directory.openiam settings setOrder config connectorId σ)
        correlationId perStepTimeout⟩ = .ok result ∧
      DiagnosticOrchestrator.run.answer ⟨later,.fresh request principal
        (other.openiam settings otherOrder config connectorId σ) correlationId perStepTimeout⟩ = .ok again ∧
      again.findings = result.findings ∧ again.outcome = result.outcome := by
  obtain ⟨result,_,ran,found,decided⟩ := DiagnosticOrchestrator.run_situation _ world request principal correlationId perStepTimeout
    (directory.answers_describe settings setOrder config connectorId request world searches)
  have reordered := searches
  rw [← times] at reordered
  obtain ⟨again,_,reran,refound,redecided⟩ := DiagnosticOrchestrator.run_situation _ later request principal correlationId perStepTimeout
    (other.answers_describe settings otherOrder config connectorId request later reordered)
  refine ⟨result,again,congrArg Prod.fst ran,congrArg Prod.fst reran,?_⟩
  rw [refound,found,redecided,decided,same.situation,times]
  exact ⟨rfl,rfl⟩

/-- A clock that stands still gives the same times to every connector. -/
theorem times_still (connector other : ConnectorSPI Unit) (request : DiagnosticRequest) (world later : Unit) :
    timesOf other request later = timesOf connector request world := rfl

/-- A password that ends at one instant, said in two time zones. -/
def endsInLondon : KnownLogin := ⟨"AD","2020-01-01T00:30:00+00:00",by rintro ⟨date,⟨⟩,⟨⟩⟩⟩

def endsInNewYork : KnownLogin := ⟨"AD","2019-12-31T19:30:00-05:00",by rintro ⟨date,⟨⟩,⟨⟩⟩⟩

theorem diagnosis_alike_offsets : ∃ result again,
    DiagnosticOrchestrator.run.answer ⟨(),.fresh mixedContext.request mixedContext.principal
        ((ofLogins [endsInLondon,unending "SAP"]).openiam ⟨"",[]⟩ .insertion appUserConfig "openiam" Unit) "c"
          defaultPerStepTimeout⟩ = .ok result ∧
      DiagnosticOrchestrator.run.answer ⟨(),.fresh mixedContext.request mixedContext.principal
        ((ofLogins [unending "SAP",endsInNewYork]).openiam ⟨"",[]⟩ ⟨List.reverse,List.reverse_perm⟩ appUserConfig "openiam"
          Unit) "c" defaultPerStepTimeout⟩ = .ok again ∧ again.findings = result.findings ∧ again.outcome = result.outcome := by
  obtain ⟨signIns,changes,searches⟩ := searches_exist looksBack_unit
    ((ofLogins [endsInLondon,unending "SAP"]).openiam ⟨"",[]⟩ .insertion appUserConfig "openiam" Unit) mixedContext.request ()
  have moment : SameLogin (loginFor endsInLondon) (loginFor endsInNewYork) := by
    refine ⟨rfl,rfl,rfl,?_⟩
    rw [SameMoment]
    decide +kernel
  have lasting : SameLogin (loginFor (unending "SAP")) (loginFor (unending "SAP")) := ⟨rfl,rfl,rfl,rfl⟩
  have known : Matching SameLogin [loginFor endsInLondon,loginFor (unending "SAP")]
      [loginFor (unending "SAP"),loginFor endsInNewYork] := by
    constructor
    · simp only [List.forall_mem_cons,List.exists_mem_cons_iff]
      exact ⟨Or.inr (Or.inl moment),Or.inl lasting,nofun⟩
    · simp only [List.forall_mem_cons,List.exists_mem_cons_iff]
      exact ⟨Or.inr (Or.inl lasting),Or.inl moment,nofun⟩
  have same : SameRecords (ofLogins [endsInLondon,unending "SAP"]) (ofLogins [unending "SAP",endsInNewYork]) :=
    ⟨rfl,rfl,known,⟨forall_noGrant,forall_noGrant⟩,rfl,fun _ => .nil⟩
  exact diagnosis_alike same ⟨"",[]⟩ .insertion ⟨List.reverse,List.reverse_perm⟩ appUserConfig "openiam"
    mixedContext.request mixedContext.principal "c" defaultPerStepTimeout searches (times_still _ _ _ _ _)

end AccessAgent.OpenIAM.Directory
