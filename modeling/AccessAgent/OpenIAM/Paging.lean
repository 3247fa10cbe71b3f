import AccessAgent.OpenIAM.CheckRuns
import AccessAgent.Requirements

/-! One page of the audit log against the whole of it. The page begins with the newest event,
which is all that the sign-in check asks for; the authorization check asks for removals, which
newer events may push off the page. -/

namespace AccessAgent.OpenIAM
open Semantics Raising Step4Authorization

variable {σ : Type} [Clock σ]

/-- Records of events, the newest first. -/
def Recorded {α : Type} (parse : Json → Except Exn (Option α)) (time : α → Datetime) (beans : List Json) : Prop :=
  ∃ events, List.Forall₂ (fun bean event => parse bean = .ok (some event)) beans events ∧
    events.Pairwise fun newer older => Datetime.order.NotAfter (time older) (time newer)

/-- A page of a log: it begins where the request asks, is no longer than the request allows,
and is empty only where nothing is left. -/
def PageOf (request : Request) (log page : List Json) : Prop :=
  ∀ first size, Json.find "from" request.params = some (.int first) → Json.find "size" request.params = some (.int size) →
    page <+: log.drop first.toNat ∧ page.length ≤ size.toNat ∧ (0 < size → log.drop first.toNat ≠ [] → page ≠ [])

/-- The audit log of a subject: the records that match a request, and the page it returns. -/
structure AuditServer (subjectSub : String) where
  matching : Request → List Json
  page : Request → List Json
  signIns : ∀ start stop, Recorded parseAuditBean AuthEvent.timestamp
    (matching (auditlogSearch subjectSub start stop ["LOGIN","DO_LOGIN"] 10))
  changes : ∀ start stop, Recorded parsePermissionAuditEvent PermissionAuditEvent.occurredAt
    (matching (auditlogSearch subjectSub start stop (grantChangeActions ++ syncActions) 50))
  paged : ∀ request, PageOf request (matching request) (page request)

theorem filterMapM_recorded {α : Type} {parse : Json → Except Exn (Option α)} {beans : List Json} {events : List α}
    (parsed : List.Forall₂ (fun bean event => parse bean = .ok (some event)) beans events) :
    beans.filterMapM parse = .ok events := by
  induction parsed with
  | nil => rfl
  | cons head tail ih =>
    rw [List.filterMapM_cons,head]
    change (List.filterMapM parse _ >>= _) = _
    rw [ih]
    rfl

/-- What a page of the log reads: the events it begins with. -/
theorem page_events {α : Type} {parse : Json → Except Exn (Option α)} {beans page : List Json} {events : List α}
    (parsed : List.Forall₂ (fun bean event => parse bean = .ok (some event)) beans events) (begins : page <+: beans) :
    List.Forall₂ (fun bean event => parse bean = .ok (some event)) page (events.take page.length) := by
  rw [List.prefix_iff_eq_take.mp begins,List.length_take,min_eq_left begins.length_le]
  exact List.forall₂_take _ parsed

/-! ### The sign-in check -/

theorem latest_newest {first : AuthEvent} {rest : List AuthEvent}
    (newestFirst : (first::rest).Pairwise fun newer older => Datetime.order.NotAfter older.timestamp newer.timestamp) :
    Step3AuthEvents.latest first rest = .ok first :=
  (Datetime.order.scan_ok _ _ _ _).mpr ⟨[],rest,rfl,by simp,(List.pairwise_cons.mp newestFirst).1⟩

theorem signIn_decision {connectorId : String} {evaluatedAt other : Datetime} {events : List AuthEvent} {count : Nat}
    (newestFirst : events.Pairwise fun newer older => Datetime.order.NotAfter older.timestamp newer.timestamp)
    (begins : events ≠ [] → count ≠ 0) :
    decision (signInVerdict connectorId evaluatedAt (events.take count)) = decision (signInVerdict connectorId other events) := by
  cases events with
  | nil =>
    rw [List.take_nil]
    rfl
  | cons first rest =>
    obtain ⟨more,rfl⟩ := Nat.exists_eq_succ_of_ne_zero (begins (List.cons_ne_nil first rest))
    have page := newestFirst.take (i := more + 1)
    rw [List.take_succ_cons] at page ⊢
    rw [signInVerdict,signInVerdict,latest_newest page,latest_newest newestFirst]
    rfl

/-! ### The authorization check -/

theorem foremost_revoked (missing : List String) (expired : Dictionary String Datetime)
    (revoked : Dictionary String PermissionAuditEvent) :
    foremost (missing.map (causeOf expired revoked)) = "access_revoked" ↔ ∃ name ∈ missing, name ∈ revoked.keys := by
  have inside : "access_revoked" ∈ missing.map (causeOf expired revoked) ↔ ∃ name ∈ missing, name ∈ revoked.keys := by
    simp only [List.mem_map,causeOf,classifyMissing_revoked]
  rw [← inside,foremost]
  split
  next revoked => exact iff_of_true rfl revoked
  next other =>
    refine iff_of_false ?_ other
    split <;> simp

/-- Whether any missing name was removed decides the cause. -/
theorem same_cause_iff {missing : List String} {expired : Dictionary String Datetime}
    {left right : Dictionary String PermissionAuditEvent} :
    foremost (missing.map (causeOf expired left)) = foremost (missing.map (causeOf expired right)) ↔
      ((∃ name ∈ missing, name ∈ left.keys) ↔ ∃ name ∈ missing, name ∈ right.keys) := by
  constructor
  · intro same
    rw [← foremost_revoked missing expired left,← foremost_revoked missing expired right,same]
  · intro agree
    by_cases removed : ∃ name ∈ missing, name ∈ left.keys
    · rw [(foremost_revoked missing expired left).mpr removed,(foremost_revoked missing expired right).mpr (agree.mp removed)]
    · refine congrArg foremost (List.map_congr_left fun name member => ?_)
      have first : name ∉ left.keys := fun found => removed ⟨name,member,found⟩
      have second : name ∉ right.keys := fun found => removed (agree.mpr ⟨name,member,found⟩)
      simp [causeOf,classifyMissing,first,second]

theorem newestFirst_comparable {events : List PermissionAuditEvent}
    (newestFirst : events.Pairwise fun newer older => Datetime.order.NotAfter older.occurredAt newer.occurredAt) :
    ∀ left ∈ events, ∀ right ∈ events, left.occurredAt.aware = right.occurredAt.aware := by
  induction events with
  | nil => simp
  | cons first rest ih =>
    obtain ⟨below,others⟩ := List.pairwise_cons.mp newestFirst
    have each : ∀ event ∈ first::rest, event.occurredAt.aware = first.occurredAt.aware :=
      List.forall_mem_cons.mpr ⟨rfl,fun event member => (below event member).1⟩
    exact fun left inside right member => (each left inside).trans (each right member).symm

theorem authorization_decision {connectorId : String} {evaluatedAt : Datetime} {missing : List String}
    {expired : Dictionary String Datetime} {events : List PermissionAuditEvent}
    (comparable : ∀ left ∈ events, ∀ right ∈ events, left.occurredAt.aware = right.occurredAt.aware) :
    ∃ revoked, revokeEvents events = .ok revoked ∧ decision (authorizationVerdict connectorId evaluatedAt missing expired events) =
      .ok (if missing = [] then (.pass,none) else (.fail,some (foremost (missing.map (causeOf expired revoked))))) := by
  obtain ⟨revoked,known⟩ := succeeds_revokeEvents.mpr fun _ left inside right member _ _ => comparable left inside right member
  obtain ⟨note,noted⟩ := succeeds_syncAdvisoryNote.mpr fun left inside right member =>
    comparable left (List.mem_filter.mp inside).1 right (List.mem_filter.mp member).1
  refine ⟨revoked,known,?_⟩
  rw [authorizationVerdict,conclude_eq,known]
  change decision ((if missing = [] then syncAdvisoryNote (syncEvents events) >>= _ else
    syncAdvisoryNote (syncEvents events) >>= _) >>= _) = _
  rw [show syncAdvisoryNote (syncEvents events) = .ok note from noted]
  split <;> rfl

/-- Cutting the log keeps the decision when a removal of some missing name stays. -/
theorem page_decision_iff {connectorId : String} {evaluatedAt other : Datetime} {missing : List String}
    {expired : Dictionary String Datetime} {events : List PermissionAuditEvent} {count : Nat}
    (newestFirst : events.Pairwise fun newer older => Datetime.order.NotAfter older.occurredAt newer.occurredAt) :
    decision (authorizationVerdict connectorId evaluatedAt missing expired (events.take count)) =
        decision (authorizationVerdict connectorId other missing expired events) ↔
      ((∃ name ∈ missing, Revoked events name) → ∃ name ∈ missing, Revoked (events.take count) name) := by
  obtain ⟨page,pageRead,pageDecision⟩ := authorization_decision (newestFirst_comparable (newestFirst.take (i := count)))
  obtain ⟨whole,wholeRead,wholeDecision⟩ := authorization_decision (newestFirst_comparable newestFirst)
  rw [pageDecision,wholeDecision]
  by_cases none : missing = []
  · subst none
    simp
  · have stays : (∃ name ∈ missing, Revoked (events.take count) name) → ∃ name ∈ missing, Revoked events name := by
      rintro ⟨name,member,event,inside,removes⟩
      exact ⟨name,member,event,List.mem_of_mem_take inside,removes⟩
    rw [if_neg none,if_neg none,Except.ok.injEq,Prod.mk.injEq,Option.some.injEq,and_iff_right rfl,same_cause_iff]
    simp only [revokeEvents_success pageRead,revokeEvents_success wholeRead]
    exact ⟨fun same => same.mpr,fun kept => ⟨stays,kept⟩⟩

/-! ### The checks over a page -/

variable (settings : Settings) (setOrder : SetOrder) (config : Config) (connectorId : String) (account : Response)

/-- Both checks decide from the page as they would from every matching event. -/
def Lossless (ctx : DiagnosticContext σ) (world : σ) (server : AuditServer ctx.request.subjectSub) : Prop :=
  signInDecision settings setOrder config connectorId account ctx world server.page =
      signInDecision settings setOrder config connectorId account ctx world server.matching ∧
    authorizationDecision settings setOrder config connectorId account ctx world server.page =
      authorizationDecision settings setOrder config connectorId account ctx world server.matching

/-- Some record takes the name away. -/
def RemovedIn (beans : List Json) (name : String) : Prop :=
  ∃ bean ∈ beans, ∃ event, parsePermissionAuditEvent bean = .ok (some event) ∧ event.action ∈ revokeActions ∧
    name ∈ event.targetNames

/-- Where a missing name was removed, the page has the removal of a missing name. -/
def KeepsRemovals (ctx : DiagnosticContext σ) (world : σ) (server : AuditServer ctx.request.subjectSub) : Prop :=
  let assessedAt := (Clock.now world).1.value
  let auditedAt := (Clock.now (Clock.now world).2).1.value
  let required := requiredPermissions (ctx.request.systemId ++ ":default") config.rolePermissionMap
  ∀ effective request, grantsAnswer account = .ok effective → Dated assessedAt effective →
    auditRequest auditedAt ctx.request.subjectSub auditLookback (grantChangeActions ++ syncActions) 50 = .ok request →
      (∃ name, Missing assessedAt required effective name ∧ RemovedIn (server.matching request) name) →
        ∃ name, Missing assessedAt required effective name ∧ RemovedIn (server.page request) name

theorem removedIn_iff {beans : List Json} {events : List PermissionAuditEvent}
    (parsed : List.Forall₂ (fun bean event => parsePermissionAuditEvent bean = .ok (some event)) beans events) (name : String) :
    RemovedIn beans name ↔ Revoked events name := by
  induction parsed with
  | nil => simp [RemovedIn,Revoked]
  | @cons bean event beans events head tail ih =>
    rw [RemovedIn,Revoked,List.exists_mem_cons_iff,List.exists_mem_cons_iff,← Revoked,← ih,← RemovedIn]
    simp [head]

theorem auditRequest_success {now : Datetime} {subjectSub : String} {timeWindow : Timedelta} {actions : List String} {size : Int}
    {request : Request} (ok : auditRequest now subjectSub timeWindow actions size = .ok request) :
    ∃ start stop, request = auditlogSearch subjectSub start stop actions size := by
  obtain ⟨start,_,ok⟩ := bind_success ok
  exact ⟨_,_,(pure_success ok).symm⟩

theorem AuditServer.page_begins {subjectSub : String} (server : AuditServer subjectSub) (start stop : Int)
    (actions : List String) {size : Int} (asked : 0 < size) :
    let request := auditlogSearch subjectSub start stop actions size
    server.page request <+: server.matching request ∧ (server.matching request ≠ [] → server.page request ≠ []) := by
  obtain ⟨begins,_,nonempty⟩ := server.paged (auditlogSearch subjectSub start stop actions size) 0 size rfl rfl
  exact ⟨begins,nonempty asked⟩

theorem signIn_lossless (ctx : DiagnosticContext σ) (world : σ) (server : AuditServer ctx.request.subjectSub) :
    signInDecision settings setOrder config connectorId account ctx world server.page =
      signInDecision settings setOrder config connectorId account ctx world server.matching := by
  obtain ⟨paged,page⟩ := step3_answer settings setOrder (served account server.page) config connectorId ctx world
  obtain ⟨full,whole⟩ := step3_answer settings setOrder (served account server.matching) config connectorId ctx world
  rw [signInDecision,signInDecision,page,whole,auditEvents,auditEvents]
  cases asked : auditRequest (Clock.now world).1.value ctx.request.subjectSub Step3AuthEvents.lookback ["LOGIN","DO_LOGIN"] 10 with
  | error raised => rfl
  | ok request =>
    obtain ⟨start,stop,rfl⟩ := auditRequest_success asked
    obtain ⟨begins,nonempty⟩ := server.page_begins start stop ["LOGIN","DO_LOGIN"] (by decide : (0 : Int) < 10)
    obtain ⟨events,parsed,newestFirst⟩ := server.signIns start stop
    rw [ok_bind,ok_bind,auditAnswer_served,auditAnswer_served,filterMapM_recorded parsed,
      filterMapM_recorded (page_events parsed begins)]
    refine signIn_decision newestFirst fun some none => nonempty ?_ (List.length_eq_zero_iff.mp none)
    rintro empty
    rw [empty] at parsed
    cases parsed
    exact some rfl

theorem authorization_lossless_iff (ctx : DiagnosticContext σ) (world : σ) (server : AuditServer ctx.request.subjectSub) :
    authorizationDecision settings setOrder config connectorId account ctx world server.page =
        authorizationDecision settings setOrder config connectorId account ctx world server.matching ↔
      KeepsRemovals config account ctx world server := by
  obtain ⟨paged,page⟩ := step4_answer settings setOrder (served account server.page) config connectorId ctx world
  obtain ⟨full,whole⟩ := step4_answer settings setOrder (served account server.matching) config connectorId ctx world
  rw [authorizationDecision,authorizationDecision,page,whole,KeepsRemovals]
  by_cases asked : requiredPermissions (ctx.request.systemId ++ ":default") config.rolePermissionMap = []
  · rw [if_pos asked,if_pos asked]
    refine iff_of_true rfl ?_
    rintro effective request _ _ _ ⟨name,⟨⟨permission,member,_⟩,_⟩,_⟩
    simp [asked] at member
  rw [if_neg asked,if_neg asked]
  have same : ∀ records, grantsAnswer (served account records (userGet ctx.request.subjectSub)) = grantsAnswer account :=
    fun records => rfl
  rw [same,same]
  cases granted : grantsAnswer account with
  | error raised =>
    refine iff_of_true rfl ?_
    rintro effective request impossible
    cases impossible
  | ok effective =>
    rw [ok_bind,ok_bind]
    cases assessed : assess (Clock.now world).1.value (requiredPermissions (ctx.request.systemId ++ ":default")
        config.rolePermissionMap) effective with
    | error raised =>
      refine iff_of_true rfl ?_
      intro others request known dated
      obtain rfl := Except.ok.inj known
      obtain ⟨assessment,answered⟩ := succeeds_assess.mpr dated
      exact absurd (assessed.symm.trans answered) (by simp)
    | ok assessment =>
      obtain ⟨missing,expired⟩ := assessment
      rw [ok_bind,ok_bind]
      dsimp only
      rw [auditEvents,auditEvents]
      cases requested : auditRequest (Clock.now (Clock.now world).2).1.value ctx.request.subjectSub auditLookback
          (grantChangeActions ++ syncActions) 50 with
      | error raised =>
        refine iff_of_true rfl ?_
        rintro others request _ _ impossible
        cases impossible
      | ok request =>
        obtain ⟨start,stop,rfl⟩ := auditRequest_success requested
        obtain ⟨begins,_⟩ := server.page_begins start stop (grantChangeActions ++ syncActions) (by decide : (0 : Int) < 50)
        obtain ⟨events,parsed,newestFirst⟩ := server.changes start stop
        have kept := page_events parsed begins
        rw [ok_bind,ok_bind,auditAnswer_served,auditAnswer_served,filterMapM_recorded parsed,filterMapM_recorded kept,ok_bind,
          ok_bind,page_decision_iff newestFirst]
        simp only [assess_success assessed,← removedIn_iff parsed,← removedIn_iff kept]
        constructor
        · intro keeps others request known _ again
          obtain rfl := Except.ok.inj known
          obtain rfl := Except.ok.inj again
          exact keeps
        · intro keeps
          exact keeps effective _ rfl (succeeds_assess.mp ⟨_,assessed⟩) rfl

/-- The sign-in check loses nothing; the authorization check loses what its condition says. -/
theorem lossless_iff (ctx : DiagnosticContext σ) (world : σ) (server : AuditServer ctx.request.subjectSub) :
    Lossless settings setOrder config connectorId account ctx world server ↔ KeepsRemovals config account ctx world server := by
  rw [Lossless,and_iff_right (signIn_lossless settings setOrder config connectorId account ctx world server),
    authorization_lossless_iff]

/-! ### A removal behind fifty newer events -/

/-- The page of an endpoint that returns as much as it is asked for. -/
def fullPage (log : List Json) (request : Request) : List Json :=
  match Json.find "from" request.params,Json.find "size" request.params with
  | some (.int first),some (.int size) => (log.drop first.toNat).take size.toNat
  | _,_ => []

theorem fullPage_pageOf (log : List Json) (request : Request) : PageOf request log (fullPage log request) := by
  intro first size begins long
  rw [fullPage,begins,long]
  refine ⟨List.take_prefix _ _,List.length_take_le _ _,?_⟩
  intro positive some none
  rcases List.take_eq_nil_iff.mp none with zero | empty
  · omega
  · exact some empty

def roleRecord (timestamp action role : String) : Json :=
  .obj [("timestamp",.str timestamp),("action",.str action),("targetRoles",.arr [.obj [("value",.str role)]])]

def grantRecord : Json := roleRecord "1969-06-01T00:00:00Z" "ADD_USER_TO_ROLE" "OTHER_ROLE"

def removalRecord : Json := roleRecord "1969-05-01T00:00:00Z" "DELETE_USER_FROM_ROLE" "APP_USER"

def crowdedLog : List Json := List.replicate 50 grantRecord ++ [removalRecord]

private theorem replicate_related {α β : Type} {related : α → β → Prop} {a : α} {b : β} (here : related a b) (count : Nat) :
    List.Forall₂ related (List.replicate count a) (List.replicate count b) := by
  induction count with
  | zero => exact .nil
  | succ count ih => exact .cons here ih

theorem crowded_events : ∃ grant removal, parsePermissionAuditEvent grantRecord = .ok (some grant) ∧
    parsePermissionAuditEvent removalRecord = .ok (some removal) ∧
    Datetime.order.NotAfter removal.occurredAt grant.occurredAt ∧ grant.action ∉ revokeActions ∧
    removal.action ∈ revokeActions ∧ removal.targetNames = ["APP_USER"] := by
  refine ⟨_,_,rfl,rfl,⟨rfl,?_⟩,?_,?_,rfl⟩ <;> decide

theorem crowded_recorded : Recorded parsePermissionAuditEvent PermissionAuditEvent.occurredAt crowdedLog := by
  obtain ⟨grant,removal,granted,removed,order,_⟩ := crowded_events
  let reads : Json → PermissionAuditEvent → Prop := fun bean event => parsePermissionAuditEvent bean = .ok (some event)
  have first : reads grantRecord grant := granted
  have newer : List.Forall₂ reads (List.replicate 50 grantRecord) (List.replicate 50 grant) := replicate_related first 50
  have last : List.Forall₂ reads [removalRecord] [removal] := .cons removed .nil
  refine ⟨List.replicate 50 grant ++ [removal],List.rel_append newer last,?_⟩
  refine List.pairwise_append.mpr ⟨List.pairwise_replicate.mpr (Or.inr ⟨rfl,le_rfl⟩),List.pairwise_singleton _ _,?_⟩
  intro newer first older last
  rw [List.eq_of_mem_replicate first,List.mem_singleton.mp last]
  exact order

/-- No sign-ins, and the crowded log of grant changes. -/
def crowded (request : Request) : List Json :=
  if (Json.find "size" request.params).any fun size => size.sameKey (.int 50) then crowdedLog else []

def crowdedContext : DiagnosticContext Unit :=
  .fresh ⟨"c-1","u-1","u-1","openiam",.permissionDenied,"no access"⟩ ⟨"u-1",[]⟩ (stillConnector (fun _ => none) .up) "c-1"
    defaultPerStepTimeout

def appUserRequired : Config := ⟨⟨"openiam",none,"",10,[]⟩,none,[⟨"openiam:default",["APP_USER"]⟩]⟩

/-- The only removal lies behind fifty newer events: the check calls the name missing. -/
theorem removal_crowded_out : ∃ server : AuditServer "u-1", server.matching = crowded ∧
    (∀ request, server.page request = fullPage (crowded request) request) ∧
    ¬Lossless ⟨"",[]⟩ .insertion appUserRequired "openiam" ⟨200,.ok (.obj [])⟩ crowdedContext () server := by
  refine ⟨⟨crowded,fun request => fullPage (crowded request) request,?_,?_,?_⟩,rfl,fun _ => rfl,?_⟩
  · intro start stop
    exact ⟨[],.nil,.nil⟩
  · intro start stop
    exact crowded_recorded
  · intro request
    exact fullPage_pageOf _ request
  · rintro ⟨_,lossless⟩
    have keeps := (authorization_lossless_iff _ _ _ _ _ crowdedContext () _).mp lossless
    obtain ⟨grant,removal,granted,removed,_,other,removes,named⟩ := crowded_events
    obtain ⟨name,_,bean,member,event,parsed,revokes,_⟩ := keeps [] _ rfl (by simp [Dated]) rfl
      ⟨"APP_USER",⟨⟨⟨"role","APP_USER"⟩,by decide,rfl⟩,by simp [Held]⟩,removalRecord,
        List.mem_append_right _ (List.mem_singleton.mpr rfl),removal,removed,removes,by simp [named]⟩
    have page : bean ∈ List.replicate 50 grantRecord := member
    rw [List.eq_of_mem_replicate page,granted] at parsed
    obtain rfl := Option.some.inj (Except.ok.inj parsed)
    exact other revokes

end AccessAgent.OpenIAM
