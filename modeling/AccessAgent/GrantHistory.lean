import AccessAgent.Requirements
import AccessAgent.OpenIAM.Connector
import AccessAgent.Funnel

/-! Removals and later grants of one name. The check calls a missing name revoked when any
event took it away, whether or not it was granted again afterwards. -/

namespace AccessAgent.Step4Authorization
open Semantics Raising

/-- The event grants the name or takes it away. -/
def Changes (event : PermissionAuditEvent) (name : String) : Prop :=
  event.action ∈ OpenIAM.grantChangeActions ∧ name ∈ event.targetNames

def Removes (event : PermissionAuditEvent) (name : String) : Prop :=
  event.action ∈ revokeActions ∧ name ∈ event.targetNames

instance (event : PermissionAuditEvent) (name : String) : Decidable (Removes event name) :=
  inferInstanceAs (Decidable (_ ∧ _))

/-- The most recent change of the name took it away. -/
def LatestRemoves (auditEvents : List PermissionAuditEvent) (name : String) : Prop :=
  ∃ event ∈ auditEvents, Removes event name ∧ ∀ other ∈ auditEvents, Changes other name →
    other.occurredAt.instant ≤ event.occurredAt.instant

/-- The name was taken away, and granted again after every removal. -/
def Regranted (auditEvents : List PermissionAuditEvent) (name : String) : Prop :=
  Revoked auditEvents name ∧ ∃ event ∈ auditEvents, Changes event name ∧ ∀ other ∈ auditEvents, Removes other name →
    other.occurredAt.instant < event.occurredAt.instant

theorem exists_latest {events : List PermissionAuditEvent} (nonempty : events ≠ [])
    (comparable : ∀ left ∈ events, ∀ right ∈ events, left.occurredAt.aware = right.occurredAt.aware) :
    ∃ latest ∈ events, ∀ other ∈ events, other.occurredAt.instant ≤ latest.occurredAt.instant := by
  cases events with
  | nil => exact absurd rfl nonempty
  | cons first rest =>
    have answers : Succeeds (Datetime.order.scan PermissionAuditEvent.occurredAt first rest) :=
      Comparison.succeeds_scan_pairs.mpr comparable
    obtain ⟨latest,scanned⟩ := answers
    have selected := (Datetime.order.scan_ok _ _ _ _).mp scanned
    exact ⟨latest,selected.member,fun other member => (selected.notAfter other member).2⟩

/-- Removed and not granted again: the latest change is a removal. -/
theorem revoked_iff_latestRemoves (history : AuditHistory) (name : String) :
    (Revoked history.events name ↔ LatestRemoves history.events name) ↔ ¬Regranted history.events name := by
  constructor
  · rintro agree ⟨revoked,granted,member,changes,after⟩
    obtain ⟨removal,inside,removes,latest⟩ := agree.mp revoked
    have later := latest granted member changes
    have earlier := after removal inside removes
    omega
  · intro final
    constructor
    · rintro ⟨removal,member,removes⟩
      have removed : removal ∈ history.events.filter (Removes · name) :=
        List.mem_filter.mpr ⟨member,decide_eq_true removes⟩
      obtain ⟨latest,inside,greatest⟩ := exists_latest (List.ne_nil_of_mem removed) fun left one right two =>
        history.comparable left (List.mem_filter.mp one).1 right (List.mem_filter.mp two).1
      obtain ⟨held,last⟩ := List.mem_filter.mp inside
      refine ⟨latest,held,of_decide_eq_true last,?_⟩
      intro other change changes
      by_contra later
      refine final ⟨⟨removal,member,removes⟩,other,change,changes,?_⟩
      intro earlier before removal
      have bound := greatest earlier (List.mem_filter.mpr ⟨before,decide_eq_true removal⟩)
      omega
    · rintro ⟨event,member,removes,_⟩
      exact ⟨event,member,removes⟩

/-! ### The cause of a missing name -/

/-- The cause that the check notes for the name. -/
def Classified (missing : List String) (expired : Dictionary String Datetime) (auditEvents : List PermissionAuditEvent)
    (name cause : String) : Prop :=
  ∃ revoked, revokeEvents auditEvents = .ok revoked ∧ (causesOf missing expired revoked).find name = some cause

/-- A missing name is revoked when its latest change took it away; one that was granted again
and has ended is an access gap. -/
def FollowsHistory (ctx : DiagnosticContext Watch) (now : UtcNow) (effective : List EffectivePermission)
    (auditEvents : List PermissionAuditEvent) (missing : List String) (expired : Dictionary String Datetime)
    (permission : RequiredPermission) : Prop :=
  (Classified missing expired auditEvents permission.name "access_revoked" ↔ LatestRemoves auditEvents permission.name) ∧
    (Regranted auditEvents permission.name → Expired now.value effective permission.name →
      Classified missing expired auditEvents permission.name "access_expired" ∧
        ∃ result, verdict ctx now effective auditEvents [permission] = .ok result ∧
          result.causeCode = some "access_expired" ∧ DiagnosticOrchestrator.resolveOutcome result = .accessGap)

theorem classified_revoked {missing : List String} {expired : Dictionary String Datetime} {history : AuditHistory} {name : String}
    (absent : name ∈ missing) : Classified missing expired history.events name "access_revoked" ↔ Revoked history.events name := by
  obtain ⟨revoked,known⟩ := succeeds_revokeEvents.mpr fun _ left inside right member _ _ =>
    history.comparable left inside right member
  have found : (causesOf missing expired revoked).find name = some (causeOf expired revoked name) := by
    rw [causesOf,Dictionary.find_fill,if_pos absent]
    rfl
  rw [← revokeEvents_success known,← classifyMissing_revoked name expired.keys revoked.keys]
  constructor
  · rintro ⟨again,read,noted⟩
    obtain rfl := Except.ok.inj (known.symm.trans read)
    exact Option.some.inj (found.symm.trans noted)
  · intro classified
    exact ⟨revoked,known,found.trans (congrArg some classified)⟩

theorem follows_history_iff (ctx : DiagnosticContext Watch) {now : UtcNow} {required : List RequiredPermission}
    {effective : List EffectivePermission} (history : AuditHistory) {missing : List String}
    {expired : Dictionary String Datetime} (assessed : assess now.value required effective = .ok (missing,expired))
    {permission : RequiredPermission} (asked : permission ∈ required) (absent : ¬Held now.value effective permission.name) :
    FollowsHistory ctx now effective history.events missing expired permission ↔
      ¬Regranted history.events permission.name := by
  have lacking : permission.name ∈ missing := (assess_success assessed _).mpr ⟨⟨permission,asked,rfl⟩,absent⟩
  rw [FollowsHistory,classified_revoked lacking,revoked_iff_latestRemoves]
  constructor
  · exact fun both => both.1
  · exact fun final => ⟨final,fun regranted => absurd regranted final⟩

/-! ### A name removed, granted again and ended -/

theorem january_valid : ∀ day : Fin 28, DatetimeFields.valid ⟨1969,1,day + 1,0,0,0,0,some 0⟩ = true := by decide

def january (day : Fin 28) : Datetime := ⟨⟨1969,1,day + 1,0,0,0,0,some 0⟩,january_valid day⟩

def roleChange (action : String) (day : Fin 28) : PermissionAuditEvent := ⟨action,none,["APP_USER"],none,january day⟩

def appUser : RequiredPermission := ⟨"role","APP_USER"⟩

def endedGrant : EffectivePermission := ⟨"role","APP_USER",none,some (january 20)⟩

def idleContext : DiagnosticContext Watch :=
  .fresh ⟨"c-1","u-1","u-1","openiam",.permissionDenied,"no access"⟩ ⟨"u-1",[]⟩
    ⟨"openiam",fun _ => pure none,fun _ => pure ⟨.up,none,january 0⟩,fun _ => pure ⟨.active,none,none⟩,fun _ _ => pure [],
      fun _ _ => pure [],fun _ => pure [],fun _ _ => pure []⟩ "c-1" defaultPerStepTimeout

theorem january_history (changes : List (String × Fin 28)) : ∃ history : AuditHistory,
    history.events = changes.map fun change => roleChange change.1 change.2 := by
  refine ⟨⟨_,?_⟩,rfl⟩
  intro left one right two
  obtain ⟨_,_,rfl⟩ := List.mem_map.mp one
  obtain ⟨_,_,rfl⟩ := List.mem_map.mp two
  rfl

theorem ended_not_held : ¬Held (default : UtcNow).value [endedGrant] "APP_USER" := by
  rintro ⟨grant,member,inForce,_⟩
  obtain rfl := List.mem_singleton.mp member
  exact absurd inForce.2 (by decide)

theorem follows_history_removed : ∃ (history : AuditHistory) (missing : List String) (expired : Dictionary String Datetime),
    history.events = [roleChange "ADD_USER_TO_ROLE" 1,roleChange "DELETE_USER_FROM_ROLE" 2] ∧
    (FollowsHistory idleContext default [endedGrant] history.events missing expired appUser ↔
      ¬Regranted history.events "APP_USER") := by
  obtain ⟨history,events⟩ := january_history [("ADD_USER_TO_ROLE",1),("DELETE_USER_FROM_ROLE",2)]
  exact ⟨history,_,_,events,follows_history_iff idleContext history rfl (List.mem_singleton.mpr rfl) ended_not_held⟩

/-- Removed on the 3rd, granted again on the 4th, ended on the 21st: called revoked. -/
theorem regranted_called_revoked : ∃ (history : AuditHistory) (missing : List String)
    (expired : Dictionary String Datetime) (result : VerdictResult),
    history.events = [roleChange "DELETE_USER_FROM_ROLE" 2,roleChange "ADD_USER_TO_ROLE" 3] ∧
    assess (default : UtcNow).value [appUser] [endedGrant] = .ok (missing,expired) ∧
    verdict idleContext default [endedGrant] history.events [appUser] = .ok result ∧
    result.causeCode = some "access_revoked" ∧ DiagnosticOrchestrator.resolveOutcome result = .escalation ∧
    ¬FollowsHistory idleContext default [endedGrant] history.events missing expired appUser := by
  obtain ⟨⟨events,comparable⟩,same⟩ := january_history [("DELETE_USER_FROM_ROLE",2),("ADD_USER_TO_ROLE",3)]
  obtain rfl : events = [roleChange "DELETE_USER_FROM_ROLE" 2,roleChange "ADD_USER_TO_ROLE" 3] := same
  obtain ⟨result,answered,revoked,escalates⟩ : ∃ result, verdict idleContext default [endedGrant]
      [roleChange "DELETE_USER_FROM_ROLE" 2,roleChange "ADD_USER_TO_ROLE" 3] [appUser] = .ok result ∧
      result.causeCode = some "access_revoked" ∧ DiagnosticOrchestrator.resolveOutcome result = .escalation :=
    ⟨_,rfl,rfl,rfl⟩
  refine ⟨⟨_,comparable⟩,_,_,result,rfl,rfl,answered,revoked,escalates,?_⟩
  rintro ⟨agree,_⟩
  obtain ⟨event,member,removes,latest⟩ := agree.mp ⟨_,rfl,rfl⟩
  simp only [List.mem_cons,List.not_mem_nil,or_false] at member latest
  rcases member with rfl | rfl
  · have later := latest _ (Or.inr rfl) ⟨by decide,by decide⟩
    exact absurd later (by decide)
  · exact absurd removes.1 (by decide)

end AccessAgent.Step4Authorization
