import AccessAgent.Findings
import Mathlib.Data.Set.Lattice
import Mathlib.Order.CompletePartialOrder

/-! What decides a case, apart from where it is read and in which order, what each check is to find
in it and the outcome that it has. A run finds and decides what the situation that its answers
describe asks for. -/

namespace AccessAgent
open Semantics

/-- The facts about a user that a diagnosis is to find out. -/
structure Situation where
  systems : AvailabilityStatus
  account : AccountStatus
  /-- Why the last sign-in failed, where it did. -/
  signInFailure : Option String
  lacking : Set String
  revoked : Set String
  ended : Set String

namespace Situation
variable (situation : Situation)

/-- Some access is lacking, and none of it was taken away. -/
def Requestable : Prop := situation.lacking.Nonempty ∧ Disjoint situation.lacking situation.revoked

open Classical in
noncomputable def outcome : Outcome :=
  if situation.systems = .up then
    match situation.account with
    | .locked => .selfServiceFix
    | .passwordExpired => .selfServiceFix
    | .deprovisioned => .accessGap
    | .notFound => .accessGap
    | .disabled => .escalation
    | .active =>
      if situation.signInFailure ≠ none then .selfServiceFix
      else if situation.Requestable then .accessGap
      else .escalation
  else .escalation

/-- The user can do something about it: try again, or change the password. -/
def SelfService : Prop := situation.systems = .up ∧
  (situation.account = .locked ∨ situation.account = .passwordExpired ∨
    situation.account = .active ∧ situation.signInFailure ≠ none)

/-- The user can ask for access. -/
def AccessGap : Prop := situation.systems = .up ∧
  (situation.account = .deprovisioned ∨ situation.account = .notFound ∨
    situation.account = .active ∧ situation.signInFailure = none ∧ situation.Requestable)

theorem outcome_selfService : situation.outcome = .selfServiceFix ↔ situation.SelfService := by
  rw [outcome,SelfService]
  cases situation.account <;> split_ifs <;> simp_all

theorem outcome_accessGap : situation.outcome = .accessGap ↔ situation.AccessGap := by
  rw [outcome,AccessGap]
  cases situation.account <;> split_ifs <;> simp_all

theorem outcome_escalation : situation.outcome = .escalation ↔ ¬situation.SelfService ∧ ¬situation.AccessGap := by
  rw [← outcome_selfService,← outcome_accessGap,outcome]
  cases situation.account <;> split_ifs <;> simp

/-! ### What is to be found -/

open Classical in
/-- Why access is lacking: that it was taken away comes before that it has ended. -/
noncomputable def accessCause : Option String :=
  if (situation.lacking ∩ situation.revoked).Nonempty then some "access_revoked"
  else if (situation.lacking ∩ situation.ended).Nonempty then some "access_expired"
  else if situation.lacking.Nonempty then some "missing_role"
  else none

noncomputable def causes : List (FunnelStep × Option String) :=
  [(.systemAvailability,availabilityCause situation.systems),(.accountStatus,accountCause situation.account),
    (.authEvents,situation.signInFailure),(.authorization,situation.accessCause)]

noncomputable def findings : List Finding := findingsOf situation.causes

theorem accessCause_none : situation.accessCause = none ↔ situation.lacking = ∅ := by
  rw [accessCause]
  split_ifs with taken lapsed some
  · exact iff_of_false nofun (Set.nonempty_iff_ne_empty.mp (taken.mono Set.inter_subset_left))
  · exact iff_of_false nofun (Set.nonempty_iff_ne_empty.mp (lapsed.mono Set.inter_subset_left))
  · exact iff_of_false nofun (Set.nonempty_iff_ne_empty.mp some)
  · exact iff_of_true rfl (Set.not_nonempty_iff_eq_empty.mp some)

theorem accessCause_revoked : situation.accessCause = some "access_revoked" ↔
    (situation.lacking ∩ situation.revoked).Nonempty := by
  rw [accessCause]
  split_ifs with taken lapsed some <;> simp [*]

theorem requestable_iff : situation.Requestable ↔
    situation.accessCause ≠ none ∧ situation.accessCause ≠ some "access_revoked" := by
  rw [Requestable,Ne,Ne,accessCause_none,accessCause_revoked,Set.not_nonempty_iff_eq_empty,← Set.disjoint_iff_inter_eq_empty,
    Set.nonempty_iff_ne_empty]

end Situation

/-! ### Access that is lacking -/

namespace Step4Authorization
open Raising

theorem expiredEndDates_keys {now : Datetime} {effective : List EffectivePermission} {dates : Dictionary String Datetime}
    (ok : expiredEndDates now effective = .ok dates) (name : String) : name ∈ dates.keys ↔ Expired now effective name := by
  rw [Dictionary.mem_keys,expiredEndDates_last ok,List.getLast?_isSome]
  constructor
  · intro some
    obtain ⟨date,member⟩ := List.exists_mem_of_ne_nil _ some
    obtain ⟨permission,inside,named,ended⟩ := mem_endings.mp member
    exact ⟨permission,inside,named,date,ended⟩
  · rintro ⟨permission,inside,named,date,ended⟩
    exact List.ne_nil_of_mem (mem_endings.mpr ⟨permission,inside,named,ended⟩)

theorem causeOf_revoked {expired : Dictionary String Datetime} {revoked : Dictionary String PermissionAuditEvent}
    {missing : List String} : "access_revoked" ∈ missing.map (causeOf expired revoked) ↔ ∃ name ∈ missing, name ∈ revoked.keys := by
  simp only [List.mem_map,causeOf,classifyMissing_revoked]

theorem causeOf_expired {expired : Dictionary String Datetime} {revoked : Dictionary String PermissionAuditEvent}
    {missing : List String} (kept : ¬∃ name ∈ missing, name ∈ revoked.keys) :
    "access_expired" ∈ missing.map (causeOf expired revoked) ↔ ∃ name ∈ missing, name ∈ expired.keys := by
  rw [List.mem_map]
  refine exists_congr fun name => and_congr_right fun member => ?_
  have stays : name ∉ revoked.keys := fun gone => kept ⟨name,member,gone⟩
  rw [causeOf,classifyMissing]
  by_cases lapsed : name ∈ expired.keys <;> simp [stays,lapsed]

theorem foremost_cause {situation : Situation} {missing : List String} {expired : Dictionary String Datetime}
    {removals : Dictionary String PermissionAuditEvent} (some : missing ≠ [])
    (lacking : ∀ name, name ∈ missing ↔ name ∈ situation.lacking) (revoked : ∀ name, name ∈ removals.keys ↔ name ∈ situation.revoked)
    (ended : ∀ name, name ∈ expired.keys ↔ name ∈ situation.ended) :
    situation.accessCause = Option.some (foremost (missing.map (causeOf expired removals))) := by
  have nonempty : situation.lacking.Nonempty := by
    obtain ⟨name,absent⟩ := List.exists_mem_of_ne_nil missing some
    exact ⟨name,(lacking name).mp absent⟩
  have taken : (∃ name ∈ missing, name ∈ removals.keys) ↔ (situation.lacking ∩ situation.revoked).Nonempty := by
    simp only [lacking,revoked]
    rfl
  have lapsed : (∃ name ∈ missing, name ∈ expired.keys) ↔ (situation.lacking ∩ situation.ended).Nonempty := by
    simp only [lacking,ended]
    rfl
  rw [Situation.accessCause,foremost]
  by_cases gone : ∃ name ∈ missing, name ∈ removals.keys
  · rw [if_pos (taken.mp gone),if_pos (causeOf_revoked.mpr gone)]
  · rw [if_neg (fun found => gone (taken.mpr found)),if_neg (fun found => gone (causeOf_revoked.mp found))]
    simp only [← lapsed,causeOf_expired gone,nonempty,if_true]
    split <;> rfl

theorem conclude_cause {situation : Situation} {missing : List String} {expired : Dictionary String Datetime}
    {auditEvents : List PermissionAuditEvent} {conclusion : Conclusion}
    (ok : conclude missing expired auditEvents = .ok conclusion) (lacking : ∀ name, name ∈ missing ↔ name ∈ situation.lacking)
    (revoked : ∀ name, Revoked auditEvents name ↔ name ∈ situation.revoked)
    (ended : ∀ name, name ∈ expired.keys ↔ name ∈ situation.ended) :
    conclusion.status = statusOf situation.accessCause ∧ conclusion.causeCode = situation.accessCause := by
  rw [conclude_eq] at ok
  split at ok
  next empty =>
    obtain ⟨note,_,ok⟩ := bind_success ok
    have none : situation.accessCause = none := by
      rw [situation.accessCause_none,Set.eq_empty_iff_forall_notMem]
      intro name absent
      rw [← lacking,empty] at absent
      cases absent
    rw [none,← pure_success ok]
    exact ⟨rfl,rfl⟩
  next some =>
    obtain ⟨removals,read,ok⟩ := bind_success ok
    obtain ⟨note,_,ok⟩ := bind_success ok
    have taken : ∀ name, name ∈ removals.keys ↔ name ∈ situation.revoked :=
      fun name => (revokeEvents_success read name).trans (revoked name)
    rw [foremost_cause some lacking taken ended,← pure_success ok]
    exact ⟨rfl,rfl⟩

theorem assess_expired {now : Datetime} {required : List RequiredPermission} {effective : List EffectivePermission}
    {missing : List String} {expired : Dictionary String Datetime} (ok : assess now required effective = .ok (missing,expired)) :
    expiredEndDates now effective = .ok expired := by
  obtain ⟨held,_,ok⟩ := bind_success ok
  obtain ⟨dates,read,ok⟩ := bind_success ok
  rw [read,(Prod.mk.inj (pure_success ok)).2]

end Step4Authorization

namespace DiagnosticOrchestrator
open Step4Authorization Raising

/-- The fourth check says why access is lacking. -/
theorem assessment_cause {a : AuthorizationAnswers} {required : List RequiredPermission} {effective : List EffectivePermission}
    {auditEvents : List PermissionAuditEvent} (required_ok : a.required = .ok required) (effective_ok : a.effective = .ok effective)
    (audit_ok : a.auditEvents = .ok auditEvents) (dated : Dated a.now effective)
    (concludes : ∀ missing expired, Succeeds (conclude missing expired auditEvents)) (situation : Situation)
    (lacking : ∀ name, Missing a.now required effective name ↔ name ∈ situation.lacking)
    (revoked : ∀ name, Revoked auditEvents name ↔ name ∈ situation.revoked)
    (ended : ∀ name, Expired a.now effective name ↔ name ∈ situation.ended) :
    assessment a = .ok (statusOf situation.accessCause,situation.accessCause) := by
  rw [assessment,required_ok,ok_bind]
  by_cases nothing : required.isEmpty
  · have none : situation.accessCause = none := by
      rw [situation.accessCause_none,Set.eq_empty_iff_forall_notMem]
      intro name absent
      obtain ⟨⟨permission,member,_⟩,_⟩ := (lacking name).mpr absent
      rw [List.isEmpty_iff.mp nothing] at member
      cases member
    rw [if_pos nothing,none]
    rfl
  · obtain ⟨⟨missing,expired⟩,assessed⟩ : Succeeds (assess a.now required effective) := succeeds_assess.mpr dated
    obtain ⟨conclusion,concluded⟩ := concludes missing expired
    obtain ⟨status,cause⟩ := conclude_cause concluded (fun name => (assess_success assessed name).trans (lacking name)) revoked
      fun name => (expiredEndDates_keys (assess_expired assessed) name).trans (ended name)
    rw [if_neg nothing,effective_ok,audit_ok]
    change (assess a.now required effective >>= _) = _
    rw [assessed,ok_bind]
    change (conclude missing expired auditEvents >>= _) = _
    rw [concluded,← status,← cause]
    rfl

end DiagnosticOrchestrator

/-! ### Runs -/

/-- The answers read the situation off. -/
structure Answers.Describes (a : Answers) (situation : Situation) : Prop where
  systems : ∃ result, a.availability = .ok result ∧ result.status = situation.systems
  account : ∃ result, a.userStatus = .ok result ∧ result.status = situation.account
  signIn : ∃ events, a.authEvents = .ok events ∧ SignInCause events situation.signInFailure
  access : DiagnosticOrchestrator.assessment a.authorization = .ok (statusOf situation.accessCause,situation.accessCause)

namespace Answers.Describes
variable {a : Answers} {situation : Situation} (describes : a.Describes situation)
include describes

theorem systems_iff : a.SystemsUp ↔ situation.systems = .up := by
  obtain ⟨result,answered,status⟩ := describes.systems
  simp [SystemsUp,answered,← status]

theorem account_iff (status : AccountStatus) : a.Account status ↔ situation.account = status := by
  obtain ⟨result,answered,known⟩ := describes.account
  simp [Account,answered,← known]

theorem signIn_iff : (a.SignInFails ↔ situation.signInFailure ≠ none) ∧ (a.SignInClear ↔ situation.signInFailure = none) := by
  obtain ⟨fails,clear,_⟩ := DiagnosticOrchestrator.signIn_iff a
  obtain ⟨events,answered,found⟩ := describes.signIn
  cases cause : situation.signInFailure with
  | none =>
    rw [cause] at found
    have known : a.SignInClear := by
      rw [Answers.SignInClear,answered]
      refine found.imp (congrArg Except.ok) ?_
      rintro ⟨event,first,success⟩
      exact ⟨event,⟨events,answered,first⟩,success⟩
    simp [fails,clear.mp known,known]
  | some reason =>
    rw [cause] at found
    obtain ⟨event,first,failed,_⟩ := found
    have known : a.SignInFails := ⟨event,⟨events,answered,first⟩,failed⟩
    simp [clear,fails.mp known,known]

theorem gap_iff : a.authorization.Gap ↔ situation.Requestable := by
  have gap := DiagnosticOrchestrator.assessment_gap a.authorization
  rw [describes.access] at gap
  rw [situation.requestable_iff]
  cases cause : situation.accessCause with
  | none =>
    rw [cause] at gap
    exact iff_of_false gap (fun found => found.1 rfl)
  | some reason =>
    rw [cause] at gap
    obtain ⟨code,same,_,known⟩ := gap
    obtain rfl := Option.some.inj same
    simpa using known

theorem selfService : a.SystemsUp ∧ (a.Account .locked ∨ a.Account .passwordExpired ∨ a.Account .active ∧ a.SignInFails) ↔
    situation.SelfService := by
  simp only [describes.systems_iff,describes.account_iff,describes.signIn_iff.1,Situation.SelfService]

theorem accessGap : a.SystemsUp ∧ (a.Account .deprovisioned ∨ a.Account .notFound ∨
    a.Account .active ∧ a.SignInClear ∧ a.authorization.Gap) ↔ situation.AccessGap := by
  simp only [describes.systems_iff,describes.account_iff,describes.signIn_iff.2,describes.gap_iff,Situation.AccessGap]

end Answers.Describes

namespace DiagnosticOrchestrator
variable {σ : Type} [Clock σ]

/-- A run finds and decides what the situation asks for. -/
theorem run_situation (connector : ConnectorSPI σ) (world : σ) (request : DiagnosticRequest) (principal : Principal)
    (correlationId : String) (perStepTimeout : Timedelta) {situation : Situation}
    (describes : (answers connector request world).Describes situation) : ∃ result after,
      run.exec ⟨world,.fresh request principal connector correlationId perStepTimeout⟩ = (.ok result,after) ∧
        result.findings = situation.findings ∧ result.outcome = situation.outcome := by
  let start : Diagnosis σ := ⟨world,.fresh request principal connector correlationId perStepTimeout⟩
  obtain ⟨last,_,ran,fix,gap,never⟩ := run_decides start rfl
  replace fix := fix.trans describes.selfService
  replace gap := gap.trans describes.accessGap
  refine ⟨resultOf start last,_,ran,?_,?_⟩
  · obtain ⟨available,available_ok,up⟩ := describes.systems
    obtain ⟨account,account_ok,known⟩ := describes.account
    obtain ⟨events,events_ok,signIn⟩ := describes.signIn
    have found := run_findings start available_ok account_ok events_ok signIn describes.access
    rw [up,known] at found
    rw [DiagnosticRunResult.findings,resultOf,List.map_map]
    exact found
  · cases outcome : (resultOf start last).outcome with
    | selfServiceFix => exact (situation.outcome_selfService.mpr (fix.mp outcome)).symm
    | accessGap => exact (situation.outcome_accessGap.mpr (gap.mp outcome)).symm
    | escalation =>
      rw [outcome] at fix gap
      simp only [reduceCtorEq,false_iff] at fix gap
      exact (situation.outcome_escalation.mpr ⟨fix,gap⟩).symm
    | remediationPending => exact absurd outcome never

end DiagnosticOrchestrator

end AccessAgent
