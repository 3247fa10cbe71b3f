import AccessAgent.AccessOutcome

/-! The fourth check, requirement by requirement: the whole list passes when every name does,
and otherwise reports the most specific of the causes it would report for the names alone. -/

namespace AccessAgent.Step4Authorization
open Semantics Raising

/-! ### What the comparisons raise -/

/-- The only exception of the check: two dates that do not compare. -/
abbrev incomparable : Exn := Datetime.order.clash

theorem greater_raises (left right : Datetime) : RaisesOnly incomparable (Datetime.order.greater left right) := by
  intro other failed
  rw [Comparison.greater] at failed
  split at failed
  · cases failed
  · exact (Except.error.inj failed).symm

theorem heldNames_raises (now : Datetime) (effective : List EffectivePermission) :
    RaisesOnly incomparable (heldNames now effective) := by
  induction effective with
  | nil => exact raisesOnly_ok _ []
  | cons permission rest ih =>
    refine raisesOnly_bind ?_ fun held => raisesOnly_bind ih fun names => raisesOnly_pure _ _
    rw [currentlyHeld]
    split
    · exact raisesOnly_ok _ true
    · exact greater_raises _ _

theorem expiredEndDates_raises (now : Datetime) (effective : List EffectivePermission) :
    RaisesOnly incomparable (expiredEndDates now effective) := by
  refine raisesOnly_foldlM (fun dates permission => ?_) effective []
  rw [noteExpired]
  split
  · exact raisesOnly_ok _ _
  · exact raisesOnly_bind (raisesOnly_bind (greater_raises _ _) fun _ => raisesOnly_pure _ _) fun _ => raisesOnly_pure _ _

theorem assess_raises (now : Datetime) (required : List RequiredPermission) (effective : List EffectivePermission) :
    RaisesOnly incomparable (assess now required effective) :=
  raisesOnly_bind (heldNames_raises now effective) fun _ => raisesOnly_bind (expiredEndDates_raises now effective) fun _ =>
    raisesOnly_pure _ _

/-! ### The check over given lists -/

/-- Audit events whose times compare with each other. -/
structure AuditHistory where
  events : List PermissionAuditEvent
  comparable : ∀ left ∈ events, ∀ right ∈ events, left.occurredAt.aware = right.occurredAt.aware

/-- A connector that answers the three questions of the check with these lists. -/
def listing (ctx : DiagnosticContext Watch) (required : List RequiredPermission) (effective : List EffectivePermission)
    (auditEvents : List PermissionAuditEvent) : DiagnosticContext Watch :=
  {ctx with connector := {ctx.connector with
    getRequiredPermissions := fun _ => pure required
    getEffectivePermissions := fun _ _ => pure effective
    getPermissionAuditEvents := fun _ _ => pure auditEvents}}

/-- The verdict at a time that stands still. -/
def verdict (ctx : DiagnosticContext Watch) (now : UtcNow) (effective : List EffectivePermission)
    (auditEvents : List PermissionAuditEvent) (required : List RequiredPermission) : Except Exn VerdictResult :=
  run.answer ⟨Watch.stopped now,listing ctx required effective auditEvents⟩

theorem verdict_eq (ctx : DiagnosticContext Watch) (now : UtcNow) (effective : List EffectivePermission)
    (auditEvents : List PermissionAuditEvent) (required : List RequiredPermission) :
    verdict ctx now effective auditEvents required =
      if required = [] then .ok (verdictOf ctx.connector.connectorId now.value ⟨.pass,none,none⟩)
      else do
        let (missing,expired) ← assess now.value required effective
        let conclusion ← conclude missing expired auditEvents
        return verdictOf ctx.connector.connectorId now.value conclusion :=
  @run_answer Watch _ ⟨Watch.stopped now,listing ctx required effective auditEvents⟩ required (Watch.stopped now) rfl

def Passes (answer : Except Exn VerdictResult) : Prop := ∃ verdict, answer = .ok verdict ∧ verdict.status = .pass

def Reports (answer : Except Exn VerdictResult) (cause : String) : Prop :=
  ∃ verdict, answer = .ok verdict ∧ verdict.status = .fail ∧ verdict.causeCode = some cause

def fails : Except Exn VerdictResult → Bool
  | .ok verdict => verdict.status == .fail
  | .error _ => false

/-- The part of a verdict that decides the case. -/
def decision (answer : Except Exn VerdictResult) : Except Exn (VerdictStatus × Option String) :=
  answer.map fun verdict => (verdict.status,verdict.causeCode)

/-- At least as specific, in the order of the source's table. -/
def AsSpecific (cause other : String) : Prop :=
  ∃ rank bound, causePriority.find cause = some rank ∧ causePriority.find other = some bound ∧ rank ≤ bound

/-- The text for a missing name, by its cause. -/
inductive Describes (now : Datetime) (effective : List EffectivePermission) (auditEvents : List PermissionAuditEvent)
    (name : String) : String → String → Prop
  | revoked (event) (latest : Datetime.order.First PermissionAuditEvent.occurredAt
      (Comparison.under name (revocations auditEvents)) event) :
      Describes now effective auditEvents name "access_revoked"
        ("'" ++ name ++ "' was revoked on " ++ event.occurredAt.isoformat)
  | expired (permission) (endDate) (granted : permission ∈ effective) (named : permission.name = name)
      (ends : permission.endDate = some endDate) (lapsed : Datetime.order.NotAfter endDate now) :
      Describes now effective auditEvents name "access_expired"
        ("'" ++ name ++ "' access expired on " ++ endDate.isoformat)
  | missing : Describes now effective auditEvents name "missing_role" ("'" ++ name ++ "'")

def Advisory (event : PermissionAuditEvent) : Prop := event.action ∈ syncAdvisoryActions

instance (event : PermissionAuditEvent) : Decidable (Advisory event) := inferInstanceAs (Decidable (_ ∈ _))

/-- The laws of the check over its requirements. -/
structure Compositional (ctx : DiagnosticContext Watch) (now : UtcNow) (effective : List EffectivePermission)
    (history : AuditHistory) : Prop where
  passes : ∀ required, Passes (verdict ctx now effective history.events required) ↔
    ∀ permission ∈ required, Passes (verdict ctx now effective history.events [permission])
  reports : ∀ required cause, Reports (verdict ctx now effective history.events required) cause ↔
    (∃ permission ∈ required, Reports (verdict ctx now effective history.events [permission]) cause) ∧
      ∀ permission ∈ required, ∀ other, Reports (verdict ctx now effective history.events [permission]) other →
        AsSpecific cause other
  details : ∀ required result, verdict ctx now effective history.events required = .ok result → result.status = .fail →
    ∃ texts note, result.detail = some (missingDetail texts note) ∧ List.Forall₂ (fun permission text =>
      ∃ alone cause, verdict ctx now effective history.events [permission] = .ok alone ∧ alone.causeCode = some cause ∧
        alone.detail = some (missingDetail [text] note) ∧
        Describes now.value effective history.events permission.name cause text)
      (required.filter fun permission => fails (verdict ctx now effective history.events [permission])) texts
  order : ∀ required others, (∀ name, (∃ permission ∈ required, permission.name = name) ↔
      ∃ permission ∈ others, permission.name = name) →
    decision (verdict ctx now effective history.events required) = decision (verdict ctx now effective history.events others)
  advisory : ∀ other : AuditHistory, other.events.filter (fun event => ¬Advisory event) =
      history.events.filter (fun event => ¬Advisory event) → ∀ required,
    decision (verdict ctx now effective other.events required) = decision (verdict ctx now effective history.events required)
  lookups : ∀ required raised, verdict ctx now effective history.events required = .error raised →
    raised = incomparable ∧ required ≠ [] ∧ ¬Dated now.value effective

/-! ### What the lists say once and for all names -/

structure Readings (now : Datetime) (effective : List EffectivePermission) (auditEvents : List PermissionAuditEvent) where
  held : List String
  expired : Dictionary String Datetime
  revoked : Dictionary String PermissionAuditEvent
  note : Option String
  heldRead : heldNames now effective = .ok held
  expiredRead : expiredEndDates now effective = .ok expired
  revokedRead : revokeEvents auditEvents = .ok revoked
  noteRead : syncAdvisoryNote (syncEvents auditEvents) = .ok note

theorem readings_exist {now : Datetime} {effective : List EffectivePermission} (dated : Dated now effective)
    (history : AuditHistory) : Nonempty (Readings now effective history.events) := by
  obtain ⟨held,heldRead⟩ := succeeds_heldNames.mpr dated
  obtain ⟨expired,expiredRead⟩ := succeeds_expiredEndDates.mpr dated
  obtain ⟨revoked,revokedRead⟩ := succeeds_revokeEvents.mpr fun _ left inside right member _ _ =>
    history.comparable left inside right member
  obtain ⟨note,noteRead⟩ := succeeds_syncAdvisoryNote.mpr fun left inside right member =>
    history.comparable left (List.mem_filter.mp inside).1 right (List.mem_filter.mp member).1
  exact ⟨⟨held,expired,revoked,note,heldRead,expiredRead,revokedRead,noteRead⟩⟩

theorem verdict_undated {ctx : DiagnosticContext Watch} {now : UtcNow} {effective : List EffectivePermission}
    {auditEvents : List PermissionAuditEvent} {required : List RequiredPermission} (undated : ¬Dated now.value effective)
    (asked : required ≠ []) : verdict ctx now effective auditEvents required = .error incomparable := by
  rw [verdict_eq,if_neg asked]
  cases assessed : assess now.value required effective with
  | error raised =>
    rw [assess_raises now.value required effective raised assessed]
    rfl
  | ok assessment => exact absurd (succeeds_assess.mp ⟨assessment,assessed⟩) undated

namespace Readings
variable {now : UtcNow} {effective : List EffectivePermission} {auditEvents : List PermissionAuditEvent}
variable (readings : Readings now.value effective auditEvents)

def missing (required : List RequiredPermission) : List String :=
  (required.map RequiredPermission.name).filter fun name => !readings.held.contains name

def cause (name : String) : String := causeOf readings.expired readings.revoked name

def description (name : String) : String := descriptionOf readings.expired readings.revoked name

def conclusion (required : List RequiredPermission) : Conclusion :=
  if readings.missing required = [] then ⟨.pass,none,if required = [] then none else readings.note⟩
  else ⟨.fail,some (foremost ((readings.missing required).map readings.cause)),
    some (missingDetail ((readings.missing required).map readings.description) readings.note)⟩

theorem verdict_ok (ctx : DiagnosticContext Watch) (required : List RequiredPermission) :
    verdict ctx now effective auditEvents required =
      .ok (verdictOf ctx.connector.connectorId now.value (readings.conclusion required)) := by
  rw [verdict_eq]
  by_cases asked : required = []
  · subst asked
    rfl
  · have assessed : assess now.value required effective = .ok (readings.missing required,readings.expired) := by
      rw [assess,readings.heldRead,readings.expiredRead]
      rfl
    rw [if_neg asked,assessed]
    change (conclude (readings.missing required) readings.expired auditEvents >>= _) = _
    rw [conclude_eq,readings.noteRead,readings.revokedRead,conclusion]
    by_cases none : readings.missing required = []
    · rw [if_pos none,if_pos none,if_neg asked]
      rfl
    · rw [if_neg none,if_neg none]
      rfl

theorem mem_missing {required : List RequiredPermission} {name : String} :
    name ∈ readings.missing required ↔ (∃ permission ∈ required, permission.name = name) ∧ name ∉ readings.held := by
  simp [missing]

theorem missing_empty {required : List RequiredPermission} :
    readings.missing required = [] ↔ ∀ permission ∈ required, permission.name ∈ readings.held := by
  simp [List.eq_nil_iff_forall_not_mem,mem_missing]

theorem missing_single {permission : RequiredPermission} (absent : permission.name ∉ readings.held) :
    readings.missing [permission] = [permission.name] := by
  simp [missing,absent]

theorem passes_iff (ctx : DiagnosticContext Watch) (required : List RequiredPermission) :
    Passes (verdict ctx now effective auditEvents required) ↔ readings.missing required = [] := by
  rw [readings.verdict_ok,conclusion]
  split
  next none => exact iff_of_true ⟨_,rfl,rfl⟩ none
  next some =>
    refine iff_of_false ?_ some
    rintro ⟨result,ok,passed⟩
    rw [← Except.ok.inj ok] at passed
    cases passed

theorem reports_iff (ctx : DiagnosticContext Watch) (required : List RequiredPermission) (cause : String) :
    Reports (verdict ctx now effective auditEvents required) cause ↔
      readings.missing required ≠ [] ∧ cause = foremost ((readings.missing required).map readings.cause) := by
  rw [readings.verdict_ok,conclusion]
  split
  next none =>
    refine iff_of_false ?_ (fun some => some.1 none)
    rintro ⟨result,ok,failed,_⟩
    rw [← Except.ok.inj ok] at failed
    cases failed
  next some =>
    constructor
    · rintro ⟨result,ok,_,code⟩
      rw [← Except.ok.inj ok] at code
      exact ⟨some,(Option.some.inj code).symm⟩
    · rintro ⟨_,rfl⟩
      exact ⟨_,rfl,rfl,rfl⟩

end Readings

theorem foremost_specific {causes : List String} (nonempty : causes ≠ [])
    (known : ∀ cause ∈ causes, cause ∈ ["access_revoked","access_expired","missing_role"]) :
    foremost causes ∈ causes ∧ ∀ cause ∈ causes, AsSpecific (foremost causes) cause := by
  obtain ⟨member,least,found,below⟩ := leastCause_success (leastCause_ok nonempty known)
  refine ⟨member,?_⟩
  intro cause inside
  obtain ⟨priority,rank,bound⟩ := below cause inside
  exact ⟨least,priority,found,rank,bound⟩

theorem specific_antisymm {cause other : String} (left : AsSpecific cause other) (right : AsSpecific other cause) :
    cause = other := by
  obtain ⟨rank,bound,first,second,below⟩ := left
  obtain ⟨again,limit,other_,cause_,above⟩ := right
  obtain rfl := Option.some.inj (second.symm.trans other_)
  obtain rfl := Option.some.inj (first.symm.trans cause_)
  obtain rfl : rank = bound := by omega
  have here : (cause,rank) ∈ causePriority := Dictionary.mem_of_find first
  have there : (other,rank) ∈ causePriority := Dictionary.mem_of_find second
  simp only [causePriority,List.mem_cons,Prod.mk.injEq,List.not_mem_nil,or_false] at here there
  rcases here with ⟨rfl,rfl⟩ | ⟨rfl,rfl⟩ | ⟨rfl,rfl⟩ <;> simpa [eq_comm] using there

theorem foremost_single {cause : String} (known : cause ∈ ["access_revoked","access_expired","missing_role"]) :
    foremost [cause] = cause := by
  have alone := (foremost_specific (List.cons_ne_nil cause []) (by simpa using known)).1
  exact List.mem_singleton.mp alone

namespace Readings
variable {now : UtcNow} {effective : List EffectivePermission} {auditEvents : List PermissionAuditEvent}
variable (readings : Readings now.value effective auditEvents)

theorem causes_known (names : List String) :
    ∀ cause ∈ names.map readings.cause, cause ∈ ["access_revoked","access_expired","missing_role"] := by
  intro cause member
  obtain ⟨name,_,rfl⟩ := List.mem_map.mp member
  exact causeOf_range _ _ name

theorem reports_single (ctx : DiagnosticContext Watch) (permission : RequiredPermission) (cause : String) :
    Reports (verdict ctx now effective auditEvents [permission]) cause ↔
      permission.name ∉ readings.held ∧ cause = readings.cause permission.name := by
  rw [readings.reports_iff]
  by_cases held : permission.name ∈ readings.held
  · refine iff_of_false (fun reported => reported.1 ?_) (fun absent => absent.1 held)
    exact readings.missing_empty.mpr (by simpa using held)
  · have single : foremost [readings.cause permission.name] = readings.cause permission.name :=
      foremost_single (causeOf_range _ _ _)
    rw [readings.missing_single held,List.map_singleton,single]
    simp [held]

theorem reports_composed (readings : Readings now.value effective auditEvents) (ctx : DiagnosticContext Watch)
    (required : List RequiredPermission) (cause : String) :
    Reports (verdict ctx now effective auditEvents required) cause ↔
      (∃ permission ∈ required, Reports (verdict ctx now effective auditEvents [permission]) cause) ∧
        ∀ permission ∈ required, ∀ other, Reports (verdict ctx now effective auditEvents [permission]) other →
          AsSpecific cause other := by
  simp only [readings.reports_single]
  rw [readings.reports_iff]
  constructor
  · rintro ⟨nonempty,rfl⟩
    obtain ⟨member,specific⟩ := foremost_specific (by simpa using nonempty) (readings.causes_known _)
    obtain ⟨name,missing,same⟩ := List.mem_map.mp member
    obtain ⟨⟨permission,asked,rfl⟩,absent⟩ := readings.mem_missing.mp missing
    refine ⟨⟨permission,asked,absent,same.symm⟩,?_⟩
    rintro other required _ ⟨absent,rfl⟩
    exact specific _ (List.mem_map_of_mem (readings.mem_missing.mpr ⟨⟨other,required,rfl⟩,absent⟩))
  · rintro ⟨⟨permission,asked,absent,rfl⟩,specific⟩
    have missing := readings.mem_missing.mpr ⟨⟨permission,asked,rfl⟩,absent⟩
    refine ⟨List.ne_nil_of_mem missing,?_⟩
    obtain ⟨member,foremost⟩ := foremost_specific (List.ne_nil_of_mem (List.mem_map_of_mem missing)) (readings.causes_known _)
    refine specific_antisymm ?_ (foremost _ (List.mem_map_of_mem missing))
    obtain ⟨name,inside,same⟩ := List.mem_map.mp member
    obtain ⟨⟨other,required,rfl⟩,lacking⟩ := readings.mem_missing.mp inside
    exact specific other required _ ⟨lacking,same.symm⟩

theorem describes (name : String) :
    Describes now.value effective auditEvents name (readings.cause name) (readings.description name) := by
  rw [cause,description,causeOf,classifyMissing,descriptionOf,Dictionary.contains_keys,Dictionary.contains_keys]
  cases revoked : readings.revoked.find name with
  | some event => exact .revoked event (revokeEvents_latest readings.revokedRead revoked)
  | none =>
    cases expired : readings.expired.find name with
    | some endDate =>
      obtain ⟨permission,granted,named,ends,lapsed⟩ := expiredEndDates_found readings.expiredRead expired
      exact .expired permission endDate granted named ends lapsed
    | none => exact .missing

theorem fails_single (ctx : DiagnosticContext Watch) (permission : RequiredPermission) :
    fails (verdict ctx now effective auditEvents [permission]) = !readings.held.contains permission.name := by
  rw [readings.verdict_ok,conclusion]
  by_cases held : permission.name ∈ readings.held
  · rw [if_pos (readings.missing_empty.mpr (by simpa using held)),List.contains_iff_mem.mpr held]
    rfl
  · rw [readings.missing_single held,if_neg (List.cons_ne_nil _ _),Bool.eq_false_iff.mpr (held ∘ List.contains_iff_mem.mp)]
    rfl

/-- The descriptions of the missing names, each as its own verdict has it. -/
theorem details_composed (ctx : DiagnosticContext Watch) (required : List RequiredPermission) :
    List.Forall₂ (fun permission text => ∃ alone cause, verdict ctx now effective auditEvents [permission] = .ok alone ∧
        alone.causeCode = some cause ∧ alone.detail = some (missingDetail [text] readings.note) ∧
        Describes now.value effective auditEvents permission.name cause text)
      (required.filter fun permission => fails (verdict ctx now effective auditEvents [permission]))
      ((readings.missing required).map readings.description) := by
  have names : readings.missing required = (required.filter fun permission =>
      fails (verdict ctx now effective auditEvents [permission])).map RequiredPermission.name := by
    rw [missing,List.filter_map]
    simp only [readings.fails_single,Function.comp_def]
  rw [names,List.map_map,List.forall₂_map_right_iff,List.forall₂_same]
  intro permission member
  have absent : permission.name ∉ readings.held := by
    have failed := (List.mem_filter.mp member).2
    rw [readings.fails_single] at failed
    simpa using failed
  refine ⟨_,readings.cause permission.name,readings.verdict_ok ctx [permission],?_,?_,readings.describes permission.name⟩
  · rw [conclusion,readings.missing_single absent,if_neg (List.cons_ne_nil _ _)]
    exact congrArg some (foremost_single (causeOf_range _ _ _))
  · rw [conclusion,readings.missing_single absent,if_neg (List.cons_ne_nil _ _)]
    rfl

theorem decision_ok (ctx : DiagnosticContext Watch) (required : List RequiredPermission) :
    decision (verdict ctx now effective auditEvents required) = .ok (if readings.missing required = [] then (.pass,none)
      else (.fail,some (foremost ((readings.missing required).map readings.cause)))) := by
  rw [readings.verdict_ok,conclusion]
  split <;> rfl

end Readings

/-! ### The laws -/

theorem foremost_congr {causes others : List String} (same : ∀ cause, cause ∈ causes ↔ cause ∈ others) :
    foremost causes = foremost others := by
  simp only [foremost,same]

theorem order_independent (ctx : DiagnosticContext Watch) (now : UtcNow) (effective : List EffectivePermission)
    (history : AuditHistory) {required others : List RequiredPermission}
    (same : ∀ name, (∃ permission ∈ required, permission.name = name) ↔ ∃ permission ∈ others, permission.name = name) :
    decision (verdict ctx now effective history.events required) = decision (verdict ctx now effective history.events others) := by
  by_cases dated : Dated now.value effective
  · obtain ⟨readings⟩ := readings_exist dated history
    have missing : ∀ name, name ∈ readings.missing required ↔ name ∈ readings.missing others := by
      intro name
      rw [readings.mem_missing,readings.mem_missing,same]
    have empty : readings.missing required = [] ↔ readings.missing others = [] := by
      simp only [List.eq_nil_iff_forall_not_mem,missing]
    have causes : foremost ((readings.missing required).map readings.cause) =
        foremost ((readings.missing others).map readings.cause) := foremost_congr fun cause => by
      simp only [List.mem_map,missing]
    rw [readings.decision_ok,readings.decision_ok,causes]
    simp only [empty]
  · by_cases asked : required = []
    · obtain rfl : others = [] := by
        refine List.eq_nil_iff_forall_not_mem.mpr fun permission member => ?_
        obtain ⟨other,inside,_⟩ := (same permission.name).mpr ⟨permission,member,rfl⟩
        simp [asked] at inside
      rw [asked]
    · have different : others ≠ [] := by
        obtain ⟨permission,member⟩ := List.exists_mem_of_ne_nil required asked
        obtain ⟨other,inside,_⟩ := (same permission.name).mp ⟨permission,member,rfl⟩
        exact List.ne_nil_of_mem inside
      rw [verdict_undated dated asked,verdict_undated dated different]

theorem revoke_not_advisory : ∀ action ∈ revokeActions, action ∉ syncAdvisoryActions := by decide

theorem advisory_independent (ctx : DiagnosticContext Watch) (now : UtcNow) (effective : List EffectivePermission)
    {history other : AuditHistory} (same : other.events.filter (fun event => ¬Advisory event) =
      history.events.filter fun event => ¬Advisory event) (required : List RequiredPermission) :
    decision (verdict ctx now effective other.events required) = decision (verdict ctx now effective history.events required) := by
  have revoking : ∀ events : List PermissionAuditEvent, events.filter (fun event => revokeActions.contains event.action) =
      (events.filter fun event => ¬Advisory event).filter fun event => revokeActions.contains event.action := by
    intro events
    rw [List.filter_filter]
    refine List.filter_congr fun event _ => ?_
    cases revokes : revokeActions.contains event.action with
    | false => rfl
    | true =>
      have apart := revoke_not_advisory _ (List.contains_iff_mem.mp revokes)
      rw [Bool.true_and]
      exact (decide_eq_true apart).symm
  by_cases dated : Dated now.value effective
  · obtain ⟨left⟩ := readings_exist dated other
    obtain ⟨right⟩ := readings_exist dated history
    have revoked : left.revoked = right.revoked := by
      have events := revokeEvents_congr ((revoking other.events).trans ((congrArg _ same).trans (revoking history.events).symm))
      exact Except.ok.inj (left.revokedRead.symm.trans (events.trans right.revokedRead))
    have held : left.held = right.held := Except.ok.inj (left.heldRead.symm.trans right.heldRead)
    have expired : left.expired = right.expired := Except.ok.inj (left.expiredRead.symm.trans right.expiredRead)
    have missing : left.missing required = right.missing required := by rw [Readings.missing,Readings.missing,held]
    have cause : left.cause = right.cause := by
      funext name
      rw [Readings.cause,Readings.cause,expired,revoked]
    rw [left.decision_ok,right.decision_ok,missing,cause]
  · by_cases asked : required = []
    · subst asked
      rfl
    · rw [verdict_undated dated asked,verdict_undated dated asked]

theorem undated_answer {ctx : DiagnosticContext Watch} {now : UtcNow} {effective : List EffectivePermission}
    {auditEvents : List PermissionAuditEvent} {required : List RequiredPermission} {result : VerdictResult}
    (undated : ¬Dated now.value effective) (ok : verdict ctx now effective auditEvents required = .ok result) :
    required = [] ∧ result.status = .pass := by
  by_cases asked : required = []
  · rw [verdict_eq,if_pos asked] at ok
    exact ⟨asked,by rw [← Except.ok.inj ok]; rfl⟩
  · rw [verdict_undated undated asked] at ok
    cases ok

/-- With an end date that does not compare, the check raises for every requirement, alone and
together; the laws hold of such runs too. -/
theorem compositional (ctx : DiagnosticContext Watch) (now : UtcNow) (effective : List EffectivePermission)
    (history : AuditHistory) : Compositional ctx now effective history where
  passes required := by
    by_cases dated : Dated now.value effective
    · obtain ⟨readings⟩ := readings_exist dated history
      simp only [readings.passes_iff,readings.missing_empty,List.mem_singleton,forall_eq]
    · cases required with
      | nil => simpa using ⟨_,verdict_eq ctx now effective history.events [],rfl⟩
      | cons first rest =>
        refine iff_of_false ?_ fun each => ?_
        · rintro ⟨result,ok,_⟩
          exact absurd (undated_answer dated ok).1 (List.cons_ne_nil _ _)
        · obtain ⟨result,ok,_⟩ := each first (by simp)
          exact absurd (undated_answer dated ok).1 (List.cons_ne_nil _ _)
  reports required cause := by
    by_cases dated : Dated now.value effective
    · obtain ⟨readings⟩ := readings_exist dated history
      exact readings.reports_composed ctx required cause
    · have silent : ∀ permissions cause, ¬Reports (verdict ctx now effective history.events permissions) cause := by
        rintro permissions cause ⟨result,ok,failed,_⟩
        exact nomatch failed.symm.trans (undated_answer dated ok).2
      simp [silent]
  details required result ok failed := by
    by_cases dated : Dated now.value effective
    · obtain ⟨readings⟩ := readings_exist dated history
      refine ⟨_,readings.note,?_,readings.details_composed ctx required⟩
      rw [readings.verdict_ok,Readings.conclusion] at ok
      split at ok
      · rw [← Except.ok.inj ok] at failed
        cases failed
      · rw [← Except.ok.inj ok]
        rfl
    · exact nomatch failed.symm.trans (undated_answer dated ok).2
  order required others same := order_independent ctx now effective history same
  advisory other same required := advisory_independent ctx now effective same required
  lookups required raised failed := by
    by_cases asked : required = []
    · rw [verdict_eq,if_pos asked] at failed
      cases failed
    · by_cases dated : Dated now.value effective
      · obtain ⟨readings⟩ := readings_exist dated history
        rw [readings.verdict_ok] at failed
        cases failed
      · rw [verdict_undated dated asked] at failed
        exact ⟨(Except.error.inj failed).symm,asked,dated⟩

end AccessAgent.Step4Authorization
