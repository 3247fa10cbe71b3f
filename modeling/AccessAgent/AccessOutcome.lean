import AccessAgent.MissingAccess
import AccessAgent.Semantics.Latest

/-! When the fourth check answers, and with what. Its comparisons are the only ones of its
computations that can raise: every name it looks up is there. -/

namespace AccessAgent.Step4Authorization
open Semantics Raising

/-! ### The end dates -/

/-- Every end date compares with the time of the check. -/
def Dated (now : Datetime) (effective : List EffectivePermission) : Prop :=
  ∀ permission ∈ effective, ∀ date, permission.endDate = some date → date.aware = now.aware

/-- A grant of the name has run past its end. -/
def Expired (now : Datetime) (effective : List EffectivePermission) (name : String) : Prop :=
  ∃ permission ∈ effective, permission.name = name ∧ ∃ date, permission.endDate = some date ∧
    Datetime.order.NotAfter date now

theorem comparable_endDate {now endDate : Datetime} : Succeeds (Datetime.order.greater endDate now) ↔
    ∀ date, some endDate = some date → date.aware = now.aware := by
  rw [Comparison.succeeds_greater]
  simp only [Option.some.injEq,forall_eq']
  rfl

theorem succeeds_currentlyHeld {now : Datetime} {permission : EffectivePermission} :
    Succeeds (currentlyHeld now permission) ↔ ∀ date, permission.endDate = some date → date.aware = now.aware := by
  rw [currentlyHeld]
  split
  next unbounded => simp [unbounded]
  next endDate bounded =>
    rw [bounded]
    exact comparable_endDate

theorem succeeds_heldNames {now : Datetime} {effective : List EffectivePermission} :
    Succeeds (heldNames now effective) ↔ Dated now effective := by
  induction effective with
  | nil => simp [heldNames,Dated]
  | cons permission rest ih =>
    rw [heldNames,Dated,List.forall_mem_cons,← succeeds_currentlyHeld,succeeds_bind_and fun _ _ => succeeds_return,ih]
    rfl

theorem succeeds_noteExpired (now : Datetime) (dates : Dictionary String Datetime) (permission : EffectivePermission) :
    Succeeds (noteExpired now dates permission) ↔ ∀ date, permission.endDate = some date → date.aware = now.aware := by
  rw [noteExpired]
  split
  next unbounded => simp [unbounded]
  next endDate bounded =>
    rw [bounded,succeeds_return,Datetime.le,succeeds_return]
    exact comparable_endDate

/-- An expired grant puts its end date under its name; another leaves the dates alone. -/
theorem noteExpired_success {now : Datetime} {before after : Dictionary String Datetime}
    {permission : EffectivePermission} (ok : noteExpired now before permission = .ok after) :
    (∃ date, permission.endDate = some date ∧ Datetime.order.NotAfter date now ∧ after = before.set permission.name date) ∨
      ((¬∃ date, permission.endDate = some date ∧ Datetime.order.NotAfter date now) ∧ after = before) := by
  rw [noteExpired] at ok
  split at ok
  next unbounded =>
    refine Or.inr ⟨?_,(Except.ok.inj ok).symm⟩
    simp [unbounded]
  next endDate bounded =>
    obtain ⟨past,compared,ok⟩ := bind_success ok
    obtain ⟨above,compared,result⟩ := bind_success compared
    obtain ⟨same,rfl⟩ := (Datetime.order.greater_ok _ _ _).mp compared
    have lapsed : past = true ↔ Datetime.order.NotAfter endDate now := by
      rw [← pure_success result,Comparison.NotAfter,and_iff_right (show Datetime.order.kind endDate = _ from same)]
      simp
    rw [← pure_success ok]
    cases past with
    | true => exact Or.inl ⟨endDate,bounded,lapsed.mp rfl,rfl⟩
    | false =>
      refine Or.inr ⟨?_,rfl⟩
      rintro ⟨date,known,past⟩
      obtain rfl := Option.some.inj (bounded.symm.trans known)
      exact absurd (lapsed.mpr past) Bool.false_ne_true

theorem succeeds_expiredEndDates {now : Datetime} {effective : List EffectivePermission} :
    Succeeds (expiredEndDates now effective) ↔ Dated now effective :=
  succeeds_foldlM (succeeds_noteExpired now)

/-- The end date of a grant that has run past it. -/
def ending (now : Datetime) (permission : EffectivePermission) : Option Datetime :=
  permission.endDate.filter fun date => date.aware == now.aware && decide (date.instant ≤ now.instant)

/-- The end dates of the ended grants of a name, in the order of the list. -/
def endings (now : Datetime) (effective : List EffectivePermission) (name : String) : List Datetime :=
  (effective.filter fun permission => permission.name = name).filterMap (ending now)

theorem ending_some {now : Datetime} {permission : EffectivePermission} {date : Datetime} :
    ending now permission = some date ↔ permission.endDate = some date ∧ Datetime.order.NotAfter date now := by
  rw [ending,Option.filter_eq_some_iff,Bool.and_eq_true,beq_iff_eq,decide_eq_true_eq]
  rfl

theorem mem_endings {now : Datetime} {effective : List EffectivePermission} {name : String} {date : Datetime} :
    date ∈ endings now effective name ↔
      ∃ permission ∈ effective, permission.name = name ∧ permission.endDate = some date ∧ Datetime.order.NotAfter date now := by
  simp only [endings,List.mem_filterMap,List.mem_filter,decide_eq_true_eq,ending_some,and_assoc]

theorem endings_append (now : Datetime) (done : List EffectivePermission) (permission : EffectivePermission) (name : String) :
    endings now (done ++ [permission]) name =
      endings now done name ++ if permission.name = name then (ending now permission).toList else [] := by
  rw [endings,endings,List.filter_append,List.filterMap_append]
  split
  next same =>
    rw [List.filter_singleton,decide_eq_true same]
    cases known : ending now permission <;> simp [known]
  next other => simp [other]

/-- Of the ended grants of a name the one listed last gives its date. -/
theorem expiredEndDates_last {now : Datetime} {effective : List EffectivePermission} {dates : Dictionary String Datetime}
    (ok : expiredEndDates now effective = .ok dates) (name : String) :
    dates.find name = (endings now effective name).getLast? := by
  refine foldlM_success (noteExpired now) (fun done dates => dates.find name = (endings now done name).getLast?) ?_
    effective [] dates rfl ok
  intro done permission before after known stepped
  rw [endings_append]
  rcases noteExpired_success stepped with ⟨date,bounded,lapsed,rfl⟩ | ⟨lasting,rfl⟩
  · rw [Dictionary.find_set,ending_some.mpr ⟨bounded,lapsed⟩]
    split
    next same => simp
    next other => rw [List.append_nil,known]
  · have none : ending now permission = none := by
      rw [Option.eq_none_iff_forall_ne_some]
      exact fun date ended => lasting ⟨date,ending_some.mp ended⟩
    rw [none,Option.toList_none,ite_self,List.append_nil,known]

/-- The date found under a name is the end of an expired grant of it. -/
theorem expiredEndDates_found {now : Datetime} {effective : List EffectivePermission} {dates : Dictionary String Datetime}
    (ok : expiredEndDates now effective = .ok dates) {name : String} {date : Datetime} (found : dates.find name = some date) :
    ∃ permission ∈ effective, permission.name = name ∧ permission.endDate = some date ∧ Datetime.order.NotAfter date now := by
  rw [expiredEndDates_last ok] at found
  exact mem_endings.mp (List.mem_of_getLast? found)

theorem succeeds_assess {now : Datetime} {required : List RequiredPermission} {effective : List EffectivePermission} :
    Succeeds (assess now required effective) ↔ Dated now effective := by
  rw [assess,succeeds_bind_and fun _ _ => succeeds_return,succeeds_heldNames,succeeds_expiredEndDates,and_self]

/-! ### The grants taken away -/

/-- The names that grants were taken away from, each with its event, in the order of the log. -/
def revocations (auditEvents : List PermissionAuditEvent) : List (PermissionAuditEvent × String) :=
  (auditEvents.filter fun event => revokeActions.contains event.action).flatMap fun event =>
    event.targetNames.map fun name => (event,name)

theorem mem_revocations {auditEvents : List PermissionAuditEvent} {event : PermissionAuditEvent} {name : String} :
    (event,name) ∈ revocations auditEvents ↔
      event ∈ auditEvents ∧ event.action ∈ revokeActions ∧ name ∈ event.targetNames := by
  simp [revocations,and_assoc]

theorem revocations_cons (event : PermissionAuditEvent) (rest : List PermissionAuditEvent) :
    revocations (event::rest) = (if revokeActions.contains event.action then event.targetNames.map fun name => (event,name)
      else []) ++ revocations rest := by
  rw [revocations,revocations]
  by_cases revokes : revokeActions.contains event.action = true
  · simp only [List.filter_cons,revokes,if_true,List.flatMap_cons]
  · simp only [List.filter_cons,if_neg revokes,List.nil_append]

theorem noteRevoked_keep (event : PermissionAuditEvent) (revoked : Dictionary String PermissionAuditEvent) (name : String) :
    noteRevoked event revoked name = Datetime.order.keep PermissionAuditEvent.occurredAt revoked (event,name) := by
  rw [noteRevoked,Comparison.keep]
  cases revoked.find name <;> rfl

theorem revokeEvents_keep (auditEvents : List PermissionAuditEvent) :
    revokeEvents auditEvents =
      (revocations auditEvents).foldlM (Datetime.order.keep PermissionAuditEvent.occurredAt) [] := by
  have names : ∀ (event : PermissionAuditEvent) revoked, (event.targetNames.map fun name => (event,name)).foldlM
      (Datetime.order.keep PermissionAuditEvent.occurredAt) revoked = event.targetNames.foldlM (noteRevoked event) revoked := by
    intro event revoked
    rw [List.foldlM_map]
    simp only [← noteRevoked_keep]
  suffices rule : ∀ revoked, auditEvents.foldlM noteEvent revoked = (revocations auditEvents).foldlM
      (Datetime.order.keep PermissionAuditEvent.occurredAt) revoked from rule []
  induction auditEvents with
  | nil => exact fun revoked => rfl
  | cons event rest ih =>
    intro revoked
    rw [List.foldlM_cons,noteEvent]
    by_cases revokes : revokeActions.contains event.action = true
    · rw [if_pos revokes,revocations_cons,if_pos revokes,List.foldlM_append,names]
      exact bind_congr fun after => ih after
    · rw [if_neg revokes,revocations_cons,if_neg revokes]
      exact ih revoked

theorem succeeds_revokeEvents {auditEvents : List PermissionAuditEvent} :
    Succeeds (revokeEvents auditEvents) ↔ ∀ name, ∀ left ∈ auditEvents, ∀ right ∈ auditEvents,
      left.action ∈ revokeActions ∧ name ∈ left.targetNames → right.action ∈ revokeActions ∧ name ∈ right.targetNames →
        left.occurredAt.aware = right.occurredAt.aware := by
  rw [revokeEvents_keep,Comparison.succeeds_keep]
  refine forall_congr' fun name => ?_
  rw [Dictionary.find_nil,Comparison.succeeds_scanFrom]
  simp only [Comparison.mem_under,mem_revocations]
  constructor
  · intro comparable left member right other revokes again
    exact comparable left ⟨member,revokes⟩ right ⟨other,again⟩
  · intro comparable left known right again
    exact comparable left known.1 right again.1 known.2 again.2

/-- The event found under a name is the latest that took a grant of it away. -/
theorem revokeEvents_latest {auditEvents : List PermissionAuditEvent} {revoked : Dictionary String PermissionAuditEvent}
    (ok : revokeEvents auditEvents = .ok revoked) {name : String} {event : PermissionAuditEvent}
    (found : revoked.find name = some event) :
    Datetime.order.First PermissionAuditEvent.occurredAt (Comparison.under name (revocations auditEvents)) event := by
  rw [revokeEvents_keep] at ok
  have scanned := Comparison.keep_success ok name
  rw [Dictionary.find_nil,found] at scanned
  rcases Comparison.scanFrom_success scanned with ⟨none,_⟩ | ⟨chosen,same,first⟩
  · simp at none
  · rwa [Option.some.inj same]

theorem revokeEvents_congr {auditEvents others : List PermissionAuditEvent}
    (same : auditEvents.filter (fun event => revokeActions.contains event.action) =
      others.filter fun event => revokeActions.contains event.action) : revokeEvents auditEvents = revokeEvents others := by
  rw [revokeEvents_keep,revokeEvents_keep,revocations,revocations,same]

theorem succeeds_syncAdvisoryNote {events : List PermissionAuditEvent} :
    Succeeds (syncAdvisoryNote events) ↔
      ∀ left ∈ events, ∀ right ∈ events, left.occurredAt.aware = right.occurredAt.aware := by
  cases events with
  | nil => simp [syncAdvisoryNote]
  | cons first rest =>
    rw [syncAdvisoryNote,succeeds_return]
    exact Comparison.succeeds_scan_pairs

/-! ### The conclusion -/

def causeOf (expired : Dictionary String Datetime) (revoked : Dictionary String PermissionAuditEvent) (name : String) : String :=
  classifyMissing name expired.keys revoked.keys

def descriptionOf (expired : Dictionary String Datetime) (revoked : Dictionary String PermissionAuditEvent)
    (name : String) : String :=
  match revoked.find name with
  | some event => "'" ++ name ++ "' was revoked on " ++ event.occurredAt.isoformat
  | none => match expired.find name with
    | some endDate => "'" ++ name ++ "' access expired on " ++ endDate.isoformat
    | none => "'" ++ name ++ "'"

/-- The most specific of the causes. -/
def foremost (causes : List String) : String :=
  if "access_revoked" ∈ causes then "access_revoked"
  else if "access_expired" ∈ causes then "access_expired"
  else "missing_role"

def syncEvents (auditEvents : List PermissionAuditEvent) : List PermissionAuditEvent :=
  auditEvents.filter fun event => syncAdvisoryActions.contains event.action

def missingDetail (descriptions : List String) (note : Option String) : String :=
  match note with
  | some note => "Missing required access: " ++ Text.join "; " descriptions ++ ". " ++ note
  | none => "Missing required access: " ++ Text.join "; " descriptions

theorem causeOf_range (expired : Dictionary String Datetime) (revoked : Dictionary String PermissionAuditEvent)
    (name : String) : causeOf expired revoked name ∈ ["access_revoked","access_expired","missing_role"] := by
  rw [causeOf,classifyMissing]
  split
  · simp
  · split <;> simp

theorem describeMissing_ok (expired : Dictionary String Datetime) (revoked : Dictionary String PermissionAuditEvent)
    (name : String) :
    describeMissing name (causeOf expired revoked name) expired revoked = .ok (descriptionOf expired revoked name) := by
  rw [describeMissing,descriptionOf,causeOf,classifyMissing,Dictionary.contains_keys,Dictionary.contains_keys]
  cases foundRevoked : revoked.find name with
  | some event => simp [lookup,foundRevoked,bind,Except.bind,pure,Except.pure]
  | none =>
    cases foundExpired : expired.find name with
    | some endDate => simp [lookup,foundExpired,bind,Except.bind,pure,Except.pure]
    | none => simp [pure,Except.pure]

theorem foremost_least {causes : List String} {chosen : String} (ok : leastCause causes = .ok chosen) :
    chosen = foremost causes := by
  obtain ⟨member,least,found,below⟩ := leastCause_success ok
  have revoked : "access_revoked" ∈ causes → least = 0 := by
    intro member
    obtain ⟨priority,known,bound⟩ := below _ member
    obtain rfl : 0 = priority := Option.some.inj known
    exact Nat.le_zero.mp bound
  have expired : "access_expired" ∈ causes → least ≤ 1 := by
    intro member
    obtain ⟨priority,known,bound⟩ := below _ member
    obtain rfl : 1 = priority := Option.some.inj known
    exact bound
  have entry : (chosen,least) ∈ causePriority := Dictionary.mem_of_find found
  simp only [causePriority,List.mem_cons,Prod.mk.injEq,List.not_mem_nil,or_false] at entry
  rw [foremost]
  rcases entry with ⟨rfl,rfl⟩ | ⟨rfl,rfl⟩ | ⟨rfl,rfl⟩
  · rw [if_pos member]
  · rw [if_neg fun first => absurd (revoked first) (by omega),if_pos member]
  · rw [if_neg fun first => absurd (revoked first) (by omega),if_neg fun first => absurd (expired first) (by omega)]

theorem leastCause_ok {causes : List String} (nonempty : causes ≠ [])
    (known : ∀ cause ∈ causes, cause ∈ ["access_revoked","access_expired","missing_role"]) :
    leastCause causes = .ok (foremost causes) := by
  have found : ∀ cause ∈ causes, Succeeds (lookup cause causePriority) := by
    intro cause member
    have range := known cause member
    simp only [List.mem_cons,List.not_mem_nil,or_false] at range
    rcases range with rfl | rfl | rfl
    · exact ⟨0,rfl⟩
    · exact ⟨1,rfl⟩
    · exact ⟨2,rfl⟩
  obtain ⟨chosen,ok⟩ : Succeeds (leastCause causes) := by
    cases causes with
    | nil => exact absurd rfl nonempty
    | cons first rest =>
      obtain ⟨⟨priority,here⟩,others⟩ := List.forall_mem_cons.mp found
      rw [leastCause,succeeds_step here]
      have each : ∀ (best : String × Nat) cause, Succeeds (do
          let priority ← lookup cause causePriority
          return if priority < best.2 then (cause,priority) else best) ↔ Succeeds (lookup cause causePriority) :=
        fun _ _ => succeeds_return
      obtain ⟨least,folded⟩ := (succeeds_foldlM each).mpr others
      exact succeeds_bind.mpr ⟨least,folded,succeeds_pure _⟩
  rw [ok,foremost_least ok]

/-- The check as it comes out: only the comparisons of the events can raise. -/
theorem conclude_eq (missing : List String) (expired : Dictionary String Datetime)
    (auditEvents : List PermissionAuditEvent) :
    conclude missing expired auditEvents =
      if missing = [] then do
        let note ← syncAdvisoryNote (syncEvents auditEvents)
        return ⟨.pass,none,note⟩
      else do
        let revoked ← revokeEvents auditEvents
        let note ← syncAdvisoryNote (syncEvents auditEvents)
        return ⟨.fail,some (foremost (missing.map (causeOf expired revoked))),
          some (missingDetail (missing.map (descriptionOf expired revoked)) note)⟩ := by
  rw [conclude]
  by_cases empty : missing = []
  · rw [if_pos (List.isEmpty_iff.mpr empty),if_pos empty]
    rfl
  · rw [if_neg (by simpa using empty),if_neg empty]
    refine bind_congr fun revoked => ?_
    have values : ∀ cause, cause ∈ (causesOf missing expired revoked).values ↔ cause ∈ missing.map (causeOf expired revoked) := by
      intro cause
      rw [causesOf,Dictionary.mem_values_fill,List.mem_map]
      simp only [eq_comm]
      rfl
    have least : leastCause (causesOf missing expired revoked).values = .ok (foremost (missing.map (causeOf expired revoked))) := by
      rw [leastCause_ok]
      · simp only [foremost,values]
      · obtain ⟨name,member⟩ := List.exists_mem_of_ne_nil missing empty
        exact List.ne_nil_of_mem ((values _).mpr (List.mem_map_of_mem member))
      · intro cause member
        obtain ⟨name,_,rfl⟩ := List.mem_map.mp ((values cause).mp member)
        exact causeOf_range expired revoked name
    have described : missing.mapM (fun name => do
        let cause ← lookup name (causesOf missing expired revoked)
        describeMissing name cause expired revoked) = .ok (missing.map (descriptionOf expired revoked)) := by
      refine mapM_ok fun name member => ?_
      have known : lookup name (causesOf missing expired revoked) = .ok (causeOf expired revoked name) := by
        rw [lookup,causesOf,Dictionary.find_fill,if_pos member]
        rfl
      rw [known]
      exact describeMissing_ok expired revoked name
    change (leastCause (causesOf missing expired revoked).values >>= _) = _
    rw [least]
    change (missing.mapM (fun name => do
      let cause ← lookup name (causesOf missing expired revoked)
      describeMissing name cause expired revoked) >>= _) = _
    rw [described]
    change (syncAdvisoryNote (syncEvents auditEvents) >>= _) = _
    cases syncAdvisoryNote (syncEvents auditEvents) with
    | error raised => rfl
    | ok note => cases note <;> rfl

/-! ### The verdict -/

variable {σ : Type} [Clock σ]

def verdictOf (connectorId : String) (evaluatedAt : Datetime) (conclusion : Conclusion) : VerdictResult :=
  ⟨.authorization,conclusion.status,conclusion.causeCode,conclusion.detail,some connectorId,evaluatedAt⟩

/-- The verdict, from the answers of the connector. -/
theorem run_answer {diagnosis : Diagnosis σ} {required : List RequiredPermission} {listed : σ}
    (asked : (diagnosis.ctx.connector.getRequiredPermissions (diagnosis.ctx.request.systemId ++ ":default")).exec
      diagnosis.world = (.ok required,listed)) :
    let ctx := diagnosis.ctx
    let grants := ctx.connector.getEffectivePermissions ctx.request.subjectSub (ctx.request.systemId ++ ":default")
    let audit := ctx.connector.getPermissionAuditEvents ctx.request.subjectSub auditLookback
    let assessed := Clock.now (grants.after listed)
    run.answer diagnosis =
      if required = [] then .ok (verdictOf ctx.connector.connectorId (Clock.now listed).1.value ⟨.pass,none,none⟩)
      else do
        let effective ← grants.answer listed
        let (missing,expired) ← assess assessed.1.value required effective
        let auditEvents ← audit.answer assessed.2
        let conclusion ← conclude missing expired auditEvents
        return verdictOf ctx.connector.connectorId (Clock.now (audit.after assessed.2)).1.value conclusion := by
  intro ctx grants audit assessed
  rw [Effect.answer,run_exec]
  simp only [asked]
  cases required with
  | nil => rfl
  | cons first rest =>
    rw [if_neg (List.cons_ne_nil first rest)]
    simp only [Effect.answer,Effect.after,assessed,grants,audit,ctx]
    rcases (diagnosis.ctx.connector.getEffectivePermissions diagnosis.ctx.request.subjectSub
      (diagnosis.ctx.request.systemId ++ ":default")).exec listed with ⟨raised | effective,granted⟩
    · rfl
    simp only [bind,Except.bind]
    cases assess (Clock.now granted).1.value (first::rest) effective with
    | error raised => rfl
    | ok assessment =>
      obtain ⟨missing,expired⟩ := assessment
      dsimp only
      rcases (diagnosis.ctx.connector.getPermissionAuditEvents diagnosis.ctx.request.subjectSub auditLookback).exec
        (Clock.now granted).2 with ⟨raised | auditEvents,world⟩
      · rfl
      dsimp only
      cases conclude missing expired auditEvents <;> rfl

end AccessAgent.Step4Authorization
