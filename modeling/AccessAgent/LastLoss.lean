import AccessAgent.GrantHistory

/-! The dates in the description of a missing name. The removals of a name are kept by the
latest; of its ended grants the one listed last is kept, whatever its date. -/

namespace AccessAgent.Step4Authorization
open Semantics Raising

/-! ### The date that a description gives -/

inductive Loss
  | revoked (date : Datetime)
  | expired (date : Datetime)

def lossText (name : String) : Option Loss → String
  | some (.revoked date) => "'" ++ name ++ "' was revoked on " ++ date.isoformat
  | some (.expired date) => "'" ++ name ++ "' access expired on " ++ date.isoformat
  | none => "'" ++ name ++ "'"

/-- The date that `_describe_missing` formats. -/
def describedLoss (name cause : String) (expired : Dictionary String Datetime)
    (revoked : Dictionary String PermissionAuditEvent) : Except Exn (Option Loss) :=
  if cause = "access_revoked" then do
    let event ← lookup name revoked
    return some (.revoked event.occurredAt)
  else if cause = "access_expired" then do
    let endDate ← lookup name expired
    return some (.expired endDate)
  else .ok none

theorem describeMissing_loss (name cause : String) (expired : Dictionary String Datetime)
    (revoked : Dictionary String PermissionAuditEvent) :
    describeMissing name cause expired revoked = lossText name <$> describedLoss name cause expired revoked := by
  rw [describeMissing,describedLoss]
  split
  · cases lookup name revoked <;> rfl
  · split
    · cases lookup name expired <;> rfl
    · rfl

/-- The loss that the check describes for a missing name. -/
def reportedLoss (now : Datetime) (required : List RequiredPermission) (effective : List EffectivePermission)
    (auditEvents : List PermissionAuditEvent) (name : String) : Except Exn (Option Loss) := do
  let (missing,expired) ← assess now required effective
  let revoked ← revokeEvents auditEvents
  let cause ← lookup name (causesOf missing expired revoked)
  describedLoss name cause expired revoked

/-! ### The dates there are -/

/-- The times at which the name was taken away, in the order of the log. -/
def removals (auditEvents : List PermissionAuditEvent) (name : String) : List Datetime :=
  (Comparison.under name (revocations auditEvents)).map PermissionAuditEvent.occurredAt

def Last (dates : List Datetime) (date : Datetime) : Prop :=
  date ∈ dates ∧ ∀ other ∈ dates, Datetime.order.NotAfter other date

theorem mem_removals {auditEvents : List PermissionAuditEvent} {name : String} {date : Datetime} :
    date ∈ removals auditEvents name ↔ ∃ event ∈ auditEvents, Removes event name ∧ event.occurredAt = date := by
  simp only [removals,List.mem_map,Comparison.mem_under,mem_revocations,Removes,and_assoc]

theorem last_same {dates others : List Datetime} (members : ∀ date, date ∈ dates ↔ date ∈ others) {left right : Datetime}
    (first : Last dates left) (second : Last others right) : left.same right := by
  obtain ⟨kind,below⟩ := second.2 left ((members left).mp first.1)
  obtain ⟨_,above⟩ := first.2 right ((members right).mpr second.1)
  exact ⟨kind,le_antisymm below above⟩

/-! ### What is reported -/

/-- The same kind of loss, at equal times. -/
inductive Loss.Same : Option Loss → Option Loss → Prop
  | revoked {date other : Datetime} (same : date.same other) : Loss.Same (some (.revoked date)) (some (.revoked other))
  | expired {date other : Datetime} (same : date.same other) : Loss.Same (some (.expired date)) (some (.expired other))
  | none : Loss.Same none none

namespace Readings
variable {now : UtcNow} {effective : List EffectivePermission} {auditEvents : List PermissionAuditEvent}
variable (readings : Readings now.value effective auditEvents)

def loss (name : String) : Option Loss :=
  match readings.revoked.find name with
  | some event => some (.revoked event.occurredAt)
  | none => (readings.expired.find name).map .expired

theorem description_loss (name : String) : readings.description name = lossText name (readings.loss name) := by
  rw [description,descriptionOf,loss]
  cases readings.revoked.find name with
  | some event => rfl
  | none => cases readings.expired.find name <;> rfl

theorem reportedLoss_ok {required : List RequiredPermission} {name : String} (absent : name ∈ readings.missing required) :
    reportedLoss now.value required effective auditEvents name = .ok (readings.loss name) := by
  have assessed : assess now.value required effective = .ok (readings.missing required,readings.expired) := by
    rw [assess,readings.heldRead,readings.expiredRead]
    rfl
  have found : lookup name (causesOf (readings.missing required) readings.expired readings.revoked) =
      .ok (causeOf readings.expired readings.revoked name) := by
    rw [lookup,causesOf,Dictionary.find_fill,if_pos absent]
    rfl
  rw [reportedLoss,assessed,ok_bind]
  dsimp only
  rw [readings.revokedRead,ok_bind,found,ok_bind,describedLoss,causeOf,classifyMissing,Dictionary.contains_keys,
    Dictionary.contains_keys,loss]
  cases foundRevoked : readings.revoked.find name with
  | some event => simp [lookup,foundRevoked,bind,Except.bind,pure,Except.pure]
  | none =>
    cases foundExpired : readings.expired.find name with
    | some endDate => simp [lookup,foundExpired,bind,Except.bind,pure,Except.pure]
    | none => simp

theorem missing_iff {required : List RequiredPermission} {name : String} :
    name ∈ readings.missing required ↔ Missing now.value required effective name := by
  rw [readings.mem_missing,heldNames_success readings.heldRead,Missing]

/-- A removed name is reported with its latest removal. -/
theorem loss_revoked {name : String} (taken : Revoked auditEvents name) :
    ∃ date, readings.loss name = some (.revoked date) ∧ Last (removals auditEvents name) date := by
  have known := (revokeEvents_success readings.revokedRead name).mpr taken
  obtain ⟨event,found⟩ := Option.isSome_iff_exists.mp ((Dictionary.mem_keys name _).mp known)
  refine ⟨event.occurredAt,by rw [loss,found],?_⟩
  have first := revokeEvents_latest readings.revokedRead found
  refine ⟨List.mem_map_of_mem first.member,?_⟩
  intro other member
  obtain ⟨removal,inside,rfl⟩ := List.mem_map.mp member
  exact first.notAfter removal inside

theorem loss_kept {name : String} (kept : ¬Revoked auditEvents name) :
    readings.loss name = (endings now.value effective name).getLast?.map .expired := by
  have absent : readings.revoked.find name = none := by
    rw [← Option.not_isSome_iff_eq_none,← Dictionary.mem_keys,revokeEvents_success readings.revokedRead]
    exact kept
  rw [loss,absent,expiredEndDates_last readings.expiredRead]

end Readings

/-! ### Other orders of the lists -/

theorem dated_perm {now : Datetime} {effective others : List EffectivePermission} (order : others.Perm effective)
    (dated : Dated now effective) : Dated now others :=
  fun permission member => dated permission (order.mem_iff.mp member)

theorem missing_perm {now : Datetime} {required : List RequiredPermission} {effective others : List EffectivePermission}
    (order : others.Perm effective) {name : String} : Missing now required others name ↔ Missing now required effective name := by
  simp only [Missing,Held,order.mem_iff]

theorem revoked_perm {auditEvents events : List PermissionAuditEvent} (order : events.Perm auditEvents) {name : String} :
    Revoked events name ↔ Revoked auditEvents name := by
  simp only [Revoked,order.mem_iff]

theorem endings_perm {now : Datetime} {effective others : List EffectivePermission} (order : others.Perm effective)
    {name : String} (date : Datetime) : date ∈ endings now effective name ↔ date ∈ endings now others name := by
  simp only [mem_endings,order.mem_iff]

def AuditHistory.reordered (history : AuditHistory) {events : List PermissionAuditEvent} (order : events.Perm history.events) :
    AuditHistory :=
  ⟨events,fun left inside right member => history.comparable left (order.mem_iff.mp inside) right (order.mem_iff.mp member)⟩

/-- Any of the end dates can be the one listed last. -/
theorem endings_reordered {now : Datetime} {effective : List EffectivePermission} {name : String} {date : Datetime}
    (member : date ∈ endings now effective name) :
    ∃ others : List EffectivePermission, others.Perm effective ∧ (endings now others name).getLast? = some date := by
  obtain ⟨permission,inside,named,ended⟩ := mem_endings.mp member
  obtain ⟨before,after,rfl⟩ := List.append_of_mem inside
  refine ⟨before ++ after ++ [permission],?_,?_⟩
  · exact (List.perm_append_singleton permission (before ++ after)).trans List.perm_middle.symm
  · rw [endings_append,if_pos named,ending_some.mpr ended]
    simp

/-! ### When the last loss is reported -/

/-- A missing name is described with its last loss, and with no other when the lists come in another order. -/
structure LastLossGiven (now : UtcNow) (required : List RequiredPermission) (effective : List EffectivePermission)
    (auditEvents : List PermissionAuditEvent) : Prop where
  revoked : ∀ name, Missing now.value required effective name → Revoked auditEvents name → ∃ date,
    reportedLoss now.value required effective auditEvents name = .ok (some (.revoked date)) ∧
      Last (removals auditEvents name) date
  expired : ∀ name, Missing now.value required effective name → ¬Revoked auditEvents name →
    Expired now.value effective name → ∃ date,
      reportedLoss now.value required effective auditEvents name = .ok (some (.expired date)) ∧
        Last (endings now.value effective name) date
  order : ∀ others events, others.Perm effective → events.Perm auditEvents → ∀ name,
    Missing now.value required effective name → ∃ loss other,
      reportedLoss now.value required effective auditEvents name = .ok loss ∧
        reportedLoss now.value required others events name = .ok other ∧ Loss.Same loss other
  described : ∀ ctx result, verdict ctx now effective auditEvents required = .ok result → result.status = .fail →
    ∃ (missing : List String) (losses : String → Option Loss) (note : Option String),
      (∀ name, name ∈ missing ↔ Missing now.value required effective name) ∧
      (∀ name ∈ missing, reportedLoss now.value required effective auditEvents name = .ok (losses name)) ∧
      result.detail = some (missingDetail (missing.map fun name => lossText name (losses name)) note)

theorem expired_endings {now : Datetime} {effective : List EffectivePermission} {name : String} :
    Expired now effective name ↔ endings now effective name ≠ [] := by
  constructor
  · rintro ⟨permission,member,named,date,ended⟩
    exact List.ne_nil_of_mem (mem_endings.mpr ⟨permission,member,named,ended⟩)
  · intro some
    obtain ⟨date,ended⟩ := List.exists_mem_of_ne_nil _ some
    obtain ⟨permission,member,named,ended⟩ := mem_endings.mp ended
    exact ⟨permission,member,named,date,ended⟩

theorem Readings.loss_same {now : UtcNow} {effective others : List EffectivePermission}
    {auditEvents events : List PermissionAuditEvent} (readings : Readings now.value effective auditEvents)
    (reordered : Readings now.value others events) (grants : others.Perm effective) (log : events.Perm auditEvents) {name : String}
    (agree : ¬Revoked auditEvents name → ∀ left ∈ endings now.value effective name, ∀ right ∈ endings now.value effective name,
      left.same right) : Loss.Same (readings.loss name) (reordered.loss name) := by
  by_cases taken : Revoked auditEvents name
  · obtain ⟨date,loss,last⟩ := readings.loss_revoked taken
    obtain ⟨other,again,latest⟩ := reordered.loss_revoked ((revoked_perm log).mpr taken)
    rw [loss,again]
    refine .revoked (last_same ?_ last latest)
    simp only [mem_removals,log.mem_iff,implies_true]
  · rw [readings.loss_kept taken,reordered.loss_kept (fun revoked => taken ((revoked_perm log).mp revoked))]
    have members : ∀ date, date ∈ endings now.value effective name ↔ date ∈ endings now.value others name := endings_perm grants
    cases last : (endings now.value effective name).getLast? with
    | none =>
      have empty : endings now.value others name = [] := by
        rw [List.eq_nil_iff_forall_not_mem]
        intro date member
        rw [List.getLast?_eq_none_iff.mp last] at members
        exact absurd ((members date).mpr member) List.not_mem_nil
      rw [empty]
      exact .none
    | some date =>
      have member := List.mem_of_getLast? last
      obtain ⟨other,latest⟩ : ∃ other, (endings now.value others name).getLast? = some other :=
        List.getLast?_isSome.mpr (List.ne_nil_of_mem ((members date).mp member)) |> Option.isSome_iff_exists.mp
      rw [latest]
      exact .expired (agree taken date member other ((members other).mpr (List.mem_of_getLast? latest)))

theorem Loss.same_dates {loss : Option Loss} {left right : Datetime} (first : Loss.Same loss (some (.expired left)))
    (second : Loss.Same loss (some (.expired right))) : left.same right := by
  cases first with
  | expired here =>
    cases second with
    | expired there => exact ⟨here.1.symm.trans there.1,here.2.symm.trans there.2⟩

/-- A name that was not removed, and whose ended grants agree, is reported with their end. -/
theorem Readings.loss_expired {now : UtcNow} {effective : List EffectivePermission} {auditEvents : List PermissionAuditEvent}
    (readings : Readings now.value effective auditEvents) {name : String} (kept : ¬Revoked auditEvents name)
    (lapsed : Expired now.value effective name)
    (agree : ∀ left ∈ endings now.value effective name, ∀ right ∈ endings now.value effective name, left.same right) :
    ∃ date, readings.loss name = some (.expired date) ∧ Last (endings now.value effective name) date := by
  obtain ⟨date,last⟩ := Option.isSome_iff_exists.mp (List.getLast?_isSome.mpr (expired_endings.mp lapsed))
  have member := List.mem_of_getLast? last
  refine ⟨date,by rw [readings.loss_kept kept,last]; rfl,member,?_⟩
  intro other inside
  obtain ⟨kind,instant⟩ := agree other inside date member
  exact ⟨kind,le_of_eq instant⟩

/-- The detail of a verdict that fails lists the losses of the missing names. -/
theorem Readings.verdict_losses {now : UtcNow} {effective : List EffectivePermission} {auditEvents : List PermissionAuditEvent}
    (readings : Readings now.value effective auditEvents) {ctx : DiagnosticContext Watch}
    {required : List RequiredPermission} {result : VerdictResult}
    (answered : verdict ctx now effective auditEvents required = .ok result) (failed : result.status = .fail) :
    result.detail = some (missingDetail ((readings.missing required).map fun name => lossText name (readings.loss name))
      readings.note) := by
  rw [readings.verdict_ok,Readings.conclusion] at answered
  split at answered
  · rw [← Except.ok.inj answered] at failed
    cases failed
  · rw [← Except.ok.inj answered]
    change some (missingDetail ((readings.missing required).map readings.description) readings.note) = _
    rw [funext readings.description_loss]

/-- The last loss is given exactly if the ended grants of each missing name that was not removed end at one time. -/
theorem last_loss_iff {now : UtcNow} (required : List RequiredPermission) {effective : List EffectivePermission}
    (dated : Dated now.value effective) (history : AuditHistory) :
    LastLossGiven now required effective history.events ↔
      ∀ name, Missing now.value required effective name → ¬Revoked history.events name →
        ∀ left ∈ endings now.value effective name, ∀ right ∈ endings now.value effective name, left.same right := by
  obtain ⟨readings⟩ := readings_exist dated history
  constructor
  · rintro given name missing kept left first right second
    have reported : ∀ date ∈ endings now.value effective name, Loss.Same (readings.loss name) (some (.expired date)) := by
      intro date member
      obtain ⟨others,order,last⟩ := endings_reordered member
      obtain ⟨again⟩ := readings_exist (dated_perm order dated) history
      obtain ⟨loss,other,here,there,same⟩ := given.order others history.events order (List.Perm.refl _) name missing
      rw [readings.reportedLoss_ok (readings.missing_iff.mpr missing)] at here
      rw [again.reportedLoss_ok (again.missing_iff.mpr ((missing_perm order).mpr missing)),again.loss_kept kept,last] at there
      rwa [Except.ok.inj here,show some (Loss.expired date) = other from Except.ok.inj there]
    exact Loss.same_dates (reported left first) (reported right second)
  · intro agree
    refine ⟨?_,?_,?_,?_⟩
    · intro name missing taken
      rw [readings.reportedLoss_ok (readings.missing_iff.mpr missing)]
      obtain ⟨date,loss,last⟩ := readings.loss_revoked taken
      exact ⟨date,congrArg Except.ok loss,last⟩
    · intro name missing kept lapsed
      rw [readings.reportedLoss_ok (readings.missing_iff.mpr missing)]
      obtain ⟨date,loss,last⟩ := readings.loss_expired kept lapsed (agree name missing kept)
      exact ⟨date,congrArg Except.ok loss,last⟩
    · intro others events grants log name missing
      obtain ⟨reordered⟩ := readings_exist (dated_perm grants dated) (history.reordered log)
      exact ⟨_,_,readings.reportedLoss_ok (readings.missing_iff.mpr missing),
        reordered.reportedLoss_ok (reordered.missing_iff.mpr ((missing_perm grants).mpr missing)),
        readings.loss_same reordered grants log (agree name missing)⟩
    · intro ctx result answered failed
      exact ⟨readings.missing required,readings.loss,readings.note,fun name => readings.missing_iff,
        fun name => readings.reportedLoss_ok,readings.verdict_losses answered failed⟩

/-! ### Two ended grants of one name -/

def grantEnding (day : Fin 28) : EffectivePermission := ⟨"role","APP_USER",none,some (january day)⟩

theorem endings_missing (days : List (Fin 28)) : Dated (default : UtcNow).value (days.map grantEnding) ∧
    Missing (default : UtcNow).value [appUser] (days.map grantEnding) "APP_USER" := by
  refine ⟨?_,⟨appUser,List.mem_singleton.mpr rfl,rfl⟩,?_⟩
  · intro permission member date bounded
    obtain ⟨day,_,rfl⟩ := List.mem_map.mp member
    rw [← Option.some.inj bounded]
    rfl
  · rintro ⟨permission,member,inForce,_⟩
    obtain ⟨day,_,rfl⟩ := List.mem_map.mp member
    have past : ∀ day, ¬(default : UtcNow).value.instant < (january day).instant := by decide
    exact past day inForce.2

def appAdmin : RequiredPermission := ⟨"role","APP_ADMIN"⟩

/-- The two grants of the one name ended together, those of the other on days of their own. -/
def endedGrants (user : Fin 28) (admin : List (Fin 28)) : List EffectivePermission :=
  grantEnding user::⟨"group","APP_USER",none,some (january user)⟩::
    admin.map fun day => ⟨"role","APP_ADMIN",none,some (january day)⟩

def adminRemovals (days : List (Fin 28)) : List PermissionAuditEvent :=
  days.map fun day => ⟨"DELETE_USER_FROM_ROLE",none,["APP_ADMIN"],none,january day⟩

theorem last_loss_removed : Dated (default : UtcNow).value (endedGrants 4 [9,19]) ∧
    Revoked (adminRemovals [14,12]) "APP_ADMIN" ∧
    endings (default : UtcNow).value (endedGrants 4 [9,19]) "APP_USER" = [january 4,january 4] ∧
    endings (default : UtcNow).value (endedGrants 4 [9,19]) "APP_ADMIN" = [january 9,january 19] ∧
    LastLossGiven default [appUser,appAdmin] (endedGrants 4 [9,19]) (adminRemovals [14,12]) := by
  have dated : Dated (default : UtcNow).value (endedGrants 4 [9,19]) := by
    intro permission member date bounded
    have aware : ∀ permission ∈ endedGrants 4 [9,19], ∀ date ∈ permission.endDate, date.aware = true := by decide
    exact aware permission member date bounded
  have comparable : ∀ left ∈ adminRemovals [14,12], ∀ right ∈ adminRemovals [14,12],
      left.occurredAt.aware = right.occurredAt.aware := by decide
  have revoked : Revoked (adminRemovals [14,12]) "APP_ADMIN" := ⟨_,List.mem_cons_self,by decide,by decide⟩
  have users : endings (default : UtcNow).value (endedGrants 4 [9,19]) "APP_USER" = [january 4,january 4] := by decide
  refine ⟨dated,revoked,users,by decide,
    (last_loss_iff [appUser,appAdmin] dated ⟨adminRemovals [14,12],comparable⟩).mpr ?_⟩
  intro name missing kept left first right second
  obtain ⟨permission,member,rfl⟩ := missing.1
  rcases List.mem_cons.mp member with rfl | admin
  · rw [show appUser.name = "APP_USER" from rfl,users] at first second
    simp only [List.mem_cons,List.not_mem_nil,or_false,or_self] at first second
    rw [first,second]
    exact ⟨rfl,rfl⟩
  · rw [List.mem_singleton.mp admin] at kept
    exact absurd revoked kept

/-- Ended on the 21st and, listed after it, on the 11th: the 11th is reported. -/
theorem earlier_loss_reported : ∃ result,
    verdict idleContext default ([20,10].map grantEnding) [] [appUser] = .ok result ∧
    result.detail = some "Missing required access: 'APP_USER' access expired on 1969-01-11T00:00:00+00:00" ∧
    ¬LastLossGiven default [appUser] ([20,10].map grantEnding) [] := by
  obtain ⟨result,answered,detail⟩ : ∃ result, verdict idleContext default ([20,10].map grantEnding) [] [appUser] = .ok result ∧
      result.detail = some "Missing required access: 'APP_USER' access expired on 1969-01-11T00:00:00+00:00" :=
    ⟨_,rfl,by decide⟩
  refine ⟨result,answered,detail,?_⟩
  intro given
  have missing := (endings_missing [20,10]).2
  obtain ⟨date,reported,_,latest⟩ := given.expired "APP_USER" missing (by simp [Revoked])
    ⟨grantEnding 20,by simp,rfl,january 20,rfl,rfl,by decide⟩
  obtain rfl : january 10 = date := by
    have known : reportedLoss (default : UtcNow).value [appUser] ([20,10].map grantEnding) [] "APP_USER" =
      .ok (some (.expired (january 10))) := rfl
    rw [known] at reported
    simpa using reported
  exact absurd (latest (january 20) (mem_endings.mpr ⟨grantEnding 20,by simp,rfl,rfl,rfl,by decide⟩)).2 (by decide)

end AccessAgent.Step4Authorization
