import AccessAgent.OpenIAM.Connector
import AccessAgent.Python.Fields
import AccessAgent.Semantics.Latest

/-! What a user record says (`user/admin/get`): its logins, its grants and their dates. A
date without an offset cannot be compared with the time of the check. -/

namespace AccessAgent.OpenIAM
open Semantics Raising

variable {σ : Type} [Clock σ]

theorem utcNow_aware (now : UtcNow) : now.value.aware = true := by
  rw [Datetime.aware,now.utc]
  rfl

/-! ### Dates -/

def pastDate (now : Datetime) (raw : Json) : Option Datetime :=
  (parseEndDate raw).filter fun date => date.aware == now.aware && decide (date.instant < now.instant)

/-- A date that the time of the check does not compare with. -/
def Clashes (now : Datetime) (raw : Json) : Prop := ∃ date, parseEndDate raw = some date ∧ date.aware ≠ now.aware

/-- A date without an offset. -/
def Naive (raw : Json) : Prop := ∃ date, parseEndDate raw = some date ∧ date.aware = false

theorem clashes_utcNow (now : UtcNow) (raw : Json) : Clashes now.value raw ↔ Naive raw := by
  simp only [Clashes,Naive,utcNow_aware,Ne,Bool.not_eq_true]

theorem past_success {now : Datetime} {raw : Json} {found : Option Datetime} (ok : past now raw = .ok found) :
    found = pastDate now raw := by
  rw [past] at ok
  rw [pastDate]
  split at ok
  next unparsed =>
    rw [unparsed,← Except.ok.inj ok]
    rfl
  next date parsed =>
    obtain ⟨before,compared,ok⟩ := bind_success ok
    obtain ⟨same,result⟩ := (Datetime.order.greater_ok _ _ _).mp compared
    change now.aware = date.aware at same
    change before = decide (date.instant < now.instant) at result
    rw [parsed,← pure_success ok,result,Option.filter_some,same]
    simp

theorem succeeds_past {now : Datetime} {raw : Json} : Succeeds (past now raw) ↔ ¬Clashes now raw := by
  rw [past,Clashes]
  split
  next unparsed => simp [unparsed]
  next date parsed =>
    rw [succeeds_return,Datetime.lt,Comparison.succeeds_greater,parsed]
    simp only [Option.some.injEq,exists_eq_left',Ne,not_not]
    exact eq_comm

/-! ### Logins and grants -/

def logins (body : Json) : List Json := body.listed "principalList"

def grants (body : Json) : List Json := body.listed "roleBeans" ++ body.listed "groupBeans"

def DeletedLogin (entry : Json) : Prop :=
  (∃ status ∈ deletedLoginStatuses, entry.field "status" = .str status) ∨ entry.field "active" = .bool false

def Ended (now : Datetime) (bean : Json) : Prop := (pastDate now (bean.field "accessRightEndDate")).isSome = true

def systemName (entry : Json) : Json :=
  if (entry.field "managedSys").truthy then entry.field "managedSys" else .str "unknown system"

def expiredAt (now : Datetime) (entry : Json) : Option Datetime := pastDate now (entry.field "pwdExp")

/-- The logins whose password has expired, in the order of the list. -/
def expiredLogins (now : Datetime) (entries : List Json) : List (Json × Datetime) :=
  entries.filterMap fun entry => (expiredAt now entry).map fun expiry => (systemName entry,expiry)

theorem deletedLogin_success {entry : Json} {gone : Bool} (ok : deletedLogin entry = .ok gone) :
    gone = true ↔ DeletedLogin entry := by
  obtain ⟨status,read,ok⟩ := bind_success ok
  obtain ⟨object,rfl⟩ := Json.get_success read
  obtain ⟨member,asked,ok⟩ := bind_success ok
  have deleted := Json.memberOf_success asked
  rw [DeletedLogin,← deleted]
  cases member with
  | true => simp [← pure_success ok]
  | false =>
    simp only [Bool.false_eq_true,if_false] at ok
    obtain ⟨active,read,ok⟩ := bind_success ok
    obtain ⟨_,rfl⟩ := Json.get_success read
    split at ok
    next inactive => simp [← pure_success ok,inactive]
    next other =>
      rw [← pure_success ok]
      simpa using other

theorem succeeds_deletedLogin {entry : Json} (object : entry.isObject = true)
    (hashable : (entry.field "status").hashable = true) : Succeeds (deletedLogin entry) := by
  obtain ⟨member,asked⟩ := Json.succeeds_memberOf.mpr hashable
  refine succeeds_bind.mpr ⟨_,Json.get_field object "status",succeeds_bind.mpr ⟨member,asked,?_⟩⟩
  split
  · exact succeeds_pure true
  · refine succeeds_bind.mpr ⟨_,Json.get_field object "active",?_⟩
    split <;> exact succeeds_pure _

theorem endDated_success {now : Datetime} {bean : Json} {ended : Bool} (ok : endDated now bean = .ok ended) :
    ended = true ↔ Ended now bean := by
  obtain ⟨raw,read,ok⟩ := bind_success ok
  obtain ⟨_,rfl⟩ := Json.get_success read
  obtain ⟨date,compared,ok⟩ := bind_success ok
  rw [Ended,← past_success compared,pure_success ok]

theorem succeeds_endDated {now : Datetime} {bean : Json} :
    Succeeds (endDated now bean) ↔ bean.isObject = true ∧ ¬Clashes now (bean.field "accessRightEndDate") := by
  rw [endDated,succeeds_bind_and fun raw read => ?_,Json.succeeds_get]
  rw [(Json.get_success read).2,succeeds_return]
  exact succeeds_past

theorem expiredLogin_success {now : Datetime} {entry : Json} {found : Option (Json × Datetime)}
    (ok : expiredLogin now entry = .ok found) :
    found = (expiredAt now entry).map fun expiry => (systemName entry,expiry) := by
  obtain ⟨raw,read,ok⟩ := bind_success ok
  obtain ⟨_,rfl⟩ := Json.get_success read
  obtain ⟨date,compared,ok⟩ := bind_success ok
  rw [expiredAt,← past_success compared]
  cases date with
  | none => exact (pure_success ok).symm
  | some expiry =>
    obtain ⟨name,read,ok⟩ := bind_success ok
    obtain ⟨_,rfl⟩ := Json.get_success read
    exact (pure_success ok).symm

theorem succeeds_expiredLogin {now : Datetime} {entry : Json} :
    Succeeds (expiredLogin now entry) ↔ entry.isObject = true ∧ ¬Clashes now (entry.field "pwdExp") := by
  rw [expiredLogin,succeeds_bind]
  constructor
  · rintro ⟨raw,read,rest⟩
    obtain ⟨object,rfl⟩ := Json.get_success read
    obtain ⟨date,compared,_⟩ := succeeds_bind.mp rest
    exact ⟨object,succeeds_past.mp ⟨date,compared⟩⟩
  · rintro ⟨object,comparable⟩
    obtain ⟨date,compared⟩ := succeeds_past.mpr comparable
    refine ⟨_,Json.get_field object _,succeeds_bind.mpr ⟨date,compared,?_⟩⟩
    cases date with
    | none => exact succeeds_pure none
    | some expiry => exact succeeds_bind.mpr ⟨_,Json.get_field object _,succeeds_pure _⟩

/-! ### The checks at a given time -/

@[simp] theorem datetimeNow_answer (world : σ) : datetimeNow.answer world = pure (Clock.now world).1.value := rfl

def deprovisionedAt (now : Datetime) (principalList roleBeans groupBeans : Json) : Except Exn Bool := do
  let entries ← principalList.elements
  if ← entries.anyM deletedLogin then return true
  else
    let grants ← roleBeans.add groupBeans
    if grants.truthy then
      let beans ← grants.elements
      beans.allM (endDated now)
    else return false

theorem isDeprovisioned_answer (principalList roleBeans groupBeans : Json) (world : σ) :
    (isDeprovisioned principalList roleBeans groupBeans).answer world =
      deprovisionedAt (Clock.now world).1.value principalList roleBeans groupBeans := by
  rw [isDeprovisioned,Effect.answer_bind]
  refine bind_congr fun entries => ?_
  rw [Effect.answer_bind]
  refine bind_congr fun gone => ?_
  cases gone with
  | true => rfl
  | false =>
    simp only [Bool.false_eq_true,if_false,Effect.answer_bind,Effect.answer_lift,Effect.after_lifted]
    refine bind_congr fun grants => ?_
    cases grants.truthy with
    | false => rfl
    | true => simp [Effect.answer_bind]

def accountStatusAt (locked : Bool) (deprovisioned : Except Exn Bool) (rawStatus : Json)
    (expired : List (Json × Datetime)) : Except Exn AccountStatus := do
  if locked then return .locked
  else
    if ← deprovisioned then return .deprovisioned
    else if !rawStatus.isText "ACTIVE" then return .disabled
    else if !expired.isEmpty then return .passwordExpired
    else return .active

omit [Clock σ] in
theorem accountStatus_answer (locked : Bool) (deprovisioned : Effect Exn σ Bool) (rawStatus : Json)
    (expired : List (Json × Datetime)) (world : σ) :
    (accountStatus locked deprovisioned rawStatus expired).answer world =
      accountStatusAt locked (deprovisioned.answer world) rawStatus expired := by
  cases locked with
  | true => rfl
  | false =>
    rw [accountStatus,accountStatusAt]
    simp only [Bool.false_eq_true,if_false,Effect.answer_bind]
    refine bind_congr fun gone => ?_
    cases gone <;> cases rawStatus.isText "ACTIVE" <;> cases expired.isEmpty <;> rfl

def statusResult (settings : Settings) (config : Config) (rawStatus rawSecondaryStatus principalList : Json)
    (expired : List (Json × Datetime)) (status : AccountStatus) : Except Exn UserStatusResult := do
  let login ← selectLogin principalList
  let passwordResetUrl ← resetUrl settings config login
  if status = .passwordExpired then
    let native := expired.any (fun login => login.1.isText "OPENIAM")
    return ⟨status,some (formatExpiredPasswordDetail expired),if native then passwordResetUrl else none⟩
  else
    return ⟨status,some ("OpenIAM status=" ++ rawStatus.pyStr ++ " secondaryStatus=" ++
      rawSecondaryStatus.pyStr),passwordResetUrl⟩

def userStatusAt (settings : Settings) (config : Config) (passwordsAt grantsAt : Datetime) (body : Json) :
    Except Exn UserStatusResult := do
  let rawStatus ← body.get "status"
  let rawSecondaryStatus ← body.get "secondaryStatus"
  let principalList := (← body.get "principalList").orEmpty
  let roleBeans := (← body.get "roleBeans").orEmpty
  let groupBeans := (← body.get "groupBeans").orEmpty
  let expired ← principalList.elements >>= fun entries => entries.filterMapM (expiredLogin passwordsAt)
  let locked ← rawSecondaryStatus.memberOf lockedSecondaryStatuses
  let status ← accountStatusAt locked (deprovisionedAt grantsAt principalList roleBeans groupBeans) rawStatus expired
  statusResult settings config rawStatus rawSecondaryStatus principalList expired status

theorem expiredPasswordLogins_answer (principalList : Json) (world : σ) :
    (expiredPasswordLogins principalList).answer world =
      principalList.elements >>= fun entries => entries.filterMapM (expiredLogin (Clock.now world).1.value) := by
  simp only [expiredPasswordLogins,Effect.answer_bind,datetimeNow_answer,pure_bind,Effect.answer_lift,
    Effect.answer_lifted]

theorem expiredPasswordLogins_after (principalList : Json) (world : σ) :
    (expiredPasswordLogins principalList).after world = (Clock.now world).2 := by
  simp only [expiredPasswordLogins,Effect.after,Effect.bind_exec,datetimeNow,Effect.lift_exec]
  cases principalList.elements <;> rfl

theorem userStatusFrom_answer (settings : Settings) (config : Config) (body : Json) (world : σ) :
    (userStatusFrom settings config body).answer world = userStatusAt settings config (Clock.now world).1.value
      (Clock.now (Clock.now world).2).1.value body := by
  simp only [userStatusFrom,userStatusAt,Effect.answer_bind,Effect.answer_lift,Effect.after_lift,
    expiredPasswordLogins_answer,expiredPasswordLogins_after,accountStatus_answer,isDeprovisioned_answer]
  refine bind_congr fun rawStatus => ?_
  refine bind_congr fun rawSecondaryStatus => ?_
  refine bind_congr fun principalList => ?_
  refine bind_congr fun roleBeans => ?_
  refine bind_congr fun groupBeans => ?_
  refine bind_congr fun expired => ?_
  refine bind_congr fun locked => ?_
  refine bind_congr fun status => ?_
  rw [statusResult]
  refine bind_congr fun login => ?_
  refine bind_congr fun passwordResetUrl => ?_
  split <;> rfl

/-! ### What an answer says -/

theorem deletedLogin_text (text : String) : ¬Succeeds (deletedLogin (.str text)) := by
  rintro ⟨gone,ok⟩
  simp [deletedLogin,Json.get,Json.getD,bind,Except.bind] at ok

theorem endDated_text (now : Datetime) (text : String) : ¬Succeeds (endDated now (.str text)) := by
  rw [succeeds_endDated]
  simp [Json.isObject]

theorem deprovisionedAt_success {now : Datetime} {principalList roleBeans groupBeans : Json} {gone : Bool}
    (ok : deprovisionedAt now principalList.orEmpty roleBeans.orEmpty groupBeans.orEmpty = .ok gone) :
    gone = true ↔ (∃ entry ∈ principalList.items, DeletedLogin entry) ∨
      roleBeans.items ++ groupBeans.items ≠ [] ∧ ∀ bean ∈ roleBeans.items ++ groupBeans.items, Ended now bean := by
  obtain ⟨entries,walked,ok⟩ := bind_success ok
  obtain ⟨deleted,asked,ok⟩ := bind_success ok
  have shape : entries = principalList.items := by
    rcases Json.elements_success walked with ⟨_,same⟩ | ⟨text,rest,rfl⟩
    · exact same
    · obtain ⟨first,known,_⟩ := bind_success asked
      exact absurd ⟨first,known⟩ (deletedLogin_text text)
  subst shape
  rw [← anyM_success (fun _ _ => deletedLogin_success) asked]
  cases deleted with
  | true => simp [← pure_success ok]
  | false =>
    simp only [Bool.false_eq_true,if_false,false_or] at ok ⊢
    obtain ⟨sum,added,ok⟩ := bind_success ok
    rcases Json.add_success added with ⟨_,rfl⟩ | ⟨left,right,walks⟩
    · cases grants : roleBeans.items ++ groupBeans.items with
      | nil =>
        simp only [grants,Json.truthy,List.isEmpty_nil,Bool.not_true,Bool.false_eq_true,if_false] at ok
        simp [← pure_success ok]
      | cons first rest =>
        simp only [grants,Json.truthy,List.isEmpty_cons,Bool.not_false,if_true] at ok
        rw [allM_success (fun _ _ => endDated_success) ok]
        simp
    · rw [left,right]
      split at ok
      next truthy =>
        obtain ⟨beans,walked,ok⟩ := bind_success ok
        obtain ⟨text,rest,rfl⟩ := walks beans walked
        obtain ⟨first,known,_⟩ := bind_success ok
        exact absurd ⟨first,known⟩ (endDated_text now text)
      next => simp [← pure_success ok]

end AccessAgent.OpenIAM
