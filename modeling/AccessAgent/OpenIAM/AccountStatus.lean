import AccessAgent.OpenIAM.UserRecord

/-! What `get_user_status` answers: the first of its five signals that applies, and the
expired logins by name and date. -/

namespace AccessAgent.OpenIAM
open Semantics Raising

variable {σ : Type} [Clock σ]

/-! ### The signals -/

def Locked (body : Json) : Prop := ∃ status ∈ lockedSecondaryStatuses, body.field "secondaryStatus" = .str status

def Deprovisioned (now : Datetime) (body : Json) : Prop :=
  (∃ entry ∈ logins body, DeletedLogin entry) ∨ grants body ≠ [] ∧ ∀ bean ∈ grants body, Ended now bean

def Active (body : Json) : Prop := body.field "status" = .str "ACTIVE"

def PasswordExpired (now : Datetime) (body : Json) : Prop := ∃ entry ∈ logins body, (expiredAt now entry).isSome = true

/-- The first signal that applies. -/
inductive Classifies (passwordsAt grantsAt : Datetime) (body : Json) : AccountStatus → Prop
  | locked (locked : Locked body) : Classifies passwordsAt grantsAt body .locked
  | deprovisioned (unlocked : ¬Locked body) (gone : Deprovisioned grantsAt body) :
      Classifies passwordsAt grantsAt body .deprovisioned
  | disabled (unlocked : ¬Locked body) (remains : ¬Deprovisioned grantsAt body) (inactive : ¬Active body) :
      Classifies passwordsAt grantsAt body .disabled
  | passwordExpired (unlocked : ¬Locked body) (remains : ¬Deprovisioned grantsAt body) (active : Active body)
      (expired : PasswordExpired passwordsAt body) : Classifies passwordsAt grantsAt body .passwordExpired
  | active (unlocked : ¬Locked body) (remains : ¬Deprovisioned grantsAt body) (active : Active body)
      (current : ¬PasswordExpired passwordsAt body) : Classifies passwordsAt grantsAt body .active

theorem expiredLogins_nonempty {now : Datetime} {body : Json} :
    expiredLogins now (logins body) ≠ [] ↔ PasswordExpired now body := by
  rw [Ne,expiredLogins,List.filterMap_eq_nil_iff,PasswordExpired]
  simp [Option.isSome_iff_ne_none]

theorem accountStatusAt_success {passwordsAt grantsAt : Datetime} {body : Json} {locked : Bool}
    {deprovisioned : Except Exn Bool} {status : AccountStatus} (lock : locked = true ↔ Locked body)
    (decided : ∀ gone, deprovisioned = .ok gone → (gone = true ↔ Deprovisioned grantsAt body))
    (ok : accountStatusAt locked deprovisioned (body.field "status") (expiredLogins passwordsAt (logins body)) = .ok status) :
    Classifies passwordsAt grantsAt body status := by
  rw [accountStatusAt] at ok
  split at ok
  next isLocked =>
    rw [← pure_success ok]
    exact .locked (lock.mp isLocked)
  next open_ =>
    have unlocked : ¬Locked body := fun holds => open_ (lock.mpr holds)
    obtain ⟨gone,known,ok⟩ := bind_success ok
    have gone_iff := decided gone known
    split at ok
    next isGone =>
      rw [← pure_success ok]
      exact .deprovisioned unlocked (gone_iff.mp isGone)
    next stays =>
      have remains : ¬Deprovisioned grantsAt body := fun holds => stays (gone_iff.mpr holds)
      split at ok
      next inactive =>
        rw [← pure_success ok]
        refine .disabled unlocked remains ?_
        intro active
        simp [Json.isText_iff.mpr active] at inactive
      next reads =>
        have active : Active body := Json.isText_iff.mp (by simpa using reads)
        split at ok
        next expired =>
          rw [← pure_success ok]
          exact .passwordExpired unlocked remains active (expiredLogins_nonempty.mp (by simpa using expired))
        next current =>
          rw [← pure_success ok]
          refine .active unlocked remains active ?_
          intro expired
          exact absurd (expiredLogins_nonempty.mpr expired) (by simpa using current)

/-- The answer, cut at the status: what it classifies and what the rest of the record makes
of it. -/
theorem userStatusAt_success {settings : Settings} {config : Config} {passwordsAt grantsAt : Datetime} {body : Json}
    {result : UserStatusResult} (ok : userStatusAt settings config passwordsAt grantsAt body = .ok result) :
    ∃ status, Classifies passwordsAt grantsAt body status ∧ (body.field "principalList").listLike = true ∧
      statusResult settings config (body.field "status") (body.field "secondaryStatus")
        (body.field "principalList").orEmpty (expiredLogins passwordsAt (logins body)) status = .ok result := by
  obtain ⟨rawStatus,read,ok⟩ := bind_success ok
  obtain ⟨object,rfl⟩ := Json.get_success read
  obtain ⟨rawSecondaryStatus,read,ok⟩ := bind_success ok
  obtain ⟨_,rfl⟩ := Json.get_success read
  obtain ⟨principalList,read,ok⟩ := bind_success ok
  obtain ⟨_,rfl⟩ := Json.get_success read
  obtain ⟨roleBeans,read,ok⟩ := bind_success ok
  obtain ⟨_,rfl⟩ := Json.get_success read
  obtain ⟨groupBeans,read,ok⟩ := bind_success ok
  obtain ⟨_,rfl⟩ := Json.get_success read
  obtain ⟨expired,listed,ok⟩ := bind_success ok
  obtain ⟨locked,asked,ok⟩ := bind_success ok
  obtain ⟨status,classified,ok⟩ := bind_success ok
  obtain ⟨shape,rfl⟩ : (body.field "principalList").listLike = true ∧
      expired = expiredLogins passwordsAt (logins body) := by
    obtain ⟨entries,walked,listed⟩ := bind_success listed
    rcases Json.elements_success walked with ⟨shape,rfl⟩ | ⟨text,rest,rfl⟩
    · exact ⟨shape,filterMapM_success (fun _ _ => expiredLogin_success) listed⟩
    · have each := succeeds_filterMapM.mp ⟨expired,listed⟩ (.str text) (by simp)
      exact absurd (succeeds_expiredLogin.mp each).1 (by simp [Json.isObject])
  exact ⟨status,accountStatusAt_success (Json.memberOf_success asked) (fun _ => deprovisionedAt_success) classified,
    shape,ok⟩

theorem statusResult_success {settings : Settings} {config : Config}
    {rawStatus rawSecondaryStatus principalList : Json} {expired : List (Json × Datetime)} {status : AccountStatus}
    {result : UserStatusResult}
    (ok : statusResult settings config rawStatus rawSecondaryStatus principalList expired status = .ok result) :
    result.status = status ∧ (status = .passwordExpired → result.detail = some (formatExpiredPasswordDetail expired)) ∧
      ∃ login url, selectLogin principalList = .ok login ∧ resetUrl settings config login = .ok url ∧
        result.passwordResetUrl = if status = .passwordExpired ∧ expired.any (fun login => login.1.isText "OPENIAM") = false
          then none else url := by
  obtain ⟨login,selected,ok⟩ := bind_success ok
  obtain ⟨url,built,ok⟩ := bind_success ok
  split at ok
  next passwordExpired =>
    rw [← pure_success ok]
    refine ⟨rfl,fun _ => rfl,login,url,selected,built,?_⟩
    cases expired.any (fun login => login.1.isText "OPENIAM") <;> simp [passwordExpired]
  next other =>
    rw [← pure_success ok]
    exact ⟨rfl,fun expired => absurd expired other,login,url,selected,built,by simp [other]⟩

/-! ### When it answers -/

/-- A body of the shape that the code's annotations promise; its dates are of any kind. -/
structure UserRecord where
  body : Json
  object : body.isObject = true
  hashable : (body.field "secondaryStatus").hashable = true
  principalList : (body.field "principalList").Records
  roleBeans : (body.field "roleBeans").Records
  groupBeans : (body.field "groupBeans").Records
  loginStatus : ∀ entry ∈ logins body, (entry.field "status").hashable = true
  loginText : ∀ entry ∈ logins body, (entry.field "login").truthy = true → ∃ text, entry.field "login" = .str text

def native (entry : Json) : Bool := (entry.field "managedSys").isText "OPENIAM"

/-- The login of the first OPENIAM entry, else of the first entry. -/
def selectedLogin (entries : List Json) : Json :=
  match entries.find? native with
  | some entry => entry.field "login"
  | none => match entries with
    | first::_ => first.field "login"
    | [] => .null

theorem nativeEntry_success {entries : List Json} {found : Option Json} (ok : nativeEntry entries = .ok found) :
    found = entries.find? native := by
  induction entries with
  | nil => exact (Except.ok.inj ok).symm
  | cons entry rest ih =>
    rw [nativeEntry] at ok
    obtain ⟨managedSys,read,ok⟩ := bind_success ok
    obtain ⟨_,rfl⟩ := Json.get_success read
    rw [List.find?_cons,native]
    split at ok
    next named => rw [named,← pure_success ok]
    next other =>
      rw [Bool.eq_false_iff.mpr other]
      exact ih ok

theorem succeeds_nativeEntry {entries : List Json} (objects : ∀ entry ∈ entries, entry.isObject = true) :
    Succeeds (nativeEntry entries) := by
  induction entries with
  | nil => exact succeeds_ok none
  | cons entry rest ih =>
    obtain ⟨object,others⟩ := List.forall_mem_cons.mp objects
    refine succeeds_bind.mpr ⟨_,Json.get_field object _,?_⟩
    split
    · exact succeeds_pure _
    · exact ih others

theorem selectLogin_success {value login : Json} (shape : value.listLike = true)
    (ok : selectLogin value.orEmpty = .ok login) : login = selectedLogin value.items := by
  rw [Json.orEmpty_items shape] at ok
  obtain ⟨entries,walked,ok⟩ := bind_success ok
  obtain rfl := Except.ok.inj walked
  obtain ⟨found,searched,ok⟩ := bind_success ok
  unfold selectedLogin
  rw [← nativeEntry_success searched]
  cases found with
  | some entry => exact (Json.get_success ok).2
  | none =>
    cases known : value.items with
    | nil =>
      simp only [known,Json.truthy,List.isEmpty_nil,Bool.not_true,Bool.false_eq_true,if_false] at ok
      exact (pure_success ok).symm
    | cons first rest =>
      simp only [known,Json.truthy,List.isEmpty_cons,Bool.not_false,if_true] at ok
      obtain ⟨head,taken,ok⟩ := bind_success ok
      obtain rfl := Except.ok.inj taken
      exact (Json.get_success ok).2

theorem succeeds_selectLogin {value : Json} (records : value.Records) : Succeeds (selectLogin value.orEmpty) := by
  rw [Json.orEmpty_items records.1]
  obtain ⟨found,searched⟩ := succeeds_nativeEntry records.2
  refine succeeds_bind.mpr ⟨_,rfl,succeeds_bind.mpr ⟨found,searched,?_⟩⟩
  cases found with
  | some entry =>
    have member := List.mem_of_find?_eq_some (nativeEntry_success searched).symm
    exact Json.succeeds_get.mpr (records.2 entry member)
  | none =>
    cases known : value.items with
    | nil => exact succeeds_pure _
    | cons first rest =>
      have object := records.2 first (by simp [known])
      exact succeeds_bind.mpr ⟨first,rfl,Json.succeeds_get.mpr object⟩

theorem succeeds_resetUrl {settings : Settings} {config : Config} {login : Json} :
    Succeeds (resetUrl settings config login) ↔ (login.truthy = true → ∃ text, login = .str text) := by
  rw [resetUrl]
  split
  next truthy =>
    cases login <;> simp [buildPasswordResetUrl,truthy]
  next falsy => simp [falsy]

/-- No grant date that clashes is reached: a grant before it is still in force. -/
def GrantsRead (now : Datetime) (grants : List Json) : Prop :=
  ∀ before bean after, grants = before ++ bean::after → Clashes now (bean.field "accessRightEndDate") →
    ∃ earlier ∈ before, ¬Ended now earlier

theorem ended_compares {now : Datetime} {bean : Json} (ended : Ended now bean) :
    ¬Clashes now (bean.field "accessRightEndDate") := by
  rintro ⟨date,parsed,different⟩
  rw [Ended,pastDate,parsed,Option.filter_some] at ended
  simp [different] at ended

theorem succeeds_grants {now : Datetime} {beans : List Json} (objects : ∀ bean ∈ beans, bean.isObject = true) :
    Succeeds (beans.allM (endDated now)) ↔ GrantsRead now beans := by
  rw [succeeds_allM]
  constructor
  · intro each before bean after shape clash
    by_contra inForce
    have reads : ∀ earlier ∈ before, endDated now earlier = .ok true := by
      intro earlier member
      have ended : Ended now earlier := by
        by_contra lasting
        exact inForce ⟨earlier,member,lasting⟩
      obtain ⟨answer,known⟩ := succeeds_endDated.mpr ⟨objects earlier (by simp [shape,member]),ended_compares ended⟩
      rw [known,(endDated_success known).mpr ended]
    exact (succeeds_endDated.mp (each before bean after shape reads)).2 clash
  · intro read before bean after shape ended
    refine succeeds_endDated.mpr ⟨objects bean (by simp [shape]),?_⟩
    intro clash
    obtain ⟨earlier,member,lasting⟩ := read before bean after shape clash
    exact lasting ((endDated_success (ended earlier member)).mp rfl)

theorem succeeds_accountStatusAt {locked : Bool} {deprovisioned : Except Exn Bool} {rawStatus : Json}
    {expired : List (Json × Datetime)} :
    Succeeds (accountStatusAt locked deprovisioned rawStatus expired) ↔ locked = true ∨ Succeeds deprovisioned := by
  rw [accountStatusAt]
  cases locked with
  | true => exact iff_of_true (succeeds_pure _) (Or.inl rfl)
  | false =>
    simp only [Bool.false_eq_true,if_false,false_or]
    rw [succeeds_bind]
    refine exists_congr fun gone => and_iff_left ?_
    cases gone <;> cases rawStatus.isText "ACTIVE" <;> cases expired.isEmpty <;> exact succeeds_pure _

namespace UserRecord
variable (record : UserRecord)

theorem selected_text : (selectedLogin (logins record.body)).truthy = true →
    ∃ text, selectedLogin (logins record.body) = .str text := by
  unfold selectedLogin
  split
  next entry found => exact record.loginText entry (List.mem_of_find?_eq_some found)
  next =>
    split
    next first rest known => exact record.loginText first (by simp [known])
    next => simp [Json.truthy]

theorem succeeds_statusResult (settings : Settings) (config : Config) (rawStatus rawSecondaryStatus : Json)
    (expired : List (Json × Datetime)) (status : AccountStatus) :
    Succeeds (statusResult settings config rawStatus rawSecondaryStatus (record.body.field "principalList").orEmpty
      expired status) := by
  obtain ⟨login,selected⟩ := succeeds_selectLogin record.principalList
  have text := record.selected_text
  rw [logins,Json.listed,← selectLogin_success record.principalList.1 selected] at text
  obtain ⟨url,built⟩ : Succeeds (resetUrl settings config login) := succeeds_resetUrl.mpr text
  refine succeeds_bind.mpr ⟨login,selected,succeeds_bind.mpr ⟨url,built,?_⟩⟩
  split <;> exact succeeds_pure _

theorem succeeds_deprovisionedAt (now : Datetime) :
    Succeeds (deprovisionedAt now (record.body.field "principalList").orEmpty (record.body.field "roleBeans").orEmpty
      (record.body.field "groupBeans").orEmpty) ↔
      (∃ entry ∈ logins record.body, DeletedLogin entry) ∨ GrantsRead now (grants record.body) := by
  have objects : ∀ bean ∈ grants record.body, bean.isObject = true := by
    intro bean member
    rcases List.mem_append.mp member with role | group
    · exact record.roleBeans.2 bean role
    · exact record.groupBeans.2 bean group
  obtain ⟨deleted,asked⟩ := succeeds_anyM fun entry member =>
    succeeds_deletedLogin (record.principalList.2 entry member) (record.loginStatus entry member)
  have known := anyM_success (fun _ _ => deletedLogin_success) asked
  rw [deprovisionedAt,Json.orEmpty_elements record.principalList.1,Json.orEmpty_items record.roleBeans.1,
    Json.orEmpty_items record.groupBeans.1]
  change Succeeds ((List.anyM deletedLogin (record.body.field "principalList").items) >>= _) ↔ _
  rw [asked]
  cases deleted with
  | true => exact iff_of_true (succeeds_pure true) (Or.inl (known.mp rfl))
  | false =>
    have remains : ¬∃ entry ∈ logins record.body, DeletedLogin entry := fun found => nomatch known.mpr found
    rw [or_iff_right remains,← succeeds_grants objects]
    change Succeeds (if (Json.arr (grants record.body)).truthy = true then (grants record.body).allM (endDated now)
      else pure false) ↔ _
    cases grants record.body with
    | nil => exact iff_of_true (succeeds_pure false) (succeeds_pure true)
    | cons first rest => rfl

/-- A record is answered when no date that is reached clashes with the time of the check. -/
theorem succeeds_userStatusAt (settings : Settings) (config : Config) (passwordsAt grantsAt : Datetime) :
    Succeeds (userStatusAt settings config passwordsAt grantsAt record.body) ↔
      (∀ entry ∈ logins record.body, ¬Clashes passwordsAt (entry.field "pwdExp")) ∧
      (Locked record.body ∨ (∃ entry ∈ logins record.body, DeletedLogin entry) ∨
        GrantsRead grantsAt (grants record.body)) := by
  have passwords : Succeeds ((logins record.body).filterMapM (expiredLogin passwordsAt)) ↔
      ∀ entry ∈ logins record.body, ¬Clashes passwordsAt (entry.field "pwdExp") := by
    rw [succeeds_filterMapM]
    refine forall₂_congr fun entry member => ?_
    rw [succeeds_expiredLogin]
    exact and_iff_right (record.principalList.2 entry member)
  obtain ⟨locked,asked⟩ : Succeeds ((record.body.field "secondaryStatus").memberOf lockedSecondaryStatuses) :=
    Json.succeeds_memberOf.mpr record.hashable
  have lock : locked = true ↔ Locked record.body := Json.memberOf_success asked
  have rest : ∀ expired, Succeeds (do
      let locked ← (record.body.field "secondaryStatus").memberOf lockedSecondaryStatuses
      let status ← accountStatusAt locked (deprovisionedAt grantsAt (record.body.field "principalList").orEmpty
        (record.body.field "roleBeans").orEmpty (record.body.field "groupBeans").orEmpty) (record.body.field "status") expired
      statusResult settings config (record.body.field "status") (record.body.field "secondaryStatus")
        (record.body.field "principalList").orEmpty expired status) ↔
      Locked record.body ∨ (∃ entry ∈ logins record.body, DeletedLogin entry) ∨
        GrantsRead grantsAt (grants record.body) := by
    intro expired
    rw [succeeds_step asked,succeeds_bind,← lock,← succeeds_deprovisionedAt]
    simp only [succeeds_statusResult,and_true]
    exact succeeds_accountStatusAt
  rw [userStatusAt,succeeds_step (Json.get_field record.object _),succeeds_step (Json.get_field record.object _),
    succeeds_step (Json.get_field record.object _),succeeds_step (Json.get_field record.object _),
    succeeds_step (Json.get_field record.object _),succeeds_bind]
  simp only [rest,exists_and_right]
  rw [← passwords]
  refine and_congr_left fun _ => ?_
  exact succeeds_step (Json.orEmpty_elements record.principalList.1)

/-- Every date carries an offset, is missing or cannot be parsed. -/
def OffsetDates : Prop :=
  (∀ entry ∈ logins record.body, ¬Naive (entry.field "pwdExp")) ∧
    ∀ bean ∈ grants record.body, ¬Naive (bean.field "accessRightEndDate")

theorem succeeds_offsetDates (dates : record.OffsetDates) (settings : Settings) (config : Config)
    (passwordsAt grantsAt : UtcNow) :
    Succeeds (userStatusAt settings config passwordsAt.value grantsAt.value record.body) := by
  refine (record.succeeds_userStatusAt settings config _ _).mpr ⟨?_,Or.inr (Or.inr ?_)⟩
  · intro entry member clash
    exact dates.1 entry member ((clashes_utcNow passwordsAt _).mp clash)
  · intro before bean after shape clash
    exact absurd ((clashes_utcNow grantsAt _).mp clash) (dates.2 bean (by simp [shape]))

end UserRecord

/-! ### The answer -/

def expiredDetail (now : Datetime) (body : Json) : String :=
  Text.join ", " ((logins body).filterMap fun entry => (expiredAt now entry).map fun expiry =>
    (systemName entry).pyStr ++ " (expired " ++ expiry.isodate ++ ")")

theorem formatExpired (now : Datetime) (body : Json) :
    formatExpiredPasswordDetail (expiredLogins now (logins body)) = expiredDetail now body := by
  rw [formatExpiredPasswordDetail,expiredLogins,List.map_filterMap,expiredDetail]
  simp only [Option.map_map]
  rfl

theorem getUserStatus_answer (settings : Settings) (setOrder : SetOrder) (config : Config) (response : Response)
    (subjectSub : String) (world : σ) :
    (getUserStatus ⟨settings,setOrder,answering fun _ => response⟩ config subjectSub).answer world =
      if response.failed then
        .ok ⟨.notFound,some ("OpenIAM user/admin/get returned " ++ toString response.statusCode),none⟩
      else response.json >>= userStatusAt settings config (Clock.now world).1.value
        (Clock.now (Clock.now world).2).1.value := by
  simp only [getUserStatus,answering,Effect.answer_bind,Effect.answer_pure,Effect.after_pure,pure_bind]
  split
  · rfl
  · simp only [Effect.answer_bind,Effect.answer_lift,Effect.after_lift,userStatusFrom_answer]

/-- The times are those at which the code reads the clock, one for the passwords and one for
the grants; a clock that stands still reads the same for both. -/
theorem getUserStatus_classified (settings : Settings) (setOrder : SetOrder) (config : Config) (response : Response)
    (subjectSub : String) (world : σ) :
    let outcome := (getUserStatus ⟨settings,setOrder,answering fun _ => response⟩ config subjectSub).answer world
    let passwordsAt := (Clock.now world).1
    let grantsAt := (Clock.now (Clock.now world).2).1
    (400 ≤ response.statusCode → ∃ detail, outcome = .ok ⟨.notFound,detail,none⟩) ∧
    (response.statusCode < 400 → ∀ body, response.json = .ok body → ∀ result, outcome = .ok result →
      Classifies passwordsAt.value grantsAt.value body result.status ∧
        (result.status = .passwordExpired → result.detail = some (expiredDetail passwordsAt.value body))) ∧
    (response.statusCode < 400 → ∀ record : UserRecord, response.json = .ok record.body → record.OffsetDates →
      Succeeds outcome) := by
  intro outcome passwordsAt grantsAt
  have answer := getUserStatus_answer settings setOrder config response subjectSub world
  have failed : response.failed = decide (400 ≤ response.statusCode) := rfl
  refine ⟨?_,?_,?_⟩
  · intro error
    rw [failed,decide_eq_true error,if_pos rfl] at answer
    exact ⟨_,answer⟩
  · intro found body decoded result ok
    rw [failed,decide_eq_false (not_le.mpr found),if_neg Bool.false_ne_true,decoded] at answer
    obtain ⟨status,classified,_,rest⟩ := userStatusAt_success (answer.symm.trans ok)
    obtain ⟨same,detail,_⟩ := statusResult_success rest
    rw [same]
    refine ⟨classified,?_⟩
    intro expired
    rw [detail expired,formatExpired]
  · intro found record decoded dates
    rw [failed,decide_eq_false (not_le.mpr found),if_neg Bool.false_ne_true,decoded] at answer
    obtain ⟨result,ok⟩ := record.succeeds_offsetDates dates settings config passwordsAt grantsAt
    exact ⟨result,answer.trans ok⟩

/-- A login that is no text. -/
def numericLogin : Json := .obj [("status",.str "ACTIVE"),
  ("principalList",.arr [.obj [("managedSys",.str "OPENIAM"),("login",.int 12345)]])]

/-- By its signals the account is active, but its login cannot be quoted into a reset link. -/
theorem numeric_login_raises :
    let now : Datetime := (default : UtcNow).value
    Classifies now now numericLogin .active ∧
      (getUserStatus ⟨⟨"https://iam",defaultPasswordResetUrlTemplate⟩,.insertion,answering fun _ => ⟨200,.ok numericLogin⟩⟩
        ⟨⟨"openiam",none,"kv/openiam",10,[]⟩,none,[]⟩ "u-1").answer () =
      .error (Exn.typeError "quote_from_bytes() expected bytes") := by
  refine ⟨.active ?_ ?_ rfl ?_,rfl⟩
  · rintro ⟨status,_,same⟩
    exact nomatch (same : Json.null = .str status)
  · rintro (⟨entry,member,gone⟩ | ⟨some,_⟩)
    · obtain rfl := List.mem_singleton.mp (member : entry ∈ [Json.obj [("managedSys",.str "OPENIAM"),("login",.int 12345)]])
      rcases gone with ⟨status,_,same⟩ | inactive
      · exact nomatch (same : Json.null = .str status)
      · exact nomatch (inactive : Json.null = .bool false)
    · exact some rfl
  · rintro ⟨entry,member,expired⟩
    obtain rfl := List.mem_singleton.mp (member : entry ∈ [Json.obj [("managedSys",.str "OPENIAM"),("login",.int 12345)]])
    exact nomatch (expired : false = true)

end AccessAgent.OpenIAM
