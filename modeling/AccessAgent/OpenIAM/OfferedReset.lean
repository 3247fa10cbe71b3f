import AccessAgent.OpenIAM.AccountStatus

/-! The reset link of an expired account. Whether it is offered is read off the expired
logins; the login it resets is that of the first OPENIAM entry, expired or not. -/

namespace AccessAgent.OpenIAM
open Semantics Raising

variable {σ : Type} [Clock σ]

/-- A login of OPENIAM itself whose password has expired. -/
def ExpiredNative (now : Datetime) (entry : Json) : Prop := native entry = true ∧ (expiredAt now entry).isSome = true

/-- A link is offered when a named login has expired, and resets such a login. -/
def ResetsExpired (settings : Settings) (config : Config) (now : Datetime) (body : Json) (link : Option String) : Prop :=
  (link.isSome = true ↔ ∃ entry ∈ logins body, ExpiredNative now entry ∧ (entry.field "login").truthy = true) ∧
    ∀ url, link = some url → ∃ entry ∈ logins body, ExpiredNative now entry ∧
      selectLogin (body.field "principalList").orEmpty = .ok (entry.field "login") ∧
      resetUrl settings config (entry.field "login") = .ok (some url)

/-- The login of the first OPENIAM entry is that of an expired one, or has no name and neither
have the expired ones. -/
def FirstSpeaks (now : Datetime) (body : Json) : Prop :=
  ∀ first, (logins body).find? native = some first → (∃ entry ∈ logins body, ExpiredNative now entry) →
    if (first.field "login").truthy = true then
      ∃ entry ∈ logins body, ExpiredNative now entry ∧ entry.field "login" = first.field "login"
    else ∀ entry ∈ logins body, ExpiredNative now entry → (entry.field "login").truthy = false

theorem systemName_native {entry : Json} : (systemName entry).isText "OPENIAM" = native entry := by
  rw [systemName,native]
  split
  next named => rfl
  next unnamed =>
    cases value : entry.field "managedSys" with
    | str text =>
      have blank : text = "" := by simpa [value,Json.truthy] using unnamed
      subst blank
      decide
    | _ => rfl

theorem expiredLogins_native {now : Datetime} {entries : List Json} :
    (expiredLogins now entries).any (fun login => login.1.isText "OPENIAM") = true ↔
      ∃ entry ∈ entries, ExpiredNative now entry := by
  rw [List.any_eq_true,expiredLogins]
  constructor
  · rintro ⟨login,listed,named⟩
    obtain ⟨entry,member,found⟩ := List.mem_filterMap.mp listed
    obtain ⟨expiry,expired,rfl⟩ := Option.map_eq_some_iff.mp found
    exact ⟨entry,member,systemName_native.symm.trans named,by rw [expired]; rfl⟩
  · rintro ⟨entry,member,named,expired⟩
    obtain ⟨expiry,expired⟩ := Option.isSome_iff_exists.mp expired
    refine ⟨(systemName entry,expiry),List.mem_filterMap.mpr ⟨entry,member,?_⟩,systemName_native.trans named⟩
    rw [expired]
    rfl

theorem resetUrl_success {settings : Settings} {config : Config} {login : Json} {url : Option String}
    (ok : resetUrl settings config login = .ok url) : url.isSome = login.truthy := by
  rw [resetUrl] at ok
  split at ok
  next truthy =>
    obtain ⟨built,_,ok⟩ := bind_success ok
    rw [← pure_success ok,truthy]
    rfl
  next falsy =>
    rw [← pure_success ok,Bool.eq_false_iff.mpr falsy]
    rfl

theorem selectedLogin_first {entries : List Json} {first : Json} (found : entries.find? native = some first) :
    selectedLogin entries = first.field "login" := by
  unfold selectedLogin
  rw [found]

/-- The link of an expired account: the one built for the selected login, or none. -/
theorem expired_link {settings : Settings} {config : Config} {passwordsAt grantsAt : Datetime} {body : Json}
    {result : UserStatusResult} (ok : userStatusAt settings config passwordsAt grantsAt body = .ok result)
    (expired : result.status = .passwordExpired) :
    ∃ url, selectLogin (body.field "principalList").orEmpty = .ok (selectedLogin (logins body)) ∧
      resetUrl settings config (selectedLogin (logins body)) = .ok url ∧
      ((∃ entry ∈ logins body, ExpiredNative passwordsAt entry) → result.passwordResetUrl = url) ∧
      ((¬∃ entry ∈ logins body, ExpiredNative passwordsAt entry) → result.passwordResetUrl = none) := by
  obtain ⟨status,_,shape,rest⟩ := userStatusAt_success ok
  obtain ⟨same,_,login,url,selected,built,link⟩ := statusResult_success rest
  have isExpired : status = .passwordExpired := same.symm.trans expired
  obtain rfl := selectLogin_success shape selected
  refine ⟨url,selected,built,?_,?_⟩
  · intro native
    rw [link,expiredLogins_native.mpr native]
    simp
  · intro foreign
    rw [link,if_pos ⟨isExpired,Bool.eq_false_iff.mpr (foreign ∘ expiredLogins_native.mp)⟩]

theorem resets_expired_iff {settings : Settings} {setOrder : SetOrder} {config : Config} {response : Response}
    {subjectSub : String} {world : σ} {body : Json} {result : UserStatusResult} (found : response.statusCode < 400)
    (decoded : response.json = .ok body) (ok : (getUserStatus ⟨settings,setOrder,answering fun _ => response⟩ config
      subjectSub).answer world = .ok result) (expired : result.status = .passwordExpired) :
    ResetsExpired settings config (Clock.now world).1.value body result.passwordResetUrl ↔
      FirstSpeaks (Clock.now world).1.value body := by
  have answered : response.failed = false := decide_eq_false (not_le.mpr found)
  rw [getUserStatus_answer,answered,if_neg Bool.false_ne_true,decoded] at ok
  obtain ⟨url,selected,built,offered,withheld⟩ := expired_link ok expired
  have known := resetUrl_success built
  rw [ResetsExpired,FirstSpeaks,selected]
  by_cases native : ∃ entry ∈ logins body, ExpiredNative (Clock.now world).1.value entry
  · obtain ⟨first,found⟩ : ∃ first, (logins body).find? OpenIAM.native = some first := by
      obtain ⟨entry,member,named,_⟩ := native
      exact Option.isSome_iff_exists.mp (List.find?_isSome.mpr ⟨entry,member,named⟩)
    have login := selectedLogin_first found
    rw [offered native,known,login]
    simp only [found,Option.some.injEq,forall_eq',native,forall_const]
    rw [login] at built known
    cases truthy : (first.field "login").truthy with
    | true =>
      rw [truthy] at known
      obtain ⟨link,rfl⟩ := Option.isSome_iff_exists.mp known
      rw [if_pos rfl]
      constructor
      · rintro ⟨_,builds⟩
        obtain ⟨entry,member,expired,same,_⟩ := builds link rfl
        exact ⟨entry,member,expired,(Except.ok.inj same).symm⟩
      · rintro ⟨entry,member,expired,same⟩
        refine ⟨iff_of_true rfl ⟨entry,member,expired,by rw [same,truthy]⟩,?_⟩
        intro url offers
        obtain rfl := Option.some.inj offers
        exact ⟨entry,member,expired,by rw [same],by rw [same,built]⟩
    | false =>
      rw [truthy] at known
      obtain rfl : url = none := by simpa using known
      rw [if_neg Bool.false_ne_true]
      constructor
      · rintro ⟨offers,_⟩ entry member expired
        by_contra named
        exact absurd (offers.mpr ⟨entry,member,expired,by simpa using named⟩) Bool.false_ne_true
      · intro unnamed
        refine ⟨iff_of_false Bool.false_ne_true ?_,by simp⟩
        rintro ⟨entry,member,expired,named⟩
        exact absurd named (by simp [unnamed entry member expired])
  · rw [withheld native]
    constructor
    · exact fun _ _ _ expired => absurd expired native
    · intro _
      refine ⟨?_,by simp⟩
      simp only [Option.isSome_none,Bool.false_eq_true,false_iff]
      rintro ⟨entry,member,expired,_⟩
      exact native ⟨entry,member,expired⟩

def openIamLogin (login : String) (pwdExp : Json) : Json :=
  .obj [("managedSys",.str "OPENIAM"),("login",.str login),("pwdExp",pwdExp)]

def activeAccount (principalList : List Json) : Json := .obj [("status",.str "ACTIVE"),("principalList",.arr principalList)]

def lastYear : Json := .str "1969-12-31T00:00:00.000Z"

def loginOnly : Settings := ⟨"",[.baseUrl,.literal "/reset?login=",.login]⟩

def noConfig : Config := ⟨⟨"openiam",none,"",10,[]⟩,none,[]⟩

def serving (body : Json) : Environment Unit := ⟨loginOnly,.insertion,answering fun _ => ⟨200,.ok body⟩⟩

/-- Of three OPENIAM logins the last two have expired, and the last one has the name of the first. -/
def severalLogins : List Json :=
  [.obj [("managedSys",.str "AD"),("login",.str "jdoe.ad"),("pwdExp",lastYear)],openIamLogin "jdoe" .null,
    openIamLogin "jdoe.old" lastYear,openIamLogin "jdoe" lastYear]

theorem resets_expired_several : ∃ result,
    (getUserStatus (serving (activeAccount severalLogins)) noConfig "u-1").answer () = .ok result ∧
    result.status = .passwordExpired ∧ result.passwordResetUrl.isSome = true ∧
    ResetsExpired loginOnly noConfig (Clock.now ()).1.value (activeAccount severalLogins) result.passwordResetUrl := by
  obtain ⟨result,ok,expired,offered⟩ : ∃ result, (getUserStatus (serving (activeAccount severalLogins)) noConfig
      "u-1").answer () = .ok result ∧ result.status = .passwordExpired ∧ result.passwordResetUrl.isSome = true := ⟨_,rfl,rfl,rfl⟩
  have speaks : FirstSpeaks (Clock.now ()).1.value (activeAccount severalLogins) := by
    intro first found _
    obtain rfl : openIamLogin "jdoe" .null = first := Option.some.inj found
    rw [if_pos (show (Json.field "login" (openIamLogin "jdoe" .null)).truthy = true from rfl)]
    refine ⟨openIamLogin "jdoe" lastYear,?_,⟨rfl,rfl⟩,rfl⟩
    simp [logins,Json.listed,activeAccount,Json.field,Json.find,Json.items,severalLogins]
  exact ⟨result,ok,expired,offered,(resets_expired_iff (by decide) rfl ok expired).mpr speaks⟩

/-- The second OPENIAM login has expired; the link resets the first. -/
theorem resets_other_login : ∃ result,
    (getUserStatus (serving (activeAccount [openIamLogin "jdoe.old" .null,openIamLogin "jdoe" lastYear])) noConfig
      "u-1").answer () = .ok result ∧ result.status = .passwordExpired ∧
    ¬ResetsExpired loginOnly noConfig (Clock.now ()).1.value (activeAccount [openIamLogin "jdoe.old" .null,
      openIamLogin "jdoe" lastYear]) result.passwordResetUrl := by
  refine ⟨_,rfl,rfl,?_⟩
  rintro ⟨_,builds⟩
  obtain ⟨entry,member,⟨_,expired⟩,selected,_⟩ := builds _ rfl
  have listed : entry = openIamLogin "jdoe.old" .null ∨ entry = openIamLogin "jdoe" lastYear := by
    simpa [logins,Json.listed,activeAccount,Json.field,Json.find,Json.items] using member
  rcases listed with rfl | rfl
  · exact absurd expired (by decide)
  · exact absurd (Except.ok.inj selected) (by simp [openIamLogin,Json.field,Json.find])

end AccessAgent.OpenIAM
