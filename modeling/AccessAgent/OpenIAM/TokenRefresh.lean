import AccessAgent.OpenIAM.TokenClient
import AccessAgent.Python.Fields
import AccessAgent.Python.Url
import AccessAgent.Semantics.Effect

/-! One call of `get_access_token` by itself, statement by statement, with the location header as
text (`app/connectors/openiam/token_client.py`). The requests and the commands to Redis are
answered; the HTTP client refuses what it cannot send or take, and Redis a lifetime that is too
long for it. -/

namespace AccessAgent.OpenIAMTokenClient
open Semantics Raising

/-! ### The call -/

/-- The fields of the client, the entries of Redis, and the times at which they will be looked at. -/
structure Process where
  times : Nat → Rat
  ticks : Nat
  jar : Jar
  accessToken : Option String
  expiresAt : Rat
  token : Option (Entry String)
  cookies : Option (Entry Cookies)

/-- An answer; a body that is not JSON raises the exception of its reader. -/
structure Answer extends HttpAnswer where
  undecoded : ∀ raised, json = .error raised → raised.cls ≠ .openIAMAuthError

/-- What the server answers if it is asked. -/
structure Answers where
  login : Answer
  redirect : Answer
  info : Answer

/-- What the HTTP client raises, if anything: for a header and for a query parameter that it is to send,
and for an answer. It knows no exception of this program. -/
structure Transport where
  headerFault : String → Option Exn
  paramFault : String → Option Exn
  answerFault : HttpAnswer → Option Exn
  headerForeign : ∀ value raised, headerFault value = some raised → raised.cls ≠ .openIAMAuthError
  paramForeign : ∀ value raised, paramFault value = some raised → raised.cls ≠ .openIAMAuthError
  answerForeign : ∀ answer raised, answerFault answer = some raised → raised.cls ≠ .openIAMAuthError

/-- The HTTP client, what `urlsplit` finds wrong with a network location whose brackets match, and the
longest lifetime in seconds that Redis takes. -/
structure Limits extends Transport where
  netlocFault : List Char → Option String
  longestExpiry : Int

abbrev Refresh := Effect Exn Process

def monotonic : Refresh Rat :=
  ⟨fun process => (.ok (process.times process.ticks),{process with ticks := process.ticks + 1})⟩

def ensureConnected : Refresh Unit := Effect.update fun process => {process with ticks := process.ticks + 1}

/-- The first integer that rounds to no float. -/
def floatLimit : Int := 2 ^ 1024 - 2 ^ 970

def addSeconds (now : Rat) (seconds : Int) : Except Exn Rat :=
  if floatLimit ≤ seconds then .error ⟨.overflowError,"int too large to convert to float"⟩ else .ok (now + seconds)

variable (settings : Settings) (limits : Limits) (answers : Answers)

def permitted : Option Exn → Except Exn Unit
  | none => .ok ()
  | some raised => .error raised

def received (answer : Answer) : Except Exn HttpAnswer := do
  permitted (limits.answerFault answer.toHttpAnswer)
  return answer.toHttpAnswer

/-- The cookies of an answer are kept before it is looked at. -/
def asked (answer : Answer) : Refresh HttpAnswer :=
  ⟨fun process => (received limits answer,
    {process with ticks := process.ticks + 1,jar := process.jar.extract answer.toHttpAnswer})⟩

/-- The `Authorization` header that carries a token. -/
def bearer (token : String) : String := "Bearer " ++ token

def setEntry {α : Type} (value : α) (ex : Int) (put : Option (Entry α) → Process → Process) : Refresh Unit := do
  let now ← monotonic
  if limits.longestExpiry < ex then throw ⟨.other "ResponseError","invalid expire time in 'set' command"⟩
  else Effect.update (put (some ⟨value,now + ex⟩))

/-- `_authorize`, from the location as it was sent. -/
def authorizeLocation (response : HttpAnswer) : Except Exn (String × Option Int) :=
  if response.statusCode ≠ 302 then
    .error (authError ("OpenIAM authorize did not redirect: " ++ toString response.statusCode ++ " " ++ response.text))
  else match response.location with
    | none => .error (authError "OpenIAM authorize redirect had no fragment: None")
    | some location =>
      if '#' ∉ location.toList then
        .error (authError ("OpenIAM authorize redirect had no fragment: " ++ Text.reprText location))
      else do
        let fragment ← Url.urlsplit limits.netlocFault location.toList
        let params := Url.parameters fragment
        let accessToken := (params.find "access_token").getD ""
        if accessToken = "" then
          .error (authError ("OpenIAM authorize fragment had no access_token: " ++
            Text.reprText (String.ofList fragment)))
        else do
          let expiresIn ← expiresIn params
          return (accessToken,expiresIn)

def stated (accessToken : String) (expiresIn : Option Int) : Refresh (Option Int) :=
  match expiresIn with
  | some seconds => pure (some seconds)
  | none => do
    permitted (limits.paramFault accessToken)
    let response ← asked limits answers.info
    introspectExpiry response

def loginAndAuthorize : Refresh Unit := do
  Effect.update fun process => {process with jar := []}
  let authToken ← fetchAuthToken (← asked limits answers.login)
  permitted (limits.headerFault (bearer authToken))
  let (accessToken,expiresIn) ← authorizeLocation limits (← asked limits answers.redirect)
  let expiresIn ← stated limits answers accessToken expiresIn
  let effectiveTtl := effectiveTtl settings expiresIn
  Effect.update fun process => {process with accessToken := some accessToken}
  let now ← monotonic
  let expiresAt ← addSeconds now effectiveTtl
  Effect.update fun process => {process with expiresAt := expiresAt}
  let cookies ← Effect.read fun process => process.jar.cookies
  ensureConnected
  setEntry limits accessToken effectiveTtl fun entry process => {process with token := entry}
  setEntry limits cookies effectiveTtl fun entry process => {process with cookies := entry}

def restoreCachedCookies : Refresh Unit := do
  let now ← monotonic
  Effect.update fun process => match live now process.cookies with
    | some entry => {process with jar := process.jar.restore entry.value}
    | none => process

def readCachedToken : Refresh (Option (String × Rat)) := do
  ensureConnected
  let now ← monotonic
  match live now (← Effect.read Process.token) with
  | none => return none
  | some entry =>
    let later ← monotonic
    match live later (← Effect.read Process.token) with
    | none => return none
    | some left =>
      restoreCachedCookies
      return some (entry.value,left.expiresAt - later)

/-- The token that is still fresh. -/
def freshToken : Refresh (Option String) := do
  let now ← monotonic
  let expiresAt ← Effect.read Process.expiresAt
  if now < expiresAt then Effect.read Process.accessToken else return none

def getAccessToken : Refresh String := do
  match ← freshToken with
  | some token => return token
  | none =>
    match ← freshToken with
    | some token => return token
    | none =>
      match ← readCachedToken with
      | some (token,remainingTtl) =>
        let now ← monotonic
        Effect.update fun process => {process with accessToken := some token,expiresAt := now + remainingTtl}
        return token
      | none =>
        loginAndAuthorize settings limits answers
        match ← Effect.read Process.accessToken with
        | some token => return token
        | none => throw ⟨.assertionError,""⟩

/-! ### Answers that can be read -/

def IsAuthError (raised : Exn) : Prop := raised.cls = .openIAMAuthError

def tokenInfoOf (fields : List (String × Json)) : Json := (Json.find "tokenInfo" fields).getD (.obj [])

/-- A refusal, or an object whose token info, if any, is an object. -/
def LoginReadable (response : HttpAnswer) : Prop :=
  400 ≤ response.statusCode ∨ ∃ fields, response.json = .ok (.obj fields) ∧ (tokenInfoOf fields).isObject = true

/-- The session token of a login. -/
def authTokenOf (response : HttpAnswer) : String :=
  match response.json with
  | .ok (.obj fields) => ((tokenInfoOf fields).field "authToken").pyStr
  | _ => ""

/-- A session token and the status 200. -/
def Granted (response : HttpAnswer) : Prop :=
  response.statusCode < 400 ∧ ∃ fields, response.json = .ok (.obj fields) ∧ (tokenInfoOf fields).isObject = true ∧
    ((tokenInfoOf fields).field "authToken").truthy = true ∧
    (Json.field "status" (.obj fields)).number = some (some 200)

/-- A redirect to a location with a fragment. -/
structure Redirected (response : HttpAnswer) (location : String) : Prop where
  statusCode : response.statusCode = 302
  sent : response.location = some location
  fragment : '#' ∈ location.toList

theorem Redirected.unique {response : HttpAnswer} {location other : String} (left : Redirected response location)
    (right : Redirected response other) : location = other :=
  Option.some.inj (left.sent.symm.trans right.sent)

def fragmentParams (location : String) : Dictionary String String := Url.parameters (Url.fragment location.toList)

def tokenOf (location : String) : String := ((fragmentParams location).find "access_token").getD ""

/-- The location of a redirect splits, and beside a token a lifetime is an integer. -/
def RedirectReadable (response : HttpAnswer) : Prop :=
  ∀ location, Redirected response location → Url.Splits limits.netlocFault location.toList ∧
    (tokenOf location ≠ "" → ∀ text, (fragmentParams location).find "expires_in" = some text → Succeeds (Text.parseInt text))

/-- The first of the expiry fields. -/
def expiryField (fields : List (String × Json)) : Option Json := expiryKeys.findSome? fun key => Json.find key fields

/-- An object whose expiry, if any, is a number; or a list or a text that does not hold the name of one. -/
def ExpiryReadable : Json → Prop
  | .obj fields => ∀ value, expiryField fields = some value → Succeeds value.toInt
  | .arr items => ∀ key ∈ expiryKeys, items.any (Json.isText key) = false
  | .str text => ∀ key ∈ expiryKeys, ¬key.toList <:+: text.toList
  | _ => False

def InfoReadable (response : HttpAnswer) : Prop :=
  400 ≤ response.statusCode ∨ ∃ body, response.json = .ok body ∧ ExpiryReadable body

theorem fetchAuthToken_refused {response : HttpAnswer} (refused : 400 ≤ response.statusCode) :
    fetchAuthToken response =
      .error (authError ("OpenIAM login failed: " ++ toString response.statusCode ++ " " ++ response.text)) := by
  rw [fetchAuthToken,if_pos refused]
  rfl

theorem fetchAuthToken_object {response : HttpAnswer} {fields : List (String × Json)}
    (answered : ¬400 ≤ response.statusCode) (body : response.json = .ok (.obj fields))
    (info : (tokenInfoOf fields).isObject = true) :
    fetchAuthToken response = if ((tokenInfoOf fields).field "authToken").truthy = true ∧
        (Json.field "status" (.obj fields)).number = some (some 200) then .ok ((tokenInfoOf fields).field "authToken").pyStr
      else .error (authError ("OpenIAM login returned no authToken: " ++ (Json.obj fields).pyStr)) := by
  have opened : Json.getD "tokenInfo" (.obj fields) (.obj []) = .ok (tokenInfoOf fields) := rfl
  have status : Json.get "status" (.obj fields) = .ok (Json.field "status" (.obj fields)) := rfl
  rw [fetchAuthToken,if_neg answered,body]
  simp only [pure_bind,ok_bind,opened,Json.get_field info,status]
  cases ((tokenInfoOf fields).field "authToken").truthy with
  | false => rfl
  | true =>
    simp only [if_true,true_and]
    split <;> rfl

/-- An answer that cannot be read raises something else. -/
theorem fetchAuthToken_unreadable {response : Answer} (unreadable : ¬LoginReadable response.toHttpAnswer) :
    ∃ raised, fetchAuthToken response.toHttpAnswer = .error raised ∧ ¬IsAuthError raised := by
  obtain ⟨answered,object⟩ := not_or.mp unreadable
  rw [fetchAuthToken,if_neg answered]
  cases read : response.json with
  | error known => exact ⟨known,rfl,response.undecoded known read⟩
  | ok body =>
    cases body with
    | obj fields =>
      have opened : Json.getD "tokenInfo" (.obj fields) (.obj []) = .ok (tokenInfoOf fields) := rfl
      simp only [ok_bind,pure_bind,opened]
      cases info : tokenInfoOf fields with
      | obj entries => exact absurd ⟨fields,read,by rw [info]; rfl⟩ object
      | _ => exact ⟨_,rfl,by simp [IsAuthError,Exn.attributeError]⟩
    | _ => exact ⟨_,rfl,by simp [IsAuthError,Exn.attributeError]⟩

theorem fetchAuthToken_within {response : Answer} :
    RaisesWithin IsAuthError (fetchAuthToken response.toHttpAnswer) ↔ LoginReadable response.toHttpAnswer := by
  constructor
  · intro within
    by_contra unreadable
    obtain ⟨raised,failed,other⟩ := fetchAuthToken_unreadable unreadable
    exact other (within raised failed)
  · rintro (refused | ⟨fields,body,info⟩)
    · rw [fetchAuthToken_refused refused]
      exact raisesWithin_error.mpr rfl
    · by_cases refused : 400 ≤ response.statusCode
      · rw [fetchAuthToken_refused refused]
        exact raisesWithin_error.mpr rfl
      · rw [fetchAuthToken_object refused body info]
        split
        · exact raisesWithin_ok _
        · exact raisesWithin_error.mpr rfl

theorem fetchAuthToken_ok {response : Answer} {token : String} :
    fetchAuthToken response.toHttpAnswer = .ok token ↔
      Granted response.toHttpAnswer ∧ token = authTokenOf response.toHttpAnswer := by
  constructor
  · intro ok
    have answered : ¬400 ≤ response.statusCode := by
      intro refused
      exact nomatch (fetchAuthToken_refused refused).symm.trans ok
    have readable : LoginReadable response.toHttpAnswer := by
      by_contra unreadable
      obtain ⟨raised,failed,_⟩ := fetchAuthToken_unreadable unreadable
      exact nomatch failed.symm.trans ok
    obtain ⟨fields,body,info⟩ := readable.resolve_left answered
    rw [fetchAuthToken_object answered body info] at ok
    split at ok
    next granted =>
      refine ⟨⟨Nat.lt_of_not_le answered,fields,body,info,granted⟩,?_⟩
      rw [authTokenOf,body,← Except.ok.inj ok]
    next => cases ok
  · rintro ⟨⟨answered,fields,body,info,granted⟩,rfl⟩
    rw [fetchAuthToken_object (Nat.not_le_of_lt answered) body info,if_pos granted,authTokenOf,body]

theorem authorizeLocation_redirected {limits : Limits} {response : HttpAnswer} {location : String}
    (redirected : Redirected response location) : authorizeLocation limits response = do
      let fragment ← Url.urlsplit limits.netlocFault location.toList
      if ((Url.parameters fragment).find "access_token").getD "" = "" then
        .error (authError ("OpenIAM authorize fragment had no access_token: " ++ Text.reprText (String.ofList fragment)))
      else do
        let expiresIn ← expiresIn (Url.parameters fragment)
        return (((Url.parameters fragment).find "access_token").getD "",expiresIn) := by
  rw [authorizeLocation,if_neg (not_not.mpr redirected.statusCode),redirected.sent]
  dsimp only
  rw [if_neg (not_not.mpr redirected.fragment)]

theorem authorizeLocation_direct (limits : Limits) {response : HttpAnswer} (direct : ∀ location, ¬Redirected response location) :
    ∃ message, authorizeLocation limits response = .error (authError message) := by
  rw [authorizeLocation]
  split
  next => exact ⟨_,rfl⟩
  next redirects =>
    split
    next => exact ⟨_,rfl⟩
    next location sent =>
      split
      next => exact ⟨_,rfl⟩
      next fragment => exact absurd ⟨not_not.mp redirects,sent,not_not.mp fragment⟩ (direct location)

theorem urlsplit_within {fault : List Char → Option String} {url : List Char} :
    RaisesWithin IsAuthError (Url.urlsplit fault url) ↔ Url.Splits fault url := by
  rw [Url.urlsplit,Url.Splits]
  split
  next unmatched => simp [unmatched,IsAuthError,Exn.valueError]
  next matched =>
    cases fault (Url.netloc url) with
    | some message => simp [IsAuthError,Exn.valueError]
    | none => simp [matched]

/-- What raises no authentication error stays within them only if it does not raise. -/
theorem within_succeeds {α : Type} {computation : Except Exn α}
    (other : ∀ raised, computation = .error raised → ¬IsAuthError raised) :
    RaisesWithin IsAuthError computation ↔ Succeeds computation := by
  cases computation with
  | ok value => simp
  | error raised => simpa using other raised rfl

theorem parseInt_other (text : String) (raised : Exn) (failed : Text.parseInt text = .error raised) :
    ¬IsAuthError raised := by
  rw [Text.parseInt] at failed
  split at failed
  dsimp only at failed
  split at failed
  next => simp [← Except.error.inj failed,IsAuthError,Exn.valueError]
  next =>
    split at failed
    next => simp [← Except.error.inj failed,IsAuthError,Exn.valueError]
    next => exact nomatch failed

theorem expiresIn_within {params : Dictionary String String} : RaisesWithin IsAuthError (expiresIn params) ↔
    ∀ text, params.find "expires_in" = some text → Succeeds (Text.parseInt text) := by
  rw [expiresIn]
  cases params.find "expires_in" with
  | none => simp
  | some text =>
    dsimp only
    rw [raisesWithin_bind,within_succeeds (parseInt_other text)]
    simp

theorem authorizeLocation_within {limits : Limits} {response : HttpAnswer} :
    RaisesWithin IsAuthError (authorizeLocation limits response) ↔ RedirectReadable limits response := by
  by_cases redirects : ∃ location, Redirected response location
  · obtain ⟨location,redirected⟩ := redirects
    have only : RedirectReadable limits response ↔ Url.Splits limits.netlocFault location.toList ∧
        (tokenOf location ≠ "" → ∀ text, (fragmentParams location).find "expires_in" = some text →
          Succeeds (Text.parseInt text)) := by
      constructor
      · intro readable
        exact readable location redirected
      · intro readable other again
        obtain rfl := again.unique redirected
        exact readable
    rw [only,authorizeLocation_redirected redirected,raisesWithin_bind,urlsplit_within]
    refine and_congr_right fun splits => ?_
    have read : ∀ part, Url.urlsplit limits.netlocFault location.toList = .ok part ↔ part = Url.fragment location.toList :=
      fun part => Url.urlsplit_ok.trans (and_iff_right splits)
    simp only [read,forall_eq]
    change RaisesWithin IsAuthError (if tokenOf location = "" then _ else _) ↔ _
    by_cases missing : tokenOf location = ""
    · rw [if_pos missing]
      exact iff_of_true (raisesWithin_error.mpr rfl) fun present => absurd missing present
    · rw [if_neg missing,raisesWithin_bind,expiresIn_within]
      simp [missing,fragmentParams]
  · obtain ⟨message,direct⟩ := authorizeLocation_direct limits (not_exists.mp redirects)
    rw [direct]
    exact iff_of_true (raisesWithin_error.mpr rfl) fun location redirected => absurd ⟨location,redirected⟩ redirects

theorem authorizeLocation_ok {limits : Limits} {response : HttpAnswer} {token : String} {lifetime : Option Int} :
    authorizeLocation limits response = .ok (token,lifetime) ↔ ∃ location, Redirected response location ∧
      Url.Splits limits.netlocFault location.toList ∧ token = tokenOf location ∧ token ≠ "" ∧
        expiresIn (fragmentParams location) = .ok lifetime := by
  constructor
  · intro ok
    have redirects : ∃ location, Redirected response location := by
      by_contra none
      obtain ⟨message,direct⟩ := authorizeLocation_direct limits (not_exists.mp none)
      cases direct.symm.trans ok
    obtain ⟨location,redirected⟩ := redirects
    rw [authorizeLocation_redirected redirected] at ok
    obtain ⟨part,split,ok⟩ := bind_success ok
    obtain ⟨splits,rfl⟩ := Url.urlsplit_ok.mp split
    change (if tokenOf location = "" then _ else _) = _ at ok
    split at ok
    next => cases ok
    next present =>
      obtain ⟨known,stated,ok⟩ := bind_success ok
      obtain ⟨rfl,rfl⟩ := Prod.mk.inj (pure_success ok)
      exact ⟨location,redirected,splits,rfl,present,stated⟩
  · rintro ⟨location,redirected,splits,rfl,present,stated⟩
    rw [authorizeLocation_redirected redirected]
    refine bind_ok.mpr ⟨_,Url.urlsplit_ok.mpr ⟨splits,rfl⟩,?_⟩
    change (if tokenOf location = "" then _ else _) = _
    rw [if_neg present]
    exact bind_ok.mpr ⟨lifetime,stated,rfl⟩

/-- Where the location splits, it gives what `authorize` reads from the parameters of its fragment. -/
theorem authorizeLocation_authorize {limits : Limits} {response : HttpAnswer} {location : String}
    (redirected : Redirected response location) (splits : Url.Splits limits.netlocFault location.toList)
    {result : String × Option Int} : authorizeLocation limits response = .ok result ↔
      authorize {response with params := fragmentParams location} = .ok result := by
  have read : Url.urlsplit limits.netlocFault location.toList = .ok (Url.fragment location.toList) :=
    Url.urlsplit_ok.mpr ⟨splits,rfl⟩
  rw [authorizeLocation_redirected redirected,read,ok_bind,authorize,if_neg (not_not.mpr redirected.statusCode),
    redirected.sent,← fragmentParams]
  dsimp only
  rw [if_neg (not_not.mpr redirected.fragment)]
  by_cases missing : ((fragmentParams location).find "access_token").getD "" = ""
  · rw [if_pos missing,if_pos missing]
    exact iff_of_false (fun ok => nomatch ok) (fun ok => nomatch ok)
  · rw [if_neg missing,if_neg missing]

/-! ### The expiry of the token info -/

abbrev OtherErrors {α : Type} (computation : Except Exn α) : Prop := RaisesWithin (fun raised => ¬IsAuthError raised) computation

theorem contains_other (key : String) (body : Json) : OtherErrors (body.contains key) := by
  cases body <;> simp [Json.contains,IsAuthError,Exn.typeError]

theorem item_other (key : String) (body : Json) : OtherErrors (body.item key) := by
  cases body with
  | obj fields =>
    rw [Json.item]
    cases Json.find key fields <;> simp [IsAuthError,Exn.keyError]
  | _ => simp [Json.item,IsAuthError,Exn.typeError]

theorem firstKey_other (body : Json) (keys : List String) : OtherErrors (firstKey body keys) := by
  induction keys with
  | nil => exact raisesWithin_ok none
  | cons key rest ih =>
    rw [firstKey,OtherErrors,raisesWithin_bind]
    refine ⟨contains_other key body,?_⟩
    intro present _
    cases present with
    | true => exact raisesWithin_bind.mpr ⟨item_other key body,fun _ _ => raisesWithin_pure _⟩
    | false => exact ih

theorem toInt_other (value : Json) : OtherErrors value.toInt := by
  cases value with
  | str text => exact parseInt_other text
  | float number =>
    rw [Json.toInt]
    split
    next => exact raisesWithin_ok _
    next => split <;> simp [IsAuthError,Exn.valueError]
  | _ => simp [Json.toInt,IsAuthError,Exn.typeError]

theorem firstKey_object (fields : List (String × Json)) (keys : List String) : firstKey (.obj fields) keys =
    .ok (keys.findSome? fun key => (Json.find key fields).map fun value => (key,value)) := by
  induction keys with
  | nil => rfl
  | cons key rest ih =>
    rw [firstKey,Json.contains,List.findSome?_cons]
    cases found : Json.find key fields with
    | none => exact ih
    | some value =>
      have item : Json.item key (.obj fields) = .ok value := by rw [Json.item,found]
      change (Json.item key (.obj fields) >>= fun value => pure (some (key,value))) = _
      rw [item]
      rfl

theorem contains_items (items : List Json) (key : String) :
    Json.contains key (.arr items) = .ok (items.any (Json.isText key)) := rfl

theorem contains_text (text key : String) : Json.contains key (.str text) = .ok (decide (key.toList <:+: text.toList)) := rfl

/-- A list or a text that holds a key has no item under it. -/
theorem firstKey_plain {body : Json} {present : String → Bool} (asked : ∀ key, body.contains key = .ok (present key))
    (bare : ∀ key, ¬Succeeds (body.item key)) (keys : List String) {found : Option (String × Json)} :
    firstKey body keys = .ok found ↔ (∀ key ∈ keys, present key = false) ∧ found = none := by
  induction keys with
  | nil =>
    rw [firstKey,Except.ok.injEq,eq_comm]
    simp
  | cons key rest ih =>
    rw [firstKey,asked,ok_bind,List.forall_mem_cons]
    cases present key with
    | true =>
      refine iff_of_false ?_ (by simp)
      intro ok
      obtain ⟨value,item,_⟩ := bind_success ok
      exact bare key ⟨value,item⟩
    | false =>
      refine ih.trans ?_
      simp

/-- The expiry that the body of a token info states. -/
def expiryOf (body : Json) : Except Exn (Option Int) := do
  match ← firstKey body expiryKeys with
  | none => return none
  | some (_,value) =>
    let seconds ← value.toInt
    return some seconds

theorem introspectExpiry_answered {response : HttpAnswer} (answered : ¬400 ≤ response.statusCode) :
    introspectExpiry response = response.json >>= expiryOf := by
  rw [introspectExpiry,if_neg answered]
  rfl

theorem expiryOf_other (body : Json) : OtherErrors (expiryOf body) := by
  refine raisesWithin_bind.mpr ⟨firstKey_other body expiryKeys,?_⟩
  intro found _
  cases found with
  | none => exact raisesWithin_pure none
  | some entry => exact raisesWithin_bind.mpr ⟨toInt_other entry.2,fun _ _ => raisesWithin_pure _⟩

theorem expiryOf_object (fields : List (String × Json)) : expiryOf (.obj fields) = match expiryField fields with
    | none => pure none
    | some value => value.toInt >>= fun seconds => pure (some seconds) := by
  have field : expiryField fields = (expiryKeys.findSome? fun key =>
      (Json.find key fields).map fun value => (key,value)).map Prod.snd := by
    rw [expiryField,List.map_findSome?]
    refine congrArg (fun read => expiryKeys.findSome? read) (funext fun key => ?_)
    rw [Function.comp_apply,Option.map_map]
    exact Option.map_id'.symm
  rw [expiryOf,firstKey_object,ok_bind,field]
  cases expiryKeys.findSome? fun key => (Json.find key fields).map fun value => (key,value) with
  | none => rfl
  | some entry => rfl

theorem expiryOf_plain {body : Json} {present : String → Bool} (asked : ∀ key, body.contains key = .ok (present key))
    (bare : ∀ key, ¬Succeeds (body.item key)) : Succeeds (expiryOf body) ↔ ∀ key ∈ expiryKeys, present key = false := by
  rw [expiryOf,succeeds_bind]
  constructor
  · rintro ⟨found,first,_⟩
    exact ((firstKey_plain asked bare expiryKeys).mp first).1
  · intro absent
    exact ⟨none,(firstKey_plain asked bare expiryKeys).mpr ⟨absent,rfl⟩,succeeds_pure none⟩

theorem expiryOf_none {body : Json} {present : String → Bool} {lifetime : Option Int}
    (asked : ∀ key, body.contains key = .ok (present key)) (bare : ∀ key, ¬Succeeds (body.item key))
    (ok : expiryOf body = .ok lifetime) : lifetime = none := by
  obtain ⟨found,first,ok⟩ := bind_success ok
  obtain ⟨_,rfl⟩ := (firstKey_plain asked bare expiryKeys).mp first
  exact (pure_success ok).symm

theorem expiryOf_succeeds (body : Json) : Succeeds (expiryOf body) ↔ ExpiryReadable body := by
  cases body with
  | obj fields =>
    rw [expiryOf_object,ExpiryReadable]
    cases expiryField fields with
    | none => simp
    | some value =>
      dsimp only
      rw [succeeds_return]
      simp
  | arr items => exact expiryOf_plain (contains_items items) (fun _ => succeeds_error _)
  | str text =>
    rw [expiryOf_plain (contains_text text) (fun _ => succeeds_error _),ExpiryReadable]
    simp only [decide_eq_false_iff_not]
  | _ => exact iff_of_false (succeeds_error _) id

theorem introspectExpiry_succeeds {response : HttpAnswer} : Succeeds (introspectExpiry response) ↔ InfoReadable response := by
  rw [InfoReadable]
  by_cases refused : 400 ≤ response.statusCode
  · rw [introspectExpiry,if_pos refused]
    exact iff_of_true (succeeds_pure _) (Or.inl refused)
  rw [introspectExpiry_answered refused,or_iff_right refused,succeeds_bind]
  simp only [expiryOf_succeeds]

theorem introspectExpiry_within {response : Answer} :
    RaisesWithin IsAuthError (introspectExpiry response.toHttpAnswer) ↔ InfoReadable response.toHttpAnswer := by
  refine (within_succeeds ?_).trans introspectExpiry_succeeds
  by_cases refused : 400 ≤ response.statusCode
  · rw [introspectExpiry,if_pos refused]
    exact raisesWithin_pure none
  · rw [introspectExpiry_answered refused]
    exact raisesWithin_bind.mpr ⟨response.undecoded,fun body _ => expiryOf_other body⟩

/-! ### What the answers give -/

def lifetimeFrom (accessToken : String) : Option Int → Except Exn (Option Int)
  | some seconds => pure (some seconds)
  | none => do
    permitted (limits.paramFault accessToken)
    let response ← received limits answers.info
    introspectExpiry response

/-- The token and the lifetime to keep it for. -/
def obtained : Except Exn (String × Int) := do
  let login ← received limits answers.login
  let authToken ← fetchAuthToken login
  permitted (limits.headerFault (bearer authToken))
  let redirect ← received limits answers.redirect
  let (accessToken,expiresIn) ← authorizeLocation limits redirect
  let expiresIn ← lifetimeFrom limits answers accessToken expiresIn
  return (accessToken,effectiveTtl settings expiresIn)

def infoSeconds (response : HttpAnswer) : Option Int :=
  if 400 ≤ response.statusCode then none
  else match response.json with
    | .ok (.obj fields) => (expiryField fields).bind fun value => value.toInt.toOption
    | _ => none

/-- The lifetime in seconds that the location states, or else the token info. -/
def statedSeconds (location : String) (info : HttpAnswer) : Option Int :=
  match (fragmentParams location).find "expires_in" with
  | some text => (Text.parseInt text).toOption
  | none => infoSeconds info

/-- A lifetime that a float and Redis can hold. -/
def Fits (ttl : Int) : Prop := ttl < floatLimit ∧ ttl ≤ limits.longestExpiry

/-- The HTTP client takes the answer. -/
def Taken (answer : Answer) : Prop := limits.answerFault answer.toHttpAnswer = none

/-- What is asked for can be sent, its answer can be taken and read, and the lifetime fits. -/
structure Readable : Prop where
  loginTaken : Taken limits answers.login
  login : LoginReadable answers.login.toHttpAnswer
  authorized : Granted answers.login.toHttpAnswer → limits.headerFault (bearer (authTokenOf answers.login.toHttpAnswer)) = none
  redirectTaken : Granted answers.login.toHttpAnswer → Taken limits answers.redirect
  redirect : Granted answers.login.toHttpAnswer → RedirectReadable limits answers.redirect.toHttpAnswer
  info : Granted answers.login.toHttpAnswer → ∀ location, Redirected answers.redirect.toHttpAnswer location →
    tokenOf location ≠ "" → (fragmentParams location).find "expires_in" = none →
      limits.paramFault (tokenOf location) = none ∧ Taken limits answers.info ∧ InfoReadable answers.info.toHttpAnswer
  lifetime : Granted answers.login.toHttpAnswer → ∀ location, Redirected answers.redirect.toHttpAnswer location →
    tokenOf location ≠ "" → Fits limits (effectiveTtl settings (statedSeconds location answers.info.toHttpAnswer))

variable {settings limits answers}

theorem expiresIn_ok {params : Dictionary String String} {lifetime : Option Int} (ok : expiresIn params = .ok lifetime) :
    (params.find "expires_in" = none ∧ lifetime = none) ∨ ∃ text seconds, params.find "expires_in" = some text ∧
      Text.parseInt text = .ok seconds ∧ lifetime = some seconds := by
  rw [expiresIn] at ok
  cases stated : params.find "expires_in" with
  | none =>
    rw [stated] at ok
    exact Or.inl ⟨rfl,(Except.ok.inj ok).symm⟩
  | some text =>
    rw [stated] at ok
    obtain ⟨seconds,read,ok⟩ := bind_success ok
    exact Or.inr ⟨text,seconds,rfl,read,(pure_success ok).symm⟩

theorem introspectExpiry_ok {response : HttpAnswer} {lifetime : Option Int} (ok : introspectExpiry response = .ok lifetime) :
    lifetime = infoSeconds response := by
  rw [infoSeconds]
  by_cases refused : 400 ≤ response.statusCode
  · rw [introspectExpiry,if_pos refused] at ok
    rw [if_pos refused]
    exact (pure_success ok).symm
  rw [introspectExpiry_answered refused] at ok
  rw [if_neg refused]
  obtain ⟨body,read,ok⟩ := bind_success ok
  rw [read]
  cases body with
  | obj fields =>
    rw [expiryOf_object] at ok
    dsimp only
    cases stated : expiryField fields with
    | none =>
      rw [stated] at ok
      exact (pure_success ok).symm
    | some value =>
      rw [stated] at ok
      obtain ⟨seconds,known,ok⟩ := bind_success ok
      rw [← pure_success ok,Option.bind_some,known]
      rfl
  | arr items => exact expiryOf_none (contains_items items) (fun _ => succeeds_error _) ok
  | str text => exact expiryOf_none (contains_text text) (fun _ => succeeds_error _) ok
  | _ => exact nomatch ok

theorem permitted_within {α : Type} {fault : Option Exn} {next : Unit → Except Exn α}
    (foreign : ∀ raised, fault = some raised → ¬IsAuthError raised) :
    RaisesWithin IsAuthError (permitted fault >>= next) ↔ fault = none ∧ RaisesWithin IsAuthError (next ()) := by
  cases fault with
  | none => exact (and_iff_right rfl).symm
  | some raised => exact iff_of_false (fun within => foreign raised rfl (within raised rfl)) fun known => nomatch known.1

theorem received_ok {answer : Answer} {response : HttpAnswer} :
    received limits answer = .ok response ↔ Taken limits answer ∧ response = answer.toHttpAnswer := by
  rw [received,Taken]
  cases limits.answerFault answer.toHttpAnswer with
  | none =>
    refine Iff.trans ?_ (and_iff_right rfl).symm
    exact ⟨fun ok => (pure_success ok).symm,fun same => by rw [same]; rfl⟩
  | some raised => exact iff_of_false (fun ok => nomatch ok) fun known => nomatch known.1

theorem received_within {α : Type} {answer : Answer} {next : HttpAnswer → Except Exn α} :
    RaisesWithin IsAuthError (received limits answer >>= next) ↔
      Taken limits answer ∧ RaisesWithin IsAuthError (next answer.toHttpAnswer) := by
  rw [received,bind_assoc]
  exact permitted_within fun raised => limits.answerForeign answer.toHttpAnswer raised

theorem permitted_ok {fault : Option Exn} : permitted fault = .ok () ↔ fault = none := by
  cases fault <;> simp [permitted]

theorem lifetimeFrom_within {accessToken : String} : RaisesWithin IsAuthError (lifetimeFrom limits answers accessToken none) ↔
    limits.paramFault accessToken = none ∧ Taken limits answers.info ∧ InfoReadable answers.info.toHttpAnswer := by
  rw [lifetimeFrom,permitted_within (limits.paramForeign accessToken),received_within,introspectExpiry_within]

theorem lifetimeFrom_info {accessToken : String} {lifetime : Option Int}
    (ok : lifetimeFrom limits answers accessToken none = .ok lifetime) :
    introspectExpiry answers.info.toHttpAnswer = .ok lifetime := by
  obtain ⟨_,_,ok⟩ := bind_success ok
  obtain ⟨response,taken,ok⟩ := bind_success ok
  rwa [(received_ok.mp taken).2] at ok

theorem obtained_within : RaisesWithin IsAuthError (obtained settings limits answers) ↔
    Taken limits answers.login ∧ LoginReadable answers.login.toHttpAnswer ∧ (Granted answers.login.toHttpAnswer →
      limits.headerFault (bearer (authTokenOf answers.login.toHttpAnswer)) = none ∧ Taken limits answers.redirect ∧
      RedirectReadable limits answers.redirect.toHttpAnswer ∧ ∀ location, Redirected answers.redirect.toHttpAnswer location →
        tokenOf location ≠ "" → (fragmentParams location).find "expires_in" = none →
          limits.paramFault (tokenOf location) = none ∧ Taken limits answers.info ∧
            InfoReadable answers.info.toHttpAnswer) := by
  rw [obtained,received_within,raisesWithin_bind,fetchAuthToken_within]
  refine and_congr_right fun _ => and_congr_right fun _ => ?_
  simp only [fetchAuthToken_ok,and_imp,forall_eq_apply_imp_iff]
  refine imp_congr_right fun _ => ?_
  rw [permitted_within (limits.headerForeign _),received_within,raisesWithin_bind,authorizeLocation_within]
  refine and_congr_right fun _ => and_congr_right fun _ => and_congr_right fun readable => ?_
  constructor
  · intro within location redirected present unstated
    have ok : authorizeLocation limits answers.redirect.toHttpAnswer = .ok (tokenOf location,none) := by
      refine authorizeLocation_ok.mpr ⟨location,redirected,(readable location redirected).1,rfl,present,?_⟩
      rw [expiresIn,unstated]
    have rest := within _ ok
    exact lifetimeFrom_within.mp (raisesWithin_bind.mp rest).1
  · rintro info ⟨token,lifetime⟩ ok
    obtain ⟨location,redirected,_,rfl,present,stated⟩ := authorizeLocation_ok.mp ok
    refine raisesWithin_bind.mpr ⟨?_,fun _ _ => raisesWithin_pure _⟩
    cases lifetime with
    | some seconds => exact raisesWithin_pure _
    | none =>
      rcases expiresIn_ok stated with ⟨unstated,_⟩ | ⟨_,_,_,_,stated⟩
      · exact lifetimeFrom_within.mpr (info location redirected present unstated)
      · cases stated

/-- What is obtained is the token of the location, for the stated lifetime. -/
theorem obtained_ok {token : String} {ttl : Int} (ok : obtained settings limits answers = .ok (token,ttl)) :
    Granted answers.login.toHttpAnswer ∧ ∃ location, Redirected answers.redirect.toHttpAnswer location ∧
      tokenOf location ≠ "" ∧ ttl = effectiveTtl settings (statedSeconds location answers.info.toHttpAnswer) := by
  rw [obtained] at ok
  obtain ⟨login,taken,ok⟩ := bind_success ok
  obtain ⟨_,rfl⟩ := received_ok.mp taken
  obtain ⟨session,granted,ok⟩ := bind_success ok
  obtain ⟨_,_,ok⟩ := bind_success ok
  obtain ⟨redirect,taken,ok⟩ := bind_success ok
  obtain ⟨_,rfl⟩ := received_ok.mp taken
  obtain ⟨⟨accessToken,stated⟩,authorized,ok⟩ := bind_success ok
  obtain ⟨location,redirected,_,rfl,present,read⟩ := authorizeLocation_ok.mp authorized
  obtain ⟨lifetime,known,ok⟩ := bind_success ok
  obtain ⟨_,rfl⟩ := Prod.mk.inj (pure_success ok)
  refine ⟨(fetchAuthToken_ok.mp granted).1,location,redirected,present,?_⟩
  rw [statedSeconds]
  rcases expiresIn_ok read with ⟨unstated,rfl⟩ | ⟨text,seconds,asked,whole,rfl⟩
  · rw [unstated,introspectExpiry_ok (lifetimeFrom_info known)]
  · rw [asked,← pure_success known]
    dsimp only
    rw [whole]
    rfl

/-- With answers that can be read, a granted redirect with a token gives it. -/
theorem obtained_readable (within : RaisesWithin IsAuthError (obtained settings limits answers)) {location : String}
    (granted : Granted answers.login.toHttpAnswer) (redirected : Redirected answers.redirect.toHttpAnswer location)
    (present : tokenOf location ≠ "") : ∃ token, obtained settings limits answers =
      .ok (token,effectiveTtl settings (statedSeconds location answers.info.toHttpAnswer)) := by
  obtain ⟨loginTaken,_,readable⟩ := obtained_within.mp within
  obtain ⟨sent,redirectTaken,redirect,info⟩ := readable granted
  obtain ⟨splits,whole⟩ := redirect location redirected
  have stated : Succeeds (expiresIn (fragmentParams location) >>= lifetimeFrom limits answers (tokenOf location)) := by
    rw [expiresIn]
    cases asked : (fragmentParams location).find "expires_in" with
    | none =>
      obtain ⟨asks,taken,read⟩ := info location redirected present asked
      obtain ⟨lifetime,ok⟩ := introspectExpiry_succeeds.mpr read
      have sent : lifetimeFrom limits answers (tokenOf location) none = .ok lifetime :=
        bind_ok.mpr ⟨(),permitted_ok.mpr asks,bind_ok.mpr ⟨_,received_ok.mpr ⟨taken,rfl⟩,ok⟩⟩
      exact ⟨lifetime,sent⟩
    | some text =>
      obtain ⟨seconds,read⟩ := whole present text asked
      dsimp only
      rw [read]
      exact succeeds_ok _
  obtain ⟨lifetime,first,later,rest⟩ := succeeds_bind.mp stated
  have authorized := authorizeLocation_ok.mpr ⟨location,redirected,splits,rfl,present,first⟩
  have ok : obtained settings limits answers = .ok (tokenOf location,effectiveTtl settings later) := by
    rw [obtained,received_ok.mpr ⟨loginTaken,rfl⟩,ok_bind,fetchAuthToken_ok.mpr ⟨granted,rfl⟩,ok_bind,permitted_ok.mpr sent,
      ok_bind,received_ok.mpr ⟨redirectTaken,rfl⟩,ok_bind,authorized,ok_bind]
    dsimp only
    rw [rest]
    rfl
  obtain ⟨_,other,again,_,ttl⟩ := obtained_ok ok
  obtain rfl := redirected.unique again
  exact ⟨_,by rw [ok,ttl]⟩

/-! ### What the call leaves behind -/

/-- The token, its expiry and the entries of Redis are as before. -/
structure Unchanged (before after : Process) : Prop where
  accessToken : after.accessToken = before.accessToken
  expiresAt : after.expiresAt = before.expiresAt
  token : after.token = before.token
  cookies : after.cookies = before.cookies

namespace Unchanged

theorem trans (first middle last : Process) (early : Unchanged first middle) (late : Unchanged middle last) :
    Unchanged first last :=
  ⟨late.accessToken.trans early.accessToken,late.expiresAt.trans early.expiresAt,late.token.trans early.token,
    late.cookies.trans early.cookies⟩

theorem refl (process : Process) : Unchanged process process := ⟨rfl,rfl,rfl,rfl⟩

end Unchanged

/-- The program does not raise. -/
def Answering {α : Type} (program : Refresh α) : Prop := ∀ process, Succeeds (program.answer process)

theorem Answering.bind {α β : Type} {first : Refresh α} {next : α → Refresh β} (here : Answering first)
    (later : ∀ value, Answering (next value)) : Answering (first >>= next) := by
  intro process
  rw [Effect.answer_bind,succeeds_bind]
  obtain ⟨value,ok⟩ := here process
  exact ⟨value,ok,later value _⟩

/-- The program raises authentication errors only, and then leaves everything as it was. -/
def FailsUniformly {α : Type} (program : Refresh α) : Prop := ∀ process raised,
  program.answer process = .error raised → IsAuthError raised ∧ Unchanged process (program.after process)

namespace FailsUniformly
variable {α β : Type}

/-- A program that begins with steps which always answer and change nothing. -/
theorem after {first : Refresh α} {next : α → Refresh β} (answers : Answering first)
    (keeps : Always Unchanged first) (rest : ∀ value, FailsUniformly (next value)) : FailsUniformly (first >>= next) := by
  intro process raised failed
  obtain ⟨value,ok⟩ := answers process
  rw [Effect.answer_bind,ok] at failed
  obtain ⟨auth,unchanged⟩ := rest value _ raised failed
  refine ⟨auth,Unchanged.trans _ _ _ (keeps process) ?_⟩
  have ran : (first >>= next).after process = (next value).after (first.after process) := by
    rw [Effect.after,Effect.bind_answered (show first.exec process = (.ok value,first.after process) from Prod.ext ok rfl)]
    rfl
  rw [ran]
  exact unchanged

theorem of_answering {program : Refresh α} (answers : Answering program) : FailsUniformly program := by
  intro process raised failed
  obtain ⟨value,ok⟩ := answers process
  exact nomatch ok.symm.trans failed

end FailsUniformly

variable (settings limits answers)

/-- The part of the login that talks to the server. -/
def requestToken : Refresh (String × Int) := do
  Effect.update fun process => {process with jar := []}
  let authToken ← fetchAuthToken (← asked limits answers.login)
  permitted (limits.headerFault (bearer authToken))
  let (accessToken,expiresIn) ← authorizeLocation limits (← asked limits answers.redirect)
  let expiresIn ← stated limits answers accessToken expiresIn
  return (accessToken,effectiveTtl settings expiresIn)

/-- The part that keeps the token. -/
def storeToken (accessToken : String) (effectiveTtl : Int) : Refresh Unit := do
  Effect.update fun process => {process with accessToken := some accessToken}
  let now ← monotonic
  let expiresAt ← addSeconds now effectiveTtl
  Effect.update fun process => {process with expiresAt := expiresAt}
  let cookies ← Effect.read fun process => process.jar.cookies
  ensureConnected
  setEntry limits accessToken effectiveTtl fun entry process => {process with token := entry}
  setEntry limits cookies effectiveTtl fun entry process => {process with cookies := entry}

theorem loginAndAuthorize_eq : loginAndAuthorize settings limits answers =
    requestToken settings limits answers >>= fun token => storeToken limits token.1 token.2 := by
  simp only [loginAndAuthorize,requestToken,storeToken,Effect.bind_assoc]
  rfl

theorem stated_answer (accessToken : String) (expiresIn : Option Int) (process : Process) :
    (stated limits answers accessToken expiresIn).answer process = lifetimeFrom limits answers accessToken expiresIn := by
  cases expiresIn with
  | some seconds => rfl
  | none =>
    have answered : ∀ answer process, (asked limits answer).answer process = received limits answer := fun _ _ => rfl
    simp only [stated,lifetimeFrom,Effect.answer_bind,Effect.answer_lift,answered]

theorem stated_keeps (accessToken : String) (expiresIn : Option Int) : Always Unchanged (stated limits answers accessToken expiresIn) := by
  cases expiresIn with
  | some seconds => exact fun process => Unchanged.refl process
  | none =>
    refine Always.bind Unchanged.trans (fun _ => Unchanged.refl _) fun _ => ?_
    exact Always.bind Unchanged.trans (fun _ => ⟨rfl,rfl,rfl,rfl⟩) (fun _ => Unchanged.refl)

theorem requestToken_answer (process : Process) :
    (requestToken settings limits answers).answer process = obtained settings limits answers := by
  have cleared : ∀ change : Process → Process, (Effect.update change : Refresh Unit).answer process = .ok () := fun _ => rfl
  have answered : ∀ answer process, (asked limits answer).answer process = received limits answer := fun _ _ => rfl
  simp only [requestToken,obtained,Effect.answer_bind,cleared,answered,ok_bind,Effect.answer_lift,stated_answer,
    Effect.answer_pure]

theorem requestToken_keeps : Always Unchanged (requestToken settings limits answers) := by
  refine Always.bind Unchanged.trans (fun _ => ⟨rfl,rfl,rfl,rfl⟩) fun _ => ?_
  refine Always.bind Unchanged.trans (fun _ => ⟨rfl,rfl,rfl,rfl⟩) fun login => ?_
  refine Always.bind Unchanged.trans (fun _ => Unchanged.refl _) fun session => ?_
  refine Always.bind Unchanged.trans (fun _ => Unchanged.refl _) fun _ => ?_
  refine Always.bind Unchanged.trans (fun _ => ⟨rfl,rfl,rfl,rfl⟩) fun redirect => ?_
  refine Always.bind Unchanged.trans (fun _ => Unchanged.refl _) fun authorized => ?_
  exact Always.bind Unchanged.trans (stated_keeps limits answers _ _) (fun _ => Unchanged.refl)

theorem storeToken_fits (accessToken : String) {effectiveTtl : Int} (fits : Fits limits effectiveTtl) (process : Process) :
    ∃ after, (storeToken limits accessToken effectiveTtl).exec process = (.ok (),after) ∧
      after.accessToken = some accessToken := by
  have finite : ∀ now, addSeconds now effectiveTtl = .ok (now + effectiveTtl) := fun _ => if_neg (not_le.mpr fits.1)
  simp only [storeToken,setEntry,finite,if_neg (not_lt.mpr fits.2)]
  exact ⟨_,rfl,rfl⟩

/-- A lifetime that does not fit is refused when the token has been replaced. -/
theorem storeToken_exceeds (accessToken : String) {effectiveTtl : Int} (exceeds : ¬Fits limits effectiveTtl)
    (process : Process) : ∃ raised after, (storeToken limits accessToken effectiveTtl).exec process = (.error raised,after) ∧
      ¬IsAuthError raised ∧ after.accessToken = some accessToken := by
  by_cases large : floatLimit ≤ effectiveTtl
  · have overflows : ∀ now, addSeconds now effectiveTtl = .error ⟨.overflowError,"int too large to convert to float"⟩ :=
      fun _ => if_pos large
    simp only [storeToken,overflows]
    exact ⟨_,_,rfl,by simp [IsAuthError],rfl⟩
  · have finite : ∀ now, addSeconds now effectiveTtl = .ok (now + effectiveTtl) := fun _ => if_neg large
    have long : limits.longestExpiry < effectiveTtl := by
      by_contra short
      exact exceeds ⟨not_le.mp large,not_lt.mp short⟩
    simp only [storeToken,setEntry,finite,if_pos long]
    exact ⟨_,_,rfl,by simp [IsAuthError],rfl⟩

/-- The login leaves everything as it was up to where it keeps the token. -/
theorem loginAndAuthorize_exec (process : Process) : ∃ middle, Unchanged process middle ∧
    (loginAndAuthorize settings limits answers).exec process = match obtained settings limits answers with
      | .error raised => (.error raised,middle)
      | .ok token => (storeToken limits token.1 token.2).exec middle := by
  refine ⟨(requestToken settings limits answers).after process,requestToken_keeps settings limits answers process,?_⟩
  have ran : (requestToken settings limits answers).exec process =
      (obtained settings limits answers,(requestToken settings limits answers).after process) :=
    Prod.ext (requestToken_answer settings limits answers process) rfl
  rw [loginAndAuthorize_eq,Effect.bind_exec,ran]
  cases obtained settings limits answers <;> rfl

def loggedInToken : Refresh String := do
  loginAndAuthorize settings limits answers
  match ← Effect.read Process.accessToken with
  | some token => return token
  | none => throw ⟨.assertionError,""⟩

theorem loggedInToken_uniform (within : RaisesWithin IsAuthError (obtained settings limits answers))
    (fits : ∀ token ttl, obtained settings limits answers = .ok (token,ttl) → Fits limits ttl) :
    FailsUniformly (loggedInToken settings limits answers) := by
  intro process raised failed
  obtain ⟨middle,unchanged,ran⟩ := loginAndAuthorize_exec settings limits answers process
  cases got : obtained settings limits answers with
  | error known =>
    rw [got] at ran
    have stopped := Effect.bind_raised ran fun _ => do
      match ← Effect.read Process.accessToken with
      | some token => return token
      | none => throw ⟨.assertionError,""⟩
    change (loggedInToken settings limits answers).exec process = _ at stopped
    rw [Effect.answer,stopped] at failed
    obtain rfl := Except.error.inj failed
    rw [Effect.after,stopped]
    exact ⟨within known got,unchanged⟩
  | ok token =>
    obtain ⟨after,stored,kept⟩ := storeToken_fits limits token.1 (fits token.1 token.2 got) middle
    rw [got] at ran
    rw [loggedInToken,Effect.answer,Effect.bind_answered (ran.trans stored),Effect.bind_answered (Effect.read_exec _ _),kept]
      at failed
    cases failed

theorem loggedInToken_failed {raised : Exn} (failed : obtained settings limits answers = .error raised) (process : Process) :
    (loggedInToken settings limits answers).answer process = .error raised := by
  obtain ⟨middle,_,ran⟩ := loginAndAuthorize_exec settings limits answers process
  rw [failed] at ran
  rw [loggedInToken,Effect.answer,Effect.bind_raised ran]

theorem loggedInToken_exceeds {token : String} {ttl : Int} (got : obtained settings limits answers = .ok (token,ttl))
    (exceeds : ¬Fits limits ttl) (process : Process) :
    ∃ raised, (loggedInToken settings limits answers).answer process = .error raised ∧ ¬IsAuthError raised := by
  obtain ⟨middle,_,ran⟩ := loginAndAuthorize_exec settings limits answers process
  obtain ⟨raised,after,stored,other,_⟩ := storeToken_exceeds limits token exceeds middle
  rw [got] at ran
  refine ⟨raised,?_,other⟩
  rw [loggedInToken,Effect.answer,Effect.bind_raised (ran.trans stored)]

/-- A client that holds nothing, over an empty Redis. -/
def idle : Process := ⟨fun _ => 0,0,[],none,0,none,none⟩

theorem getAccessToken_idle : (getAccessToken settings limits answers).exec idle =
    (loggedInToken settings limits answers).exec {idle with ticks := 4} := by
  rw [getAccessToken]
  rfl

theorem freshToken_exec (process : Process) : freshToken.exec process =
    (.ok (if process.times process.ticks < process.expiresAt then process.accessToken else none),
      {process with ticks := process.ticks + 1}) := by
  rw [freshToken]
  by_cases early : process.times process.ticks < process.expiresAt
  · rw [if_pos early]
    simp [Effect.bind_exec,monotonic,early]
  · rw [if_neg early]
    simp [Effect.bind_exec,monotonic,early]

theorem freshToken_answers : Answering freshToken := by
  intro process
  rw [Effect.answer,freshToken_exec]
  exact succeeds_ok _

theorem freshToken_keeps : Always Unchanged freshToken := by
  intro process
  rw [freshToken_exec]
  exact ⟨rfl,rfl,rfl,rfl⟩

theorem restoreCachedCookies_keeps : Always Unchanged restoreCachedCookies := by
  refine Always.bind Unchanged.trans (fun _ => ⟨rfl,rfl,rfl,rfl⟩) fun now => ?_
  intro process
  rw [Effect.update_exec]
  cases live now process.cookies with
  | none => exact Unchanged.refl process
  | some entry => exact ⟨rfl,rfl,rfl,rfl⟩

theorem readCachedToken_keeps : Always Unchanged readCachedToken := by
  refine Always.bind Unchanged.trans (fun _ => ⟨rfl,rfl,rfl,rfl⟩) fun _ => ?_
  refine Always.bind Unchanged.trans (fun _ => ⟨rfl,rfl,rfl,rfl⟩) fun now => ?_
  refine Always.bind Unchanged.trans (fun _ => Unchanged.refl _) fun token => ?_
  cases live now token with
  | none => exact fun process => Unchanged.refl process
  | some entry =>
    refine Always.bind Unchanged.trans (fun _ => ⟨rfl,rfl,rfl,rfl⟩) fun later => ?_
    refine Always.bind Unchanged.trans (fun _ => Unchanged.refl _) fun again => ?_
    cases live later again with
    | none => exact fun process => Unchanged.refl process
    | some left => exact Always.bind Unchanged.trans restoreCachedCookies_keeps fun _ => Unchanged.refl

theorem readCachedToken_answers : Answering readCachedToken := by
  refine Answering.bind (fun _ => succeeds_ok ()) fun _ => Answering.bind (fun _ => succeeds_ok _) fun now => ?_
  refine Answering.bind (fun _ => succeeds_ok _) fun token => ?_
  cases live now token with
  | none => exact fun _ => succeeds_ok none
  | some entry =>
    refine Answering.bind (fun _ => succeeds_ok _) fun later => Answering.bind (fun _ => succeeds_ok _) fun again => ?_
    cases live later again with
    | none => exact fun _ => succeeds_ok none
    | some left => exact Answering.bind (fun _ => succeeds_ok ()) fun _ _ => succeeds_ok _

theorem getAccessToken_uniform (login : FailsUniformly (loggedInToken settings limits answers)) :
    FailsUniformly (getAccessToken settings limits answers) := by
  refine FailsUniformly.after freshToken_answers freshToken_keeps fun held => ?_
  cases held with
  | some token => exact FailsUniformly.of_answering fun _ => succeeds_pure token
  | none =>
    refine FailsUniformly.after freshToken_answers freshToken_keeps fun held => ?_
    cases held with
    | some token => exact FailsUniformly.of_answering fun _ => succeeds_pure token
    | none =>
      refine FailsUniformly.after readCachedToken_answers readCachedToken_keeps fun cached => ?_
      cases cached with
      | some found => exact FailsUniformly.of_answering fun _ => succeeds_pure found.1
      | none => exact login

/-- A refresh fails uniformly exactly when its requests can be sent, the answers can be read and the lifetime
fits. -/
theorem refresh_uniform_iff : FailsUniformly (getAccessToken settings limits answers) ↔ Readable settings limits answers := by
  constructor
  · intro uniform
    have within : RaisesWithin IsAuthError (obtained settings limits answers) := by
      intro raised failed
      refine (uniform idle raised ?_).1
      rw [Effect.answer,getAccessToken_idle]
      exact loggedInToken_failed settings limits answers failed _
    obtain ⟨taken,login,readable⟩ := obtained_within.mp within
    refine ⟨taken,login,fun granted => (readable granted).1,fun granted => (readable granted).2.1,
      fun granted => (readable granted).2.2.1,fun granted => (readable granted).2.2.2,?_⟩
    intro granted location redirected present
    obtain ⟨token,got⟩ := obtained_readable within granted redirected present
    by_contra exceeds
    obtain ⟨raised,failed,other⟩ := loggedInToken_exceeds settings limits answers got exceeds {idle with ticks := 4}
    refine other (uniform idle raised ?_).1
    rw [Effect.answer,getAccessToken_idle]
    exact failed
  · rintro ⟨loginTaken,login,authorized,redirectTaken,redirect,info,lifetime⟩
    refine getAccessToken_uniform settings limits answers (loggedInToken_uniform settings limits answers ?_ ?_)
    · exact obtained_within.mpr ⟨loginTaken,login,fun granted =>
        ⟨authorized granted,redirectTaken granted,redirect granted,info granted⟩⟩
    · intro token ttl got
      obtain ⟨granted,location,redirected,present,rfl⟩ := obtained_ok got
      exact lifetime granted location redirected present

/-! ### A login without token info -/

/-- A header value of printable ASCII is sent. -/
def sampleLimits : Limits where
  headerFault value := if value.toList.all fun c => ' ' ≤ c && c ≤ '~' then none else some ⟨.other "UnicodeEncodeError",""⟩
  paramFault _ := none
  answerFault _ := none
  headerForeign value raised fault := by
    rw [← Option.some.inj (Option.ite_none_left_eq_some.mp fault).2]
    exact nofun
  paramForeign _ _ fault := nomatch fault
  answerForeign _ _ fault := nomatch fault
  netlocFault _ := none
  longestExpiry := 9223372036854775

def emptyAnswer : Answer where
  statusCode := 200
  text := ""
  json := .ok (.obj [])
  location := none
  params := []
  setCookies := []
  undecoded := fun _ failed => nomatch failed

/-- The token info of the login is null. -/
def nullTokenInfo : Answers where
  login := {emptyAnswer with
    json := .ok (.obj [("status",.int 200),("tokenInfo",.null)])
    undecoded := fun _ failed => nomatch failed}
  redirect := emptyAnswer
  info := emptyAnswer

/-- The refresh raises `AttributeError`. -/
theorem null_token_info_raised : (getAccessToken ⟨60,0⟩ sampleLimits nullTokenInfo).answer idle =
      .error (Exn.attributeError "NoneType" "get") ∧
    ¬FailsUniformly (getAccessToken ⟨60,0⟩ sampleLimits nullTokenInfo) := by
  have failed : (getAccessToken ⟨60,0⟩ sampleLimits nullTokenInfo).answer idle =
      .error (Exn.attributeError "NoneType" "get") := by
    rw [Effect.answer,getAccessToken_idle]
    exact loggedInToken_failed _ _ _ rfl _
  refine ⟨failed,?_⟩
  intro uniform
  exact absurd (uniform idle _ failed).1 (by simp [IsAuthError,Exn.attributeError])

end AccessAgent.OpenIAMTokenClient
