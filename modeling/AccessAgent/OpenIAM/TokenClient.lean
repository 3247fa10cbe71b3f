import AccessAgent.Python.Number
import AccessAgent.Semantics.Dictionary
import AccessAgent.Semantics.Transition
import Mathlib.Algebra.Order.Ring.Rat

/-! Token clients that share one Redis (`app/connectors/openiam/token_client.py`), as a
transition system. Code between two awaits is one step; the environment answers the
awaited calls or lets them fail, as a request does that cannot be sent, and lets time
pass. What a login is about, its session cookies and the expiry its server communicated,
is carried along with its token. -/

namespace AccessAgent.OpenIAMTokenClient
open Semantics

/-! ### Cookies -/

abbrev Jar := Dictionary String (Dictionary String (Dictionary String String))

abbrev Cookies := Dictionary String String

namespace Jar

def lookup (jar : Jar) (domain path name : String) : Option String := do
  (← (← jar.find domain).find path).find name

def set (jar : Jar) (domain path name value : String) : Jar :=
  let paths := (jar.find domain).getD []
  let names := (paths.find path).getD []
  Dictionary.set domain (Dictionary.set path (Dictionary.set name value names) paths) jar

def remove (jar : Jar) (domain path name : String) : Jar :=
  jar.map fun (host,paths) => if host = domain then (host,paths.map fun (route,names) =>
    if route = path then (route,names.filter (fun entry => entry.1 ≠ name)) else (route,names)) else (host,paths)

def pairs (jar : Jar) : List (String × String) := jar.values.flatMap fun paths => paths.values.flatten

def cookies (jar : Jar) : Cookies := Dictionary.ofPairs jar.pairs

/-- `cookies.set(name, value)` for each of the cookies: no domain, the root path. -/
def restore (jar : Jar) (cookies : Cookies) : Jar :=
  cookies.foldl (fun jar pair => jar.set "" "/" pair.1 pair.2) jar

end Jar

/-! ### HTTP answers -/

structure CookieUpdate where
  domain : String
  path : String
  name : String
  value : Option String

/-- An answer; `params` is what `dict(parse_qsl(fragment))` reads from the fragment of
the location. -/
structure HttpAnswer where
  statusCode : Nat
  text : String
  json : Except Exn Json
  location : Option String
  params : Dictionary String String
  setCookies : List CookieUpdate

def Jar.apply (jar : Jar) (update : CookieUpdate) : Jar :=
  match update.value with
  | some value => jar.set update.domain update.path update.name value
  | none => jar.remove update.domain update.path update.name

def Jar.extract (jar : Jar) (answer : HttpAnswer) : Jar := answer.setCookies.foldl Jar.apply jar

def authError (message : String) : Exn := ⟨.openIAMAuthError,message⟩

def fetchAuthToken (response : HttpAnswer) : Except Exn String := do
  if 400 ≤ response.statusCode then
    throw (authError ("OpenIAM login failed: " ++ toString response.statusCode ++ " " ++ response.text))
  let body ← response.json
  let tokenInfo ← body.getD "tokenInfo" (.obj [])
  let authToken ← tokenInfo.get "authToken"
  let status ← if authToken.truthy then body.get "status" else pure .null
  if status.number = some (some 200) then return authToken.pyStr
  else throw (authError ("OpenIAM login returned no authToken: " ++ body.pyStr))

def fragmentOf (location : String) : String := String.ofList (location.toList.dropWhile (· != '#')).tail

def expiresIn (params : Dictionary String String) : Except Exn (Option Int) :=
  match params.find "expires_in" with
  | none => .ok none
  | some text => do
    let seconds ← Text.parseInt text
    return some seconds

def authorize (response : HttpAnswer) : Except Exn (String × Option Int) :=
  if response.statusCode ≠ 302 then
    .error (authError ("OpenIAM authorize did not redirect: " ++ toString response.statusCode ++ " " ++ response.text))
  else match response.location with
    | none => .error (authError "OpenIAM authorize redirect had no fragment: None")
    | some location =>
      if '#' ∉ location.toList then
        .error (authError ("OpenIAM authorize redirect had no fragment: " ++ Text.reprText location))
      else
        let accessToken := (response.params.find "access_token").getD ""
        if accessToken = "" then
          .error (authError ("OpenIAM authorize fragment had no access_token: " ++
            Text.reprText (fragmentOf location)))
        else do
          let expiresIn ← expiresIn response.params
          return (accessToken,expiresIn)

def firstKey (body : Json) : List String → Except Exn (Option (String × Json))
  | [] => .ok none
  | key::rest => do
    if ← body.contains key then
      let value ← body.item key
      return some (key,value)
    else firstKey body rest

def expiryKeys : List String := ["expires_in","expiresIn","exp"]

def introspectExpiry (response : HttpAnswer) : Except Exn (Option Int) := do
  if 400 ≤ response.statusCode then return none
  let body ← response.json
  match ← firstKey body expiryKeys with
  | none => return none
  | some (_,value) =>
    let seconds ← value.toInt
    return some seconds

/-! ### What a login is about -/

/-- The lifetime that a server states: in seconds from now, or as an epoch second. -/
inductive Lifetime
  | remaining (seconds : Rat)
  | absolute (epochSecond : Rat)

def redirectLifetime (response : HttpAnswer) : Option Lifetime :=
  match response.params.find "expires_in" with
  | some text => (Json.str text).quantity.map .remaining
  | none => none

def infoLifetime (response : HttpAnswer) : Option Lifetime :=
  if 400 ≤ response.statusCode then none
  else match response.json with
    | .error _ => none
    | .ok body => match firstKey body expiryKeys with
      | .ok (some (key,value)) => value.quantity.map (if key = "exp" then .absolute else .remaining)
      | _ => none

def Lifetime.expiry (epoch now : Rat) : Lifetime → Option Rat
  | .remaining seconds => if 0 < seconds then some (now + seconds) else none
  | .absolute epochSecond => if epoch + now < epochSecond then some (epochSecond - epoch) else none

/-- A login that minted a token, with the name and value of each of its session cookies and the
expiry its server communicated. -/
structure Login where
  token : String
  session : List (String × String)
  expiry : Option Rat
deriving DecidableEq

/-! ### The shared store and the clients -/

structure Entry (α : Type) where
  value : α
  expiresAt : Rat

def live {α : Type} (now : Rat) (key : Option (Entry α)) : Option (Entry α) :=
  key.filter fun entry => now < entry.expiresAt

/-- Session cookies as they are stored, with the login that stored them. -/
structure StoredCookies where
  cookies : Cookies
  writer : Login

structure Redis where
  token : Option (Entry Login)
  cookies : Option (Entry StoredCookies)

structure Held where
  login : Login
  expiresAt : Rat
  cached : Bool

structure Minted where
  login : Login
  cookies : Cookies
  effectiveTtl : Int

/-- Where the caller that holds the lock awaits an answer. -/
inductive Stage
  | connecting
  | readingToken
  | readingTtl (found : Login)
  | readingCookies (found : Login) (ttl : Rat)
  | loggingIn
  | authorizing (session : Jar)
  | introspecting (session : Jar) (token : String)
  | reconnecting (minted : Minted)
  | storingToken (minted : Minted)
  | storingCookies (minted : Minted)

structure Client (ι : Type) where
  jar : Jar
  held : Option Held
  inside : Option (ι × Stage)
  waiting : List ι

inductive Reply
  | failed
  | done
  | answered (answer : HttpAnswer)

structure Returned where
  login : Login
  cached : Bool
deriving DecidableEq

structure Settings where
  refreshMarginSeconds : Nat
  epoch : Rat

def fallbackTokenTtlSeconds : Int := 300

def effectiveTtl (settings : Settings) (expiresIn : Option Int) : Int :=
  max (expiresIn.getD fallbackTokenTtlSeconds - settings.refreshMarginSeconds) 1

variable {ι : Type}

namespace Client

def reach (client : Client ι) (caller : ι) (stage : Stage) : Client ι := {client with inside := some (caller,stage)}

def leave (client : Client ι) : Client ι := {client with inside := none}

def fresh (client : Client ι) (now : Rat) : Option Held := client.held.filter fun held => now < held.expiresAt

def login (client : Client ι) (caller : ι) : Client ι := {client with jar := []}.reach caller .loggingIn

def minted (client : Client ι) (settings : Settings) (now : Rat) (caller : ι) (session : Jar) (token : String)
    (expiresIn : Option Int) (lifetime : Option Lifetime) : Client ι :=
  let login : Login := ⟨token,session.pairs,lifetime.bind (Lifetime.expiry settings.epoch now)⟩
  let ttl := effectiveTtl settings expiresIn
  {client with held := some ⟨login,now + ttl,false⟩}.reach caller (.reconnecting ⟨login,client.jar.cookies,ttl⟩)

end Client

structure Progress (ι : Type) where
  redis : Redis
  client : Client ι
  returned : Option Returned

/-- The caller inside gets its answer and runs on to its next await. -/
def proceed (settings : Settings) (now : Rat) (redis : Redis) (client : Client ι) (caller : ι) :
    Stage → Reply → Option (Progress ι)
  | _,.failed => some ⟨redis,client.leave,none⟩
  | .connecting,.done => some ⟨redis,client.reach caller .readingToken,none⟩
  | .readingToken,.done => match live now redis.token with
    | some entry => some ⟨redis,client.reach caller (.readingTtl entry.value),none⟩
    | none => some ⟨redis,client.login caller,none⟩
  | .readingTtl found,.done => match live now redis.token with
    -- the ttl is exact, so a key that is still there has a positive one
    | some entry => some ⟨redis,client.reach caller (.readingCookies found (entry.expiresAt - now)),none⟩
    | none => some ⟨redis,client.login caller,none⟩
  | .readingCookies found ttl,.done =>
    -- the jar keeps what it held: it is cleared by a login only
    let jar := match live now redis.cookies with
      | some entry => client.jar.restore entry.value.cookies
      | none => client.jar
    some ⟨redis,{client with jar := jar,held := some ⟨found,now + ttl,true⟩}.leave,some ⟨found,true⟩⟩
  | .loggingIn,.answered answer =>
    -- an error answer sets its cookies too
    let client := {client with jar := client.jar.extract answer}
    match fetchAuthToken answer with
    | .ok _ => some ⟨redis,client.reach caller (.authorizing (Jar.extract [] answer)),none⟩
    | .error _ => some ⟨redis,client.leave,none⟩
  | .authorizing session,.answered answer =>
    let client := {client with jar := client.jar.extract answer}
    let session := session.extract answer
    match authorize answer with
    | .ok (token,some expiresIn) =>
      some ⟨redis,client.minted settings now caller session token (some expiresIn) (redirectLifetime answer),none⟩
    | .ok (token,none) => some ⟨redis,client.reach caller (.introspecting session token),none⟩
    | .error _ => some ⟨redis,client.leave,none⟩
  | .introspecting session token,.answered answer =>
    let client := {client with jar := client.jar.extract answer}
    let session := session.extract answer
    match introspectExpiry answer with
    | .ok expiresIn =>
      some ⟨redis,client.minted settings now caller session token expiresIn (infoLifetime answer),none⟩
    | .error _ => some ⟨redis,client.leave,none⟩
  | .reconnecting minted,.done => some ⟨redis,client.reach caller (.storingToken minted),none⟩
  | .storingToken minted,.done =>
    some ⟨{redis with token := some ⟨minted.login,now + minted.effectiveTtl⟩},
      client.reach caller (.storingCookies minted),none⟩
  | .storingCookies minted,.done =>
    some ⟨{redis with cookies := some ⟨⟨minted.cookies,minted.login⟩,now + minted.effectiveTtl⟩},
      client.leave,client.held.map fun held => ⟨held.login,held.cached⟩⟩
  | _,_ => none

/-! ### The system -/

structure System (κ ι : Type) where
  now : Rat
  redis : Redis
  clients : κ → Client ι

inductive Action (κ ι : Type)
  | advance (duration : Rat)
  | call (process : κ) (caller : ι)
  | enter (process : κ) (caller : ι)
  | reply (process : κ) (reply : Reply)

variable {κ : Type} [DecidableEq κ] [DecidableEq ι]

namespace System

def update (system : System κ ι) (process : κ) (client : Client ι) : System κ ι :=
  {system with clients := Function.update system.clients process client}

def step (settings : Settings) (system : System κ ι) : Action κ ι → Option (System κ ι × Option (κ × Returned))
  | .advance duration => if 0 ≤ duration then some ({system with now := system.now + duration},none) else none
  | .call process caller =>
    let client := system.clients process
    match client.fresh system.now with
    | some held => some (system,some (process,⟨held.login,held.cached⟩))
    | none => some (system.update process {client with waiting := client.waiting ++ [caller]},none)
  | .enter process caller =>
    let client := system.clients process
    if caller ∈ client.waiting ∧ client.inside.isNone then
      let client := {client with waiting := client.waiting.erase caller}
      match client.fresh system.now with
      | some held => some (system.update process client,some (process,⟨held.login,held.cached⟩))
      | none => some (system.update process (client.reach caller .connecting),none)
    else none
  | .reply process reply =>
    match (system.clients process).inside with
    | none => none
    | some (caller,stage) =>
      match proceed settings system.now system.redis (system.clients process) caller stage reply with
      | none => none
      | some progress => some ({system with redis := progress.redis}.update process progress.client,
          progress.returned.map fun returned => (process,returned))

def start : System κ ι := ⟨0,⟨none,none⟩,fun _ => ⟨[],none,none,[]⟩⟩

end System

end AccessAgent.OpenIAMTokenClient
