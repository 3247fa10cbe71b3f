import AccessAgent.OpenIAM.TokenRuns

/-! Tokens and session cookies: when a client that takes a token from Redis also holds
the cookies of the login that minted it. -/

namespace AccessAgent.OpenIAMTokenClient
open Semantics

/-! ### The jar -/

namespace Jar

theorem set_lookup (jar : Jar) (domain path name value d p n : String) :
    (jar.set domain path name value).lookup d p n =
      if domain = d ∧ path = p ∧ name = n then some value else jar.lookup d p n := by
  simp only [set,lookup,Dictionary.find_set,Option.bind_eq_bind]
  by_cases host : domain = d
  · subst host
    rw [if_pos rfl,Option.bind_some,Dictionary.find_set]
    by_cases route : path = p
    · subst route
      rw [if_pos rfl,Option.bind_some,Dictionary.find_set]
      by_cases same : name = n
      · simp [same]
      · rw [if_neg same,if_neg (by simp [same])]
        cases jar.find domain with
        | none => rfl
        | some paths => cases known : paths.find path <;> simp [known]
    · rw [if_neg route,if_neg (by simp [route])]
      cases jar.find domain <;> rfl
  · rw [if_neg host,if_neg (by simp [host])]

theorem restore_lookup (jar : Jar) (cookies : Cookies) (distinct : cookies.keys.Nodup) (d p n : String) :
    (jar.restore cookies).lookup d p n =
      if d = "" ∧ p = "/" then (cookies.find n).or (jar.lookup d p n) else jar.lookup d p n := by
  induction cookies generalizing jar with
  | nil => simp [restore]
  | cons entry rest ih =>
    obtain ⟨name,value⟩ := entry
    obtain ⟨new,later⟩ := List.nodup_cons.mp distinct
    have step : jar.restore ((name,value)::rest) = (jar.set "" "/" name value).restore rest := rfl
    rw [step,ih _ later,set_lookup]
    by_cases root : d = "" ∧ p = "/"
    · obtain ⟨rfl,rfl⟩ := root
      by_cases same : name = n
      · subst same
        have absent : Dictionary.find name rest = none := by
          rw [← Option.not_isSome_iff_eq_none,← Dictionary.mem_keys]
          exact new
        simp [absent,Dictionary.find]
      · simp [same,Dictionary.find]
    · have other : ¬("" = d ∧ "/" = p ∧ name = n) := fun same => root ⟨same.1.symm,same.2.1.symm⟩
      rw [if_neg root,if_neg root,if_neg other]

/-- No two of the cookies have one name. -/
def Distinct (session : List (String × String)) : Prop := (session.map Prod.fst).Nodup

/-- The cookies of the jar are those of the session, by name and value. -/
def Holds (jar : Jar) (session : List (String × String)) : Prop :=
  ∀ name value, (∃ domain path, jar.lookup domain path name = some value) ↔ (name,value) ∈ session

/-- Every cookie of the jar is one of the session, or one that restoring the session overwrites. -/
def Own (jar : Jar) (session : List (String × String)) : Prop :=
  ∀ host ∈ jar, ∀ route ∈ host.2, ∀ cookie ∈ route.2, cookie ∈ session ∨
    (host.1 = "" ∧ route.1 = "/" ∧ cookie.1 ∈ session.map Prod.fst)

instance (session : List (String × String)) : Decidable (Distinct session) :=
  inferInstanceAs (Decidable (List.Nodup _))

instance (jar : Jar) (session : List (String × String)) : Decidable (jar.Own session) :=
  inferInstanceAs (Decidable (∀ host ∈ jar, ∀ route ∈ host.2, ∀ cookie ∈ route.2, _))

theorem mem_of_lookup {jar : Jar} {domain path name value : String} (found : jar.lookup domain path name = some value) :
    ∃ host ∈ jar, host.1 = domain ∧ ∃ route ∈ host.2, route.1 = path ∧ (name,value) ∈ route.2 := by
  simp only [lookup,Option.bind_eq_bind,Option.bind_eq_some_iff] at found
  obtain ⟨paths,inDomain,names,inPath,named⟩ := found
  exact ⟨(domain,paths),Dictionary.mem_of_find inDomain,rfl,(path,names),Dictionary.mem_of_find inPath,rfl,
    Dictionary.mem_of_find named⟩

theorem restore_holds {jar : Jar} {session : List (String × String)} {cookies : Cookies} (unique : cookies.keys.Nodup)
    (lossless : ∀ name value, cookies.find name = some value ↔ (name,value) ∈ session) (own : jar.Own session) :
    (jar.restore cookies).Holds session := by
  intro name value
  constructor
  · intro present
    obtain ⟨domain,path,found⟩ := present
    rw [restore_lookup jar cookies unique] at found
    have outside : ∀ stored, jar.lookup domain path name = some stored →
        (name,stored) ∈ session ∨ (domain = "" ∧ path = "/" ∧ name ∈ session.map Prod.fst) := by
      intro stored old
      obtain ⟨host,inJar,rfl,route,inHost,rfl,cookie⟩ := mem_of_lookup old
      exact own host inJar route inHost _ cookie
    split at found
    next root =>
      cases known : cookies.find name with
      | some restored =>
        rw [known,Option.some_or] at found
        rw [← Option.some.inj found]
        exact (lossless name restored).mp known
      | none =>
        rw [known,Option.none_or] at found
        rcases outside value found with same | ⟨_,_,member⟩
        · exact same
        · obtain ⟨cookie,stored,rfl⟩ := List.mem_map.mp member
          have restored := (lossless _ cookie.2).mpr stored
          rw [known] at restored
          cases restored
    next elsewhere =>
      rcases outside value found with same | ⟨host,route,_⟩
      · exact same
      · exact absurd ⟨host,route⟩ elsewhere
  · intro stored
    refine ⟨"","/",?_⟩
    rw [restore_lookup jar cookies unique,if_pos ⟨rfl,rfl⟩,(lossless name value).mpr stored]
    rfl

end Jar

variable {κ ι : Type}

/-! ### What is kept -/

def Minted.Sealed (minted : Minted) : Prop := minted.cookies = Dictionary.ofPairs minted.login.session

def Redis.Sealed (redis : Redis) : Prop := ∀ entry, redis.cookies = some entry →
  entry.value.cookies = Dictionary.ofPairs entry.value.writer.session

namespace Client

/-- Until a login is minted nothing is fresh; from the first answer on the jar is the
session of the login, and a minted token is not a cached one. -/
def PairedAt (now : Rat) (client : Client ι) : Stage → Prop
  | .loggingIn => client.fresh now = none ∧ client.jar = []
  | .authorizing session => client.fresh now = none ∧ client.jar = session
  | .introspecting session _ => client.fresh now = none ∧ client.jar = session
  | .reconnecting minted => (∀ held, client.held = some held → held.cached = false) ∧ minted.Sealed
  | .storingToken minted => (∀ held, client.held = some held → held.cached = false) ∧ minted.Sealed
  | .storingCookies minted => (∀ held, client.held = some held → held.cached = false) ∧ minted.Sealed
  | _ => client.fresh now = none

structure Paired (now : Rat) (client : Client ι) : Prop where
  held : ∀ held, client.fresh now = some held → held.cached = true → client.jar.Holds held.login.session
  inside : ∀ caller stage, client.inside = some (caller,stage) → client.PairedAt now stage

theorem pairedAt_later {now later : Rat} {client : Client ι} {stage : Stage} (order : now ≤ later)
    (paired : client.PairedAt now stage) : client.PairedAt later stage := by
  cases stage with
  | connecting => exact stale_later order paired
  | readingToken => exact stale_later order paired
  | readingTtl => exact stale_later order paired
  | readingCookies => exact stale_later order paired
  | loggingIn => exact ⟨stale_later order paired.1,paired.2⟩
  | authorizing => exact ⟨stale_later order paired.1,paired.2⟩
  | introspecting => exact ⟨stale_later order paired.1,paired.2⟩
  | reconnecting => exact paired
  | storingToken => exact paired
  | storingCookies => exact paired

theorem paired_later {now later : Rat} {client : Client ι} (order : now ≤ later) (paired : client.Paired now) :
    client.Paired later where
  held held fresh := paired.held held (fresh_earlier order fresh)
  inside caller stage inside := pairedAt_later order (paired.inside caller stage inside)

theorem paired_leave {now : Rat} {client : Client ι} (held : ∀ held, client.fresh now = some held →
    held.cached = true → client.jar.Holds held.login.session) : client.leave.Paired now where
  held := held
  inside _ _ inside := absurd inside (by simp [leave])

theorem paired_stale {now : Rat} {client : Client ι} (stale : client.fresh now = none) (held : Held)
    (fresh : client.fresh now = some held) : held.cached = true → client.jar.Holds held.login.session := by
  rw [stale] at fresh
  exact absurd fresh (by simp)

theorem paired_reach {now : Rat} {client : Client ι} {caller : ι} {stage : Stage}
    (held : ∀ held, client.fresh now = some held → held.cached = true → client.jar.Holds held.login.session)
    (reached : client.PairedAt now stage) : (client.reach caller stage).Paired now where
  held := held
  inside named at' inside := by
    obtain ⟨rfl,rfl⟩ := Prod.mk.inj (Option.some.inj inside)
    cases stage <;> exact reached

theorem paired_login {now : Rat} {client : Client ι} {caller : ι} (stale : client.fresh now = none) :
    (client.login caller).Paired now := by
  apply paired_reach
  · exact paired_stale stale
  · exact ⟨stale,rfl⟩

theorem paired_minted {settings : Settings} {now : Rat} {client : Client ι} {caller : ι} {session : Jar}
    {token : String} {expiresIn : Option Int} {lifetime : Option Lifetime} (same : client.jar = session) :
    (client.minted settings now caller session token expiresIn lifetime).Paired now := by
  have direct : ∀ held, some (⟨⟨token,session.pairs,lifetime.bind (Lifetime.expiry settings.epoch now)⟩,
      now + effectiveTtl settings expiresIn,false⟩ : Held) = some held → held.cached = false := by
    intro held known
    rw [← Option.some.inj known]
  apply paired_reach
  · intro held fresh cached
    rw [direct held (fresh_some.mp fresh).1] at cached
    exact absurd cached (by simp)
  · refine ⟨direct,?_⟩
    rw [Minted.Sealed,same]
    rfl

end Client

/-- The cookies key was written by a login with the session of the found one, whose cookies have
distinct names, and the jar holds nothing foreign to it. -/
def Matched (now : Rat) (redis : Redis) (jar : Jar) (found : Login) : Prop :=
  (∃ entry ∈ live now redis.cookies, entry.value.writer.session.Perm found.session) ∧ Jar.Distinct found.session ∧
    jar.Own found.session

section
variable {settings : Settings} {now : Rat} {redis : Redis} {client : Client ι} {caller : ι} {progress : Progress ι}

def PairedProgress (now : Rat) (progress : Progress ι) : Prop :=
  progress.redis.Sealed ∧ progress.client.Paired now ∧ ∀ returned, progress.returned = some returned →
    returned.cached = true → progress.client.jar.Holds returned.login.session

theorem paired_silent (sealed : redis.Sealed) (paired : client.Paired now) :
    PairedProgress now (⟨redis,client,none⟩ : Progress ι) :=
  ⟨sealed,paired,by simp⟩

theorem matched_restored {found : Login} {ttl : Rat} (sealed : redis.Sealed)
    (matched : Matched now redis client.jar found)
    (proceeded : proceed settings now redis client caller (.readingCookies found ttl) .done = some progress) :
    PairedProgress now progress := by
  obtain ⟨⟨entry,stored,same⟩,distinct,own⟩ := matched
  have written : Jar.Distinct entry.value.writer.session := (same.map Prod.fst).nodup_iff.mpr distinct
  have lossless : ∀ name value, (Dictionary.ofPairs entry.value.writer.session).find name = some value ↔
      (name,value) ∈ found.session := fun name value => (Dictionary.find_ofPairs written name value).trans same.mem_iff
  have cookies := sealed entry (live_some.mp stored).1
  rw [Option.mem_def] at stored
  simp only [proceed,stored,cookies] at proceeded
  rw [← Option.some.inj proceeded]
  have restored := Jar.restore_holds (Dictionary.keys_ofPairs_nodup _) lossless own
  refine ⟨sealed,?_,?_⟩
  · apply Client.paired_leave
    intro held fresh _
    rw [← Option.some.inj (Client.fresh_some.mp fresh).1]
    exact restored
  · intro returned known _
    rw [← Option.some.inj known]
    exact restored

theorem answered_paired {stage : Stage} {answer : HttpAnswer} (sealed : redis.Sealed)
    (at_stage : client.PairedAt now stage)
    (proceeded : proceed settings now redis client caller stage (.answered answer) = some progress) :
    PairedProgress now progress := by
  cases stage with
  | loggingIn =>
    obtain ⟨stale,empty⟩ := at_stage
    simp only [proceed] at proceeded
    split at proceeded <;> rw [← Option.some.inj proceeded] <;> apply paired_silent sealed
    next =>
      apply Client.paired_reach
      · exact Client.paired_stale stale
      · exact ⟨stale,by rw [empty]⟩
    next => exact Client.paired_leave (Client.paired_stale stale)
  | authorizing session =>
    obtain ⟨stale,same⟩ := at_stage
    simp only [proceed] at proceeded
    have extracted : client.jar.extract answer = session.extract answer := by rw [same]
    split at proceeded <;> rw [← Option.some.inj proceeded] <;> apply paired_silent sealed
    next => exact Client.paired_minted extracted
    next =>
      apply Client.paired_reach
      · exact Client.paired_stale stale
      · exact ⟨stale,extracted⟩
    next => exact Client.paired_leave (Client.paired_stale stale)
  | introspecting session token =>
    obtain ⟨stale,same⟩ := at_stage
    simp only [proceed] at proceeded
    have extracted : client.jar.extract answer = session.extract answer := by rw [same]
    split at proceeded <;> rw [← Option.some.inj proceeded] <;> apply paired_silent sealed
    next => exact Client.paired_minted extracted
    next => exact Client.paired_leave (Client.paired_stale stale)
  | _ => simp [proceed] at proceeded

theorem done_paired {stage : Stage} (sealed : redis.Sealed) (paired : client.Paired now)
    (at_stage : client.PairedAt now stage)
    (matched : ∀ found ttl, stage = .readingCookies found ttl → Matched now redis client.jar found)
    (proceeded : proceed settings now redis client caller stage .done = some progress) :
    PairedProgress now progress := by
  cases stage with
  | connecting =>
    simp only [proceed] at proceeded
    rw [← Option.some.inj proceeded]
    exact paired_silent sealed (Client.paired_reach paired.held at_stage)
  | readingToken =>
    simp only [proceed] at proceeded
    split at proceeded <;> rw [← Option.some.inj proceeded] <;> apply paired_silent sealed
    next => exact Client.paired_reach paired.held at_stage
    next => exact Client.paired_login at_stage
  | readingTtl found =>
    simp only [proceed] at proceeded
    split at proceeded <;> rw [← Option.some.inj proceeded] <;> apply paired_silent sealed
    next => exact Client.paired_reach paired.held at_stage
    next => exact Client.paired_login at_stage
  | readingCookies found ttl => exact matched_restored sealed (matched found ttl rfl) proceeded
  | reconnecting minted =>
    simp only [proceed] at proceeded
    rw [← Option.some.inj proceeded]
    exact paired_silent sealed (Client.paired_reach paired.held at_stage)
  | storingToken minted =>
    simp only [proceed] at proceeded
    rw [← Option.some.inj proceeded]
    exact paired_silent sealed (Client.paired_reach paired.held at_stage)
  | storingCookies minted =>
    obtain ⟨direct,cookies⟩ := at_stage
    simp only [proceed] at proceeded
    rw [← Option.some.inj proceeded]
    refine ⟨?_,Client.paired_leave paired.held,?_⟩
    · intro entry stored
      rw [← Option.some.inj stored]
      exact cookies
    · intro returned known cached
      obtain ⟨held,holding,same⟩ := Option.map_eq_some_iff.mp known
      rw [← same,direct held holding] at cached
      exact absurd cached (by simp)
  | _ => simp [proceed] at proceeded

end

/-! ### Runs -/

variable [DecidableEq κ] [DecidableEq ι]

def Client.restoring (client : Client ι) : Option Login :=
  match client.inside with
  | some (_,.readingCookies found _) => some found
  | _ => none

/-- Cookies are restored to the token they were stored with. -/
def RestoresMatched (system : System κ ι) (action : Action κ ι) : Prop :=
  ∀ process ∈ action.done, ∀ found ∈ (system.clients process).restoring,
    Matched system.now system.redis (system.clients process).jar found

instance (now : Rat) (redis : Redis) (jar : Jar) (found : Login) : Decidable (Matched now redis jar found) :=
  inferInstanceAs (Decidable (_ ∧ _))

instance (system : System κ ι) (action : Action κ ι) : Decidable (RestoresMatched system action) :=
  inferInstanceAs (Decidable (∀ process ∈ action.done, ∀ found ∈ (system.clients process).restoring,
    Matched system.now system.redis (system.clients process).jar found))

def pairing (settings : Settings) : Guarantee settings (@RestoresMatched κ ι) where
  store _ redis := redis.Sealed
  client now client := client.Paired now
  returns _ client returned := returned.cached = true → client.jar.Holds returned.login.session
  starts := ⟨by simp [Redis.Sealed],⟨by simp [Client.fresh],by simp⟩⟩
  ages _ _ forward _ sealed paired := ⟨sealed,fun process => Client.paired_later (le_add_of_nonneg_right forward) (paired process)⟩
  queues _ _ _ paired := ⟨paired.held,fun caller stage inside => by
    have at_stage := paired.inside caller stage inside
    cases stage <;> exact at_stage⟩
  connects _ _ _ _ _ stale := Client.paired_reach (Client.paired_stale stale) stale
  serves _ _ held paired fresh := paired.held held fresh
  proceeds system process reply caller stage progress matched sealed paired inside proceeded := by
    have at_stage := paired.inside caller stage inside
    cases reply with
    | failed =>
      simp only [proceed] at proceeded
      rw [← Option.some.inj proceeded]
      exact paired_silent sealed (Client.paired_leave paired.held)
    | answered answer => exact answered_paired sealed at_stage proceeded
    | done =>
      apply done_paired sealed paired at_stage ?_ proceeded
      intro found ttl same
      apply matched process rfl
      simp [Client.restoring,inside,same]

/-- A run whose restorations are all matched returns no cached token without the session
cookies of the login that minted it, and no other cookies beside them. -/
theorem cached_token_with_its_session (settings : Settings) {before after : System κ ι} {action : Action κ ι}
    {process : κ} {returned : Returned}
    (reached : Reaches (System.step settings) RestoresMatched System.start before)
    (admitted : RestoresMatched before action)
    (taken : before.step settings action = some (after,some (process,returned))) (cached : returned.cached = true) :
    (after.clients process).jar.Holds returned.login.session :=
  (pairing settings).returned reached admitted taken cached

/-! ### Two processes -/

private def sharedLogin : Login := ⟨"t1",[("SESSION","s1")],some 600⟩

private def tokenStored : List (Action Bool Unit) :=
  [.call false (),.enter false (),.reply false .done,.reply false .done,.reply false (.answered loggedIn),
    .reply false (.answered (redirected (some "600"))),.reply false .done,.reply false .done]

private def tokenRead : List (Action Bool Unit) :=
  [.call true (),.enter true (),.reply true .done,.reply true .done,.reply true .done]

theorem cached_token_with_its_session_stored : ∃ before after : System Bool Unit,
    before.step sampleSettings (.reply true .done) = some (after,some (true,⟨sharedLogin,true⟩)) ∧
      (after.clients true).jar.Holds sharedLogin.session := by
  have ran : ((execute (System.step sampleSettings) RestoresMatched (tokenStored ++ .reply false .done::tokenRead)
      System.start).bind fun reached => (reached.1.step sampleSettings (.reply true .done)).map fun next =>
        (decide (RestoresMatched reached.1 (.reply true .done)),next.2)) =
      some (true,some (true,⟨sharedLogin,true⟩)) := by decide +kernel
  obtain ⟨⟨before,_⟩,run,stepped⟩ := Option.bind_eq_some_iff.mp ran
  obtain ⟨⟨after,_⟩,taken,same⟩ := Option.map_eq_some_iff.mp stepped
  obtain ⟨matched,rfl⟩ := Prod.mk.inj same
  exact ⟨before,after,taken,cached_token_with_its_session sampleSettings (reaches_execute .start run)
    (of_decide_eq_true matched) taken rfl⟩

/-- Between the writes of the token and of its cookies another process returns the token
with an empty jar. -/
theorem cached_token_without_session : ∃ (before after : System Bool Unit) (returned : Returned),
    Reaches (System.step sampleSettings) (fun _ _ => True) System.start before ∧
      before.step sampleSettings (.reply true .done) = some (after,some (true,returned)) ∧ returned.cached = true ∧
      ¬(after.clients true).jar.Holds returned.login.session := by
  have ran : ((execute (System.step sampleSettings) (fun _ _ => True) (tokenStored ++ tokenRead)
      System.start).bind fun reached => (reached.1.step sampleSettings (.reply true .done)).map fun next =>
        (next.2,(next.1.clients true).jar.isEmpty)) = some (some (true,⟨sharedLogin,true⟩),true) := by decide +kernel
  obtain ⟨⟨before,_⟩,run,stepped⟩ := Option.bind_eq_some_iff.mp ran
  obtain ⟨⟨after,_⟩,taken,same⟩ := Option.map_eq_some_iff.mp stepped
  obtain ⟨rfl,empty⟩ := Prod.mk.inj same
  refine ⟨before,after,_,reaches_execute .start run,taken,rfl,?_⟩
  intro holds
  obtain ⟨domain,path,found⟩ := (holds "SESSION" "s1").mpr (by decide)
  rw [List.isEmpty_iff.mp empty] at found
  exact absurd found (by simp [Jar.lookup])

end AccessAgent.OpenIAMTokenClient
