import AccessAgent.OpenIAM.TokenRuns
import Mathlib.Data.Fintype.Basic
import Mathlib.Tactic.Linarith

/-! Tokens and their expiry, where calls take no time: a token is held and stored no longer
than its server communicated, so long as no lifetime is misread and none is mistaken for
that of another token. -/

namespace AccessAgent.OpenIAMTokenClient
open Semantics

variable {κ ι : Type}

/-! ### Lifetimes -/

/-- A lifetime is not over-cached at the time of the login. Left with less than a second, a
token is cached for one; `exp` is cached as if it were a number of seconds. -/
def Lifetime.Kept (settings : Settings) (now : Rat) : Lifetime → Prop
  | .remaining seconds => 0 < seconds → 1 ≤ seconds
  | .absolute epochSecond => settings.epoch + now < epochSecond → 1 ≤ epochSecond - (settings.epoch + now) ∧
      (⌊epochSecond⌋ : Rat) - settings.refreshMarginSeconds ≤ epochSecond - (settings.epoch + now)

instance (settings : Settings) (now : Rat) (lifetime : Lifetime) : Decidable (lifetime.Kept settings now) :=
  match lifetime with
  | .remaining _ => inferInstanceAs (Decidable (_ → _))
  | .absolute _ => inferInstanceAs (Decidable (_ → _ ∧ _))

theorem effectiveTtl_le {settings : Settings} {seconds : Int} {bound : Rat} (whole : 1 ≤ bound)
    (reduced : (seconds : Rat) - settings.refreshMarginSeconds ≤ bound) :
    (effectiveTtl settings (some seconds) : Rat) ≤ bound := by
  rw [effectiveTtl,Option.getD_some,Int.cast_max]
  apply max_le
  · push_cast
    exact reduced
  · push_cast
    exact whole

theorem effectiveTtl_pos (settings : Settings) (expiresIn : Option Int) :
    0 < (effectiveTtl settings expiresIn : Rat) := by
  have positive : 0 < effectiveTtl settings expiresIn := lt_of_lt_of_le zero_lt_one (le_max_right _ _)
  exact_mod_cast positive

theorem kept_expiry {settings : Settings} {now expiry number : Rat} {value : Json} {seconds : Int}
    {lifetime : Lifetime} (read : value.toInt = .ok seconds) (denoted : value.quantity = some number)
    (stated : lifetime = .remaining number ∨ lifetime = .absolute number)
    (kept : lifetime.Kept settings now) (expires : lifetime.expiry settings.epoch now = some expiry) :
    now + effectiveTtl settings (some seconds) ≤ expiry := by
  have margin : (0 : Rat) ≤ settings.refreshMarginSeconds := Nat.cast_nonneg _
  rcases stated with rfl | rfl
  · simp only [Lifetime.expiry,Option.ite_none_right_eq_some,Option.some.injEq] at expires
    obtain ⟨positive,same⟩ := expires
    have rounded : (seconds : Rat) ≤ number := by
      rw [Json.toInt_floor read denoted positive]
      exact Int.floor_le number
    have covered := effectiveTtl_le (kept positive) (show (seconds : Rat) - settings.refreshMarginSeconds ≤ number by
      linarith)
    linarith
  · simp only [Lifetime.expiry,Option.ite_none_right_eq_some,Option.some.injEq] at expires
    obtain ⟨ahead,same⟩ := expires
    obtain ⟨whole,reduced⟩ := kept ahead
    have covered : (effectiveTtl settings (some seconds) : Rat) ≤ number - (settings.epoch + now) := by
      apply effectiveTtl_le whole
      by_cases positive : 0 < number
      · rw [Json.toInt_floor read denoted positive]
        exact reduced
      · have negative : (seconds : Rat) ≤ 0 := by
          exact_mod_cast Json.toInt_nonpos read denoted (not_lt.mp positive)
        linarith
    linarith

theorem redirect_read {answer : HttpAnswer} {token : String} {stored : Option Int} {lifetime : Lifetime}
    (ok : authorize answer = .ok (token,stored)) (stated : redirectLifetime answer = some lifetime) :
    ∃ seconds, stored = some seconds ∧ lifetime = .remaining seconds := by
  have read : expiresIn answer.params = .ok stored := by
    simp only [authorize] at ok
    split at ok
    next => simp at ok
    next =>
      split at ok
      next => simp at ok
      next =>
        split at ok
        next => simp at ok
        next =>
          split at ok
          next => simp at ok
          next =>
            obtain ⟨seconds,read,pair⟩ := Raising.bind_success ok
            rw [read,(Prod.mk.inj (Raising.pure_success pair)).2]
  rw [expiresIn] at read
  rw [redirectLifetime] at stated
  cases known : answer.params.find "expires_in" with
  | none => simp [known] at stated
  | some text =>
    simp only [known] at read stated
    obtain ⟨seconds,parsed,same⟩ := Raising.bind_success read
    simp only [Json.quantity,parsed,Option.map_some,Option.some.injEq] at stated
    exact ⟨seconds,(Raising.pure_success same).symm,stated.symm⟩

theorem info_read {answer : HttpAnswer} {expiresIn : Option Int} {lifetime : Lifetime}
    (ok : introspectExpiry answer = .ok expiresIn) (stated : infoLifetime answer = some lifetime) :
    ∃ value seconds number, expiresIn = some seconds ∧ Json.toInt value = .ok seconds ∧ value.quantity = some number ∧
      (lifetime = .remaining number ∨ lifetime = .absolute number) := by
  rw [introspectExpiry] at ok
  rw [infoLifetime] at stated
  split at stated
  next => simp at stated
  next failed =>
    rw [if_neg failed] at ok
    obtain ⟨body,decoded,ok⟩ := Raising.bind_success ok
    obtain ⟨entry,found,ok⟩ := Raising.bind_success ok
    simp only [decoded,found] at stated
    cases entry with
    | none => simp at stated
    | some entry =>
      obtain ⟨key,value⟩ := entry
      obtain ⟨seconds,read,same⟩ := Raising.bind_success ok
      obtain ⟨number,denoted,same'⟩ := Option.map_eq_some_iff.mp stated
      refine ⟨value,seconds,number,(Raising.pure_success same).symm,read,denoted,?_⟩
      split at same'
      next => exact Or.inr same'.symm
      next => exact Or.inl same'.symm

/-! ### What is kept -/

def Login.ValidTo (login : Login) (instant : Rat) : Prop := ∀ expiry ∈ login.expiry, instant ≤ expiry

instance (login : Login) (instant : Rat) : Decidable (login.ValidTo instant) :=
  inferInstanceAs (Decidable (∀ expiry ∈ login.expiry, instant ≤ expiry))

def Redis.Sound (redis : Redis) : Prop := ∀ entry, redis.token = some entry → entry.value.ValidTo entry.expiresAt

namespace Client

def SoundAt (now : Rat) (client : Client ι) : Stage → Prop
  | .readingCookies found ttl => 0 < ttl ∧ found.ValidTo (now + ttl)
  | .reconnecting minted =>
    minted.login.ValidTo (now + minted.effectiveTtl) ∧ ∀ held, client.held = some held → now < held.expiresAt
  | .storingToken minted =>
    minted.login.ValidTo (now + minted.effectiveTtl) ∧ ∀ held, client.held = some held → now < held.expiresAt
  | .storingCookies minted =>
    minted.login.ValidTo (now + minted.effectiveTtl) ∧ ∀ held, client.held = some held → now < held.expiresAt
  | _ => True

structure Sound (now : Rat) (client : Client ι) : Prop where
  held : ∀ held, client.held = some held → held.login.ValidTo held.expiresAt
  inside : ∀ caller stage, client.inside = some (caller,stage) → client.SoundAt now stage

theorem sound_leave {now : Rat} {client : Client ι}
    (held : ∀ held, client.held = some held → held.login.ValidTo held.expiresAt) : client.leave.Sound now where
  held := held
  inside _ _ inside := absurd inside (by simp [leave])

theorem sound_reach {now : Rat} {client : Client ι} {caller : ι} {stage : Stage}
    (held : ∀ held, client.held = some held → held.login.ValidTo held.expiresAt)
    (reached : client.SoundAt now stage) : (client.reach caller stage).Sound now where
  held := held
  inside named at_stage inside := by
    obtain ⟨rfl,rfl⟩ := Prod.mk.inj (Option.some.inj inside)
    cases stage <;> exact reached

theorem sound_minted {settings : Settings} {now : Rat} {client : Client ι} {caller : ι} {session : Jar}
    {token : String} {expiresIn : Option Int} {lifetime : Option Lifetime}
    (covered : ∀ expiry ∈ lifetime.bind (Lifetime.expiry settings.epoch now),
      now + effectiveTtl settings expiresIn ≤ expiry) :
    (client.minted settings now caller session token expiresIn lifetime).Sound now := by
  have positive := effectiveTtl_pos settings expiresIn
  apply sound_reach
  · intro held known
    rw [← Option.some.inj known]
    exact covered
  · refine ⟨covered,?_⟩
    intro held known
    rw [← Option.some.inj known]
    show now < now + (effectiveTtl settings expiresIn : Rat)
    linarith

end Client

/-! ### Steps -/

def Client.awaitingTtl (client : Client ι) : Option Login :=
  match client.inside with
  | some (_,.readingTtl found) => some found
  | _ => none

def Client.introspects (client : Client ι) : Bool :=
  match client.inside with
  | some (_,.introspecting _ _) => true
  | _ => false

def Instantaneous (system : System κ ι) (action : Action κ ι) : Prop :=
  ∀ _ ∈ action.duration, ∀ process, (system.clients process).inside.isNone = true

/-- The ttl that is read is that of the found token, or ends no later than the found token. -/
def TtlOfFound (system : System κ ι) (action : Action κ ι) : Prop :=
  ∀ process ∈ action.done, ∀ found ∈ (system.clients process).awaitingTtl,
    ∀ entry ∈ live system.now system.redis.token, entry.value = found ∨ found.ValidTo entry.expiresAt

def LifetimeKept (settings : Settings) (system : System κ ι) (action : Action κ ι) : Prop :=
  ∀ answer ∈ action.answered, (system.clients answer.1).introspects = true →
    ∀ lifetime ∈ infoLifetime answer.2, lifetime.Kept settings system.now

section
variable {settings : Settings} {now : Rat} {redis : Redis} {client : Client ι} {caller : ι} {progress : Progress ι}

def SoundProgress (now : Rat) (progress : Progress ι) : Prop :=
  progress.redis.Sound ∧ progress.client.Sound now ∧
    ∀ returned, progress.returned = some returned → ∀ expiry ∈ returned.login.expiry, now < expiry

theorem sound_silent (store : redis.Sound) (sound : client.Sound now) :
    SoundProgress now (⟨redis,client,none⟩ : Progress ι) :=
  ⟨store,sound,by simp⟩

theorem answered_sound {stage : Stage} {answer : HttpAnswer} (store : redis.Sound) (sound : client.Sound now)
    (kept : ∀ session token, stage = .introspecting session token →
      ∀ lifetime ∈ infoLifetime answer, lifetime.Kept settings now)
    (proceeded : proceed settings now redis client caller stage (.answered answer) = some progress) :
    SoundProgress now progress := by
  cases stage with
  | loggingIn =>
    simp only [proceed] at proceeded
    split at proceeded <;> rw [← Option.some.inj proceeded] <;> apply sound_silent store
    next => exact Client.sound_reach sound.held trivial
    next => exact Client.sound_leave sound.held
  | authorizing session =>
    simp only [proceed] at proceeded
    split at proceeded <;> rw [← Option.some.inj proceeded] <;> apply sound_silent store
    next token stored ok =>
      apply Client.sound_minted
      intro expiry communicated
      obtain ⟨lifetime,stated,expires⟩ := Option.bind_eq_some_iff.mp communicated
      obtain ⟨seconds,same,rfl⟩ := redirect_read ok stated
      have whole : (Lifetime.remaining seconds).Kept settings now := by
        intro positive
        have atLeast : 1 ≤ seconds := by exact_mod_cast positive
        exact_mod_cast atLeast
      have read : (Json.int seconds).toInt = .ok seconds := rfl
      rw [same]
      exact kept_expiry read rfl (Or.inl rfl) whole expires
    next => exact Client.sound_reach sound.held trivial
    next => exact Client.sound_leave sound.held
  | introspecting session token =>
    simp only [proceed] at proceeded
    split at proceeded <;> rw [← Option.some.inj proceeded] <;> apply sound_silent store
    next stored ok =>
      apply Client.sound_minted
      intro expiry communicated
      obtain ⟨lifetime,stated,expires⟩ := Option.bind_eq_some_iff.mp communicated
      obtain ⟨value,seconds,number,same,read,denoted,unit⟩ := info_read ok stated
      rw [same]
      exact kept_expiry read denoted unit (kept session token rfl lifetime stated) expires
    next => exact Client.sound_leave sound.held
  | _ => simp [proceed] at proceeded

theorem done_sound {stage : Stage} (store : redis.Sound) (sound : client.Sound now)
    (at_stage : client.SoundAt now stage)
    (matched : ∀ found, stage = .readingTtl found →
      ∀ entry ∈ live now redis.token, entry.value = found ∨ found.ValidTo entry.expiresAt)
    (proceeded : proceed settings now redis client caller stage .done = some progress) :
    SoundProgress now progress := by
  cases stage with
  | connecting =>
    simp only [proceed] at proceeded
    rw [← Option.some.inj proceeded]
    exact sound_silent store (Client.sound_reach sound.held trivial)
  | readingToken =>
    simp only [proceed] at proceeded
    split at proceeded <;> rw [← Option.some.inj proceeded] <;> apply sound_silent store
    next => exact Client.sound_reach sound.held trivial
    next => exact Client.sound_reach sound.held trivial
  | readingTtl found =>
    simp only [proceed] at proceeded
    split at proceeded <;> rw [← Option.some.inj proceeded] <;> apply sound_silent store
    next entry stored =>
      obtain ⟨present,alive⟩ := live_some.mp stored
      have ends : found.ValidTo entry.expiresAt := by
        rcases matched found rfl entry stored with same | shorter
        · rw [← same]
          exact store entry present
        · exact shorter
      apply Client.sound_reach sound.held
      refine ⟨by linarith,?_⟩
      intro expiry communicated
      have bound := ends expiry communicated
      linarith
    next => exact Client.sound_reach sound.held trivial
  | readingCookies found ttl =>
    obtain ⟨positive,ends⟩ := at_stage
    simp only [proceed] at proceeded
    rw [← Option.some.inj proceeded]
    refine ⟨store,?_,?_⟩
    · apply Client.sound_leave
      intro held known
      rw [← Option.some.inj known]
      exact ends
    · intro returned known expiry communicated
      rw [← Option.some.inj known] at communicated
      have bound := ends expiry communicated
      linarith
  | reconnecting minted =>
    simp only [proceed] at proceeded
    rw [← Option.some.inj proceeded]
    exact sound_silent store (Client.sound_reach sound.held at_stage)
  | storingToken minted =>
    simp only [proceed] at proceeded
    rw [← Option.some.inj proceeded]
    refine sound_silent ?_ (Client.sound_reach sound.held at_stage)
    intro entry stored
    rw [← Option.some.inj stored]
    exact at_stage.1
  | storingCookies minted =>
    simp only [proceed] at proceeded
    rw [← Option.some.inj proceeded]
    refine ⟨store,Client.sound_leave sound.held,?_⟩
    intro returned known expiry communicated
    obtain ⟨held,holding,same⟩ := Option.map_eq_some_iff.mp known
    rw [← same] at communicated
    exact lt_of_lt_of_le (at_stage.2 held holding) (sound.held held holding expiry communicated)
  | _ => simp [proceed] at proceeded

end

/-! ### Runs -/

variable [DecidableEq κ] [DecidableEq ι]

/-- Calls take no time, the ttl read is the found token's, and token/info is not over-cached. -/
def Punctual (settings : Settings) (system : System κ ι) (action : Action κ ι) : Prop :=
  Instantaneous system action ∧ TtlOfFound system action ∧ LifetimeKept settings system action

def punctuality (settings : Settings) : Guarantee settings (@Punctual κ ι settings) where
  store _ redis := redis.Sound
  client now client := client.Sound now
  returns now _ returned := ∀ expiry ∈ returned.login.expiry, now < expiry
  starts := ⟨by simp [Redis.Sound],⟨by simp,by simp⟩⟩
  ages system duration _ admitted store sound := by
    refine ⟨store,fun process => ⟨(sound process).held,?_⟩⟩
    intro caller stage inside
    have free := admitted.1 duration rfl process
    rw [inside] at free
    exact absurd free (by simp)
  queues _ _ _ sound := ⟨sound.held,fun caller stage inside => by
    have at_stage := sound.inside caller stage inside
    cases stage <;> exact at_stage⟩
  connects _ _ _ sound _ _ := Client.sound_reach sound.held trivial
  serves now before held sound fresh expiry communicated := by
    obtain ⟨holding,alive⟩ := Client.fresh_some.mp fresh
    exact lt_of_lt_of_le alive (sound.held held holding expiry communicated)
  proceeds system process reply caller stage progress admitted store sound inside proceeded := by
    obtain ⟨_,ttl,kept⟩ := admitted
    cases reply with
    | failed =>
      simp only [proceed] at proceeded
      rw [← Option.some.inj proceeded]
      exact sound_silent store (Client.sound_leave sound.held)
    | answered answer =>
      apply answered_sound store sound ?_ proceeded
      intro session token same
      exact kept (process,answer) rfl (by simp [Client.introspects,inside,same])
    | done =>
      apply done_sound store sound (sound.inside caller stage inside) ?_ proceeded
      intro found same
      exact ttl process rfl found (by simp [Client.awaitingTtl,inside,same])

/-- No run whose steps are all punctual returns a token at or after the expiry that its
login communicated. -/
theorem returned_before_expiry (settings : Settings) {before after : System κ ι} {action : Action κ ι}
    {process : κ} {returned : Returned} {expiry : Rat}
    (reached : Reaches (System.step settings) (Punctual settings) System.start before)
    (admitted : Punctual settings before action)
    (taken : before.step settings action = some (after,some (process,returned)))
    (communicated : returned.login.expiry = some expiry) : after.now < expiry :=
  (punctuality settings).returned reached admitted taken expiry communicated

/-! ### One process -/

instance [Fintype κ] (settings : Settings) (system : System κ ι) (action : Action κ ι) :
    Decidable (Punctual settings system action) :=
  inferInstanceAs (Decidable ((∀ _ ∈ action.duration, ∀ process, (system.clients process).inside.isNone = true) ∧
    (∀ process ∈ action.done, ∀ found ∈ (system.clients process).awaitingTtl,
      ∀ entry ∈ live system.now system.redis.token, entry.value = found ∨ found.ValidTo entry.expiresAt) ∧
    ∀ answer ∈ action.answered, (system.clients answer.1).introspects = true →
      ∀ lifetime ∈ infoLifetime answer.2, lifetime.Kept settings system.now))

instance [Fintype κ] (system : System κ ι) (action : Action κ ι) : Decidable (Instantaneous system action) :=
  inferInstanceAs (Decidable (∀ _ ∈ action.duration, ∀ process, (system.clients process).inside.isNone = true))

private def introspectedLogin (info : HttpAnswer) (wait : Rat) : List (Action Unit Unit) :=
  [.call () (),.enter () (),.reply () .done,.reply () .done,.reply () (.answered loggedIn),
    .reply () (.answered (redirected none)),.reply () (.answered info),.reply () .done,.reply () .done,.reply () .done,
    .advance wait]

private def timedLogin (expiry : Rat) : Login := ⟨"t1",[("SESSION","s1")],some expiry⟩

theorem returned_before_expiry_remaining : ∃ before after : System Unit Unit,
    before.step sampleSettings (.call () ()) = some (after,some ((),⟨timedLogin 3600,false⟩)) ∧ after.now < 3600 := by
  have ran : ((execute (System.step sampleSettings) (Punctual sampleSettings)
      (introspectedLogin (tokenInfo "expires_in" 3600) 3500) System.start).bind fun reached =>
        (reached.1.step sampleSettings (.call () ())).map fun next =>
          (decide (Punctual sampleSettings reached.1 (.call () ())),next.2)) =
      some (true,some ((),⟨timedLogin 3600,false⟩)) := by decide +kernel
  obtain ⟨⟨before,_⟩,run,stepped⟩ := Option.bind_eq_some_iff.mp ran
  obtain ⟨⟨after,_⟩,taken,same⟩ := Option.map_eq_some_iff.mp stepped
  obtain ⟨admitted,rfl⟩ := Prod.mk.inj same
  exact ⟨before,after,taken,returned_before_expiry sampleSettings (reaches_execute .start run)
    (of_decide_eq_true admitted) taken rfl⟩

/-- With `exp` in token/info the token is still returned when it expires. -/
theorem returned_at_expiry : ∃ (before after : System Unit Unit) (returned : Returned) (expiry : Rat),
    Reaches (System.step sampleSettings) Instantaneous System.start before ∧
      before.step sampleSettings (.call () ()) = some (after,some ((),returned)) ∧
      returned.login.expiry = some expiry ∧ expiry ≤ after.now := by
  have ran : ((execute (System.step sampleSettings) Instantaneous
      (introspectedLogin (tokenInfo "exp" 1700003600) 3600) System.start).bind fun reached =>
        (reached.1.step sampleSettings (.call () ())).map fun next => (next.2,decide (3600 ≤ next.1.now))) =
      some (some ((),⟨timedLogin 3600,false⟩),true) := by decide +kernel
  obtain ⟨⟨before,_⟩,run,stepped⟩ := Option.bind_eq_some_iff.mp ran
  obtain ⟨⟨after,_⟩,taken,same⟩ := Option.map_eq_some_iff.mp stepped
  obtain ⟨rfl,late⟩ := Prod.mk.inj same
  exact ⟨before,after,_,3600,reaches_execute .start run,taken,rfl,of_decide_eq_true late⟩

end AccessAgent.OpenIAMTokenClient
