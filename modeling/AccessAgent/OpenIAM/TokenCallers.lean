import AccessAgent.OpenIAM.TokenRuns

/-! The callers of `get_access_token` on one token client: each has its own place in the
code, and they share the lock, the in-process token and the jar. Redis is written by other
processes as well. -/

namespace AccessAgent.OpenIAMTokenClient
open Semantics

variable {ι : Type}

/-! ### Where an awaited answer leads -/

inductive Phase
  | searching
  | signingIn
  | storing
deriving DecidableEq

namespace Stage

def phase : Stage → Phase
  | .connecting => .searching
  | .readingToken => .searching
  | .readingTtl _ => .searching
  | .readingCookies _ _ => .searching
  | .loggingIn => .signingIn
  | .authorizing _ => .signingIn
  | .introspecting _ _ => .signingIn
  | .reconnecting _ => .storing
  | .storingToken _ => .storing
  | .storingCookies _ => .storing

/-- In `_login_and_authorize`: from the login request to the last write of its result. -/
def logsIn (stage : Stage) : Bool := decide (stage.phase ≠ .searching)

end Stage

/-- What an answer can do: the lock is left by an exception, with a token of Redis or at the
end of a login; a login begins only where the token key is found dead. -/
inductive Proceeded (now : Rat) (redis : Redis) (client : Client ι) (caller : ι) (stage : Stage) : Progress ι → Prop
  | raised (jar : Jar) : Proceeded now redis client caller stage ⟨redis,{client with jar := jar}.leave,none⟩
  | kept (store : Redis) (jar : Jar) (next : Stage) (same : next.phase = stage.phase) :
      Proceeded now redis client caller stage ⟨store,{client with jar := jar}.reach caller next,none⟩
  | begun (searching : stage.phase = .searching) (dead : live now redis.token = none) :
      Proceeded now redis client caller stage ⟨redis,client.login caller,none⟩
  | restored (jar : Jar) (found : Login) (ttl : Rat) (searching : stage.phase = .searching) :
      Proceeded now redis client caller stage
        ⟨redis,{client with jar := jar,held := some ⟨found,now + ttl,true⟩}.leave,some ⟨found,true⟩⟩
  | minted (jar : Jar) (minted : Minted) (signingIn : stage.phase = .signingIn) :
      Proceeded now redis client caller stage ⟨redis,
        {client with jar := jar,held := some ⟨minted.login,now + minted.effectiveTtl,false⟩}.reach caller
          (.reconnecting minted),none⟩
  | finished (store : Redis) (storing : stage.phase = .storing) :
      Proceeded now redis client caller stage
        ⟨store,client.leave,client.held.map fun held => ⟨held.login,held.cached⟩⟩

theorem proceed_proceeded {settings : Settings} {now : Rat} {redis : Redis} {client : Client ι} {caller : ι}
    {stage : Stage} {reply : Reply} {progress : Progress ι}
    (proceeded : proceed settings now redis client caller stage reply = some progress) :
    Proceeded now redis client caller stage progress := by
  cases reply with
  | failed =>
    simp only [proceed] at proceeded
    rw [← Option.some.inj proceeded]
    exact .raised client.jar
  | answered answer =>
    cases stage with
    | loggingIn =>
      simp only [proceed] at proceeded
      split at proceeded <;> rw [← Option.some.inj proceeded]
      next => exact .kept redis _ _ rfl
      next => exact .raised _
    | authorizing session =>
      simp only [proceed] at proceeded
      split at proceeded <;> rw [← Option.some.inj proceeded]
      next => exact .minted (client.jar.extract answer) ⟨_,_,_⟩ rfl
      next => exact .kept redis _ _ rfl
      next => exact .raised _
    | introspecting session token =>
      simp only [proceed] at proceeded
      split at proceeded <;> rw [← Option.some.inj proceeded]
      next => exact .minted (client.jar.extract answer) ⟨_,_,_⟩ rfl
      next => exact .raised _
    | _ => simp [proceed] at proceeded
  | done =>
    cases stage with
    | connecting =>
      simp only [proceed] at proceeded
      rw [← Option.some.inj proceeded]
      exact .kept redis client.jar _ rfl
    | readingToken =>
      simp only [proceed] at proceeded
      split at proceeded <;> rw [← Option.some.inj proceeded]
      next => exact .kept redis client.jar _ rfl
      next dead => exact .begun rfl dead
    | readingTtl found =>
      simp only [proceed] at proceeded
      split at proceeded <;> rw [← Option.some.inj proceeded]
      next => exact .kept redis client.jar _ rfl
      next dead => exact .begun rfl dead
    | readingCookies found ttl =>
      simp only [proceed] at proceeded
      rw [← Option.some.inj proceeded]
      exact .restored _ found ttl rfl
    | reconnecting minted =>
      simp only [proceed] at proceeded
      rw [← Option.some.inj proceeded]
      exact .kept redis client.jar _ rfl
    | storingToken minted =>
      simp only [proceed] at proceeded
      rw [← Option.some.inj proceeded]
      exact .kept _ client.jar _ rfl
    | storingCookies minted =>
      simp only [proceed] at proceeded
      rw [← Option.some.inj proceeded]
      exact .finished _ rfl
    | _ => simp [proceed] at proceeded

/-! ### The callers -/

inductive Place
  | outside
  | queued
  | inside (stage : Stage)
  | returned (returned : Returned)
  | raised

structure Callers (ι : Type) where
  now : Rat
  redis : Redis
  jar : Jar
  held : Option Held
  locked : Bool
  place : ι → Place

/-- Time passes, another process writes Redis, an `authorized_get` is answered, a caller calls,
takes the lock, is cancelled while it waits for it, or gets the answer it awaits inside. -/
inductive CallerAction (ι : Type)
  | advance (duration : Rat)
  | written (redis : Redis)
  | fetched (answer : HttpAnswer)
  | call (caller : ι)
  | acquire (caller : ι)
  | cancel (caller : ι)
  | reply (caller : ι) (reply : Reply)

namespace Callers

def fresh (callers : Callers ι) : Option Held := callers.held.filter fun held => callers.now < held.expiresAt

def client (callers : Callers ι) (caller : ι) (stage : Stage) : Client ι :=
  ⟨callers.jar,callers.held,some (caller,stage),[]⟩

def settled : Option Returned → Place
  | some returned => .returned returned
  | none => .raised

def placeOf (progress : Progress ι) : Place :=
  match progress.client.inside with
  | some (_,stage) => .inside stage
  | none => settled progress.returned

variable [DecidableEq ι]

def put (callers : Callers ι) (caller : ι) (place : Place) : Callers ι :=
  {callers with place := Function.update callers.place caller place}

def resume (callers : Callers ι) (caller : ι) (progress : Progress ι) : Callers ι :=
  ({callers with
    redis := progress.redis
    jar := progress.client.jar
    held := progress.client.held
    -- the lock is released with the last line of its block, also by an exception
    locked := callers.locked && progress.client.inside.isSome} : Callers ι).put caller (placeOf progress)

def step (settings : Settings) (callers : Callers ι) : CallerAction ι → Option (Callers ι × Unit)
  | .advance duration => if 0 ≤ duration then some ({callers with now := callers.now + duration},()) else none
  | .written redis => some ({callers with redis := redis},())
  | .fetched answer => some ({callers with jar := callers.jar.extract answer},())
  | .call caller =>
    match callers.place caller with
    | .queued => none
    | .inside _ => none
    | _ => match callers.fresh with
      | some held => some (callers.put caller (.returned ⟨held.login,held.cached⟩),())
      | none => some (callers.put caller .queued,())
  | .acquire caller =>
    match callers.place caller with
    | .queued =>
      if callers.locked then none
      else match callers.fresh with
        | some held => some (callers.put caller (.returned ⟨held.login,held.cached⟩),())
        | none => some ({callers with locked := true}.put caller (.inside .connecting),())
    | _ => none
  | .cancel caller =>
    match callers.place caller with
    | .queued => some (callers.put caller .raised,())
    | _ => none
  | .reply caller reply =>
    match callers.place caller with
    | .inside stage =>
      match proceed settings callers.now callers.redis (callers.client caller stage) caller stage reply with
      | none => none
      | some progress => some (callers.resume caller progress,())
    | _ => none

def start : Callers ι := ⟨0,⟨none,none⟩,[],none,false,fun _ => .outside⟩

end Callers

end AccessAgent.OpenIAMTokenClient
