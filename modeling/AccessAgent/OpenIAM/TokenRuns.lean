import AccessAgent.OpenIAM.TokenClient

/-! Runs of the token clients. A guarantee is an invariant of the store and one of every
client; it is checked at the clock, at the lock and at each answer, and then holds of
whole runs and of whatever they return. -/

namespace AccessAgent.OpenIAMTokenClient
open Semantics

variable {κ ι : Type}

namespace Client

theorem fresh_some {client : Client ι} {now : Rat} {held : Held} :
    client.fresh now = some held ↔ client.held = some held ∧ now < held.expiresAt := by
  simp [fresh,Option.filter_eq_some_iff]

theorem fresh_earlier {client : Client ι} {now later : Rat} {held : Held} (order : now ≤ later)
    (fresh : client.fresh later = some held) : client.fresh now = some held := by
  rw [fresh_some] at fresh ⊢
  exact ⟨fresh.1,lt_of_le_of_lt order fresh.2⟩

theorem stale_later {client : Client ι} {now later : Rat} (order : now ≤ later) (stale : client.fresh now = none) :
    client.fresh later = none := by
  cases known : client.fresh later with
  | none => rfl
  | some held => rw [fresh_earlier order known] at stale; exact absurd stale (by simp)

end Client

theorem live_some {α : Type} {now : Rat} {key : Option (Entry α)} {entry : Entry α} :
    live now key = some entry ↔ key = some entry ∧ now < entry.expiresAt := by
  simp [live,Option.filter_eq_some_iff]

namespace Action

def duration : Action κ ι → Option Rat
  | .advance duration => some duration
  | _ => none

def done : Action κ ι → Option κ
  | .reply process .done => some process
  | _ => none

def answered : Action κ ι → Option (κ × HttpAnswer)
  | .reply process (.answered answer) => some (process,answer)
  | _ => none

end Action

variable [DecidableEq κ] [DecidableEq ι]

inductive Moved (settings : Settings) (system : System κ ι) :
    Action κ ι → System κ ι → Option (κ × Returned) → Prop
  | advance {duration : Rat} (forward : 0 ≤ duration) :
      Moved settings system (.advance duration) {system with now := system.now + duration} none
  | served {process : κ} {caller : ι} {held : Held} (fresh : (system.clients process).fresh system.now = some held) :
      Moved settings system (.call process caller) system (some (process,⟨held.login,held.cached⟩))
  | queued {process : κ} {caller : ι} (waiting : List ι) :
      Moved settings system (.call process caller)
        (system.update process {system.clients process with waiting := waiting}) none
  | rechecked {process : κ} {caller : ι} {held : Held} (waiting : List ι)
      (fresh : (system.clients process).fresh system.now = some held) :
      Moved settings system (.enter process caller)
        (system.update process {system.clients process with waiting := waiting})
        (some (process,⟨held.login,held.cached⟩))
  | entered {process : κ} {caller : ι} (waiting : List ι) (free : (system.clients process).inside = none)
      (stale : (system.clients process).fresh system.now = none) :
      Moved settings system (.enter process caller)
        (system.update process ({system.clients process with waiting := waiting}.reach caller .connecting)) none
  | replied {process : κ} {reply : Reply} {caller : ι} {stage : Stage} {progress : Progress ι}
      (inside : (system.clients process).inside = some (caller,stage))
      (proceeded : proceed settings system.now system.redis (system.clients process) caller stage reply = some progress) :
      Moved settings system (.reply process reply)
        ({system with redis := progress.redis}.update process progress.client)
        (progress.returned.map fun returned => (process,returned))

theorem step_moved {settings : Settings} {before after : System κ ι} {action : Action κ ι}
    {output : Option (κ × Returned)} (taken : before.step settings action = some (after,output)) :
    Moved settings before action after output := by
  cases action with
  | advance duration =>
    rw [System.step] at taken
    split at taken
    next forward =>
      obtain ⟨rfl,rfl⟩ := Prod.mk.inj (Option.some.inj taken)
      exact .advance forward
    next => simp at taken
  | call process caller =>
    rw [System.step] at taken
    split at taken
    next held fresh =>
      obtain ⟨rfl,rfl⟩ := Prod.mk.inj (Option.some.inj taken)
      exact .served fresh
    next =>
      obtain ⟨rfl,rfl⟩ := Prod.mk.inj (Option.some.inj taken)
      exact .queued _
  | enter process caller =>
    rw [System.step] at taken
    split at taken
    next ready =>
      have free : (before.clients process).inside = none := Option.isNone_iff_eq_none.mp ready.2
      dsimp only at taken
      split at taken
      next held fresh =>
        obtain ⟨rfl,rfl⟩ := Prod.mk.inj (Option.some.inj taken)
        exact .rechecked _ fresh
      next stale =>
        obtain ⟨rfl,rfl⟩ := Prod.mk.inj (Option.some.inj taken)
        exact .entered _ free stale
    next => simp at taken
  | reply process reply =>
    rw [System.step] at taken
    split at taken
    next => simp at taken
    next caller stage inside =>
      split at taken
      next => simp at taken
      next progress proceeded =>
        obtain ⟨rfl,rfl⟩ := Prod.mk.inj (Option.some.inj taken)
        exact .replied inside proceeded

/-- What runs of admitted steps keep of the store and of every client, and what holds of
the tokens they return. -/
structure Guarantee (settings : Settings) (admits : System κ ι → Action κ ι → Prop) where
  store : Rat → Redis → Prop
  client : Rat → Client ι → Prop
  returns : Rat → Client ι → Returned → Prop
  starts : store 0 ⟨none,none⟩ ∧ client 0 ⟨[],none,none,[]⟩
  ages : ∀ system duration, 0 ≤ duration → admits system (.advance duration) →
    store system.now system.redis → (∀ process, client system.now (system.clients process)) →
    store (system.now + duration) system.redis ∧ ∀ process, client (system.now + duration) (system.clients process)
  queues : ∀ now before waiting, client now before → client now {before with waiting := waiting}
  connects : ∀ now before caller, client now before → before.inside = none → before.fresh now = none →
    client now (before.reach caller .connecting)
  serves : ∀ now before held, client now before → before.fresh now = some held →
    returns now before ⟨held.login,held.cached⟩
  proceeds : ∀ system process reply caller stage progress, admits system (.reply process reply) →
    store system.now system.redis → client system.now (system.clients process) →
    (system.clients process).inside = some (caller,stage) →
    proceed settings system.now system.redis (system.clients process) caller stage reply = some progress →
    store system.now progress.redis ∧ client system.now progress.client ∧
      ∀ returned, progress.returned = some returned → returns system.now progress.client returned

namespace Guarantee
variable {settings : Settings} {admits : System κ ι → Action κ ι → Prop} (guarantee : Guarantee settings admits)

def Kept (system : System κ ι) : Prop :=
  guarantee.store system.now system.redis ∧ ∀ process, guarantee.client system.now (system.clients process)

omit [DecidableEq ι] in
theorem kept_update {system : System κ ι} {redis : Redis} {process : κ} {client : Client ι}
    (kept : guarantee.Kept system) (store : guarantee.store system.now redis)
    (new : guarantee.client system.now client) :
    guarantee.Kept ({system with redis := redis}.update process client) := by
  refine ⟨store,?_⟩
  intro other
  show guarantee.client system.now (Function.update system.clients process client other)
  by_cases same : other = process
  · subst same
    rw [Function.update_self]
    exact new
  · rw [Function.update_of_ne same]
    exact kept.2 other

theorem kept_step {before after : System κ ι} {action : Action κ ι} {output : Option (κ × Returned)}
    (kept : guarantee.Kept before) (admitted : admits before action)
    (taken : before.step settings action = some (after,output)) :
    guarantee.Kept after ∧ ∀ process returned, output = some (process,returned) →
      guarantee.returns after.now (after.clients process) returned := by
  have self : ∀ (redis : Redis) (process : κ) (client : Client ι),
      ({before with redis := redis}.update process client).clients process = client :=
    fun _ process _ => Function.update_self process _ _
  cases step_moved taken with
  | advance forward => exact ⟨guarantee.ages _ _ forward admitted kept.1 kept.2,by simp⟩
  | @served process caller held fresh =>
    refine ⟨kept,?_⟩
    intro named returned same
    obtain ⟨rfl,rfl⟩ := Prod.mk.inj (Option.some.inj same)
    exact guarantee.serves _ _ _ (kept.2 process) fresh
  | @queued process caller waiting =>
    exact ⟨guarantee.kept_update kept kept.1 (guarantee.queues _ _ _ (kept.2 process)),by simp⟩
  | @rechecked process caller held waiting fresh =>
    have queued := guarantee.queues _ _ waiting (kept.2 process)
    refine ⟨guarantee.kept_update kept kept.1 queued,?_⟩
    intro named returned same
    obtain ⟨rfl,rfl⟩ := Prod.mk.inj (Option.some.inj same)
    have serves := guarantee.serves _ _ _ queued fresh
    rw [← self before.redis process {before.clients process with waiting := waiting}] at serves
    exact serves
  | @entered process caller waiting free stale =>
    have queued := guarantee.queues _ _ waiting (kept.2 process)
    exact ⟨guarantee.kept_update kept kept.1 (guarantee.connects _ _ _ queued free stale),by simp⟩
  | @replied process reply caller stage progress inside proceeded =>
    obtain ⟨store,client,returns⟩ :=
      guarantee.proceeds before process reply caller stage progress admitted kept.1 (kept.2 process) inside proceeded
    refine ⟨guarantee.kept_update kept store client,?_⟩
    intro named returned same
    obtain ⟨answer,known,pair⟩ := Option.map_eq_some_iff.mp same
    obtain ⟨rfl,rfl⟩ := Prod.mk.inj pair
    rw [self]
    exact returns _ known

theorem kept_run {state : System κ ι} (reached : Reaches (System.step settings) admits System.start state) :
    guarantee.Kept state := by
  apply reached.invariant
  · exact ⟨guarantee.starts.1,fun _ => guarantee.starts.2⟩
  · intro before action after output kept admitted taken
    exact (guarantee.kept_step kept admitted taken).1

theorem returned {before after : System κ ι} {action : Action κ ι} {process : κ} {returned : Returned}
    (reached : Reaches (System.step settings) admits System.start before) (admitted : admits before action)
    (taken : before.step settings action = some (after,some (process,returned))) :
    guarantee.returns after.now (after.clients process) returned :=
  (guarantee.kept_step (guarantee.kept_run reached) admitted taken).2 process returned rfl

end Guarantee

/-! ### A login, answer by answer -/

def sampleSettings : Settings := ⟨60,1700000000⟩

def loggedIn : HttpAnswer :=
  ⟨200,"",.ok (.obj [("status",.int 200),("tokenInfo",.obj [("authToken",.str "a1")])]),none,[],
    [⟨"idp","/","SESSION",some "s1"⟩]⟩

def redirected (lifetime : Option String) : HttpAnswer :=
  let stated := match lifetime with
    | some text => "&expires_in=" ++ text
    | none => ""
  ⟨302,"",.error (Exn.valueError "no JSON"),some ("https://app/cb#access_token=t1" ++ stated),
    ("access_token","t1")::(lifetime.map fun text => ("expires_in",text)).toList,[]⟩

def tokenInfo (key : String) (value : Int) : HttpAnswer := ⟨200,"",.ok (.obj [(key,.int value)]),none,[],[]⟩

end AccessAgent.OpenIAMTokenClient
