import AccessAgent.OpenIAM.TokenCallers
import Mathlib.Tactic.Linarith

/-! One login flow at a time: the flows of one client do not overlap, each begins behind a
dead in-process token and a dead Redis token, and while a minted token is live it is what
every caller that resumes returns. -/

namespace AccessAgent.OpenIAMTokenClient
open Semantics

variable {ι : Type}

namespace Callers

theorem fresh_some {callers : Callers ι} {held : Held} :
    callers.fresh = some held ↔ callers.held = some held ∧ callers.now < held.expiresAt := by
  simp [fresh,Option.filter_eq_some_iff]

theorem stale_later {callers : Callers ι} {later : Rat} (order : callers.now ≤ later)
    (stale : callers.fresh = none) : ({callers with now := later} : Callers ι).fresh = none := by
  simp only [fresh,Option.filter_eq_none_iff,decide_eq_true_eq,not_lt] at stale ⊢
  intro held known
  exact (stale held known).trans order

def InBlock (callers : Callers ι) (caller : ι) (stage : Stage) : Prop := callers.place caller = .inside stage

def LogsIn (callers : Callers ι) (caller : ι) : Prop :=
  ∃ stage, callers.InBlock caller stage ∧ stage.logsIn = true

/-- The caller took the lock and has begun no login. -/
def Searches (callers : Callers ι) (caller : ι) : Prop :=
  ∃ stage, callers.InBlock caller stage ∧ stage.logsIn = false

variable [DecidableEq ι]

@[simp] theorem put_place (callers : Callers ι) (caller other : ι) (place : Place) :
    (callers.put caller place).place other = if other = caller then place else callers.place other :=
  Function.update_apply _ _ _ _

/-! ### Steps -/

/-- A place outside of the block, reached without the lock. -/
def Landing (callers : Callers ι) (place : Place) : Prop :=
  place = .queued ∨ place = .raised ∨ ∃ held, callers.fresh = some held ∧ place = .returned ⟨held.login,held.cached⟩

inductive Moved (before : Callers ι) : CallerAction ι → Callers ι → Prop
  | aged {duration : Rat} (forward : 0 ≤ duration) :
      Moved before (.advance duration) {before with now := before.now + duration}
  | shared {action : CallerAction ι} (redis : Redis) (jar : Jar) :
      Moved before action {before with redis := redis,jar := jar}
  | landed {action : CallerAction ι} {caller : ι} {place : Place} (outside : ∀ stage, ¬before.InBlock caller stage)
      (landing : before.Landing place) : Moved before action (before.put caller place)
  | entered {caller : ι} (free : before.locked = false) (stale : before.fresh = none) :
      Moved before (.acquire caller) ({before with locked := true}.put caller (.inside .connecting))
  | replied {caller : ι} {reply : Reply} {stage : Stage} {progress : Progress ι}
      (inside : before.InBlock caller stage)
      (proceeded : Proceeded before.now before.redis (before.client caller stage) caller stage progress) :
      Moved before (.reply caller reply) (before.resume caller progress)

theorem step_moved {settings : Settings} {before after : Callers ι} {action : CallerAction ι}
    (taken : before.step settings action = some (after,())) : before.Moved action after := by
  cases action with
  | advance duration =>
    rw [step] at taken
    split at taken
    next forward =>
      rw [← (Prod.mk.inj (Option.some.inj taken)).1]
      exact .aged forward
    next => simp at taken
  | written redis =>
    rw [← (Prod.mk.inj (Option.some.inj taken)).1]
    exact .shared redis before.jar
  | fetched answer =>
    rw [← (Prod.mk.inj (Option.some.inj taken)).1]
    exact .shared before.redis _
  | call caller =>
    simp only [step] at taken
    split at taken
    next => simp at taken
    next => simp at taken
    next queued inside =>
      have outside : ∀ stage, ¬before.InBlock caller stage := fun stage known => inside stage known
      split at taken <;> rw [← (Prod.mk.inj (Option.some.inj taken)).1]
      next held fresh => exact .landed outside (Or.inr (Or.inr ⟨held,fresh,rfl⟩))
      next => exact .landed outside (Or.inl rfl)
  | acquire caller =>
    simp only [step] at taken
    split at taken
    next queued =>
      have outside : ∀ stage, ¬before.InBlock caller stage := by simp [InBlock,queued]
      split at taken
      next => simp at taken
      next free =>
        split at taken <;> rw [← (Prod.mk.inj (Option.some.inj taken)).1]
        next held fresh => exact .landed outside (Or.inr (Or.inr ⟨held,fresh,rfl⟩))
        next stale => exact .entered (by simpa using free) stale
    next => simp at taken
  | cancel caller =>
    simp only [step] at taken
    split at taken
    next queued =>
      rw [← (Prod.mk.inj (Option.some.inj taken)).1]
      exact .landed (by simp [InBlock,queued]) (Or.inr (Or.inl rfl))
    next => simp at taken
  | reply caller reply =>
    simp only [step] at taken
    split at taken
    next stage inside =>
      split at taken
      next => simp at taken
      next progress proceeded =>
        rw [← (Prod.mk.inj (Option.some.inj taken)).1]
        exact .replied inside (proceed_proceeded proceeded)
    next => simp at taken

/-! ### Exclusion -/

/-- At most one caller is in the block, behind the lock, and until it has minted a token
the in-process token is stale. -/
structure Excluded (callers : Callers ι) : Prop where
  one : ∀ a b s t, callers.InBlock a s → callers.InBlock b t → a = b
  locked : ∀ a s, callers.InBlock a s → callers.locked = true
  stale : ∀ a s, callers.InBlock a s → s.phase ≠ .storing → callers.fresh = none

omit [DecidableEq ι] in
theorem excluded_start : (start : Callers ι).Excluded where
  one a _ s _ inside _ := absurd inside (by simp [InBlock,start])
  locked a s inside := absurd inside (by simp [InBlock,start])
  stale a s inside := absurd inside (by simp [InBlock,start])

/-- A caller that lands outside leaves the others where they are. -/
theorem inBlock_put {callers : Callers ι} {caller other : ι} {place : Place} {stage : Stage}
    (outside : ∀ stage, place ≠ .inside stage) (inside : (callers.put caller place).InBlock other stage) :
    callers.InBlock other stage := by
  rw [InBlock,put_place] at inside
  split at inside
  next => exact absurd inside (outside stage)
  next => exact inside

theorem inBlock_put_inside {callers : Callers ι} {caller other : ι} {next stage : Stage}
    (inside : (callers.put caller (.inside next)).InBlock other stage) :
    other = caller ∧ stage = next ∨ callers.InBlock other stage := by
  rw [InBlock,put_place] at inside
  split at inside
  next same => exact Or.inl ⟨same,(Place.inside.inj inside).symm⟩
  next => exact Or.inr inside

omit [DecidableEq ι] in
theorem landing_outside {callers : Callers ι} {place : Place} (landing : callers.Landing place) (stage : Stage) :
    place ≠ .inside stage := by
  rcases landing with rfl | rfl | ⟨held,_,rfl⟩ <;> simp

/-- Everyone in the block is the caller that leaves it. -/
theorem excluded_left {callers : Callers ι} {caller : ι} {place : Place}
    (alone : ∀ other stage, callers.InBlock other stage → other = caller) (outside : ∀ stage, place ≠ .inside stage) :
    (callers.put caller place).Excluded := by
  have nobody : ∀ other stage, ¬(callers.put caller place).InBlock other stage := by
    intro other stage inside
    have known := inBlock_put outside inside
    rw [InBlock,put_place,if_pos (alone other stage known)] at inside
    exact outside stage inside
  exact ⟨fun a _ s _ inside => absurd inside (nobody a s),fun a s inside => absurd inside (nobody a s),
    fun a s inside => absurd inside (nobody a s)⟩

theorem excluded_reached {callers : Callers ι} {caller : ι} {next : Stage}
    (alone : ∀ other stage, callers.InBlock other stage → other = caller) (locked : callers.locked = true)
    (stale : next.phase ≠ .storing → callers.fresh = none) : (callers.put caller (.inside next)).Excluded := by
  have only : ∀ other stage, (callers.put caller (.inside next)).InBlock other stage → other = caller ∧ stage = next := by
    intro other stage inside
    rcases inBlock_put_inside inside with both | before
    · exact both
    · have same := alone other stage before
      rw [InBlock,put_place,if_pos same] at inside
      exact ⟨same,(Place.inside.inj inside).symm⟩
  refine ⟨?_,fun _ _ _ => locked,?_⟩
  · intro a b s t left right
    rw [(only a s left).1,(only b t right).1]
  · intro a s inside early
    rw [(only a s inside).2] at early
    exact stale early

theorem resume_reach (before : Callers ι) (caller named : ι) (store : Redis) (client : Client ι) (next : Stage) :
    before.resume caller ⟨store,client.reach named next,none⟩ =
      ({before with redis := store,jar := client.jar,held := client.held} : Callers ι).put caller (.inside next) := by
  simp [resume,put,placeOf,Client.reach]

theorem resume_leave (before : Callers ι) (caller : ι) (store : Redis) (client : Client ι)
    (returned : Option Returned) :
    before.resume caller ⟨store,client.leave,returned⟩ =
      ({before with redis := store,jar := client.jar,held := client.held,locked := false} : Callers ι).put caller
        (settled returned) := by
  simp [resume,put,placeOf,Client.leave]

omit [DecidableEq ι] in
theorem settled_outside (returned : Option Returned) (stage : Stage) : settled returned ≠ .inside stage := by
  cases returned <;> simp [settled]

theorem resume_excluded {before : Callers ι} {caller : ι} {stage : Stage} {progress : Progress ι}
    (excluded : before.Excluded) (inside : before.InBlock caller stage)
    (proceeded : Proceeded before.now before.redis (before.client caller stage) caller stage progress) :
    (before.resume caller progress).Excluded := by
  have alone : ∀ other known, before.InBlock other known → other = caller :=
    fun other known there => excluded.one other caller known stage there inside
  have locked := excluded.locked caller stage inside
  cases proceeded with
  | raised jar =>
    rw [resume_leave]
    exact excluded_left alone (settled_outside none)
  | kept store jar next same =>
    rw [resume_reach]
    apply excluded_reached
    · exact alone
    · exact locked
    · intro early
      rw [same] at early
      exact excluded.stale caller stage inside early
  | begun searching dead =>
    rw [Client.login,resume_reach]
    apply excluded_reached
    · exact alone
    · exact locked
    · intro _
      exact excluded.stale caller stage inside (by simp [searching])
  | restored jar found ttl searching =>
    rw [resume_leave]
    exact excluded_left alone (settled_outside _)
  | minted jar minted signingIn =>
    rw [resume_reach]
    apply excluded_reached
    · exact alone
    · exact locked
    · exact fun early => absurd rfl early
  | finished store storing =>
    rw [resume_leave]
    exact excluded_left alone (settled_outside _)

theorem excluded_step {settings : Settings} {before after : Callers ι} {action : CallerAction ι}
    (excluded : before.Excluded) (taken : before.step settings action = some (after,())) : after.Excluded := by
  cases step_moved taken with
  | aged forward =>
    refine ⟨excluded.one,excluded.locked,?_⟩
    intro a s inside early
    exact stale_later (le_add_of_nonneg_right forward) (excluded.stale a s inside early)
  | shared redis jar => exact ⟨excluded.one,excluded.locked,excluded.stale⟩
  | @landed action caller place outside landing =>
    have earlier : ∀ other stage, (before.put caller place).InBlock other stage → before.InBlock other stage :=
      fun _ _ inside => inBlock_put (landing_outside landing) inside
    exact ⟨fun a b s t left right => excluded.one a b s t (earlier a s left) (earlier b t right),
      fun a s inside => excluded.locked a s (earlier a s inside),
      fun a s inside => excluded.stale a s (earlier a s inside)⟩
  | entered free stale =>
    apply excluded_reached
    · intro other stage inside
      exact absurd (excluded.locked other stage inside) (by simp [free])
    · rfl
    · exact fun _ => stale
  | replied inside proceeded => exact resume_excluded excluded inside proceeded

theorem excluded_run {settings : Settings} {admits : Callers ι → CallerAction ι → Prop} {callers : Callers ι}
    (reached : Reaches (step settings) admits start callers) : callers.Excluded := by
  apply reached.invariant
  · exact excluded_start
  · intro before action after output excluded _ taken
    exact excluded_step excluded taken

/-! ### Where a login begins -/

/-- What brings a caller into the block at a stage: it was there at the same phase, took the
lock, began a login or minted its token. -/
theorem inBlock_step {settings : Settings} {before after : Callers ι} {action : CallerAction ι} {caller : ι}
    {stage : Stage} (taken : before.step settings action = some (after,())) (inside : after.InBlock caller stage) :
    (∃ earlier, before.InBlock caller earlier ∧ stage.phase = earlier.phase) ∨
    (action = .acquire caller ∧ before.fresh = none ∧ stage.phase = .searching) ∨
    (before.Searches caller ∧ live before.now before.redis.token = none ∧ stage = .loggingIn) ∨
    (∃ earlier minted, before.InBlock caller earlier ∧ earlier.phase = .signingIn ∧ stage = .reconnecting minted ∧
      after.held = some ⟨minted.login,after.now + minted.effectiveTtl,false⟩) := by
  cases step_moved taken with
  | aged => exact Or.inl ⟨stage,inside,rfl⟩
  | shared => exact Or.inl ⟨stage,inside,rfl⟩
  | landed _ landing => exact Or.inl ⟨stage,inBlock_put (landing_outside landing) inside,rfl⟩
  | entered free stale =>
    rcases inBlock_put_inside inside with ⟨rfl,rfl⟩ | known
    · exact Or.inr (Or.inl ⟨rfl,stale,rfl⟩)
    · exact Or.inl ⟨stage,known,rfl⟩
  | @replied replying reply earlier progress there proceeded =>
    cases proceeded with
    | raised jar =>
      rw [resume_leave] at inside
      exact Or.inl ⟨stage,inBlock_put (settled_outside _) inside,rfl⟩
    | kept store jar next same =>
      rw [resume_reach] at inside
      rcases inBlock_put_inside inside with ⟨rfl,rfl⟩ | known
      · exact Or.inl ⟨earlier,there,same⟩
      · exact Or.inl ⟨stage,known,rfl⟩
    | begun searching dead =>
      rw [Client.login,resume_reach] at inside
      rcases inBlock_put_inside inside with ⟨rfl,rfl⟩ | known
      · exact Or.inr (Or.inr (Or.inl ⟨⟨earlier,there,by simp [Stage.logsIn,searching]⟩,dead,rfl⟩))
      · exact Or.inl ⟨stage,known,rfl⟩
    | restored jar found ttl searching =>
      rw [resume_leave] at inside
      exact Or.inl ⟨stage,inBlock_put (settled_outside _) inside,rfl⟩
    | minted jar minted signingIn =>
      rw [resume_reach] at inside ⊢
      rcases inBlock_put_inside inside with ⟨rfl,rfl⟩ | known
      · exact Or.inr (Or.inr (Or.inr ⟨earlier,minted,there,signingIn,rfl,rfl⟩))
      · exact Or.inl ⟨stage,known,rfl⟩
    | finished store storing =>
      rw [resume_leave] at inside
      exact Or.inl ⟨stage,inBlock_put (settled_outside _) inside,rfl⟩

theorem login_begins {settings : Settings} {before after : Callers ι} {action : CallerAction ι} {caller : ι}
    (taken : before.step settings action = some (after,())) (loggingIn : after.LogsIn caller) :
    before.LogsIn caller ∨ before.Searches caller ∧ live before.now before.redis.token = none := by
  obtain ⟨stage,inside,logsIn⟩ := loggingIn
  rcases inBlock_step taken inside with ⟨earlier,there,same⟩ | ⟨_,_,searching⟩ | ⟨searches,dead,_⟩ |
    ⟨earlier,minted,there,signingIn,_⟩
  · refine Or.inl ⟨earlier,there,?_⟩
    rw [Stage.logsIn,← same]
    exact logsIn
  · simp [Stage.logsIn,searching] at logsIn
  · exact Or.inr ⟨searches,dead⟩
  · exact Or.inl ⟨earlier,there,by simp [Stage.logsIn,signingIn]⟩

theorem search_begins {settings : Settings} {before after : Callers ι} {action : CallerAction ι} {caller : ι}
    (taken : before.step settings action = some (after,())) (searches : after.Searches caller) :
    before.Searches caller ∨ action = .acquire caller ∧ before.fresh = none := by
  obtain ⟨stage,inside,searching⟩ := searches
  rcases inBlock_step taken inside with ⟨earlier,there,same⟩ | ⟨acquired,stale,_⟩ | ⟨_,_,rfl⟩ |
    ⟨earlier,minted,_,_,rfl,_⟩
  · refine Or.inl ⟨earlier,there,?_⟩
    rw [Stage.logsIn,← same]
    exact searching
  · exact Or.inr ⟨acquired,stale⟩
  · simp [Stage.logsIn,Stage.phase] at searching
  · simp [Stage.logsIn,Stage.phase] at searching

/-- Who searches took the lock over a stale token, and has searched since. -/
theorem search_since {settings : Settings} {callers : Callers ι} {caller : ι}
    (reached : Reaches (step settings) (fun _ _ => True) start callers) (searches : callers.Searches caller) :
    ∃ earlier took, Reaches (step settings) (fun _ _ => True) start earlier ∧ earlier.fresh = none ∧
      earlier.step settings (.acquire caller) = some (took,()) ∧
      Reaches (step settings) (fun between _ => between.Searches caller) took callers := by
  induction reached with
  | start =>
    obtain ⟨stage,inside,_⟩ := searches
    exact absurd inside (by simp [InBlock,start])
  | @step before after action output reached _ taken ih =>
    rcases search_begins taken searches with known | ⟨rfl,stale⟩
    · obtain ⟨earlier,took,early,stale,acquired,since⟩ := ih known
      exact ⟨earlier,took,early,stale,acquired,Reaches.step since known taken⟩
    · exact ⟨before,after,reached,stale,taken,Reaches.start⟩

/-! ### After a failed login -/

theorem raise_releases {settings : Settings} {before after : Callers ι} {action : CallerAction ι} {caller : ι}
    {stage : Stage} (taken : before.step settings action = some (after,())) (inside : before.InBlock caller stage)
    (raised : after.place caller = .raised) : after.locked = false ∧ after.fresh = before.fresh := by
  have still : before.place caller ≠ .raised := by rw [inside]; simp
  cases step_moved taken with
  | aged => exact absurd raised still
  | shared => exact absurd raised still
  | @landed action other place outside landing =>
    rw [put_place] at raised
    split at raised
    next same =>
      subst same
      exact absurd inside (outside stage)
    next => exact absurd raised still
  | entered =>
    rw [put_place] at raised
    split at raised
    next => simp at raised
    next => exact absurd raised still
  | @replied other reply earlier progress there proceeded =>
    cases proceeded with
    | raised jar =>
      rw [resume_leave]
      exact ⟨rfl,rfl⟩
    | finished store storing =>
      rw [resume_leave]
      exact ⟨rfl,rfl⟩
    | restored jar found ttl searching =>
      rw [resume_leave,put_place] at raised
      split at raised
      next => simp [settled] at raised
      next => exact absurd raised still
    | kept store jar next same =>
      rw [resume_reach,put_place] at raised
      split at raised
      next => simp at raised
      next => exact absurd raised still
    | begun searching dead =>
      rw [Client.login,resume_reach,put_place] at raised
      split at raised
      next => simp at raised
      next => exact absurd raised still
    | minted jar minted signingIn =>
      rw [resume_reach,put_place] at raised
      split at raised
      next => simp at raised
      next => exact absurd raised still

/-- A waiter that takes the free lock returns a token that is live; over a stale one it
searches, and logs in where Redis holds none. -/
def Retries (settings : Settings) (callers : Callers ι) (waiter : ι) : Prop :=
  ∃ next, callers.step settings (.acquire waiter) = some (next,()) ∧
    (∀ held, callers.fresh = some held → next.place waiter = .returned ⟨held.login,held.cached⟩) ∧
    (callers.fresh = none → next.Searches waiter ∧ (live callers.now callers.redis.token = none →
      ∃ last outputs, execute (step settings) (fun _ _ => True) [.reply waiter .done,.reply waiter .done] next =
        some (last,outputs) ∧ last.LogsIn waiter))

theorem connected_step {settings : Settings} {callers : Callers ι} {caller : ι}
    (inside : callers.InBlock caller .connecting) :
    callers.step settings (.reply caller .done) = some (callers.put caller (.inside .readingToken),()) := by
  rw [InBlock] at inside
  simp only [step,inside,proceed,resume_reach]
  rfl

theorem dead_token_step {settings : Settings} {callers : Callers ι} {caller : ι}
    (inside : callers.InBlock caller .readingToken) (dead : live callers.now callers.redis.token = none) :
    callers.step settings (.reply caller .done) =
      some (({callers with jar := []} : Callers ι).put caller (.inside .loggingIn),()) := by
  rw [InBlock] at inside
  simp only [step,inside,proceed,dead,Client.login,resume_reach]
  rfl

theorem waiter_retries {settings : Settings} {callers : Callers ι} {waiter : ι} (free : callers.locked = false)
    (queued : callers.place waiter = .queued) : callers.Retries settings waiter := by
  cases known : callers.fresh with
  | some held =>
    refine ⟨callers.put waiter (.returned ⟨held.login,held.cached⟩),?_,?_,?_⟩
    · simp [step,queued,free,known]
    · intro other same
      rw [← Option.some.inj (known.symm.trans same),put_place,if_pos rfl]
    · intro stale
      exact absurd (known.symm.trans stale) (by simp)
  | none =>
    let entered := ({callers with locked := true} : Callers ι).put waiter (.inside .connecting)
    have connecting : entered.InBlock waiter .connecting := by simp [InBlock,entered]
    have reading : (entered.put waiter (.inside .readingToken)).InBlock waiter .readingToken := by simp [InBlock]
    refine ⟨entered,?_,?_,fun _ => ⟨⟨.connecting,connecting,rfl⟩,fun dead => ?_⟩⟩
    · simp [step,queued,free,known,entered]
    · intro held same
      exact absurd (known.symm.trans same) (by simp)
    · let begun := ({entered.put waiter (.inside .readingToken) with jar := []} : Callers ι).put waiter (.inside .loggingIn)
      have ran : execute (step settings) (fun _ _ => True) [.reply waiter .done,.reply waiter .done] entered =
          some (begun,[(),()]) := by
        simp only [execute,if_true,connected_step connecting,dead_token_step reading dead,Option.bind_eq_bind,
          Option.bind_some]
        rfl
      exact ⟨begun,_,ran,.loggingIn,by simp [InBlock,begun],rfl⟩

/-! ### While a minted token is live -/

theorem now_le {settings : Settings} {before after : Callers ι} {action : CallerAction ι}
    (taken : before.step settings action = some (after,())) : before.now ≤ after.now := by
  cases step_moved taken with
  | aged forward => exact le_add_of_nonneg_right forward
  | _ => exact le_refl _

/-- The token is in process and nobody is in the block but to store it. -/
def Shares (callers : Callers ι) (login : Login) (expiresAt : Rat) : Prop :=
  callers.held = some ⟨login,expiresAt,false⟩ ∧ ∀ caller stage, callers.InBlock caller stage → stage.phase = .storing

def Resumes (action : CallerAction ι) (caller : ι) : Prop :=
  action = .call caller ∨ action = .acquire caller ∨ ∃ reply, action = .reply caller reply

omit [DecidableEq ι] in
theorem shares_fresh {callers : Callers ι} {login : Login} {expiresAt : Rat} (shares : callers.Shares login expiresAt)
    (alive : callers.now < expiresAt) : callers.fresh = some ⟨login,expiresAt,false⟩ :=
  fresh_some.mpr ⟨shares.1,alive⟩

theorem shares_minted {settings : Settings} {before after : Callers ι} {action : CallerAction ι} {caller : ι}
    {stage : Stage} {minted : Minted} (excluded : after.Excluded) (taken : before.step settings action = some (after,()))
    (inside : before.InBlock caller stage) (signingIn : stage.phase = .signingIn)
    (storing : after.InBlock caller (.reconnecting minted)) :
    after.Shares minted.login (after.now + minted.effectiveTtl) := by
  have held : after.held = some ⟨minted.login,after.now + minted.effectiveTtl,false⟩ := by
    rcases inBlock_step taken storing with ⟨earlier,there,same⟩ | ⟨_,_,searching⟩ | ⟨_,_,begun⟩ |
      ⟨earlier,other,_,_,same,held⟩
    · rw [Place.inside.inj (there.symm.trans inside),signingIn] at same
      exact absurd same (by simp [Stage.phase])
    · exact absurd searching (by simp [Stage.phase])
    · exact absurd begun (by simp)
    · rw [Stage.reconnecting.inj same]
      exact held
  refine ⟨held,?_⟩
  intro other known there
  have same := excluded.one other caller known (.reconnecting minted) there storing
  subst same
  rw [Place.inside.inj (there.symm.trans storing)]
  rfl

theorem shares_step {settings : Settings} {before after : Callers ι} {action : CallerAction ι} {login : Login}
    {expiresAt : Rat} (shares : before.Shares login expiresAt) (alive : before.now < expiresAt)
    (taken : before.step settings action = some (after,())) : after.Shares login expiresAt := by
  obtain ⟨held,storing⟩ := shares
  cases step_moved taken with
  | aged => exact ⟨held,storing⟩
  | shared => exact ⟨held,storing⟩
  | landed _ landing =>
    exact ⟨held,fun other stage inside => storing other stage (inBlock_put (landing_outside landing) inside)⟩
  | entered free stale =>
    rw [shares_fresh ⟨held,storing⟩ alive] at stale
    exact absurd stale (by simp)
  | @replied caller reply stage progress there proceeded =>
    have known := storing caller stage there
    cases proceeded with
    | raised jar =>
      rw [resume_leave]
      exact ⟨held,fun other stage inside => storing other stage (inBlock_put (settled_outside _) inside)⟩
    | kept store jar next same =>
      rw [resume_reach]
      refine ⟨held,?_⟩
      intro other stage inside
      rcases inBlock_put_inside inside with ⟨_,rfl⟩ | earlier
      · exact same.trans known
      · exact storing other stage earlier
    | begun searching => exact absurd (searching.symm.trans known) (by simp)
    | restored jar found ttl searching => exact absurd (searching.symm.trans known) (by simp)
    | minted jar minted signingIn => exact absurd (signingIn.symm.trans known) (by simp)
    | finished store =>
      rw [resume_leave]
      exact ⟨held,fun other stage inside => storing other stage (inBlock_put (settled_outside _) inside)⟩

theorem shares_run {settings : Settings} {callers later : Callers ι} {login : Login} {expiresAt : Rat}
    (shares : callers.Shares login expiresAt) (reached : Reaches (step settings) (fun _ _ => True) callers later)
    (alive : later.now < expiresAt) : later.Shares login expiresAt := by
  induction reached with
  | start => exact shares
  | step _ _ taken ih =>
    have earlier := lt_of_le_of_lt (now_le taken) alive
    exact shares_step (ih earlier) earlier taken

theorem shares_served {settings : Settings} {callers next : Callers ι} {action : CallerAction ι} {login : Login}
    {expiresAt : Rat} {caller : ι} (shares : callers.Shares login expiresAt) (alive : callers.now < expiresAt)
    (taken : callers.step settings action = some (next,())) (asks : action = .call caller ∨ action = .acquire caller) :
    next.place caller = .returned ⟨login,false⟩ := by
  have fresh := shares_fresh shares alive
  rcases asks with rfl | rfl
  · simp only [step,fresh] at taken
    split at taken
    next => simp at taken
    next => simp at taken
    next =>
      rw [← (Prod.mk.inj (Option.some.inj taken)).1,put_place,if_pos rfl]
  · simp only [step,fresh] at taken
    split at taken
    next =>
      split at taken
      next => simp at taken
      next => rw [← (Prod.mk.inj (Option.some.inj taken)).1,put_place,if_pos rfl]
    next => simp at taken

theorem shares_returned {settings : Settings} {callers next : Callers ι} {login : Login} {expiresAt : Rat} {caller : ι}
    {reply : Reply} {returned : Returned} (shares : callers.Shares login expiresAt)
    (taken : callers.step settings (.reply caller reply) = some (next,()))
    (done : next.place caller = .returned returned) : returned = ⟨login,false⟩ := by
  simp only [step] at taken
  split at taken
  next stage inside =>
    split at taken
    next => simp at taken
    next progress proceeded =>
      have known := shares.2 caller stage inside
      rw [← (Prod.mk.inj (Option.some.inj taken)).1] at done
      cases proceed_proceeded proceeded with
      | raised jar => simp [resume_leave,settled] at done
      | kept store jar next same => simp [resume_reach] at done
      | begun searching => exact absurd (searching.symm.trans known) (by simp)
      | restored jar found ttl searching => exact absurd (searching.symm.trans known) (by simp)
      | minted jar minted signingIn => exact absurd (signingIn.symm.trans known) (by simp)
      | finished store =>
        simp only [resume_leave,put_place,if_true,client,shares.1,Option.map_some,settled,Place.returned.injEq] at done
        exact done.symm
  next => simp at taken

/-- In every later state before the expiry, a caller that resumes returns the token, at once
when it calls or takes the lock, and no login begins. -/
def SharedWhileLive (settings : Settings) (callers : Callers ι) (login : Login) (expiresAt : Rat) : Prop :=
  ∀ later, Reaches (step settings) (fun _ _ => True) callers later → later.now < expiresAt →
    ∀ action next, later.step settings action = some (next,()) →
      (∀ caller, Resumes action caller → ∀ returned, next.place caller = .returned returned → returned = ⟨login,false⟩) ∧
      (∀ caller, action = .call caller ∨ action = .acquire caller → next.place caller = .returned ⟨login,false⟩) ∧
      ∀ caller, next.LogsIn caller → later.LogsIn caller

theorem sharedWhileLive {settings : Settings} {callers : Callers ι} {login : Login} {expiresAt : Rat}
    (shares : callers.Shares login expiresAt) : callers.SharedWhileLive settings login expiresAt := by
  intro later reached alive action next taken
  have shares := shares_run shares reached alive
  refine ⟨?_,fun caller asks => shares_served shares alive taken asks,?_⟩
  · intro caller resumes returned done
    rcases resumes with called | acquired | ⟨reply,rfl⟩
    · exact Place.returned.inj (done.symm.trans (shares_served shares alive taken (Or.inl called)))
    · exact Place.returned.inj (done.symm.trans (shares_served shares alive taken (Or.inr acquired)))
    · exact shares_returned shares taken done
  · intro caller loggingIn
    rcases login_begins taken loggingIn with known | ⟨⟨stage,inside,searching⟩,_⟩
    · exact known
    · simp [Stage.logsIn,shares.2 caller stage inside] at searching

/-! ### Every step of every run -/

/-- A login flow of the caller begins with this step. -/
def Begins (before after : Callers ι) (caller : ι) : Prop := ¬before.LogsIn caller ∧ after.LogsIn caller

/-- Since the caller took the lock, over a stale in-process token, it has searched Redis and
now finds no live token there. -/
def FoundNone (settings : Settings) (before : Callers ι) (caller : ι) : Prop :=
  live before.now before.redis.token = none ∧ before.fresh = none ∧
    ∃ earlier took, Reaches (step settings) (fun _ _ => True) start earlier ∧ earlier.fresh = none ∧
      earlier.step settings (.acquire caller) = some (took,()) ∧
      Reaches (step settings) (fun between _ => between.Searches caller) took before

theorem single_flight (settings : Settings) {before after : Callers ι} {action : CallerAction ι}
    (reached : Reaches (step settings) (fun _ _ => True) start before)
    (taken : before.step settings action = some (after,())) :
    (∀ a b, after.LogsIn a → after.LogsIn b → a = b) ∧
    (∀ caller, before.Begins after caller → before.FoundNone settings caller) ∧
    (∀ caller stage, before.InBlock caller stage → stage.logsIn = true → after.place caller = .raised →
      (stage.phase = .signingIn → after.fresh = none) ∧
      ∀ waiter, after.place waiter = .queued → after.Retries settings waiter) ∧
    (∀ caller stage minted, before.InBlock caller stage → stage.phase = .signingIn →
      after.InBlock caller (.reconnecting minted) →
      after.SharedWhileLive settings minted.login (after.now + minted.effectiveTtl)) := by
  have excluded := excluded_run reached
  have kept := excluded_step excluded taken
  refine ⟨?_,?_,?_,?_⟩
  · intro a b left right
    obtain ⟨s,left,_⟩ := left
    obtain ⟨t,right,_⟩ := right
    exact kept.one a b s t left right
  · intro caller begins
    rcases login_begins taken begins.2 with known | ⟨searches,dead⟩
    · exact absurd known begins.1
    · obtain ⟨stage,inside,searching⟩ := searches
      have early : stage.phase = .searching := by simpa [Stage.logsIn] using searching
      exact ⟨dead,excluded.stale caller stage inside (by simp [early]),search_since reached ⟨stage,inside,searching⟩⟩
  · intro caller stage inside _ raised
    obtain ⟨free,same⟩ := raise_releases taken inside raised
    refine ⟨?_,fun waiter queued => waiter_retries free queued⟩
    intro signingIn
    rw [same]
    exact excluded.stale caller stage inside (by simp [signingIn])
  · intro caller stage minted inside signingIn storing
    exact sharedWhileLive (shares_minted kept taken inside signingIn storing)

/-! ### Two callers -/

private def firstLogin : List (CallerAction Bool) :=
  [.call false,.acquire false,.call true,.reply false .done,.reply false .done,.reply false (.answered loggedIn)]

private def mintedBy (callers : Callers Bool) (caller : Bool) : Option Minted :=
  match callers.place caller with
  | .inside (.reconnecting minted) => some minted
  | _ => none

private def phaseOf (callers : Callers Bool) (caller : Bool) : Option Phase :=
  match callers.place caller with
  | .inside stage => some stage.phase
  | _ => none

private theorem mintedBy_inside {callers : Callers Bool} {caller : Bool} {minted : Minted}
    (known : mintedBy callers caller = some minted) : callers.InBlock caller (.reconnecting minted) := by
  rw [mintedBy] at known
  split at known
  next inside => rw [InBlock,inside,Option.some.inj known]
  next => simp at known

private theorem phaseOf_inside {callers : Callers Bool} {caller : Bool} {phase : Phase}
    (known : phaseOf callers caller = some phase) : ∃ stage, callers.InBlock caller stage ∧ stage.phase = phase := by
  rw [phaseOf] at known
  split at known
  next stage inside => exact ⟨stage,inside,Option.some.inj known⟩
  next => simp at known

theorem single_flight_shared : ∃ (before after : Callers Bool) (minted : Minted),
    before.step sampleSettings (.reply false (.answered (redirected (some "600")))) = some (after,()) ∧
      minted.login = ⟨"t1",[("SESSION","s1")],some 600⟩ ∧
      after.SharedWhileLive sampleSettings minted.login (after.now + minted.effectiveTtl) := by
  have ran : ((execute (step sampleSettings) (fun _ _ => True) firstLogin start).bind fun reached =>
      (reached.1.step sampleSettings (.reply false (.answered (redirected (some "600"))))).map fun next =>
        (phaseOf reached.1 false,(mintedBy next.1 false).map Minted.login)) =
      some (some .signingIn,some ⟨"t1",[("SESSION","s1")],some 600⟩) := by decide +kernel
  obtain ⟨⟨before,outputs⟩,run,stepped⟩ := Option.bind_eq_some_iff.mp ran
  obtain ⟨⟨after,_⟩,taken,same⟩ := Option.map_eq_some_iff.mp stepped
  obtain ⟨phase,login⟩ := Prod.mk.inj same
  obtain ⟨minted,stored,login⟩ := Option.map_eq_some_iff.mp login
  obtain ⟨stage,inside,signingIn⟩ := phaseOf_inside phase
  have flight := single_flight sampleSettings (reaches_execute .start run) taken
  exact ⟨before,after,minted,taken,login,
    flight.2.2.2 false stage minted inside signingIn (mintedBy_inside stored)⟩

end Callers

end AccessAgent.OpenIAMTokenClient
