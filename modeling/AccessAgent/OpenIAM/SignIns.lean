import AccessAgent.OpenIAM.TokenRuns
import AccessAgent.Semantics.Potential
import Mathlib.Algebra.Order.BigOperators.Group.Finset
import Mathlib.Data.Fintype.BigOperators
import Mathlib.Tactic.Linarith

/-! How often the processes that share one Redis sign in. A token that one of them has stored keeps
all of them from signing in while it lives, so in a time that no stored token ends in, each process
signs in once, and once more for each login that fails. -/

namespace AccessAgent.OpenIAMTokenClient
open Semantics

variable {κ ι : Type}

/-- Between the login request and the write of its token to Redis. -/
def Stage.unsaved : Stage → Bool
  | .loggingIn => true
  | .authorizing _ => true
  | .introspecting _ _ => true
  | .reconnecting _ => true
  | .storingToken _ => true
  | _ => false

def Client.signingIn (client : Client ι) : Bool := client.inside.any fun entry => entry.2.unsaved

def Client.idle (client : Client ι) : Nat := if client.signingIn then 0 else 1

/-- The login whose token the step writes to Redis. -/
def Action.stored (system : System κ ι) : Action κ ι → Option Minted
  | .reply process .done => match (system.clients process).inside with
    | some (_,.storingToken minted) => some minted
    | _ => none
  | _ => none

namespace System

/-- A process begins to sign in. -/
def signIns (before : System κ ι) (action : Action κ ι) (after : System κ ι) : Nat :=
  match action with
  | .reply process _ => if (after.clients process).signingIn ∧ ¬(before.clients process).signingIn then 1 else 0
  | _ => 0

/-- A process leaves a login before its token is in Redis. -/
def failures (before : System κ ι) (action : Action κ ι) (after : System κ ι) : Nat :=
  match action with
  | .reply process _ => if (before.clients process).signingIn ∧ (after.clients process).inside.isNone then 1 else 0
  | _ => 0

/-- The step is taken before the deadline, and a token that it stores is to live so long at least. -/
def Brief (shortest deadline : Rat) (system : System κ ι) (action : Action κ ι) : Prop :=
  system.now < deadline ∧ ∀ minted ∈ action.stored system, shortest ≤ minted.effectiveTtl

instance (shortest deadline : Rat) (system : System κ ι) (action : Action κ ι) :
    Decidable (Brief shortest deadline system action) :=
  inferInstanceAs (Decidable (_ ∧ ∀ minted ∈ action.stored system, shortest ≤ minted.effectiveTtl))

/-- Redis holds a token that is live until the deadline. -/
def Lasts (deadline : Rat) (system : System κ ι) : Prop := ∃ entry ∈ system.redis.token, deadline ≤ entry.expiresAt

end System

/-! ### An answer -/

/-- What an answer does to the token key and to the login that awaits it. -/
inductive Saved (now : Rat) (redis : Redis) (stage : Stage) (reply : Reply) (progress : Progress ι) : Prop
  | kept (same : progress.redis.token = redis.token) (alike : progress.client.signingIn = stage.unsaved)
  | begun (same : progress.redis.token = redis.token) (dead : live now redis.token = none)
      (searching : stage.unsaved = false) (signs : progress.client.signingIn = true)
  | lost (same : progress.redis.token = redis.token) (signs : stage.unsaved = true)
      (left : progress.client.inside = none)
  | stored (minted : Minted) (storing : stage = .storingToken minted) (answered : reply = .done)
      (token : progress.redis.token = some ⟨minted.login,now + minted.effectiveTtl⟩)

/-- An exception leaves the block wherever it is raised. -/
theorem saved_leave {now : Rat} {redis : Redis} {client : Client ι} {stage : Stage} {reply : Reply} :
    Saved now redis stage reply ⟨redis,client.leave,none⟩ := by
  cases signs : stage.unsaved with
  | true => exact .lost rfl signs rfl
  | false => exact .kept rfl signs.symm

theorem proceed_saved {settings : Settings} {now : Rat} {redis : Redis} {client : Client ι} {caller : ι}
    {stage : Stage} {reply : Reply} {progress : Progress ι}
    (proceeded : proceed settings now redis client caller stage reply = some progress) :
    Saved now redis stage reply progress := by
  cases reply with
  | failed =>
    simp only [proceed] at proceeded
    rw [← Option.some.inj proceeded]
    exact saved_leave
  | answered answer =>
    cases stage with
    | loggingIn =>
      simp only [proceed] at proceeded
      split at proceeded <;> rw [← Option.some.inj proceeded]
      next => exact .kept rfl rfl
      next => exact saved_leave
    | authorizing session =>
      simp only [proceed] at proceeded
      split at proceeded <;> rw [← Option.some.inj proceeded]
      next => exact .kept rfl rfl
      next => exact .kept rfl rfl
      next => exact saved_leave
    | introspecting session token =>
      simp only [proceed] at proceeded
      split at proceeded <;> rw [← Option.some.inj proceeded]
      next => exact .kept rfl rfl
      next => exact saved_leave
    | _ => simp [proceed] at proceeded
  | done =>
    cases stage with
    | readingToken =>
      simp only [proceed] at proceeded
      split at proceeded <;> rw [← Option.some.inj proceeded]
      next => exact .kept rfl rfl
      next dead => exact .begun rfl dead rfl rfl
    | readingTtl found =>
      simp only [proceed] at proceeded
      split at proceeded <;> rw [← Option.some.inj proceeded]
      next => exact .kept rfl rfl
      next dead => exact .begun rfl dead rfl rfl
    | storingToken minted =>
      simp only [proceed] at proceeded
      rw [← Option.some.inj proceeded]
      exact .stored minted rfl rfl rfl
    | loggingIn => simp [proceed] at proceeded
    | authorizing session => simp [proceed] at proceeded
    | introspecting session token => simp [proceed] at proceeded
    | _ =>
      simp only [proceed] at proceeded
      rw [← Option.some.inj proceeded]
      exact .kept rfl rfl

/-! ### The processes together -/

variable [DecidableEq κ]

namespace System

instance (deadline : Rat) (system : System κ ι) : Decidable (Lasts deadline system) :=
  inferInstanceAs (Decidable (∃ entry ∈ system.redis.token, deadline ≤ entry.expiresAt))

variable [Fintype κ]

/-- The processes that are not signing in. -/
def idle (system : System κ ι) : Nat := ∑ process, (system.clients process).idle

omit [DecidableEq κ] in
theorem idle_le (system : System κ ι) : system.idle ≤ Fintype.card κ := by
  rw [idle,Fintype.card,Finset.card_eq_sum_ones]
  apply Finset.sum_le_sum
  intro process _
  rw [Client.idle]
  split
  · exact Nat.zero_le 1
  · exact Nat.le_refl 1

theorem idle_update (system : System κ ι) (redis : Redis) (process : κ) (client : Client ι) :
    ({system with redis := redis}.update process client).idle + (system.clients process).idle =
      system.idle + client.idle := by
  have weights : (fun other => (Function.update system.clients process client other).idle) =
      Function.update (fun other => (system.clients other).idle) process client.idle :=
    Function.comp_update Client.idle system.clients process client
  have before := Finset.add_sum_erase Finset.univ (fun other => (system.clients other).idle) (Finset.mem_univ process)
  have after := Finset.sum_update_of_mem (Finset.mem_univ process) (fun other => (system.clients other).idle) client.idle
  rw [Finset.sdiff_singleton_eq_erase,← weights] at after
  dsimp only at before after
  rw [idle,idle,update]
  dsimp only
  omega

/-! ### The bound -/

/-- The processes that may still sign in before the deadline. -/
def mayStill (deadline : Rat) (system : System κ ι) : Nat := if system.Lasts deadline then 0 else system.idle

omit [Fintype κ] in
theorem lasts_update {system : System κ ι} {redis : Redis} {process : κ} {client : Client ι} {deadline : Rat}
    (same : redis.token = system.redis.token) :
    ({system with redis := redis}.update process client).Lasts deadline ↔ system.Lasts deadline := by
  rw [Lasts,Lasts,← same]
  rfl

omit [DecidableEq κ] [Fintype κ] in
/-- A token that is dead before the deadline does not last until it. -/
theorem not_lasts {system : System κ ι} {deadline : Rat} (early : system.now < deadline)
    (dead : live system.now system.redis.token = none) : ¬system.Lasts deadline := by
  rintro ⟨entry,stored,long⟩
  have alive : live system.now system.redis.token = some entry := live_some.mpr ⟨stored,lt_of_lt_of_le early long⟩
  rw [dead] at alive
  simp at alive

theorem mayStill_alike {system : System κ ι} {redis : Redis} {process : κ} {client : Client ι} (deadline : Rat)
    (same : redis.token = system.redis.token) (alike : client.signingIn = (system.clients process).signingIn) :
    ({system with redis := redis}.update process client).mayStill deadline = system.mayStill deadline := by
  have idle := idle_update system redis process client
  rw [Client.idle,Client.idle,alike] at idle
  rw [mayStill,mayStill,Nat.add_right_cancel idle]
  exact if_congr (lasts_update same) rfl rfl

section
variable {settings : Settings} {shortest deadline : Rat} {before : System κ ι} {process : κ} {reply : Reply}
  {caller : ι} {stage : Stage} {progress : Progress ι} (timely : deadline ≤ before.now + shortest)
  (brief : Brief shortest deadline before (.reply process reply))
  (inside : (before.clients process).inside = some (caller,stage))
  (proceeded : proceed settings before.now before.redis (before.clients process) caller stage reply = some progress)
include timely brief inside

omit [Fintype κ] in
theorem stored_lasts {minted : Minted} (storing : stage = .storingToken minted) (answered : reply = .done)
    (token : progress.redis.token = some ⟨minted.login,before.now + minted.effectiveTtl⟩) :
    ({before with redis := progress.redis}.update process progress.client).Lasts deadline := by
  have long : shortest ≤ minted.effectiveTtl := by
    apply brief.2
    rw [answered,Action.stored,inside,storing]
    rfl
  refine ⟨_,token,?_⟩
  show deadline ≤ before.now + (minted.effectiveTtl : Rat)
  linarith

include proceeded

theorem reply_paid :
    let after := {before with redis := progress.redis}.update process progress.client
    after.mayStill deadline + before.signIns (.reply process reply) after ≤
      before.mayStill deadline + before.failures (.reply process reply) after := by
  have was : (before.clients process).signingIn = stage.unsaved := by rw [Client.signingIn,inside,Option.any_some]
  have self : ({before with redis := progress.redis}.update process progress.client).clients process = progress.client :=
    Function.update_self process _ _
  have idle := idle_update before progress.redis process progress.client
  simp only [signIns,failures,self,was]
  cases proceed_saved proceeded with
  | kept same alike =>
    rw [mayStill_alike deadline same (alike.trans was.symm),alike]
    simp
  | begun same dead searching signs =>
    have waits := not_lasts brief.1 dead
    rw [mayStill,mayStill,if_neg (mt (lasts_update same).mp waits),if_neg waits]
    simp only [Client.idle,was,searching,signs,Bool.false_eq_true,if_true,if_false] at idle
    simp [searching,signs]
    omega
  | lost same signs left =>
    have out : progress.client.signingIn = false := by rw [Client.signingIn,left,Option.any_none]
    simp only [Client.idle,was,signs,out,Bool.false_eq_true,if_true,if_false] at idle
    rw [mayStill,mayStill]
    simp only [lasts_update same,out,signs,left]
    split
    · simp
    · simp
      omega
  | stored minted storing answered token =>
    rw [mayStill,if_pos (stored_lasts timely brief inside storing answered token),storing]
    simp [Stage.unsaved]

omit [Fintype κ] in
theorem reply_spared (lasts : before.Lasts deadline) :
    let after := {before with redis := progress.redis}.update process progress.client
    after.Lasts deadline ∧ before.signIns (.reply process reply) after = 0 := by
  have was : (before.clients process).signingIn = stage.unsaved := by rw [Client.signingIn,inside,Option.any_some]
  have self : ({before with redis := progress.redis}.update process progress.client).clients process = progress.client :=
    Function.update_self process _ _
  simp only [signIns,self,was]
  cases proceed_saved proceeded with
  | kept same alike =>
    refine ⟨(lasts_update same).mpr lasts,?_⟩
    rw [alike,if_neg (fun begins => begins.2 begins.1)]
  | begun same dead searching signs => exact absurd lasts (not_lasts brief.1 dead)
  | lost same signs left =>
    refine ⟨(lasts_update same).mpr lasts,?_⟩
    rw [if_neg (fun begins => begins.2 signs)]
  | stored minted storing answered token =>
    refine ⟨stored_lasts timely brief inside storing answered token,?_⟩
    rw [storing,if_neg (fun begins => begins.2 rfl)]

end

variable [DecidableEq ι]

omit [Fintype κ] in
theorem timely_step {settings : Settings} {shortest deadline : Rat} {before after : System κ ι} {action : Action κ ι}
    {output : Option (κ × Returned)} (timely : deadline ≤ before.now + shortest)
    (taken : before.step settings action = some (after,output)) : deadline ≤ after.now + shortest := by
  cases step_moved taken with
  | advance forward =>
    show deadline ≤ before.now + _ + shortest
    linarith
  | _ => exact timely

theorem sign_ins_paid (settings : Settings) (shortest deadline : Rat) :
    Amortised (System.step settings) (Brief shortest deadline)
      (fun system : System κ ι => deadline ≤ system.now + shortest) (mayStill deadline) signIns failures where
  kept _ _ _ _ timely _ taken := timely_step timely taken
  paid before action after output timely brief taken := by
    cases step_moved taken with
    | advance forward => exact Nat.le_refl _
    | served fresh => exact Nat.le_refl _
    | queued waiting => exact Nat.le_of_eq (mayStill_alike deadline rfl rfl)
    | rechecked waiting fresh => exact Nat.le_of_eq (mayStill_alike deadline rfl rfl)
    | @entered process caller waiting free stale =>
      have out : (before.clients process).signingIn = false := by rw [Client.signingIn,free,Option.any_none]
      exact Nat.le_of_eq (mayStill_alike deadline rfl out.symm)
    | replied inside proceeded => exact reply_paid timely brief inside proceeded

omit [Fintype κ] in
/-- While Redis holds a token that lasts, no process begins to sign in. -/
theorem step_spared {settings : Settings} {shortest deadline : Rat} {before after : System κ ι} {action : Action κ ι}
    {output : Option (κ × Returned)} (timely : deadline ≤ before.now + shortest) (lasts : before.Lasts deadline)
    (brief : Brief shortest deadline before action) (taken : before.step settings action = some (after,output)) :
    after.Lasts deadline ∧ before.signIns action after = 0 := by
  cases step_moved taken with
  | replied inside proceeded => exact reply_spared timely brief inside proceeded lasts
  | _ => exact ⟨lasts,rfl⟩

/-- However many processes share one Redis and however their calls interleave: in less time than
any token stored meanwhile is to live, the processes sign in at most once each, and once more for
each login that fails, and not at all where Redis holds a token that lives so long. Redis tells the
time that a token has left exactly here; one that tells it in whole seconds gives none for the last
half second, in which a process signs in again. -/
theorem sign_ins_bounded {settings : Settings} {shortest : Rat} {actions : List (Action κ ι)} {first last : System κ ι}
    {outputs : List (Option (κ × Returned))}
    (ran : execute (System.step settings) (Brief shortest (first.now + shortest)) actions first = some (last,outputs)) :
    spent (System.step settings) signIns actions first ≤
      Fintype.card κ + spent (System.step settings) failures actions first ∧
    (first.Lasts (first.now + shortest) → spent (System.step settings) signIns actions first = 0) := by
  refine ⟨?_,?_⟩
  · have paid := (sign_ins_paid settings shortest (first.now + shortest)).run (le_refl _) ran
    have begun : first.mayStill (first.now + shortest) ≤ Fintype.card κ := by
      rw [mayStill]
      split
      · exact Nat.zero_le _
      · exact first.idle_le
    omega
  · intro lasts
    have spares : ∀ (before : System κ ι) action after output, first.now + shortest ≤ before.now + shortest ∧
        before.Lasts (first.now + shortest) → Brief shortest (first.now + shortest) before action →
        before.step settings action = some (after,output) → (first.now + shortest ≤ after.now + shortest ∧
          after.Lasts (first.now + shortest)) ∧ before.signIns action after = 0 := by
      intro before action after output held brief taken
      obtain ⟨spared,none⟩ := step_spared held.1 held.2 brief taken
      exact ⟨⟨timely_step held.1 taken,spared⟩,none⟩
    exact spent_zero spares ⟨le_refl _,lasts⟩ ran

/-! ### Two processes that sign in together -/

private def together : List (Action Bool Unit) :=
  [.call false (),.enter false (),.call true (),.enter true (),.reply false .done,.reply true .done,.reply false .done,
    .reply true .done,.advance 2,.reply false (.answered loggedIn),.reply false (.answered (redirected (some "600"))),
    .reply false .done,.reply false .done,.reply true .failed,.advance 400,.call true (),.enter true (),.reply true .done,
    .reply true .done,.reply true .done]

theorem sign_ins_bounded_together :
    let first : System Bool Unit := System.start
    ∃ last outputs, execute (System.step sampleSettings) (Brief 500 (first.now + 500)) together first = some (last,outputs) ∧
      spent (System.step sampleSettings) signIns together first = 2 ∧
      spent (System.step sampleSettings) failures together first = 1 ∧
      spent (System.step sampleSettings) signIns together first ≤
        Fintype.card Bool + spent (System.step sampleSettings) failures together first := by
  intro first
  have ran : (execute (System.step sampleSettings) (Brief 500 (first.now + 500)) together first).isSome = true := by
    decide +kernel
  obtain ⟨⟨last,outputs⟩,ran⟩ := Option.isSome_iff_exists.mp ran
  exact ⟨last,outputs,ran,by decide +kernel,by decide +kernel,(sign_ins_bounded ran).1⟩

end System

end AccessAgent.OpenIAMTokenClient
