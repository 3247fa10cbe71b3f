import AccessAgent.OpenIAM.SingleFlight
import AccessAgent.Semantics.Potential

/-! Every call of `get_access_token` comes to its end. Each answer takes the caller that awaits
it further on, a step to the lock or out of it counted, and the lock is never left behind. -/

namespace AccessAgent.OpenIAMTokenClient
open Semantics

variable {ι : Type}

namespace Stage

/-- The answers that are still to come, at most. -/
def answersLeft : Stage → Nat
  | .connecting => 9
  | .readingToken => 8
  | .readingTtl _ => 7
  | .readingCookies _ _ => 1
  | .loggingIn => 6
  | .authorizing _ => 5
  | .introspecting _ _ => 4
  | .reconnecting _ => 3
  | .storingToken _ => 2
  | .storingCookies _ => 1

/-- The HTTP answers that are still to come, at most. -/
def requestsLeft : Stage → Nat
  | .loggingIn => 3
  | .authorizing _ => 2
  | .introspecting _ _ => 1
  | .connecting => 3
  | .readingToken => 3
  | .readingTtl _ => 3
  | _ => 0

/-- What can come as an answer: an exception, and otherwise a response where one was requested. -/
def Fits (stage : Stage) : Reply → Prop
  | .failed => True
  | .done => stage.phase ≠ .signingIn
  | .answered _ => stage.phase = .signingIn

end Stage

namespace Place

def stepsLeft : Place → Nat
  | .queued => 10
  | .inside stage => stage.answersLeft
  | _ => 0

def requestsLeft : Place → Nat
  | .queued => 3
  | .inside stage => stage.requestsLeft
  | _ => 0

def Pending : Place → Prop
  | .queued => True
  | .inside _ => True
  | _ => False

end Place

def Reply.response : Reply → Bool
  | .answered _ => true
  | _ => false

/-! ### One answer -/

theorem answersLeft_pos (stage : Stage) : 0 < stage.answersLeft := by
  cases stage <;> exact Nat.succ_pos _

theorem settled_left (returned : Option Returned) :
    (Callers.settled returned).stepsLeft = 0 ∧ (Callers.settled returned).requestsLeft = 0 := by
  cases returned <;> exact ⟨rfl,rfl⟩

theorem proceed_advances {settings : Settings} {now : Rat} {redis : Redis} {client : Client ι} {caller : ι}
    {stage : Stage} {reply : Reply} {progress : Progress ι}
    (proceeded : proceed settings now redis client caller stage reply = some progress) :
    (Callers.placeOf progress).stepsLeft < stage.answersLeft ∧
      (Callers.placeOf progress).requestsLeft + (if reply.response then 1 else 0) ≤ stage.requestsLeft := by
  cases reply with
  | failed =>
    simp only [proceed] at proceeded
    rw [← Option.some.inj proceeded]
    exact ⟨answersLeft_pos stage,Nat.zero_le _⟩
  | answered answer =>
    cases stage with
    | loggingIn =>
      simp only [proceed] at proceeded
      split at proceeded <;> rw [← Option.some.inj proceeded]
      next => exact ⟨Nat.lt_succ_self 5,Nat.le_refl 3⟩
      next => exact ⟨Nat.succ_pos 5,Nat.succ_pos 2⟩
    | authorizing session =>
      simp only [proceed] at proceeded
      split at proceeded <;> rw [← Option.some.inj proceeded]
      next => exact ⟨show 3 < 5 by decide,Nat.succ_pos 1⟩
      next => exact ⟨Nat.lt_succ_self 4,Nat.le_refl 2⟩
      next => exact ⟨Nat.succ_pos 4,Nat.succ_pos 1⟩
    | introspecting session token =>
      simp only [proceed] at proceeded
      split at proceeded <;> rw [← Option.some.inj proceeded]
      next => exact ⟨Nat.lt_succ_self 3,Nat.le_refl 1⟩
      next => exact ⟨Nat.succ_pos 3,Nat.succ_pos 0⟩
    | _ => simp [proceed] at proceeded
  | done =>
    cases stage with
    | connecting =>
      simp only [proceed] at proceeded
      rw [← Option.some.inj proceeded]
      exact ⟨Nat.lt_succ_self 8,Nat.le_refl 3⟩
    | readingToken =>
      simp only [proceed] at proceeded
      split at proceeded <;> rw [← Option.some.inj proceeded]
      next => exact ⟨Nat.lt_succ_self 7,Nat.le_refl 3⟩
      next => exact ⟨show 6 < 8 by decide,Nat.le_refl 3⟩
    | readingTtl found =>
      simp only [proceed] at proceeded
      split at proceeded <;> rw [← Option.some.inj proceeded]
      next => exact ⟨show 1 < 7 by decide,Nat.zero_le 3⟩
      next => exact ⟨Nat.lt_succ_self 6,Nat.le_refl 3⟩
    | readingCookies found ttl =>
      simp only [proceed] at proceeded
      rw [← Option.some.inj proceeded]
      exact ⟨Nat.succ_pos 0,Nat.le_refl 0⟩
    | reconnecting minted =>
      simp only [proceed] at proceeded
      rw [← Option.some.inj proceeded]
      exact ⟨Nat.lt_succ_self 2,Nat.le_refl 0⟩
    | storingToken minted =>
      simp only [proceed] at proceeded
      rw [← Option.some.inj proceeded]
      exact ⟨Nat.lt_succ_self 1,Nat.le_refl 0⟩
    | storingCookies minted =>
      simp only [proceed] at proceeded
      rw [← Option.some.inj proceeded]
      obtain ⟨steps,requests⟩ := settled_left (client.held.map fun held => ⟨held.login,held.cached⟩)
      exact ⟨steps ▸ Nat.succ_pos 0,Nat.le_of_eq requests⟩
    | _ => simp [proceed] at proceeded

theorem proceed_fits (settings : Settings) (now : Rat) (redis : Redis) (client : Client ι) (caller : ι)
    {stage : Stage} {reply : Reply} (fits : stage.Fits reply) :
    (proceed settings now redis client caller stage reply).isSome := by
  cases reply with
  | failed => cases stage <;> rfl
  | done =>
    cases stage with
    | readingToken =>
      simp only [proceed]
      split <;> rfl
    | readingTtl found =>
      simp only [proceed]
      split <;> rfl
    | loggingIn => exact absurd rfl fits
    | authorizing session => exact absurd rfl fits
    | introspecting session token => exact absurd rfl fits
    | _ => rfl
  | answered answer =>
    cases stage with
    | loggingIn =>
      simp only [proceed]
      split <;> rfl
    | authorizing session =>
      simp only [proceed]
      split <;> rfl
    | introspecting session token =>
      simp only [proceed]
      split <;> rfl
    | _ => exact Phase.noConfusion fits

/-! ### Meters -/

/-- What a place has left of the counted steps, where a call is given what a place in the queue has. -/
structure Meter (ι : Type) (left : Place → Nat) (acquired : Bool) (answered : Reply → Bool) : Prop where
  returned : ∀ returned, left (.returned returned) = 0
  raised : left .raised = 0
  connecting : left (.inside .connecting) + (if acquired then 1 else 0) ≤ left .queued
  proceeds : ∀ (settings : Settings) now redis (client : Client ι) caller stage reply progress,
    proceed settings now redis client caller stage reply = some progress →
      left (Callers.placeOf progress) + (if answered reply then 1 else 0) ≤ left (.inside stage)

theorem steps_meter : Meter ι Place.stepsLeft true (fun _ => true) where
  returned _ := rfl
  raised := rfl
  connecting := Nat.le_refl 10
  proceeds _ _ _ _ _ _ _ _ proceeded := (proceed_advances proceeded).1

theorem requests_meter : Meter ι Place.requestsLeft false Reply.response where
  returned _ := rfl
  raised := rfl
  connecting := Nat.le_refl 3
  proceeds _ _ _ _ _ _ _ _ proceeded := (proceed_advances proceeded).2

/-! ### Any interleaving -/

variable [DecidableEq ι]

namespace CallerAction

def calls (caller : ι) : CallerAction ι → Bool
  | .call named => named = caller
  | _ => false

/-- The steps of a caller that are counted: taking the lock or not, and some of its answers. -/
def counted (acquired : Bool) (answered : Reply → Bool) (caller : ι) : CallerAction ι → Bool
  | .acquire named => named = caller && acquired
  | .reply named answer => named = caller && answered answer
  | _ => false

end CallerAction

namespace Callers

theorem put_elsewhere (callers : Callers ι) {named caller : ι} (other : named ≠ caller) (place : Place) :
    (callers.put named place).place caller = callers.place caller := by
  rw [put_place,if_neg (Ne.symm other)]

theorem put_own (callers : Callers ι) (caller : ι) (place : Place) : (callers.put caller place).place caller = place := by
  rw [put_place,if_pos rfl]

section Metered
variable {left : Place → Nat} {acquired : Bool} {answered : Reply → Bool}
  (meter : Meter ι left acquired answered)
include meter

theorem call_metered {settings : Settings} {before after : Callers ι} {named : ι}
    (taken : before.step settings (.call named) = some (after,())) (caller : ι) :
    left (after.place caller) ≤ left (before.place caller) + left .queued * (if named = caller then 1 else 0) := by
  simp only [step] at taken
  split at taken
  next => simp at taken
  next => simp at taken
  next =>
    by_cases same : named = caller
    · obtain rfl := same
      split at taken <;> obtain ⟨rfl,_⟩ := Prod.mk.inj (Option.some.inj taken)
      next => rw [put_own,meter.returned]; exact Nat.zero_le _
      next => rw [put_own,if_pos rfl,Nat.mul_one]; exact Nat.le_add_left _ _
    · split at taken <;> obtain ⟨rfl,_⟩ := Prod.mk.inj (Option.some.inj taken)
      next => rw [put_elsewhere _ same]; exact Nat.le_add_right _ _
      next => rw [put_elsewhere _ same]; exact Nat.le_add_right _ _

theorem acquire_metered {settings : Settings} {before after : Callers ι} {named : ι}
    (taken : before.step settings (.acquire named) = some (after,())) (caller : ι) :
    left (after.place caller) + (if named = caller ∧ acquired then 1 else 0) ≤ left (before.place caller) := by
  simp only [step] at taken
  split at taken
  next queued =>
    split at taken
    next => simp at taken
    next =>
      by_cases same : named = caller
      · obtain rfl := same
        have enough := meter.connecting
        rw [queued]
        split at taken <;> obtain ⟨rfl,_⟩ := Prod.mk.inj (Option.some.inj taken)
        next => rw [put_own,meter.returned]; simp; omega
        next => rw [put_own]; simpa using enough
      · split at taken <;> obtain ⟨rfl,_⟩ := Prod.mk.inj (Option.some.inj taken)
        next => rw [put_elsewhere _ same]; simp [same]
        next => rw [put_elsewhere _ same]; simp [same]
  next => simp at taken

theorem cancel_metered {settings : Settings} {before after : Callers ι} {named : ι}
    (taken : before.step settings (.cancel named) = some (after,())) (caller : ι) :
    left (after.place caller) ≤ left (before.place caller) := by
  simp only [step] at taken
  split at taken
  next =>
    obtain ⟨rfl,_⟩ := Prod.mk.inj (Option.some.inj taken)
    by_cases same : named = caller
    · obtain rfl := same
      rw [put_own,meter.raised]
      exact Nat.zero_le _
    · rw [put_elsewhere _ same]
  next => simp at taken

theorem reply_metered {settings : Settings} {before after : Callers ι} {named : ι} {reply : Reply}
    (taken : before.step settings (.reply named reply) = some (after,())) (caller : ι) :
    left (after.place caller) + (if named = caller ∧ answered reply then 1 else 0) ≤ left (before.place caller) := by
  simp only [step] at taken
  split at taken
  next stage inside =>
    split at taken
    next => simp at taken
    next progress proceeded =>
      obtain ⟨rfl,_⟩ := Prod.mk.inj (Option.some.inj taken)
      by_cases same : named = caller
      · obtain rfl := same
        have proceeds := meter.proceeds _ _ _ _ _ _ _ _ proceeded
        rw [resume,put_own,inside]
        simpa using proceeds
      · rw [resume,put_elsewhere _ same]
        simp [same]
  next => simp at taken

theorem metered (settings : Settings) (caller : ι) :
    Amortised (step settings) (fun _ _ => True) (fun _ => True) (fun callers => left (callers.place caller))
      (fun _ action _ => 1 * if CallerAction.counted acquired answered caller action then 1 else 0)
      (fun _ action _ => left .queued * if CallerAction.calls caller action then 1 else 0) where
  kept _ _ _ _ _ _ _ := trivial
  paid before action after output _ _ taken := by
    cases action with
    | advance duration =>
      rw [step] at taken
      split at taken
      next forward =>
        obtain ⟨rfl,_⟩ := Prod.mk.inj (Option.some.inj taken)
        exact Nat.le_refl _
      next => simp at taken
    | written redis =>
      obtain ⟨rfl,_⟩ := Prod.mk.inj (Option.some.inj taken)
      exact Nat.le_refl _
    | fetched answer =>
      obtain ⟨rfl,_⟩ := Prod.mk.inj (Option.some.inj taken)
      exact Nat.le_refl _
    | call named => simpa [CallerAction.counted,CallerAction.calls] using call_metered meter taken caller
    | acquire named => simpa [CallerAction.counted,CallerAction.calls] using acquire_metered meter taken caller
    | cancel named => simpa [CallerAction.counted,CallerAction.calls] using cancel_metered meter taken caller
    | reply named reply => simpa [CallerAction.counted,CallerAction.calls] using reply_metered meter taken caller

end Metered

/-! ### The lock -/

/-- A taken lock has its holder in the block. -/
def Attended (callers : Callers ι) : Prop :=
  callers.locked = true → ∃ holder stage, callers.InBlock holder stage

theorem landed_attended {before : Callers ι} {caller : ι} {place : Place} (attended : before.Attended)
    (outside : ∀ stage, ¬before.InBlock caller stage) : (before.put caller place).Attended := by
  intro locked
  obtain ⟨holder,stage,inside⟩ := attended locked
  refine ⟨holder,stage,?_⟩
  rw [InBlock,put_elsewhere]
  · exact inside
  · rintro rfl
    exact outside stage inside

theorem resume_attended (before : Callers ι) (caller : ι) (progress : Progress ι) :
    (before.resume caller progress).Attended := by
  intro locked
  have held : progress.client.inside.isSome = true := by
    rw [resume,put] at locked
    exact (Bool.and_eq_true_iff.mp locked).2
  obtain ⟨⟨holder,stage⟩,inside⟩ := Option.isSome_iff_exists.mp held
  refine ⟨caller,stage,?_⟩
  rw [InBlock,resume,put_own,placeOf,inside]

theorem attended_step {settings : Settings} {before after : Callers ι} {action : CallerAction ι}
    (attended : before.Attended) (taken : before.step settings action = some (after,())) : after.Attended := by
  cases step_moved taken with
  | aged forward => exact attended
  | shared redis jar => exact attended
  | landed outside landing => exact landed_attended attended outside
  | @entered caller free stale => exact fun _ => ⟨caller,.connecting,put_own _ _ _⟩
  | replied inside proceeded => exact resume_attended before _ _

theorem attended_run {settings : Settings} {callers : Callers ι}
    (reached : Reaches (step settings) (fun _ _ => True) start callers) : callers.Attended := by
  apply reached.invariant
  · exact fun locked => absurd locked Bool.false_ne_true
  · intro before action after output held _ taken
    exact attended_step held taken

theorem holder_moves (settings : Settings) {callers : Callers ι} {holder : ι} {stage : Stage}
    (inside : callers.InBlock holder stage) {reply : Reply} (fits : stage.Fits reply) :
    (callers.step settings (.reply holder reply)).isSome := by
  obtain ⟨progress,proceeded⟩ := Option.isSome_iff_exists.mp
    (proceed_fits settings callers.now callers.redis (callers.client holder stage) holder fits)
  have place : callers.place holder = .inside stage := inside
  simp only [step,place,proceeded]
  rfl

theorem queued_moves (settings : Settings) {callers : Callers ι} {caller : ι} (queued : callers.place caller = .queued)
    (free : callers.locked = false) : (callers.step settings (.acquire caller)).isSome := by
  simp only [step,queued,free]
  cases callers.fresh <;> rfl

theorem pending_moves (settings : Settings) {callers : Callers ι} {caller : ι} (attended : callers.Attended)
    (pending : (callers.place caller).Pending) : (callers.step settings (.acquire caller)).isSome ∨
      ∃ holder stage, callers.InBlock holder stage ∧
        ∀ reply, stage.Fits reply → (callers.step settings (.reply holder reply)).isSome := by
  have served : (∃ holder stage, callers.InBlock holder stage) → ∃ holder stage, callers.InBlock holder stage ∧
      ∀ reply, stage.Fits reply → (callers.step settings (.reply holder reply)).isSome := by
    rintro ⟨holder,stage,inside⟩
    exact ⟨holder,stage,inside,fun reply fits => holder_moves settings inside fits⟩
  cases place : callers.place caller with
  | queued =>
    cases locked : callers.locked with
    | false => exact Or.inl (queued_moves settings place locked)
    | true => exact Or.inr (served (attended locked))
  | inside stage => exact Or.inr (served ⟨caller,stage,place⟩)
  | _ =>
    rw [place] at pending
    exact pending.elim

/-- However the calls of one client are interleaved and answered, a caller takes at most ten steps
for each of its calls and gets at most three HTTP answers, and while it has not returned somebody
can be moved on: the lock is free for it, or its holder takes whatever answer it gets. -/
theorem calls_settle {settings : Settings} {actions : List (CallerAction ι)} {callers : Callers ι} {outputs : List Unit}
    (ran : execute (step settings) (fun _ _ => True) actions start = some (callers,outputs)) (caller : ι) :
    actions.countP (CallerAction.counted true (fun _ => true) caller) ≤ 10 * actions.countP (CallerAction.calls caller) ∧
    actions.countP (CallerAction.counted false Reply.response caller) ≤
      3 * actions.countP (CallerAction.calls caller) ∧
    ((callers.place caller).Pending → (callers.step settings (.acquire caller)).isSome ∨
      ∃ holder stage, callers.InBlock holder stage ∧
        ∀ reply, stage.Fits reply → (callers.step settings (.reply holder reply)).isSome) := by
  refine ⟨?_,?_,?_⟩
  · exact (metered steps_meter settings caller).bounded trivial rfl ran
  · exact (metered requests_meter settings caller).bounded trivial rfl ran
  · exact pending_moves settings (attended_run (reaches_execute .start ran))

/-! ### A caller behind a login that fails -/

private def failedLogin : List (CallerAction Bool) :=
  [.call false,.call true,.acquire false,.reply false .done,.reply false .done,.reply false .failed]

theorem calls_settle_waiting : ∃ callers : Callers Bool, callers.place true = .queued ∧
    ((callers.step sampleSettings (.acquire true)).isSome ∨ ∃ holder stage, callers.InBlock holder stage ∧
      ∀ reply, stage.Fits reply → (callers.step sampleSettings (.reply holder reply)).isSome) := by
  have ran : ∃ reached, execute (step sampleSettings) (fun _ _ => True) failedLogin start = some reached ∧
      reached.1.place true = .queued := ⟨_,rfl,rfl⟩
  obtain ⟨⟨callers,outputs⟩,run,queued⟩ := ran
  exact ⟨callers,queued,(calls_settle run true).2.2 (by rw [queued]; trivial)⟩

end Callers

end AccessAgent.OpenIAMTokenClient
