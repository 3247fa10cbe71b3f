import AccessAgent.Remediation

/-! The gates of the remediation executor over any history: what may be asked of the
vault and a playbook, and what a refused call leaves behind. -/

namespace AccessAgent
open Semantics Remediation

variable {σ : Type} (collaborators : Collaborators σ)

def RemediationEvent.Irreversible : RemediationEvent → Prop
  | .approvalChecked _ _ => False
  | .credentialRequested => True
  | .playbookInvoked _ => True

structure Admitted (entry : RemediationState σ) (call : ExecutorCall) (playbook : Playbook σ) : Prop where
  alive : isRemediationKilled collaborators entry.world = false
  registered : entry.registry.find call.playbookId = some playbook
  inScope : playbook.tier ≠ .privilegedOutOfScope

theorem assert_exec (state : RemediationState σ) : (assertRemediationNotKilled collaborators).exec state =
    if isRemediationKilled collaborators state.world then
      (.error ⟨.killSwitchEngagedError,"Remediation kill switch is engaged."⟩,state)
    else (.ok (),state) := by
  rw [assertRemediationNotKilled,Effect.bind_answered (Effect.read_exec _ _)]
  split <;> rfl

theorem requireScope_exec (call : ExecutorCall) (playbook : Playbook σ) (state : RemediationState σ) :
    (∃ raised, (RemediationExecutor.requireScope call playbook).exec state = (.error raised,state) ∧
      playbook.tier = .privilegedOutOfScope) ∨
    ((RemediationExecutor.requireScope call playbook).exec state = (.ok (),state) ∧
      playbook.tier ≠ .privilegedOutOfScope) := by
  unfold RemediationExecutor.requireScope
  cases playbook.tier with
  | privilegedOutOfScope => exact Or.inl ⟨_,rfl,rfl⟩
  | _ => exact Or.inr ⟨rfl,nofun⟩

theorem requireApproval_exec (call : ExecutorCall) (playbook : Playbook σ) (state : RemediationState σ) :
    ∃ answer after checks,
      (RemediationExecutor.requireApproval collaborators call playbook).exec state = (answer,after) ∧
      after.trail = state.trail ++ checks ∧ (∀ event ∈ checks, ¬event.Irreversible) ∧
      after.actions = state.actions ∧
      (answer = .ok () → playbook.tier = .accessChanging → ∃ ticketId, call.approvalTicketId = some ticketId ∧
        ((collaborators.checkApproval ticketId).exec state.world).1 = .ok .approved ∧
        .approvalChecked ticketId (some .approved) ∈ checks) := by
  rw [RemediationExecutor.requireApproval]
  split
  next required =>
    cases ticket : call.approvalTicketId with
    | none => exact ⟨_,_,[],rfl,(List.append_nil _).symm,nofun,rfl,nofun⟩
    | some ticketId =>
      rcases checked : (collaborators.checkApproval ticketId).exec state.world with ⟨answer,world⟩
      have asking : (asked (fun answer => .approvalChecked ticketId answer.toOption)
          (collaborators.checkApproval ticketId)).exec state = (answer,{state with
            world := world
            trail := state.trail ++ [.approvalChecked ticketId answer.toOption]}) := by
        simp only [asked,checked]
      have harmless : ∀ event ∈ [RemediationEvent.approvalChecked ticketId answer.toOption],
          ¬event.Irreversible := by
        intro event member
        rw [List.mem_singleton.mp member]
        exact id
      cases answer with
      | error raised => exact ⟨_,_,_,Effect.bind_raised asking _,rfl,harmless,rfl,nofun⟩
      | ok status =>
        dsimp only
        rw [Effect.bind_answered asking]
        by_cases approved : status = .approved
        · rw [if_pos approved]
          refine ⟨_,_,_,rfl,rfl,harmless,rfl,fun _ _ => ⟨ticketId,rfl,?_,?_⟩⟩
          · rw [checked,approved]
          · rw [approved]
            exact List.mem_singleton.mpr rfl
        · rw [if_neg approved]
          exact ⟨_,_,_,rfl,rfl,harmless,rfl,nofun⟩
  next free =>
    refine ⟨_,_,[],rfl,(List.append_nil _).symm,nofun,rfl,fun _ changing => ?_⟩
    rw [changing] at free
    exact absurd rfl free

structure Occasion (σ : Type) where
  entry : RemediationState σ
  call : ExecutorCall

namespace Occasion

def outcome (occasion : Occasion σ) : Except Exn Json × RemediationState σ :=
  (RemediationExecutor.execute collaborators occasion.call).exec occasion.entry

def events (occasion : Occasion σ) : List RemediationEvent :=
  (occasion.outcome collaborators).2.trail.drop occasion.entry.trail.length

/-- The call passes its gates: the last one is the answer of the approval gate. -/
def Authorized (occasion : Occasion σ) : Prop :=
  ∃ playbook, Admitted collaborators occasion.entry occasion.call playbook ∧
    (playbook.tier = .accessChanging → ∃ ticketId, occasion.call.approvalTicketId = some ticketId ∧
      ((collaborators.checkApproval ticketId).exec occasion.entry.world).1 = .ok .approved)

structure Gated (occasion : Occasion σ) : Prop where
  extended : (occasion.outcome collaborators).2.trail = occasion.entry.trail ++ occasion.events collaborators
  irreversible : ∀ before event after, occasion.events collaborators = before ++ event::after → event.Irreversible →
    ∃ playbook, Admitted collaborators occasion.entry occasion.call playbook ∧
      (playbook.tier = .accessChanging → ∃ ticketId, occasion.call.approvalTicketId = some ticketId ∧
        .approvalChecked ticketId (some .approved) ∈ before)
  refused : ¬occasion.Authorized collaborators →
    (∃ raised, (occasion.outcome collaborators).1 = .error raised) ∧
      (∀ event ∈ occasion.events collaborators, ¬event.Irreversible) ∧
      (occasion.outcome collaborators).2.actions = occasion.entry.actions

inductive Fate (occasion : Occasion σ) : Prop
  | refused (raised : Exn) (after : RemediationState σ) (checks : List RemediationEvent)
      (outcome : occasion.outcome collaborators = (.error raised,after))
      (trail : after.trail = occasion.entry.trail ++ checks) (harmless : ∀ event ∈ checks, ¬event.Irreversible)
      (rows : after.actions = occasion.entry.actions)
  | passed (playbook : Playbook σ) (reached : RemediationState σ) (checks : List RemediationEvent)
      (admitted : Admitted collaborators occasion.entry occasion.call playbook)
      (approved : playbook.tier = .accessChanging → ∃ ticketId, occasion.call.approvalTicketId = some ticketId ∧
        ((collaborators.checkApproval ticketId).exec occasion.entry.world).1 = .ok .approved ∧
        .approvalChecked ticketId (some .approved) ∈ checks)
      (outcome : occasion.outcome collaborators =
        (RemediationExecutor.remediate collaborators occasion.call playbook).exec reached)
      (trail : reached.trail = occasion.entry.trail ++ checks) (harmless : ∀ event ∈ checks, ¬event.Irreversible)

theorem fate (occasion : Occasion σ) : Fate collaborators occasion := by
  obtain ⟨entry,call⟩ := occasion
  have whole : (Occasion.mk entry call).outcome collaborators =
      (RemediationExecutor.execute collaborators call).exec entry := rfl
  have gate := assert_exec collaborators entry
  rw [RemediationExecutor.execute] at whole
  cases killed : isRemediationKilled collaborators entry.world with
  | true =>
    rw [killed] at gate
    rw [Effect.bind_raised gate] at whole
    exact Fate.refused _ _ [] whole (List.append_nil _).symm nofun rfl
  | false =>
    rw [killed] at gate
    rw [Effect.bind_answered gate,Effect.bind_answered (Effect.read_exec _ _),PlaybookRegistry.get] at whole
    cases found : entry.registry.find call.playbookId with
    | none =>
      rw [found] at whole
      exact Fate.refused _ _ [] whole (List.append_nil _).symm nofun rfl
    | some playbook =>
      rw [found,Effect.bind_answered (Effect.lift_exec _ _)] at whole
      rcases requireScope_exec call playbook entry with ⟨raised,scope,_⟩ | ⟨scope,inScope⟩
      · rw [Effect.bind_raised scope] at whole
        exact Fate.refused _ _ [] whole (List.append_nil _).symm nofun rfl
      rw [Effect.bind_answered scope] at whole
      obtain ⟨answer,reached,checks,approval,trail,harmless,rows,approved⟩ :=
        requireApproval_exec collaborators call playbook entry
      cases answer with
      | error raised =>
        rw [Effect.bind_raised approval] at whole
        exact Fate.refused _ _ checks whole trail harmless rows
      | ok answer =>
        rw [Effect.bind_answered approval] at whole
        exact Fate.passed playbook reached checks ⟨killed,found,inScope⟩ (approved rfl) whole trail harmless

end Occasion

/-- A relation kept by every way the executor has of changing the state. -/
structure KeptByCalls (related : RemediationState σ → RemediationState σ → Prop) : Prop where
  reflexive : ∀ state, related state state
  transitive : ∀ a b c, related a b → related b c → related a c
  awaited : ∀ state world, related state {state with world := world}
  asked : ∀ state world event, related state {state with world := world,trail := state.trail ++ [event]}
  marked : ∀ state actionId status, related state {state with
    actions := state.actions.map fun action => if action.id = actionId then {action with status := status} else action}

section KeptByCalls
variable {related : RemediationState σ → RemediationState σ → Prop}

theorem updateStatus_always (kept : KeptByCalls related) (actionId : Uuid) (status : String) :
    Always related (RemediationRepository.updateStatus collaborators actionId status) := by
  apply Always.bind kept.transitive
  · exact Always.bind kept.transitive (fun state => kept.awaited state _) (fun _ => kept.reflexive)
  intro action
  cases action with
  | none => exact kept.reflexive
  | some action =>
    exact Always.bind kept.transitive (fun state => kept.marked state actionId status) (fun _ state => kept.awaited state _)

theorem remediate_always (kept : KeptByCalls related) (call : ExecutorCall) (playbook : Playbook σ) :
    Always related (RemediationExecutor.remediate collaborators call playbook) := by
  apply Always.bind kept.transitive (fun state => kept.asked state _ _)
  intro credential
  apply Always.bind kept.transitive (fun state => kept.asked state _ _)
  intro rollbackData
  apply Always.bind kept.transitive (fun state => kept.reflexive state)
  intro actionId
  exact Always.bind kept.transitive (updateStatus_always collaborators kept actionId "executed") (fun _ => kept.reflexive)

end KeptByCalls

theorem trail_kept : KeptByCalls (fun before after : RemediationState σ => before.trail <+: after.trail) where
  reflexive _ := List.prefix_refl _
  transitive _ _ _ early late := early.trans late
  awaited _ _ := List.prefix_refl _
  asked _ _ _ := List.prefix_append _ _
  marked _ _ _ := List.prefix_refl _

theorem Occasion.gated (occasion : Occasion σ) : occasion.Gated collaborators := by
  cases occasion.fate collaborators with
  | refused raised after checks outcome trail harmless rows =>
    have events : occasion.events collaborators = checks := by
      rw [Occasion.events,outcome,trail,List.drop_left]
    refine ⟨?_,?_,fun _ => ⟨⟨raised,by rw [outcome]⟩,by rwa [events],by rw [outcome]; exact rows⟩⟩
    · rw [outcome,events]
      exact trail
    · intro before event later shape irreversible
      rw [events] at shape
      exact absurd irreversible (harmless event (by rw [shape]; simp))
  | passed playbook reached checks admitted approved outcome trail harmless =>
    obtain ⟨effects,extended⟩ := remediate_always collaborators trail_kept occasion.call playbook reached
    rw [← outcome,trail,List.append_assoc] at extended
    have events : occasion.events collaborators = checks ++ effects := by
      rw [Occasion.events,← extended,List.drop_left]
    refine ⟨?_,?_,?_⟩
    · rw [events]
      exact extended.symm
    · intro before event later shape irreversible
      rw [events] at shape
      refine ⟨playbook,admitted,fun changing => ?_⟩
      obtain ⟨ticketId,ticket,_,checked⟩ := approved changing
      refine ⟨ticketId,ticket,?_⟩
      -- an irreversible event cannot stand among the checks, so they all precede it
      rcases List.append_eq_append_iff.mp shape with ⟨rest,same,_⟩ | ⟨rest,same,split⟩
      · rw [same]
        exact List.mem_append_left _ checked
      · cases rest with
        | nil =>
          rw [List.append_nil] at same
          rwa [← same]
        | cons head rest =>
          obtain ⟨rfl,_⟩ := List.cons.inj split
          exact absurd irreversible (harmless event (by rw [same]; simp))
    · intro unauthorized
      refine absurd ⟨playbook,admitted,fun changing => ?_⟩ unauthorized
      obtain ⟨ticketId,ticket,answer,_⟩ := approved changing
      exact ⟨ticketId,ticket,answer⟩

/-! ### Histories -/

/-- What can happen to the state between and through the calls of the executor. -/
inductive RemediationOperation (σ : Type)
  | meanwhile (change : σ → σ)
  | register (playbook : Playbook σ)
  | requestRemediation (diagnosticRunId : Uuid) (playbookId : String) (tier : Tier)
  | execute (call : ExecutorCall)
  | executeAction (actionId : Uuid) (subjectSub systemId correlationId : String) (approvalTicketId : Option String)

namespace RemediationOperation

def perform (state : RemediationState σ) : RemediationOperation σ → RemediationState σ
  | .meanwhile change => {state with world := change state.world}
  | .register playbook => {state with registry := state.registry.register playbook}
  | .requestRemediation diagnosticRunId playbookId tier =>
    ((RemediationService.requestRemediation collaborators diagnosticRunId playbookId tier).exec state).2
  | .execute call => ((RemediationExecutor.execute collaborators call).exec state).2
  | .executeAction actionId subjectSub systemId correlationId approvalTicketId =>
    ((RemediationService.execute collaborators actionId subjectSub systemId correlationId approvalTicketId).exec
      state).2

def occasions (state : RemediationState σ) : RemediationOperation σ → List (Occasion σ)
  | .execute call => [⟨state,call⟩]
  | .executeAction actionId subjectSub systemId correlationId approvalTicketId =>
    match (RemediationRepository.getAction collaborators actionId).exec state with
    | (.ok (some action),reached) => [⟨reached,RemediationService.callFor collaborators action subjectSub systemId
        correlationId approvalTicketId⟩]
    | _ => []
  | _ => []

def history : List (RemediationOperation σ) → RemediationState σ → List (Occasion σ) × RemediationState σ
  | [],state => ([],state)
  | operation::rest,state =>
    let (later,last) := history rest (operation.perform collaborators state)
    (operation.occasions collaborators state ++ later,last)

theorem perform_trail (state : RemediationState σ) (operation : RemediationOperation σ) :
    (operation.perform collaborators state).trail = state.trail ++
      (operation.occasions collaborators state).flatMap (Occasion.events collaborators) := by
  cases operation with
  | meanwhile change => exact (List.append_nil _).symm
  | register playbook => exact (List.append_nil _).symm
  | requestRemediation diagnosticRunId playbookId tier =>
    rw [perform,RemediationService.requestRemediation,RemediationRepository.createAction]
    rw [Effect.bind_answered (Effect.read_exec _ _),Effect.bind_answered (Effect.update_exec _ _),Effect.bind_exec]
    split
    next flushed reached ran =>
      obtain ⟨_,rfl⟩ := Prod.mk.inj ran
      exact (List.append_nil _).symm
    next raised reached ran =>
      obtain ⟨_,rfl⟩ := Prod.mk.inj ran
      exact (List.append_nil _).symm
  | execute call =>
    rw [perform,occasions,List.flatMap_singleton]
    exact (Occasion.gated collaborators ⟨state,call⟩).extended
  | executeAction actionId subjectSub systemId correlationId approvalTicketId =>
    rw [perform,occasions,RemediationService.execute,Effect.bind_exec]
    rcases ran : (RemediationRepository.getAction collaborators actionId).exec state with ⟨answer,reached⟩
    have same : reached.trail = state.trail := by
      rw [RemediationRepository.getAction,Effect.bind_exec] at ran
      split at ran
      next selected middle select =>
        obtain ⟨_,rfl⟩ := Prod.mk.inj select
        obtain ⟨_,rfl⟩ := Prod.mk.inj ran
        rfl
      next raised middle select =>
        obtain ⟨_,rfl⟩ := Prod.mk.inj select
        obtain ⟨_,rfl⟩ := Prod.mk.inj ran
        rfl
    rcases answer with raised | found
    · exact same.trans (List.append_nil _).symm
    · cases found with
      | none => exact same.trans (List.append_nil _).symm
      | some action =>
        rw [List.flatMap_singleton,← same]
        exact (Occasion.gated collaborators ⟨reached,_⟩).extended

end RemediationOperation

/-- Over every history, each request for the write credential and each call of a playbook
belongs to a call that had passed its gates, and a refused call raises and does nothing. -/
theorem remediation_gated (operations : List (RemediationOperation σ)) (start : RemediationState σ) :
    let (occasions,last) := RemediationOperation.history collaborators operations start
    last.trail = start.trail ++ occasions.flatMap (Occasion.events collaborators) ∧
      ∀ occasion ∈ occasions, occasion.Gated collaborators := by
  refine ⟨?_,fun occasion _ => occasion.gated collaborators⟩
  induction operations generalizing start with
  | nil => exact (List.append_nil _).symm
  | cons operation rest ih =>
    have later := ih (operation.perform collaborators start)
    rw [RemediationOperation.perform_trail,List.append_assoc,← List.flatMap_append] at later
    exact later

end AccessAgent
