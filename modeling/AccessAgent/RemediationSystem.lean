import Mathlib.Logic.Function.Basic
import AccessAgent.ExecutorStages
import AccessAgent.Semantics.Transition

/-! Remediation as a transition system: calls of the executor and of its service, each at
the stage where it waits, approval tickets and the decisions on them. Steps of different
calls follow each other in any order. -/

namespace AccessAgent
open Semantics Remediation

/-- A ticket with the action that approval was requested for. -/
structure IssuedTicket where
  id : String
  remediationActionId : String
  status : ApprovalStatus
deriving DecidableEq

inductive SystemEvent
  | requested (remediationActionId : String) (stored : Option String)
  | invoked (remediationActionId : String) (tier : Tier) (approved : List String)
  | completed (remediationActionId : String)
deriving DecidableEq

structure RemediationSystem (σ : Type) where
  state : RemediationState σ
  tickets : List IssuedTicket
  calls : Nat → Option (InFlight σ)
  nextCall : Nat
  log : List SystemEvent

inductive SystemAction (σ : Type)
  | meanwhile (change : σ → σ)
  | register (playbook : Playbook σ)
  | requestApproval (ticketId remediationActionId : String)
  | decide (ticketId : String) (status : ApprovalStatus)
  | requestRemediation (diagnosticRunId : Uuid) (playbookId : String) (tier : Tier)
  | execute (call : ExecutorCall)
  | executeAction (actionId : Uuid) (subjectSub systemId correlationId : String) (approvalTicketId : Option String)
  | resume (index : Nat)

def IssuedTicket.decide (ticketId : String) (status : ApprovalStatus) (ticket : IssuedTicket) : IssuedTicket :=
  if ticket.id = ticketId then {ticket with status := status} else ticket

variable {σ : Type} (collaborators : Collaborators σ)

namespace RemediationSystem

def opened (state : RemediationState σ) : RemediationSystem σ := ⟨state,[],fun _ => none,0,[]⟩

def ticket (system : RemediationSystem σ) (ticketId : String) : Option IssuedTicket :=
  system.tickets.find? (fun ticket => ticket.id = ticketId)

def approvedActions (system : RemediationSystem σ) : List String :=
  (system.tickets.filter (fun ticket => ticket.status = .approved)).map IssuedTicket.remediationActionId

def storedStatus (system : RemediationSystem σ) (remediationActionId : String) : Option String :=
  match collaborators.parseUuid remediationActionId with
  | .error _ => none
  | .ok actionId => (system.state.actions.find? (fun action => action.id = actionId)).map RemediationActionModel.status

/-- The gate reports the current status of a ticket, whenever its own call answers at all. -/
def gate (system : RemediationSystem σ) : Collaborators σ := {collaborators with
  checkApproval := fun ticketId => do
    let _ ← collaborators.checkApproval ticketId
    match system.ticket ticketId with
    | some ticket => return ticket.status
    | none => throw (Exn.keyError ticketId)}

def put (system : RemediationSystem σ) (index : Nat) (waiting : Option (InFlight σ)) : RemediationSystem σ :=
  {system with calls := Function.update system.calls index waiting}

def seat (system : RemediationSystem σ) (program : Remediation σ (InFlight σ)) : RemediationSystem σ :=
  match program.exec system.state with
  | (.ok inFlight,after) =>
    {system.put system.nextCall (some inFlight) with state := after,nextCall := system.nextCall + 1}
  | (.error _,after) => {system with state := after}

def observed (system : RemediationSystem σ) (inFlight : InFlight σ) (outcome : StageOutcome σ) : List SystemEvent :=
  let id := inFlight.call.remediationActionId
  match inFlight.stage,outcome with
  | .leasing,_ => [.requested id (system.storedStatus collaborators id)]
  | .running _,.ok _ => [.invoked id inFlight.playbook.tier system.approvedActions,.completed id]
  | .running _,.error _ => [.invoked id inFlight.playbook.tier system.approvedActions]
  | _,_ => []

def remaining : StageOutcome σ → Option (InFlight σ)
  | .ok (.waiting inFlight) => some inFlight
  | .ok (.returned _) => none
  | .error _ => none

def resume (system : RemediationSystem σ) (index : Nat) (inFlight : InFlight σ) :
    RemediationSystem σ × List SystemEvent :=
  let (outcome,after) := (inFlight.advance (system.gate collaborators)).exec system.state
  let events := system.observed collaborators inFlight outcome
  ({system.put index (remaining outcome) with state := after,log := system.log ++ events},events)

def step (system : RemediationSystem σ) : SystemAction σ → Option (RemediationSystem σ × List SystemEvent)
  | .meanwhile change => some ({system with state := {system.state with world := change system.state.world}},[])
  | .register playbook =>
    some ({system with state := {system.state with registry := system.state.registry.register playbook}},[])
  | .requestApproval ticketId remediationActionId =>
    if (system.ticket ticketId).isSome then none
    else some ({system with tickets := system.tickets ++ [⟨ticketId,remediationActionId,.pending⟩]},[])
  | .decide ticketId status =>
    some ({system with tickets := system.tickets.map (IssuedTicket.decide ticketId status)},[])
  | .requestRemediation diagnosticRunId playbookId tier =>
    let requested := RemediationService.requestRemediation collaborators diagnosticRunId playbookId tier
    some ({system with state := (requested.exec system.state).2},[])
  | .execute call => some (system.seat (RemediationExecutor.enter (system.gate collaborators) call),[])
  | .executeAction actionId subjectSub systemId correlationId approvalTicketId =>
    some (system.seat (RemediationService.enter (system.gate collaborators) actionId subjectSub systemId correlationId
      approvalTicketId),[])
  | .resume index => (system.calls index).map (system.resume collaborators index)

/-! ### What a step can do -/

/-- The rows a step may add are new requests. -/
def RowsFrom (before after : RemediationState σ) : Prop :=
  ∀ action ∈ after.actions, action ∈ before.actions ∨ action.status = "pending"

inductive Moved (system : RemediationSystem σ) : SystemAction σ → RemediationSystem σ → List SystemEvent → Prop
  | aside {action : SystemAction σ} (after : RemediationState σ) (rows : RowsFrom system.state after) :
      Moved system action {system with state := after} []
  | issued (ticketId remediationActionId : String) : Moved system (.requestApproval ticketId remediationActionId)
      {system with tickets := system.tickets ++ [⟨ticketId,remediationActionId,.pending⟩]} []
  | decided (ticketId : String) (status : ApprovalStatus) : Moved system (.decide ticketId status)
      {system with tickets := system.tickets.map (IssuedTicket.decide ticketId status)} []
  | entered {action : SystemAction σ} (inFlight : InFlight σ) (after : RemediationState σ) (begun : inFlight.Begun)
      (named : (∃ call, action = .execute call) ∨
        ∃ uuid, inFlight.call.remediationActionId = collaborators.uuidText uuid)
      (rows : RowsFrom system.state after) : Moved system action
        {system.put system.nextCall (some inFlight) with state := after,nextCall := system.nextCall + 1} []
  | resumed (index : Nat) (inFlight : InFlight σ) (waiting : system.calls index = some inFlight)
      (outcome : StageOutcome σ) (after : RemediationState σ)
      (advanced : Advanced (system.gate collaborators) system.state inFlight outcome after) :
      Moved system (.resume index) {system.put index (remaining outcome) with
        state := after
        log := system.log ++ system.observed collaborators inFlight outcome}
        (system.observed collaborators inFlight outcome)

theorem requestRemediation_rows (diagnosticRunId : Uuid) (playbookId : String) (tier : Tier)
    (state : RemediationState σ) : RowsFrom state
      ((RemediationService.requestRemediation collaborators diagnosticRunId playbookId tier).exec state).2 := by
  rw [RemediationService.requestRemediation,RemediationRepository.createAction]
  rw [Effect.bind_answered (Effect.read_exec _ _),Effect.bind_answered (Effect.update_exec _ _),Effect.bind_exec]
  split
  next flushed reached ran =>
    obtain ⟨_,rfl⟩ := Prod.mk.inj ran
    intro action member
    rcases List.mem_append.mp member with kept | added
    · exact Or.inl kept
    · right
      rw [List.mem_singleton.mp added]
  next raised reached ran =>
    obtain ⟨_,rfl⟩ := Prod.mk.inj ran
    exact fun action member => Or.inl member

theorem seat_moved (system : RemediationSystem σ) {action : SystemAction σ} {program : Remediation σ (InFlight σ)}
    (rows : Always (fun before after : RemediationState σ => after.actions = before.actions) program)
    (entered : ∀ inFlight after, program.exec system.state = (.ok inFlight,after) → inFlight.Begun ∧
      ((∃ call, action = .execute call) ∨ ∃ uuid, inFlight.call.remediationActionId = collaborators.uuidText uuid)) :
    Moved collaborators system action (system.seat program) [] := by
  have kept := rows system.state
  rw [RemediationSystem.seat]
  split
  next inFlight after ran =>
    rw [ran] at kept
    obtain ⟨begun,named⟩ := entered inFlight after ran
    exact .entered inFlight after begun named (fun action member => Or.inl (kept ▸ member))
  next raised after ran =>
    rw [ran] at kept
    exact .aside after (fun action member => Or.inl (kept ▸ member))

theorem step_moved {system after : RemediationSystem σ} {action : SystemAction σ} {output : List SystemEvent}
    (taken : system.step collaborators action = some (after,output)) :
    Moved collaborators system action after output := by
  cases action with
  | meanwhile change =>
    obtain ⟨rfl,rfl⟩ := Prod.mk.inj (Option.some.inj taken)
    exact .aside _ (fun action member => Or.inl member)
  | register playbook =>
    obtain ⟨rfl,rfl⟩ := Prod.mk.inj (Option.some.inj taken)
    exact .aside _ (fun action member => Or.inl member)
  | requestApproval ticketId remediationActionId =>
    rw [RemediationSystem.step] at taken
    split at taken
    next => simp at taken
    obtain ⟨rfl,rfl⟩ := Prod.mk.inj (Option.some.inj taken)
    exact .issued ticketId remediationActionId
  | decide ticketId status =>
    obtain ⟨rfl,rfl⟩ := Prod.mk.inj (Option.some.inj taken)
    exact .decided ticketId status
  | requestRemediation diagnosticRunId playbookId tier =>
    obtain ⟨rfl,rfl⟩ := Prod.mk.inj (Option.some.inj taken)
    exact .aside _ (requestRemediation_rows collaborators diagnosticRunId playbookId tier system.state)
  | execute call =>
    obtain ⟨rfl,rfl⟩ := Prod.mk.inj (Option.some.inj taken)
    apply seat_moved
    · intro state
      rw [RemediationExecutor.enter_still (system.gate collaborators) call state]
    · intro inFlight after entered
      exact ⟨(RemediationExecutor.enter_success (system.gate collaborators) entered).2,Or.inl ⟨call,rfl⟩⟩
  | executeAction actionId subjectSub systemId correlationId approvalTicketId =>
    obtain ⟨rfl,rfl⟩ := Prod.mk.inj (Option.some.inj taken)
    apply seat_moved
    · exact RemediationService.enter_rows (system.gate collaborators) actionId subjectSub systemId correlationId
        approvalTicketId
    · intro inFlight after entered
      obtain ⟨named,begun⟩ := RemediationService.enter_success (system.gate collaborators) entered
      exact ⟨begun,Or.inr named⟩
  | resume index =>
    obtain ⟨inFlight,waiting,same⟩ := Option.map_eq_some_iff.mp taken
    obtain ⟨rfl,rfl⟩ := Prod.mk.inj same
    exact .resumed index inFlight waiting _ _ (inFlight.advanced (system.gate collaborators) system.state)

theorem calls_put {system : RemediationSystem σ} {index other : Nat} {waiting : Option (InFlight σ)}
    {inFlight : InFlight σ} (found : (system.put index waiting).calls other = some inFlight) :
    other = index ∧ waiting = some inFlight ∨ other ≠ index ∧ system.calls other = some inFlight := by
  simp only [put,Function.update_apply] at found
  split at found
  next same => exact Or.inl ⟨same,found⟩
  next different => exact Or.inr ⟨different,found⟩

def Registered (system : RemediationSystem σ) : Prop :=
  ∀ index inFlight, system.calls index = some inFlight → index < system.nextCall

theorem moved_registered {system after : RemediationSystem σ} {action : SystemAction σ} {output : List SystemEvent}
    (moved : Moved collaborators system action after output) (registered : system.Registered) : after.Registered := by
  cases moved with
  | aside after rows => exact registered
  | issued ticketId remediationActionId => exact registered
  | decided ticketId status => exact registered
  | entered inFlight after begun named rows =>
    intro index found waiting
    rcases calls_put waiting with ⟨rfl,_⟩ | ⟨_,earlier⟩
    · exact Nat.lt_succ_self _
    · exact Nat.lt_succ_of_lt (registered index found earlier)
  | resumed index inFlight waiting outcome after advanced =>
    intro other found reached
    rcases calls_put reached with ⟨rfl,_⟩ | ⟨_,earlier⟩
    · exact registered other inFlight waiting
    · exact registered other found earlier

theorem mem_observed {system : RemediationSystem σ} {inFlight : InFlight σ} {outcome : StageOutcome σ}
    {event : SystemEvent} (member : event ∈ system.observed collaborators inFlight outcome) :
    event = .requested inFlight.call.remediationActionId
        (system.storedStatus collaborators inFlight.call.remediationActionId) ∧ inFlight.stage = .leasing ∨
      (∃ credential, inFlight.stage = .running credential) ∧
        (event = .invoked inFlight.call.remediationActionId inFlight.playbook.tier system.approvedActions ∨
          event = .completed inFlight.call.remediationActionId ∧ ∃ progress, outcome = .ok progress) := by
  unfold observed at member
  dsimp only at member
  split at member
  next leasing => exact Or.inl ⟨List.mem_singleton.mp member,leasing⟩
  next credential progress running =>
    rcases List.mem_cons.mp member with same | member
    · exact Or.inr ⟨⟨credential,running⟩,Or.inl same⟩
    · exact Or.inr ⟨⟨credential,running⟩,Or.inr ⟨List.mem_singleton.mp member,progress,rfl⟩⟩
  next credential raised running => exact Or.inr ⟨⟨credential,running⟩,Or.inl (List.mem_singleton.mp member)⟩
  next => exact absurd member List.not_mem_nil

end RemediationSystem

end AccessAgent
