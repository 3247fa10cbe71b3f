import AccessAgent.RemediationSystem

/-! Which approvals let an access-changing playbook run. The executor gets the ticket apart
from the action, and the gate answers for the ticket alone. -/

namespace AccessAgent
open Semantics Remediation

variable {σ : Type} (collaborators : Collaborators σ)

namespace Stage

def ticketId : Stage → Option String
  | .checking ticketId => some ticketId
  | _ => none

/-- Past the gate, and the playbook has not run yet. -/
def admitted : Stage → Bool
  | .leasing => true
  | .running _ => true
  | _ => false

end Stage

namespace InFlight

def Relies (ticketId : String) (inFlight : InFlight σ) : Prop :=
  inFlight.playbook.tier = .accessChanging ∧ inFlight.stage.admitted = true ∧
    inFlight.call.approvalTicketId = some ticketId

instance (ticketId : String) (inFlight : InFlight σ) : Decidable (inFlight.Relies ticketId) :=
  inferInstanceAs (Decidable (_ ∧ _ ∧ _))

/-- The approval that a call in flight rests on. -/
structure Approved (tickets : List IssuedTicket) (inFlight : InFlight σ) : Prop where
  checking : ∀ ticketId ∈ inFlight.stage.ticketId, inFlight.call.approvalTicketId = some ticketId
  admitted : inFlight.stage.admitted = true → inFlight.playbook.tier = .accessChanging → ∃ ticket ∈ tickets,
    inFlight.call.approvalTicketId = some ticket.id ∧ ticket.status = .approved ∧
      ticket.remediationActionId = inFlight.call.remediationActionId

theorem begun_approved {inFlight : InFlight σ} (begun : inFlight.Begun) (tickets : List IssuedTicket) :
    inFlight.Approved tickets := by
  obtain ⟨call,playbook,stage⟩ := inFlight
  cases stage with
  | checking ticketId =>
    constructor
    · intro other same
      rw [← Option.some.inj same]
      exact begun
    · intro past
      simp [Stage.admitted] at past
  | leasing => exact ⟨by simp [Stage.ticketId],fun _ changing => absurd changing begun⟩
  | _ => exact begun.elim

theorem Approved.more {tickets more : List IssuedTicket} {inFlight : InFlight σ} (approved : inFlight.Approved tickets)
    (subset : tickets ⊆ more) : inFlight.Approved more where
  checking := approved.checking
  admitted past changing := by
    obtain ⟨ticket,member,rest⟩ := approved.admitted past changing
    exact ⟨ticket,subset member,rest⟩

theorem Approved.decided {tickets : List IssuedTicket} {inFlight : InFlight σ} {ticketId : String}
    {status : ApprovalStatus} (approved : inFlight.Approved tickets)
    (kept : status = .approved ∨ ¬inFlight.Relies ticketId) :
    inFlight.Approved (tickets.map (IssuedTicket.decide ticketId status)) where
  checking := approved.checking
  admitted past changing := by
    obtain ⟨ticket,member,handed,granted,own⟩ := approved.admitted past changing
    refine ⟨ticket.decide ticketId status,List.mem_map_of_mem member,?_⟩
    rw [IssuedTicket.decide]
    split
    next same =>
      rcases kept with rfl | free
      · exact ⟨handed,rfl,own⟩
      · exact absurd ⟨changing,past,same ▸ handed⟩ free
    next => exact ⟨handed,granted,own⟩

end InFlight

namespace RemediationSystem

/-- No gate is passed with an approved ticket of another action, and no approval is withdrawn
between the gate and the playbook that it let through. -/
def OwnTickets (system : RemediationSystem σ) : SystemAction σ → Prop
  | .resume index => ∀ inFlight ∈ system.calls index, ∀ ticketId ∈ inFlight.stage.ticketId,
    ∀ ticket ∈ system.ticket ticketId, ticket.status = .approved →
      ticket.remediationActionId = inFlight.call.remediationActionId
  | .decide ticketId status =>
    status = .approved ∨ ∀ index < system.nextCall, ∀ inFlight ∈ system.calls index, ¬inFlight.Relies ticketId
  | _ => True

instance (system : RemediationSystem σ) (action : SystemAction σ) : Decidable (OwnTickets system action) :=
  match action with
  | .resume index => inferInstanceAs (Decidable (∀ inFlight ∈ system.calls index, ∀ ticketId ∈ inFlight.stage.ticketId,
      ∀ ticket ∈ system.ticket ticketId, ticket.status = .approved →
        ticket.remediationActionId = inFlight.call.remediationActionId))
  | .decide ticketId status => inferInstanceAs (Decidable (status = .approved ∨
      ∀ index < system.nextCall, ∀ inFlight ∈ system.calls index, ¬inFlight.Relies ticketId))
  | .meanwhile _ => isTrue trivial
  | .register _ => isTrue trivial
  | .requestApproval _ _ => isTrue trivial
  | .requestRemediation _ _ _ => isTrue trivial
  | .execute _ => isTrue trivial
  | .executeAction _ _ _ _ _ => isTrue trivial

structure Bound (system : RemediationSystem σ) : Prop where
  registered : system.Registered
  approved : ∀ index inFlight, system.calls index = some inFlight → inFlight.Approved system.tickets
  invoked : ∀ id approved, .invoked id .accessChanging approved ∈ system.log → id ∈ approved

theorem gate_approved {system : RemediationSystem σ} {ticketId : String} {world : σ}
    (answer : (((system.gate collaborators).checkApproval ticketId).exec world).1 = .ok .approved) :
    ∃ ticket, system.ticket ticketId = some ticket ∧ ticket.status = .approved := by
  obtain ⟨_,middle,_,reported⟩ := Effect.bind_success (Prod.ext answer rfl)
  cases known : system.ticket ticketId with
  | none =>
    rw [known] at reported
    simp at reported
  | some ticket =>
    rw [known] at reported
    exact ⟨ticket,rfl,Except.ok.inj (Prod.mk.inj reported).1⟩

/-- What the next stage of a call rests on, where the gate let only own tickets pass. -/
theorem advanced_approved {system : RemediationSystem σ} {index : Nat} {inFlight next : InFlight σ}
    {outcome : StageOutcome σ} {after : RemediationState σ}
    (waiting : system.calls index = some inFlight) (own : OwnTickets system (.resume index))
    (approved : inFlight.Approved system.tickets)
    (advanced : Advanced (system.gate collaborators) system.state inFlight outcome after)
    (remains : remaining outcome = some next) : next.Approved system.tickets := by
  cases advanced with
  | raised raised after rows => simp [remaining] at remains
  | approved ticketId after reached answer rows =>
    rw [← Option.some.inj remains]
    refine ⟨by simp [InFlight.becomes,Stage.ticketId],fun _ _ => ?_⟩
    obtain ⟨ticket,known,granted⟩ := gate_approved collaborators answer
    have checked : ticketId ∈ inFlight.stage.ticketId := by rw [reached]; rfl
    have named : ticket.id = ticketId := by simpa using List.find?_some known
    refine ⟨ticket,List.mem_of_find?_eq_some known,?_,granted,?_⟩
    · rw [named]
      exact approved.checking ticketId checked
    · exact own inFlight waiting ticketId checked ticket known granted
  | leased credential after reached rows =>
    rw [← Option.some.inj remains]
    exact ⟨by simp [InFlight.becomes,Stage.ticketId],fun _ => approved.admitted (by rw [reached]; rfl)⟩
  | ran credential rollbackData after reached rows =>
    rw [← Option.some.inj remains]
    exact ⟨by simp [InFlight.becomes,Stage.ticketId],by simp [InFlight.becomes,Stage.admitted]⟩
  | marked rollbackData actionId after reached parsed rows =>
    rw [← Option.some.inj remains]
    exact ⟨by simp [InFlight.becomes,Stage.ticketId],by simp [InFlight.becomes,Stage.admitted]⟩
  | returned rollbackData after reached rows => simp [remaining] at remains

theorem step_bound {system after : RemediationSystem σ} {action : SystemAction σ} {output : List SystemEvent}
    (bound : system.Bound) (own : OwnTickets system action)
    (taken : system.step collaborators action = some (after,output)) : after.Bound := by
  have moved := step_moved collaborators taken
  have registered := moved_registered collaborators moved bound.registered
  cases moved with
  | aside after rows => exact ⟨registered,bound.approved,bound.invoked⟩
  | issued ticketId remediationActionId =>
    refine ⟨registered,fun index inFlight waiting => ?_,bound.invoked⟩
    exact (bound.approved index inFlight waiting).more (List.subset_append_left _ _)
  | decided ticketId status =>
    refine ⟨registered,fun index inFlight waiting => ?_,bound.invoked⟩
    apply (bound.approved index inFlight waiting).decided
    exact own.imp_right (fun free => free index (bound.registered index inFlight waiting) inFlight waiting)
  | entered inFlight after begun named rows =>
    refine ⟨registered,fun index found waiting => ?_,bound.invoked⟩
    rcases calls_put waiting with ⟨_,same⟩ | ⟨_,earlier⟩
    · rw [← Option.some.inj same]
      exact InFlight.begun_approved begun system.tickets
    · exact bound.approved index found earlier
  | resumed index inFlight waiting outcome after advanced =>
    have rests := bound.approved index inFlight waiting
    refine ⟨registered,fun other found reached => ?_,fun id approved member => ?_⟩
    · rcases calls_put reached with ⟨_,remains⟩ | ⟨_,earlier⟩
      · have later : found.Approved system.tickets := advanced_approved collaborators waiting own rests advanced remains
        exact later
      · exact bound.approved other found earlier
    · rcases List.mem_append.mp member with old | new
      · exact bound.invoked id approved old
      rcases mem_observed collaborators new with ⟨event,_⟩ | ⟨⟨credential,running⟩,event | ⟨event,_⟩⟩
      · exact SystemEvent.noConfusion event
      · obtain ⟨rfl,changing,rfl⟩ := SystemEvent.invoked.inj event
        obtain ⟨ticket,issued,_,granted,same⟩ := rests.admitted (by rw [running]; rfl) changing.symm
        rw [← same]
        exact List.mem_map_of_mem (List.mem_filter.mpr ⟨issued,by simpa using granted⟩)
      · exact SystemEvent.noConfusion event

theorem opened_bound (state : RemediationState σ) : (opened state).Bound := by
  constructor <;> simp [opened,Registered]

/-- In every run that honours the tickets, an access-changing playbook runs for an action only
while a ticket issued for that action is approved. -/
theorem approval_bound {state : RemediationState σ} {system : RemediationSystem σ}
    (reached : Reaches (RemediationSystem.step collaborators) OwnTickets (opened state) system) (id : String)
    (approved : List String) (invoked : .invoked id .accessChanging approved ∈ system.log) : id ∈ approved := by
  have bound : system.Bound := reached.invariant (opened_bound state)
    (fun before action after output held admitted taken => step_bound collaborators held admitted taken)
  exact bound.invoked id approved invoked

/-! ### The ticket of another action -/

private def approvedCall : ExecutorCall := ⟨"0","unlock_account","alice","crm","corr-1",some "t-1"⟩

/-- Approval is requested for the named action and granted, and a call brings the ticket. -/
private def approvalRun (remediationActionId : String) : List (SystemAction Unit) :=
  [.requestApproval "t-1" remediationActionId,.decide "t-1" .approved,.execute approvedCall,
    .resume 0,.resume 0,.resume 0]

theorem approval_bound_own : ∃ system : RemediationSystem Unit,
    Reaches (RemediationSystem.step quietCollaborators) OwnTickets (opened (requestedState .accessChanging)) system ∧
      .invoked "0" .accessChanging ["0"] ∈ system.log ∧ "0" ∈ ["0"] := by
  have ran : (execute (RemediationSystem.step quietCollaborators) OwnTickets (approvalRun "0")
      (opened (requestedState .accessChanging))).map (fun reached => reached.1.log) =
      some [.requested "0" (some "pending"),.invoked "0" .accessChanging ["0"],.completed "0"] := by decide +kernel
  obtain ⟨⟨system,_⟩,run,log⟩ := Option.map_eq_some_iff.mp ran
  have reached := reaches_execute .start run
  have invoked : .invoked "0" .accessChanging ["0"] ∈ system.log := by
    rw [log]
    exact List.mem_cons_of_mem _ List.mem_cons_self
  exact ⟨system,reached,invoked,approval_bound quietCollaborators reached "0" ["0"] invoked⟩

/-- A ticket approved for another action lets the playbook run. -/
theorem approval_of_another_action : ∃ system : RemediationSystem Unit,
    Reaches (RemediationSystem.step quietCollaborators) (fun _ _ => True) (opened (requestedState .accessChanging)) system ∧
      .invoked "0" .accessChanging ["00"] ∈ system.log ∧ "0" ∉ ["00"] := by
  have ran : (execute (RemediationSystem.step quietCollaborators) (fun _ _ => True) (approvalRun "00")
      (opened (requestedState .accessChanging))).map (fun reached => reached.1.log) =
      some [.requested "0" (some "pending"),.invoked "0" .accessChanging ["00"],.completed "0"] := by decide +kernel
  obtain ⟨⟨system,_⟩,run,log⟩ := Option.map_eq_some_iff.mp ran
  refine ⟨system,reaches_execute .start run,?_,by decide⟩
  rw [log]
  exact List.mem_cons_of_mem _ List.mem_cons_self

end RemediationSystem

end AccessAgent
