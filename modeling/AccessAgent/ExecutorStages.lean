import AccessAgent.RemediationRecord
import AccessAgent.Semantics.Staged

/-! The remediation executor cut at its awaits. The code between two awaits runs without a
break, so a stage ends where the next call that is awaited is to be made. -/

namespace AccessAgent
open Semantics Remediation

inductive Stage
  | checking (ticketId : String)
  | leasing
  | running (credential : LeasedCredential)
  | locating (rollbackData : Json)
  | flushing (rollbackData : Json)

structure InFlight (σ : Type) where
  call : ExecutorCall
  playbook : Playbook σ
  stage : Stage

abbrev StageOutcome (σ : Type) := Except Exn (Progress (InFlight σ) Json)

variable {σ : Type} (collaborators : Collaborators σ)

namespace InFlight

def becomes (inFlight : InFlight σ) (stage : Stage) : InFlight σ := {inFlight with stage := stage}

def checkTicket (ticketId : String) : Remediation σ Unit := do
  let status ← asked (fun answer => .approvalChecked ticketId answer.toOption) (collaborators.checkApproval ticketId)
  if status = .approved then pure ()
  else throw ⟨.approvalRequiredError,"Approval ticket '" ++ ticketId ++ "' is not approved (status=" ++
    status.value ++ ")"⟩

def lease : Remediation σ LeasedCredential :=
  asked (fun _ => .credentialRequested) collaborators.getRemediationCredential

def runPlaybook (inFlight : InFlight σ) (credential : LeasedCredential) : Remediation σ Json :=
  asked (fun _ => .playbookInvoked inFlight.call.playbookId)
    (inFlight.playbook.execute ⟨inFlight.call.subjectSub,inFlight.call.systemId,credential,inFlight.call.correlationId⟩)

def markRow (inFlight : InFlight σ) : Remediation σ Unit := do
  let actionId ← collaborators.parseUuid inFlight.call.remediationActionId
  match ← RemediationRepository.getAction collaborators actionId with
  | none => throw (Exn.valueError ("Remediation action " ++ collaborators.uuidText actionId ++ " not found"))
  | some _ => Effect.update (fun state => {state with actions := state.actions.map (markExecuted actionId)})

def advance (inFlight : InFlight σ) : Remediation σ (Progress (InFlight σ) Json) :=
  match inFlight.stage with
  | .checking ticketId => do
    checkTicket collaborators ticketId
    return .waiting (inFlight.becomes .leasing)
  | .leasing => do
    let credential ← lease collaborators
    return .waiting (inFlight.becomes (.running credential))
  | .running credential => do
    let rollbackData ← inFlight.runPlaybook credential
    return .waiting (inFlight.becomes (.locating rollbackData))
  | .locating rollbackData => do
    inFlight.markRow collaborators
    return .waiting (inFlight.becomes (.flushing rollbackData))
  | .flushing rollbackData => do
    await collaborators.flush
    return .returned rollbackData

end InFlight

namespace RemediationExecutor

def firstStage (call : ExecutorCall) (playbook : Playbook σ) : Except Exn Stage :=
  if tiersRequiringApproval.contains playbook.tier then
    match call.approvalTicketId with
    | none => .error ⟨.approvalRequiredError,"Playbook '" ++ call.playbookId ++ "' requires approval"⟩
    | some ticketId => .ok (.checking ticketId)
  else .ok .leasing

/-- The executor up to the first call that it awaits. -/
def enter (call : ExecutorCall) : Remediation σ (InFlight σ) := do
  assertRemediationNotKilled collaborators
  let registry ← Effect.read RemediationState.registry
  let playbook ← registry.get call.playbookId
  requireScope call playbook
  let stage ← firstStage call playbook
  return ⟨call,playbook,stage⟩

end RemediationExecutor

namespace RemediationService

/-- The row that the service reads first keeps its id and playbook for good, so that no other
step can matter between its lookup and the code after it. -/
def enter (actionId : Uuid) (subjectSub systemId correlationId : String) (approvalTicketId : Option String) :
    Remediation σ (InFlight σ) := do
  match ← RemediationRepository.getAction collaborators actionId with
  | none => throw ⟨.notFoundError,"Remediation action " ++ collaborators.uuidText actionId ++ " not found"⟩
  | some action =>
    RemediationExecutor.enter collaborators
      (callFor collaborators action subjectSub systemId correlationId approvalTicketId)

end RemediationService

/-! ### The stages are the executor -/

section Finishes
variable (inFlight : InFlight σ)

theorem flushing_finishes (rollbackData : Json) :
    Finishes (InFlight.advance collaborators) 1 (inFlight.becomes (.flushing rollbackData))
      (do await collaborators.flush; return rollbackData) := by
  apply Finishes.last
  rw [Effect.bind_assoc]
  rfl

theorem updateStatus_stages (rollbackData : Json) : (do
    let actionId ← collaborators.parseUuid inFlight.call.remediationActionId
    RemediationRepository.updateStatus collaborators actionId "executed"
    return rollbackData : Remediation σ Json) =
    (do inFlight.markRow collaborators; await collaborators.flush; return rollbackData) := by
  rw [InFlight.markRow,Effect.bind_assoc]
  congr 1
  funext actionId
  rw [RemediationRepository.updateStatus,Effect.bind_assoc,Effect.bind_assoc]
  congr 1
  funext found
  cases found <;> rfl

theorem locating_finishes (rollbackData : Json) :
    Finishes (InFlight.advance collaborators) 2 (inFlight.becomes (.locating rollbackData)) (do
      let actionId ← collaborators.parseUuid inFlight.call.remediationActionId
      RemediationRepository.updateStatus collaborators actionId "executed"
      return rollbackData) := by
  rw [updateStatus_stages]
  exact Finishes.next rfl (fun _ => flushing_finishes collaborators inFlight rollbackData)

theorem leasing_finishes :
    Finishes (InFlight.advance collaborators) 4 (inFlight.becomes .leasing)
      (RemediationExecutor.remediate collaborators inFlight.call inFlight.playbook) := by
  apply Finishes.next rfl
  intro credential
  apply Finishes.next rfl
  intro rollbackData
  exact locating_finishes collaborators inFlight rollbackData

theorem checking_finishes (ticketId : String) :
    Finishes (InFlight.advance collaborators) 5 (inFlight.becomes (.checking ticketId)) (do
      InFlight.checkTicket collaborators ticketId
      RemediationExecutor.remediate collaborators inFlight.call inFlight.playbook) :=
  Finishes.next rfl (fun _ => leasing_finishes collaborators inFlight)

end Finishes

theorem firstStage_finishes (call : ExecutorCall) (playbook : Playbook σ) :
    (do let stage ← RemediationExecutor.firstStage call playbook
        complete (InFlight.advance collaborators) 5 ⟨call,playbook,stage⟩) =
      some <$> (do
        RemediationExecutor.requireApproval collaborators call playbook
        RemediationExecutor.remediate collaborators call playbook) := by
  rw [RemediationExecutor.firstStage,RemediationExecutor.requireApproval]
  split
  next required =>
    cases call.approvalTicketId with
    | none => rfl
    | some ticketId => exact checking_finishes collaborators ⟨call,playbook,.leasing⟩ ticketId 5 le_rfl
  next free => exact leasing_finishes collaborators ⟨call,playbook,.leasing⟩ 5 (Nat.le_succ 4)

/-- A call whose stages follow each other undisturbed does what the executor does. -/
theorem execute_stages (call : ExecutorCall) :
    (RemediationExecutor.enter collaborators call >>= complete (InFlight.advance collaborators) 5) =
      some <$> RemediationExecutor.execute collaborators call := by
  rw [RemediationExecutor.enter,RemediationExecutor.execute]
  apply Effect.bind_answers
  intro _
  apply Effect.bind_answers
  intro registry
  apply Effect.bind_answers
  intro playbook
  apply Effect.bind_answers
  intro _
  rw [Effect.bind_assoc]
  exact firstStage_finishes collaborators call playbook

theorem service_stages (actionId : Uuid) (subjectSub systemId correlationId : String) (approvalTicketId : Option String) :
    (RemediationService.enter collaborators actionId subjectSub systemId correlationId approvalTicketId >>=
      complete (InFlight.advance collaborators) 5) =
      some <$> RemediationService.execute collaborators actionId subjectSub systemId correlationId approvalTicketId := by
  rw [RemediationService.enter,RemediationService.execute]
  apply Effect.bind_answers
  intro found
  cases found with
  | none => rfl
  | some action => exact execute_stages collaborators _

/-! ### What a stage does -/

/-- The outcome of a stage and the state it leaves. -/
inductive Advanced (state : RemediationState σ) (inFlight : InFlight σ) : StageOutcome σ → RemediationState σ → Prop
  | raised (raised : Exn) (after : RemediationState σ) (rows : after.actions = state.actions) :
      Advanced state inFlight (.error raised) after
  | approved (ticketId : String) (after : RemediationState σ) (reached : inFlight.stage = .checking ticketId)
      (answer : ((collaborators.checkApproval ticketId).exec state.world).1 = .ok .approved)
      (rows : after.actions = state.actions) :
      Advanced state inFlight (.ok (.waiting (inFlight.becomes .leasing))) after
  | leased (credential : LeasedCredential) (after : RemediationState σ) (reached : inFlight.stage = .leasing)
      (rows : after.actions = state.actions) :
      Advanced state inFlight (.ok (.waiting (inFlight.becomes (.running credential)))) after
  | ran (credential : LeasedCredential) (rollbackData : Json) (after : RemediationState σ)
      (reached : inFlight.stage = .running credential) (rows : after.actions = state.actions) :
      Advanced state inFlight (.ok (.waiting (inFlight.becomes (.locating rollbackData)))) after
  | marked (rollbackData : Json) (actionId : Uuid) (after : RemediationState σ)
      (reached : inFlight.stage = .locating rollbackData)
      (parsed : collaborators.parseUuid inFlight.call.remediationActionId = .ok actionId)
      (rows : after.actions = state.actions.map (markExecuted actionId)) :
      Advanced state inFlight (.ok (.waiting (inFlight.becomes (.flushing rollbackData)))) after
  | returned (rollbackData : Json) (after : RemediationState σ) (reached : inFlight.stage = .flushing rollbackData)
      (rows : after.actions = state.actions) : Advanced state inFlight (.ok (.returned rollbackData)) after

theorem InFlight.checkTicket_exec (inFlight : InFlight σ) (ticketId : String) (state : RemediationState σ) :
    ∃ answer after, (InFlight.checkTicket collaborators ticketId).exec state = (answer,after) ∧
      after.actions = state.actions ∧
      (answer = .ok () → ((collaborators.checkApproval ticketId).exec state.world).1 = .ok .approved) := by
  -- the gate of a call that brings this ticket to a playbook in need of approval
  obtain ⟨answer,after,_,ran,_,_,rows,approved⟩ := requireApproval_exec collaborators
    {inFlight.call with approvalTicketId := some ticketId} {inFlight.playbook with tier := .accessChanging} state
  refine ⟨answer,after,ran,rows,fun passed => ?_⟩
  obtain ⟨brought,same,granted,_⟩ := approved passed rfl
  rw [Option.some.inj same]
  exact granted

theorem InFlight.markRow_exec (inFlight : InFlight σ) (state : RemediationState σ) :
    ∃ answer after, (inFlight.markRow collaborators).exec state = (answer,after) ∧
      ((∃ raised, answer = .error raised) ∧ after.actions = state.actions ∨
        ∃ actionId, answer = .ok () ∧ collaborators.parseUuid inFlight.call.remediationActionId = .ok actionId ∧
          after.actions = state.actions.map (markExecuted actionId)) := by
  rw [InFlight.markRow]
  cases parsed : collaborators.parseUuid inFlight.call.remediationActionId with
  | error raised =>
    exact ⟨_,_,Effect.bind_raised (Effect.lift_exec _ _) _,Or.inl ⟨⟨raised,rfl⟩,rfl⟩⟩
  | ok actionId =>
    rw [Effect.bind_answered (Effect.lift_exec _ _)]
    have reading : ∀ answer world, collaborators.select.exec state.world = (answer,world) →
        (RemediationRepository.getAction collaborators actionId).exec state =
          (answer.map fun _ => state.actions.find? fun action => action.id = actionId,{state with world := world}) := by
      intro answer world selected
      rw [RemediationRepository.getAction,Effect.bind_exec,Remediation.await,Effect.zoom_exec,selected]
      cases answer <;> rfl
    rcases selected : collaborators.select.exec state.world with ⟨raised | _,world⟩
    · exact ⟨_,_,Effect.bind_raised (reading _ _ selected) _,Or.inl ⟨⟨raised,rfl⟩,rfl⟩⟩
    · rw [Effect.bind_answered (reading _ _ selected)]
      cases state.actions.find? (fun action => action.id = actionId) with
      | none => exact ⟨_,_,rfl,Or.inl ⟨⟨_,rfl⟩,rfl⟩⟩
      | some action => exact ⟨_,_,rfl,Or.inr ⟨actionId,rfl,rfl,rfl⟩⟩

theorem InFlight.advanced (inFlight : InFlight σ) (state : RemediationState σ) :
    Advanced collaborators state inFlight ((inFlight.advance collaborators).exec state).1
      ((inFlight.advance collaborators).exec state).2 := by
  cases reached : inFlight.stage with
  | checking ticketId =>
    obtain ⟨answer,after,ran,rows,approved⟩ := inFlight.checkTicket_exec collaborators ticketId state
    rw [InFlight.advance,reached]
    dsimp only
    cases answer with
    | error raised =>
      rw [Effect.bind_raised ran]
      exact .raised raised after rows
    | ok answer =>
      rw [Effect.bind_answered ran]
      exact .approved ticketId after reached (approved rfl) rows
  | leasing =>
    rw [InFlight.advance,reached]
    dsimp only
    rw [Effect.bind_exec]
    split
    next credential after leased =>
      obtain ⟨_,rfl⟩ := Prod.mk.inj leased
      exact .leased credential _ reached rfl
    next raised after leased =>
      obtain ⟨_,rfl⟩ := Prod.mk.inj leased
      exact .raised raised _ rfl
  | running credential =>
    rw [InFlight.advance,reached]
    dsimp only
    rw [Effect.bind_exec]
    split
    next rollbackData after ran =>
      obtain ⟨_,rfl⟩ := Prod.mk.inj ran
      exact .ran credential rollbackData _ reached rfl
    next raised after ran =>
      obtain ⟨_,rfl⟩ := Prod.mk.inj ran
      exact .raised raised _ rfl
  | locating rollbackData =>
    obtain ⟨answer,after,ran,⟨⟨raised,rfl⟩,rows⟩ | ⟨actionId,rfl,parsed,rows⟩⟩ := inFlight.markRow_exec collaborators state
    · rw [InFlight.advance,reached]
      dsimp only
      rw [Effect.bind_raised ran]
      exact .raised raised after rows
    · rw [InFlight.advance,reached]
      dsimp only
      rw [Effect.bind_answered ran]
      exact .marked rollbackData actionId after reached parsed rows
  | flushing rollbackData =>
    rw [InFlight.advance,reached]
    dsimp only
    rw [Effect.bind_exec]
    split
    next answer after flushed =>
      obtain ⟨_,rfl⟩ := Prod.mk.inj flushed
      exact .returned rollbackData _ reached rfl
    next raised after flushed =>
      obtain ⟨_,rfl⟩ := Prod.mk.inj flushed
      exact .raised raised _ rfl

/-! ### What entering does -/

def InFlight.Begun (inFlight : InFlight σ) : Prop :=
  match inFlight.stage with
  | .checking ticketId => inFlight.call.approvalTicketId = some ticketId
  | .leasing => inFlight.playbook.tier ≠ .accessChanging
  | _ => False

theorem firstStage_begun {call : ExecutorCall} {playbook : Playbook σ} {stage : Stage}
    (begun : RemediationExecutor.firstStage call playbook = .ok stage) : (InFlight.mk call playbook stage).Begun := by
  rw [RemediationExecutor.firstStage] at begun
  split at begun
  next required =>
    split at begun
    next => simp at begun
    next ticketId ticket =>
      rw [← Except.ok.inj begun]
      exact ticket
  next free =>
    rw [← Except.ok.inj begun]
    intro changing
    dsimp only at changing
    rw [changing] at free
    exact free rfl

theorem RemediationExecutor.enter_still (call : ExecutorCall) :
    Always (fun before after : RemediationState σ => after = before) (RemediationExecutor.enter collaborators call) := by
  have transitive : ∀ a b c : RemediationState σ, b = a → c = b → c = a := fun _ _ _ early late => late.trans early
  apply Always.bind transitive (assert_still collaborators)
  intro _
  apply Always.bind transitive (fun _ => rfl)
  intro registry
  apply Always.bind transitive (fun _ => rfl)
  intro playbook
  apply Always.bind transitive (requireScope_still call playbook)
  intro _
  exact Always.bind transitive (fun _ => rfl) (fun _ _ => rfl)

theorem RemediationService.enter_rows (actionId : Uuid) (subjectSub systemId correlationId : String)
    (approvalTicketId : Option String) : Always (fun before after : RemediationState σ => after.actions = before.actions)
      (RemediationService.enter collaborators actionId subjectSub systemId correlationId approvalTicketId) := by
  have transitive : ∀ a b c : RemediationState σ, b.actions = a.actions → c.actions = b.actions → c.actions = a.actions :=
    fun _ _ _ early late => late.trans early
  apply Always.bind transitive (Always.bind transitive (fun _ => rfl) (fun _ _ => rfl))
  intro found
  cases found with
  | none => exact fun _ => rfl
  | some action =>
    intro state
    rw [RemediationExecutor.enter_still collaborators _ state]

theorem RemediationExecutor.enter_success {call : ExecutorCall} {before after : RemediationState σ} {inFlight : InFlight σ}
    (entered : (RemediationExecutor.enter collaborators call).exec before = (.ok inFlight,after)) :
    inFlight.call = call ∧ inFlight.Begun := by
  obtain ⟨_,_,_,entered⟩ := Effect.bind_success entered
  obtain ⟨_,_,_,entered⟩ := Effect.bind_success entered
  obtain ⟨playbook,_,_,entered⟩ := Effect.bind_success entered
  obtain ⟨_,_,_,entered⟩ := Effect.bind_success entered
  obtain ⟨stage,_,begun,entered⟩ := Effect.bind_success entered
  obtain ⟨begun,_⟩ := Prod.mk.inj begun
  obtain ⟨same,_⟩ := Prod.mk.inj entered
  rw [← Except.ok.inj same]
  exact ⟨rfl,firstStage_begun begun⟩

theorem RemediationService.enter_success {actionId : Uuid} {subjectSub systemId correlationId : String}
    {approvalTicketId : Option String} {before after : RemediationState σ} {inFlight : InFlight σ}
    (entered : (RemediationService.enter collaborators actionId subjectSub systemId correlationId
      approvalTicketId).exec before = (.ok inFlight,after)) :
    (∃ uuid, inFlight.call.remediationActionId = collaborators.uuidText uuid) ∧ inFlight.Begun := by
  obtain ⟨found,reached,_,entered⟩ := Effect.bind_success entered
  cases found with
  | none => simp at entered
  | some action =>
    obtain ⟨same,begun⟩ := RemediationExecutor.enter_success collaborators entered
    refine ⟨⟨action.id,?_⟩,begun⟩
    rw [same]
    rfl

end AccessAgent
