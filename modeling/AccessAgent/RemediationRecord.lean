import AccessAgent.RemediationGates

/-! What a call of the remediation executor leaves in the store: the audit events of its
decision and the row of its action. -/

namespace AccessAgent
open Semantics Remediation

variable {σ : Type} (collaborators : Collaborators σ)

def markExecuted (actionId : Uuid) (action : RemediationActionModel) : RemediationActionModel :=
  if action.id = actionId then {action with status := "executed"} else action

@[simp] theorem markExecuted_id (actionId : Uuid) (action : RemediationActionModel) :
    (markExecuted actionId action).id = action.id := by
  unfold markExecuted
  split <;> rfl

@[simp] theorem markExecuted_rollbackData (actionId : Uuid) (action : RemediationActionModel) :
    (markExecuted actionId action).rollbackData = action.rollbackData := by
  unfold markExecuted
  split <;> rfl

theorem markExecuted_status (action : RemediationActionModel) : (markExecuted action.id action).status = "executed" := by
  rw [markExecuted,if_pos rfl]

namespace Occasion

def PlaybookRan (occasion : Occasion σ) : Prop :=
  .playbookInvoked occasion.call.playbookId ∈ occasion.events collaborators

def RefusedByGate (occasion : Occasion σ) : Prop :=
  (∀ event ∈ occasion.events collaborators, ¬event.Irreversible) ∧
    ∃ raised, (occasion.outcome collaborators).1 = .error raised ∧
      (raised.cls = .remediationTierForbiddenError ∨ raised.cls = .approvalRequiredError)

/-- The row of the action holds what rolling the call back needs. -/
def Restorable (occasion : Occasion σ) : Prop :=
  ∀ data, (occasion.outcome collaborators).1 = .ok data →
    ∃ action ∈ (occasion.outcome collaborators).2.actions,
      collaborators.parseUuid occasion.call.remediationActionId = .ok action.id ∧
        action.status = "executed" ∧ action.rollbackData = some data

structure DecisionRecorded (occasion : Occasion σ) : Prop where
  recorded : ∃ event, (occasion.outcome collaborators).2.auditEvents = occasion.entry.auditEvents ++ [event] ∧
    (occasion.PlaybookRan collaborators → event.eventType = AuditEventType.remediationExecuted.value) ∧
    (occasion.RefusedByGate collaborators → event.eventType = AuditEventType.remediationDenied.value)
  restorable : occasion.Restorable collaborators

end Occasion

/-! ### What an executor call changes in the store -/

theorem updateStatus_success {actionId : Uuid} {before after : RemediationState σ} {answer : Unit}
    (ok : (RemediationRepository.updateStatus collaborators actionId "executed").exec before = (.ok answer,after)) :
    (∃ action ∈ before.actions, action.id = actionId) ∧
      after.actions = before.actions.map (markExecuted actionId) := by
  obtain ⟨found,reached,got,ok⟩ := Effect.bind_success ok
  obtain ⟨selected,middle,select,read⟩ := Effect.bind_success got
  obtain ⟨_,rfl⟩ := Prod.mk.inj select
  obtain ⟨same,rfl⟩ := Prod.mk.inj read
  cases found with
  | none => simp at ok
  | some action =>
    obtain ⟨_,written,update,flush⟩ := Effect.bind_success ok
    obtain ⟨_,rfl⟩ := Prod.mk.inj update
    obtain ⟨_,rfl⟩ := Prod.mk.inj flush
    have stored := Except.ok.inj same
    exact ⟨⟨action,List.mem_of_find?_eq_some stored,by simpa using List.find?_some stored⟩,rfl⟩

theorem remediate_success {call : ExecutorCall} {playbook : Playbook σ} {before after : RemediationState σ} {data : Json}
    (ok : (RemediationExecutor.remediate collaborators call playbook).exec before = (.ok data,after)) :
    ∃ actionId, collaborators.parseUuid call.remediationActionId = .ok actionId ∧
      (∃ action ∈ before.actions, action.id = actionId) ∧
      after.actions = before.actions.map (markExecuted actionId) := by
  obtain ⟨credential,leased,lease,ok⟩ := Effect.bind_success ok
  obtain ⟨_,rfl⟩ := Prod.mk.inj lease
  obtain ⟨rollbackData,ran,run,ok⟩ := Effect.bind_success ok
  obtain ⟨_,rfl⟩ := Prod.mk.inj run
  obtain ⟨actionId,located,parse,ok⟩ := Effect.bind_success ok
  obtain ⟨parsed,rfl⟩ := Prod.mk.inj parse
  obtain ⟨written,last,update,ok⟩ := Effect.bind_success ok
  obtain ⟨_,rfl⟩ := Prod.mk.inj ok
  obtain ⟨stored,rows⟩ := updateStatus_success collaborators update
  exact ⟨actionId,parsed,stored,rows⟩

theorem execute_success {call : ExecutorCall} {before after : RemediationState σ} {data : Json}
    (ok : (RemediationExecutor.execute collaborators call).exec before = (.ok data,after)) :
    ∃ actionId, collaborators.parseUuid call.remediationActionId = .ok actionId ∧
      (∃ action ∈ before.actions, action.id = actionId) ∧
      after.actions = before.actions.map (markExecuted actionId) := by
  obtain ⟨_,alive,assert,ok⟩ := Effect.bind_success ok
  rw [assert_exec] at assert
  split at assert
  next => simp at assert
  obtain ⟨_,rfl⟩ := Prod.mk.inj assert
  obtain ⟨registry,known,read,ok⟩ := Effect.bind_success ok
  obtain ⟨_,rfl⟩ := Prod.mk.inj read
  obtain ⟨playbook,found,get,ok⟩ := Effect.bind_success ok
  obtain ⟨_,rfl⟩ := Prod.mk.inj get
  obtain ⟨_,inScope,scope,ok⟩ := Effect.bind_success ok
  obtain ⟨_,approved,approval,ok⟩ := Effect.bind_success ok
  obtain ⟨answer,reached,checks,asked,_,_,rows,_⟩ := requireApproval_exec collaborators call playbook inScope
  obtain ⟨_,rfl⟩ := Prod.mk.inj (asked.symm.trans approval)
  obtain ⟨actionId,parsed,stored,marked⟩ := remediate_success collaborators ok
  rcases requireScope_exec call playbook before with ⟨raised,refused,_⟩ | ⟨passed,_⟩
  · rw [refused] at scope
    simp at scope
  · obtain ⟨_,rfl⟩ := Prod.mk.inj (passed.symm.trans scope)
    rw [rows] at stored marked
    exact ⟨actionId,parsed,stored,marked⟩

theorem assert_still : Always (fun before after : RemediationState σ => after = before)
    (assertRemediationNotKilled collaborators) := by
  intro state
  rw [assert_exec]
  split <;> rfl

theorem requireScope_still (call : ExecutorCall) (playbook : Playbook σ) :
    Always (fun before after : RemediationState σ => after = before)
      (RemediationExecutor.requireScope call playbook) := by
  intro state
  rcases requireScope_exec call playbook state with ⟨raised,scope,_⟩ | ⟨scope,_⟩
  · rw [scope]
  · rw [scope]

theorem execute_always {related : RemediationState σ → RemediationState σ → Prop} (kept : KeptByCalls related)
    (call : ExecutorCall) : Always related (RemediationExecutor.execute collaborators call) := by
  have still : ∀ {α : Type} {program : Remediation σ α}, Always (fun before after => after = before) program →
      Always related program := by
    intro α program unchanged state
    rw [unchanged state]
    exact kept.reflexive state
  apply Always.bind kept.transitive (still (assert_still collaborators))
  intro _
  apply Always.bind kept.transitive (fun state => kept.reflexive state)
  intro registry
  apply Always.bind kept.transitive (fun state => kept.reflexive state)
  intro playbook
  apply Always.bind kept.transitive (still (requireScope_still call playbook))
  intro _
  apply Always.bind kept.transitive _ (fun _ => remediate_always collaborators kept call playbook)
  rw [RemediationExecutor.requireApproval]
  split
  · split
    · exact still (fun _ => rfl)
    · apply Always.bind kept.transitive (fun state => kept.asked state _ _)
      intro status
      split
      · exact still (fun _ => rfl)
      · exact still (fun _ => rfl)
  · exact still (fun _ => rfl)

theorem auditEvents_kept : KeptByCalls (fun before after : RemediationState σ => after.auditEvents = before.auditEvents) where
  reflexive _ := rfl
  transitive _ _ _ early late := late.trans early
  awaited _ _ := rfl
  asked _ _ _ := rfl
  marked _ _ _ := rfl

/-- The status of the action is written, its rollback data is not: a call that answers can be
rolled back from the store where the row already held what the playbook has just returned. -/
theorem restorable_iff (occasion : Occasion σ) : occasion.Restorable collaborators ↔
    ∀ data, (occasion.outcome collaborators).1 = .ok data → ∃ action ∈ occasion.entry.actions,
      collaborators.parseUuid occasion.call.remediationActionId = .ok action.id ∧ action.rollbackData = some data := by
  constructor
  · intro restorable data answered
    obtain ⟨action,member,parsed,_,kept⟩ := restorable data answered
    obtain ⟨actionId,_,_,rows⟩ := execute_success collaborators (Prod.ext answered rfl)
    rw [Occasion.outcome] at member
    rw [rows] at member
    obtain ⟨earlier,stored,rfl⟩ := List.mem_map.mp member
    rw [markExecuted_id] at parsed
    rw [markExecuted_rollbackData] at kept
    exact ⟨earlier,stored,parsed,kept⟩
  · intro held data answered
    obtain ⟨action,stored,parsed,kept⟩ := held data answered
    obtain ⟨actionId,same,_,rows⟩ := execute_success collaborators (Prod.ext answered rfl)
    obtain rfl := Except.ok.inj (parsed.symm.trans same)
    refine ⟨markExecuted action.id action,?_,?_,markExecuted_status action,?_⟩
    · rw [Occasion.outcome,rows]
      exact List.mem_map_of_mem stored
    · rw [markExecuted_id]
      exact parsed
    · rw [markExecuted_rollbackData]
      exact kept

/-- No call of the executor records its decision, whatever the playbook and the collaborators do. -/
theorem decision_unrecorded (occasion : Occasion σ) : ¬occasion.DecisionRecorded collaborators := by
  intro decided
  obtain ⟨event,appended,_⟩ := decided.recorded
  rw [Occasion.outcome,execute_always collaborators auditEvents_kept occasion.call occasion.entry] at appended
  exact absurd (List.self_eq_append_right.mp appended) (List.cons_ne_nil _ _)

/-! ### A successful call -/

/-- Switches off, and every collaborator answers; a uuid is written as so many zeros. -/
def quietCollaborators : Collaborators Unit where
  agentKillSwitchEnabled _ := false
  remediationKillSwitchEnabled _ := false
  checkApproval _ := pure .pending
  getRemediationCredential := pure ⟨"write-token","lease-1",900⟩
  parseUuid text := if text.toList.all (· = '0') then .ok text.toList.length
    else .error (Exn.valueError "badly formed hexadecimal UUID string")
  uuidText uuid := String.ofList (List.replicate uuid '0')
  select := pure ()
  flush := pure ()

theorem quiet_parse (uuid : Uuid) : quietCollaborators.parseUuid (quietCollaborators.uuidText uuid) = .ok uuid := by
  simp [quietCollaborators]

def lockedSnapshot : Json := .obj [("account_status",.str "LOCKED")]

def unlockPlaybook (tier : Tier) : Playbook Unit := ⟨"unlock_account",tier,fun _ => pure lockedSnapshot⟩

/-- One action on its playbook, requested and not yet executed. -/
def requestedState (tier : Tier) : RemediationState Unit where
  world := ()
  registry := PlaybookRegistry.register [] (unlockPlaybook tier)
  actions := [⟨1,7,"unlock_account",tier.value,none,"pending",none,none⟩]
  auditEvents := []
  nextUuid := 2
  trail := []

def unlockOccasion : Occasion Unit where
  entry := requestedState .informationalAutomatic
  call := ⟨quietCollaborators.uuidText 1,"unlock_account","alice","crm","corr-1",none⟩

theorem unlock_unrecorded :
    (unlockOccasion.outcome quietCollaborators).1 = .ok lockedSnapshot ∧
      (unlockOccasion.outcome quietCollaborators).2.actions =
        [⟨1,7,"unlock_account",0,none,"executed",none,none⟩] ∧
      (unlockOccasion.outcome quietCollaborators).2.auditEvents = [] ∧
      ¬unlockOccasion.DecisionRecorded quietCollaborators := by
  have silent : (unlockOccasion.outcome quietCollaborators).2.auditEvents = [] := rfl
  refine ⟨rfl,rfl,silent,?_⟩
  intro decided
  obtain ⟨event,appended,_⟩ := decided.recorded
  rw [silent] at appended
  exact absurd appended (List.cons_ne_nil _ _).symm

end AccessAgent
