import AccessAgent.RemediationSystem

/-! What stands behind a row that says executed. The status is written last, after the request
for the credential and the run of the playbook, in whatever order the calls take turns. -/

namespace AccessAgent
open Semantics Remediation

variable {σ : Type} (collaborators : Collaborators σ)

namespace RemediationSystem

/-- A credential was requested for the action, a playbook in scope was then run for it, and it
completed. -/
def Traced (log : List SystemEvent) (id : String) : Prop :=
  ∃ stored tier approved, tier ≠ .privilegedOutOfScope ∧
    [.requested id stored,.invoked id tier approved,.completed id].Sublist log

theorem Traced.more {log more : List SystemEvent} {id : String} (traced : Traced log id) : Traced (log ++ more) id := by
  obtain ⟨stored,tier,approved,inScope,ordered⟩ := traced
  exact ⟨stored,tier,approved,inScope,ordered.trans (List.sublist_append_left log more)⟩

/-- What a call in flight has left in the log. -/
structure Trace (log : List SystemEvent) (inFlight : InFlight σ) : Prop where
  inScope : inFlight.playbook.tier ≠ .privilegedOutOfScope
  running : ∀ credential, inFlight.stage = .running credential →
    ∃ stored, .requested inFlight.call.remediationActionId stored ∈ log
  locating : ∀ rollbackData, inFlight.stage = .locating rollbackData → Traced log inFlight.call.remediationActionId

theorem Trace.more {log more : List SystemEvent} {inFlight : InFlight σ} (trace : Trace log inFlight) :
    Trace (log ++ more) inFlight where
  inScope := trace.inScope
  running credential reached := by
    obtain ⟨stored,member⟩ := trace.running credential reached
    exact ⟨stored,List.mem_append_left more member⟩
  locating rollbackData reached := (trace.locating rollbackData reached).more

/-- The row was executed before the run began, or a call has executed it since. -/
def Backed (state : RemediationState σ) (log : List SystemEvent) (action : RemediationActionModel) : Prop :=
  (∃ earlier ∈ state.actions, earlier.id = action.id ∧ earlier.status = "executed") ∨
    ∃ id, collaborators.parseUuid id = .ok action.id ∧ Traced log id

theorem Backed.more {state : RemediationState σ} {log more : List SystemEvent} {action : RemediationActionModel}
    (backed : Backed collaborators state log action) : Backed collaborators state (log ++ more) action := by
  rcases backed with before | ⟨id,parsed,traced⟩
  · exact Or.inl before
  · exact Or.inr ⟨id,parsed,traced.more⟩

end RemediationSystem

end AccessAgent
