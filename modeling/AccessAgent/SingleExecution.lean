import AccessAgent.RemediationSystem

/-! How often the playbook of one action completes. The status of the row is written after the
playbook and is read by nothing before it. -/

namespace AccessAgent
open Semantics Remediation

variable {σ : Type} (collaborators : Collaborators σ)

namespace Stage

def leasesNext : Stage → Bool
  | .leasing => true
  | _ => false

def executing : Stage → Bool
  | .running _ => true
  | _ => false

def executed : Stage → Bool
  | .locating _ => true
  | .flushing _ => true
  | _ => false

theorem leasesNext_not_executing {stage : Stage} (leases : stage.leasesNext = true) : stage.executing ≠ true := by
  cases stage with
  | leasing => simp [executing]
  | _ => simp [leasesNext] at leases

end Stage

namespace SystemAction

def direct : SystemAction σ → Bool
  | .execute _ => true
  | _ => false

def resumed : SystemAction σ → Option Nat
  | .resume index => some index
  | _ => none

end SystemAction

namespace RemediationSystem

def Executing (system : RemediationSystem σ) (remediationActionId : String) : Prop :=
  ∃ index < system.nextCall, ∃ inFlight ∈ system.calls index, inFlight.stage.executing = true ∧
    inFlight.call.remediationActionId = remediationActionId

/-- Calls come through the service, and each asks for its credential only where no playbook of its
action has completed or is running. -/
def Unrepeated (system : RemediationSystem σ) (action : SystemAction σ) : Prop :=
  action.direct = false ∧ ∀ index ∈ action.resumed, ∀ inFlight ∈ system.calls index, inFlight.stage.leasesNext = true →
    .completed inFlight.call.remediationActionId ∉ system.log ∧ ¬system.Executing inFlight.call.remediationActionId

instance (system : RemediationSystem σ) (remediationActionId : String) :
    Decidable (system.Executing remediationActionId) :=
  inferInstanceAs (Decidable (∃ index < system.nextCall, ∃ inFlight ∈ system.calls index,
    inFlight.stage.executing = true ∧ inFlight.call.remediationActionId = remediationActionId))

instance (system : RemediationSystem σ) (action : SystemAction σ) : Decidable (Unrepeated system action) :=
  inferInstanceAs (Decidable (action.direct = false ∧ ∀ index ∈ action.resumed, ∀ inFlight ∈ system.calls index,
    inFlight.stage.leasesNext = true → .completed inFlight.call.remediationActionId ∉ system.log ∧
      ¬system.Executing inFlight.call.remediationActionId))

/-- What the log says of the action of a call in flight. -/
structure Logged (log : List SystemEvent) (inFlight : InFlight σ) : Prop where
  executing : inFlight.stage.executing = true → .completed inFlight.call.remediationActionId ∉ log
  executed : inFlight.stage.executed = true → .completed inFlight.call.remediationActionId ∈ log
  named : ∃ uuid, inFlight.call.remediationActionId = collaborators.uuidText uuid

structure Once (system : RemediationSystem σ) : Prop where
  registered : system.Registered
  logged : ∀ index inFlight, system.calls index = some inFlight → Logged collaborators system.log inFlight
  alone : ∀ index other first second, system.calls index = some first → system.calls other = some second →
    first.stage.executing = true → second.stage.executing = true →
    first.call.remediationActionId = second.call.remediationActionId → index = other
  rows : ∀ action ∈ system.state.actions, action.status = "executed" →
    .completed (collaborators.uuidText action.id) ∈ system.log
  counted : ∀ id, system.log.count (.completed id) ≤ 1
  refused : ∀ id stored, .requested id stored ∈ system.log → stored ≠ some "executed"

theorem rows_from {before after : RemediationState σ} {log : List SystemEvent} (from_before : RowsFrom before after)
    (rows : ∀ action ∈ before.actions, action.status = "executed" → .completed (collaborators.uuidText action.id) ∈ log) :
    ∀ action ∈ after.actions, action.status = "executed" → .completed (collaborators.uuidText action.id) ∈ log := by
  intro action member executed
  rcases from_before action member with kept | pending
  · exact rows action kept executed
  · rw [pending] at executed
    exact absurd executed (by decide)

theorem begun_logged {inFlight : InFlight σ} (begun : inFlight.Begun) (log : List SystemEvent)
    (named : ∃ uuid, inFlight.call.remediationActionId = collaborators.uuidText uuid) :
    inFlight.stage.executing = false ∧ Logged collaborators log inFlight := by
  obtain ⟨call,playbook,stage⟩ := inFlight
  cases stage with
  | checking ticketId => exact ⟨rfl,by simp [Stage.executing],by simp [Stage.executed],named⟩
  | leasing => exact ⟨rfl,by simp [Stage.executing],by simp [Stage.executed],named⟩
  | _ => exact begun.elim

/-- A call takes its stages in order. -/
theorem advanced_next {state after : RemediationState σ} {inFlight next : InFlight σ}
    {outcome : StageOutcome σ}
    (advanced : Advanced collaborators state inFlight outcome after) (remains : remaining outcome = some next) :
    next.call = inFlight.call ∧ (next.stage.executing = true → inFlight.stage.leasesNext = true) ∧
      (next.stage.executed = true → inFlight.stage.executed = true ∨ inFlight.stage.executing = true) := by
  cases advanced with
  | raised raised after rows => simp [remaining] at remains
  | approved ticketId after reached answer rows =>
    rw [← Option.some.inj remains]
    exact ⟨rfl,by simp [InFlight.becomes,Stage.executing],by simp [InFlight.becomes,Stage.executed]⟩
  | leased credential after reached rows =>
    rw [← Option.some.inj remains,reached]
    exact ⟨rfl,fun _ => rfl,by simp [InFlight.becomes,Stage.executed]⟩
  | ran credential rollbackData after reached rows =>
    rw [← Option.some.inj remains,reached]
    exact ⟨rfl,by simp [InFlight.becomes,Stage.executing],fun _ => Or.inr rfl⟩
  | marked rollbackData actionId after reached parsed rows =>
    rw [← Option.some.inj remains,reached]
    exact ⟨rfl,by simp [InFlight.becomes,Stage.executing],fun _ => Or.inl rfl⟩
  | returned rollbackData after reached rows => simp [remaining] at remains

theorem observed_completed {system : RemediationSystem σ} {inFlight next : InFlight σ}
    {outcome : StageOutcome σ} (executing : inFlight.stage.executing = true)
    (remains : remaining outcome = some next) :
    .completed inFlight.call.remediationActionId ∈ system.observed collaborators inFlight outcome := by
  obtain ⟨call,playbook,stage⟩ := inFlight
  cases stage with
  | running credential =>
    cases outcome with
    | error raised => simp [remaining] at remains
    | ok progress => exact List.mem_cons_of_mem _ List.mem_cons_self
  | _ => simp [Stage.executing] at executing

theorem completed_observed {system : RemediationSystem σ} {inFlight : InFlight σ} {outcome : StageOutcome σ}
    {id : String} (member : .completed id ∈ system.observed collaborators inFlight outcome) :
    id = inFlight.call.remediationActionId ∧ inFlight.stage.executing = true := by
  rcases mem_observed collaborators member with ⟨event,_⟩ | ⟨⟨credential,running⟩,event | ⟨event,_⟩⟩
  · exact SystemEvent.noConfusion event
  · exact SystemEvent.noConfusion event
  · exact ⟨SystemEvent.completed.inj event,by rw [running]; rfl⟩

theorem observed_count (system : RemediationSystem σ) (inFlight : InFlight σ) (outcome : StageOutcome σ)
    (id : String) : (system.observed collaborators inFlight outcome).count (.completed id) ≤ 1 := by
  unfold observed
  dsimp only
  split
  next => simp
  next =>
    rw [List.count_cons_of_ne (by simp)]
    exact List.count_le_length
  next => simp
  next => simp

section Lawful
variable (parses : ∀ uuid, collaborators.parseUuid (collaborators.uuidText uuid) = .ok uuid)
include parses

theorem advanced_rows {system : RemediationSystem σ} {inFlight : InFlight σ} {outcome : StageOutcome σ}
    {after : RemediationState σ} (logged : Logged collaborators system.log inFlight)
    (rows : ∀ action ∈ system.state.actions, action.status = "executed" →
      .completed (collaborators.uuidText action.id) ∈ system.log)
    (advanced : Advanced (system.gate collaborators) system.state inFlight outcome after) :
    ∀ action ∈ after.actions, action.status = "executed" →
      .completed (collaborators.uuidText action.id) ∈ system.log := by
  cases advanced with
  | marked rollbackData actionId after reached parsed marked =>
    rw [marked]
    intro action member executed
    obtain ⟨earlier,stored,rfl⟩ := List.mem_map.mp member
    rw [markExecuted_id]
    by_cases same : earlier.id = actionId
    · -- the row that this stage writes belongs to a call whose playbook has completed
      obtain ⟨uuid,named⟩ := logged.named
      have read : collaborators.parseUuid inFlight.call.remediationActionId = .ok actionId := parsed
      rw [named,parses uuid] at read
      rw [same,← Except.ok.inj read,← named]
      exact logged.executed (by rw [reached]; rfl)
    · rw [markExecuted,if_neg same] at executed
      exact rows earlier stored executed
  | raised raised after kept => rwa [kept]
  | approved ticketId after reached answer kept => rwa [kept]
  | leased credential after reached kept => rwa [kept]
  | ran credential rollbackData after reached kept => rwa [kept]
  | returned rollbackData after reached kept => rwa [kept]

theorem stored_executed {system : RemediationSystem σ} {remediationActionId : String}
    (named : ∃ uuid, remediationActionId = collaborators.uuidText uuid)
    (rows : ∀ action ∈ system.state.actions, action.status = "executed" →
      .completed (collaborators.uuidText action.id) ∈ system.log)
    (stored : system.storedStatus collaborators remediationActionId = some "executed") :
    .completed remediationActionId ∈ system.log := by
  obtain ⟨uuid,rfl⟩ := named
  rw [storedStatus,parses uuid] at stored
  obtain ⟨action,found,executed⟩ := Option.map_eq_some_iff.mp stored
  have same : action.id = uuid := by simpa using List.find?_some found
  rw [← same]
  exact rows action (List.mem_of_find?_eq_some found) executed

theorem resumed_once {system : RemediationSystem σ} {index : Nat} {inFlight : InFlight σ}
    {outcome : StageOutcome σ} {after : RemediationState σ} (once : system.Once collaborators)
    (waiting : system.calls index = some inFlight) (unrepeated : Unrepeated system (.resume index))
    (advanced : Advanced (system.gate collaborators) system.state inFlight outcome after) :
    Once collaborators {system.put index (remaining outcome) with
      state := after
      log := system.log ++ system.observed collaborators inFlight outcome} := by
  have logged := once.logged index inFlight waiting
  have free := unrepeated.2 index rfl inFlight waiting
  constructor
  case registered =>
    exact moved_registered collaborators (.resumed index inFlight waiting outcome after advanced) once.registered
  case logged =>
    intro other found reached
    rcases calls_put reached with ⟨_,remains⟩ | ⟨different,earlier⟩
    · obtain ⟨same,leased,ran⟩ := advanced_next (system.gate collaborators) advanced remains
      refine ⟨fun executing member => ?_,fun executed => ?_,by rw [same]; exact logged.named⟩
      · rw [same] at member
        rcases List.mem_append.mp member with old | new
        · exact (free (leased executing)).1 old
        · exact Stage.leasesNext_not_executing (leased executing) (completed_observed collaborators new).2
      · rw [same]
        rcases ran executed with already | executing
        · exact List.mem_append_left _ (logged.executed already)
        · exact List.mem_append_right _ (observed_completed collaborators executing remains)
    · have before := once.logged other found earlier
      refine ⟨fun executing member => ?_,fun executed => List.mem_append_left _ (before.executed executed),before.named⟩
      rcases List.mem_append.mp member with old | new
      · exact before.executing executing old
      · obtain ⟨same,running⟩ := completed_observed collaborators new
        exact different (once.alone other index found inFlight earlier waiting executing running same)
  case alone =>
    -- a call that starts its playbook was let do so with no other one running
    have started : ∀ other first second, remaining outcome = some first → system.calls other = some second →
        first.stage.executing = true → second.stage.executing = true →
        first.call.remediationActionId ≠ second.call.remediationActionId := by
      intro other first second remains earlier executing running same
      obtain ⟨call,leased,_⟩ := advanced_next (system.gate collaborators) advanced remains
      rw [call] at same
      exact (free (leased executing)).2 ⟨other,once.registered other second earlier,second,earlier,running,same.symm⟩
    intro first second one two atFirst atSecond executing running same
    rcases calls_put atFirst with ⟨rfl,new⟩ | ⟨_,old⟩
    · rcases calls_put atSecond with ⟨rfl,_⟩ | ⟨_,earlier⟩
      · rfl
      · exact absurd same (started second one two new earlier executing running)
    · rcases calls_put atSecond with ⟨rfl,new⟩ | ⟨_,earlier⟩
      · exact absurd same.symm (started first two one new old running executing)
      · exact once.alone first second one two old earlier executing running same
  case rows =>
    intro action member executed
    exact List.mem_append_left _ (advanced_rows collaborators parses logged once.rows advanced action member executed)
  case counted =>
    intro id
    rw [List.count_append]
    by_cases completes : .completed id ∈ system.observed collaborators inFlight outcome
    · obtain ⟨rfl,executing⟩ := completed_observed collaborators completes
      rw [List.count_eq_zero.mpr (logged.executing executing),Nat.zero_add]
      exact observed_count collaborators system inFlight outcome _
    · rw [List.count_eq_zero.mpr completes]
      exact once.counted id
  case refused =>
    intro id stored member
    rcases List.mem_append.mp member with old | new
    · exact once.refused id stored old
    rcases mem_observed collaborators new with ⟨event,leasing⟩ | ⟨_,event | ⟨event,_⟩⟩
    · obtain ⟨rfl,rfl⟩ := SystemEvent.requested.inj event
      intro executed
      have leases : inFlight.stage.leasesNext = true := by rw [leasing]; rfl
      exact (free leases).1 (stored_executed collaborators parses logged.named once.rows executed)
    · exact SystemEvent.noConfusion event
    · exact SystemEvent.noConfusion event

theorem step_once {system after : RemediationSystem σ} {action : SystemAction σ} {output : List SystemEvent}
    (once : system.Once collaborators) (unrepeated : Unrepeated system action)
    (taken : system.step collaborators action = some (after,output)) : after.Once collaborators := by
  have moved := step_moved collaborators taken
  have registered := moved_registered collaborators moved once.registered
  cases moved with
  | aside after rows => exact {once with rows := rows_from collaborators rows once.rows}
  | issued ticketId remediationActionId => exact {once with}
  | decided ticketId status => exact {once with}
  | entered inFlight after begun named rows =>
    have byService : ∃ uuid, inFlight.call.remediationActionId = collaborators.uuidText uuid := by
      rcases named with ⟨call,rfl⟩ | named
      · exact absurd unrepeated.1 (by simp [SystemAction.direct])
      · exact named
    obtain ⟨idle,logged⟩ := begun_logged collaborators begun system.log byService
    constructor
    case registered => exact registered
    case logged =>
      intro index found waiting
      rcases calls_put waiting with ⟨_,same⟩ | ⟨_,earlier⟩
      · exact Option.some.inj same ▸ logged
      · exact once.logged index found earlier
    case alone =>
      have older : ∀ index found, (system.put system.nextCall (some inFlight)).calls index = some found →
          found.stage.executing = true → system.calls index = some found := by
        intro index found waiting executing
        rcases calls_put waiting with ⟨_,same⟩ | ⟨_,earlier⟩
        · rw [← Option.some.inj same,idle] at executing
          exact absurd executing Bool.false_ne_true
        · exact earlier
      intro index other first second atFirst atSecond executing running same
      exact once.alone index other first second (older index first atFirst executing)
        (older other second atSecond running) executing running same
    case rows => exact rows_from collaborators rows once.rows
    case counted => exact once.counted
    case refused => exact once.refused
  | resumed index inFlight waiting outcome after advanced =>
    exact resumed_once collaborators parses once waiting unrepeated advanced

/-- In every run that starts no second execution beside or after a first, the playbook of an
action completes at most once and no credential is requested for a row marked executed. -/
theorem executed_once {state : RemediationState σ} {system : RemediationSystem σ}
    (fresh : ∀ action ∈ state.actions, action.status ≠ "executed")
    (reached : Reaches (RemediationSystem.step collaborators) Unrepeated (opened state) system) :
    (∀ id, system.log.count (.completed id) ≤ 1) ∧
      ∀ id stored, .requested id stored ∈ system.log → stored ≠ some "executed" := by
  have initial : (opened state).Once collaborators := by
    constructor
    case rows => exact fun action member executed => absurd executed (fresh action member)
    all_goals simp [opened,Registered]
  have once : system.Once collaborators := reached.invariant initial
    (fun before action after output held admitted taken => step_once collaborators parses held admitted taken)
  exact ⟨once.counted,once.refused⟩

end Lawful

/-! ### A second call -/

private def unrequested : RemediationState Unit := {requestedState .informationalAutomatic with actions := []}

private def requestAndExecute : List (SystemAction Unit) :=
  [.requestRemediation 7 "unlock_account" .informationalAutomatic,.executeAction 2 "alice" "crm" "corr-1" none,
    .resume 0,.resume 0,.resume 0,.resume 0]

private def executeAgain : List (SystemAction Unit) :=
  [.executeAction 2 "alice" "crm" "corr-2" none,.resume 1,.resume 1]

theorem executed_once_requested : ∃ system : RemediationSystem Unit,
    Reaches (RemediationSystem.step quietCollaborators) Unrepeated (opened unrequested) system ∧
      .completed "00" ∈ system.log ∧ (∀ id, system.log.count (.completed id) ≤ 1) ∧
      ∀ id stored, .requested id stored ∈ system.log → stored ≠ some "executed" := by
  have ran : (execute (RemediationSystem.step quietCollaborators) Unrepeated requestAndExecute
      (opened unrequested)).map (fun reached => reached.1.log) =
      some [.requested "00" (some "pending"),.invoked "00" .informationalAutomatic [],.completed "00"] := by
    decide +kernel
  obtain ⟨⟨system,_⟩,run,log⟩ := Option.map_eq_some_iff.mp ran
  have reached := reaches_execute .start run
  refine ⟨system,reached,?_,executed_once quietCollaborators quiet_parse (List.forall_mem_nil _) reached⟩
  rw [log]
  decide

/-- The same action executed a second time, after its row says that it has been. -/
theorem executed_twice : ∃ system : RemediationSystem Unit,
    Reaches (RemediationSystem.step quietCollaborators) (fun _ action => action.direct = false) (opened unrequested) system ∧
      system.log.count (.completed "00") = 2 ∧ .requested "00" (some "executed") ∈ system.log := by
  have ran : (execute (RemediationSystem.step quietCollaborators) (fun _ action => action.direct = false)
      (requestAndExecute ++ executeAgain) (opened unrequested)).map (fun reached => reached.1.log) =
      some [.requested "00" (some "pending"),.invoked "00" .informationalAutomatic [],.completed "00",
        .requested "00" (some "executed"),.invoked "00" .informationalAutomatic [],.completed "00"] := by
    decide +kernel
  obtain ⟨⟨system,_⟩,run,log⟩ := Option.map_eq_some_iff.mp ran
  refine ⟨system,reaches_execute .start run,?_,?_⟩
  · rw [log]
    decide
  · rw [log]
    decide

end RemediationSystem

end AccessAgent
