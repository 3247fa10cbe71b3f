import AccessAgent.ConcurrentRequests
import AccessAgent.Degradation

/-! What a handler does beside the rows of other requests. Over tables that differ in such rows only
it answers the same and inserts the same rows. -/

namespace AccessAgent
open Semantics Handler

variable {σ : Type}

@[simp] theorem Tables.append_nothing (tables : Tables) : tables.append ⟨[],[],[]⟩ = tables := by simp [Tables.append]

/-- Two sessions that differ in the rows before the inserted ones only. -/
def Beside (left right : Tables) (session other : Session σ) : Prop :=
  ∃ inserted, session.tables = left.append inserted ∧ other = {session with tables := right.append inserted}

/-- From sessions beside each other, what the handler answers in the first one it answers in the second one. -/
abbrev Undisturbed (left right : Tables) {α : Type} (handler : Handler σ α) : Prop :=
  Weaker (Beside left right) Eq handler handler

namespace Undisturbed
variable {left right : Tables} {α : Type}

theorem await (program : Effect Exn σ α) : Undisturbed left right (Handler.await program) := by
  refine Weaker.zoom ?_ ?_ (Weaker.refl program)
  · rintro session _ ⟨inserted,_,rfl⟩
    rfl
  · rintro session _ world _ ⟨inserted,rows,rfl⟩ rfl
    exact ⟨inserted,rows,rfl⟩

theorem uuid4 : Undisturbed left right (Handler.uuid4 : Handler σ Uuid) := by
  rintro session _ ⟨inserted,rows,rfl⟩ id after ok
  obtain ⟨rfl,rfl⟩ : session.nextUuid = id ∧ {session with nextUuid := session.nextUuid + 1} = after := by simpa using ok
  exact ⟨session.nextUuid,_,rfl,rfl,inserted,rows,rfl⟩

theorem transactionStart : Undisturbed left right (Handler.transactionStart : Handler σ Datetime) := by
  apply Weaker.read
  rintro session _ ⟨inserted,_,rfl⟩
  rfl

/-- New rows come after those that both have. -/
theorem modifyTables {change : Tables → Tables}
    (appends : ∃ added : Tables, ∀ tables : Tables, change tables = tables.append added) :
    Undisturbed left right (Handler.modifyTables change : Handler σ Unit) := by
  obtain ⟨added,appends⟩ := appends
  have both : ∀ tables inserted : Tables, change (tables.append inserted) = tables.append (inserted.append added) := by
    intro tables inserted
    rw [appends]
    simp [Tables.append]
  apply Weaker.update
  rintro session _ ⟨inserted,rows,rfl⟩
  refine ⟨inserted.append added,?_,?_⟩
  · rw [← both,← rows]
  · rw [← both]

variable (deployment : Deployment σ)

theorem createRequest (request : Uuid → DiagnosticRequestModel) :
    Undisturbed left right (DiagnosticRepository.createRequest deployment request) := by
  refine Weaker.bind_same uuid4 fun id => Weaker.bind_same (await _) fun _ => ?_
  refine Weaker.bind_same (modifyTables ⟨⟨[request id],[],[]⟩,fun tables => by simp [Tables.append]⟩) fun _ => ?_
  exact Weaker.pure rfl

theorem createRun (run : Uuid → Datetime → DiagnosticRunModel) :
    Undisturbed left right (DiagnosticRepository.createRun deployment run) := by
  refine Weaker.bind_same uuid4 fun id => Weaker.bind_same (await _) fun _ => ?_
  refine Weaker.bind_same transactionStart fun startedAt => ?_
  exact modifyTables ⟨⟨[],[run id startedAt],[]⟩,fun tables => by simp [Tables.append]⟩

theorem record (event : AuditEvent) : Undisturbed left right (AuditService.record deployment event) := by
  refine Weaker.bind_same (Weaker.bind_same uuid4 fun id => Weaker.bind_same (await _) fun _ => ?_) fun _ => await _
  refine Weaker.bind_same transactionStart fun occurredAt => ?_
  exact modifyTables ⟨⟨[],[],[event.model id occurredAt]⟩,fun tables => by simp [Tables.append]⟩

theorem connectorOf (policy : SystemPolicy) : Undisturbed left right (AccessAgent.connectorOf deployment policy) := by
  rintro session _ ⟨inserted,rows,rfl⟩ connector after ok
  obtain ⟨found,rfl⟩ := Prod.mk.inj ok
  exact ⟨connector,_,Prod.ext found rfl,rfl,inserted,rows,rfl⟩

/-- What is read alike in both. -/
theorem selects {β : Type} {rows : Tables → β} (same : ∀ inserted, rows (left.append inserted) = rows (right.append inserted)) :
    Undisturbed left right (do
      Handler.await deployment.select
      let tables ← tables
      return rows tables) := by
  refine Weaker.bind_same (await _) fun _ => ?_
  have alike : Weaker (Beside left right : Session σ → Session σ → Prop) (fun tables others => rows tables = rows others)
      tables tables := by
    apply Weaker.read
    rintro session _ ⟨inserted,found,rfl⟩
    rw [found]
    exact same inserted
  exact Weaker.bind alike fun _ _ found => Weaker.pure found

theorem getRequest {requestId : Uuid} (same : left.requests.find? (fun request => request.id = requestId) =
    right.requests.find? (fun request => request.id = requestId)) :
    Undisturbed left right (DiagnosticRepository.getRequest deployment requestId) := by
  apply selects
  intro inserted
  rw [Tables.append,Tables.append,List.find?_append,List.find?_append,same]

theorem listRuns {requestId : Uuid} (same : runsOf left requestId = runsOf right requestId) :
    Undisturbed left right (DiagnosticRepository.listRunsForRequest deployment requestId) := by
  apply selects
  intro inserted
  rw [runsOf,runsOf] at same
  rw [Tables.append,Tables.append,List.filter_append,List.filter_append,same]

variable [Clock σ]

theorem sameClock : SameClock (Beside left right : Session σ → Session σ → Prop) := by
  rintro session _ ⟨inserted,rows,rfl⟩
  exact ⟨rfl,inserted,rows,rfl⟩

theorem now : Undisturbed left right (datetimeNow : Handler σ Datetime) := now_weaker sameClock

theorem orchestrate (ctx : DiagnosticContext σ) : Undisturbed left right (DiagnosticService.orchestrate ctx) := by
  rintro session _ ⟨inserted,rows,rfl⟩ result after ok
  obtain ⟨ran,rfl⟩ := Prod.mk.inj ok
  exact ⟨result,_,Prod.ext ran rfl,rfl,inserted,rows,rfl⟩

theorem submit (loginId : String) (intake : ComplaintIntake) (correlationId : String) :
    Undisturbed left right (IntakeService.submit deployment loginId intake correlationId) := by
  refine Weaker.bind_same (Weaker.lift_same _) fun policy => Weaker.bind_same (connectorOf deployment policy) fun connector => ?_
  refine Weaker.bind_same (await _) fun subjectSub => ?_
  cases subjectSub with
  | none => exact Weaker.throw _ _
  | some subjectSub =>
    refine Weaker.bind_same (await _) fun draft => Weaker.bind_same (createRequest deployment _) fun request => ?_
    refine Weaker.bind_same now fun occurredAt => Weaker.bind_same (record deployment _) fun _ => ?_
    exact Weaker.pure rfl

theorem runDiagnostic {requestId : Uuid} (same : left.requests.find? (fun request => request.id = requestId) =
    right.requests.find? (fun request => request.id = requestId)) (principal : Principal) :
    Undisturbed left right (DiagnosticService.runDiagnostic deployment requestId principal) := by
  refine Weaker.bind_same (getRequest deployment same) fun found => ?_
  cases found with
  | none => exact Weaker.throw _ _
  | some model =>
    refine Weaker.bind_same (Weaker.lift_same _) fun draft => Weaker.bind_same (Weaker.lift_same _) fun policy => ?_
    refine Weaker.bind_same (connectorOf deployment policy) fun connector => Weaker.bind_same (orchestrate _) fun result => ?_
    refine Weaker.bind_same (createRun deployment _) fun _ => Weaker.bind_same now fun completedAt => ?_
    refine Weaker.bind_same (record deployment _) fun _ => ?_
    split
    · refine Weaker.bind_same now fun escalatedAt => Weaker.bind_same (record deployment _) fun _ => ?_
      exact Weaker.pure rfl
    · exact Weaker.pure rfl

omit [Clock σ] in
theorem escalatedRequest {requestId : Uuid} (same : left.requests.find? (fun request => request.id = requestId) =
    right.requests.find? (fun request => request.id = requestId)) :
    Undisturbed left right (AccessAgent.escalatedRequest deployment requestId) := by
  refine Weaker.bind_same ?_ fun _ => Weaker.bind_same (getRequest deployment same) fun found => ?_
  · rw [assertAgentNotKilled]
    split
    · exact Weaker.throw _ _
    · exact Weaker.pure rfl
  · cases found with
    | none => exact Weaker.throw _ _
    | some model => exact Weaker.pure rfl

theorem escalateFound {requestId : Uuid} (same : runsOf left requestId = runsOf right requestId)
    (escalation : EscalationRequest) (model : DiagnosticRequestModel) :
    Undisturbed left right (AccessAgent.escalateFound deployment requestId escalation model) := by
  refine Weaker.bind_same (listRuns deployment same) fun runs => Weaker.bind_same (Weaker.lift_same _) fun latestRun => ?_
  refine Weaker.bind_same (Weaker.lift_same _) fun scenario => Weaker.bind_same now fun occurredAt => ?_
  exact Weaker.bind_same (record deployment _) fun _ => Weaker.pure rfl

end Undisturbed

/-! ### The handlers over other tables -/

/-- What is undisturbed does over other tables what it does over these. -/
theorem Undisturbed.elsewhere {left right : Tables} {α : Type} {handler : Handler σ α} (undisturbed : Undisturbed left right handler)
    {before after : Session σ} {value : α} (tables : before.tables = left) (ran : handler.exec before = (.ok value,after)) :
    ∃ inserted, after.tables = left.append inserted ∧
      handler.exec {before with tables := right} = (.ok value,{after with tables := right.append inserted}) := by
  have start : Beside left right before {before with tables := right} :=
    ⟨⟨[],[],[]⟩,by rw [tables,Tables.append_nothing],by rw [Tables.append_nothing]⟩
  obtain ⟨_,_,known,rfl,inserted,rows,rfl⟩ := undisturbed before _ start value after ran
  exact ⟨inserted,rows,known⟩

variable (deployment : Deployment σ) [Clock σ]

/-- A submission reads no row but its own. -/
theorem submitIntake_elsewhere {intake : ComplaintIntake} {before after : Session σ} {response : IntakeDiagnosisResponse}
    (right : Tables) (fresh : ∀ request ∈ before.tables.requests, request.id ≠ before.nextUuid + 1)
    (freshRight : ∀ request ∈ right.requests, request.id ≠ before.nextUuid + 1)
    (ran : (submitIntake deployment intake).exec before = (.ok response,after)) :
    ∃ inserted, after.tables = before.tables.append inserted ∧
      (submitIntake deployment intake).exec {before with tables := right} =
        (.ok response,{after with tables := right.append inserted}) := by
  rw [submitIntake] at ran ⊢
  obtain ⟨_,admitted,gate,ran⟩ := Effect.bind_success ran
  obtain ⟨rfl,admits⟩ : before = admitted ∧ ∀ session, (assertAgentNotKilled deployment).exec session = (.ok (),session) := by
    rw [assertAgentNotKilled] at gate ⊢
    split at gate
    next => cases gate
    next alive => exact ⟨(pure_kept gate).2,fun session => by rw [if_neg alive]; rfl⟩
  obtain ⟨uuid,drawn,draw,ran⟩ := Effect.bind_success ran
  obtain ⟨rfl,rfl⟩ : before.nextUuid = uuid ∧ {before with nextUuid := before.nextUuid + 1} = drawn := by
    simpa using draw
  obtain ⟨model,submitted,submit,ran⟩ := Effect.bind_success ran
  obtain ⟨_,_,_,shape,_⟩ := submit_success deployment submit
  have named : model.id = before.nextUuid + 1 := by rw [shape]
  have absent : ∀ tables : Tables, (∀ request ∈ tables.requests, request.id ≠ before.nextUuid + 1) →
      tables.requests.find? (fun request => request.id = model.id) = none := by
    intro tables fresh
    rw [List.find?_eq_none]
    intro request member
    simpa [named] using fresh request member
  have undisturbed : Undisturbed before.tables right
      (IntakeService.submit deployment intake.loginId intake (deployment.uuidText before.nextUuid)) :=
    .submit deployment _ intake _
  obtain ⟨own,rows,submitElsewhere⟩ := undisturbed.elsewhere
    (show ({before with nextUuid := before.nextUuid + 1} : Session σ).tables = before.tables from rfl) submit
  obtain ⟨result,ended,diagnose,ran⟩ := Effect.bind_success ran
  obtain ⟨rfl,rfl⟩ := pure_kept ran
  have same := (absent before.tables fresh).trans (absent right freshRight).symm
  obtain ⟨_,_,diagnoseElsewhere,rfl,inserted,ends,rfl⟩ := Undisturbed.runDiagnostic deployment same ⟨model.subjectSub,[]⟩
    submitted _ ⟨own,rows,rfl⟩ result ended diagnose
  refine ⟨inserted,ends,?_⟩
  refine (Effect.bind_answered (admits _) _).trans ?_
  refine (Effect.bind_answered (show uuid4.exec {before with tables := right} =
    (.ok before.nextUuid,{before with tables := right,nextUuid := before.nextUuid + 1}) from rfl) _).trans ?_
  refine (Effect.bind_answered submitElsewhere _).trans ?_
  exact Effect.bind_answered diagnoseElsewhere _

end AccessAgent
