import AccessAgent.AuditRead
import AccessAgent.Books
import AccessAgent.OtherRows

/-! Requests in flight together have the effect of requests served one after the other, in the
order of their commits: what commits is what serving the request alone over the tables of that
moment stores and answers. The books of every stored request balance in between. -/

namespace AccessAgent
open Semantics

variable {σ : Type} [Clock σ] (deployment : Deployment σ)

/-! ### A request served alone -/

/-- The process over other tables. -/
def App.holding (app : App σ) (tables : Tables) : App σ := {app with committed := tables}

/-- The deployment over a database that takes every commit. -/
def Deployment.committing : Deployment σ := {deployment with commit := pure ()}

/-- An escalation between whose two statements the process moves on to this one. -/
def escalateMeanwhile (listing : App σ) (requestId : Uuid) (escalation : EscalationRequest) : Handler σ ApiResponse := do
  let model ← escalatedRequest deployment requestId
  Effect.update fun session =>
    {session with world := listing.world,instances := listing.instances,nextUuid := listing.nextUuid}
  let response ← escalateFound deployment requestId escalation model
  return .escalation response

/-- Where nothing moves on in between, this is the escalation. -/
theorem escalateMeanwhile_still {requestId : Uuid} (escalation : EscalationRequest) {app : App σ}
    {model : DiagnosticRequestModel} {first : Session σ}
    (found : (escalatedRequest deployment requestId).exec app.begin = (.ok model,first)) :
    transaction deployment (escalateMeanwhile deployment (app.left first) requestId escalation) app =
      serve deployment (.escalateIntake requestId escalation) app := by
  have same : (escalateMeanwhile deployment (app.left first) requestId escalation).exec app.begin =
      (handle deployment (.escalateIntake requestId escalation)).exec app.begin := by
    rw [escalateMeanwhile,handle,escalateIntake_statements,Effect.bind_assoc,Effect.bind_answered found,
      Effect.bind_answered found]
    rfl
  rw [serve,transaction,transaction,same]

/-- The request is served alone over the tables: as in the process that it arrived in and, for the second statement of an
escalation, the one that took it. -/
inductive ServedAlone (took : Event σ → App σ → Prop) (connection : Nat) (before : Tables) :
    ApiRequest → ApiResponse → Tables → Prop
  | submitted {intake : ComplaintIntake} {response : ApiResponse} {arrival after : App σ}
      (arrived : took (.arrive connection (.submitIntake intake)) arrival)
      (served : serve deployment.committing (.submitIntake intake) (arrival.holding before) = (.ok response,after)) :
      ServedAlone took connection before (.submitIntake intake) response after.committed
  | escalated {requestId : Uuid} {escalation : EscalationRequest} {response : ApiResponse} {arrival listing after : App σ}
      (arrived : took (.arrive connection (.escalateIntake requestId escalation)) arrival)
      (listed : took (.list connection) listing)
      (served : transaction deployment.committing (escalateMeanwhile deployment listing requestId escalation)
        (arrival.holding before) = (.ok response,after)) :
      ServedAlone took connection before (.escalateIntake requestId escalation) response after.committed

/-! ### What a handler leaves for its commit -/

theorem Submitted.inserts {intake : ComplaintIntake} {response : IntakeDiagnosisResponse} {before after : Tables} {uuid : Nat}
    (rows : Submitted deployment intake response before uuid after) : ∃ inserted, after = before.append inserted := by
  obtain ⟨_,_,_,_,_,_,_,_,_,stored⟩ := rows
  exact ⟨⟨_,_,_⟩,stored⟩

theorem Tables.append_injective (tables : Tables) : Function.Injective tables.append := by
  intro left right same
  cases left
  cases right
  simpa [Tables.append] using same

theorem Tables.inserted_rows {tables inserted : Tables} {requests : List DiagnosticRequestModel}
    {runs : List DiagnosticRunModel} {auditEvents : List AuditEventModel}
    (same : tables.append inserted = ⟨tables.requests ++ requests,tables.runs ++ runs,tables.auditEvents ++ auditEvents⟩) :
    inserted = ⟨requests,runs,auditEvents⟩ :=
  Tables.append_injective tables same

@[simp] theorem Tables.append_since (tables inserted : Tables) :
    tables.append (tables.since (tables.append inserted)) = tables.append inserted := by
  simp [Tables.append,Tables.since]

theorem escalateFound_success {requestId : Uuid} {escalation : EscalationRequest} {model : DiagnosticRequestModel}
    {before after : Session σ} {response : DiagnosticService.EscalationResponse}
    (found : before.tables.requests.find? (fun request => request.id = requestId) = some model)
    (ok : (escalateFound deployment requestId escalation model).exec before = (.ok response,after)) :
    ∃ uuid, Escalated requestId escalation response before.tables uuid after.tables := by
  rw [escalateFound] at ok
  obtain ⟨runs,listed,list,ok⟩ := Effect.bind_success ok
  obtain ⟨rfl,kept⟩ := listRuns_success deployment list
  obtain ⟨latestRun,_,newest,ok⟩ := Effect.bind_success ok
  obtain ⟨isLatest,rfl⟩ := lift_kept newest
  obtain ⟨⟨lastStep,causeCode⟩,_,scenario,ok⟩ := Effect.bind_success ok
  obtain ⟨isScenario,rfl⟩ := lift_kept scenario
  obtain ⟨occurredAt,dated,date,ok⟩ := Effect.bind_success ok
  have timed := now_kept date
  obtain ⟨_,recorded,record,ok⟩ := Effect.bind_success ok
  obtain ⟨rows,_,_⟩ := record_success deployment record
  obtain ⟨rfl,rfl⟩ := pure_kept ok
  refine ⟨dated.nextUuid,model,latestRun,lastStep,causeCode,occurredAt,dated.startedAt,found,isLatest,isScenario,rfl,?_⟩
  rw [rows,timed.tables,kept.tables]

theorem escalateFound_draws (requestId : Uuid) (escalation : EscalationRequest) (model : DiagnosticRequestModel) :
    Draws (escalateFound deployment requestId escalation model) := by
  apply Draws.bind (listRunsForRequest_draws deployment requestId)
  intro runs
  refine Draws.skip (fun _ => rfl) ?_
  intro latestRun
  refine Draws.skip (fun _ => rfl) ?_
  intro scenario
  refine Draws.skip (fun _ => rfl) ?_
  intro occurredAt
  apply Draws.bind (record_draws deployment _)
  exact fun _ => Draws.still (fun _ => rfl)

omit [Clock σ] in
theorem escalatedRequest_success {requestId : Uuid} {before after : Session σ} {model : DiagnosticRequestModel}
    (ok : (escalatedRequest deployment requestId).exec before = (.ok model,after)) :
    before.tables.requests.find? (fun request => request.id = requestId) = some model ∧ Kept before after := by
  rw [escalatedRequest] at ok
  obtain ⟨_,admitted,gate,ok⟩ := Effect.bind_success ok
  rw [assertAgentNotKilled] at gate
  split at gate
  · cases gate
  obtain ⟨_,rfl⟩ := pure_kept gate
  obtain ⟨found,selected,select,ok⟩ := Effect.bind_success ok
  obtain ⟨shape,kept⟩ := getRequest_success deployment select
  cases found with
  | none => cases ok
  | some stored =>
    obtain ⟨rfl,rfl⟩ := pure_kept ok
    exact ⟨shape.symm,kept⟩

omit [Clock σ] in
theorem escalatedRequest_draws (requestId : Uuid) : Draws (escalatedRequest deployment requestId) := by
  have gate : Draws (assertAgentNotKilled deployment) := by
    rw [assertAgentNotKilled]
    split <;> exact Draws.still (fun _ => rfl)
  apply Draws.bind gate
  intro _
  apply Draws.bind (getRequest_draws deployment requestId)
  intro found
  cases found <;> exact Draws.still (fun _ => rfl)

/-- What the request would do if its transaction committed now: what it does alone over the tables as they are. -/
inductive Committable (took : Event σ → App σ → Prop) (connection : Nat) (tables : Tables) (nextUuid : Nat) : Work → Prop
  | reading {requestId : Uuid} {escalation : EscalationRequest} {model : DiagnosticRequestModel} {startedAt : Datetime}
      {arrival : App σ} {first : Session σ} (arrived : took (.arrive connection (.escalateIntake requestId escalation)) arrival)
      (found : (escalatedRequest deployment requestId).exec (arrival.holding tables).begin = (.ok model,first))
      (started : first.startedAt = startedAt) :
      Committable took connection tables nextUuid (.reading requestId escalation model startedAt)
  | refused {request : ApiRequest} {firstUuid : Nat} {raised : Exn} {inserted : Tables} :
      Committable took connection tables nextUuid (.ended request firstUuid (.error raised) inserted)
  | submitted {intake : ComplaintIntake} {response : IntakeDiagnosisResponse} {inserted : Tables} {arrival : App σ}
      {after : Session σ} (arrived : took (.arrive connection (.submitIntake intake)) arrival)
      (alone : (submitIntake deployment intake).exec (arrival.holding tables).begin = (.ok response,after))
      (rows : after.tables = tables.append inserted) (drawn : arrival.nextUuid + 1 < nextUuid)
      (fresh : ∀ request ∈ tables.requests, request.id ≠ arrival.nextUuid + 1) :
      Committable took connection tables nextUuid
        (.ended (.submitIntake intake) arrival.nextUuid (.ok (.intake response)) inserted)
  | escalated {requestId : Uuid} {escalation : EscalationRequest} {response : DiagnosticService.EscalationResponse}
      {model : DiagnosticRequestModel} {firstUuid : Nat} {inserted : Tables} {arrival listing : App σ} {first after : Session σ}
      (arrived : took (.arrive connection (.escalateIntake requestId escalation)) arrival)
      (listed : took (.list connection) listing)
      (found : (escalatedRequest deployment requestId).exec (arrival.holding tables).begin = (.ok model,first))
      (alone : (escalateFound deployment requestId escalation model).exec ((listing.holding tables).resume first.startedAt) =
        (.ok response,after))
      (rows : after.tables = tables.append inserted) :
      Committable took connection tables nextUuid
        (.ended (.escalateIntake requestId escalation) firstUuid (.ok (.escalation response)) inserted)

/-- The identifiers of a submission that has ended well and not yet committed. -/
def Work.opens : Work → Option Nat
  | .ended (.submitIntake _) firstUuid (.ok _) _ => some firstUuid
  | _ => none

namespace Committable
variable {deployment} {took other : Event σ → App σ → Prop} {connection nextUuid next : Nat} {tables inserted : Tables} {work : Work}

theorem later (committable : Committable deployment took connection tables nextUuid work)
    (kept : ∀ event app, took event app → other event app) (drawn : nextUuid ≤ next) :
    Committable deployment other connection tables next work := by
  cases committable with
  | reading arrived found started => exact .reading (kept _ _ arrived) found started
  | refused => exact .refused
  | submitted arrived alone rows early fresh =>
    exact .submitted (kept _ _ arrived) alone rows (Nat.lt_of_lt_of_le early drawn) fresh
  | escalated arrived listed found alone rows => exact .escalated (kept _ _ arrived) (kept _ _ listed) found alone rows

omit [Clock σ] in
theorem find_append {requestId : Uuid} {model : DiagnosticRequestModel}
    (found : tables.requests.find? (fun request => request.id = requestId) = some model) (inserted : Tables) :
    (tables.append inserted).requests.find? (fun request => request.id = requestId) = some model := by
  rw [Tables.append,List.find?_append,found]
  rfl

/-- A request in flight is not disturbed by the rows that another one commits. -/
theorem beside (committable : Committable deployment took connection tables nextUuid work)
    (kept : ∀ event app, took event app → other event app) (drawn : nextUuid ≤ next)
    (ids : ∀ uuid, work.opens = some uuid → ∀ request ∈ inserted.requests, request.id ≠ uuid + 1)
    (runs : ∀ run ∈ inserted.runs, ∀ request ∈ tables.requests, run.requestId ≠ request.id) :
    Committable deployment other connection (tables.append inserted) next work := by
  cases committable with
  | reading arrived found started =>
    obtain ⟨member,_⟩ := escalatedRequest_success deployment found
    obtain ⟨_,_,elsewhere⟩ := (Undisturbed.escalatedRequest deployment (member.trans (find_append member inserted).symm)).elsewhere
      rfl found
    exact .reading (kept _ _ arrived) elsewhere started
  | refused => exact .refused
  | @submitted intake response own arrival after arrived alone rows early fresh =>
    have apart : ∀ request ∈ (tables.append inserted).requests, request.id ≠ arrival.nextUuid + 1 := by
      intro request member
      rcases List.mem_append.mp member with old | new
      · exact fresh request old
      · exact ids _ rfl request new
    obtain ⟨stored,grown,elsewhere⟩ := submitIntake_elsewhere deployment (tables.append inserted) fresh apart alone
    obtain rfl : own = stored := Tables.append_injective tables (rows.symm.trans grown)
    exact .submitted (kept _ _ arrived) elsewhere rfl (Nat.lt_of_lt_of_le early drawn) apart
  | @escalated requestId _ _ model _ own arrival listing first after arrived listed found alone rows =>
    obtain ⟨member,_⟩ := escalatedRequest_success deployment found
    have named : model.id = requestId := by simpa using List.find?_some member
    have none : inserted.runs.filter (fun run => run.requestId = requestId) = [] := by
      rw [List.filter_eq_nil_iff]
      intro run new
      have apart := runs run new model (List.mem_of_find?_eq_some member)
      rw [named] at apart
      simpa using apart
    have same : runsOf tables requestId = runsOf (tables.append inserted) requestId := by
      rw [runsOf,runsOf,Tables.append,List.filter_append,none,List.append_nil]
    obtain ⟨_,_,firstElsewhere⟩ := (Undisturbed.escalatedRequest deployment
      (member.trans (find_append member inserted).symm)).elsewhere rfl found
    obtain ⟨stored,grown,elsewhere⟩ := (Undisturbed.escalateFound deployment same _ model).elsewhere rfl alone
    obtain rfl : own = stored := Tables.append_injective tables (rows.symm.trans grown)
    exact .escalated (kept _ _ arrived) (kept _ _ listed) firstElsewhere elsewhere rfl

end Committable

/-! ### The steps -/

/-- What a step before the commit leaves of the process and the request in flight. -/
structure Prepares (took : Event σ → App σ → Prop) (connection : Nat) (app : App σ) (next : App σ × Work) : Prop where
  committable : Committable deployment took connection app.committed next.1.nextUuid next.2
  committed : next.1.committed = app.committed
  drawn : app.nextUuid ≤ next.1.nextUuid
  opens : ∀ uuid, next.2.opens = some uuid → app.nextUuid ≤ uuid

section Prepares
variable {deployment} {took : Event σ → App σ → Prop} {connection : Nat} {app : App σ}

theorem arrive_prepares (fresh : ∀ request ∈ app.committed.requests, request.id < app.nextUuid) {request : ApiRequest}
    (arrived : took (.arrive connection request) app) :
    Prepares deployment took connection app (arrive deployment app request) := by
  cases request with
  | submitIntake intake =>
    have drawn : app.nextUuid ≤ ((handle deployment (.submitIntake intake)).exec app.begin).2.nextUuid :=
      handle_draws deployment (.submitIntake intake) app.begin
    rw [arrive]
    rcases ran : (handle deployment (.submitIntake intake)).exec app.begin with ⟨raised | answer,after⟩
    · rw [ran] at drawn
      exact ⟨.refused,rfl,drawn,nofun⟩
    · rw [ran] at drawn
      obtain ⟨response,submitted,submit,ok⟩ := Effect.bind_success ran
      obtain ⟨rfl,rfl⟩ := pure_kept ok
      have apart : ∀ request ∈ app.committed.requests, request.id ≠ app.nextUuid + 1 := by
        intro request member
        exact Nat.ne_of_lt ((fresh request member).trans (Nat.lt_succ_self _))
      obtain ⟨_,more⟩ := submitIntake_success deployment apart submit
      obtain ⟨inserted,rows,_⟩ := submitIntake_elsewhere deployment app.committed apart apart submit
      refine ⟨.submitted arrived submit ?_ more apart,rfl,drawn,?_⟩
      · rw [rows]
        exact (Tables.append_since app.committed inserted).symm
      · intro uuid opened
        exact (Option.some.inj opened).le
  | escalateIntake requestId escalation =>
    have drawn : app.nextUuid ≤ ((escalatedRequest deployment requestId).exec app.begin).2.nextUuid :=
      escalatedRequest_draws deployment requestId app.begin
    rw [arrive]
    rcases ran : (escalatedRequest deployment requestId).exec app.begin with ⟨raised | model,after⟩
    · rw [ran] at drawn
      exact ⟨.refused,rfl,drawn,nofun⟩
    · rw [ran] at drawn
      exact ⟨.reading arrived ran rfl,rfl,drawn,nofun⟩

theorem list_prepares {requestId : Uuid} {escalation : EscalationRequest} {model : DiagnosticRequestModel} {arrival : App σ}
    {first : Session σ} (arrived : took (.arrive connection (.escalateIntake requestId escalation)) arrival)
    (listed : took (.list connection) app)
    (found : (escalatedRequest deployment requestId).exec (arrival.holding app.committed).begin = (.ok model,first)) :
    Prepares deployment took connection app (list deployment app requestId escalation model first.startedAt) := by
  have drawn : app.nextUuid ≤
      ((escalateFound deployment requestId escalation model).exec (app.resume first.startedAt)).2.nextUuid :=
    escalateFound_draws deployment requestId escalation model (app.resume first.startedAt)
  rw [list]
  rcases ran : (escalateFound deployment requestId escalation model).exec (app.resume first.startedAt) with ⟨raised | response,after⟩
  · rw [ran] at drawn
    exact ⟨.refused,rfl,drawn,nofun⟩
  · rw [ran] at drawn
    obtain ⟨inserted,rows,_⟩ := (Undisturbed.escalateFound deployment (rfl : runsOf app.committed requestId = _) escalation
      model).elsewhere rfl ran
    refine ⟨.escalated arrived listed found ran ?_,rfl,drawn,nofun⟩
    rw [rows]
    exact (Tables.append_since app.committed inserted).symm

end Prepares

omit [Clock σ] in
/-- A transaction is rolled back, or all of its rows are stored. -/
theorem finish_cases (app : App σ) (outcome : Except Exn ApiResponse) (inserted : Tables) : ∃ answer next,
    finish deployment app outcome inserted = (answer,next) ∧ next.nextUuid = app.nextUuid ∧
      ((∃ raised, answer = .error raised) ∧ next.committed = app.committed ∨
        ∃ response, outcome = .ok response ∧ answer = .ok response ∧ next.committed = app.committed.append inserted) := by
  cases outcome with
  | error raised => exact ⟨_,_,rfl,rfl,Or.inl ⟨⟨raised,rfl⟩,rfl⟩⟩
  | ok response =>
    rw [finish]
    rcases deployment.commit.exec app.world with ⟨raised | _,world⟩
    · exact ⟨_,_,rfl,rfl,Or.inl ⟨⟨raised,rfl⟩,rfl⟩⟩
    · exact ⟨_,_,rfl,rfl,Or.inr ⟨response,rfl,rfl,rfl⟩⟩

/-- The rows that a request leaves where it commits. -/
inductive Stores (before : Tables) : ApiRequest → ApiResponse → Tables → Prop
  | submitted {intake : ComplaintIntake} {response : IntakeDiagnosisResponse} {uuid : Nat} {after : Tables}
      (rows : Submitted deployment intake response before uuid after) :
      Stores before (.submitIntake intake) (.intake response) after
  | escalated {requestId : Uuid} {escalation : EscalationRequest} {response : DiagnosticService.EscalationResponse}
      {uuid : Nat} {after : Tables} (rows : Escalated requestId escalation response before uuid after) :
      Stores before (.escalateIntake requestId escalation) (.escalation response) after

theorem escalateMeanwhile_exec {listing : App σ} {requestId : Uuid} {escalation : EscalationRequest}
    {model : DiagnosticRequestModel} {response : DiagnosticService.EscalationResponse} {before first after : Session σ}
    (found : (escalatedRequest deployment requestId).exec before = (.ok model,first))
    (alone : (escalateFound deployment requestId escalation model).exec ((listing.holding before.tables).resume first.startedAt) =
      (.ok response,after)) :
    (escalateMeanwhile deployment listing requestId escalation).exec before = (.ok (.escalation response),after) := by
  obtain ⟨_,kept⟩ := escalatedRequest_success deployment found
  have moved : (Effect.update fun session : Session σ => {session with
        world := listing.world
        instances := listing.instances
        nextUuid := listing.nextUuid} : Handler σ Unit).exec first =
      (.ok (),(listing.holding before.tables).resume first.startedAt) := by
    rw [Effect.update_exec,kept.tables]
    rfl
  rw [escalateMeanwhile,Effect.bind_answered found,Effect.bind_answered moved,Effect.bind_answered alone]
  rfl

/-- A transaction over a database that takes every commit stores what the handler leaves. -/
theorem transaction_committing {handler : Handler σ ApiResponse} {app : App σ} {response : ApiResponse} {after : Session σ}
    (ran : handler.exec app.begin = (.ok response,after)) :
    transaction deployment.committing handler app = (.ok response,⟨after.world,after.tables,after.instances,after.nextUuid⟩) := by
  rw [transaction,ran]
  rfl

omit [Clock σ] in
/-- The event ends the request that is in flight on the connection. -/
def Event.ends (connection : Nat) : Event σ → Prop
  | .finish other | .abort other => other = connection
  | _ => False

namespace Service

/-- On the way to the service, the request that is in flight on the connection has taken the event in this process. -/
def Took (world : σ) (connection : Nat) (service : Service σ) (event : Event σ) (app : App σ) : Prop :=
  ∃ before after output, Reached deployment world before ∧ step deployment before event = some (after,output) ∧
    before.app = app ∧ Reaches (step deployment) (fun _ later => ¬ later.ends connection) after service

/-- The books balance, and every request in flight could commit now. -/
structure Consistent (world : σ) (service : Service σ) : Prop where
  reached : Reached deployment world service
  books : Books deployment service.served service.app.committed
  drawn : ∀ request ∈ service.app.committed.requests, request.id < service.app.nextUuid
  work : ∀ connection work, service.work connection = some work →
    Committable deployment (Took deployment world connection service) connection service.app.committed service.app.nextUuid work
  apart : ∀ first second uuid, (service.work first).bind Work.opens = some uuid →
    (service.work second).bind Work.opens = some uuid → first = second

/-- What a request has done where it commits. -/
structure Commits (world : σ) (service : Service σ) (connection : Nat) (request : ApiRequest) (response : ApiResponse)
    (after : Tables) : Prop where
  alone : ServedAlone deployment (Took deployment world connection service) connection service.app.committed request response after
  stores : Stores deployment service.app.committed request response after

section Took
variable {deployment} {world : σ} {connection : Nat} {service next : Service σ} {event : Event σ}
  {answer : Option (Except Exn ApiResponse)}

theorem took_now (reached : Reached deployment world service) (taken : step deployment service event = some (next,answer)) :
    Took deployment world connection next event service.app :=
  ⟨service,next,answer,reached,taken,rfl,.start⟩

theorem Took.later {earlier : Event σ} {app : App σ} (took : Took deployment world connection service earlier app)
    (taken : step deployment service event = some (next,answer)) (goesOn : ¬ event.ends connection) :
    Took deployment world connection next earlier app := by
  obtain ⟨before,after,output,reached,first,same,since⟩ := took
  exact ⟨before,after,output,reached,first,same,.step since goesOn taken⟩

end Took

namespace Consistent
variable {deployment} {world : σ} {service next : Service σ}

/-- The identifiers of a submission in flight are drawn. -/
theorem opens_drawn (consistent : Consistent deployment world service) {connection uuid : Nat}
    (opens : (service.work connection).bind Work.opens = some uuid) : uuid + 1 < service.app.nextUuid := by
  obtain ⟨work,found,opened⟩ := Option.bind_eq_some_iff.mp opens
  have committable := consistent.work connection work found
  cases committable with
  | reading => cases opened
  | @refused request _ _ _ => cases request <;> cases opened
  | submitted _ _ _ early _ =>
    rw [← Option.some.inj opened]
    exact early
  | escalated => cases opened

theorem elapse (consistent : Consistent deployment world service) (later : σ) :
    Consistent deployment world {service with app := {service.app with world := later}} := by
  have taken : step deployment service (.elapse later) = some (_,none) := rfl
  refine ⟨.step consistent.reached trivial taken,consistent.books,consistent.drawn,?_,consistent.apart⟩
  intro connection work found
  exact (consistent.work connection work found).later (fun _ _ took => took.later taken not_false) (Nat.le_refl _)

theorem proceed (consistent : Consistent deployment world service) {connection : Nat} {event : Event σ} {ahead : App σ × Work}
    (taken : step deployment service event = some (service.proceed connection ahead,none)) (goesOn : ∀ other, ¬ event.ends other)
    (prepares : Prepares deployment (Took deployment world connection (service.proceed connection ahead)) connection service.app
      ahead) : Consistent deployment world (service.proceed connection ahead) := by
  have opened : ∀ other uuid, other ≠ connection →
      ((service.proceed connection ahead).work other).bind Work.opens = some uuid →
      (service.work other).bind Work.opens = some uuid := by
    intro other uuid different opens
    rwa [proceed_work_ne service ahead different] at opens
  have fresh : ∀ uuid, ((service.proceed connection ahead).work connection).bind Work.opens = some uuid →
      service.app.nextUuid ≤ uuid := by
    intro uuid opens
    rw [proceed_work] at opens
    exact prepares.opens uuid opens
  have tables : (service.proceed connection ahead).app.committed = service.app.committed := prepares.committed
  refine ⟨.step consistent.reached trivial taken,?_,?_,?_,?_⟩
  · rw [tables]
    exact consistent.books
  · rw [tables]
    intro request member
    exact Nat.lt_of_lt_of_le (consistent.drawn request member) prepares.drawn
  · intro other work found
    rw [tables]
    by_cases same : other = connection
    · subst same
      rw [proceed_work] at found
      rw [← Option.some.inj found]
      exact prepares.committable
    · rw [proceed_work_ne service ahead same] at found
      exact (consistent.work other work found).later (fun _ _ took => took.later taken (goesOn other)) prepares.drawn
  · intro first second uuid left right
    by_cases isFirst : first = connection
    · by_cases isSecond : second = connection
      · rw [isFirst,isSecond]
      · rw [isFirst] at left
        have early := consistent.opens_drawn (opened second uuid isSecond right)
        exact absurd (fresh uuid left) (by omega)
    · by_cases isSecond : second = connection
      · rw [isSecond] at right
        have early := consistent.opens_drawn (opened first uuid isFirst left)
        exact absurd (fresh uuid right) (by omega)
      · exact consistent.apart first second uuid (opened first uuid isFirst left) (opened second uuid isSecond right)

theorem close_apart (consistent : Consistent deployment world service) (connection : Nat) (app : App σ) (served : Served) :
    ∀ first second uuid, ((service.close connection app served).work first).bind Work.opens = some uuid →
      ((service.close connection app served).work second).bind Work.opens = some uuid → first = second := by
  have opened : ∀ other uuid, ((service.close connection app served).work other).bind Work.opens = some uuid →
      (service.work other).bind Work.opens = some uuid := by
    intro other uuid opens
    by_cases same : other = connection
    · rw [same,close_work] at opens
      cases opens
    · rwa [close_work_ne service app served same] at opens
  intro first second uuid left right
  exact consistent.apart first second uuid (opened first uuid left) (opened second uuid right)

/-- A request that is rolled back leaves the others as they were. -/
theorem rollback (consistent : Consistent deployment world service) {connection : Nat} {app : App σ} {request : ApiRequest}
    {event : Event σ} {answer : Option (Except Exn ApiResponse)}
    (taken : step deployment service event = some (service.close connection app ⟨request,false⟩,answer))
    (goesOn : ∀ other, other ≠ connection → ¬ event.ends other) (committed : app.committed = service.app.committed)
    (drawn : service.app.nextUuid ≤ app.nextUuid) :
    Consistent deployment world (service.close connection app ⟨request,false⟩) := by
  have tables : (service.close connection app ⟨request,false⟩).app.committed = service.app.committed := committed
  refine ⟨.step consistent.reached trivial taken,?_,?_,?_,consistent.close_apart connection app _⟩
  · rw [tables]
    exact consistent.books.refused request
  · rw [tables]
    intro stored member
    exact Nat.lt_of_lt_of_le (consistent.drawn stored member) drawn
  · intro other work found
    rw [tables]
    by_cases same : other = connection
    · rw [same,close_work] at found
      cases found
    · rw [close_work_ne service app _ same] at found
      exact (consistent.work other work found).later (fun _ _ took => took.later taken (goesOn other same)) drawn

/-- Rows that are of no other request leave the others able to commit. -/
theorem stored (consistent : Consistent deployment world service) {connection : Nat} {request : ApiRequest} {app : App σ}
    {inserted : Tables} {answer : Option (Except Exn ApiResponse)}
    (taken : step deployment service (.finish connection) = some (service.close connection app ⟨request,true⟩,answer))
    (committed : app.committed = service.app.committed.append inserted) (same : app.nextUuid = service.app.nextUuid)
    (books : Books deployment (service.served ++ [⟨request,true⟩]) (service.app.committed.append inserted))
    (drawn : ∀ stored ∈ inserted.requests, stored.id < service.app.nextUuid)
    (ids : ∀ other work, other ≠ connection → service.work other = some work → ∀ uuid, work.opens = some uuid →
      ∀ stored ∈ inserted.requests, stored.id ≠ uuid + 1)
    (runs : ∀ run ∈ inserted.runs, ∀ stored ∈ service.app.committed.requests, run.requestId ≠ stored.id) :
    Consistent deployment world (service.close connection app ⟨request,true⟩) := by
  have tables : (service.close connection app ⟨request,true⟩).app.committed = service.app.committed.append inserted := committed
  have uuids : (service.close connection app ⟨request,true⟩).app.nextUuid = service.app.nextUuid := same
  refine ⟨.step consistent.reached trivial taken,?_,?_,?_,consistent.close_apart connection app _⟩
  · rw [tables]
    exact books
  · rw [tables,uuids]
    intro row member
    rcases List.mem_append.mp member with old | new
    · exact consistent.drawn row old
    · exact drawn row new
  · rw [tables,uuids]
    intro other work inFlight
    by_cases closed : other = connection
    · rw [closed,close_work] at inFlight
      cases inFlight
    · rw [close_work_ne service app _ closed] at inFlight
      refine (consistent.work other work inFlight).beside ?_ (Nat.le_refl _) (ids other work closed inFlight) runs
      exact fun _ _ took => took.later taken (Ne.symm closed)

/-- A request that commits has then been served over the tables it found, and leaves the others
able to commit. -/
theorem commit (consistent : Consistent deployment world service) {connection : Nat} {request : ApiRequest} {firstUuid : Nat}
    {response : ApiResponse} {inserted : Tables} (found : service.work connection = some (.ended request firstUuid (.ok response) inserted))
    {app : App σ} (taken : step deployment service (.finish connection) =
      some (service.close connection app ⟨request,true⟩,some (.ok response)))
    (committed : app.committed = service.app.committed.append inserted) (same : app.nextUuid = service.app.nextUuid) :
    Commits deployment world service connection request response app.committed ∧
      Consistent deployment world (service.close connection app ⟨request,true⟩) := by
  have committable := consistent.work connection _ found
  cases committable with
  | @submitted intake response _ arrival after arrived alone stored early fresh =>
    obtain ⟨rows,_⟩ := submitIntake_success deployment fresh alone
    have books := consistent.books.submitted rows fresh
    have served := transaction_committing deployment (Effect.bind_answered alone fun response => pure (ApiResponse.intake response))
    rw [stored] at books
    refine ⟨?_,?_⟩
    · rw [committed,← stored]
      exact ⟨.submitted arrived served,.submitted rows⟩
    obtain ⟨_,_,_,_,_,_,_,_,_,shape⟩ := rows
    obtain rfl := Tables.inserted_rows (stored.symm.trans shape)
    apply consistent.stored taken committed same books
    · intro row member
      rw [List.mem_singleton.mp member]
      exact early
    -- another submission in flight has drawn other identifiers
    · intro other work different inFlight uuid opened row member
      rw [List.mem_singleton.mp member]
      intro equal
      have uuids : arrival.nextUuid = uuid := Nat.succ.inj equal
      refine different (consistent.apart other connection uuid ?_ ?_)
      · rw [inFlight]
        exact opened
      · rw [found,← uuids]
        rfl
    · intro run member row inside
      rw [List.mem_singleton.mp member]
      exact (fresh row inside).symm
  | @escalated requestId escalation response model _ _ arrival listing first after arrived listed selected alone stored =>
    have member : ((listing.holding service.app.committed).resume first.startedAt).tables.requests.find? (fun request =>
        request.id = requestId) = some model := (escalatedRequest_success deployment selected).1
    obtain ⟨uuid,rows⟩ : ∃ uuid, Escalated requestId escalation response service.app.committed uuid after.tables :=
      escalateFound_success deployment member alone
    have books := consistent.books.escalated rows
    have served := transaction_committing deployment (escalateMeanwhile_exec deployment selected alone)
    rw [stored] at books
    refine ⟨?_,?_⟩
    · rw [committed,← stored]
      exact ⟨.escalated arrived listed served,.escalated rows⟩
    obtain ⟨_,_,_,_,_,_,_,_,_,_,shape⟩ := rows
    have requests : inserted.requests = [] := by simpa [Tables.append] using congrArg Tables.requests (stored.symm.trans shape)
    have runs : inserted.runs = [] := by simpa [Tables.append] using congrArg Tables.runs (stored.symm.trans shape)
    apply consistent.stored taken committed same books
    · simp [requests]
    · simp [requests]
    · simp [runs]

end Consistent

variable {deployment} {world : σ} {service next : Service σ} {event : Event σ} {answer : Option (Except Exn ApiResponse)}

/-- What an event does to the stored tables. -/
def Effects (deployment : Deployment σ) (world : σ) (service : Service σ) (event : Event σ) (next : Service σ) :
    Option (Except Exn ApiResponse) → Prop
  | some (.ok response) => ∃ connection request, event = .finish connection ∧
      next.served = service.served ++ [⟨request,true⟩] ∧
      Commits deployment world service connection request response next.app.committed
  | _ => next.app.committed = service.app.committed

theorem finish_consistent (consistent : Consistent deployment world service) {connection : Nat} {request : ApiRequest}
    {firstUuid : Nat} {outcome : Except Exn ApiResponse} {inserted : Tables}
    (found : service.work connection = some (.ended request firstUuid outcome inserted)) :
    let ends := AccessAgent.finish deployment service.app outcome inserted
    let next := service.close connection ends.2 ⟨request,succeeds ends.1⟩
    Consistent deployment world next ∧ Effects deployment world service (.finish connection) next (some ends.1) := by
  have taken : step deployment service (.finish connection) =
      some (service.close connection (AccessAgent.finish deployment service.app outcome inserted).2
        ⟨request,succeeds (AccessAgent.finish deployment service.app outcome inserted).1⟩,
        some (AccessAgent.finish deployment service.app outcome inserted).1) := by rw [step,found]
  obtain ⟨answer,app,ends,drawn,⟨⟨raised,rfl⟩,committed⟩ | ⟨response,rfl,rfl,committed⟩⟩ :=
    finish_cases deployment service.app outcome inserted
  · rw [ends] at taken ⊢
    exact ⟨consistent.rollback taken (fun _ different => Ne.symm different) committed drawn.ge,committed⟩
  · rw [ends] at taken ⊢
    obtain ⟨commits,kept⟩ := consistent.commit found taken committed drawn
    exact ⟨kept,connection,request,rfl,rfl,commits⟩

theorem step_consistent (consistent : Consistent deployment world service)
    (taken : step deployment service event = some (next,answer)) :
    Consistent deployment world next ∧ Effects deployment world service event next answer := by
  have stepped := taken
  cases event with
  | elapse later =>
    obtain ⟨rfl,rfl⟩ := Prod.mk.inj (Option.some.inj taken)
    exact ⟨consistent.elapse later,rfl⟩
  | arrive connection request =>
    rw [step] at taken
    split at taken
    next free =>
      obtain ⟨rfl,rfl⟩ := Prod.mk.inj (Option.some.inj taken)
      have arrived : Took deployment world connection (service.proceed connection (AccessAgent.arrive deployment service.app request))
          (.arrive connection request) service.app := took_now consistent.reached stepped
      have prepares : Prepares deployment _ connection service.app _ := arrive_prepares consistent.drawn arrived
      exact ⟨consistent.proceed stepped (fun _ => not_false) prepares,prepares.committed⟩
    next busy => cases taken
  | list connection =>
    rw [step] at taken
    split at taken
    next requestId escalation model startedAt reading =>
      obtain ⟨rfl,rfl⟩ := Prod.mk.inj (Option.some.inj taken)
      have committable := consistent.work connection _ reading
      cases committable with
      | reading arrived found started =>
        subst started
        have prepares := list_prepares (arrived.later stepped not_false) (took_now consistent.reached stepped) found
        exact ⟨consistent.proceed stepped (fun _ => not_false) prepares,prepares.committed⟩
    next => cases taken
  | finish connection =>
    rw [step] at taken
    split at taken
    next request firstUuid outcome inserted found =>
      obtain ⟨rfl,rfl⟩ := Prod.mk.inj (Option.some.inj taken)
      exact finish_consistent consistent found
    next => cases taken
  | abort connection =>
    rw [step] at taken
    split at taken
    next work found =>
      obtain ⟨rfl,rfl⟩ := Prod.mk.inj (Option.some.inj taken)
      exact ⟨consistent.rollback stepped (fun _ different => Ne.symm different) rfl (Nat.le_refl _),rfl⟩
    next => cases taken

theorem reached_consistent (reached : Reached deployment world service) : Consistent deployment world service := by
  apply reached.invariant
  · exact ⟨.start,Books.start,nofun,nofun,fun _ _ _ => nofun⟩
  · intro before event after output consistent _ taken
    exact (step_consistent consistent taken).1

/-- However requests overlap, fail and are abandoned, the books of every stored request balance. -/
theorem books_balance {world : σ} (reached : Reached deployment world service) :
    ∀ request ∈ service.app.committed.requests, Accounted service.served service.app.committed request :=
  (reached_consistent reached).books.accounted

theorem alice_named : "alice" ≠ "" := by decide

theorem bob_named : "bob" ≠ "" := by decide

/-- Two submissions overlap, the later one commits first, and its request is escalated meanwhile. -/
def overlapping : List (Event Unit) :=
  [.arrive 0 (.submitIntake ⟨"alice",alice_named,"I cannot sign in",none⟩),
    .arrive 1 (.submitIntake ⟨"bob",bob_named,"My account is locked",none⟩),.finish 1,
    .arrive 2 (.escalateIntake 7 ⟨"bob",none⟩),.finish 0,.list 2]

theorem overlapping_balance :
    let deployment := stillDeployment (stillConnector some .up)
    ∃ service answers, execute (step deployment) (fun _ _ => True) overlapping (start ()) = some (service,answers) ∧
      service.served = [⟨.submitIntake ⟨"bob",bob_named,"My account is locked",none⟩,true⟩,
        ⟨.submitIntake ⟨"alice",alice_named,"I cannot sign in",none⟩,true⟩] ∧
      ∀ request ∈ service.app.committed.requests, Accounted service.served service.app.committed request := by
  intro deployment
  have ran : (execute (step deployment) (fun _ _ => True) overlapping (start ())).map (fun reached => reached.1.served) =
      some [⟨.submitIntake ⟨"bob",bob_named,"My account is locked",none⟩,true⟩,
        ⟨.submitIntake ⟨"alice",alice_named,"I cannot sign in",none⟩,true⟩] := by decide +kernel
  obtain ⟨⟨service,answers⟩,ran,served⟩ := Option.map_eq_some_iff.mp ran
  exact ⟨service,answers,ran,served,books_balance (reaches_execute Reaches.start ran)⟩

/-- However requests overlap, the tables change in commits only, and a request that commits stores and answers what it
does when it is served alone over the tables at its commit. -/
theorem commits_serially (reached : Reached deployment world service)
    (taken : step deployment service event = some (next,answer)) :
    (∀ response, answer = some (.ok response) → ∃ connection request, event = .finish connection ∧
      next.served = service.served ++ [⟨request,true⟩] ∧
      ServedAlone deployment (Took deployment world connection service) connection service.app.committed request response
        next.app.committed) ∧
    ((∀ response, answer ≠ some (.ok response)) → next.app.committed = service.app.committed) := by
  have effects := (step_consistent (reached_consistent reached) taken).2
  constructor
  · rintro response rfl
    obtain ⟨connection,request,finishes,served,commits⟩ := effects
    exact ⟨connection,request,finishes,served,commits.alone⟩
  · intro refused
    cases answer with
    | none => exact effects
    | some outcome => cases outcome with
      | error raised => exact effects
      | ok response => exact absurd rfl (refused response)

theorem overlapping_serially :
    let deployment := stillDeployment (stillConnector some .up)
    ∃ service answers next response, execute (step deployment) (fun _ _ => True) overlapping (start ()) = some (service,answers) ∧
      step deployment service (.finish 2) = some (next,some (.ok response)) ∧
      next.served = service.served ++ [⟨.escalateIntake 7 ⟨"bob",none⟩,true⟩] ∧
      ServedAlone deployment (Took deployment () 2 service) 2 service.app.committed (.escalateIntake 7 ⟨"bob",none⟩) response
        next.app.committed := by
  intro deployment
  have finished : ((execute (step deployment) (fun _ _ => True) overlapping (start ())).bind fun reached =>
      (step deployment reached.1 (.finish 2)).bind fun stepped =>
        if stepped.1.served = reached.1.served ++ [⟨.escalateIntake 7 ⟨"bob",none⟩,true⟩] then
          stepped.2.bind Except.toOption
        else none).isSome = true := by
    decide +kernel
  obtain ⟨response,finished⟩ := Option.isSome_iff_exists.mp finished
  obtain ⟨⟨service,answers⟩,ran,finished⟩ := Option.bind_eq_some_iff.mp finished
  obtain ⟨⟨next,answer⟩,taken,finished⟩ := Option.bind_eq_some_iff.mp finished
  split at finished
  next escalates =>
    obtain ⟨outcome,rfl,ok⟩ := Option.bind_eq_some_iff.mp finished
    obtain ⟨commits,_⟩ := commits_serially (reaches_execute Reaches.start ran) taken
    cases outcome with
    | error raised => simp [Except.toOption] at ok
    | ok answered =>
      obtain ⟨connection,request,finishes,served,alone⟩ := commits answered rfl
      obtain rfl : 2 = connection := Event.finish.inj finishes
      obtain rfl : request = .escalateIntake 7 ⟨"bob",none⟩ := by simpa using served.symm.trans escalates
      exact ⟨service,answers,next,answered,ran,taken,served,alone⟩
  next => cases finished

end Service

end AccessAgent
