import AccessAgent.OpenIAM.Connector
import AccessAgent.ServiceEffects

/-! Intake over the user search of OpenIAM: whose account a login is resolved to. The
search goes by a search term, so its first bean need not belong to the login. -/

namespace AccessAgent.OpenIAM
open Semantics

abbrev UserBean := List (String × Json)

structure SearchAnswer where
  statusCode : Nat
  beans : List UserBean

namespace SearchAnswer

def response (answer : SearchAnswer) : Response :=
  ⟨answer.statusCode,.ok (.obj [("beans",.arr (answer.beans.map .obj))])⟩

def beanId (bean : UserBean) : Option String :=
  match (Json.find "id" bean).getD .null with
  | .null => none
  | id => some id.pyStr

def OwnedBy (loginId : String) (bean : UserBean) : Prop := Json.find "principal" bean = some (.str loginId)

def Names (answer : SearchAnswer) (loginId subjectSub : String) : Prop :=
  ∃ bean ∈ answer.beans, OwnedBy loginId bean ∧ beanId bean = some subjectSub

def resolved (answer : SearchAnswer) : Option String :=
  if 400 ≤ answer.statusCode then none else answer.beans.head?.bind beanId

end SearchAnswer

theorem resolveSubjectSub_answer {σ : Type} [Clock σ] (env : Environment σ) (loginId : String)
    (answer : SearchAnswer) {world after : σ}
    (answered : (env.client.authorizedGet (usersSearch loginId)).exec world = (.ok answer.response,after)) :
    (resolveSubjectSub env loginId).exec world = (.ok answer.resolved,after) := by
  rw [resolveSubjectSub,Effect.bind_answered answered]
  by_cases refused : 400 ≤ answer.statusCode
  · simp [Response.failed,SearchAnswer.response,SearchAnswer.resolved,refused]
  · rcases shape : answer.beans with _ | ⟨first,rest⟩
    · simp only [Response.failed,SearchAnswer.response,SearchAnswer.resolved,refused,shape]
      rfl
    · simp only [Response.failed,SearchAnswer.response,SearchAnswer.resolved,refused,shape]
      change (do
        let resolvedId ← liftM (Json.get "id" (.obj first))
        match resolvedId with
        | .null => return none
        | id => return some id.pyStr : Effect Exn σ (Option String)).exec after =
          (.ok (SearchAnswer.beanId first),after)
      have id : Json.get "id" (.obj first) = .ok ((Json.find "id" first).getD .null) := rfl
      rw [id,SearchAnswer.beanId]
      cases (Json.find "id" first).getD .null <;> rfl

/-! ### The submission -/

/-- A submission to a deployment that reaches OpenIAM, with a view of the prompts sent to
the language model. -/
structure Desk (σ : Type) [Clock σ] (intake : ComplaintIntake) (answer : SearchAnswer) where
  deployment : Deployment σ
  session : Session σ
  env : Environment σ
  policy : SystemPolicy
  known : deployment.policies.get (systemIdOf deployment intake) = .ok policy
  built : (getConnector deployment.connectorTypes policy.systemId policy.connector.type policy.config
    session.instances).1 = .ok (connector env policy.systemId policy.config)
  answers : ∀ world, ((env.client.authorizedGet (usersSearch intake.loginId)).exec world).1 = .ok answer.response
  prompts : σ → List String
  prompted : ∀ message world, prompts ((deployment.parse message).exec world).2 = prompts world ++ [message]
  searched : ∀ request world, prompts ((env.client.authorizedGet request).exec world).2 = prompts world

variable {σ : Type} [Clock σ] {intake : ComplaintIntake} {answer : SearchAnswer}

def Desk.outcome (desk : Desk σ intake answer) (correlationId : String) :
    Except Exn DiagnosticRequestModel × Session σ :=
  (IntakeService.submit desk.deployment intake.loginId intake correlationId).exec desk.session

/-- Only an account of the login is stored as the subject, and without one nothing happens. -/
structure Desk.Faithful (desk : Desk σ intake answer) (correlationId : String) : Prop where
  subject : ∀ added, (desk.outcome correlationId).2.tables.requests = desk.session.tables.requests ++ added →
    ∀ request ∈ added, answer.Names intake.loginId request.subjectSub
  unmatched : (∀ bean ∈ answer.beans, ¬SearchAnswer.OwnedBy intake.loginId bean) →
    (desk.outcome correlationId).1 =
        .error ⟨.loginNotFoundError,"No user found for login id '" ++ intake.loginId ++ "'"⟩ ∧
      (desk.outcome correlationId).2.tables = desk.session.tables ∧
      desk.prompts (desk.outcome correlationId).2.world = desk.prompts desk.session.world

def store (deployment : Deployment σ) (intake : ComplaintIntake) (correlationId subjectSub : String) :
    Handler σ DiagnosticRequestModel := do
  let systemId := systemIdOf deployment intake
  let draft ← parseComplaint deployment intake
  let request ← DiagnosticRepository.createRequest deployment (fun id =>
    ⟨id,correlationId,subjectSub,subjectSub,systemId,intake.freeText,draft.dump⟩)
  let occurredAt ← datetimeNow
  AuditService.record deployment (receivedEvent correlationId subjectSub systemId draft occurredAt)
  return request

theorem Desk.outcome_resolved (desk : Desk σ intake answer) (correlationId : String) :
    ∃ reached : Session σ, reached.tables = desk.session.tables ∧
      desk.prompts reached.world = desk.prompts desk.session.world ∧
      desk.outcome correlationId = match answer.resolved with
        | none => (.error ⟨.loginNotFoundError,"No user found for login id '" ++ intake.loginId ++ "'"⟩,reached)
        | some subjectSub => (store desk.deployment intake correlationId subjectSub).exec reached := by
  let found := getConnector desk.deployment.connectorTypes desk.policy.systemId desk.policy.connector.type
    desk.policy.config desk.session.instances
  rcases search : (desk.env.client.authorizedGet (usersSearch intake.loginId)).exec desk.session.world
    with ⟨response,world⟩
  have quiet := desk.searched (usersSearch intake.loginId) desk.session.world
  have answered := desk.answers desk.session.world
  rw [search] at answered quiet
  obtain rfl : response = _ := answered
  have resolve := resolveSubjectSub_answer desk.env intake.loginId answer search
  refine ⟨⟨world,desk.session.tables,desk.session.startedAt,found.2,desk.session.nextUuid⟩,rfl,quiet,?_⟩
  have chosen : (connectorOf desk.deployment desk.policy).exec desk.session =
      (.ok (connector desk.env desk.policy.systemId desk.policy.config),{desk.session with instances := found.2}) :=
    Prod.ext desk.built rfl
  have awaited : (Handler.await ((connector desk.env desk.policy.systemId desk.policy.config).resolveSubjectSub
      intake.loginId)).exec {desk.session with instances := found.2} = (.ok answer.resolved,
        ⟨world,desk.session.tables,desk.session.startedAt,found.2,desk.session.nextUuid⟩) := by
    rw [Handler.await_exec]
    change (((resolveSubjectSub desk.env intake.loginId).exec desk.session.world).1,_) = _
    rw [resolve]
    change ((Except.ok answer.resolved : Except Exn (Option String)),
      (⟨((resolveSubjectSub desk.env intake.loginId).exec desk.session.world).2,_,_,_,_⟩ : Session σ)) = _
    rw [resolve]
  rw [Desk.outcome,IntakeService.submit,desk.known]
  rw [Effect.bind_answered (Effect.lift_exec _ _),Effect.bind_answered chosen,Effect.bind_answered awaited]
  cases answer.resolved with
  | none => rfl
  | some subjectSub => rfl

abbrev Stores {α : Type} (subjectSub : String) (program : Handler σ α) : Prop :=
  Always (fun before after => ∃ added, after.tables.requests = before.tables.requests ++ added ∧
    ∀ request ∈ added, request.subjectSub = subjectSub) program

namespace Stores
variable {α β : Type} {subjectSub : String}

omit [Clock σ] in
theorem still {program : Handler σ α}
    (same : ∀ session, (program.exec session).2.tables.requests = session.tables.requests) :
    Stores subjectSub program :=
  fun session => ⟨[],by rw [same,List.append_nil],nofun⟩

omit [Clock σ] in
theorem bind {program : Handler σ α} {next : α → Handler σ β} (first : Stores subjectSub program)
    (rest : ∀ value, Stores subjectSub (next value)) : Stores subjectSub (program >>= next) := by
  apply Always.bind _ first rest
  intro before middle after ⟨early,shape,subjects⟩ ⟨late,shape',subjects'⟩
  refine ⟨early ++ late,by rw [shape',shape,List.append_assoc],?_⟩
  intro request member
  rcases List.mem_append.mp member with old | new
  · exact subjects request old
  · exact subjects' request new

end Stores

theorem store_stores (deployment : Deployment σ) (intake : ComplaintIntake) (correlationId subjectSub : String) :
    Stores subjectSub (store deployment intake correlationId subjectSub) := by
  apply Stores.bind (Stores.still (fun _ => rfl))
  intro draft
  apply Stores.bind
  · apply Stores.bind (Stores.still (fun _ => rfl))
    intro id
    apply Stores.bind (Stores.still (fun _ => rfl))
    intro _
    apply Stores.bind _ (fun _ => Stores.still (fun _ => rfl))
    intro session
    refine ⟨_,rfl,?_⟩
    intro request member
    rw [List.mem_singleton.mp member]
  intro request
  apply Stores.bind (Stores.still (fun _ => rfl))
  intro occurredAt
  apply Stores.bind _ (fun _ => Stores.still (fun _ => rfl))
  apply Stores.bind _ (fun _ => Stores.still (fun _ => rfl))
  apply Stores.bind (Stores.still (fun _ => rfl))
  intro id
  apply Stores.bind (Stores.still (fun _ => rfl))
  intro _
  exact Stores.still (fun _ => rfl)

/-- The first bean, where it has an id, shares it with a bean of the login. -/
def SearchAnswer.FirstOwned (answer : SearchAnswer) (loginId : String) : Prop :=
  400 ≤ answer.statusCode ∨ ∀ first rest, answer.beans = first::rest →
    ∀ id, SearchAnswer.beanId first = some id → answer.Names loginId id

theorem SearchAnswer.FirstOwned.names {answer : SearchAnswer} {loginId subjectSub : String}
    (owned : answer.FirstOwned loginId) (resolved : answer.resolved = some subjectSub) :
    answer.Names loginId subjectSub := by
  rw [SearchAnswer.resolved] at resolved
  split at resolved
  · cases resolved
  next accepted =>
    rcases owned with refused | shared
    · exact absurd refused accepted
    · rcases shape : answer.beans with _ | ⟨first,rest⟩
      · rw [shape] at resolved
        cases resolved
      · rw [shape] at resolved
        exact shared first rest shape subjectSub resolved

theorem Desk.faithful_of_firstOwned (desk : Desk σ intake answer) (correlationId : String)
    (owned : answer.FirstOwned intake.loginId) : desk.Faithful correlationId := by
  obtain ⟨reached,tables,prompts,outcome⟩ := desk.outcome_resolved correlationId
  cases resolved : answer.resolved with
  | none =>
    rw [resolved] at outcome
    refine ⟨?_,?_⟩
    · intro added shape
      rw [outcome,tables] at shape
      obtain rfl : [] = added := List.append_cancel_left ((List.append_nil _).trans shape)
      exact nofun
    · intro _
      rw [outcome]
      exact ⟨rfl,tables,prompts⟩
  | some subjectSub =>
    have named := owned.names resolved
    rw [resolved] at outcome
    refine ⟨?_,?_⟩
    · intro added shape request member
      obtain ⟨stored,rows,subjects⟩ := store_stores desk.deployment intake correlationId subjectSub reached
      rw [outcome,rows,tables] at shape
      rw [← List.append_cancel_left shape] at member
      rw [subjects request member]
      exact named
    · intro none
      obtain ⟨bean,member,owner,_⟩ := named
      exact absurd owner (none bean member)

/-! ### A desk where everything works -/

structure Prompts where
  sent : List String

instance : Clock Prompts where
  now world := (default,world)

def samplePolicy : SystemPolicy := ⟨"openiam",⟨"openiam",none,"",10,[]⟩,none,[]⟩

def sampleEnvironment (answer : SearchAnswer) : Environment Prompts :=
  ⟨⟨"",[]⟩,.insertion,⟨fun _ => pure answer.response⟩⟩

def sampleDeployment (intake : ComplaintIntake) (answer : SearchAnswer) : Deployment Prompts where
  policies := [("openiam",samplePolicy),(intake.systemId.getD "openiam",samplePolicy)]
  connectorTypes := [("openiam",connector (sampleEnvironment answer))]
  defaultSystemId := "openiam"
  agentKillSwitchEnabled := false
  uuidText uuid := String.ofList (List.replicate uuid '0')
  uuidText_injective a b same := by
    have lengths := congrArg List.length (String.ofList_injective same)
    simpa using lengths
  parse message := ⟨fun world => (.ok ⟨.other,"",none⟩,⟨world.sent ++ [message]⟩)⟩
  flush := pure ()
  select := pure ()
  ship _ := pure ()
  commit := pure ()

def sampleDesk (intake : ComplaintIntake) (answer : SearchAnswer) : Desk Prompts intake answer where
  deployment := sampleDeployment intake answer
  session := ⟨⟨[]⟩,⟨[],[],[]⟩,(default : UtcNow).value,[],0⟩
  env := sampleEnvironment answer
  policy := samplePolicy
  known := by
    obtain ⟨loginId,nonempty,freeText,systemId⟩ := intake
    cases systemId with
    | none => rfl
    | some systemId =>
      by_cases empty : systemId = "" <;>
        by_cases same : "openiam" = systemId <;>
          simp_all [systemIdOf,sampleDeployment,PolicyStore.get,Dictionary.find]
  built := rfl
  answers _ := rfl
  prompts := Prompts.sent
  prompted _ _ := rfl
  searched _ _ := rfl

theorem sampleDesk_stores (intake : ComplaintIntake) (answer : SearchAnswer) (correlationId subjectSub : String)
    (resolved : answer.resolved = some subjectSub) :
    ∃ request, ((sampleDesk intake answer).outcome correlationId).2.tables.requests = [request] ∧
      request.subjectSub = subjectSub := by
  obtain ⟨reached,tables,_,outcome⟩ := (sampleDesk intake answer).outcome_resolved correlationId
  rw [resolved] at outcome
  rw [outcome]
  have added : ((store (sampleDeployment intake answer) intake correlationId subjectSub).exec reached).2.tables.requests
      = reached.tables.requests ++ [_] := rfl
  exact ⟨_,added.trans (by rw [tables]; rfl),rfl⟩

/-- Intake keeps to accounts of the login, whatever the deployment does. -/
def IntakeFaithful (intake : ComplaintIntake) (answer : SearchAnswer) : Prop :=
  ∀ (σ : Type) [Clock σ] (desk : Desk σ intake answer) (correlationId : String), desk.Faithful correlationId

theorem IntakeFaithful.names {intake : ComplaintIntake} {answer : SearchAnswer} {subjectSub : String}
    (faithful : IntakeFaithful intake answer) (resolved : answer.resolved = some subjectSub) :
    answer.Names intake.loginId subjectSub := by
  obtain ⟨request,stored,subject⟩ := sampleDesk_stores intake answer "" subjectSub resolved
  have named := (faithful Prompts (sampleDesk intake answer) "").subject [request] stored request List.mem_cons_self
  rwa [subject] at named

/-- Intake never stores somebody else's account exactly when the search is refused or
its first bean, where it has an id, shares it with a bean of the login. -/
theorem intakeFaithful_iff (intake : ComplaintIntake) (answer : SearchAnswer) :
    IntakeFaithful intake answer ↔ answer.FirstOwned intake.loginId := by
  constructor
  · intro faithful
    by_cases refused : 400 ≤ answer.statusCode
    · exact Or.inl refused
    · refine Or.inr (fun first rest shape id named => ?_)
      apply faithful.names
      rw [SearchAnswer.resolved,if_neg refused,shape]
      exact named
  · intro owned σ clock desk correlationId
    exact desk.faithful_of_firstOwned correlationId owned

def aliceIntake : ComplaintIntake := ⟨"alice",by decide,"I cannot sign in",none⟩

def prefixMatch : SearchAnswer := ⟨200,[[("id",.str "u-2"),("principal",.str "alice2")]]⟩

theorem other_account_stored : ¬IntakeFaithful aliceIntake prefixMatch := by
  intro faithful
  have named : prefixMatch.Names "alice" "u-2" := faithful.names rfl
  obtain ⟨bean,member,owner,_⟩ := named
  rw [List.mem_singleton.mp member] at owner
  exact absurd owner (by simp [SearchAnswer.OwnedBy,Json.find])

end AccessAgent.OpenIAM
