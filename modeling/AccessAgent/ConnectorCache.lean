import AccessAgent.AuditRead
import AccessAgent.PolicyLoader
import AccessAgent.Semantics.Memo

/-! The connectors of a history of service calls. A call looks up one connector at most, and the
registry keeps what it built for the system (`app/connectors/registry.py`). -/

namespace AccessAgent
open Semantics Handler

variable {σ : Type} [Clock σ] (deployment : Deployment σ)

/-! ### A service call and its lookup -/

inductive ServiceCall
  | submit (loginId : String) (intake : ComplaintIntake) (correlationId : String)
  | runDiagnostic (requestId : Uuid) (principal : Principal)

def lookupConnector (systemId : String) : Handler σ (ConnectorSPI σ) := do
  let policy ← deployment.policies.get systemId
  connectorOf deployment policy

/-- What a call asks the registry for, and what it does with the connector. -/
structure Ask (σ : Type) where
  systemId : String
  use : ConnectorSPI σ → Handler σ Unit

def IntakeService.submitWith (loginId : String) (intake : ComplaintIntake) (correlationId : String)
    (connector : ConnectorSPI σ) : Handler σ DiagnosticRequestModel := do
  let systemId := systemIdOf deployment intake
  let subjectSub ← await (connector.resolveSubjectSub loginId)
  match subjectSub with
  | none => throw ⟨.loginNotFoundError,"No user found for login id '" ++ loginId ++ "'"⟩
  | some subjectSub =>
    let draft ← parseComplaint deployment intake
    let request ← DiagnosticRepository.createRequest deployment (fun id =>
      ⟨id,correlationId,subjectSub,subjectSub,systemId,intake.freeText,draft.dump⟩)
    let occurredAt ← datetimeNow
    AuditService.record deployment (receivedEvent correlationId subjectSub systemId draft occurredAt)
    return request

def DiagnosticService.runWith (model : DiagnosticRequestModel) (draft : DiagnosticRequestDraft)
    (principal : Principal) (connector : ConnectorSPI σ) : Handler σ DiagnosticRunResult := do
  let request := requestFrom model draft
  let result ← orchestrate (.fresh request principal connector request.correlationId defaultPerStepTimeout)
  DiagnosticRepository.createRun deployment (runModel model.id result)
  let occurredAt ← datetimeNow
  AuditService.record deployment (resultEvent .diagnosticRunCompleted principal request.subjectSub result occurredAt)
  if result.escalated then
    let occurredAt ← datetimeNow
    AuditService.record deployment (resultEvent .escalationCreated principal request.subjectSub result occurredAt)
    return result
  else return result

def discarded {α : Type} (program : Handler σ α) : Handler σ Unit := do
  let _ ← program
  return ()

def ServiceCall.serve : ServiceCall → Handler σ Unit
  | .submit loginId intake correlationId =>
    discarded (IntakeService.submit deployment loginId intake correlationId)
  | .runDiagnostic requestId principal =>
    discarded (DiagnosticService.runDiagnostic deployment requestId principal)

def ServiceCall.ask : ServiceCall → Handler σ (Ask σ)
  | .submit loginId intake correlationId => pure ⟨systemIdOf deployment intake,
      fun connector => discarded (IntakeService.submitWith deployment loginId intake correlationId connector)⟩
  | .runDiagnostic requestId principal => do
    match ← DiagnosticRepository.getRequest deployment requestId with
    | none => throw ⟨.notFoundError,"Diagnostic request " ++ deployment.uuidText requestId ++ " not found"⟩
    | some model =>
      let draft ← DiagnosticRequestDraft.validate model.parsedDraft
      return ⟨model.systemId,
        fun connector => discarded (DiagnosticService.runWith deployment model draft principal connector)⟩

/-- A call asks, looks the connector up and uses it. -/
theorem ServiceCall.serve_eq (call : ServiceCall) : call.serve deployment =
    call.ask deployment >>= fun ask => lookupConnector deployment ask.systemId >>= ask.use := by
  cases call with
  | submit loginId intake correlationId =>
    simp only [serve,ask,discarded,IntakeService.submit,lookupConnector,Effect.bind_assoc]
    exact bind_congr fun policy => bind_congr fun connector => (Effect.bind_assoc _ _ _).symm
  | runDiagnostic requestId principal =>
    simp only [serve,ask,discarded,DiagnosticService.runDiagnostic,lookupConnector,Effect.bind_assoc]
    refine bind_congr fun found => ?_
    cases found with
    | none => rfl
    | some model =>
      dsimp only
      simp only [Effect.bind_assoc]
      refine bind_congr fun draft => bind_congr fun policy => bind_congr fun connector => ?_
      simp only [DiagnosticService.runWith,Effect.bind_assoc]

/-! ### What a call leaves in the registry -/

/-- The program leaves the instances of the registry alone. -/
abbrev Spares {α : Type} (program : Handler σ α) : Prop :=
  Always (fun before after => after.instances = before.instances) program

namespace Spares
variable {α β : Type}

omit [Clock σ] in
theorem still {program : Handler σ α}
    (same : ∀ session, (program.exec session).2.instances = session.instances) : Spares program := same

omit [Clock σ] in
theorem bind {program : Handler σ α} {next : α → Handler σ β} (first : Spares program)
    (rest : ∀ value, Spares (next value)) : Spares (program >>= next) :=
  Always.bind (fun _ _ _ early late => late.trans early) first rest

omit [Clock σ] in
theorem skip {program : Handler σ α} {next : α → Handler σ β}
    (same : ∀ session, (program.exec session).2.instances = session.instances) (rest : ∀ value, Spares (next value)) :
    Spares (program >>= next) :=
  bind (still same) rest

omit [Clock σ] in
theorem discarded {program : Handler σ α} (spares : Spares program) : Spares (discarded program) :=
  bind spares (fun _ => still fun _ => rfl)

end Spares

omit [Clock σ] in
theorem record_spares (event : AuditEvent) : Spares (AuditService.record deployment event) := by
  refine Spares.bind ?_ (fun _ => Spares.still (fun _ => rfl))
  refine Spares.skip (fun _ => rfl) (fun id => Spares.skip (fun _ => rfl) (fun _ => ?_))
  exact Spares.still (fun _ => rfl)

omit [Clock σ] in
theorem createRequest_spares (request : Uuid → DiagnosticRequestModel) :
    Spares (DiagnosticRepository.createRequest deployment request) := by
  refine Spares.skip (fun _ => rfl) ?_
  intro id
  refine Spares.skip (fun _ => rfl) ?_
  exact fun _ => Spares.still (fun _ => rfl)

omit [Clock σ] in
theorem createRun_spares (run : Uuid → Datetime → DiagnosticRunModel) :
    Spares (DiagnosticRepository.createRun deployment run) := by
  refine Spares.skip (fun _ => rfl) ?_
  intro id
  refine Spares.skip (fun _ => rfl) ?_
  exact fun _ => Spares.still (fun _ => rfl)

theorem submitWith_spares (loginId : String) (intake : ComplaintIntake) (correlationId : String)
    (connector : ConnectorSPI σ) :
    Spares (IntakeService.submitWith deployment loginId intake correlationId connector) := by
  refine Spares.skip (fun _ => rfl) ?_
  intro subject
  cases subject with
  | none => exact Spares.still (fun _ => rfl)
  | some subjectSub =>
    refine Spares.skip (fun _ => rfl) ?_
    intro draft
    apply Spares.bind (createRequest_spares deployment _)
    intro request
    refine Spares.skip (fun _ => rfl) ?_
    intro occurredAt
    apply Spares.bind (record_spares deployment _)
    exact fun _ => Spares.still (fun _ => rfl)

theorem runWith_spares (model : DiagnosticRequestModel) (draft : DiagnosticRequestDraft) (principal : Principal)
    (connector : ConnectorSPI σ) : Spares (DiagnosticService.runWith deployment model draft principal connector) := by
  refine Spares.skip (fun _ => rfl) ?_
  intro result
  apply Spares.bind (createRun_spares deployment _)
  intro run
  refine Spares.skip (fun _ => rfl) ?_
  intro completedAt
  apply Spares.bind (record_spares deployment _)
  intro completed
  split
  · refine Spares.skip (fun _ => rfl) ?_
    intro escalatedAt
    apply Spares.bind (record_spares deployment _)
    exact fun _ => Spares.still (fun _ => rfl)
  · exact Spares.still (fun _ => rfl)

theorem ServiceCall.ask_spares (call : ServiceCall) : Spares (call.ask deployment) := by
  cases call with
  | submit loginId intake correlationId => exact Spares.still (fun _ => rfl)
  | runDiagnostic requestId principal =>
    apply Spares.bind
    · exact Spares.skip (fun _ => rfl) (fun _ => Spares.still (fun _ => rfl))
    intro found
    cases found with
    | none => exact Spares.still (fun _ => rfl)
    | some model => exact Spares.skip (fun _ => rfl) (fun _ => Spares.still (fun _ => rfl))

theorem ServiceCall.use_spares {call : ServiceCall} {ask : Ask σ} {before after : Session σ}
    (asked : (call.ask deployment).exec before = (.ok ask,after)) (connector : ConnectorSPI σ) :
    Spares (ask.use connector) := by
  cases call with
  | submit loginId intake correlationId =>
    obtain ⟨rfl,_⟩ := pure_kept asked
    exact Spares.discarded (submitWith_spares deployment loginId intake correlationId connector)
  | runDiagnostic requestId principal =>
    obtain ⟨found,selected,_,asked⟩ := Effect.bind_success asked
    cases found with
    | none => cases asked
    | some model =>
      obtain ⟨draft,_,_,asked⟩ := Effect.bind_success asked
      obtain ⟨rfl,_⟩ := pure_kept asked
      exact Spares.discarded (runWith_spares deployment model draft principal connector)

/-! ### Histories -/

/-- The connector that an empty registry builds for a system. -/
def makeConnector (systemId : String) : Except Exn (ConnectorSPI σ) := do
  let policy ← deployment.policies.get systemId
  (getConnector deployment.connectorTypes policy.systemId policy.connector.type policy.config []).1

/-- The lookup of a call, if it comes to one. -/
def ServiceCall.lookups (call : ServiceCall) (session : Session σ) : List (Lookup Exn String (ConnectorSPI σ)) :=
  match (call.ask deployment).exec session with
  | (.error _,_) => []
  | (.ok ask,asked) =>
    let found := (lookupConnector deployment ask.systemId).exec asked
    [⟨ask.systemId,asked.instances,found.1,found.2.instances⟩]

/-- A call and the session that it starts from, but for the instances of the registry. -/
structure Visit (σ : Type) where
  call : ServiceCall
  session : Session σ

/-- Call after call, each with the instances that the one before left. -/
def serveVisits : List (Visit σ) → Instances σ → List (Lookup Exn String (ConnectorSPI σ)) × Instances σ
  | [],instances => ([],instances)
  | visit::rest,instances =>
    let session := {visit.session with instances := instances}
    let later := serveVisits rest ((visit.call.serve deployment).exec session).2.instances
    (visit.call.lookups deployment session ++ later.1,later.2)

variable {deployment}

omit [Clock σ] in
theorem lookupConnector_memo (own : ∀ systemId policy, deployment.policies.find systemId = some policy →
    policy.systemId = systemId) {session : Session σ} (agrees : Memo.Agrees (makeConnector deployment) session.instances)
    (systemId : String) : (lookupConnector deployment systemId).exec session =
      ((Memo.lookup (makeConnector deployment) systemId session.instances).1,
        {session with instances := (Memo.lookup (makeConnector deployment) systemId session.instances).2}) := by
  cases found : deployment.policies.find systemId with
  | none =>
    have unknown : deployment.policies.get systemId =
        .error ⟨.notFoundError,"No policy registered for system_id '" ++ systemId ++ "'"⟩ := by
      rw [PolicyStore.get,found]
    have made : makeConnector deployment systemId =
        .error ⟨.notFoundError,"No policy registered for system_id '" ++ systemId ++ "'"⟩ := by
      rw [makeConnector,unknown]
      rfl
    have absent : session.instances.find systemId = none := by
      rw [Option.eq_none_iff_forall_ne_some]
      intro connector kept
      cases made.symm.trans (agrees systemId connector kept)
    rw [lookupConnector,unknown,Memo.lookup,absent,made]
    rfl
  | some policy =>
    have known : deployment.policies.get systemId = .ok policy := by rw [PolicyStore.get,found]
    have made : makeConnector deployment systemId =
        (getConnector deployment.connectorTypes systemId policy.connector.type policy.config []).1 := by
      rw [makeConnector,known,← own systemId policy found]
      rfl
    rw [lookupConnector,known]
    change (connectorOf deployment policy).exec session = _
    rw [connectorOf,own systemId policy found,Memo.lookup,made]
    dsimp only
    rw [getConnector,getConnector]
    cases session.instances.find systemId with
    | some connector => rfl
    | none =>
      dsimp only [Dictionary.find]
      cases deployment.connectorTypes.find policy.connector.type <;> rfl

theorem ServiceCall.serve_memo (own : ∀ systemId policy, deployment.policies.find systemId = some policy →
    policy.systemId = systemId) (call : ServiceCall) {session : Session σ}
    (agrees : Memo.Agrees (makeConnector deployment) session.instances) :
    ∃ keys, (call.lookups deployment session,((call.serve deployment).exec session).2.instances) =
      Memo.run (makeConnector deployment) keys session.instances := by
  have spared := call.ask_spares deployment session
  rw [call.serve_eq,Effect.bind_exec]
  cases ran : (call.ask deployment).exec session with
  | mk answer asked =>
    rw [ran] at spared
    cases answer with
    | error raised =>
      refine ⟨[],?_⟩
      rw [ServiceCall.lookups,ran]
      exact Prod.ext rfl spared
    | ok ask =>
      refine ⟨[ask.systemId],?_⟩
      rw [← spared] at agrees ⊢
      have found := lookupConnector_memo own agrees ask.systemId
      rw [ServiceCall.lookups,ran]
      dsimp only
      rw [Effect.bind_exec,found]
      cases made : (Memo.lookup (makeConnector deployment) ask.systemId asked.instances).1 with
      | error raised =>
        rw [Memo.run,made]
        rfl
      | ok connector =>
        have used := ServiceCall.use_spares deployment ran connector
          {asked with instances := (Memo.lookup (makeConnector deployment) ask.systemId asked.instances).2}
        rw [Memo.run,made]
        exact Prod.ext rfl used

/-- A history of service calls looks connectors up as a run of lookups does. -/
theorem serveVisits_memo (own : ∀ systemId policy, deployment.policies.find systemId = some policy →
    policy.systemId = systemId) (visits : List (Visit σ)) {instances : Instances σ}
    (agrees : Memo.Agrees (makeConnector deployment) instances) :
    ∃ keys, serveVisits deployment visits instances = Memo.run (makeConnector deployment) keys instances := by
  induction visits generalizing instances with
  | nil => exact ⟨[],rfl⟩
  | cons visit rest ih =>
    have agreed : Memo.Agrees (makeConnector deployment) {visit.session with instances := instances}.instances := agrees
    obtain ⟨keys,here⟩ := visit.call.serve_memo own agreed
    obtain ⟨looked,left⟩ := Prod.mk.inj here
    obtain ⟨others,later⟩ := ih (Memo.run_agrees agrees keys)
    refine ⟨keys ++ others,?_⟩
    rw [serveVisits,Memo.run_append,looked,left,later]

/-! ### The connectors of loaded policies -/

omit [Clock σ] in
theorem getConnector_built {types : ConnectorTypes σ} {connectorId connectorType : String} {config : Config}
    {connector : ConnectorSPI σ} (built : (getConnector types connectorId connectorType config []).1 = .ok connector) :
    ∃ connectorClass, types.find connectorType = some connectorClass ∧ connector = connectorClass connectorId config := by
  rw [getConnector,Dictionary.find_nil] at built
  cases registered : types.find connectorType with
  | none =>
    rw [registered] at built
    cases built
  | some connectorClass =>
    rw [registered] at built
    exact ⟨connectorClass,rfl,(Except.ok.inj built).symm⟩

theorem PolicyStore.get_found {store : PolicyStore} {systemId : String} {policy : SystemPolicy}
    (known : store.get systemId = .ok policy) : store.find systemId = some policy := by
  rw [PolicyStore.get] at known
  cases found : store.find systemId with
  | none =>
    rw [found] at known
    cases known
  | some stored =>
    rw [found] at known
    exact congrArg some (Except.ok.inj known)

theorem connectorTypes_named {env : OpenIAM.Environment σ} {connectorType : String} {connectorClass : ConnectorClass σ}
    (registered : (connectorTypes env).find connectorType = some connectorClass) (connectorId : String)
    (config : Config) : (connectorClass connectorId config).connectorId = connectorId := by
  have named : ∀ entry ∈ connectorTypes env, (entry.2 connectorId config).connectorId = connectorId := by
    simp only [connectorTypes,List.forall_mem_cons,List.not_mem_nil,false_implies,implies_true,and_true]
    exact ⟨rfl,rfl,rfl,rfl,rfl⟩
  exact named _ (Dictionary.mem_of_find registered)

/-- The lookup gives a connector of the class registered for the policy of the system, with the id of the
system and the config of the policy; or it fails and the registry keeps its instances. -/
structure Connected (store : PolicyStore) (types : ConnectorTypes σ) (lookup : Lookup Exn String (ConnectorSPI σ)) : Prop where
  answered : ∀ connector, lookup.answer = .ok connector → connector.connectorId = lookup.key ∧
    ∃ policy connectorClass, store.find lookup.key = some policy ∧ policy.systemId = lookup.key ∧
      types.find policy.connector.type = some connectorClass ∧ connector = connectorClass lookup.key policy.config
  failed : ∀ raised, lookup.answer = .error raised → lookup.after = lookup.before

/-- In every history of service calls over loaded policies, each connector is the one of its system, and it is
built once. -/
theorem connectors_cached {ν : Type} (format : PolicyFormat ν) (policyDir : PolicyDir) {store : PolicyStore}
    (loaded : format.loadPolicies policyDir = .ok store) (env : OpenIAM.Environment σ) (deployment : Deployment σ)
    (visits : List (Visit σ)) :
    let started := {deployment with policies := store, connectorTypes := connectorTypes env}
    (∀ lookup ∈ (serveVisits started visits []).1, Connected store (connectorTypes env) lookup) ∧
      (serveVisits started visits []).1.Pairwise Memo.Again := by
  intro started
  have own : ∀ systemId policy, started.policies.find systemId = some policy → policy.systemId = systemId := by
    intro systemId policy found
    obtain ⟨policies,_,rfl⟩ := format.foldlM_loadPolicy.mp loaded
    exact PolicyFormat.stored_own found
  obtain ⟨keys,ran⟩ := serveVisits_memo own visits Memo.agrees_nil
  rw [ran]
  refine ⟨?_,Memo.run_again keys⟩
  intro lookup member
  constructor
  · intro connector answered
    have made : makeConnector started lookup.key = .ok connector :=
      (Memo.run_answer Memo.agrees_nil keys lookup member).symm.trans answered
    obtain ⟨policy,known,built⟩ := Raising.bind_success made
    obtain ⟨connectorClass,registered,rfl⟩ := getConnector_built built
    have found := PolicyStore.get_found known
    have named := own lookup.key policy found
    rw [named]
    exact ⟨connectorTypes_named registered lookup.key policy.config,policy,connectorClass,found,named,registered,rfl⟩
  · intro raised failed
    have step := Memo.run_step keys lookup member
    obtain ⟨answer,after⟩ := Prod.mk.inj step
    rw [after]
    exact Memo.lookup_failed (answer.symm.trans failed)

theorem openiam_loaded : documentFormat.loadPolicies (policyDirOf "openiam.yaml" (plainText "openiam")) =
    .ok [("openiam",plainPolicy "openiam")] := by
  rw [PolicyFormat.loadPolicies,policyDirOf_files (by decide)]
  rfl

/-- The second complaint about a system is served by the connector that the first one built. -/
theorem connectors_cached_twice :
    let started := {stillDeployment (stillConnector some .up) with
      policies := [("openiam",plainPolicy "openiam")],connectorTypes := connectorTypes idleEnvironment}
    let visit : Visit Unit := ⟨.submit "alice" ⟨"alice",by decide,"",none⟩ "c",stillSession []⟩
    (serveVisits started [visit,visit] []).1.length = 2 ∧
      (∀ lookup ∈ (serveVisits started [visit,visit] []).1,
        Connected [("openiam",plainPolicy "openiam")] (connectorTypes idleEnvironment) lookup) ∧
      (serveVisits started [visit,visit] []).1.Pairwise Memo.Again :=
  ⟨rfl,connectors_cached documentFormat (policyDirOf "openiam.yaml" (plainText "openiam")) openiam_loaded idleEnvironment
    (stillDeployment (stillConnector some .up)) [⟨.submit "alice" ⟨"alice",by decide,"",none⟩ "c",stillSession []⟩,
      ⟨.submit "alice" ⟨"alice",by decide,"",none⟩ "c",stillSession []⟩]⟩

end AccessAgent
