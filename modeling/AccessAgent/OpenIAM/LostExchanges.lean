import AccessAgent.Degradation
import AccessAgent.OpenIAM.Connector

/-! A client whose exchanges may be lost: timeouts, broken connections, a login that fails, a session
that OpenIAM does not accept, which it answers with a redirect to its login page. No lookup of the
connector makes an answer of an exception or of such a redirect. -/

namespace AccessAgent.OpenIAM
open Semantics DiagnosticOrchestrator

variable {σ τ : Type} {alike : σ → τ → Prop}

/-- An answer that is no error and holds no JSON. -/
def Response.Unreadable (response : Response) : Prop := response.statusCode < 400 ∧ ∃ raised, response.json = .error raised

/-- Where the first client is answered with JSON or an error, the second one is answered the same. -/
def TokenClient.Guarded (alike : σ → τ → Prop) (failing : TokenClient σ) (working : TokenClient τ) : Prop :=
  ∀ request world other, alike world other → ∀ response after, (failing.authorizedGet request).exec world = (.ok response,after) →
    response.Unreadable ∨ ∃ later, (working.authorizedGet request).exec other = (.ok response,later) ∧ alike after later

theorem Response.Unreadable.raises {α : Type} {response : Response} (unreadable : response.Unreadable) (refused : Effect Exn σ α)
    (read : Json → Effect Exn σ α) (world : σ) : ∃ raised,
      (if response.failed then refused else (liftM response.json >>= read)).answer world = .error raised := by
  obtain ⟨accepted,raised,undecoded⟩ := unreadable
  refine ⟨raised,?_⟩
  rw [Response.failed,decide_eq_false (not_le.mpr accepted),if_neg Bool.false_ne_true,undecoded]
  rfl

theorem gather_success {α : Type} {task : Effect Exn σ α} {rest : List (Effect Exn σ α)} {world last : σ}
    {answers : List α} (ok : (gather (task::rest)).exec world = (.ok answers,last)) :
    ∃ value middle values, task.exec world = (.ok value,middle) ∧ (gather rest).exec middle = (.ok values,last) ∧
      answers = value::values := by
  rw [gather] at ok
  dsimp only at ok
  rcases first : task.exec world with ⟨raised | value,middle⟩
  · rw [first] at ok
    cases ok
  rw [first] at ok
  dsimp only at ok
  rcases others : (gather rest).exec middle with ⟨raised | values,final⟩
  · rw [others] at ok
    cases ok
  rw [others] at ok
  obtain ⟨same,rfl⟩ := Prod.mk.inj ok
  exact ⟨value,middle,values,rfl,others,(Except.ok.inj same).symm⟩

theorem gather_answered {α : Type} {task : Effect Exn σ α} {rest : List (Effect Exn σ α)} {world middle last : σ}
    {value : α} {values : List α} (first : task.exec world = (.ok value,middle))
    (others : (gather rest).exec middle = (.ok values,last)) :
    (gather (task::rest)).exec world = (.ok (value::values),last) := by
  rw [gather]
  dsimp only
  rw [first]
  dsimp only
  rw [others]
  rfl

theorem gather_weaker {α β : Type} {left : β → Effect Exn σ α} {right : β → Effect Exn τ α} (tasks : List β)
    (weaker : ∀ task, Weaker alike Eq (left task) (right task)) :
    Weaker alike Eq (gather (tasks.map left)) (gather (tasks.map right)) := by
  induction tasks with
  | nil => exact Weaker.pure rfl
  | cons task rest ih =>
    intro world other same answers after ok
    obtain ⟨value,middle,values,first,others,shape⟩ := gather_success ok
    obtain ⟨_,between,firstRight,rfl,related⟩ := weaker task world other same value middle first
    obtain ⟨_,later,othersRight,rfl,ends⟩ := ih middle between related values after others
    exact ⟨value::values,later,gather_answered firstRight othersRight,shape,ends⟩

/-! ### What the connector computes -/

section Lookups
variable [Clock σ] [Clock τ] (clock : SameClock alike)
include clock

theorem isDeprovisioned_weaker (principalList roleBeans groupBeans : Json) :
    Weaker alike Eq (isDeprovisioned (σ := σ) principalList roleBeans groupBeans)
      (isDeprovisioned (σ := τ) principalList roleBeans groupBeans) := by
  refine Weaker.bind_same (Weaker.lift_same _) fun entries => Weaker.bind_same (Weaker.lift_same _) fun deleted => ?_
  split
  · exact Weaker.pure rfl
  refine Weaker.bind_same (Weaker.lift_same _) fun grants => ?_
  split
  · exact Weaker.bind_same (now_weaker clock) fun now => Weaker.bind_same (Weaker.lift_same _) fun beans => Weaker.lift_same _
  · exact Weaker.pure rfl

omit [Clock σ] [Clock τ] clock in
theorem accountStatus_weaker (locked : Bool) {left : Effect Exn σ Bool} {right : Effect Exn τ Bool}
    (weaker : Weaker alike Eq left right) (rawStatus : Json) (expired : List (Json × Datetime)) :
    Weaker alike Eq (accountStatus locked left rawStatus expired) (accountStatus locked right rawStatus expired) := by
  rw [accountStatus,accountStatus]
  split
  · exact Weaker.pure rfl
  refine Weaker.bind_same weaker fun gone => ?_
  split
  · exact Weaker.pure rfl
  split
  · exact Weaker.pure rfl
  split <;> exact Weaker.pure rfl

theorem expiredPasswordLogins_weaker (principalList : Json) :
    Weaker alike Eq (expiredPasswordLogins (σ := σ) principalList) (expiredPasswordLogins (σ := τ) principalList) := by
  refine Weaker.bind_same (now_weaker clock) fun now => ?_
  exact Weaker.bind_same (Weaker.lift_same _) fun entries => Weaker.lift_same _

theorem userStatusFrom_weaker (settings : Settings) (config : Config) (body : Json) :
    Weaker alike Eq (userStatusFrom (σ := σ) settings config body) (userStatusFrom (σ := τ) settings config body) := by
  refine Weaker.bind_same (Weaker.lift_same _) fun rawStatus => ?_
  refine Weaker.bind_same (Weaker.lift_same _) fun rawSecondaryStatus => ?_
  refine Weaker.bind_same (Weaker.lift_same _) fun principalList => ?_
  refine Weaker.bind_same (Weaker.lift_same _) fun roleBeans => ?_
  refine Weaker.bind_same (Weaker.lift_same _) fun groupBeans => ?_
  refine Weaker.bind_same (expiredPasswordLogins_weaker clock _) fun expired => ?_
  refine Weaker.bind_same (Weaker.lift_same _) fun locked => ?_
  refine Weaker.bind_same (accountStatus_weaker _ (isDeprovisioned_weaker clock _ _ _) _ _) fun status => ?_
  refine Weaker.bind_same (Weaker.lift_same _) fun login => ?_
  refine Weaker.bind_same (Weaker.lift_same _) fun passwordResetUrl => ?_
  split <;> exact Weaker.pure rfl

theorem auditlogPage_weaker (subjectSub : String) (timeWindow : Timedelta) (actions : List String) (size : Int) :
    Weaker alike Eq (auditlogPage (σ := σ) subjectSub timeWindow actions size)
      (auditlogPage (σ := τ) subjectSub timeWindow actions size) := by
  refine Weaker.bind_same (now_weaker clock) fun now => ?_
  exact Weaker.bind_same (Weaker.lift_same _) fun start => Weaker.pure rfl

end Lookups

/-! ### Lookups over both clients -/

section Clients
variable {failing : TokenClient σ} {working : TokenClient τ} (guarded : failing.Guarded alike working)
include guarded

theorem TokenClient.Guarded.asked {α : Type} (request : Request) {next : Response → Effect Exn σ α}
    {nextRight : Response → Effect Exn τ α}
    (raises : ∀ response, response.Unreadable → ∀ world, ∃ raised, (next response).answer world = .error raised)
    (rest : ∀ response, Weaker alike Eq (next response) (nextRight response)) :
    Weaker alike Eq (failing.authorizedGet request >>= next) (working.authorizedGet request >>= nextRight) := by
  intro world other same answer after ok
  obtain ⟨response,middle,answered,ok⟩ := Effect.bind_success ok
  rcases guarded request world other same response middle answered with unreadable | ⟨later,known,between⟩
  · obtain ⟨raised,failed⟩ := raises response unreadable middle
    rw [Effect.answer,ok] at failed
    cases failed
  · rw [Effect.bind_answered known]
    exact rest response middle later between answer after ok

/-- A lookup that answers a refusal at once and otherwise reads the JSON. -/
theorem TokenClient.Guarded.read {α : Type} (request : Request) {refused : Response → Effect Exn σ α}
    {refusedRight : Response → Effect Exn τ α} {next : Json → Effect Exn σ α} {nextRight : Json → Effect Exn τ α}
    (refuses : ∀ response, Weaker alike Eq (refused response) (refusedRight response))
    (rest : ∀ body, Weaker alike Eq (next body) (nextRight body)) :
    Weaker alike Eq
      (failing.authorizedGet request >>= fun response => if response.failed then refused response else liftM response.json >>= next)
      (working.authorizedGet request >>= fun response =>
        if response.failed then refusedRight response else liftM response.json >>= nextRight) := by
  refine guarded.asked request (fun response unreadable => unreadable.raises _ _) fun response => ?_
  split
  · exact refuses response
  · exact Weaker.bind_same (Weaker.lift_same _) rest

theorem checkManagedSystem_weaker (name : Json) :
    Weaker alike Eq (checkManagedSystem failing name) (checkManagedSystem working name) := by
  refine guarded.read _ (fun _ => Weaker.pure rfl) fun body => ?_
  exact Weaker.bind_same (Weaker.lift_same _) fun reply => Weaker.pure rfl

variable [Clock σ] [Clock τ] (clock : SameClock alike) (settings : Settings) (setOrder : SetOrder)
include clock

theorem checkAvailability_weaker (subjectSub : String) :
    Weaker alike Eq (checkAvailability ⟨settings,setOrder,failing⟩ subjectSub)
      (checkAvailability ⟨settings,setOrder,working⟩ subjectSub) := by
  refine guarded.read _ (fun _ => Weaker.bind_same (now_weaker clock) fun _ => Weaker.pure rfl) fun body => ?_
  refine Weaker.bind_same (Weaker.lift_same _) fun logins => ?_
  refine Weaker.bind_same (Weaker.lift_same _) fun principalList => ?_
  refine Weaker.bind_same (Weaker.lift_same _) fun names => ?_
  dsimp only
  split
  · exact Weaker.bind_same (now_weaker clock) fun _ => Weaker.pure rfl
  refine Weaker.bind_same (gather_weaker _ (checkManagedSystem_weaker guarded)) fun results => ?_
  split
  · exact Weaker.bind_same (Weaker.lift_same _) fun _ => Weaker.bind_same (now_weaker clock) fun _ => Weaker.pure rfl
  · exact Weaker.bind_same (now_weaker clock) fun _ => Weaker.pure rfl

/-- A search of the audit log, of which no answer stands for a refused one. -/
theorem auditlog_weaker {α : Type} (subjectSub : String) (timeWindow : Timedelta) (actions : List String) (size : Int)
    (parse : Json → Except Exn (List α)) :
    Weaker alike Eq
      (auditlogPage subjectSub timeWindow actions size >>= fun request => failing.authorizedGet request >>= fun response =>
        if response.failed then pure [] else liftM response.json >>= fun body => Effect.lift (parse body))
      (auditlogPage subjectSub timeWindow actions size >>= fun request => working.authorizedGet request >>= fun response =>
        if response.failed then pure [] else liftM response.json >>= fun body => Effect.lift (parse body)) := by
  refine Weaker.bind_same (auditlogPage_weaker clock _ _ _ _) fun request => ?_
  exact guarded.read request (fun _ => Weaker.pure rfl) fun body => Weaker.lift_same _

theorem connector_weaker (connectorId : String) (config : Config) :
    (connector ⟨settings,setOrder,failing⟩ connectorId config).Weaker alike
      (connector ⟨settings,setOrder,working⟩ connectorId config) where
  connectorId := rfl
  resolveSubjectSub _ := by
    refine guarded.read _ (fun _ => Weaker.pure rfl) fun body => Weaker.bind_same (Weaker.lift_same _) fun found => ?_
    dsimp only
    split
    · refine Weaker.bind_same (Weaker.lift_same _) fun bean => Weaker.bind_same (Weaker.lift_same _) fun resolvedId => ?_
      split <;> exact Weaker.pure rfl
    · exact Weaker.pure rfl
  checkAvailability := checkAvailability_weaker guarded clock settings setOrder
  getUserStatus _ := guarded.read _ (fun _ => Weaker.pure rfl) fun _ => userStatusFrom_weaker clock settings config _
  getAuthEvents _ _ := auditlog_weaker guarded clock _ _ _ _ _
  getEffectivePermissions _ _ := guarded.read _ (fun _ => Weaker.pure rfl) fun _ => Weaker.lift_same _
  getRequiredPermissions _ := Weaker.pure rfl
  getPermissionAuditEvents _ _ := auditlog_weaker guarded clock _ _ _ _ _

/-- Whichever exchanges with OpenIAM raise or end at its login page, the diagnosis is the one of the
run where they are answered, or an escalation in which one of the checks has come to no verdict. -/
theorem lost_exchanges_escalate (connectorId : String) (config : Config) {world : σ} {other : τ} (same : alike world other)
    (request : DiagnosticRequest) (principal : Principal) (correlationId : String) (perStepTimeout : Timedelta) :
    ∃ result expected,
      run.answer ⟨world,.fresh request principal (connector ⟨settings,setOrder,failing⟩ connectorId config) correlationId
        perStepTimeout⟩ = .ok result ∧
      run.answer ⟨other,.fresh request principal (connector ⟨settings,setOrder,working⟩ connectorId config) correlationId
        perStepTimeout⟩ = .ok expected ∧
      Degraded result expected :=
  run_both clock (connector_weaker guarded clock settings setOrder connectorId config) ⟨same,rfl,rfl⟩ rfl

end Clients

/-- A client that is sent to the login page when it asks for the audit log. -/
def unloggedClient (answer : Request → Response) : TokenClient Unit where
  authorizedGet request := pure
    (if (Json.find "actions[]" request.params).isSome then ⟨302,.error ⟨.other "JSONDecodeError",""⟩⟩ else answer request)

theorem unlogged_guarded (answer : Request → Response) : (unloggedClient answer).Guarded Eq (answering answer) := by
  rintro request _ world rfl response after ok
  obtain ⟨answered,rfl⟩ := Prod.mk.inj ok
  obtain rfl := Except.ok.inj answered
  split
  · exact Or.inl ⟨by decide,_,rfl⟩
  · exact Or.inr ⟨_,rfl,rfl⟩

theorem lost_auditlog_escalates :
    let answer : Request → Response := fun _ => ⟨200,.ok (.obj [("status",.str "ACTIVE")])⟩
    let start (client : TokenClient Unit) : Diagnosis Unit := ⟨(),.fresh ⟨"c-1","u-1","u-1","openiam",.other,""⟩
      ⟨"u-1",[]⟩ (connector ⟨⟨"https://iam",[]⟩,.insertion,client⟩ "openiam" ⟨⟨"openiam",none,"kv/openiam",10,[]⟩,none,[]⟩) "c-1"
      defaultPerStepTimeout⟩
    ∃ result expected, run.answer (start (unloggedClient answer)) = .ok result ∧
      run.answer (start (answering answer)) = .ok expected ∧ Degraded result expected :=
  lost_exchanges_escalate (unlogged_guarded _) sameClock_eq _ _ _ _ rfl _ _ _ _

end AccessAgent.OpenIAM
