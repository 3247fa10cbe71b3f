import AccessAgent.OpenIAM.CheckRuns
import AccessAgent.WorldInvariants

/-! What a diagnosis asks OpenIAM for: the account under diagnosis, the managed systems that an
answer has named for it, and the two windows of its own audit log. -/

namespace AccessAgent.OpenIAM
open Semantics Step

variable {σ : Type}

/-! ### The requests on record -/

structure Sent where
  request : Request
  answer : Except Exn Response

structure Watched (σ : Type) where
  world : σ
  sent : List Sent

instance [Clock σ] : Clock (Watched σ) where
  now watched := ((Clock.now watched.world).1,{watched with world := (Clock.now watched.world).2})

/-- The same client, with every request on record, answered or not. -/
def TokenClient.watched (client : TokenClient σ) : TokenClient (Watched σ) where
  authorizedGet request := ⟨fun watched =>
    let outcome := (client.authorizedGet request).exec watched.world
    (outcome.1,⟨outcome.2,watched.sent ++ [⟨request,outcome.1⟩]⟩)⟩

theorem TokenClient.watched_exec (client : TokenClient σ) (request : Request) (watched : Watched σ) :
    (client.watched.authorizedGet request).exec watched = (((client.authorizedGet request).exec watched.world).1,
      ⟨((client.authorizedGet request).exec watched.world).2,
        watched.sent ++ [⟨request,((client.authorizedGet request).exec watched.world).1⟩]⟩) := rfl

/-- An answer for the account has named the system. -/
def SystemKnown (subjectSub : String) (sent : List Sent) (name : Json) : Prop :=
  ∃ entry ∈ sent, entry.request = userGet subjectSub ∧ ∃ response body, entry.answer = .ok response ∧
    response.json = .ok body ∧ ∃ login ∈ logins body, login.field "managedSys" = name ∧ name.truthy = true

/-- What may be asked for after what was sent before. -/
inductive Permitted (subjectSub : String) (before : List Sent) : Request → Prop
  | account : Permitted subjectSub before (userGet subjectSub)
  | system {name : Json} (known : SystemKnown subjectSub before name) : Permitted subjectSub before (dashboardSearch name)
  | signIns {now : Datetime} {request : Request}
      (window : auditRequest now subjectSub Step3AuthEvents.lookback ["LOGIN","DO_LOGIN"] 10 = .ok request) :
      Permitted subjectSub before request
  | grantChanges {now : Datetime} {request : Request} (window : auditRequest now subjectSub
      Step4Authorization.auditLookback (grantChangeActions ++ syncActions) 50 = .ok request) :
      Permitted subjectSub before request

/-- Each request is permitted after the ones before it. -/
inductive Confined (subjectSub : String) : List Sent → Prop
  | nil : Confined subjectSub []
  | sent {before : List Sent} {entry : Sent} (confined : Confined subjectSub before)
      (permitted : Permitted subjectSub before entry.request) : Confined subjectSub (before ++ [entry])

theorem SystemKnown.extend {subjectSub : String} {sent later : List Sent} {name : Json}
    (known : SystemKnown subjectSub sent name) : SystemKnown subjectSub (sent ++ later) name := by
  obtain ⟨entry,member,named⟩ := known
  exact ⟨entry,List.mem_append_left later member,named⟩

section Lookups
variable (client : TokenClient σ) (subjectSub : String)

abbrev Within (watched : Watched σ) : Prop := Confined subjectSub watched.sent

/-- A permitted request is answered or raises, and is on record. -/
theorem ask_permitted (request : Request) : Contract
    (fun watched : Watched σ => Within subjectSub watched ∧ Permitted subjectSub watched.sent request)
    (client.watched.authorizedGet request)
    (fun response watched => Within subjectSub watched ∧ ⟨request,.ok response⟩ ∈ watched.sent) (Within subjectSub) := by
  rintro ⟨world,sent⟩ ⟨confined,permitted⟩
  rw [TokenClient.watched_exec]
  rcases (client.authorizedGet request).exec world with ⟨raised | response,after⟩
  · exact Confined.sent confined permitted
  · exact ⟨Confined.sent confined permitted,by simp⟩

theorem ask_bind {α : Type} {request : Request} {next : Response → Effect Exn (Watched σ) α}
    (permitted : ∀ before, Permitted subjectSub before request)
    (rest : ∀ response, Keeps (Within subjectSub) (next response)) :
    Keeps (Within subjectSub) (client.watched.authorizedGet request >>= next) := by
  apply Contract.bind
  · exact (ask_permitted client subjectSub request).consequence (fun _ confined => ⟨confined,permitted _⟩)
      (fun _ _ answered => answered.1) (fun _ confined => confined)
  · exact rest

end Lookups

/-! ### Programs that ask for nothing -/

section Quiet
variable [Clock σ] {holds : σ → Prop} (ticks : ∀ world, holds world → holds (Clock.now world).2)
include ticks

theorem now_keeps : Keeps holds (datetimeNow : Effect Exn σ Datetime) := fun world => ticks world

theorem isDeprovisioned_keeps (principalList roleBeans groupBeans : Json) :
    Keeps holds (isDeprovisioned (σ := σ) principalList roleBeans groupBeans) := by
  refine Keeps.bind (Keeps.lift _) fun entries => Keeps.bind (Keeps.lift _) fun deleted => ?_
  split
  · exact Keeps.pure _
  refine Keeps.bind (Keeps.lift _) fun grants => ?_
  split
  · exact Keeps.bind (now_keeps ticks) fun now => Keeps.bind (Keeps.lift _) fun beans => Keeps.lift _
  · exact Keeps.pure _

omit [Clock σ] ticks in
theorem accountStatus_keeps (locked : Bool) {deprovisioned : Effect Exn σ Bool} (keeps : Keeps holds deprovisioned)
    (rawStatus : Json) (expired : List (Json × Datetime)) :
    Keeps holds (accountStatus locked deprovisioned rawStatus expired) := by
  rw [accountStatus]
  split
  · exact Keeps.pure _
  apply Keeps.bind keeps
  intro gone
  split
  · exact Keeps.pure _
  split
  · exact Keeps.pure _
  split <;> exact Keeps.pure _

theorem expiredPasswordLogins_keeps (principalList : Json) :
    Keeps holds (expiredPasswordLogins (σ := σ) principalList) := by
  apply Keeps.bind (now_keeps ticks)
  intro now
  exact Keeps.bind (Keeps.lift _) fun entries => Keeps.lift _

theorem userStatusFrom_keeps (settings : Settings) (config : Config) (body : Json) :
    Keeps holds (userStatusFrom (σ := σ) settings config body) := by
  refine Keeps.bind (Keeps.lift _) fun rawStatus => ?_
  refine Keeps.bind (Keeps.lift _) fun rawSecondaryStatus => ?_
  refine Keeps.bind (Keeps.lift _) fun principalList => ?_
  refine Keeps.bind (Keeps.lift _) fun roleBeans => ?_
  refine Keeps.bind (Keeps.lift _) fun groupBeans => ?_
  apply Keeps.bind (expiredPasswordLogins_keeps ticks _)
  intro expired
  refine Keeps.bind (Keeps.lift _) fun locked => ?_
  apply Keeps.bind (accountStatus_keeps _ (isDeprovisioned_keeps ticks _ _ _) _ _)
  intro status
  refine Keeps.bind (Keeps.lift _) fun login => ?_
  refine Keeps.bind (Keeps.lift _) fun passwordResetUrl => ?_
  split <;> exact Keeps.pure _

theorem auditlogPage_requests (subjectSub : String) (timeWindow : Timedelta) (actions : List String) (size : Int) :
    Contract holds (auditlogPage (σ := σ) subjectSub timeWindow actions size)
      (fun request world => holds world ∧ ∃ now, auditRequest now subjectSub timeWindow actions size = .ok request) holds := by
  apply Contract.bind (show Contract holds _ (fun _ => holds) holds from now_keeps ticks)
  intro now
  apply Contract.lift_bind (fun _ kept => kept)
  intro start before
  apply Contract.pure
  intro world kept
  refine ⟨kept,now,?_⟩
  rw [auditRequest,before]
  rfl

end Quiet

/-! ### The names read from an account -/

/-- The system that a login is for, if it names one. -/
def loginSystem (login : Json) : Option Json :=
  if (login.field "managedSys").truthy then some (login.field "managedSys") else none

theorem managedSysName_success {login : Json} {name : Option Json} (ok : managedSysName login = .ok name) :
    name = loginSystem login := by
  obtain ⟨value,read,ok⟩ := Raising.bind_success ok
  obtain ⟨object,rfl⟩ := Json.get_success read
  rw [loginSystem]
  split at ok
  next truthy =>
    have present : login.field "managedSys" ≠ .null := by
      intro null
      rw [null] at truthy
      cases truthy
    obtain ⟨named,item,ok⟩ := Raising.bind_success ok
    rw [Json.item_field present] at item
    obtain ⟨_,_,ok⟩ := Raising.bind_success ok
    rw [if_pos truthy,← Raising.pure_success ok,← Except.ok.inj item]
  next falsy => rw [if_neg falsy,Raising.pure_success ok]

theorem mem_nameSet {order : SetOrder} {names : List Json} {name : Json} (member : name ∈ nameSet order names) :
    name ∈ names := by
  have collected : ∀ found : List Json, (∀ kept ∈ found, kept ∈ names) → ∀ rest ⊆ names,
      ∀ kept ∈ rest.foldl (fun found name => if found.any name.sameKey then found else found ++ [name]) found,
        kept ∈ names := by
    intro found known rest
    induction rest generalizing found with
    | nil => exact fun _ => known
    | cons first rest ih =>
      intro inside
      obtain ⟨here,later⟩ := List.cons_subset.mp inside
      rw [List.foldl_cons]
      apply ih _ _ later
      split
      · exact known
      · intro kept member
        rcases List.mem_append.mp member with old | new
        · exact known kept old
        · rwa [List.mem_singleton.mp new]
  have member := (order.perm _).mem_iff.mp member
  exact collected [] (List.forall_mem_nil _) names (List.Subset.refl names) name member

/-- Every name in the set was read from a login of the answer. -/
theorem names_known {subjectSub : String} {order : SetOrder} {sent : List Sent} {response : Response}
    {body raw : Json} {entries names : List Json} (asked : ⟨userGet subjectSub,.ok response⟩ ∈ sent)
    (decoded : response.json = .ok body) (read : body.get "principalList" = .ok raw)
    (walked : raw.orEmpty.elements = .ok entries) (named : entries.filterMapM managedSysName = .ok names) :
    ∀ name ∈ nameSet order names, SystemKnown subjectSub sent name := by
  obtain ⟨_,rfl⟩ := Json.get_success read
  obtain rfl : entries = logins body := by
    rcases Json.elements_success walked with ⟨_,same⟩ | ⟨text,rest,rfl⟩
    · exact same
    · obtain ⟨_,first⟩ := Raising.succeeds_filterMapM.mp ⟨names,named⟩ (.str text) (by simp)
      simp [managedSysName,Json.get,Json.getD,bind,Except.bind] at first
  obtain rfl := Raising.filterMapM_success (fun _ _ => managedSysName_success) named
  intro name member
  obtain ⟨login,inside,found⟩ := List.mem_filterMap.mp (mem_nameSet member)
  rw [loginSystem] at found
  obtain ⟨truthy,same⟩ := Option.ite_none_right_eq_some.mp found
  obtain rfl := Option.some.inj same
  exact ⟨_,asked,rfl,response,body,rfl,decoded,login,inside,rfl,truthy⟩

/-! ### The lookups -/

theorem gather_keeps {α : Type} {holds : σ → Prop} {tasks : List (Effect Exn σ α)}
    (keeps : ∀ task ∈ tasks, Keeps holds task) : Keeps holds (gather tasks) := by
  induction tasks with
  | nil => exact Keeps.pure _
  | cons task rest ih =>
    intro world kept
    have first := (keeps task (by simp)).after kept
    have others := (ih fun task member => keeps task (by simp [member])).after first
    have ends : ((gather (task::rest)).exec world).2 = (gather rest).after (task.after world) := rfl
    rcases ran : (gather (task::rest)).exec world with ⟨raised | value,after⟩
    · rw [ran] at ends
      rwa [← ends] at others
    · rw [ran] at ends
      rwa [← ends] at others

section Connector
variable [Clock σ] (client : TokenClient σ) (settings : Settings) (setOrder : SetOrder) (subjectSub : String)

omit [Clock σ] in
/-- One dashboard is asked for, and the names stay known. -/
theorem checkManagedSystem_within {names : List Json} {name : Json} (member : name ∈ names) :
    Keeps (fun watched : Watched σ => Within subjectSub watched ∧ ∀ name ∈ names, SystemKnown subjectSub watched.sent name)
      (checkManagedSystem client.watched name) := by
  refine Keeps.bind ?_ fun response => ?_
  · rintro ⟨world,sent⟩ ⟨confined,known⟩
    rw [TokenClient.watched_exec]
    have later : ∀ answer, ∀ other ∈ names, SystemKnown subjectSub (sent ++ [⟨dashboardSearch name,answer⟩]) other :=
      fun answer other inside => (known other inside).extend
    have permitted := Permitted.system (known name member)
    rcases (client.authorizedGet (dashboardSearch name)).exec world with ⟨raised | response,after⟩
    · exact ⟨Confined.sent confined permitted,later _⟩
    · exact ⟨Confined.sent confined permitted,later _⟩
  · split
    · exact Keeps.pure _
    refine Keeps.bind (Keeps.lift _) fun body => ?_
    exact Keeps.bind (Keeps.lift _) fun reply => Keeps.pure _

theorem checkAvailability_within :
    Keeps (Within subjectSub) (checkAvailability ⟨settings,setOrder,client.watched⟩ subjectSub) := by
  have quiet {α : Type} (outcome : Except Exn α) : Keeps (Within (σ := σ) subjectSub) (liftM outcome) := Keeps.lift _
  have dated (result : Datetime → AvailabilityResult) :
      Keeps (Within (σ := σ) subjectSub) (do return result (← datetimeNow)) :=
    Keeps.bind (now_keeps fun _ confined => confined) fun _ => Keeps.pure _
  apply Contract.bind
  · exact (ask_permitted client subjectSub (userGet subjectSub)).consequence
      (fun _ confined => ⟨confined,Permitted.account⟩) (fun _ _ answered => answered) (fun _ confined => confined)
  intro response
  split
  · exact (dated _).consequence (fun _ answered => answered.1) (fun _ _ kept => kept) (fun _ kept => kept)
  refine Contract.lift_bind (fun _ answered => answered.1) fun body decoded => ?_
  refine Contract.lift_bind (fun _ answered => answered.1) fun raw read => ?_
  refine Contract.lift_bind (fun _ answered => answered.1) fun entries walked => ?_
  refine Contract.lift_bind (fun _ answered => answered.1) fun names named => ?_
  have known : ∀ watched : Watched σ, Within subjectSub watched ∧ ⟨userGet subjectSub,.ok response⟩ ∈ watched.sent →
      Within subjectSub watched ∧ ∀ name ∈ nameSet setOrder names, SystemKnown subjectSub watched.sent name :=
    fun watched answered => ⟨answered.1,names_known answered.2 decoded read walked named⟩
  dsimp only
  split
  · exact (dated _).consequence (fun _ answered => answered.1) (fun _ _ kept => kept) (fun _ kept => kept)
  refine Contract.bind (?_ : Contract _ _ (fun _ => Within subjectSub) _) ?_
  · apply (gather_keeps ?_).consequence known (fun _ _ kept => kept.1) (fun _ kept => kept.1)
    intro task member
    obtain ⟨name,inside,rfl⟩ := List.mem_map.mp member
    exact checkManagedSystem_within client subjectSub inside
  intro results
  split
  · refine Keeps.bind (quiet _) fun names => dated _
  · exact dated _

theorem getUserStatus_within (config : Config) :
    Keeps (Within subjectSub) (getUserStatus ⟨settings,setOrder,client.watched⟩ config subjectSub) := by
  apply ask_bind client subjectSub fun _ => Permitted.account
  intro response
  split
  · exact Keeps.pure _
  · exact Keeps.bind (Keeps.lift _) fun body => userStatusFrom_keeps (fun _ confined => confined) settings config body

omit [Clock σ] in
theorem getEffectivePermissions_within :
    Keeps (Within subjectSub) (getEffectivePermissions ⟨settings,setOrder,client.watched⟩ subjectSub) := by
  apply ask_bind client subjectSub fun _ => Permitted.account
  intro response
  split
  · exact Keeps.pure _
  · exact Keeps.bind (Keeps.lift _) fun body => Keeps.lift _

/-- A search of the audit log, where its window is a permitted one. -/
theorem auditlog_within {α : Type} {timeWindow : Timedelta} {actions : List String} {size : Int}
    {parse : Json → Except Exn (Option α)} (permitted : ∀ now request before,
      auditRequest now subjectSub timeWindow actions size = .ok request → Permitted subjectSub before request) :
    Keeps (Within subjectSub) (do
      let request ← auditlogPage subjectSub timeWindow actions size
      let response ← client.watched.authorizedGet request
      if response.failed then return []
      else
        let body ← response.json
        Effect.lift (beansFrom parse body)) := by
  apply Contract.bind (auditlogPage_requests (fun _ confined => confined) subjectSub timeWindow actions size)
  intro request
  apply Contract.bind
  · apply (ask_permitted client subjectSub request).consequence ?_ (fun _ _ answered => answered.1) fun _ kept => kept
    rintro watched ⟨confined,now,window⟩
    exact ⟨confined,permitted now request _ window⟩
  intro response
  split
  · exact Keeps.pure _
  · exact Keeps.bind (Keeps.lift _) fun body => Keeps.lift _

theorem connector_preserves (connectorId : String) (config : Config) :
    (connector ⟨settings,setOrder,client.watched⟩ connectorId config).Preserves subjectSub (Within subjectSub) where
  ticks _ confined := confined
  checkAvailability := checkAvailability_within client settings setOrder subjectSub
  getUserStatus := getUserStatus_within client settings setOrder subjectSub config
  getAuthEvents := auditlog_within client subjectSub fun _ _ _ => Permitted.signIns
  getEffectivePermissions _ := getEffectivePermissions_within client settings setOrder subjectSub
  getRequiredPermissions _ := Keeps.pure _
  getPermissionAuditEvents := auditlog_within client subjectSub fun _ _ _ => Permitted.grantChanges

/-- A diagnosis asks for nothing but the record of its subject, the systems named in that record,
and the subject's own entries in the audit log, whatever is answered and whatever raises. -/
theorem diagnosis_confined (connectorId : String) (config : Config) (world : σ) (request : DiagnosticRequest)
    (principal : Principal) (correlationId : String) (perStepTimeout : Timedelta) :
    Confined request.subjectSub (DiagnosticOrchestrator.run.after ⟨⟨world,[]⟩,.fresh request principal
      (connector ⟨settings,setOrder,client.watched⟩ connectorId config) correlationId perStepTimeout⟩).world.sent := by
  have preserves := connector_preserves client settings setOrder request.subjectSub connectorId config
  have keeps : Keeps (DiagnosticOrchestrator.Inside _ request (Within request.subjectSub)) DiagnosticOrchestrator.run :=
    DiagnosticOrchestrator.run_keeps preserves
  exact (keeps.after ⟨Confined.nil,rfl,rfl⟩).1

end Connector

end AccessAgent.OpenIAM
