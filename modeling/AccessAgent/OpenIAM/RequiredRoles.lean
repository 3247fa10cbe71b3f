import AccessAgent.OpenIAM.CheckRuns
import AccessAgent.OpenIAM.GrantDates

/-! The roles that a policy declares for a resource, and those that the check asks for: the
connector stops at the first entry of the map. -/

namespace AccessAgent.OpenIAM
open Semantics Raising Step4Authorization

/-- The roles of every entry for the resource. -/
def declaredRoles (resource : String) (entries : List RolePermissionMapping) : List String :=
  (entries.filter fun entry => entry.resource = resource).flatMap RolePermissionMapping.requiredRoles

def requiredRoles (resource : String) (entries : List RolePermissionMapping) : List String :=
  (requiredPermissions resource entries).map RequiredPermission.name

/-- The first entry for the resource lists the role. -/
def ListedFirst (resource : String) (entries : List RolePermissionMapping) (role : String) : Prop :=
  ∃ entry, entries.find? (fun entry => entry.resource = resource) = some entry ∧ role ∈ entry.requiredRoles

/-- Only the first entry for the resource is read. -/
theorem mem_requiredRoles {resource role : String} {entries : List RolePermissionMapping} :
    role ∈ requiredRoles resource entries ↔ ListedFirst resource entries role := by
  induction entries with
  | nil => simp [requiredRoles,requiredPermissions,ListedFirst]
  | cons entry rest ih =>
    rw [requiredRoles,requiredPermissions,ListedFirst,List.find?_cons]
    split
    next same => simp [same]
    next other =>
      rw [decide_eq_false other]
      exact ih

variable {σ : Type} [Clock σ]

/-! ### The check over the connector of a policy -/

/-- A diagnosis over the connector that is configured from the policy. -/
def policyDiagnosis (env : Environment σ) (policy : SystemPolicy) (ctx : DiagnosticContext σ) (world : σ) : Diagnosis σ :=
  ⟨world,{ctx with connector := connector env policy.systemId policy.config}⟩

/-- The subject holds a grant of the name at the time of the check. -/
def CurrentlyHolds (env : Environment σ) (subjectSub : String) (world : σ) (name : String) : Prop :=
  ∃ effective, (getEffectivePermissions env subjectSub).answer world = .ok effective ∧
    Held (Clock.now ((getEffectivePermissions env subjectSub).after world)).1.value effective name

/-- A check that passes has found every role asked for. -/
theorem passed_holds {env : Environment σ} {policy : SystemPolicy} {ctx : DiagnosticContext σ} {world : σ}
    {verdict : VerdictResult} (ok : run.answer (policyDiagnosis env policy ctx world) = .ok verdict)
    (passed : verdict.status = .pass) :
    ∀ role ∈ requiredRoles (ctx.request.systemId ++ ":default") policy.rolePermissionMap,
      CurrentlyHolds env ctx.request.subjectSub world role := by
  intro role asked
  have verdicts := @run_answer σ _ (policyDiagnosis env policy ctx world)
    (requiredPermissions (ctx.request.systemId ++ ":default") policy.rolePermissionMap) world rfl
  dsimp only at verdicts
  have required : requiredPermissions (ctx.request.systemId ++ ":default") policy.rolePermissionMap ≠ [] := by
    intro none
    rw [requiredRoles,none] at asked
    cases asked
  rw [verdicts,if_neg required] at ok
  obtain ⟨effective,granted,ok⟩ := bind_success ok
  obtain ⟨⟨missing,expired⟩,assessed,ok⟩ := bind_success ok
  obtain ⟨auditEvents,_,ok⟩ := bind_success ok
  obtain ⟨conclusion,concluded,ok⟩ := bind_success ok
  have result := pure_success ok
  refine ⟨effective,granted,?_⟩
  have complete : missing = [] := by
    rcases conclude_success concluded with ⟨none,_⟩ | ⟨_,failed,_⟩
    · exact none
    · rw [← result] at passed
      exact nomatch failed.symm.trans passed
  by_contra absent
  obtain ⟨permission,member,named⟩ := List.mem_map.mp asked
  have lacking := (assess_success assessed role).mpr ⟨⟨permission,member,named⟩,absent⟩
  rw [complete] at lacking
  cases lacking

/-! ### An account that holds some roles -/

def roleBean (role : String) : Json := .obj [("name",.str role)]

/-- The record of a user who holds the roles, without an end. -/
def requiredRecord (roles : List String) : GrantRecord where
  body := .obj [("roleBeans",.arr (roles.map roleBean))]
  object := rfl
  roleBeans := by
    refine ⟨rfl,?_⟩
    intro bean member
    obtain ⟨role,_,rfl⟩ := List.mem_map.mp member
    rfl
  groupBeans := ⟨rfl,by simp [Json.field,Json.find,Json.items]⟩
  name := by
    intro bean member
    obtain ⟨role,_,rfl⟩ : ∃ role ∈ roles, roleBean role = bean := by
      simpa [grants,Json.listed,Json.field,Json.find,Json.items] using member
    exact ⟨role,rfl⟩
  source := by
    intro bean member
    obtain ⟨role,_,rfl⟩ : ∃ role ∈ roles, roleBean role = bean := by
      simpa [grants,Json.listed,Json.field,Json.find,Json.items] using member
    rfl

theorem requiredRecord_permissions (roles : List String) :
    (requiredRecord roles).permissions = roles.map fun role => ⟨"role",role,none,none⟩ := by
  simp only [GrantRecord.permissions,requiredRecord,Json.listed,Json.field,Json.find,Json.items]
  simp [roleBean,permissionOf,Json.field,Json.find,Json.pyStr,textOf,parseEndDate]

theorem requiredRecord_dated (roles : List String) (now : Datetime) : Dated now (requiredRecord roles).permissions := by
  intro permission member date bounded
  rw [requiredRecord_permissions] at member
  obtain ⟨role,_,rfl⟩ := List.mem_map.mp member
  cases bounded

theorem requiredRecord_held (roles : List String) (now : Datetime) (role : String) :
    Held now (requiredRecord roles).permissions role ↔ role ∈ roles := by
  rw [requiredRecord_permissions]
  simp [Held,InForce]

/-- The account and an empty audit log. -/
def roleAnswers (roles : List String) : Request → Response := served ⟨200,.ok (requiredRecord roles).body⟩ fun _ => []

def quietContext (connector : ConnectorSPI Unit) (systemId : String) : DiagnosticContext Unit :=
  .fresh ⟨"c-1","u-1","u-1",systemId,.permissionDenied,"no access"⟩ ⟨"u-1",[]⟩ connector "c-1" defaultPerStepTimeout

theorem authorizationVerdict_complete (connectorId : String) (evaluatedAt : Datetime) (expired : Dictionary String Datetime) :
    authorizationVerdict connectorId evaluatedAt [] expired [] = .ok (verdictOf connectorId evaluatedAt ⟨.pass,none,none⟩) := rfl

/-- A user who holds the roles asked for passes the check. -/
theorem requiredRecord_passes (settings : Settings) (setOrder : SetOrder) (policy : SystemPolicy) (ctx : DiagnosticContext Unit) :
    ∃ verdict, run.answer (policyDiagnosis ⟨settings,setOrder,
      answering (roleAnswers (requiredRoles (ctx.request.systemId ++ ":default") policy.rolePermissionMap))⟩ policy ctx ()) =
        .ok verdict ∧ verdict.status = .pass := by
  let roles := requiredRoles (ctx.request.systemId ++ ":default") policy.rolePermissionMap
  obtain ⟨evaluatedAt,verdict⟩ := step4_answer settings setOrder (roleAnswers roles) policy.config policy.systemId ctx ()
  refine ⟨verdictOf policy.systemId evaluatedAt ⟨.pass,none,none⟩,verdict.trans ?_,rfl⟩
  split
  next none => rfl
  next asked =>
    have granted : grantsAnswer (roleAnswers roles (userGet ctx.request.subjectSub)) = .ok (requiredRecord roles).permissions :=
      (requiredRecord roles).effectivePermissionsFrom_ok
    obtain ⟨⟨missing,expired⟩,assessed⟩ : Succeeds (assess (default : UtcNow).value
      (requiredPermissions (ctx.request.systemId ++ ":default") policy.rolePermissionMap) (requiredRecord roles).permissions) :=
      succeeds_assess.mpr (requiredRecord_dated roles _)
    have complete : missing = [] := by
      rw [List.eq_nil_iff_forall_not_mem]
      intro name lacking
      obtain ⟨⟨permission,member,rfl⟩,absent⟩ := (assess_success assessed name).mp lacking
      exact absent ((requiredRecord_held roles _ _).mpr (List.mem_map_of_mem member))
    subst complete
    have quiet : auditEvents (roleAnswers roles) parsePermissionAuditEvent (grantChangeActions ++ syncActions) 50
        ctx.request.subjectSub auditLookback (default : UtcNow).value = .ok [] := by
      obtain ⟨start,shifted⟩ : ∃ start, (default : UtcNow).value.minus auditLookback = .ok start := ⟨_,rfl⟩
      rw [roleAnswers,auditEvents_served,auditRequest,shifted]
      rfl
    rw [granted]
    change (assess (default : UtcNow).value (requiredPermissions (ctx.request.systemId ++ ":default")
      policy.rolePermissionMap) (requiredRecord roles).permissions >>= _) = _
    rw [assessed,ok_bind]
    change (auditEvents (roleAnswers roles) parsePermissionAuditEvent (grantChangeActions ++ syncActions) 50
      ctx.request.subjectSub auditLookback (default : UtcNow).value >>= _) = _
    rw [quiet]
    exact authorizationVerdict_complete _ _ expired

/-! ### When a pass means that every declared role is held -/

/-- In every run of the check for the system of the policy: a pass is given to a subject who
holds each role declared for the system's resource. -/
def RolesEnforced (policy : SystemPolicy) : Prop :=
  ∀ (σ : Type) [Clock σ] (env : Environment σ) (ctx : DiagnosticContext σ) (world : σ) (verdict : VerdictResult),
    ctx.request.systemId = policy.systemId → run.answer (policyDiagnosis env policy ctx world) = .ok verdict →
    verdict.status = .pass → ∀ role ∈ declaredRoles (policy.systemId ++ ":default") policy.rolePermissionMap,
      CurrentlyHolds env ctx.request.subjectSub world role

theorem roleAnswers_holds {roles : List String} {subjectSub role : String}
    (holds : CurrentlyHolds ⟨⟨"",[]⟩,.insertion,answering (roleAnswers roles)⟩ subjectSub () role) : role ∈ roles := by
  obtain ⟨effective,granted,held⟩ := holds
  have known : (getEffectivePermissions ⟨⟨"",[]⟩,.insertion,answering (roleAnswers roles)⟩ subjectSub).answer () =
      .ok (requiredRecord roles).permissions := by
    rw [Effect.answer,getEffectivePermissions_exec]
    exact (requiredRecord roles).effectivePermissionsFrom_ok
  obtain rfl := Except.ok.inj (known.symm.trans granted)
  exact (requiredRecord_held roles _ role).mp held

/-- The declared roles are enforced exactly if the first entry for the resource lists each of them. -/
theorem roles_enforced_iff (policy : SystemPolicy) : RolesEnforced policy ↔
    ∀ role ∈ declaredRoles (policy.systemId ++ ":default") policy.rolePermissionMap,
      ListedFirst (policy.systemId ++ ":default") policy.rolePermissionMap role := by
  constructor
  · intro enforced role declared
    let ctx := quietContext (stillConnector (fun _ => none) .up) policy.systemId
    obtain ⟨verdict,ok,passed⟩ := requiredRecord_passes ⟨"",[]⟩ .insertion policy ctx
    exact mem_requiredRoles.mp (roleAnswers_holds (enforced Unit _ ctx () verdict rfl ok passed role declared))
  · intro covered σ _ env ctx world verdict system ok passed role declared
    have holds := passed_holds ok passed
    rw [system] at holds
    exact holds role (mem_requiredRoles.mpr (covered role declared))

/-- Two entries for one resource. -/
def twoEntries : SystemPolicy where
  systemId := "openiam"
  connector := ⟨"openiam",none,"secret/connectors/openiam/admin",10,[]⟩
  healthEndpoint := none
  rolePermissionMap := [⟨"openiam:default",["APP_USER"]⟩,⟨"openiam:default",["APP_AUDITOR"]⟩]

/-- A user without the role of the second entry passes. -/
theorem second_entry_ignored : ∃ (env : Environment Unit) (ctx : DiagnosticContext Unit) (verdict : VerdictResult),
    run.answer (policyDiagnosis env twoEntries ctx ()) = .ok verdict ∧ verdict.status = .pass ∧
    "APP_AUDITOR" ∈ declaredRoles "openiam:default" twoEntries.rolePermissionMap ∧
    ¬CurrentlyHolds env ctx.request.subjectSub () "APP_AUDITOR" ∧ ¬RolesEnforced twoEntries := by
  let ctx := quietContext (stillConnector (fun _ => none) .up) "openiam"
  obtain ⟨verdict,ok,passed⟩ := requiredRecord_passes ⟨"",[]⟩ .insertion twoEntries ctx
  have lacking : ¬CurrentlyHolds ⟨⟨"",[]⟩,.insertion,answering (roleAnswers ["APP_USER"])⟩ ctx.request.subjectSub ()
      "APP_AUDITOR" := fun holds => absurd (roleAnswers_holds holds) (by decide)
  have declared : "APP_AUDITOR" ∈ declaredRoles "openiam:default" twoEntries.rolePermissionMap := by decide
  exact ⟨_,ctx,verdict,ok,passed,declared,lacking,
    fun enforced => lacking (enforced Unit _ ctx () verdict rfl ok passed "APP_AUDITOR" declared)⟩

end AccessAgent.OpenIAM
