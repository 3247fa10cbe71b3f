import AccessAgent.OpenIAM.UserRecord
import AccessAgent.AccessOutcome

/-! The end dates of the grants, read twice: by the account check from the record itself, and
by the authorization check from the permissions made of it. -/

namespace AccessAgent.OpenIAM
open Semantics Raising Step4Authorization

variable {σ : Type} [Clock σ]

/-- A body whose grants have names; their dates are of any kind. -/
structure GrantRecord where
  body : Json
  object : body.isObject = true
  roleBeans : (body.field "roleBeans").Records
  groupBeans : (body.field "groupBeans").Records
  name : ∀ bean ∈ grants body, ∃ name, bean.field "name" = .str name
  source : ∀ bean ∈ grants body, (bean.field "managedSysName").optional = true

/-! ### The permissions of a record -/

def textOf : Json → Option String
  | .str text => some text
  | _ => none

def permissionOf (kind : String) (bean : Json) : EffectivePermission :=
  ⟨kind,(bean.field "name").pyStr,textOf (bean.field "managedSysName"),parseEndDate (bean.field "accessRightEndDate")⟩

theorem optionalText_ok {value : Json} (optional : value.optional = true) : value.optionalText = .ok (textOf value) := by
  cases value <;> first | rfl | simp [Json.optional] at optional

theorem roleOrGroup_ok {kind : String} {bean : Json} {name : String} (object : bean.isObject = true)
    (named : bean.field "name" = .str name) (source : (bean.field "managedSysName").optional = true) :
    roleOrGroup kind bean = .ok (permissionOf kind bean) := by
  rw [permissionOf,named]
  refine bind_ok.mpr ⟨_,Json.item_field (by simp [named]),bind_ok.mpr ⟨_,Json.get_field object _,?_⟩⟩
  refine bind_ok.mpr ⟨_,Json.get_field object _,?_⟩
  rw [named]
  exact bind_ok.mpr ⟨name,rfl,bind_ok.mpr ⟨_,optionalText_ok source,rfl⟩⟩

namespace GrantRecord
variable (record : GrantRecord)

def permissions : List EffectivePermission :=
  (record.body.listed "roleBeans").map (permissionOf "role") ++ (record.body.listed "groupBeans").map (permissionOf "group")

theorem effectivePermissionsFrom_ok : effectivePermissionsFrom record.body = .ok record.permissions := by
  have roles : (record.body.listed "roleBeans").mapM (roleOrGroup "role") = .ok _ := mapM_ok fun bean member => by
    have grant : bean ∈ grants record.body := List.mem_append_left _ member
    obtain ⟨name,named⟩ := record.name bean grant
    exact roleOrGroup_ok (record.roleBeans.2 bean member) named (record.source bean grant)
  have groups : (record.body.listed "groupBeans").mapM (roleOrGroup "group") = .ok _ := mapM_ok fun bean member => by
    have grant : bean ∈ grants record.body := List.mem_append_right _ member
    obtain ⟨name,named⟩ := record.name bean grant
    exact roleOrGroup_ok (record.groupBeans.2 bean member) named (record.source bean grant)
  rw [effectivePermissionsFrom,Json.get_field record.object,Json.get_field record.object]
  change ((record.body.field "roleBeans").orEmpty.elements >>= _) = _
  rw [Json.orEmpty_elements record.roleBeans.1]
  change ((record.body.listed "roleBeans").mapM (roleOrGroup "role") >>= _) = _
  rw [roles]
  change ((record.body.field "groupBeans").orEmpty.elements >>= _) = _
  rw [Json.orEmpty_elements record.groupBeans.1]
  change ((record.body.listed "groupBeans").mapM (roleOrGroup "group") >>= _) = _
  rw [groups]
  rfl

theorem mem_permissions {permission : EffectivePermission} :
    permission ∈ record.permissions → ∃ kind, ∃ bean ∈ grants record.body, permission = permissionOf kind bean := by
  intro member
  rcases List.mem_append.mp member with role | group
  · obtain ⟨bean,inside,rfl⟩ := List.mem_map.mp role
    exact ⟨_,bean,List.mem_append_left _ inside,rfl⟩
  · obtain ⟨bean,inside,rfl⟩ := List.mem_map.mp group
    exact ⟨_,bean,List.mem_append_right _ inside,rfl⟩

theorem permission_of_grant {bean : Json} (member : bean ∈ grants record.body) :
    ∃ kind, permissionOf kind bean ∈ record.permissions := by
  rcases List.mem_append.mp member with role | group
  · exact ⟨_,List.mem_append_left _ (List.mem_map_of_mem role)⟩
  · exact ⟨_,List.mem_append_right _ (List.mem_map_of_mem group)⟩

theorem dated_iff (now : UtcNow) : Dated now.value record.permissions ↔
    ∀ bean ∈ grants record.body, ¬Naive (bean.field "accessRightEndDate") := by
  constructor
  · intro dated bean member naive
    obtain ⟨kind,granted⟩ := record.permission_of_grant member
    obtain ⟨date,parsed,different⟩ := (clashes_utcNow now _).mpr naive
    exact different (dated _ granted date parsed)
  · intro offsets permission member date bounded
    obtain ⟨kind,bean,inside,rfl⟩ := record.mem_permissions member
    by_contra different
    exact offsets bean inside ((clashes_utcNow now _).mp ⟨date,bounded,different⟩)

end GrantRecord

/-! ### Against an end date -/

/-- The grant ends at this very instant. -/
def EndsAt (now : Datetime) (bean : Json) : Prop :=
  ∃ date, parseEndDate (bean.field "accessRightEndDate") = some date ∧ date.aware = now.aware ∧ date.instant = now.instant

theorem ended_iff {now : Datetime} {bean : Json} :
    Ended now bean ↔ ∃ date, parseEndDate (bean.field "accessRightEndDate") = some date ∧ Datetime.order.Before date now := by
  rw [Ended,pastDate,Option.isSome_filter]
  cases parseEndDate (bean.field "accessRightEndDate") with
  | none => simp
  | some date =>
    simp only [Option.any_some,Bool.and_eq_true,beq_iff_eq,decide_eq_true_eq,Option.some.injEq,exists_eq_left']
    rfl

theorem ended_before_end {now : Datetime} {bean : Json} (ended : Ended now bean) : ¬EndsAt now bean := by
  rintro ⟨date,parsed,_,instant⟩
  obtain ⟨other,again,_,before⟩ := ended_iff.mp ended
  obtain rfl := Option.some.inj (parsed.symm.trans again)
  change date.instant < now.instant at before
  omega

theorem inForce_permissionOf {now : Datetime} {kind : String} {bean : Json}
    (comparable : ¬Clashes now (bean.field "accessRightEndDate")) :
    InForce now (permissionOf kind bean) ↔ ¬(Ended now bean ∨ EndsAt now bean) := by
  rw [InForce,permissionOf,ended_iff,EndsAt]
  cases parsed : parseEndDate (bean.field "accessRightEndDate") with
  | none => simp
  | some date =>
    have same : date.aware = now.aware := by
      by_contra different
      exact comparable ⟨date,parsed,different⟩
    have rank : ∀ date, Datetime.order.rank date = date.instant := fun date => rfl
    have kind : ∀ date, Datetime.order.kind date = date.aware := fun date => rfl
    simp only [Option.some.injEq,exists_eq_left',Comparison.Before,rank,kind,same,true_and]
    omega

/-! ### The two readings -/

theorem deprovisioned_iff {now : Datetime} {roleBeans groupBeans : Json} (roles : roleBeans.Records) (groups : groupBeans.Records)
    (comparable : ∀ bean ∈ roleBeans.items ++ groupBeans.items, ¬Clashes now (bean.field "accessRightEndDate")) :
    deprovisionedAt now (.arr []) roleBeans.orEmpty groupBeans.orEmpty = .ok true ↔
      roleBeans.items ++ groupBeans.items ≠ [] ∧ ∀ bean ∈ roleBeans.items ++ groupBeans.items, Ended now bean := by
  obtain ⟨gone,ok⟩ : Succeeds (deprovisionedAt now (.arr []) roleBeans.orEmpty groupBeans.orEmpty) := by
    rw [Json.orEmpty_items roles.1,Json.orEmpty_items groups.1]
    change Succeeds (if (Json.arr (roleBeans.items ++ groupBeans.items)).truthy = true then
      (roleBeans.items ++ groupBeans.items).allM (endDated now) else pure false)
    split
    · refine succeeds_allM.mpr ?_
      intro before bean after shape _
      have member : bean ∈ roleBeans.items ++ groupBeans.items := by simp [shape]
      refine succeeds_endDated.mpr ⟨?_,comparable bean member⟩
      rcases List.mem_append.mp member with role | group
      · exact roles.2 bean role
      · exact groups.2 bean group
    · exact succeeds_pure false
  have rule := @deprovisionedAt_success now (.arr []) roleBeans groupBeans gone ok
  rw [ok,Except.ok.injEq,rule]
  simp [Json.items]

/-- A record whose end dates carry an offset, are missing or cannot be parsed. -/
structure OffsetGrants extends GrantRecord where
  offsets : ∀ bean ∈ grants body, ¬Naive (bean.field "accessRightEndDate")

namespace OffsetGrants
variable (record : OffsetGrants)

theorem comparable (now : UtcNow) : ∀ bean ∈ grants record.body, ¬Clashes now.value (bean.field "accessRightEndDate") :=
  fun bean member clash => record.offsets bean member ((clashes_utcNow now _).mp clash)

theorem dated (now : UtcNow) : Dated now.value record.permissions := (record.dated_iff now).mpr record.offsets

/-- Nothing is held when every grant has ended or ends at this instant. -/
theorem heldNames_empty (now : UtcNow) : heldNames now.value record.permissions = .ok [] ↔
    ∀ bean ∈ grants record.body, Ended now.value bean ∨ EndsAt now.value bean := by
  obtain ⟨names,ok⟩ := succeeds_heldNames.mpr (record.dated now)
  rw [ok,Except.ok.injEq,List.eq_nil_iff_forall_not_mem]
  simp only [heldNames_success ok]
  constructor
  · intro none bean member
    by_contra lasting
    obtain ⟨kind,granted⟩ := record.permission_of_grant member
    exact none _ ⟨_,granted,(inForce_permissionOf (record.comparable now bean member)).mpr lasting,rfl⟩
  · rintro lapsed name ⟨permission,member,inForce,_⟩
    obtain ⟨kind,bean,inside,rfl⟩ := record.mem_permissions member
    exact (inForce_permissionOf (record.comparable now bean inside)).mp inForce (lapsed bean inside)

/-- The account check finds the user's grants over exactly when the authorization check
finds none held. -/
def ReadingsAgree (settings : Settings) (setOrder : SetOrder) (subjectSub : String) (world : σ) : Prop :=
  ((isDeprovisioned (.arr []) (record.body.field "roleBeans").orEmpty (record.body.field "groupBeans").orEmpty).answer
      world = .ok true) ↔
    grants record.body ≠ [] ∧ ∃ effective, heldNames (Clock.now world).1.value effective = .ok [] ∧
      (getEffectivePermissions ⟨settings,setOrder,answering fun _ => ⟨200,.ok record.body⟩⟩ subjectSub).answer world =
        .ok effective

omit [Clock σ] in
theorem getEffectivePermissions_answer (settings : Settings) (setOrder : SetOrder) (subjectSub : String) (world : σ) :
    (getEffectivePermissions ⟨settings,setOrder,answering fun _ => ⟨200,.ok record.body⟩⟩ subjectSub).answer world =
      .ok record.permissions := by
  change (Effect.lift (effectivePermissionsFrom record.body)).answer world = _
  rw [Effect.answer_lifted,record.effectivePermissionsFrom_ok]

/-- The two readings differ at one instant only: when the last grants end. -/
theorem readings_agree_iff (settings : Settings) (setOrder : SetOrder) (subjectSub : String) (world : σ) :
    record.ReadingsAgree settings setOrder subjectSub world ↔
      ¬((∀ bean ∈ grants record.body, Ended (Clock.now world).1.value bean ∨ EndsAt (Clock.now world).1.value bean) ∧
        ∃ bean ∈ grants record.body, EndsAt (Clock.now world).1.value bean) := by
  have gone := deprovisioned_iff record.roleBeans record.groupBeans (record.comparable (Clock.now world).1)
  change _ ↔ grants record.body ≠ [] ∧ ∀ bean ∈ grants record.body, Ended (Clock.now world).1.value bean at gone
  rw [ReadingsAgree,isDeprovisioned_answer,gone,record.getEffectivePermissions_answer]
  simp only [Except.ok.injEq,exists_eq_right',record.heldNames_empty]
  constructor
  · rintro agree ⟨lapsed,bean,member,here⟩
    have ended := (agree.mpr ⟨List.ne_nil_of_mem member,lapsed⟩).2 bean member
    exact ended_before_end ended here
  · intro apart
    refine and_congr_right fun _ => ⟨fun ended bean member => Or.inl (ended bean member),?_⟩
    intro lapsed bean member
    rcases lapsed bean member with ended | here
    · exact ended
    · exact absurd ⟨lapsed,bean,member,here⟩ apart

end OffsetGrants

def endingNow : Json :=
  .obj [("roleBeans",.arr [.obj [("name",.str "APP_USER"),("accessRightEndDate",.str "1970-01-01T00:00:00Z")]])]

/-- At its end instant a grant is no longer held, and the user is not deprovisioned. -/
theorem ending_now_differs : ∃ record : OffsetGrants, record.body = endingNow ∧
    ¬record.ReadingsAgree ⟨"",[]⟩ .insertion "u-1" () := by
  have dates : parseEndDate (.str "1970-01-01T00:00:00Z") = some (default : UtcNow).value := by decide
  refine ⟨⟨⟨endingNow,rfl,?_,?_,?_,?_⟩,?_⟩,rfl,?_⟩
  · exact ⟨rfl,by simp [endingNow,Json.field,Json.find,Json.items,Json.isObject]⟩
  · exact ⟨rfl,by simp [endingNow,Json.field,Json.find,Json.items]⟩
  · simp [grants,Json.listed,endingNow,Json.field,Json.find,Json.items]
  · simp [grants,Json.listed,endingNow,Json.field,Json.find,Json.items,Json.optional]
  · rintro bean member ⟨date,parsed,naive⟩
    obtain rfl : bean = .obj [("name",.str "APP_USER"),("accessRightEndDate",.str "1970-01-01T00:00:00Z")] := by
      simpa [grants,Json.listed,endingNow,Json.field,Json.find,Json.items] using member
    obtain rfl := Option.some.inj (dates.symm.trans parsed)
    exact absurd naive (by decide)
  · intro agree
    have gone := agree.mpr ⟨List.cons_ne_nil _ _,_,rfl,rfl⟩
    exact absurd (Except.ok.inj gone) (by decide)

end AccessAgent.OpenIAM
