import AccessAgent.Authorization

/-! What the fourth check decides. A required name is missing when no grant that
is in force carries it; the overall cause is `access_revoked` exactly when one of
the missing names was revoked. -/

namespace AccessAgent.Step4Authorization
open Semantics

def InForce (now : Datetime) (permission : EffectivePermission) : Prop :=
  match permission.endDate with
  | none => True
  | some endDate => Datetime.order.Before now endDate

def Held (now : Datetime) (effective : List EffectivePermission) (name : String) : Prop :=
  ∃ permission ∈ effective, InForce now permission ∧ permission.name = name

def Missing (now : Datetime) (required : List RequiredPermission) (effective : List EffectivePermission)
    (name : String) : Prop :=
  (∃ permission ∈ required, permission.name = name) ∧ ¬Held now effective name

def Revoked (auditEvents : List PermissionAuditEvent) (name : String) : Prop :=
  ∃ event ∈ auditEvents, event.action ∈ revokeActions ∧ name ∈ event.targetNames

theorem currentlyHeld_success {now : Datetime} {permission : EffectivePermission} {held : Bool}
    (ok : currentlyHeld now permission = .ok held) : held = true ↔ InForce now permission := by
  rw [currentlyHeld] at ok
  split at ok
  next unbounded => simp [InForce,unbounded,← Except.ok.inj ok]
  next endDate bounded =>
    obtain ⟨same,result⟩ := (Datetime.order.greater_ok _ _ _).mp ok
    rw [result,decide_eq_true_iff,InForce,bounded]
    exact ⟨fun later => ⟨same.symm,later⟩,fun before => before.2⟩

theorem heldNames_success {now : Datetime} {effective : List EffectivePermission} {names : List String}
    (ok : heldNames now effective = .ok names) (name : String) :
    name ∈ names ↔ Held now effective name := by
  induction effective generalizing names with
  | nil =>
    cases ok
    simp [Held]
  | cons permission rest ih =>
    rw [heldNames] at ok
    obtain ⟨held,first,ok⟩ := Raising.bind_success ok
    obtain ⟨later,others,ok⟩ := Raising.bind_success ok
    have inForce := currentlyHeld_success first
    have member := ih others
    rw [← Raising.pure_success ok]
    cases held with
    | true =>
      have now : InForce now permission := inForce.mp rfl
      simp only [if_true,List.mem_cons,member]
      simp only [Held,List.exists_mem_cons_iff,now,true_and,eq_comm]
    | false =>
      have lapsed : ¬InForce now permission := fun holds => nomatch inForce.mpr holds
      simp only [Bool.false_eq_true,if_false,member]
      simp only [Held,List.exists_mem_cons_iff,lapsed,false_and,false_or]

theorem assess_success {now : Datetime} {required : List RequiredPermission}
    {effective : List EffectivePermission} {missing : List String} {expired : Dictionary String Datetime}
    (ok : assess now required effective = .ok (missing,expired)) (name : String) :
    name ∈ missing ↔ Missing now required effective name := by
  rw [assess] at ok
  obtain ⟨held,names,ok⟩ := Raising.bind_success ok
  obtain ⟨dates,_,ok⟩ := Raising.bind_success ok
  obtain ⟨rfl,rfl⟩ := Prod.mk.inj (Raising.pure_success ok)
  simp [Missing,heldNames_success names]

theorem noteRevoked_success {event : PermissionAuditEvent} {before after : Dictionary String PermissionAuditEvent}
    {name : String} (ok : noteRevoked event before name = .ok after) (key : String) :
    key ∈ after.keys ↔ key ∈ before.keys ∨ name = key := by
  rw [noteRevoked] at ok
  split at ok
  next absent =>
    rw [← Except.ok.inj ok,Dictionary.mem_keys_set,eq_comm,or_comm]
  next existing present =>
    obtain ⟨later,_,ok⟩ := Raising.bind_success ok
    have known : name ∈ before.keys := (Dictionary.mem_keys name before).mpr (by simp [present])
    rw [← Raising.pure_success ok]
    split
    · rw [Dictionary.mem_keys_set,eq_comm,or_comm]
    · constructor
      · exact Or.inl
      · rintro (member | rfl)
        · exact member
        · exact known

theorem revokeEvents_success {auditEvents : List PermissionAuditEvent}
    {revoked : Dictionary String PermissionAuditEvent} (ok : revokeEvents auditEvents = .ok revoked)
    (name : String) : name ∈ revoked.keys ↔ Revoked auditEvents name := by
  have rule := Dictionary.mem_keys_foldlM noteEvent
    (fun event key => event.action ∈ revokeActions ∧ key ∈ event.targetNames) ?_ ok name
  · rw [rule]
    simp [Dictionary.keys,Revoked]
  · intro before event after stepped key
    rw [noteEvent] at stepped
    split at stepped
    next revoke =>
      have inner := Dictionary.mem_keys_foldlM (noteRevoked event) (fun name key => name = key)
        (fun before name after ok key => noteRevoked_success ok key) stepped key
      rw [inner]
      simp [List.contains_iff_mem.mp revoke]
    next other =>
      obtain rfl := Except.ok.inj stepped
      simp at other
      simp [other]

theorem lookup_success {α : Type} {key : String} {dictionary : Dictionary String α} {value : α}
    (ok : lookup key dictionary = .ok value) : dictionary.find key = some value := by
  rw [lookup] at ok
  split at ok
  next found present => rw [present,Except.ok.inj ok]
  next absent => cases ok

theorem leastCause_success {causes : List String} {chosen : String} (ok : leastCause causes = .ok chosen) :
    chosen ∈ causes ∧ ∃ least, causePriority.find chosen = some least ∧
      ∀ cause ∈ causes, ∃ priority, causePriority.find cause = some priority ∧ least ≤ priority := by
  cases causes with
  | nil => cases ok
  | cons first rest =>
    rw [leastCause] at ok
    obtain ⟨priority,found,ok⟩ := Raising.bind_success ok
    obtain ⟨⟨best,least⟩,scanned,ok⟩ := Raising.bind_success ok
    obtain rfl := Raising.pure_success ok
    have rule := Raising.foldlM_success _
      (fun (done : List String) (best : String × Nat) => best.1 ∈ first::done ∧
        causePriority.find best.1 = some best.2 ∧
        ∀ cause ∈ first::done, ∃ priority, causePriority.find cause = some priority ∧ best.2 ≤ priority)
      ?_ rest _ _ ?_ scanned
    · exact ⟨rule.1,least,rule.2⟩
    · rintro done cause ⟨best,least⟩ after ⟨member,same,bound⟩ stepped
      obtain ⟨priority,known,stepped⟩ := Raising.bind_success stepped
      have known := lookup_success known
      have answer := Raising.pure_success stepped
      subst answer
      simp only at member same bound ⊢
      split
      next lower =>
        refine ⟨by simp,known,?_⟩
        intro candidate inside
        rcases List.mem_append.mp (List.cons_append ▸ inside) with early | last
        · obtain ⟨other,found,above⟩ := bound candidate early
          exact ⟨other,found,by omega⟩
        · obtain rfl := List.mem_singleton.mp last
          exact ⟨priority,known,le_refl _⟩
      next higher =>
        refine ⟨?_,same,?_⟩
        · rw [← List.cons_append]
          exact List.mem_append_left _ member
        · intro candidate inside
          rcases List.mem_append.mp (List.cons_append ▸ inside) with early | last
          · exact bound candidate early
          · obtain rfl := List.mem_singleton.mp last
            exact ⟨priority,known,by omega⟩
    · refine ⟨by simp,lookup_success found,?_⟩
      intro cause member
      obtain rfl := List.mem_singleton.mp member
      exact ⟨priority,lookup_success found,le_refl _⟩

theorem leastCause_revoked {causes : List String} {chosen : String} (ok : leastCause causes = .ok chosen) :
    chosen = "access_revoked" ↔ "access_revoked" ∈ causes := by
  obtain ⟨member,least,found,below⟩ := leastCause_success ok
  constructor
  · rintro rfl
    exact member
  · intro revoked
    obtain ⟨priority,known,bound⟩ := below "access_revoked" revoked
    have zero : priority = 0 := by
      have value : causePriority.find "access_revoked" = some 0 := rfl
      exact Option.some.inj (known.symm.trans value)
    have none : least = 0 := by omega
    subst none
    have entry : (chosen,0) ∈ causePriority := Dictionary.mem_of_find found
    simpa [causePriority] using entry

theorem classifyMissing_revoked (name : String) (expiredNames revokedNames : List String) :
    classifyMissing name expiredNames revokedNames = "access_revoked" ↔ name ∈ revokedNames := by
  rw [classifyMissing]
  split
  next revoked => simpa using revoked
  next other =>
    have absent : name ∉ revokedNames := by simpa using other
    split <;> simp [absent]

theorem conclude_success {missing : List String} {expired : Dictionary String Datetime}
    {auditEvents : List PermissionAuditEvent} {conclusion : Conclusion}
    (ok : conclude missing expired auditEvents = .ok conclusion) :
    (missing = [] ∧ conclusion.status = .pass) ∨
    (missing ≠ [] ∧ conclusion.status = .fail ∧ ∃ cause, conclusion.causeCode = some cause ∧
      (cause = "access_revoked" ∨ cause = "access_expired" ∨ cause = "missing_role") ∧
      (cause = "access_revoked" ↔ ∃ name ∈ missing, Revoked auditEvents name)) := by
  rw [conclude] at ok
  split at ok
  next none =>
    obtain ⟨note,_,ok⟩ := Raising.bind_success ok
    rw [← Raising.pure_success ok]
    exact Or.inl ⟨List.isEmpty_iff.mp none,rfl⟩
  next nonempty =>
    obtain ⟨revoked,events,ok⟩ := Raising.bind_success ok
    obtain ⟨cause,least,ok⟩ := Raising.bind_success ok
    obtain ⟨descriptions,_,ok⟩ := Raising.bind_success ok
    obtain ⟨note,_,ok⟩ := Raising.bind_success ok
    rw [← Raising.pure_success ok]
    refine Or.inr ⟨fun empty => nonempty (by simp [empty]),rfl,cause,rfl,?_,?_⟩
    · obtain ⟨name,member,same⟩ := Dictionary.mem_values_fill.mp (leastCause_success least).1
      rw [same,classifyMissing]
      split
      · simp
      · split <;> simp
    · rw [leastCause_revoked least,causesOf,Dictionary.mem_values_fill]
      constructor
      · rintro ⟨name,member,same⟩
        have key := (classifyMissing_revoked _ _ _).mp same.symm
        exact ⟨name,member,(revokeEvents_success events name).mp key⟩
      · rintro ⟨name,member,found⟩
        have key := (revokeEvents_success events name).mpr found
        exact ⟨name,member,((classifyMissing_revoked _ _ _).mpr key).symm⟩

end AccessAgent.Step4Authorization
