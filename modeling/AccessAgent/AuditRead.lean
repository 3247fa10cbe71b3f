import AccessAgent.RunStore

/-! Reading the audit trail: the filters, the scope of a principal and the endpoint
(`AuditService.query`, `app/repositories/audit_repository.py`, `app/dependencies/auth.py`,
`app/api/audit.py`). -/

namespace AccessAgent
open Semantics Handler

structure AuditQueryFilters where
  correlationId : Option String
  subjectSub : Option String
  eventType : Option String
deriving DecidableEq

structure AuditEventResponse where
  id : String
  correlationId : String
  requesterSub : String
  diagnosticSubjectSub : String
  eventType : String
  visibilityTier : String
  payload : Json
  occurredAt : Datetime

def getPrincipal (xLoginId : Option String) : Except Exn Principal :=
  match xLoginId with
  | none => .error ⟨.unauthorizedError,"Missing X-Login-Id header"⟩
  | some loginId =>
    if loginId = "" then .error ⟨.unauthorizedError,"Missing X-Login-Id header"⟩ else .ok ⟨loginId,[]⟩

/-- `if wanted: stmt.where(column == wanted)`: an absent or empty filter admits every value. -/
def AuditQueryFilters.admits (wanted : Option String) (column : String) : Bool :=
  match wanted with
  | none => true
  | some text => text = "" || column = text

def AuditQueryFilters.selects (filters : AuditQueryFilters) (row : AuditEventModel) : Bool :=
  admits filters.correlationId row.correlationId && admits filters.subjectSub row.diagnosticSubjectSub &&
    admits filters.eventType row.eventType

def Principal.elevated (principal : Principal) : Bool :=
  principal.hasRole "helpdesk" || principal.hasRole "iam_admin"

variable {σ : Type} (deployment : Deployment σ)

def AuditRepository.query (filters : AuditQueryFilters) : Handler σ (List AuditEventModel) := do
  await deployment.select
  let tables ← tables
  return tables.auditEvents.filter filters.selects

namespace AuditService

def scopedFilters (principal : Principal) (filters : AuditQueryFilters) : AuditQueryFilters :=
  if !principal.elevated then {filters with subjectSub := some principal.sub} else filters

def response (row : AuditEventModel) : AuditEventResponse :=
  ⟨deployment.uuidText row.id,row.correlationId,row.requesterSub,row.diagnosticSubjectSub,row.eventType,
    row.visibilityTier,row.payload,row.occurredAt⟩

def query (principal : Principal) (filters : AuditQueryFilters) : Handler σ (List AuditEventResponse) := do
  let rows ← AuditRepository.query deployment (scopedFilters principal filters)
  return rows.map (response deployment)

/-- What a query answers from the given rows. -/
def answer (principal : Principal) (filters : AuditQueryFilters) (rows : List AuditEventModel) :
    List AuditEventResponse :=
  (rows.filter (scopedFilters principal filters).selects).map (response deployment)

theorem query_exec (principal : Principal) (filters : AuditQueryFilters) (session : Session σ) :
    (query deployment principal filters).exec session = match deployment.select.exec session.world with
      | (.ok (),world) =>
        (.ok (answer deployment principal filters session.tables.auditEvents),{session with world := world})
      | (.error raised,world) => (.error raised,{session with world := world}) := by
  rw [query,AuditRepository.query,Effect.bind_exec,Effect.bind_exec,await_exec]
  rcases deployment.select.exec session.world with ⟨raised | _,world⟩ <;> rfl

theorem query_success {principal : Principal} {filters : AuditQueryFilters} {before after : Session σ}
    {responses : List AuditEventResponse}
    (ok : (query deployment principal filters).exec before = (.ok responses,after)) :
    responses = answer deployment principal filters before.tables.auditEvents := by
  rw [query_exec] at ok
  split at ok
  next world selected => exact (Except.ok.inj (Prod.mk.inj ok).1).symm
  next raised world refused => cases ok

theorem answer_append (principal : Principal) (filters : AuditQueryFilters) (earlier later : List AuditEventModel) :
    answer deployment principal filters (earlier ++ later) =
      answer deployment principal filters earlier ++ answer deployment principal filters later := by
  simp only [answer,List.filter_append,List.map_append]

theorem mem_answer {principal : Principal} {filters : AuditQueryFilters} {rows : List AuditEventModel}
    {found : AuditEventResponse} : found ∈ answer deployment principal filters rows ↔
      ∃ row ∈ rows, (scopedFilters principal filters).selects row = true ∧ response deployment row = found := by
  simp only [answer,List.mem_map,List.mem_filter,and_assoc]

end AuditService

variable [Clock σ]

def queryAuditEvents (xLoginId correlationId subjectSub eventType : Option String) :
    Handler σ (List AuditEventResponse) := do
  let principal ← getPrincipal xLoginId
  AuditService.query deployment principal ⟨correlationId,subjectSub,eventType⟩

/-! ### Who sees what -/

theorem getPrincipal_ok {xLoginId : Option String} {principal : Principal} (ok : getPrincipal xLoginId = .ok principal) :
    xLoginId = some principal.sub ∧ principal.sub ≠ "" ∧ principal.elevated = false := by
  unfold getPrincipal at ok
  split at ok
  next missing => cases ok
  next loginId =>
    split at ok
    next empty => cases ok
    next present =>
      obtain rfl := Except.ok.inj ok
      exact ⟨rfl,present,rfl⟩

theorem admits_text {text column : String} (present : text ≠ "") :
    AuditQueryFilters.admits (some text) column = true ↔ column = text := by
  simp [AuditQueryFilters.admits,present]

theorem scoped_subject {principal : Principal} (present : principal.sub ≠ "") (plain : principal.elevated = false)
    {filters : AuditQueryFilters} {row : AuditEventModel}
    (selected : (AuditService.scopedFilters principal filters).selects row = true) :
    row.diagnosticSubjectSub = principal.sub := by
  rw [AuditService.scopedFilters,plain,Bool.not_false,if_pos rfl,AuditQueryFilters.selects] at selected
  simp only [Bool.and_eq_true,admits_text present] at selected
  exact selected.1.2

/-- The rows of one subject. -/
def ownRows (sub : String) (rows : List AuditEventModel) : List AuditEventModel :=
  rows.filter (fun row => row.diagnosticSubjectSub = sub)

omit [Clock σ] in
theorem answer_own {principal : Principal} (present : principal.sub ≠ "") (plain : principal.elevated = false)
    (filters : AuditQueryFilters) (rows : List AuditEventModel) :
    AuditService.answer deployment principal filters rows =
      AuditService.answer deployment principal filters (ownRows principal.sub rows) := by
  rw [AuditService.answer,AuditService.answer,ownRows,List.filter_filter]
  congr 1
  apply List.filter_congr
  intro row _
  cases selected : (AuditService.scopedFilters principal filters).selects row with
  | false => rfl
  | true => simp [scoped_subject present plain selected]

omit [Clock σ] in
/-- What a principal from the header is answered depends on the rows of its own subject
and on nothing else in the store, and every row of the answer is one of these. -/
theorem query_noninterference (xLoginId : Option String) (principal : Principal)
    (produced : getPrincipal xLoginId = .ok principal) (filters : AuditQueryFilters) (left right : Session σ)
    (own : ownRows principal.sub left.tables.auditEvents = ownRows principal.sub right.tables.auditEvents) :
    let query := AuditService.query deployment principal filters
    (left.world = right.world → (query.exec left).1 = (query.exec right).1) ∧
      ∀ responses, (query.exec left).1 = .ok responses →
        (∀ others, (query.exec right).1 = .ok others → others = responses) ∧
          ∀ row ∈ responses, row.diagnosticSubjectSub = principal.sub := by
  obtain ⟨_,present,plain⟩ := getPrincipal_ok produced
  have same : AuditService.answer deployment principal filters left.tables.auditEvents =
      AuditService.answer deployment principal filters right.tables.auditEvents := by
    rw [answer_own deployment present plain,own,← answer_own deployment present plain]
  intro query
  constructor
  · intro alike
    rw [AuditService.query_exec,AuditService.query_exec,alike,same]
    rcases deployment.select.exec right.world with ⟨raised | _,world⟩ <;> rfl
  · intro responses ok
    have first := AuditService.query_success deployment (Prod.ext ok rfl)
    constructor
    · intro others answered
      rw [AuditService.query_success deployment (Prod.ext answered rfl),first,same]
    · intro row member
      rw [first,AuditService.mem_answer] at member
      obtain ⟨stored,_,selected,rfl⟩ := member
      exact scoped_subject present plain selected

def stillSession (auditEvents : List AuditEventModel) : Session Unit :=
  ⟨(),⟨[],[],auditEvents⟩,(default : UtcNow).value,[],0⟩

def sampleRow (subjectSub : String) (tier : VisibilityTier) : AuditEventModel :=
  ⟨0,"c",subjectSub,subjectSub,"escalation_created",tier.value,.obj [],(default : UtcNow).value⟩

theorem query_noninterference_alice :
    let deployment := stillDeployment (stillConnector some .up)
    let query := AuditService.query deployment ⟨"alice",[]⟩ ⟨none,some "bob",some ""⟩
    let left := stillSession [sampleRow "alice" .selfServiceUser]
    let right := stillSession [sampleRow "bob" .helpdesk,sampleRow "alice" .selfServiceUser]
    (left.world = right.world → (query.exec left).1 = (query.exec right).1) ∧
      ∀ responses, (query.exec left).1 = .ok responses →
        (∀ others, (query.exec right).1 = .ok others → others = responses) ∧
          ∀ row ∈ responses, row.diagnosticSubjectSub = "alice" :=
  query_noninterference _ (some "alice") ⟨"alice",[]⟩ rfl _ _ _ rfl

/-! ### Visibility tiers -/

def VisibilityTier.rank : VisibilityTier → Nat
  | .selfServiceUser => 0
  | .helpdesk => 1
  | .iamAdmin => 2

namespace Principal

def tier (principal : Principal) : VisibilityTier :=
  if principal.hasRole "iam_admin" then .iamAdmin
  else if principal.hasRole "helpdesk" then .helpdesk
  else .selfServiceUser

/-- The stored tier lies above the principal's own. -/
def Beneath (principal : Principal) (visibilityTier : String) : Prop :=
  ∃ tier : VisibilityTier, tier.value = visibilityTier ∧ principal.tier.rank < tier.rank

end Principal

namespace AuditQueryFilters

def Rejects (wanted : Option String) (column : String) : Prop := ∃ text, wanted = some text ∧ text ≠ "" ∧ column ≠ text

theorem rejects_iff (wanted : Option String) (column : String) : Rejects wanted column ↔ admits wanted column = false := by
  cases wanted <;> simp [Rejects,admits]

/-- A filter other than the tier keeps the row from the principal. -/
def Withholds (filters : AuditQueryFilters) (principal : Principal) (row : AuditEventModel) : Prop :=
  Rejects filters.correlationId row.correlationId ∨ Rejects filters.eventType row.eventType ∨
    Rejects (if principal.elevated then filters.subjectSub else some principal.sub) row.diagnosticSubjectSub

theorem withholds_iff (filters : AuditQueryFilters) (principal : Principal) (row : AuditEventModel) :
    filters.Withholds principal row ↔ (AuditService.scopedFilters principal filters).selects row = false := by
  rw [Withholds,rejects_iff,rejects_iff,rejects_iff,AuditService.scopedFilters,selects,Bool.and_eq_false_iff,
    Bool.and_eq_false_iff]
  cases principal.elevated with
  | false =>
    simp only [Bool.not_false,if_true,Bool.false_eq_true,if_false]
    tauto
  | true =>
    simp only [Bool.not_true,if_true,Bool.false_eq_true,if_false]
    tauto

end AuditQueryFilters

def TiersEnforced (principal : Principal) (filters : AuditQueryFilters) (session : Session σ) : Prop :=
  ∀ responses after, (AuditService.query deployment principal filters).exec session = (.ok responses,after) →
    ∀ row ∈ responses, ¬principal.Beneath row.visibilityTier

omit [Clock σ] in
/-- The tier of a row is never looked at: a query keeps to the principal's tier exactly
when it fails, or other filters happen to withhold every row above that tier. -/
theorem tiersEnforced_iff (principal : Principal) (filters : AuditQueryFilters) (session : Session σ) :
    TiersEnforced deployment principal filters session ↔
      (∃ raised, (deployment.select.exec session.world).1 = .error raised) ∨
        ∀ row ∈ session.tables.auditEvents, principal.Beneath row.visibilityTier →
          filters.Withholds principal row := by
  have exec := AuditService.query_exec deployment principal filters session
  rcases selected : deployment.select.exec session.world with ⟨raised | _,world⟩
  · rw [selected] at exec
    refine ⟨fun _ => Or.inl ⟨raised,rfl⟩,fun _ => ?_⟩
    intro responses after ok
    rw [exec] at ok
    cases ok
  · rw [selected] at exec
    constructor
    · intro enforced
      refine Or.inr (fun row member above => ?_)
      rw [AuditQueryFilters.withholds_iff]
      by_contra selects
      have shown : AuditService.response deployment row ∈
          AuditService.answer deployment principal filters session.tables.auditEvents :=
        (AuditService.mem_answer deployment).mpr ⟨row,member,by simpa using selects,rfl⟩
      exact enforced _ _ exec _ shown above
    · intro condition responses after ok found member
      have withheld := condition.resolve_left (fun failed => by
        obtain ⟨raised,impossible⟩ := failed
        cases impossible)
      rw [AuditService.query_success deployment ok,AuditService.mem_answer] at member
      obtain ⟨row,stored,selects,rfl⟩ := member
      intro above
      have hidden := (AuditQueryFilters.withholds_iff _ _ _).mp (withheld row stored above)
      rw [selects] at hidden
      cases hidden

theorem helpdesk_row_shown : ¬TiersEnforced (stillDeployment (stillConnector some .up)) ⟨"alice",[]⟩ ⟨none,none,none⟩
    (stillSession [sampleRow "alice" .helpdesk]) := by
  intro enforced
  exact enforced [AuditService.response _ (sampleRow "alice" .helpdesk)] _ rfl _ List.mem_cons_self
    ⟨.helpdesk,rfl,by decide⟩

end AccessAgent
