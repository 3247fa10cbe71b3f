import AccessAgent.Situation
import AccessAgent.MessageAgreement
import AccessAgent.Explanation

/-! What the user is told in a situation. The message of a run that found what the situation asks
for is the one for the first check that has a cause, or that nothing was found. -/

namespace AccessAgent
open Semantics VerdictMessages

/-! ### The message for what was found -/

def Finding.template (finding : Finding) : MessageTemplate :=
  match finding.status with
  | .inconclusive => inconclusive
  | .pass => allClearEscalation
  | .fail => (causeMessages.find (finding.step,finding.causeCode.getD "")).getD (stepFallback finding.step)

/-- The finding that the message for an expired password is about. -/
def expiredPassword : Finding := findingOf .accountStatus (some "password_expired")

theorem selectTemplate_findings {result : DiagnosticRunResult} {last : Finding} (found : result.findings.getLast? = some last) :
    selectTemplate result = last.template := by
  rw [DiagnosticRunResult.findings,List.getLast?_map,Option.map_eq_some_iff] at found
  obtain ⟨verdict,inside,rfl⟩ := found
  rw [selectTemplate,inside]
  rfl

theorem cause_shown {cause : Option String} (same : cause.getD "" = "password_expired") : cause = some "password_expired" := by
  cases cause with
  | none => exact absurd same (by decide)
  | some code => exact congrArg some same

/-- Any other message shows neither the detail of the verdict nor a link. -/
theorem buildVerdictMessage_plain {result : DiagnosticRunResult} {last : Finding} (found : result.findings.getLast? = some last)
    (other : last ≠ expiredPassword) : buildVerdictMessage result = last.template.format result.correlationId "" := by
  rw [DiagnosticRunResult.findings,List.getLast?_map,Option.map_eq_some_iff] at found
  obtain ⟨verdict,inside,rfl⟩ := found
  rw [buildVerdictMessage,inside,Finding.template,VerdictResult.finding]
  dsimp only
  cases failed : verdict.status with
  | pass => rfl
  | inconclusive => rfl
  | fail =>
    have key : (verdict.step,verdict.causeCode.getD "") ≠ (.accountStatus,"password_expired") := by
      intro expired
      obtain ⟨account,code⟩ := Prod.mk.inj expired
      rw [VerdictResult.finding,failed,account,cause_shown code] at other
      exact other rfl
    dsimp only
    rw [eligible_other key,format_detail (template_silent key) _ (verdict.detail.getD "") ""]

/-! ### The message for a situation -/

def adviceOn : List (FunnelStep × Option String) → MessageTemplate
  | [] => allClearEscalation
  | (step,some cause)::_ => (causeMessages.find (step,cause)).getD (stepFallback step)
  | (_,none)::rest => adviceOn rest

theorem findingsOf_advice {causes : List (FunnelStep × Option String)} (nonempty : causes ≠ []) :
    ∃ last, (findingsOf causes).getLast? = some last ∧ last.template = adviceOn causes := by
  induction causes with
  | nil => exact absurd rfl nonempty
  | cons entry rest ih =>
    obtain ⟨step,cause⟩ := entry
    cases cause with
    | some cause => exact ⟨_,rfl,rfl⟩
    | none =>
      by_cases more : rest = []
      · rw [more]
        exact ⟨_,rfl,rfl⟩
      · obtain ⟨last,found,template⟩ := ih more
        refine ⟨last,?_,template⟩
        rw [findingsOf,if_pos rfl,List.getLast?_cons,found]
        rfl

theorem findingsOf_cons {step : FunnelStep} {cause : Option String} {rest : List (FunnelStep × Option String)} {last : Finding}
    (found : (findingsOf ((step,cause)::rest)).getLast? = some last) :
    last = findingOf step cause ∨ cause = none ∧ (findingsOf rest).getLast? = some last := by
  rw [findingsOf,List.getLast?_cons] at found
  split at found
  next passed =>
    cases later : (findingsOf rest).getLast? with
    | none =>
      rw [later] at found
      exact Or.inl (Option.some.inj found).symm
    | some other =>
      rw [later] at found
      exact Or.inr ⟨passed,congrArg some (Option.some.inj found)⟩
  next failed => exact Or.inl (Option.some.inj found).symm

theorem accountCause_expired {status : AccountStatus} (expired : accountCause status = some "password_expired") :
    status = .passwordExpired := by
  revert expired
  cases status <;> decide

namespace Situation
variable (situation : Situation)

noncomputable def advice : MessageTemplate := adviceOn situation.causes

def Expired : Prop := situation.systems = .up ∧ situation.account = .passwordExpired

theorem expired_found {last : Finding} (found : situation.findings.getLast? = some last) (expired : last = expiredPassword) :
    situation.Expired := by
  rw [expired] at found
  have other {step : FunnelStep} {cause : Option String} (different : step ≠ .accountStatus)
      (same : expiredPassword = findingOf step cause) : False := different (congrArg Finding.step same).symm
  rcases findingsOf_cons found with first | ⟨up,found⟩
  · exact (other (by decide) first).elim
  rcases findingsOf_cons found with second | ⟨_,found⟩
  · have code : some "password_expired" = accountCause situation.account := congrArg Finding.causeCode second
    refine ⟨?_,?_⟩
    · rw [availabilityCause] at up
      split at up
      next works => exact works
      next fails => cases up
    · exact accountCause_expired code.symm
  rcases findingsOf_cons found with third | ⟨_,found⟩
  · exact (other (by decide) third).elim
  rcases findingsOf_cons found with fourth | ⟨_,found⟩
  · exact (other (by decide) fourth).elim
  cases found

/-- The answer to a complaint of a user in this situation. -/
structure AnsweredBy (response : IntakeDiagnosisResponse) : Prop where
  findings : response.run.findings = situation.findings
  outcome : response.run.outcome = situation.outcome
  message : ∃ detail link, response.message = situation.advice.format response.correlationId detail ++
    appended " Reset your password here: " link
  plain : ¬situation.Expired → response.message = situation.advice.format response.correlationId ""

variable {situation}

theorem answeredBy {requestId : String} {result : DiagnosticRunResult} (findings : result.findings = situation.findings)
    (outcome : result.outcome = situation.outcome) :
    situation.AnsweredBy ⟨requestId,result.correlationId,buildVerdictMessage result,result⟩ := by
  obtain ⟨last,found,template⟩ := findingsOf_advice (show situation.causes ≠ [] from List.cons_ne_nil _ _)
  have reported : result.findings.getLast? = some last := findings ▸ found
  refine ⟨findings,outcome,?_,?_⟩
  · obtain ⟨detail,link,message⟩ := buildVerdictMessage_template result
    refine ⟨detail,link,message.trans ?_⟩
    rw [selectTemplate_findings reported,template,advice]
  · intro ordinary
    have other : last ≠ expiredPassword := fun expired => ordinary (situation.expired_found found expired)
    rw [buildVerdictMessage_plain reported other,template,advice]

end Situation

end AccessAgent
