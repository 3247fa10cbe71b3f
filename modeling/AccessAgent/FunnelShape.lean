import AccessAgent.Funnel

/-! The shape of a run: which steps it executes, what each one contributes, and
which connector methods it may have called by the time it stops. -/

namespace AccessAgent
open Semantics Step

variable {σ : Type}

/-- The step that calls the method; `resolve_subject_sub` belongs to the intake. -/
def ConnectorCall.usedBy : ConnectorCall → Option FunnelStep
  | .resolveSubjectSub _ => none
  | .checkAvailability _ => some .systemAvailability
  | .getUserStatus _ => some .accountStatus
  | .getAuthEvents _ _ => some .authEvents
  | .getEffectivePermissions _ _ => some .authorization
  | .getRequiredPermissions _ => some .authorization
  | .getPermissionAuditEvents _ _ => some .authorization

namespace DiagnosticOrchestrator

/-- The calls that the program makes from this state belong to the step, and when
one of them raises the program has no answer. -/
def Owns {α : Type} (stepName : FunnelStep) (program : Step (Traced σ) α) (before : Diagnosis (Traced σ)) :
    Prop :=
  ∃ made, (program.exec before).2.world.calls = before.world.calls ++ made ∧
    (∀ entry ∈ made, entry.call.usedBy = some stepName) ∧
    ((∃ entry ∈ made, entry.raised = true) → ∃ raised, (program.exec before).1 = .error raised)

namespace Owns
variable {α β : Type} {stepName : FunnelStep} {before : Diagnosis (Traced σ)}

theorem quiet {program : Step (Traced σ) α}
    (silent : (program.exec before).2.world.calls = before.world.calls) : Owns stepName program before :=
  ⟨[],by simpa using silent,by simp,by simp⟩

theorem call {call : ConnectorCall} (method : Effect Exn σ α) (used : call.usedBy = some stepName) :
    Owns stepName (await (recorded call method)) before := by
  refine ⟨[⟨call,raises (method.exec before.world.world).1⟩],rfl,by simpa using used,?_⟩
  intro fate
  obtain ⟨entry,member,raised⟩ := fate
  obtain rfl := List.mem_singleton.mp member
  change raises (method.exec before.world.world).1 = true at raised
  change ∃ raised, (method.exec before.world.world).1 = .error raised
  cases outcome : (method.exec before.world.world).1 with
  | ok value => simp [outcome,raises] at raised
  | error failure => exact ⟨failure,rfl⟩

theorem bind {program : Step (Traced σ) α} {next : α → Step (Traced σ) β}
    (first : Owns stepName program before)
    (rest : ∀ value after, program.exec before = (.ok value,after) → Owns stepName (next value) after) :
    Owns stepName (program >>= next) before := by
  obtain ⟨made,calls,used,fate⟩ := first
  rw [Owns,Effect.bind_exec]
  rcases ran : program.exec before with ⟨failure | value,after⟩
  · rw [ran] at calls
    exact ⟨made,calls,used,fun _ => ⟨failure,rfl⟩⟩
  · obtain ⟨later,laterCalls,laterUsed,laterFate⟩ := rest value after ran
    rw [ran] at calls fate
    refine ⟨made ++ later,?_,?_,?_⟩
    · rw [laterCalls,calls,List.append_assoc]
    · intro entry member
      rcases List.mem_append.mp member with early | late
      · exact used entry early
      · exact laterUsed entry late
    · rintro ⟨entry,member,raised⟩
      rcases List.mem_append.mp member with early | late
      · obtain ⟨failure,impossible⟩ := fate ⟨entry,early,raised⟩
        cases impossible
      · exact laterFate ⟨entry,late,raised⟩

end Owns

variable [Clock σ]

theorem step1_owns (connector : ConnectorSPI σ) (before : Diagnosis (Traced σ))
    (shape : before.ctx.connector = connector.traced) :
    Owns .systemAvailability Step1SystemAvailability.run before := by
  refine Owns.bind (Owns.quiet rfl) ?_
  rintro ctx after ⟨⟩
  rw [shape]
  exact Owns.bind (Owns.call _ rfl) (fun result after _ => Owns.quiet rfl)

theorem step2_owns (connector : ConnectorSPI σ) (before : Diagnosis (Traced σ))
    (shape : before.ctx.connector = connector.traced) :
    Owns .accountStatus Step2AccountStatus.run before := by
  refine Owns.bind (Owns.quiet rfl) ?_
  rintro ctx after ⟨⟩
  rw [shape]
  exact Owns.bind (Owns.call _ rfl) (fun result after _ => Owns.quiet rfl)

theorem step3_owns (connector : ConnectorSPI σ) (before : Diagnosis (Traced σ))
    (shape : before.ctx.connector = connector.traced) :
    Owns .authEvents Step3AuthEvents.run before := by
  refine Owns.bind (Owns.quiet rfl) ?_
  rintro ctx after ⟨⟩
  rw [shape]
  refine Owns.bind (Owns.call _ rfl) ?_
  intro events after answered
  cases events with
  | nil => exact Owns.quiet rfl
  | cons first rest =>
    refine Owns.bind (Owns.quiet rfl) ?_
    exact fun latest after _ => Owns.quiet rfl

theorem step4_owns (connector : ConnectorSPI σ) (before : Diagnosis (Traced σ))
    (shape : before.ctx.connector = connector.traced) :
    Owns .authorization Step4Authorization.run before := by
  refine Owns.bind (Owns.quiet rfl) ?_
  rintro ctx after ⟨⟩
  rw [shape]
  refine Owns.bind (Owns.call _ rfl) ?_
  intro required after answered
  cases required with
  | nil => exact Owns.quiet rfl
  | cons first rest =>
    refine Owns.bind (Owns.call _ rfl) (fun effective after _ => ?_)
    refine Owns.bind (Owns.quiet rfl) (fun now after _ => ?_)
    refine Owns.bind (Owns.quiet rfl) (fun assessed after _ => ?_)
    refine Owns.bind (Owns.call _ rfl) (fun auditEvents after _ => ?_)
    refine Owns.bind (Owns.quiet rfl) (fun conclusion after _ => ?_)
    exact Owns.quiet rfl

theorem stepModules_owns (connector : ConnectorSPI σ) :
    ∀ step ∈ (stepModules : List (Step (Traced σ) VerdictResult × FunnelStep)), ∀ before,
      before.ctx.connector = connector.traced → Owns step.2 step.1 before := by
  simp only [stepModules,List.mem_cons,List.not_mem_nil,or_false]
  rintro step (rfl | rfl | rfl | rfl)
  · exact step1_owns connector
  · exact step2_owns connector
  · exact step3_owns connector
  · exact step4_owns connector

def StepRecord.calls (entry : StepRecord (Traced σ)) : List CallRecord :=
  entry.after.world.calls.drop entry.before.world.calls.length

/-- What every executed step does to the transcript and to the verdict. -/
structure Sound (entry : StepRecord (Traced σ)) : Prop where
  named : entry.verdict.step = entry.step
  appends : entry.after.world.calls = entry.before.world.calls ++ entry.calls
  owned : ∀ call ∈ entry.calls, call.call.usedBy = some entry.step
  failed : (∃ call ∈ entry.calls, call.raised = true) → ∃ raised, entry.raw = .error raised
  closed : ∀ raised, entry.raw = .error raised →
    entry.verdict.status = .inconclusive ∧ entry.verdict.causeCode = some "step_error"

theorem record_calls (stepFn : Step (Traced σ) VerdictResult) (stepName : FunnelStep)
    (before : Diagnosis (Traced σ)) :
    (record stepFn stepName before).after.world.calls = (stepFn.exec before).2.world.calls := by
  rcases ran : stepFn.exec before with ⟨raised | verdict,after⟩
  · rw [record_raised stepName ran]
    rfl
  · rw [record_answered stepName ran]

theorem record_sound {stepFn : Step (Traced σ) VerdictResult} {stepName : FunnelStep}
    (law : StepLaw stepFn stepName) {before : Diagnosis (Traced σ)} (owns : Owns stepName stepFn before) :
    Sound (record stepFn stepName before) := by
  obtain ⟨made,calls,used,fate⟩ := owns
  have own : (record stepFn stepName before).calls = made := by
    rw [StepRecord.calls,record_calls,record_before,calls,List.drop_left]
  constructor
  · rw [record_step]
    exact record_named law before
  · rw [own,record_calls,record_before,calls]
  · rwa [own,record_step]
  · rwa [own,record_raw]
  · intro raised failed
    obtain ⟨evaluatedAt,verdict⟩ := record_closed failed
    rw [verdict]
    exact ⟨rfl,rfl⟩

theorem executed_sound (connector : ConnectorSPI σ) (start : Diagnosis (Traced σ))
    (shape : start.ctx.connector = connector.traced) :
    ∀ entry ∈ executed stepModules start, Sound entry := by
  apply executed_forall (fun state => state.ctx.connector = connector.traced)
  · intro step member state same
    have law := stepModules_law step member
    exact ⟨record_sound law (stepModules_owns connector step member state same),
      (record_connector law state).trans same⟩
  · exact shape

theorem final_calls (steps : List (Step (Traced σ) VerdictResult × FunnelStep))
    (start : Diagnosis (Traced σ)) (sound : ∀ entry ∈ executed steps start, Sound entry) :
    (final steps start).world.calls =
      start.world.calls ++ (executed steps start).flatMap StepRecord.calls := by
  induction steps generalizing start with
  | nil => simp [final,executed]
  | cons step rest ih =>
    obtain ⟨stepFn,stepName⟩ := step
    rw [executed_cons] at sound ⊢
    have first := (sound _ List.mem_cons_self).appends
    rw [record_before] at first
    by_cases passed : (record stepFn stepName start).verdict.status = .pass
    · rw [if_pos passed] at sound ⊢
      rw [final_pass stepFn stepName rest start passed,ih _ (fun entry member => sound entry (by simp [member])),
        first,List.flatMap_cons,List.append_assoc]
    · rw [if_neg passed,final_stop stepFn stepName rest start passed,first]
      simp

/-- A run on a fresh context answers, with the verdicts of a prefix of the four steps;
it goes on only after a pass, turns whatever is raised into `step_error`, and calls no
method of a step it does not reach. -/
theorem run_shape (connector : ConnectorSPI σ) (world : σ) (request : DiagnosticRequest)
    (principal : Principal) (correlationId : String) (perStepTimeout : Timedelta) :
    let start : Diagnosis (Traced σ) := ⟨⟨world,[]⟩,
      .fresh request principal connector.traced correlationId perStepTimeout⟩
    let steps := executed stepModules start
    ∃ result, run.exec start = (.ok result,final stepModules start) ∧
      result.stepVerdicts = steps.map StepRecord.verdict ∧
      result.stepVerdicts ≠ [] ∧
      result.stepVerdicts.map VerdictResult.step <+:
        [.systemAvailability,.accountStatus,.authEvents,.authorization] ∧
      (∀ verdict ∈ result.stepVerdicts.dropLast, verdict.status = .pass) ∧
      (result.stepVerdicts.length < 4 → ∃ last ∈ result.stepVerdicts.getLast?, last.status ≠ .pass) ∧
      (∀ entry ∈ steps, (∃ call ∈ entry.calls, call.raised = true) → ∃ raised, entry.raw = .error raised) ∧
      (∀ entry ∈ steps, ∀ raised, entry.raw = .error raised → entry.verdict.step = entry.step ∧
        entry.verdict.status = .inconclusive ∧ entry.verdict.causeCode = some "step_error") ∧
      (final stepModules start).world.calls = steps.flatMap StepRecord.calls ∧
      ∀ entry ∈ steps, ∀ call ∈ entry.calls, call.call.usedBy = some entry.step := by
  intro start steps
  have sound : ∀ entry ∈ steps, Sound entry := executed_sound connector start rfl
  obtain ⟨last,found,ran⟩ := run_exec start rfl
  have names : steps.map (fun entry => entry.verdict.step) = steps.map StepRecord.step :=
    List.map_congr_left (fun entry member => (sound entry member).named)
  refine ⟨_,ran,rfl,?_,?_,?_,?_,?_,?_,?_,?_⟩
  · intro empty
    have none : steps = [] := List.map_eq_nil_iff.mp empty
    exact executed_ne_nil _ _ start none
  · change (steps.map StepRecord.verdict).map VerdictResult.step <+: _
    rw [List.map_map]
    exact names ▸ executed_prefix stepModules start
  · change ∀ verdict ∈ (steps.map StepRecord.verdict).dropLast, verdict.status = .pass
    rw [← List.map_dropLast]
    intro verdict member
    obtain ⟨entry,inside,rfl⟩ := List.mem_map.mp member
    exact executed_passed stepModules start entry inside
  · intro shorter
    rw [resultOf,List.length_map] at shorter
    obtain ⟨last,found,stopped⟩ := executed_stopped stepModules start shorter
    refine ⟨last.verdict,?_,stopped⟩
    change last.verdict ∈ (steps.map StepRecord.verdict).getLast?
    rw [List.getLast?_map,Option.mem_def.mp found]
    rfl
  · exact fun entry member => (sound entry member).failed
  · exact fun entry member raised failed =>
      ⟨(sound entry member).named,(sound entry member).closed raised failed⟩
  · exact final_calls stepModules start sound
  · exact fun entry member => (sound entry member).owned

end DiagnosticOrchestrator

end AccessAgent
