import Mathlib.Logic.Relation

/-! Labelled transition systems: a step may be disabled and has an output. A run takes
admitted steps; the invariant rule lifts what every admitted step preserves to runs. -/

namespace AccessAgent.Semantics

variable {σ α β : Type}

/-- The states that a run of admitted steps reaches. -/
inductive Reaches (step : σ → α → Option (σ × β)) (admits : σ → α → Prop) (start : σ) : σ → Prop
  | start : Reaches step admits start start
  | step {before after : σ} {action : α} {output : β} (reached : Reaches step admits start before)
      (admitted : admits before action) (taken : step before action = some (after,output)) :
      Reaches step admits start after

namespace Reaches
variable {step : σ → α → Option (σ × β)} {admits : σ → α → Prop} {start state : σ}

theorem invariant {holds : σ → Prop} (initial : holds start)
    (preserved : ∀ before action after output, holds before → admits before action →
      step before action = some (after,output) → holds after)
    (reached : Reaches step admits start state) : holds state := by
  induction reached with
  | start => exact initial
  | step _ admitted taken ih => exact preserved _ _ _ _ ih admitted taken

end Reaches

/-- The run of a list of admitted actions, with the outputs of its steps; `none` where a step is
disabled or not admitted. -/
def execute (step : σ → α → Option (σ × β)) (admits : σ → α → Prop) [∀ state action, Decidable (admits state action)] :
    List α → σ → Option (σ × List β)
  | [],state => some (state,[])
  | action::rest,state =>
    if admits state action then do
      let (next,output) ← step state action
      let (last,outputs) ← execute step admits rest next
      return (last,output::outputs)
    else none

theorem execute_cons {step : σ → α → Option (σ × β)} {admits : σ → α → Prop}
    [∀ state action, Decidable (admits state action)] {action : α} {rest : List α} {first last : σ} {outputs : List β}
    (ran : execute step admits (action::rest) first = some (last,outputs)) :
    admits first action ∧ ∃ next output later, step first action = some (next,output) ∧
      execute step admits rest next = some (last,later) := by
  rw [execute] at ran
  split at ran
  next admitted =>
    simp only [Option.bind_eq_bind,Option.bind_eq_some_iff] at ran
    obtain ⟨⟨next,output⟩,taken,⟨final,later⟩,ran,same⟩ := ran
    obtain ⟨rfl,_⟩ := Prod.mk.inj (Option.some.inj same)
    exact ⟨admitted,next,output,later,taken,ran⟩
  next => simp at ran

theorem reaches_execute {step : σ → α → Option (σ × β)} {admits : σ → α → Prop}
    [∀ state action, Decidable (admits state action)] {actions : List α} {start first last : σ} {outputs : List β}
    (reached : Reaches step admits start first) (ran : execute step admits actions first = some (last,outputs)) :
    Reaches step admits start last := by
  induction actions generalizing first outputs with
  | nil =>
    obtain ⟨rfl,_⟩ := Prod.mk.inj (Option.some.inj ran)
    exact reached
  | cons action rest ih =>
    obtain ⟨admitted,next,output,later,taken,ran⟩ := execute_cons ran
    exact ih (Reaches.step reached admitted taken) ran

end AccessAgent.Semantics
