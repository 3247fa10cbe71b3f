import AccessAgent.Semantics.Transition

/-! Amortised bounds on runs. A potential pays for what the steps of a run cost, and only what is
credited for its steps is put into it. -/

namespace AccessAgent.Semantics

variable {σ α β : Type}

/-- What the steps of a run cost together. -/
def spent (step : σ → α → Option (σ × β)) (cost : σ → α → σ → Nat) : List α → σ → Nat
  | [],_ => 0
  | action::rest,state => match step state action with
    | some (next,_) => cost state action next + spent step cost rest next
    | none => 0

/-- Where the invariant holds, the potential and the credit of a step pay for its cost. -/
structure Amortised (step : σ → α → Option (σ × β)) (admits : σ → α → Prop) (holds : σ → Prop) (potential : σ → Nat)
    (cost credit : σ → α → σ → Nat) : Prop where
  kept : ∀ before action after output, holds before → admits before action →
    step before action = some (after,output) → holds after
  paid : ∀ before action after output, holds before → admits before action →
    step before action = some (after,output) →
      potential after + cost before action after ≤ potential before + credit before action after

section
variable {step : σ → α → Option (σ × β)} {admits : σ → α → Prop} [∀ state action, Decidable (admits state action)]
  {holds : σ → Prop} {potential : σ → Nat} {cost credit : σ → α → σ → Nat} {actions : List α} {first last : σ}
  {outputs : List β}

theorem Amortised.run (amortised : Amortised step admits holds potential cost credit) (begins : holds first)
    (ran : execute step admits actions first = some (last,outputs)) :
    potential last + spent step cost actions first ≤ potential first + spent step credit actions first := by
  induction actions generalizing first outputs with
  | nil =>
    obtain ⟨rfl,_⟩ := Prod.mk.inj (Option.some.inj ran)
    exact Nat.le_refl _
  | cons action rest ih =>
    obtain ⟨admitted,next,output,later,taken,ran⟩ := execute_cons ran
    have paid := amortised.paid first action next output begins admitted taken
    have run := ih (amortised.kept first action next output begins admitted taken) ran
    simp only [spent,taken]
    omega

/-- Steps that cost nothing and keep an invariant under which they do. -/
theorem spent_zero (free : ∀ before action after output, holds before → admits before action →
      step before action = some (after,output) → holds after ∧ cost before action after = 0)
    (begins : holds first) (ran : execute step admits actions first = some (last,outputs)) :
    spent step cost actions first = 0 := by
  induction actions generalizing first outputs with
  | nil => rfl
  | cons action rest ih =>
    obtain ⟨admitted,next,output,later,taken,ran⟩ := execute_cons ran
    obtain ⟨kept,nothing⟩ := free first action next output begins admitted taken
    simp only [spent,taken]
    rw [nothing,ih kept ran]

/-- What a run costs by its actions alone. -/
theorem spent_countP (weight : Nat) (counts : α → Bool) (ran : execute step admits actions first = some (last,outputs)) :
    spent step (fun _ action _ => weight * if counts action then 1 else 0) actions first =
      weight * actions.countP counts := by
  induction actions generalizing first outputs with
  | nil => rfl
  | cons action rest ih =>
    obtain ⟨_,next,_,later,taken,ran⟩ := execute_cons ran
    rw [List.countP_cons,Nat.mul_add,← ih ran,Nat.add_comm]
    simp only [spent,taken]

/-- From an empty potential the serving steps of a run are paid for by its paying steps. -/
theorem Amortised.bounded {budget : Nat} {serves pays : α → Bool}
    (amortised : Amortised step admits holds potential (fun _ action _ => 1 * if serves action then 1 else 0)
      fun _ action _ => budget * if pays action then 1 else 0)
    (begins : holds first) (empty : potential first = 0)
    (ran : execute step admits actions first = some (last,outputs)) :
    actions.countP serves ≤ budget * actions.countP pays := by
  have paid := amortised.run begins ran
  rw [spent_countP 1 serves ran,spent_countP budget pays ran,empty,Nat.zero_add,Nat.one_mul] at paid
  exact Nat.le_trans (Nat.le_add_left _ _) paid

end

end AccessAgent.Semantics
