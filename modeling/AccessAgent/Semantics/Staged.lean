import AccessAgent.Semantics.Effect

/-! Programs cut into stages, at the points where others may run in between. `Finishes` says
which whole program the stages make up when nothing runs in between. -/

namespace AccessAgent.Semantics

variable {ε σ γ α β : Type}

inductive Progress (γ α : Type)
  | waiting (stage : γ)
  | returned (value : α)

/-- Stage after stage until a value is returned; `none` where the fuel runs out first. -/
def complete (advance : γ → Effect ε σ (Progress γ α)) : Nat → γ → Effect ε σ (Option α)
  | 0,_ => pure none
  | fuel + 1,stage => do
    match ← advance stage with
    | .waiting next => complete advance fuel next
    | .returned value => pure (some value)

def Finishes (advance : γ → Effect ε σ (Progress γ α)) (length : Nat) (stage : γ) (program : Effect ε σ α) : Prop :=
  ∀ fuel, length ≤ fuel → complete advance fuel stage = some <$> program

theorem Effect.bind_answers {first : Effect ε σ β} {next : β → Effect ε σ γ} {last : γ → Effect ε σ (Option α)}
    {rest : β → Effect ε σ α} (answers : ∀ value, next value >>= last = some <$> rest value) :
    first >>= next >>= last = some <$> (first >>= rest) := by
  rw [Effect.bind_assoc,funext answers]
  exact (Effect.bind_assoc first rest _).symm

namespace Finishes
variable {advance : γ → Effect ε σ (Progress γ α)} {stage : γ} {length : Nat}

theorem last {program : Effect ε σ α} (advanced : advance stage = program >>= fun value => pure (.returned value)) :
    Finishes advance 1 stage program := by
  intro fuel enough
  cases fuel with
  | zero => exact absurd enough (Nat.not_succ_le_zero 0)
  | succ fuel =>
    rw [complete,advanced,Effect.bind_assoc]
    rfl

theorem next {first : Effect ε σ β} {later : β → γ} {rest : β → Effect ε σ α}
    (advanced : advance stage = first >>= fun value => pure (.waiting (later value)))
    (finishes : ∀ value, Finishes advance length (later value) (rest value)) :
    Finishes advance (length + 1) stage (first >>= rest) := by
  intro fuel enough
  cases fuel with
  | zero => exact absurd enough (Nat.not_succ_le_zero length)
  | succ fuel =>
    have whole : complete advance (fuel + 1) stage = first >>= fun value => complete advance fuel (later value) := by
      rw [complete,advanced,Effect.bind_assoc]
      rfl
    rw [whole,funext fun value => finishes value fuel (Nat.le_of_succ_le_succ enough)]
    exact (Effect.bind_assoc first rest _).symm

end Finishes

end AccessAgent.Semantics
