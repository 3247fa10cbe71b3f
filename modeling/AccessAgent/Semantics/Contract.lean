import AccessAgent.Semantics.Effect

/-! Contracts of programs over a state: what holds before, what holds of the answer and the state
it leaves, and what holds of the state that an exception leaves. -/

namespace AccessAgent.Semantics

def Contract {ε σ α : Type} (pre : σ → Prop) (program : Effect ε σ α) (post : α → σ → Prop) (failed : σ → Prop) : Prop :=
  ∀ state, pre state → match program.exec state with
    | (.ok value,after) => post value after
    | (.error _,after) => failed after

/-- The program keeps a property of the state, whether it answers or raises. -/
abbrev Keeps {ε σ α : Type} (holds : σ → Prop) (program : Effect ε σ α) : Prop :=
  Contract holds program (fun _ => holds) holds

namespace Contract
variable {ε σ τ α β : Type} {pre failed : σ → Prop} {middle : α → σ → Prop} {post : β → σ → Prop}

theorem pure {post : α → σ → Prop} {value : α} (holds : ∀ state, pre state → post value state) :
    Contract pre (Pure.pure value : Effect ε σ α) post failed :=
  fun state start => holds state start

theorem throw {post : α → σ → Prop} {raised : ε} (holds : ∀ state, pre state → failed state) :
    Contract pre (MonadExcept.throw raised : Effect ε σ α) post failed :=
  fun state start => holds state start

theorem bind {program : Effect ε σ α} {next : α → Effect ε σ β} (first : Contract pre program middle failed)
    (rest : ∀ value, Contract (middle value) (next value) post failed) : Contract pre (program >>= next) post failed := by
  intro state start
  have begun := first state start
  rw [Effect.bind_exec]
  rcases ran : program.exec state with ⟨raised | value,after⟩
  · rw [ran] at begun
    exact begun
  · rw [ran] at begun
    exact rest value after begun

/-- What follows a value that is read off or raised without a change of the state. -/
theorem lift_bind {outcome : Except ε α} {next : α → Effect ε σ β} (raises : ∀ state, pre state → failed state)
    (rest : ∀ value, outcome = .ok value → Contract pre (next value) post failed) :
    Contract pre (liftM outcome >>= next) post failed := by
  intro state start
  rw [Effect.bind_exec,Effect.lift_exec]
  cases outcome with
  | error raised => exact raises state start
  | ok value => exact rest value rfl state start

theorem lift {outcome : Except ε β} (answers : ∀ value, outcome = .ok value → ∀ state, pre state → post value state)
    (raises : ∀ state, pre state → failed state) : Contract pre (liftM outcome : Effect ε σ β) post failed := by
  intro state start
  rw [Effect.lift_exec]
  cases outcome with
  | error raised => exact raises state start
  | ok value => exact answers value rfl state start

theorem read {view : σ → β} (answers : ∀ state, pre state → post (view state) state) :
    Contract pre (Effect.read view : Effect ε σ β) post failed :=
  fun state start => answers state start

theorem update {change : σ → σ} {post : Unit → σ → Prop} (answers : ∀ state, pre state → post () (change state)) :
    Contract pre (Effect.update change : Effect ε σ Unit) post failed :=
  fun state start => answers state start

theorem consequence {stronger weaker : σ → Prop} {result : β → σ → Prop} {program : Effect ε σ β}
    (contract : Contract pre program post failed) (before : ∀ state, stronger state → pre state)
    (answers : ∀ value state, post value state → result value state) (raises : ∀ state, failed state → weaker state) :
    Contract stronger program result weaker := by
  intro state start
  have ran := contract state (before state start)
  rcases run : program.exec state with ⟨raised | value,after⟩
  · rw [run] at ran
    exact raises after ran
  · rw [run] at ran
    exact answers value after ran

theorem tryCatch {program : Effect ε σ β} {handler : ε → Effect ε σ β} {caught : σ → Prop}
    (body : Contract pre program post caught) (handled : ∀ raised, Contract caught (handler raised) post failed) :
    Contract pre (MonadExcept.tryCatch program handler) post failed := by
  intro state start
  have begun := body state start
  rw [Effect.tryCatch_exec]
  rcases ran : program.exec state with ⟨raised | value,after⟩
  · rw [ran] at begun
    exact handled raised after begun
  · rw [ran] at begun
    exact begun

/-- A program over a part of the state keeps what it keeps of the part, and what is left alone. -/
theorem zoom {view : τ → σ} {put : σ → τ → τ} {whole : τ → Prop} {part : σ → Prop} {program : Effect ε σ β}
    (keeps : Keeps part program) (inside : ∀ state, whole state → part (view state))
    (outside : ∀ state value, whole state → part value → whole (put value state)) :
    Keeps whole (Effect.zoom view put program) := by
  intro state start
  have ran := keeps (view state) (inside state start)
  rw [Effect.zoom_exec]
  rcases run : program.exec (view state) with ⟨raised | value,after⟩
  · rw [run] at ran
    exact outside state after start ran
  · rw [run] at ran
    exact outside state after start ran

theorem after {holds : σ → Prop} {program : Effect ε σ β} (keeps : Keeps holds program) {state : σ}
    (start : holds state) : holds (program.after state) := by
  have ran := keeps state start
  rw [Effect.after]
  rcases run : program.exec state with ⟨raised | value,after⟩
  · rw [run] at ran
    exact ran
  · rw [run] at ran
    exact ran

end Contract

namespace Keeps
variable {ε σ α β : Type} {holds : σ → Prop}

theorem pure (value : α) : Keeps holds (Pure.pure value : Effect ε σ α) :=
  Contract.pure fun _ kept => kept

theorem lift (outcome : Except ε α) : Keeps holds (liftM outcome : Effect ε σ α) :=
  Contract.lift (fun _ _ _ kept => kept) fun _ kept => kept

theorem bind {program : Effect ε σ α} {next : α → Effect ε σ β} (first : Keeps holds program)
    (rest : ∀ value, Keeps holds (next value)) : Keeps holds (program >>= next) :=
  Contract.bind first rest

end Keeps

end AccessAgent.Semantics
