import Mathlib.Logic.Basic

/-! Programs that read and write a state and may stop with an exception.
The state survives an exception: what was written before the raise stays
written. Nothing here refers to a particular program, state or exception. -/

namespace AccessAgent.Semantics

structure Effect (ε σ α : Type) where
  exec : σ → Except ε α × σ

namespace Effect
variable {ε σ τ α β : Type}

instance : Monad (Effect ε σ) where
  pure value := ⟨fun state => (.ok value,state)⟩
  bind program next := ⟨fun state => match program.exec state with
    | (.ok value,after) => (next value).exec after
    | (.error raised,after) => (.error raised,after)⟩

instance : MonadExceptOf ε (Effect ε σ) where
  throw raised := ⟨fun state => (.error raised,state)⟩
  tryCatch program handler := ⟨fun state => match program.exec state with
    | (.ok value,after) => (.ok value,after)
    | (.error raised,after) => (handler raised).exec after⟩

def lift (value : Except ε α) : Effect ε σ α := ⟨fun state => (value,state)⟩

instance : MonadLift (Except ε) (Effect ε σ) := ⟨lift⟩

def read (view : σ → α) : Effect ε σ α := ⟨fun state => (.ok (view state),state)⟩

def update (change : σ → σ) : Effect ε σ Unit := ⟨fun state => (.ok (),change state)⟩

def zoom (view : τ → σ) (put : σ → τ → τ) (program : Effect ε σ α) : Effect ε τ α :=
  ⟨fun state => ((program.exec (view state)).1,put (program.exec (view state)).2 state)⟩

@[simp] theorem pure_exec (value : α) (state : σ) :
    (pure value : Effect ε σ α).exec state = (.ok value,state) := rfl

@[simp] theorem throw_exec (raised : ε) (state : σ) :
    (throw raised : Effect ε σ α).exec state = (.error raised,state) := rfl

@[simp] theorem lift_exec (value : Except ε α) (state : σ) :
    (liftM value : Effect ε σ α).exec state = (value,state) := rfl

@[simp] theorem read_exec (view : σ → α) (state : σ) :
    (read view : Effect ε σ α).exec state = (.ok (view state),state) := rfl

@[simp] theorem update_exec (change : σ → σ) (state : σ) :
    (update change : Effect ε σ Unit).exec state = (.ok (),change state) := rfl

@[simp] theorem zoom_exec (view : τ → σ) (put : σ → τ → τ) (program : Effect ε σ α) (state : τ) :
    (zoom view put program).exec state =
      ((program.exec (view state)).1,put (program.exec (view state)).2 state) := rfl

theorem bind_exec (program : Effect ε σ α) (next : α → Effect ε σ β) (state : σ) :
    (program >>= next).exec state = match program.exec state with
      | (.ok value,after) => (next value).exec after
      | (.error raised,after) => (.error raised,after) := rfl

theorem bind_assoc {γ : Type} (program : Effect ε σ α) (next : α → Effect ε σ β) (last : β → Effect ε σ γ) :
    program >>= next >>= last = program >>= fun value => next value >>= last := by
  refine congrArg Effect.mk (funext fun state => ?_)
  simp only [bind_exec]
  rcases program.exec state with ⟨raised | value,after⟩ <;> rfl

theorem pure_bind (value : α) (next : α → Effect ε σ β) : pure value >>= next = next value := rfl

theorem liftM_bind (value : α) (next : α → Effect ε σ β) : liftM (Except.ok value : Except ε α) >>= next = next value := rfl

theorem lift_bind (value : α) (next : α → Effect ε σ β) : lift (.ok value) >>= next = next value := rfl

theorem tryCatch_exec (program : Effect ε σ α) (handler : ε → Effect ε σ α) (state : σ) :
    (tryCatch program handler).exec state = match program.exec state with
      | (.ok value,after) => (.ok value,after)
      | (.error raised,after) => (handler raised).exec after := rfl

theorem bind_answered {program : Effect ε σ α} {state after : σ} {value : α}
    (answered : program.exec state = (.ok value,after)) (next : α → Effect ε σ β) :
    (program >>= next).exec state = (next value).exec after := by
  rw [bind_exec,answered]

theorem bind_raised {program : Effect ε σ α} {state after : σ} {raised : ε}
    (failed : program.exec state = (.error raised,after)) (next : α → Effect ε σ β) :
    (program >>= next).exec state = (.error raised,after) := by
  rw [bind_exec,failed]

theorem bind_success {program : Effect ε σ α} {next : α → Effect ε σ β} {state after : σ} {value : β}
    (ok : (program >>= next).exec state = (.ok value,after)) :
    ∃ first middle, program.exec state = (.ok first,middle) ∧ (next first).exec middle = (.ok value,after) := by
  rw [bind_exec] at ok
  split at ok
  next first middle answered => exact ⟨first,middle,answered,ok⟩
  next raised middle failed => simp at ok

/-! ### Answers -/

def answer (program : Effect ε σ α) (state : σ) : Except ε α := (program.exec state).1

def after (program : Effect ε σ α) (state : σ) : σ := (program.exec state).2

@[simp] theorem answer_pure (value : α) (state : σ) : (pure value : Effect ε σ α).answer state = pure value := rfl

@[simp] theorem answer_lift (value : Except ε α) (state : σ) : (liftM value : Effect ε σ α).answer state = value := rfl

@[simp] theorem after_pure (value : α) (state : σ) : (pure value : Effect ε σ α).after state = state := rfl

@[simp] theorem after_lift (value : Except ε α) (state : σ) : (liftM value : Effect ε σ α).after state = state := rfl

@[simp] theorem answer_lifted (value : Except ε α) (state : σ) : (lift value : Effect ε σ α).answer state = value := rfl

@[simp] theorem after_lifted (value : Except ε α) (state : σ) : (lift value : Effect ε σ α).after state = state := rfl

theorem answer_bind (program : Effect ε σ α) (next : α → Effect ε σ β) (state : σ) :
    (program >>= next).answer state = program.answer state >>= fun value => (next value).answer (program.after state) := by
  simp only [answer,after,bind_exec]
  rcases program.exec state with ⟨raised | value,later⟩ <;> rfl

end Effect

/-- Every run of the program relates the state it starts from to the one it leaves,
whether it answers or raises. -/
def Always {ε σ α : Type} (related : σ → σ → Prop) (program : Effect ε σ α) : Prop :=
  ∀ state, related state (program.exec state).2

namespace Always
variable {ε σ α β : Type} {related : σ → σ → Prop}

theorem bind (transitive : ∀ a b c, related a b → related b c → related a c)
    {program : Effect ε σ α} {next : α → Effect ε σ β} (first : Always related program)
    (rest : ∀ value, Always related (next value)) : Always related (program >>= next) := by
  intro state
  have begun := first state
  rw [Effect.bind_exec]
  rcases ran : program.exec state with ⟨raised | value,after⟩
  · rwa [ran] at begun
  · rw [ran] at begun
    exact transitive _ _ _ begun (rest value after)

end Always

end AccessAgent.Semantics
