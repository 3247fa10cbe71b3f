import AccessAgent.Semantics.Effect

/-! A program started in two states that an observer takes for the same: it answers the same or
raises in both, and leaves states that are taken for the same. Of the two exceptions only what
the observer makes of them has to agree. -/

namespace AccessAgent.Semantics

def SameUpTo {ε α : Type} (errors : ε → ε → Prop) : Except ε α → Except ε α → Prop
  | .ok left,.ok right => left = right
  | .error left,.error right => errors left right
  | _,_ => False

def Veiled {ε σ α : Type} (errors : ε → ε → Prop) (alike : σ → σ → Prop) (program : Effect ε σ α) : Prop :=
  ∀ left right, alike left right → SameUpTo errors (program.exec left).1 (program.exec right).1 ∧
    alike (program.exec left).2 (program.exec right).2

theorem SameUpTo.refl {ε α : Type} {errors : ε → ε → Prop} (reflexive : ∀ raised, errors raised raised)
    (outcome : Except ε α) : SameUpTo errors outcome outcome := by
  cases outcome with
  | ok value => rfl
  | error raised => exact reflexive raised

namespace Veiled
variable {ε σ τ α β : Type} {errors : ε → ε → Prop} {alike : σ → σ → Prop}

theorem pure (value : α) : Veiled errors alike (Pure.pure value) :=
  fun _ _ same => ⟨rfl,same⟩

theorem throw (reflexive : ∀ raised, errors raised raised) (raised : ε) :
    Veiled errors alike (MonadExcept.throw raised : Effect ε σ α) :=
  fun _ _ same => ⟨reflexive raised,same⟩

theorem lift (reflexive : ∀ raised, errors raised raised) (outcome : Except ε α) :
    Veiled errors alike (liftM outcome : Effect ε σ α) :=
  fun _ _ same => ⟨SameUpTo.refl reflexive outcome,same⟩

theorem read {view : σ → α} (shown : ∀ left right, alike left right → view left = view right) :
    Veiled errors alike (Effect.read view) :=
  fun left right same => ⟨shown left right same,same⟩

theorem update {change : σ → σ} (kept : ∀ left right, alike left right → alike (change left) (change right)) :
    Veiled errors alike (Effect.update change) :=
  fun left right same => ⟨rfl,kept left right same⟩

/-- The rest may rely on what holds of every answer of the first program. -/
theorem bind_holding {program : Effect ε σ α} {next : α → Effect ε σ β} (holds : α → Prop)
    (first : Veiled errors alike program)
    (answers : ∀ left right value, alike left right → (program.exec left).1 = .ok value → holds value)
    (rest : ∀ value, holds value → Veiled errors alike (next value)) : Veiled errors alike (program >>= next) := by
  intro left right same
  obtain ⟨outcomes,after⟩ := first left right same
  have known := answers left right
  rw [Effect.bind_exec,Effect.bind_exec]
  rcases ranLeft : program.exec left with ⟨raised | value,middle⟩
  · rcases ranRight : program.exec right with ⟨other | value,later⟩
    · rw [ranLeft,ranRight] at outcomes after
      exact ⟨outcomes,after⟩
    · rw [ranLeft,ranRight] at outcomes
      exact outcomes.elim
  · rcases ranRight : program.exec right with ⟨other | value',later⟩
    · rw [ranLeft,ranRight] at outcomes
      exact outcomes.elim
    · rw [ranLeft,ranRight] at outcomes after
      obtain rfl : value = value' := outcomes
      exact rest value (known value same (by rw [ranLeft])) middle later after

theorem bind {program : Effect ε σ α} {next : α → Effect ε σ β} (first : Veiled errors alike program)
    (rest : ∀ value, Veiled errors alike (next value)) : Veiled errors alike (program >>= next) :=
  bind_holding (fun _ => True) first (fun _ _ _ _ _ => trivial) (fun value _ => rest value)

theorem map {program : Effect ε σ α} (veiled : Veiled errors alike program) (f : α → β) :
    Veiled errors alike (f <$> program) :=
  bind veiled fun _ => pure _

/-- Where the handler does not look at the exception, any two exceptions will do. -/
theorem recover {raisedErrors : ε → ε → Prop} {program handler : Effect ε σ α}
    (body : Veiled raisedErrors alike program) (handled : Veiled errors alike handler) :
    Veiled errors alike (tryCatch program fun _ => handler) := by
  intro left right same
  obtain ⟨outcomes,after⟩ := body left right same
  rw [Effect.tryCatch_exec,Effect.tryCatch_exec]
  rcases ranLeft : program.exec left with ⟨raised | value,middle⟩
  · rcases ranRight : program.exec right with ⟨other | value,later⟩
    · rw [ranLeft,ranRight] at after
      exact handled middle later after
    · rw [ranLeft,ranRight] at outcomes
      exact outcomes.elim
  · rcases ranRight : program.exec right with ⟨other | value',later⟩
    · rw [ranLeft,ranRight] at outcomes
      exact outcomes.elim
    · rw [ranLeft,ranRight] at outcomes after
      exact ⟨outcomes,after⟩

theorem zoom {view : τ → σ} {put : σ → τ → τ} {outer : τ → τ → Prop} {program : Effect ε σ α}
    (viewed : ∀ left right, outer left right → alike (view left) (view right))
    (kept : ∀ left right first second, outer left right → alike first second → outer (put first left) (put second right))
    (veiled : Veiled errors alike program) : Veiled errors outer (Effect.zoom view put program) := by
  intro left right same
  obtain ⟨outcomes,after⟩ := veiled _ _ (viewed left right same)
  exact ⟨outcomes,kept left right _ _ same after⟩

end Veiled

end AccessAgent.Semantics
