import AccessAgent.Semantics.Effect
import Mathlib.Data.List.Forall2

/-! Two programs run side by side from related states: they answer together with
related answers or raise the same exception, and leave related states. -/

namespace AccessAgent.Semantics

def Agree {ε α β : Type} (values : α → β → Prop) : Except ε α → Except ε β → Prop
  | .ok left,.ok right => values left right
  | .error left,.error right => left = right
  | _,_ => False

def Lockstep {ε σ τ α β : Type} (states : σ → τ → Prop) (values : α → β → Prop)
    (left : Effect ε σ α) (right : Effect ε τ β) : Prop :=
  ∀ s t, states s t →
    Agree values (left.exec s).1 (right.exec t).1 ∧ states (left.exec s).2 (right.exec t).2

theorem Agree.refl {ε α : Type} (outcome : Except ε α) : Agree Eq outcome outcome := by
  cases outcome <;> rfl

namespace Lockstep
variable {ε σ τ α β γ δ : Type} {states : σ → τ → Prop} {values : α → β → Prop} {results : γ → δ → Prop}

theorem pure {a : α} {b : β} (related : values a b) :
    Lockstep states values (Pure.pure a : Effect ε σ α) (Pure.pure b : Effect ε τ β) := by
  intro s t start
  exact ⟨related,start⟩

theorem throw (raised : ε) :
    Lockstep states values (MonadExcept.throw raised : Effect ε σ α) (MonadExcept.throw raised : Effect ε τ β) := by
  intro s t start
  exact ⟨rfl,start⟩

theorem lift {left : Except ε α} {right : Except ε β} (related : Agree values left right) :
    Lockstep states values (liftM left : Effect ε σ α) (liftM right : Effect ε τ β) := by
  intro s t start
  exact ⟨related,start⟩

theorem bind {left : Effect ε σ α} {right : Effect ε τ β} {nextLeft : α → Effect ε σ γ} {nextRight : β → Effect ε τ δ}
    (first : Lockstep states values left right)
    (rest : ∀ a b, values a b → Lockstep states results (nextLeft a) (nextRight b)) :
    Lockstep states results (left >>= nextLeft) (right >>= nextRight) := by
  intro s t start
  obtain ⟨answers,after⟩ := first s t start
  rw [Effect.bind_exec,Effect.bind_exec]
  rcases ranLeft : left.exec s with ⟨raised | a,middleLeft⟩
  · rcases ranRight : right.exec t with ⟨other | b,middleRight⟩
    · rw [ranLeft,ranRight] at answers after
      exact ⟨answers,after⟩
    · rw [ranLeft,ranRight] at answers
      exact answers.elim
  · rcases ranRight : right.exec t with ⟨other | b,middleRight⟩
    · rw [ranLeft,ranRight] at answers
      exact answers.elim
    · rw [ranLeft,ranRight] at answers after
      exact rest a b answers _ _ after

theorem tryCatch {left : Effect ε σ α} {right : Effect ε τ β} {handlerLeft : ε → Effect ε σ α}
    {handlerRight : ε → Effect ε τ β} (body : Lockstep states values left right)
    (handler : ∀ raised, Lockstep states values (handlerLeft raised) (handlerRight raised)) :
    Lockstep states values (MonadExcept.tryCatch left handlerLeft) (MonadExcept.tryCatch right handlerRight) := by
  intro s t start
  obtain ⟨answers,after⟩ := body s t start
  rw [Effect.tryCatch_exec,Effect.tryCatch_exec]
  rcases ranLeft : left.exec s with ⟨raised | a,middleLeft⟩
  · rcases ranRight : right.exec t with ⟨other | b,middleRight⟩
    · rw [ranLeft,ranRight] at answers after
      obtain rfl : raised = other := answers
      exact handler raised _ _ after
    · rw [ranLeft,ranRight] at answers
      exact answers.elim
  · rcases ranRight : right.exec t with ⟨other | b,middleRight⟩
    · rw [ranLeft,ranRight] at answers
      exact answers.elim
    · rw [ranLeft,ranRight] at answers after
      exact ⟨answers,after⟩

theorem zoom {ρ : Type} {view : σ → ρ} {put : ρ → σ → σ} {viewRight : τ → ρ} {putRight : ρ → τ → τ}
    (same : ∀ s t, states s t → view s = viewRight t)
    (kept : ∀ s t part, states s t → states (put part s) (putRight part t)) (program : Effect ε ρ α) :
    Lockstep states Eq (Effect.zoom view put program) (Effect.zoom viewRight putRight program) := by
  intro s t start
  rw [Effect.zoom_exec,Effect.zoom_exec,same s t start]
  exact ⟨Agree.refl _,kept s t _ start⟩

end Lockstep

theorem find?_related {α β : Type} {related : α → β → Prop} {p : α → Bool} {q : β → Bool} {left : List α}
    {right : List β} (tests : ∀ a b, related a b → p a = q b) (rows : List.Forall₂ related left right) :
    Option.Rel related (left.find? p) (right.find? q) := by
  induction rows with
  | nil => exact Option.Rel.none
  | cons head tail ih =>
    rename_i a b rest rest'
    rw [List.find?_cons,List.find?_cons,tests a b head]
    cases q b with
    | true => exact Option.Rel.some head
    | false => exact ih

end AccessAgent.Semantics
