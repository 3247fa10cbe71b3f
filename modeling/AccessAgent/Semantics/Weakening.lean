import AccessAgent.Semantics.Effect

/-! A program that does less than another one: from related states, whatever it answers the
other one answers too. Nothing is said of a run that raises. -/

namespace AccessAgent.Semantics

def Weaker {ε σ τ α β : Type} (states : σ → τ → Prop) (values : α → β → Prop)
    (left : Effect ε σ α) (right : Effect ε τ β) : Prop :=
  ∀ s t, states s t → ∀ answer after, left.exec s = (.ok answer,after) →
    ∃ other later, right.exec t = (.ok other,later) ∧ values answer other ∧ states after later

namespace Weaker
variable {ε σ τ α β γ δ : Type} {states : σ → τ → Prop} {values : α → β → Prop} {results : γ → δ → Prop}

theorem refl (program : Effect ε σ α) : Weaker Eq Eq program program := by
  rintro s _ rfl answer after ok
  exact ⟨answer,after,ok,rfl,rfl⟩

theorem pure {a : α} {b : β} (related : values a b) :
    Weaker states values (Pure.pure a : Effect ε σ α) (Pure.pure b : Effect ε τ β) := by
  intro s t start answer after ok
  rw [Effect.pure_exec] at ok
  obtain ⟨same,rfl⟩ := Prod.mk.inj ok
  obtain rfl := Except.ok.inj same
  exact ⟨b,t,rfl,related,start⟩

/-- A program that raises is weaker than any other. -/
theorem throw (raised : ε) (right : Effect ε τ β) :
    Weaker states values (MonadExcept.throw raised : Effect ε σ α) right := by
  intro s t start answer after ok
  cases ok

theorem lift {left : Except ε α} {right : Except ε β}
    (related : ∀ a, left = .ok a → ∃ b, right = .ok b ∧ values a b) :
    Weaker states values (liftM left : Effect ε σ α) (liftM right : Effect ε τ β) := by
  intro s t start answer after ok
  rw [Effect.lift_exec] at ok
  obtain ⟨known,rfl⟩ := Prod.mk.inj ok
  obtain ⟨b,found,same⟩ := related answer known
  rw [Effect.lift_exec,found]
  exact ⟨b,t,rfl,same,start⟩

theorem bind {left : Effect ε σ α} {right : Effect ε τ β} {nextLeft : α → Effect ε σ γ} {nextRight : β → Effect ε τ δ}
    (first : Weaker states values left right)
    (rest : ∀ a b, values a b → Weaker states results (nextLeft a) (nextRight b)) :
    Weaker states results (left >>= nextLeft) (right >>= nextRight) := by
  intro s t start answer after ok
  obtain ⟨a,middle,answered,ok⟩ := Effect.bind_success ok
  obtain ⟨b,other,known,related,between⟩ := first s t start a middle answered
  rw [Effect.bind_answered known]
  exact rest a b related middle other between answer after ok

/-- The programs go on from the same value. -/
theorem bind_same {left : Effect ε σ α} {right : Effect ε τ α} {nextLeft : α → Effect ε σ γ} {nextRight : α → Effect ε τ δ}
    (first : Weaker states Eq left right) (rest : ∀ a, Weaker states results (nextLeft a) (nextRight a)) :
    Weaker states results (left >>= nextLeft) (right >>= nextRight) := by
  refine bind first ?_
  rintro a _ rfl
  exact rest a

theorem lift_same (value : Except ε α) :
    Weaker states Eq (liftM value : Effect ε σ α) (liftM value : Effect ε τ α) :=
  lift fun a known => ⟨a,known,rfl⟩

theorem read {view : σ → α} {viewRight : τ → β} (related : ∀ s t, states s t → values (view s) (viewRight t)) :
    Weaker states values (Effect.read view : Effect ε σ α) (Effect.read viewRight : Effect ε τ β) := by
  intro s t start answer after ok
  rw [Effect.read_exec] at ok
  obtain ⟨same,rfl⟩ := Prod.mk.inj ok
  obtain rfl := Except.ok.inj same
  exact ⟨viewRight t,t,rfl,related s t start,start⟩

theorem update {change : σ → σ} {changeRight : τ → τ} (kept : ∀ s t, states s t → states (change s) (changeRight t)) :
    Weaker states Eq (Effect.update change : Effect ε σ Unit) (Effect.update changeRight : Effect ε τ Unit) := by
  intro s t start answer after ok
  rw [Effect.update_exec] at ok
  obtain ⟨_,rfl⟩ := Prod.mk.inj ok
  exact ⟨(),changeRight t,rfl,rfl,kept s t start⟩

theorem zoom {ρ υ : Type} {parts : ρ → υ → Prop} {view : σ → ρ} {put : ρ → σ → σ} {viewRight : τ → υ} {putRight : υ → τ → τ}
    {left : Effect ε ρ α} {right : Effect ε υ β} (inner : ∀ s t, states s t → parts (view s) (viewRight t))
    (kept : ∀ s t part other, states s t → parts part other → states (put part s) (putRight other t))
    (weaker : Weaker parts values left right) :
    Weaker states values (Effect.zoom view put left) (Effect.zoom viewRight putRight right) := by
  intro s t start answer after ok
  rw [Effect.zoom_exec] at ok
  obtain ⟨answered,rfl⟩ := Prod.mk.inj ok
  obtain ⟨other,later,known,related,between⟩ := weaker (view s) (viewRight t) (inner s t start) answer _
    (Prod.ext answered rfl)
  rw [Effect.zoom_exec,known]
  exact ⟨other,_,rfl,related,kept s t _ _ start between⟩

end Weaker

end AccessAgent.Semantics
