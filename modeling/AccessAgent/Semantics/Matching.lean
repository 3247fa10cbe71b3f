import Mathlib.Data.List.Forall2

/-! Two lists that match: each member of the one has its like in the other. What some members, or
all of them, have in common with their likes holds of both lists or of neither. -/

namespace AccessAgent.Semantics

variable {α β : Type} {alike : α → β → Prop} {left : List α} {right : List β}

structure Matching (alike : α → β → Prop) (left : List α) (right : List β) : Prop where
  there : ∀ x ∈ left, ∃ y ∈ right, alike x y
  back : ∀ y ∈ right, ∃ x ∈ left, alike x y

namespace Matching
variable {p : α → Prop} {q : β → Prop} (matching : Matching alike left right)
include matching

theorem exists_iff (same : ∀ x y, alike x y → (p x ↔ q y)) : (∃ x ∈ left, p x) ↔ ∃ y ∈ right, q y := by
  constructor
  · rintro ⟨x,inside,holds⟩
    obtain ⟨y,member,pair⟩ := matching.there x inside
    exact ⟨y,member,(same x y pair).mp holds⟩
  · rintro ⟨y,inside,holds⟩
    obtain ⟨x,member,pair⟩ := matching.back y inside
    exact ⟨x,member,(same x y pair).mpr holds⟩

theorem forall_iff (same : ∀ x y, alike x y → (p x ↔ q y)) : (∀ x ∈ left, p x) ↔ ∀ y ∈ right, q y := by
  constructor
  · intro all y inside
    obtain ⟨x,member,pair⟩ := matching.back y inside
    exact (same x y pair).mp (all x member)
  · intro all x inside
    obtain ⟨y,member,pair⟩ := matching.there x inside
    exact (same x y pair).mpr (all y member)

theorem ne_nil_iff : left ≠ [] ↔ right ≠ [] := by
  constructor
  · intro inhabited
    obtain ⟨x,inside⟩ := List.exists_mem_of_ne_nil left inhabited
    obtain ⟨y,member,_⟩ := matching.there x inside
    exact List.ne_nil_of_mem member
  · intro inhabited
    obtain ⟨y,inside⟩ := List.exists_mem_of_ne_nil right inhabited
    obtain ⟨x,member,_⟩ := matching.back y inside
    exact List.ne_nil_of_mem member

end Matching

theorem matching_forall₂ (rows : List.Forall₂ alike left right) : Matching alike left right := by
  induction rows with
  | nil => exact ⟨nofun,nofun⟩
  | cons head tail ih =>
    constructor
    · intro x member
      rcases List.mem_cons.mp member with rfl | later
      · exact ⟨_,List.mem_cons_self,head⟩
      · obtain ⟨y,inside,pair⟩ := ih.there x later
        exact ⟨y,List.mem_cons_of_mem _ inside,pair⟩
    · intro y member
      rcases List.mem_cons.mp member with rfl | later
      · exact ⟨_,List.mem_cons_self,head⟩
      · obtain ⟨x,inside,pair⟩ := ih.back y later
        exact ⟨x,List.mem_cons_of_mem _ inside,pair⟩

/-- The place of a row among its likes. -/
theorem forall₂_split {before after : List α} {row : α} (rows : List.Forall₂ alike (before ++ row::after) right) :
    ∃ before' row' after', right = before' ++ row'::after' ∧ List.Forall₂ alike before before' ∧ alike row row' ∧
      List.Forall₂ alike after after' := by
  induction before generalizing right with
  | nil =>
    cases rows with
    | cons head tail => exact ⟨[],_,_,rfl,.nil,head,tail⟩
  | cons first rest ih =>
    cases rows with
    | cons head tail =>
      obtain ⟨before,row',after',rfl,earlier,pair,later⟩ := ih tail
      exact ⟨_::before,row',after',rfl,.cons head earlier,pair,later⟩

end AccessAgent.Semantics
