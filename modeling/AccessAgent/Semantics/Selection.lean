import Mathlib.Data.List.Basic
import Mathlib.Order.Lattice

/-! Selection of a greatest element by a comparison that may be undefined.
Keys of one kind are ordered by a rank; keys of two kinds do not compare. The
scan keeps the first of equal elements and stops at the first clash. -/

namespace AccessAgent.Semantics

/-- An order that is total within each kind and undefined between kinds. -/
structure Comparison (ε κ ι ρ : Type) where
  kind : κ → ι
  rank : κ → ρ
  clash : ε

namespace Comparison
variable {ε κ ι ρ α : Type} [LinearOrder ρ]

def Comparable (order : Comparison ε κ ι ρ) (a b : κ) : Prop := order.kind a = order.kind b

def Before (order : Comparison ε κ ι ρ) (a b : κ) : Prop :=
  order.kind a = order.kind b ∧ order.rank a < order.rank b

def NotAfter (order : Comparison ε κ ι ρ) (a b : κ) : Prop :=
  order.kind a = order.kind b ∧ order.rank a ≤ order.rank b

/-- The position that the scan selects: strictly above everything before it,
not below anything after it, and comparable with everything. -/
def First (order : Comparison ε κ ι ρ) (key : α → κ) (items : List α) (chosen : α) : Prop :=
  ∃ before after, items = before ++ chosen::after ∧
    (∀ item ∈ before, order.Before (key item) (key chosen)) ∧
    ∀ item ∈ after, order.NotAfter (key item) (key chosen)

/-- What the scan selects is greatest. -/
theorem First.notAfter {order : Comparison ε κ ι ρ} {key : α → κ} {items : List α} {chosen : α}
    (first : order.First key items chosen) : ∀ item ∈ items, order.NotAfter (key item) (key chosen) := by
  obtain ⟨before,after,rfl,below,notAbove⟩ := first
  intro item member
  rcases List.mem_append.mp member with early | late
  · exact ⟨(below item early).1,le_of_lt (below item early).2⟩
  · rcases List.mem_cons.mp late with rfl | later
    · exact ⟨rfl,le_rfl⟩
    · exact notAbove item later

theorem First.comparable {order : Comparison ε κ ι ρ} {key : α → κ} {items : List α} {chosen : α}
    (first : order.First key items chosen) : ∀ item ∈ items, order.Comparable (key item) (key chosen) :=
  fun item member => (first.notAfter item member).1

theorem First.member {order : Comparison ε κ ι ρ} {key : α → κ} {items : List α} {chosen : α}
    (first : order.First key items chosen) : chosen ∈ items := by
  obtain ⟨before,after,rfl,_,_⟩ := first
  simp

/-- The element selected among those made of some items, by the place of its item among them. -/
theorem first_filterMap {β : Type} {order : Comparison ε κ ι ρ} {key : α → κ} {f : β → Option α} {items : List β} {chosen : α} :
    order.First key (items.filterMap f) chosen ↔ ∃ before item after, items = before ++ item::after ∧ f item = some chosen ∧
      (∀ other ∈ before, ∀ made, f other = some made → order.Before (key made) (key chosen)) ∧
      ∀ other ∈ after, ∀ made, f other = some made → order.NotAfter (key made) (key chosen) := by
  constructor
  · rintro ⟨earlier,later,shape,below,notAbove⟩
    obtain ⟨before,rest,rfl,rfl,cut⟩ := List.filterMap_eq_append_iff.mp shape
    obtain ⟨unmade,item,after,rfl,absent,found,rfl⟩ := List.filterMap_eq_cons_iff.mp cut
    refine ⟨before ++ unmade,item,after,by simp,found,?_,?_⟩
    · intro other member made known
      rcases List.mem_append.mp member with first | second
      · exact below made (List.mem_filterMap.mpr ⟨other,first,known⟩)
      · rw [absent other second] at known
        cases known
    · intro other member made known
      exact notAbove made (List.mem_filterMap.mpr ⟨other,member,known⟩)
  · rintro ⟨before,item,after,rfl,found,below,notAbove⟩
    refine ⟨before.filterMap f,after.filterMap f,?_,?_,?_⟩
    · rw [List.filterMap_append,List.filterMap_cons,found]
    · intro made member
      obtain ⟨other,inside,known⟩ := List.mem_filterMap.mp member
      exact below other inside made known
    · intro made member
      obtain ⟨other,inside,known⟩ := List.mem_filterMap.mp member
      exact notAbove other inside made known

theorem first_cons_above (order : Comparison ε κ ι ρ) (key : α → κ) (best item : α) (rest : List α)
    (chosen : α) (above : order.Before (key best) (key item)) :
    order.First key (item::rest) chosen ↔ order.First key (best::item::rest) chosen := by
  constructor
  · rintro ⟨before,after,shape,below,notAbove⟩
    refine ⟨best::before,after,by rw [shape]; rfl,?_,notAbove⟩
    intro x member
    rcases List.mem_cons.mp member with rfl | member
    · cases before with
      | nil =>
        simp only [List.nil_append,List.cons.injEq] at shape
        rwa [← shape.1]
      | cons head tail =>
        simp only [List.cons_append,List.cons.injEq] at shape
        have later := below head (by simp)
        rw [← shape.1] at later
        exact ⟨above.1.trans later.1,above.2.trans later.2⟩
    · exact below x member
  · rintro ⟨before,after,shape,below,notAbove⟩
    cases before with
    | nil =>
      simp only [List.nil_append,List.cons.injEq] at shape
      obtain ⟨rfl,rfl⟩ := shape
      exact absurd (notAbove item (by simp)).2 (not_le.mpr above.2)
    | cons head tail =>
      simp only [List.cons_append,List.cons.injEq] at shape
      exact ⟨tail,after,shape.2,fun x member => below x (by simp [member]),notAbove⟩

theorem first_cons_notAfter (order : Comparison ε κ ι ρ) (key : α → κ) (best item : α) (rest : List α)
    (chosen : α) (skipped : order.NotAfter (key item) (key best)) :
    order.First key (best::rest) chosen ↔ order.First key (best::item::rest) chosen := by
  constructor
  · rintro ⟨before,after,shape,below,notAbove⟩
    cases before with
    | nil =>
      simp only [List.nil_append,List.cons.injEq] at shape
      obtain ⟨rfl,rfl⟩ := shape
      refine ⟨[],item::rest,rfl,by simp,?_⟩
      intro x member
      rcases List.mem_cons.mp member with rfl | member
      · exact skipped
      · exact notAbove x member
    | cons head tail =>
      simp only [List.cons_append,List.cons.injEq] at shape
      obtain ⟨rfl,rfl⟩ := shape
      have later := below best (by simp)
      refine ⟨best::item::tail,after,rfl,?_,notAbove⟩
      intro x member
      rcases List.mem_cons.mp member with rfl | member
      · exact later
      · rcases List.mem_cons.mp member with rfl | member
        · exact ⟨skipped.1.trans later.1,lt_of_le_of_lt skipped.2 later.2⟩
        · exact below x (by simp [member])
  · rintro ⟨before,after,shape,below,notAbove⟩
    cases before with
    | nil =>
      simp only [List.nil_append,List.cons.injEq] at shape
      obtain ⟨rfl,rfl⟩ := shape
      exact ⟨[],rest,rfl,by simp,fun x member => notAbove x (by simp [member])⟩
    | cons head tail =>
      simp only [List.cons_append,List.cons.injEq] at shape
      obtain ⟨rfl,shape⟩ := shape
      have later := below best (by simp)
      cases tail with
      | nil =>
        -- the skipped element itself would be above the head
        simp only [List.nil_append,List.cons.injEq] at shape
        obtain ⟨rfl,rfl⟩ := shape
        exact absurd later.2 (not_lt.mpr skipped.2)
      | cons second tail =>
        simp only [List.cons_append,List.cons.injEq] at shape
        obtain ⟨rfl,rfl⟩ := shape
        refine ⟨best::tail,after,rfl,?_,notAbove⟩
        intro x member
        rcases List.mem_cons.mp member with rfl | member
        · exact later
        · exact below x (by simp [member])

theorem first_singleton (order : Comparison ε κ ι ρ) (key : α → κ) (best chosen : α) :
    order.First key [best] chosen ↔ best = chosen := by
  constructor
  · intro first
    exact (List.mem_singleton.mp first.member).symm
  · rintro rfl
    exact ⟨[],[],rfl,by simp,by simp⟩

variable [DecidableEq ι]

def greater (order : Comparison ε κ ι ρ) (a b : κ) : Except ε Bool :=
  if order.kind a = order.kind b then .ok (decide (order.rank b < order.rank a))
  else .error order.clash

def scan (order : Comparison ε κ ι ρ) (key : α → κ) : α → List α → Except ε α
  | best,[] => .ok best
  | best,item::rest => match order.greater (key item) (key best) with
    | .ok true => scan order key item rest
    | .ok false => scan order key best rest
    | .error raised => .error raised

theorem greater_ok (order : Comparison ε κ ι ρ) (a b : κ) (result : Bool) :
    order.greater a b = .ok result ↔ order.Comparable a b ∧ result = decide (order.rank b < order.rank a) := by
  unfold greater Comparable
  split
  next same => simp [same,eq_comm]
  next different => simp [different]

/-- The scan answers with the first greatest element when every comparison it
makes is defined, and raises otherwise. -/
theorem scan_ok (order : Comparison ε κ ι ρ) (key : α → κ) (best : α) (items : List α) (chosen : α) :
    scan order key best items = .ok chosen ↔ order.First key (best::items) chosen := by
  induction items generalizing best with
  | nil => simp [scan,first_singleton]
  | cons item rest ih =>
    unfold scan
    split
    next compared =>
      obtain ⟨same,above⟩ := (order.greater_ok _ _ _).mp compared
      rw [ih item]
      exact first_cons_above order key best item rest chosen ⟨same.symm,by simpa using above.symm⟩
    next compared =>
      obtain ⟨same,below⟩ := (order.greater_ok _ _ _).mp compared
      rw [ih best]
      exact first_cons_notAfter order key best item rest chosen ⟨same,by simpa using below.symm⟩
    next raised compared =>
      constructor
      · intro ok
        cases ok
      intro first
      have left := first.comparable item (by simp)
      have right := first.comparable best (by simp)
      have same : order.kind (key item) = order.kind (key best) := left.trans right.symm
      simp [greater,same] at compared

theorem First.unique {order : Comparison ε κ ι ρ} {key : α → κ} {items : List α} {chosen other : α}
    (first : order.First key items chosen) (again : order.First key items other) : other = chosen := by
  cases items with
  | nil => cases first.member
  | cons best rest =>
    have scanned := (scan_ok order key best rest chosen).mpr first
    rw [(scan_ok order key best rest other).mpr again] at scanned
    exact Except.ok.inj scanned

end Comparison

end AccessAgent.Semantics
