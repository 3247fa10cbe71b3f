import AccessAgent.Semantics.Dictionary
import AccessAgent.Semantics.Selection

/-! The greatest element under each name, kept in a dictionary as the elements come. The
comparison may be undefined; it is only made between elements of one name. -/

namespace AccessAgent.Semantics
open Raising

namespace Comparison
variable {ε κ ι ρ α ν : Type} [LinearOrder ρ] [DecidableEq ι] [DecidableEq ν]

/-- A scan that goes on from what is known. -/
def scanFrom (order : Comparison ε κ ι ρ) (key : α → κ) : Option α → List α → Except ε (Option α)
  | none,[] => .ok none
  | none,first::rest => some <$> order.scan key first rest
  | some best,items => some <$> order.scan key best items

def keep (order : Comparison ε κ ι ρ) (key : α → κ) (kept : Dictionary ν α) (entry : α × ν) : Except ε (Dictionary ν α) :=
  match kept.find entry.2 with
  | none => .ok (kept.set entry.2 entry.1)
  | some existing => do
    let later ← order.greater (key entry.1) (key existing)
    return if later then kept.set entry.2 entry.1 else kept

def under (name : ν) (entries : List (α × ν)) : List α :=
  (entries.filter fun entry => entry.2 = name).map Prod.fst

theorem mem_under {name : ν} {entries : List (α × ν)} {item : α} : item ∈ under name entries ↔ (item,name) ∈ entries := by
  simp [under]

theorem succeeds_greater {order : Comparison ε κ ι ρ} {a b : κ} : Succeeds (order.greater a b) ↔ order.Comparable a b := by
  constructor
  · rintro ⟨above,compared⟩
    exact ((order.greater_ok a b above).mp compared).1
  · intro comparable
    exact ⟨_,(order.greater_ok a b _).mpr ⟨comparable,rfl⟩⟩

theorem succeeds_scan {order : Comparison ε κ ι ρ} {key : α → κ} {best : α} {items : List α} :
    Succeeds (order.scan key best items) ↔ ∀ item ∈ items, order.Comparable (key item) (key best) := by
  constructor
  · rintro ⟨chosen,ok⟩ item member
    have first := ((order.scan_ok key best items chosen).mp ok).comparable
    exact (first item (by simp [member])).trans (first best (by simp)).symm
  · intro comparable
    induction items generalizing best with
    | nil => exact succeeds_ok best
    | cons item rest ih =>
      obtain ⟨same,others⟩ := List.forall_mem_cons.mp comparable
      unfold scan
      split
      next above => exact ih fun later member => (others later member).trans same.symm
      next below => exact ih others
      next raised clash => simp [greater,show order.kind (key item) = order.kind (key best) from same] at clash

/-- A scan answers when the elements compare with each other. -/
theorem succeeds_scan_pairs {order : Comparison ε κ ι ρ} {key : α → κ} {first : α} {rest : List α} :
    Succeeds (order.scan key first rest) ↔
      ∀ left ∈ first::rest, ∀ right ∈ first::rest, order.Comparable (key left) (key right) := by
  rw [succeeds_scan]
  constructor
  · intro comparable
    have each : ∀ item ∈ first::rest, order.Comparable (key item) (key first) := List.forall_mem_cons.mpr ⟨rfl,comparable⟩
    exact fun left inside right member => (each left inside).trans (each right member).symm
  · intro comparable item member
    exact comparable item (by simp [member]) first (by simp)

theorem succeeds_scanFrom {order : Comparison ε κ ι ρ} {key : α → κ} {items : List α} :
    Succeeds (order.scanFrom key none items) ↔
      ∀ left ∈ items, ∀ right ∈ items, order.Comparable (key left) (key right) := by
  cases items with
  | nil => simp [scanFrom]
  | cons first rest =>
    have mapped : Succeeds (some <$> order.scan key first rest) ↔ Succeeds (order.scan key first rest) := by
      cases order.scan key first rest <;> simp [Functor.map,Except.map]
    rw [scanFrom,mapped,succeeds_scan_pairs]

theorem scanFrom_success {order : Comparison ε κ ι ρ} {key : α → κ} {items : List α} {found : Option α}
    (ok : order.scanFrom key none items = .ok found) :
    (found = none ∧ items = []) ∨ ∃ chosen, found = some chosen ∧ order.First key items chosen := by
  cases items with
  | nil => exact Or.inl ⟨(Except.ok.inj ok).symm,rfl⟩
  | cons first rest =>
    rw [scanFrom] at ok
    cases scanned : order.scan key first rest with
    | error raised => simp [scanned,Functor.map,Except.map] at ok
    | ok chosen =>
      rw [scanned] at ok
      exact Or.inr ⟨chosen,(Except.ok.inj ok).symm,(order.scan_ok key first rest chosen).mp scanned⟩

/-! ### What is kept -/

variable {order : Comparison ε κ ι ρ} {key : α → κ}

/-- What one step makes of the scan of a name: the entry is scanned if it has that name. -/
theorem keep_step {kept after : Dictionary ν α} {entry : α × ν} (ok : order.keep key kept entry = .ok after) (name : ν)
    (later : List α) :
    order.scanFrom key (kept.find name) ((under name [entry]) ++ later) = order.scanFrom key (after.find name) later := by
  obtain ⟨item,named⟩ := entry
  rw [keep] at ok
  by_cases same : named = name
  · subst same
    have alone : under named [(item,named)] = [item] := by simp [under]
    rw [alone]
    dsimp only at ok
    split at ok
    next absent =>
      rw [absent,← Except.ok.inj ok,Dictionary.find_set,if_pos rfl]
      rfl
    next existing present =>
      obtain ⟨above,compared,ok⟩ := bind_success ok
      have result := pure_success ok
      rw [present,← result,scanFrom,List.cons_append,List.nil_append,scan,compared]
      cases above with
      | true => simp [Dictionary.find_set,scanFrom]
      | false => simp [present,scanFrom]
  · have alone : under name [(item,named)] = [] := by simp [under,same]
    have other : after.find name = kept.find name := by
      dsimp only at ok
      split at ok
      next absent => rw [← Except.ok.inj ok,Dictionary.find_set,if_neg same]
      next existing present =>
        obtain ⟨above,_,ok⟩ := bind_success ok
        rw [← pure_success ok]
        cases above with
        | true => rw [if_pos rfl,Dictionary.find_set,if_neg same]
        | false => rfl
    rw [alone,other,List.nil_append]

private theorem under_cons (name : ν) (entry : α × ν) (rest : List (α × ν)) :
    under name (entry::rest) = under name [entry] ++ under name rest := by
  rw [under,under,under,← List.map_append,← List.filter_append]
  rfl

theorem keep_success {entries : List (α × ν)} {kept result : Dictionary ν α}
    (ok : entries.foldlM (order.keep key) kept = .ok result) (name : ν) :
    order.scanFrom key (kept.find name) (under name entries) = .ok (result.find name) := by
  induction entries generalizing kept with
  | nil =>
    rw [← pure_success ok]
    cases kept.find name <;> rfl
  | cons entry rest ih =>
    rw [List.foldlM_cons] at ok
    obtain ⟨after,stepped,ok⟩ := bind_success ok
    rw [under_cons,keep_step stepped]
    exact ih ok

theorem succeeds_keep {entries : List (α × ν)} {kept : Dictionary ν α} :
    Succeeds (entries.foldlM (order.keep key) kept) ↔
      ∀ name, Succeeds (order.scanFrom key (kept.find name) (under name entries)) := by
  constructor
  · rintro ⟨result,ok⟩ name
    exact ⟨_,keep_success ok name⟩
  induction entries generalizing kept with
  | nil => exact fun _ => succeeds_pure kept
  | cons entry rest ih =>
    intro scans
    have here := scans entry.2
    obtain ⟨after,stepped⟩ : Succeeds (order.keep key kept entry) := by
      rw [under_cons] at here
      rw [keep]
      split
      next absent => exact succeeds_ok _
      next existing present =>
        refine succeeds_bind.mpr ?_
        cases compared : order.greater (key entry.1) (key existing) with
        | ok above => exact ⟨above,rfl,succeeds_pure _⟩
        | error raised =>
          simp [present,scanFrom,under,scan,compared,Functor.map,Except.map] at here
    rw [List.foldlM_cons,succeeds_step stepped]
    refine ih fun name => ?_
    rw [← keep_step stepped,← under_cons]
    exact scans name

end Comparison

end AccessAgent.Semantics
