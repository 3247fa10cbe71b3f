import AccessAgent.Semantics.Dictionary

/-! Values that are made once for each key and kept. Making may fail, and a failure is not kept.
A run of lookups cannot be told from making each value anew, except that nothing is made twice. -/

namespace AccessAgent.Semantics

/-- A lookup: the values that were kept before it, its answer, and the values kept after it. -/
structure Lookup (ε κ α : Type) where
  key : κ
  before : Dictionary κ α
  answer : Except ε α
  after : Dictionary κ α

namespace Memo
variable {ε κ α : Type} [DecidableEq κ] (make : κ → Except ε α)

def lookup (key : κ) (kept : Dictionary κ α) : Except ε α × Dictionary κ α :=
  match kept.find key with
  | some value => (.ok value,kept)
  | none => match make key with
    | .error raised => (.error raised,kept)
    | .ok value => (.ok value,kept.set key value)

def run : List κ → Dictionary κ α → List (Lookup ε κ α) × Dictionary κ α
  | [],kept => ([],kept)
  | key::rest,kept =>
    let found := lookup make key kept
    let later := run rest found.2
    (⟨key,kept,found.1,found.2⟩::later.1,later.2)

/-- What is kept under a key is what making gives for the key. -/
def Agrees (kept : Dictionary κ α) : Prop := ∀ key value, kept.find key = some value → make key = .ok value

variable {make} {key other : κ} {value : α} {kept : Dictionary κ α}

theorem agrees_nil : Agrees make ([] : Dictionary κ α) := fun _ _ found => nomatch found

theorem lookup_kept (found : kept.find key = some value) : lookup make key kept = (.ok value,kept) := by
  rw [lookup,found]

theorem lookup_answer (agrees : Agrees make kept) (key : κ) : (lookup make key kept).1 = make key := by
  rw [lookup]
  cases found : kept.find key with
  | some value => exact (agrees key value found).symm
  | none => cases make key <;> rfl

theorem lookup_agrees (agrees : Agrees make kept) (key : κ) : Agrees make (lookup make key kept).2 := by
  rw [lookup]
  cases found : kept.find key with
  | some value => exact agrees
  | none =>
    cases made : make key with
    | error raised => exact agrees
    | ok value =>
      intro other known stored
      dsimp only at stored
      rw [Dictionary.find_set] at stored
      split at stored
      next same => rw [← same,made,Option.some.inj stored]
      next => exact agrees other known stored

theorem lookup_failed {raised : ε} (failed : (lookup make key kept).1 = .error raised) : (lookup make key kept).2 = kept := by
  rw [lookup] at failed ⊢
  cases found : kept.find key with
  | some value => rfl
  | none =>
    rw [found] at failed
    cases made : make key with
    | error known => rfl
    | ok value =>
      rw [made] at failed
      exact nomatch failed

theorem lookup_stores (answered : (lookup make key kept).1 = .ok value) : (lookup make key kept).2.find key = some value := by
  rw [lookup] at answered ⊢
  cases found : kept.find key with
  | some known =>
    rw [found] at answered
    rw [← Except.ok.inj answered]
    exact found
  | none =>
    rw [found] at answered
    cases made : make key with
    | error raised =>
      rw [made] at answered
      exact nomatch answered
    | ok known =>
      rw [made] at answered
      rw [← Except.ok.inj answered]
      simp [Dictionary.find_set]

theorem lookup_keeps (found : kept.find key = some value) (other : κ) :
    (lookup make other kept).2.find key = some value := by
  rw [lookup]
  cases asked : kept.find other with
  | some known => exact found
  | none =>
    cases make other with
    | error raised => exact found
    | ok made =>
      have different : other ≠ key := by
        rintro rfl
        exact nomatch asked.symm.trans found
      rw [Dictionary.find_set,if_neg different]
      exact found

theorem run_append (keys later : List κ) (kept : Dictionary κ α) : run make (keys ++ later) kept =
    ((run make keys kept).1 ++ (run make later (run make keys kept).2).1,(run make later (run make keys kept).2).2) := by
  induction keys generalizing kept with
  | nil => rfl
  | cons asked rest ih =>
    rw [List.cons_append,run,run,ih]
    rfl

theorem run_agrees (agrees : Agrees make kept) (keys : List κ) : Agrees make (run make keys kept).2 := by
  induction keys generalizing kept with
  | nil => exact agrees
  | cons asked rest ih => exact ih (lookup_agrees agrees asked)

theorem run_kept (found : kept.find key = some value) (keys : List κ) :
    ∀ lookup ∈ (run make keys kept).1, lookup.before.find key = some value := by
  induction keys generalizing kept with
  | nil => exact fun lookup member => absurd member List.not_mem_nil
  | cons asked rest ih =>
    rw [run,List.forall_mem_cons]
    exact ⟨found,ih (lookup_keeps found asked)⟩

/-- Every lookup of a run answers as making does. -/
theorem run_answer (agrees : Agrees make kept) (keys : List κ) :
    ∀ lookup ∈ (run make keys kept).1, lookup.answer = make lookup.key := by
  induction keys generalizing kept with
  | nil => exact fun lookup member => absurd member List.not_mem_nil
  | cons asked rest ih =>
    rw [run,List.forall_mem_cons]
    exact ⟨lookup_answer agrees asked,ih (lookup_agrees agrees asked)⟩

theorem run_step (keys : List κ) : ∀ found ∈ (run make keys kept).1,
    (found.answer,found.after) = lookup make found.key found.before := by
  induction keys generalizing kept with
  | nil => exact fun found member => absurd member List.not_mem_nil
  | cons asked rest ih =>
    rw [run,List.forall_mem_cons]
    exact ⟨rfl,ih⟩

/-- The second lookup finds the very value that the first one answered. -/
def Again (first second : Lookup ε κ α) : Prop :=
  first.key = second.key → ∀ value, first.answer = .ok value →
    second.before.find second.key = some value ∧ second.answer = .ok value ∧ second.after = second.before

theorem run_again (keys : List κ) : (run make keys kept).1.Pairwise Again := by
  induction keys generalizing kept with
  | nil => exact List.Pairwise.nil
  | cons asked rest ih =>
    rw [run,List.pairwise_cons]
    refine ⟨?_,ih⟩
    intro second member same value answered
    have stored : second.before.find asked = some value := run_kept (lookup_stores answered) rest second member
    have step := run_step rest second member
    rw [← show asked = second.key from same] at step ⊢
    rw [lookup_kept stored,Prod.mk.injEq] at step
    exact ⟨stored,step⟩

end Memo

end AccessAgent.Semantics
