import Mathlib.Data.List.Forall2

/-! Computations that answer or raise, without a state: what an answer of a
sequence and of a fold says about the parts. -/

namespace AccessAgent.Semantics.Raising
variable {ε α β : Type}

theorem ok_bind (value : α) (next : α → Except ε β) : ((.ok value : Except ε α) >>= next) = next value := rfl

theorem bind_success {first : Except ε α} {next : α → Except ε β} {result : β}
    (ok : (first >>= next) = .ok result) : ∃ value, first = .ok value ∧ next value = .ok result := by
  cases first with
  | error raised => simp [bind,Except.bind] at ok
  | ok value => exact ⟨value,rfl,ok⟩

theorem pure_success {value result : α} (ok : (pure value : Except ε α) = .ok result) : value = result :=
  Except.ok.inj ok

private theorem foldlM_from (step : β → α → Except ε β) (holds : List α → β → Prop)
    (each : ∀ done item before after, holds done before → step before item = .ok after →
      holds (done ++ [item]) after)
    (done rest : List α) (initial result : β) (start : holds done initial)
    (ok : rest.foldlM step initial = .ok result) : holds (done ++ rest) result := by
  induction rest generalizing done initial with
  | nil =>
    rw [List.foldlM_nil] at ok
    rw [← pure_success ok,List.append_nil]
    exact start
  | cons item rest ih =>
    rw [List.foldlM_cons] at ok
    obtain ⟨next,stepped,later⟩ := bind_success ok
    have result := ih (done ++ [item]) next (each done item initial next start stepped) later
    rwa [List.append_assoc] at result

/-- The rule for a fold: what holds of the elements folded so far and the accumulator
holds of the whole list and the answer. -/
theorem foldlM_success (step : β → α → Except ε β) (holds : List α → β → Prop)
    (each : ∀ done item before after, holds done before → step before item = .ok after →
      holds (done ++ [item]) after)
    (items : List α) (initial result : β) (start : holds [] initial)
    (ok : items.foldlM step initial = .ok result) : holds items result :=
  foldlM_from step holds each [] items initial result start ok

/-- A fold raises what its step raises, at the first element where it does. -/
theorem foldlM_raised {step : β → α → Except ε β} {items : List α} {initial : β} {raised : ε} :
    items.foldlM step initial = .error raised ↔ ∃ before item after middle, items = before ++ item::after ∧
      before.foldlM step initial = .ok middle ∧ step middle item = .error raised := by
  induction items generalizing initial with
  | nil => simp [pure,Except.pure]
  | cons first rest ih =>
    rw [List.foldlM_cons]
    constructor
    · intro failed
      cases stepped : step initial first with
      | error known =>
        rw [stepped] at failed
        exact ⟨[],first,rest,initial,rfl,rfl,by rw [stepped,← Except.error.inj failed]⟩
      | ok next =>
        rw [stepped] at failed
        obtain ⟨before,item,after,middle,rfl,reached,raises⟩ := ih.mp failed
        refine ⟨first::before,item,after,middle,rfl,?_,raises⟩
        rw [List.foldlM_cons,stepped]
        exact reached
    · rintro ⟨before,item,after,middle,shape,reached,raises⟩
      cases before with
      | nil =>
        obtain ⟨rfl,rfl⟩ := List.cons.inj shape
        rw [pure_success reached,raises]
        rfl
      | cons head tail =>
        obtain ⟨rfl,rfl⟩ := List.cons.inj shape
        rw [List.foldlM_cons] at reached
        obtain ⟨next,stepped,later⟩ := bind_success reached
        rw [stepped]
        exact ih.mpr ⟨tail,item,after,middle,rfl,later,raises⟩

theorem bind_ok {first : Except ε α} {next : α → Except ε β} {result : β} :
    (first >>= next) = .ok result ↔ ∃ value, first = .ok value ∧ next value = .ok result := by
  constructor
  · exact bind_success
  · rintro ⟨value,answered,ok⟩
    rw [answered]
    exact ok

/-- The computation does not raise. -/
def Succeeds (computation : Except ε α) : Prop := ∃ value, computation = .ok value

theorem succeeds_bind {first : Except ε α} {next : α → Except ε β} :
    Succeeds (first >>= next) ↔ ∃ value, first = .ok value ∧ Succeeds (next value) := by
  constructor
  · rintro ⟨result,ok⟩
    obtain ⟨value,answered,rest⟩ := bind_success ok
    exact ⟨value,answered,result,rest⟩
  · rintro ⟨value,answered,result,ok⟩
    exact ⟨result,bind_ok.mpr ⟨value,answered,ok⟩⟩

theorem mapError_ok {δ : Type} {raise : ε → δ} {first : Except ε α} {value : α} :
    first.mapError raise = .ok value ↔ first = .ok value := by
  cases first with
  | error raised => exact iff_of_false (fun ok => nomatch ok) (fun ok => nomatch ok)
  | ok known => exact ⟨fun ok => congrArg Except.ok (Except.ok.inj ok),fun ok => congrArg Except.ok (Except.ok.inj ok)⟩

theorem succeeds_step {first : Except ε α} {next : α → Except ε β} {value : α} (known : first = .ok value) :
    Succeeds (first >>= next) ↔ Succeeds (next value) := by
  rw [known]
  rfl

@[simp] theorem succeeds_ok (value : α) : Succeeds (.ok value : Except ε α) := ⟨value,rfl⟩

@[simp] theorem succeeds_pure (value : α) : Succeeds (pure value : Except ε α) := ⟨value,rfl⟩

@[simp] theorem succeeds_error (raised : ε) : ¬Succeeds (.error raised : Except ε α) := fun ⟨_,ok⟩ => nomatch ok

/-- What comes after the first computation answers under one condition. -/
theorem succeeds_bind_and {first : Except ε α} {next : α → Except ε β} {condition : Prop}
    (later : ∀ value, first = .ok value → (Succeeds (next value) ↔ condition)) :
    Succeeds (first >>= next) ↔ Succeeds first ∧ condition := by
  rw [succeeds_bind]
  constructor
  · rintro ⟨value,ok,answers⟩
    exact ⟨⟨value,ok⟩,(later value ok).mp answers⟩
  · rintro ⟨⟨value,ok⟩,holds⟩
    exact ⟨value,ok,(later value ok).mpr holds⟩

theorem succeeds_return {first : Except ε α} {f : α → β} :
    Succeeds (first >>= fun value => pure (f value)) ↔ Succeeds first := by
  rw [succeeds_bind]
  exact exists_congr fun value => and_iff_left (succeeds_pure (f value))

theorem succeeds_mapM {f : α → Except ε β} {items : List α} :
    Succeeds (items.mapM f) ↔ ∀ item ∈ items, Succeeds (f item) := by
  induction items with
  | nil => simp
  | cons item rest ih =>
    rw [List.mapM_cons,List.forall_mem_cons,← ih]
    exact succeeds_bind_and fun _ _ => succeeds_return

theorem succeeds_foldlM {step : β → α → Except ε β} {fits : α → Prop}
    (each : ∀ before item, Succeeds (step before item) ↔ fits item) {items : List α} {initial : β} :
    Succeeds (items.foldlM step initial) ↔ ∀ item ∈ items, fits item := by
  induction items generalizing initial with
  | nil => simp
  | cons item rest ih =>
    rw [List.foldlM_cons,succeeds_bind,List.forall_mem_cons,← each initial item]
    simp only [ih,exists_and_right]
    rfl

theorem succeeds_filterMapM {f : α → Except ε (Option β)} {items : List α} :
    Succeeds (items.filterMapM f) ↔ ∀ item ∈ items, Succeeds (f item) := by
  induction items with
  | nil => simp
  | cons item rest ih =>
    rw [List.filterMapM_cons,succeeds_bind,List.forall_mem_cons,← ih]
    constructor
    · rintro ⟨value,first,others⟩
      refine ⟨⟨value,first⟩,?_⟩
      cases value with
      | none => exact others
      | some kept =>
        obtain ⟨later,rest,_⟩ := succeeds_bind.mp others
        exact ⟨later,rest⟩
    · rintro ⟨⟨value,first⟩,others⟩
      refine ⟨value,first,?_⟩
      cases value with
      | none => exact others
      | some kept =>
        obtain ⟨later,rest⟩ := others
        exact succeeds_bind.mpr ⟨later,rest,succeeds_pure _⟩

theorem filterMapM_success {f : α → Except ε (Option β)} {g : α → Option β}
    (each : ∀ item value, f item = .ok value → value = g item) {items : List α} {result : List β}
    (ok : items.filterMapM f = .ok result) : result = items.filterMap g := by
  induction items generalizing result with
  | nil => exact (pure_success ok).symm
  | cons item rest ih =>
    rw [List.filterMapM_cons] at ok
    obtain ⟨value,first,ok⟩ := bind_success ok
    rw [List.filterMap_cons,← each item value first]
    cases value with
    | none => exact ih ok
    | some kept =>
      obtain ⟨later,others,ok⟩ := bind_success ok
      rw [← pure_success ok,ih others]

/-- Elements that give nothing may be left out. -/
theorem filterMapM_skip {f : α → Except ε (Option β)} {before inserted after : List α}
    (skipped : ∀ item ∈ inserted, f item = .ok none) :
    (before ++ inserted ++ after).filterMapM f = (before ++ after).filterMapM f := by
  induction before with
  | nil =>
    rw [List.nil_append,List.nil_append]
    induction inserted with
    | nil => rfl
    | cons item rest ih =>
      obtain ⟨first,others⟩ := List.forall_mem_cons.mp skipped
      rw [List.cons_append,List.filterMapM_cons,first]
      exact ih others
  | cons item rest ih =>
    rw [List.cons_append,List.cons_append,List.cons_append,List.filterMapM_cons,List.filterMapM_cons,ih]

theorem mapM_success {f : α → Except ε β} {related : α → β → Prop}
    (each : ∀ item value, f item = .ok value → related item value) {items : List α} {result : List β}
    (ok : items.mapM f = .ok result) : List.Forall₂ related items result := by
  induction items generalizing result with
  | nil =>
    rw [← pure_success ok]
    exact .nil
  | cons item rest ih =>
    rw [List.mapM_cons] at ok
    obtain ⟨value,first,ok⟩ := bind_success ok
    obtain ⟨later,others,ok⟩ := bind_success ok
    rw [← pure_success ok]
    exact .cons (each item value first) (ih others)

theorem mapM_ok {f : α → Except ε β} {g : α → β} {items : List α}
    (each : ∀ item ∈ items, f item = .ok (g item)) : items.mapM f = .ok (items.map g) := by
  induction items with
  | nil => rfl
  | cons item rest ih =>
    obtain ⟨first,others⟩ := List.forall_mem_cons.mp each
    rw [List.mapM_cons,first,ih others]
    rfl

theorem filterMapM_ok {f : α → Except ε (Option β)} {g : α → Option β} {items : List α}
    (each : ∀ item ∈ items, f item = .ok (g item)) : items.filterMapM f = .ok (items.filterMap g) := by
  induction items with
  | nil => rfl
  | cons item rest ih =>
    obtain ⟨first,others⟩ := List.forall_mem_cons.mp each
    rw [List.filterMapM_cons,first,List.filterMap_cons,ok_bind,ih others]
    cases g item <;> rfl

theorem anyM_success {p : α → Except ε Bool} {holds : α → Prop}
    (each : ∀ item found, p item = .ok found → (found = true ↔ holds item)) {items : List α} {found : Bool}
    (ok : items.anyM p = .ok found) : found = true ↔ ∃ item ∈ items, holds item := by
  induction items with
  | nil => simp [← pure_success ok]
  | cons item rest ih =>
    obtain ⟨first,known,ok⟩ := bind_success ok
    have decided := each item first known
    rw [List.exists_mem_cons_iff,← decided]
    cases first with
    | true => simp [← pure_success ok]
    | false =>
      rw [ih ok]
      simp

theorem allM_success {p : α → Except ε Bool} {holds : α → Prop}
    (each : ∀ item found, p item = .ok found → (found = true ↔ holds item)) {items : List α} {all : Bool}
    (ok : items.allM p = .ok all) : all = true ↔ ∀ item ∈ items, holds item := by
  induction items with
  | nil => simp [← pure_success ok]
  | cons item rest ih =>
    obtain ⟨first,known,ok⟩ := bind_success ok
    have decided := each item first known
    rw [List.forall_mem_cons,← decided]
    cases first with
    | true =>
      rw [ih ok]
      simp
    | false => simp [← pure_success ok]

theorem succeeds_anyM {p : α → Except ε Bool} {items : List α} (each : ∀ item ∈ items, Succeeds (p item)) :
    Succeeds (items.anyM p) := by
  induction items with
  | nil => exact succeeds_pure false
  | cons item rest ih =>
    obtain ⟨⟨first,known⟩,others⟩ := List.forall_mem_cons.mp each
    refine succeeds_bind.mpr ⟨first,known,?_⟩
    cases first with
    | true => exact succeeds_pure true
    | false => exact ih others

/-- `all` stops at the first element that fails: what raises after it is not reached. -/
theorem succeeds_allM {p : α → Except ε Bool} {items : List α} :
    Succeeds (items.allM p) ↔ ∀ before item after, items = before ++ item::after →
      (∀ earlier ∈ before, p earlier = .ok true) → Succeeds (p item) := by
  induction items with
  | nil => simp [List.allM]
  | cons item rest ih =>
    rw [List.allM,succeeds_bind]
    constructor
    · rintro ⟨first,known,others⟩ before reached after shape holds
      cases before with
      | nil =>
        obtain ⟨rfl,rfl⟩ := List.cons.inj shape
        exact ⟨first,known⟩
      | cons head tail =>
        obtain ⟨rfl,rfl⟩ := List.cons.inj shape
        obtain ⟨here,earlier⟩ := List.forall_mem_cons.mp holds
        obtain rfl := Except.ok.inj (known.symm.trans here)
        exact ih.mp others tail reached after rfl earlier
    · intro each
      obtain ⟨first,known⟩ := each [] item rest rfl (by simp)
      refine ⟨first,known,?_⟩
      cases first with
      | false => exact succeeds_pure false
      | true =>
        refine ih.mpr ?_
        intro before reached after shape holds
        apply each (item::before) reached after (by rw [shape]; rfl)
        exact List.forall_mem_cons.mpr ⟨known,holds⟩

/-- Every exception of the computation is allowed. -/
def RaisesWithin (allowed : ε → Prop) (computation : Except ε α) : Prop :=
  ∀ raised, computation = .error raised → allowed raised

@[simp] theorem raisesWithin_ok {allowed : ε → Prop} (value : α) : RaisesWithin allowed (.ok value) :=
  fun _ failed => nomatch failed

@[simp] theorem raisesWithin_pure {allowed : ε → Prop} (value : α) : RaisesWithin allowed (pure value : Except ε α) :=
  raisesWithin_ok value

@[simp] theorem raisesWithin_error {allowed : ε → Prop} {raised : ε} :
    RaisesWithin allowed (.error raised : Except ε α) ↔ allowed raised := by
  constructor
  · intro within
    exact within raised rfl
  · rintro holds other failed
    rw [← Except.error.inj failed]
    exact holds

theorem raisesWithin_bind {allowed : ε → Prop} {first : Except ε α} {next : α → Except ε β} :
    RaisesWithin allowed (first >>= next) ↔
      RaisesWithin allowed first ∧ ∀ value, first = .ok value → RaisesWithin allowed (next value) := by
  cases first with
  | error raised =>
    change RaisesWithin allowed (.error raised) ↔ _
    simp
  | ok value =>
    change RaisesWithin allowed (next value) ↔ _
    simp

/-- The computation raises nothing else. -/
def RaisesOnly (raised : ε) (computation : Except ε α) : Prop := ∀ other, computation = .error other → other = raised

theorem raisesOnly_ok (raised : ε) (value : α) : RaisesOnly raised (.ok value) := raisesWithin_ok value

theorem raisesOnly_pure (raised : ε) (value : α) : RaisesOnly raised (pure value) := raisesOnly_ok raised value

theorem raisesOnly_bind {raised : ε} {first : Except ε α} {next : α → Except ε β} (here : RaisesOnly raised first)
    (later : ∀ value, RaisesOnly raised (next value)) : RaisesOnly raised (first >>= next) :=
  raisesWithin_bind.mpr ⟨here,fun value _ => later value⟩

theorem raisesOnly_foldlM {raised : ε} {step : β → α → Except ε β} (each : ∀ before item, RaisesOnly raised (step before item))
    (items : List α) (initial : β) : RaisesOnly raised (items.foldlM step initial) := by
  induction items generalizing initial with
  | nil => exact raisesOnly_pure raised initial
  | cons item rest ih =>
    rw [List.foldlM_cons]
    exact raisesOnly_bind (each initial item) ih

end AccessAgent.Semantics.Raising
