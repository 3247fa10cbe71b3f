import AccessAgent.Python.Json
import AccessAgent.Semantics.Raising

/-! What decoded documents hold: the fields of an object and the elements of a list. The
operations that read them answer with these, or raise. -/

namespace AccessAgent.Json
open Semantics

def field (key : String) : Json → Json
  | .obj fields => (find key fields).getD .null
  | _ => .null

def items : Json → List Json
  | .arr items => items
  | _ => []

def listed (key : String) (value : Json) : List Json := (value.field key).items

def isObject : Json → Bool
  | .obj _ => true
  | _ => false

/-- A list, or a value that `or []` replaces by one. -/
def listLike : Json → Bool
  | .arr _ => true
  | other => !other.truthy

def hashable : Json → Bool
  | .arr _ => false
  | .obj _ => false
  | _ => true

def optional : Json → Bool
  | .null => true
  | .str _ => true
  | _ => false

def Records (value : Json) : Prop := value.listLike = true ∧ ∀ entry ∈ value.items, entry.isObject = true

theorem get_field {value : Json} (object : value.isObject = true) (key : String) :
    value.get key = .ok (value.field key) := by
  cases value with
  | obj fields => rfl
  | _ => simp [isObject] at object

theorem get_success {value result : Json} {key : String} (ok : value.get key = .ok result) :
    value.isObject = true ∧ result = value.field key := by
  cases value with
  | obj fields => exact ⟨rfl,(Except.ok.inj ok).symm⟩
  | _ => simp [get,getD] at ok

theorem succeeds_get {value : Json} {key : String} : Raising.Succeeds (value.get key) ↔ value.isObject = true := by
  constructor
  · rintro ⟨result,ok⟩
    exact (get_success ok).1
  · intro object
    exact ⟨_,get_field object key⟩

theorem item_field {value : Json} {key : String} (present : value.field key ≠ .null) :
    value.item key = .ok (value.field key) := by
  cases value with
  | obj fields =>
    rw [item]
    cases found : find key fields with
    | none => simp [field,found] at present
    | some value => simp [field,found]
  | _ => simp [field] at present

theorem orEmpty_items {value : Json} (shape : value.listLike = true) : value.orEmpty = .arr value.items := by
  cases value with
  | arr entries => cases entries <;> rfl
  | _ =>
    rw [orEmpty,if_neg (by simpa [listLike] using shape)]
    rfl

theorem orEmpty_truthy {value : Json} (shape : value.listLike = false) : value.orEmpty = value := by
  cases value with
  | arr entries => simp [listLike] at shape
  | _ => rw [orEmpty,if_pos (by simpa [listLike] using shape)]

theorem orEmpty_elements {value : Json} (shape : value.listLike = true) :
    value.orEmpty.elements = .ok value.items := by
  rw [orEmpty_items shape]
  rfl

theorem orEmpty_falsy {value : Json} (falsy : ¬value.orEmpty.truthy = true) : value.items = [] := by
  cases value with
  | arr entries =>
    rw [orEmpty_items rfl] at falsy
    simpa [truthy] using falsy
  | _ => rfl

/-- An object at the head of a value is the first element of a list. -/
theorem head_object {value first : Json} (ok : value.orEmpty.head = .ok first) (object : first.isObject = true) :
    ∃ rest, value.items = first::rest := by
  cases shape : value.listLike with
  | true =>
    rw [orEmpty_items shape] at ok
    cases entries : value.items with
    | nil => simp [entries,head] at ok
    | cons entry rest =>
      rw [entries] at ok
      exact ⟨rest,by rw [← Except.ok.inj ok]⟩
  | false =>
    rw [orEmpty_truthy shape] at ok
    cases value with
    | arr entries => simp [listLike] at shape
    | str text =>
      rw [head] at ok
      split at ok
      next => simp [← Except.ok.inj ok,isObject] at object
      next => simp at ok
    | _ => simp [head] at ok

private theorem characters_cons {text : String} (nonempty : text ≠ "") :
    ∃ first rest, (text.toList.map fun c => Json.str (String.singleton c)) = .str first::rest := by
  cases characters : text.toList with
  | nil => exact absurd (String.toList_eq_nil_iff.mp characters) nonempty
  | cons first rest => exact ⟨_,_,rfl⟩

/-- What is walked is the list, or the keys or characters of something that is not one. -/
theorem elements_success {value : Json} {entries : List Json} (ok : value.orEmpty.elements = .ok entries) :
    (value.listLike = true ∧ entries = value.items) ∨ ∃ text rest, entries = .str text::rest := by
  cases shape : value.listLike with
  | true =>
    rw [orEmpty_elements shape] at ok
    exact Or.inl ⟨rfl,(Except.ok.inj ok).symm⟩
  | false =>
    refine Or.inr ?_
    cases value with
    | arr entries => simp [listLike] at shape
    | str text =>
      rw [orEmpty_truthy shape] at ok
      rw [← Except.ok.inj ok]
      exact characters_cons (by simpa [listLike,truthy] using shape)
    | obj fields =>
      rw [orEmpty_truthy shape] at ok
      rw [← Except.ok.inj ok]
      cases fields with
      | nil => simp [listLike,truthy] at shape
      | cons entry rest => exact ⟨_,_,rfl⟩
    | _ =>
      rw [orEmpty_truthy shape] at ok
      simp [elements] at ok

private theorem add_list {items : List Json} {other : Json} (shape : other.listLike = false) :
    (∀ sum, (Json.arr items).add other ≠ .ok sum) ∧ ∀ sum, other.add (.arr items) ≠ .ok sum := by
  cases other with
  | arr entries => simp [listLike] at shape
  | _ => simp [add,number]

/-- A sum of two lists, or of things that are not lists: there is nothing to walk in it but
the characters of a text. -/
theorem add_success {left right sum : Json} (ok : left.orEmpty.add right.orEmpty = .ok sum) :
    ((left.listLike = true ∧ right.listLike = true) ∧ sum = .arr (left.items ++ right.items)) ∨
      left.items = [] ∧ right.items = [] ∧ ∀ entries, sum.elements = .ok entries → ∃ text rest, entries = .str text::rest := by
  cases leftShape : left.listLike <;> cases rightShape : right.listLike
  · rw [orEmpty_truthy leftShape,orEmpty_truthy rightShape] at ok
    refine Or.inr ?_
    cases left with
    | arr entries => simp [listLike] at leftShape
    | str text =>
      cases right with
      | str other =>
        refine ⟨rfl,rfl,?_⟩
        intro entries walked
        rw [← Except.ok.inj ok] at walked
        rw [← Except.ok.inj walked]
        apply characters_cons
        have nonempty : text ≠ "" := by simpa [listLike,truthy] using leftShape
        simp [String.append_eq_empty_iff,nonempty]
      | _ => simp [add,number] at ok
    | null => cases right <;> simp [add,number] at ok
    | obj fields => cases right <;> simp [add,number] at ok
    | _ =>
      cases right with
      | arr entries => simp [listLike] at rightShape
      | null => simp [add,number] at ok
      | str text => simp [add,number] at ok
      | obj fields => simp [add,number] at ok
      | _ =>
        refine ⟨rfl,rfl,?_⟩
        intro entries walked
        rw [← Except.ok.inj ok] at walked
        simp [elements] at walked
  · rw [orEmpty_truthy leftShape,orEmpty_items rightShape] at ok
    exact absurd ok ((add_list leftShape).2 sum)
  · rw [orEmpty_truthy rightShape,orEmpty_items leftShape] at ok
    exact absurd ok ((add_list rightShape).1 sum)
  · rw [orEmpty_items leftShape,orEmpty_items rightShape] at ok
    exact Or.inl ⟨⟨rfl,rfl⟩,(Except.ok.inj ok).symm⟩

theorem memberOf_success {value : Json} {texts : List String} {found : Bool} (ok : value.memberOf texts = .ok found) :
    found = true ↔ ∃ text ∈ texts, value = .str text := by
  cases value with
  | str text => simp [← Except.ok.inj ok]
  | arr entries => simp [memberOf] at ok
  | obj fields => simp [memberOf] at ok
  | _ => simp [← Except.ok.inj ok]

theorem succeeds_memberOf {value : Json} {texts : List String} :
    Raising.Succeeds (value.memberOf texts) ↔ value.hashable = true := by
  cases value <;> simp [memberOf,hashable]

theorem succeeds_optionalText {value : Json} : Raising.Succeeds value.optionalText ↔ value.optional = true := by
  cases value <;> simp [optionalText,optional]

theorem isText_iff {value : Json} {text : String} : value.isText text = true ↔ value = .str text := by
  cases value <;> simp [isText]

end AccessAgent.Json
