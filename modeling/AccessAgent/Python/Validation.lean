import AccessAgent.Python.Json
import AccessAgent.Semantics.Dictionary

/-! Validation of decoded values as pydantic does it: every field is checked, and the errors of
all fields are collected. How a single value is read is a parameter. -/

namespace AccessAgent
open Semantics

/-- An error, and the place of the value in the document. -/
structure FieldError where
  loc : List String
  kind : String
deriving DecidableEq

structure Validated (α : Type) where
  result : Except (List FieldError) α

namespace Validated
variable {α : Type}

def invalid (kind : String) : Validated α := ⟨.error [⟨[],kind⟩]⟩

def under (segment : String) (validated : Validated α) : Validated α :=
  ⟨validated.result.mapError fun errors => errors.map fun error => {error with loc := segment::error.loc}⟩

instance : Applicative Validated where
  pure value := ⟨.ok value⟩
  seq first second := ⟨match first.result,(second ()).result with
    | .ok f,.ok value => .ok (f value)
    | .ok _,.error errors => .error errors
    | .error errors,.ok _ => .error errors
    | .error errors,.error others => .error (errors ++ others)⟩

end Validated

/-- How decoded values are read. `name` is the text of a key and `label` its place in an error;
`text` and `integer` accept what pydantic converts, or give the kind of the error. -/
structure Reading (ν : Type) where
  isNone : ν → Bool
  name : ν → Option String
  label : ν → String
  text : ν → Except String String
  integer : ν → Except String Int
  sequence : ν → Option (List ν)
  entries : ν → Option (List (ν × ν))
  observed : ν → Json

namespace Reading
variable {ν α : Type} (reading : Reading ν)

def string (value : ν) : Validated String :=
  match reading.text value with
  | .ok text => pure text
  | .error kind => .invalid kind

def int (value : ν) : Validated Int :=
  match reading.integer value with
  | .ok number => pure number
  | .error kind => .invalid kind

def nullable (validate : ν → Validated α) (value : ν) : Validated (Option α) :=
  if reading.isNone value then pure none else some <$> validate value

def listOf (validate : ν → Validated α) (value : ν) : Validated (List α) :=
  match reading.sequence value with
  | some items => items.zipIdx.mapA fun item => (validate item.1).under (toString item.2)
  | none => .invalid "list_type"

/-- A mapping from texts to any values. -/
def dictionary (value : ν) : Validated (Dictionary String Json) :=
  match reading.entries value with
  | some entries => (List.foldl (fun read entry => read.set entry.1 entry.2) []) <$> entries.mapA fun entry =>
      (fun key => (key,reading.observed entry.2)) <$>
        ((reading.string entry.1).under "[key]").under (reading.label entry.1)
  | none => .invalid "dict_type"

def field (fields : List (ν × ν)) (name : String) : Option ν :=
  (fields.find? fun entry => reading.name entry.1 == some name).map Prod.snd

def required (fields : List (ν × ν)) (name : String) (validate : ν → Validated α) : Validated α :=
  match reading.field fields name with
  | some value => (validate value).under name
  | none => (Validated.invalid "missing").under name

def optional (fields : List (ν × ν)) (name : String) (default : α) (validate : ν → Validated α) : Validated α :=
  match reading.field fields name with
  | some value => (validate value).under name
  | none => pure default

def model (validate : List (ν × ν) → Validated α) (value : ν) : Validated α :=
  match reading.entries value with
  | some fields => validate fields
  | none => .invalid "model_type"

end Reading

end AccessAgent
