import AccessAgent.Exceptions
import Mathlib.Data.Rat.Defs

/-! Decoded JSON documents and the operations the code applies to them without
checking their type first. Every operation that Python rejects raises the class
that Python raises. -/

namespace AccessAgent

/-- What the code can observe of a float: its exact value (`none` for a NaN or an
infinity) and its `repr`. -/
structure PyFloat where
  value : Option Rat
  repr : String
deriving DecidableEq

inductive Json
  | null
  | bool (value : Bool)
  | int (value : Int)
  | float (value : PyFloat)
  | str (value : String)
  | arr (items : List Json)
  | obj (fields : List (String × Json))

namespace Json

def typeName : Json → String
  | .null => "NoneType"
  | .bool _ => "bool"
  | .int _ => "int"
  | .float _ => "float"
  | .str _ => "str"
  | .arr _ => "list"
  | .obj _ => "dict"

def truthy : Json → Bool
  | .null => false
  | .bool value => value
  | .int value => value != 0
  | .float value => value.value != some 0
  | .str value => value != ""
  | .arr items => !items.isEmpty
  | .obj fields => !fields.isEmpty

def orEmpty (value : Json) : Json := if value.truthy then value else .arr []

def find (key : String) : List (String × Json) → Option Json
  | [] => none
  | (name,value)::rest => if name = key then some value else find key rest

def getD (key : String) (value default : Json) : Except Exn Json :=
  match value with
  | .obj fields => .ok ((find key fields).getD default)
  | other => .error (Exn.attributeError other.typeName "get")

def get (key : String) (value : Json) : Except Exn Json := value.getD key .null

def item (key : String) : Json → Except Exn Json
  | .obj fields => match find key fields with
    | some value => .ok value
    | none => .error (Exn.keyError key)
  | .arr _ => .error (Exn.typeError "list indices must be integers or slices, not str")
  | .str _ => .error (Exn.typeError "string indices must be integers, not 'str'")
  | other => .error (Exn.typeError ("'" ++ other.typeName ++ "' object is not subscriptable"))

def head : Json → Except Exn Json
  | .arr (first::_) => .ok first
  | .arr [] => .error ⟨.indexError,"list index out of range"⟩
  | .str text => match text.toList with
    | first::_ => .ok (.str (String.singleton first))
    | [] => .error ⟨.indexError,"string index out of range"⟩
  | .obj _ => .error (Exn.keyError "0")
  | other => .error (Exn.typeError ("'" ++ other.typeName ++ "' object is not subscriptable"))

def elements : Json → Except Exn (List Json)
  | .arr items => .ok items
  | .obj fields => .ok (fields.map (fun field => .str field.1))
  | .str text => .ok (text.toList.map (fun c => .str (String.singleton c)))
  | other => .error (Exn.typeError ("'" ++ other.typeName ++ "' object is not iterable"))

def number : Json → Option (Option Rat)
  | .bool value => some (some (if value then 1 else 0))
  | .int value => some (some value)
  | .float value => some value.value
  | _ => none

/-- `left + right`. A numeric sum is only ever tested for truth, so it is kept as
a float of the exact sum. -/
def add : Json → Json → Except Exn Json
  | .arr left,.arr right => .ok (.arr (left ++ right))
  | .str left,.str right => .ok (.str (left ++ right))
  | left,right => match left.number,right.number with
    | some a,some b => .ok (.float ⟨do return (← a) + (← b),""⟩)
    | _,_ => .error (Exn.typeError
        ("unsupported operand type(s) for +: '" ++ left.typeName ++ "' and '" ++ right.typeName ++ "'"))

def isText (text : String) : Json → Bool
  | .str value => value == text
  | _ => false

/-- `value in texts` for a set of strings: the value is hashed first. -/
def memberOf (texts : List String) : Json → Except Exn Bool
  | .str value => .ok (texts.contains value)
  | .arr _ => .error (Exn.typeError "unhashable type: 'list'")
  | .obj _ => .error (Exn.typeError "unhashable type: 'dict'")
  | _ => .ok false

def sameKey (left right : Json) : Bool :=
  match left.number,right.number with
  | some (some a),some (some b) => a == b
  | _,_ => match left,right with
    | .null,.null => true
    | .str a,.str b => a == b
    | .float a,.float b => a.value.isNone && a.repr != "nan" && a == b
    | _,_ => false

def optionalText : Json → Except Exn (Option String)
  | .null => .ok none
  | .str value => .ok (some value)
  | _ => .error ⟨.pydanticValidationError,"Input should be a valid string"⟩

def text : Json → Except Exn String
  | .str value => .ok value
  | _ => .error ⟨.pydanticValidationError,"Input should be a valid string"⟩

end Json

end AccessAgent
