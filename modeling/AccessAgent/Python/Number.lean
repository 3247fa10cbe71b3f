import AccessAgent.Python.Text
import Mathlib.Data.List.Infix
import Mathlib.Data.Rat.Floor

/-! `int(value)` of a decoded JSON value, and the number that the value denotes. -/

namespace AccessAgent

namespace Text

def decimalZeros : List Nat :=
  [0x30,0x660,0x6f0,0x7c0,0x966,0x9e6,0xa66,0xae6,0xb66,0xbe6,0xc66,0xce6,0xd66,0xde6,0xe50,0xed0,0xf20,
    0x1040,0x1090,0x17e0,0x1810,0x1946,0x19d0,0x1a80,0x1a90,0x1b50,0x1bb0,0x1c40,0x1c50,0xa620,0xa8d0,0xa900,
    0xa9d0,0xa9f0,0xaa50,0xabf0,0xff10,0x104a0,0x10d30,0x11066,0x110f0,0x11136,0x111d0,0x112f0,0x11450,0x114d0,
    0x11650,0x116c0,0x11730,0x118e0,0x11950,0x11c50,0x11d50,0x11da0,0x11f50,0x16a60,0x16ac0,0x16b50,0x1d7ce,
    0x1d7d8,0x1d7e2,0x1d7ec,0x1d7f6,0x1e140,0x1e2f0,0x1e4f0,0x1e950,0x1fbf0]

def decimalDigit (c : Char) : Option Nat :=
  decimalZeros.findSome? fun first => if first ≤ c.toNat ∧ c.toNat < first + 10 then some (c.toNat - first) else none

/-- `c.isspace()`. -/
def isspace (c : Char) : Bool :=
  let n := c.toNat
  (9 ≤ n && n ≤ 13) || (28 ≤ n && n ≤ 32) || n == 0x85 || n == 0xa0 || n == 0x1680 || (0x2000 ≤ n && n ≤ 0x200a) ||
    n == 0x2028 || n == 0x2029 || n == 0x202f || n == 0x205f || n == 0x3000

/-- The blanks that `int` strips; of ASCII only the whitespace of C. -/
def intBlank (c : Char) : Bool := isspace c && !(28 ≤ c.toNat && c.toNat ≤ 31)

/-- Digits with single underscores between them, after the first digit. -/
def decimal : Nat → List Char → Option Nat
  | value,[] => some value
  | value,'_'::c::rest => do decimal (value * 10 + (← decimalDigit c)) rest
  | value,c::rest => do decimal (value * 10 + (← decimalDigit c)) rest

def unsigned : List Char → Option Nat
  | [] => none
  | c::rest => do decimal (← decimalDigit c) rest

def parseInt (text : String) : Except Exn Int :=
  let stripped := ((text.toList.dropWhile intBlank).reverse.dropWhile intBlank).reverse
  let (sign,body) : Int × List Char := match stripped with
    | '-'::rest => (-1,rest)
    | '+'::rest => (1,rest)
    | rest => (1,rest)
  match unsigned body with
  | none => .error (Exn.valueError ("invalid literal for int() with base 10: " ++ reprText text))
  | some value =>
    let size := (body.filter (· != '_')).length
    if 4300 < size then .error (Exn.valueError ("Exceeds the limit (4300 digits) for integer string " ++
      "conversion: value has " ++ toString size ++ " digits; use sys.set_int_max_str_digits() to increase the limit"))
    else .ok (sign * value)

end Text

namespace Json

def toInt : Json → Except Exn Int
  | .bool value => .ok (if value then 1 else 0)
  | .int value => .ok value
  | .float value => match value.value with
    | some exact => .ok (exact.num.tdiv exact.den)
    | none =>
      if value.repr = "nan" then .error (Exn.valueError "cannot convert float NaN to integer")
      else .error ⟨.overflowError,"cannot convert float infinity to integer"⟩
  | .str text => Text.parseInt text
  | other => .error (Exn.typeError
      ("int() argument must be a string, a bytes-like object or a real number, not '" ++ other.typeName ++ "'"))

/-- The number that a value which `int` accepts denotes. -/
def quantity : Json → Option Rat
  | .bool value => some (if value then 1 else 0)
  | .int value => some value
  | .float value => value.value
  | .str text => match Text.parseInt text with
    | .ok value => some value
    | .error _ => none
  | _ => none

theorem toInt_quantity {value : Json} {seconds : Int} (ok : value.toInt = .ok seconds) :
    ∃ number, value.quantity = some number ∧ seconds = number.num.tdiv number.den := by
  have integral : ∀ seconds : Int, seconds = (seconds : Rat).num.tdiv (seconds : Rat).den := by
    intro seconds
    simp
  cases value with
  | bool flag =>
    rw [toInt] at ok
    rw [← Except.ok.inj ok]
    cases flag <;> exact ⟨_,rfl,by decide +kernel⟩
  | int number =>
    rw [← Except.ok.inj ok]
    exact ⟨_,rfl,integral number⟩
  | float number =>
    rw [toInt] at ok
    split at ok
    next whole known => exact ⟨whole,known,(Except.ok.inj ok).symm⟩
    next => split at ok <;> exact absurd ok (by simp)
  | str text =>
    rw [toInt] at ok
    refine ⟨seconds,?_,integral seconds⟩
    rw [quantity,ok]
  | null => exact absurd ok (by simp [toInt])
  | arr items => exact absurd ok (by simp [toInt])
  | obj fields => exact absurd ok (by simp [toInt])

theorem toInt_floor {value : Json} {seconds : Int} {number : Rat} (ok : value.toInt = .ok seconds)
    (denoted : value.quantity = some number) (positive : 0 < number) : seconds = ⌊number⌋ := by
  obtain ⟨other,same,truncated⟩ := toInt_quantity ok
  rw [denoted] at same
  obtain rfl := Option.some.inj same
  rw [truncated,Rat.floor_def',Int.tdiv_eq_ediv_of_nonneg (Rat.num_nonneg.mpr positive.le)]

theorem toInt_nonpos {value : Json} {seconds : Int} {number : Rat} (ok : value.toInt = .ok seconds)
    (denoted : value.quantity = some number) (negative : number ≤ 0) : seconds ≤ 0 := by
  obtain ⟨other,same,truncated⟩ := toInt_quantity ok
  rw [denoted] at same
  obtain rfl := Option.some.inj same
  rw [truncated]
  have below : number.num ≤ 0 := Rat.num_nonpos.mpr negative
  have mirrored : 0 ≤ (-number.num).tdiv number.den := Int.tdiv_nonneg (by omega) (Int.natCast_nonneg _)
  rw [Int.neg_tdiv] at mirrored
  omega

def contains (key : String) : Json → Except Exn Bool
  | .obj fields => .ok (find key fields).isSome
  | .arr items => .ok (items.any (isText key))
  | .str text => .ok (decide (key.toList <:+: text.toList))
  | other => .error (Exn.typeError ("argument of type '" ++ other.typeName ++ "' is not iterable"))

end Json

end AccessAgent
