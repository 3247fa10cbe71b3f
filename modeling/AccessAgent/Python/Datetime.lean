import AccessAgent.Python.Number
import AccessAgent.Semantics.Selection
import Mathlib.Algebra.Order.Ring.Int

/-! `datetime` values, their comparison, and the two parsers the code uses.
A naive value carries no offset; comparing it with an aware one raises. -/

namespace AccessAgent

abbrev Timedelta := Int

namespace Calendar

def leap (year : Nat) : Bool := year % 4 == 0 && (year % 100 != 0 || year % 400 == 0)

def daysInMonth (year month : Nat) : Nat :=
  if month = 2 then (if leap year then 29 else 28)
  else if month = 4 ∨ month = 6 ∨ month = 9 ∨ month = 11 then 30 else 31

def daysBeforeYear (year : Nat) : Nat :=
  let y := year - 1
  y * 365 + y / 4 - y / 100 + y / 400

def daysBeforeMonth (year month : Nat) : Nat :=
  ((List.range (month - 1)).map (fun i => daysInMonth year (i + 1))).sum

def ordinal (year month day : Nat) : Nat := daysBeforeYear year + daysBeforeMonth year month + day

def monthDay (year : Nat) : Nat → Nat → Nat → Nat × Nat
  | 0,month,day => (month,day)
  | fuel + 1,month,day =>
    if daysInMonth year month < day then monthDay year fuel (month + 1) (day - daysInMonth year month)
    else (month,day)

def ofYearDay (year day : Nat) : Nat × Nat × Nat :=
  let length := if leap year then 366 else 365
  if length < day then (year + 1,monthDay (year + 1) 11 1 (day - length))
  else (year,monthDay year 11 1 day)

end Calendar

/-- The fields of a `datetime`; `offset` is the UTC offset in microseconds. -/
structure DatetimeFields where
  year : Nat
  month : Nat
  day : Nat
  hour : Nat
  minute : Nat
  second : Nat
  microsecond : Nat
  offset : Option Int
deriving DecidableEq, Repr

def dayMicroseconds : Int := 86400000000

def DatetimeFields.valid (d : DatetimeFields) : Bool :=
  1 ≤ d.year && d.year ≤ 9999 && 1 ≤ d.month && d.month ≤ 12 && 1 ≤ d.day &&
    d.day ≤ Calendar.daysInMonth d.year d.month && d.hour < 24 && d.minute < 60 && d.second < 60 &&
    d.microsecond < 1000000 &&
    match d.offset with
    | none => true
    | some offset => -dayMicroseconds < offset && offset < dayMicroseconds

structure Datetime where
  fields : DatetimeFields
  valid : fields.valid = true
deriving DecidableEq

namespace Datetime

def make (fields : DatetimeFields) : Option Datetime :=
  if valid : fields.valid = true then some ⟨fields,valid⟩ else none

def aware (d : Datetime) : Bool := d.fields.offset.isSome

def wall (d : Datetime) : Int :=
  ((((Calendar.ordinal d.fields.year d.fields.month d.fields.day - 1 : Int) * 24 + d.fields.hour) * 60
    + d.fields.minute) * 60 + d.fields.second) * 1000000 + d.fields.microsecond

/-- Microseconds since 0001-01-01 in UTC, or on the wall clock of a naive value. -/
def instant (d : Datetime) : Int := d.wall - d.fields.offset.getD 0

/-- The order of `datetime`: defined among aware and among naive values. -/
def order : Semantics.Comparison Exn Datetime Bool Int where
  kind := aware
  rank := instant
  clash := Exn.typeError "can't compare offset-naive and offset-aware datetimes"

def gt (a b : Datetime) : Except Exn Bool := order.greater a b

def lt (a b : Datetime) : Except Exn Bool := order.greater b a

def le (a b : Datetime) : Except Exn Bool := do
  let above ← order.greater a b
  return !above

/-- `a == b`, which never raises: a naive and an aware value differ. -/
def same (a b : Datetime) : Prop := a.aware = b.aware ∧ a.instant = b.instant

def isodate (d : Datetime) : String :=
  Text.padded 4 d.fields.year ++ "-" ++ Text.padded 2 d.fields.month ++ "-" ++ Text.padded 2 d.fields.day

def isoclock (hour minute second microsecond : Nat) : String :=
  Text.padded 2 hour ++ ":" ++ Text.padded 2 minute ++ ":" ++ Text.padded 2 second ++
    (if microsecond = 0 then "" else "." ++ Text.padded 6 microsecond)

def isooffset (offset : Int) : String :=
  let size := offset.natAbs
  let microsecond := size % 1000000
  let second := size / 1000000 % 60
  let minute := size / 60000000 % 60
  let hour := size / 3600000000
  (if offset < 0 then "-" else "+") ++
    if second = 0 ∧ microsecond = 0 then Text.padded 2 hour ++ ":" ++ Text.padded 2 minute
    else isoclock hour minute second microsecond

def isoformat (d : Datetime) : String :=
  d.isodate ++ "T" ++ isoclock d.fields.hour d.fields.minute d.fields.second d.fields.microsecond ++
    match d.fields.offset with
    | none => ""
    | some offset => isooffset offset

def json (d : Datetime) : String :=
  if d.fields.offset = some 0 then
    d.isodate ++ "T" ++ isoclock d.fields.hour d.fields.minute d.fields.second d.fields.microsecond ++ "Z"
  else d.isoformat

/-- `d - window`, as the instant it denotes. -/
def minus (d : Datetime) (window : Timedelta) : Except Exn Int :=
  if 0 ≤ d.wall - window ∧ d.wall - window < 3652059 * dayMicroseconds then .ok (d.instant - window)
  else .error ⟨.overflowError,"date value out of range"⟩

/-- `int(timestamp * 1000)` of an instant, the float product taken exactly. -/
def milliseconds (instant : Int) : Int := (instant - 62135596800000000).tdiv 1000

end Datetime

structure UtcNow where
  value : Datetime
  utc : value.fields.offset = some 0

instance : Inhabited UtcNow where
  default := ⟨⟨⟨1970,1,1,0,0,0,0,some 0⟩,by decide⟩,rfl⟩

namespace Parsing

def digit (c : Char) : Option Nat := if '0' ≤ c ∧ c ≤ '9' then some (c.toNat - '0'.toNat) else none

def digits : Nat → Nat → List Char → Option (Nat × List Char)
  | 0,value,rest => some (value,rest)
  | count + 1,value,c::rest => do digits count (value * 10 + (← digit c)) rest
  | _ + 1,_,[] => none

structure Clock where
  hour : Nat
  minute : Nat
  second : Nat
  microsecond : Nat
  leftover : Bool
deriving DecidableEq

def fraction (found : List Nat) (text : List Char) (size : Nat) : Option Clock := do
  let count := min size 6
  let (value,rest) ← digits count 0 text
  let rest := rest.dropWhile (fun c => (digit c).isSome)
  return ⟨found.getD 0 0,found.getD 1 0,found.getD 2 0,value * 10 ^ (6 - count),!rest.isEmpty⟩

/-- The components after the first, once it is known whether they are separated by
colons. `size` counts the characters up to the end of the clock part, which may lie
before the end of `text`: the scanner reads one character past it. -/
def components : Nat → Option Bool → List Nat → List Char → Nat → Option Clock
  | 0,_,_,_,_ => none
  | remaining + 1,separated,found,text,size => do
    let (value,rest) ← digits 2 0 text
    let found := found ++ [value]
    let next := rest.head?
    let separated := separated.getD (next == some ':')
    if size ≤ 3 then
      return ⟨found.getD 0 0,found.getD 1 0,found.getD 2 0,0,next.isSome⟩
    if separated && next == some ':' then
      if remaining = 0 then fraction found rest.tail (size - 3)
      else components remaining (some separated) found rest.tail (size - 3)
    else if next == some '.' || next == some ',' then fraction found rest.tail (size - 3)
    else if separated then none
    else if remaining = 0 then fraction found rest (size - 2)
    else components remaining (some separated) found rest (size - 2)

def clock (text : List Char) (size : Nat) : Option Clock := components 3 none [] text size

def zoneMark (c : Char) : Bool := c == '+' || c == '-' || c == 'Z'

def time (text : List Char) : Option (Clock × Option Int) := do
  let size := (text.takeWhile (fun c => !zoneMark c)).length
  let parsed ← clock text size
  match text.drop size with
  | [] => if parsed.leftover then none else some (parsed,none)
  | mark::zone =>
    if mark == 'Z' then
      if zone.isEmpty then some (parsed,some 0) else none
    else
      let offset ← clock zone zone.length
      if offset.leftover then none
      else
        let sign : Int := if mark == '-' then -1 else 1
        some (parsed,some (sign * (((offset.hour * 60 + offset.minute) * 60 + offset.second : Nat)
          * 1000000 + offset.microsecond)))

def isoWeekOne (year : Nat) : Int :=
  let first : Int := Calendar.ordinal year 1 1
  let weekday := (first + 6) % 7
  if weekday ≤ 3 then first - weekday else first - weekday + 7

def isoWeekDate (year week day : Nat) : Option (Nat × Nat × Nat) :=
  let first : Int := Calendar.ordinal year 1 1
  let weekday := (first + 6) % 7
  let long := weekday = 3 ∨ weekday = 2 ∧ Calendar.leap year = true
  if year < 1 ∨ 9999 < year ∨ week < 1 ∨ 53 < week ∨ (week = 53 ∧ ¬long) ∨ day < 1 ∨ 7 < day then none
  else
    let target := isoWeekOne year + (week - 1) * 7 + (day - 1)
    if target < first then
      some (year - 1,Calendar.monthDay (year - 1) 11 1
        (target - Calendar.ordinal (year - 1) 1 1 + 1).toNat)
    else some (Calendar.ofYearDay year (target - first + 1).toNat)

def date (text : List Char) (length : Nat) : Option (Nat × Nat × Nat) := do
  let (year,rest) ← digits 4 0 text
  let dashed := rest.head? == some '-'
  let rest := if dashed then rest.tail else rest
  if rest.head? == some 'W' then
    let (week,rest) ← digits 2 0 rest.tail
    let used := 7 + if dashed then 1 else 0
    if used < length then
      if dashed && rest.head? != some '-' then none
      else
        let (day,_) ← digits 1 0 (if dashed then rest.tail else rest)
        isoWeekDate year week day
    else isoWeekDate year week 1
  else
    let (month,rest) ← digits 2 0 rest
    if dashed && rest.head? != some '-' then none
    else
      let (day,_) ← digits 2 0 (if dashed then rest.tail else rest)
      return (year,month,day)

def separator (text : List Char) : Option Nat :=
  let length := text.length
  let isDigit := fun c => (digit c).isSome
  if length = 7 then some 7
  else if text[4]? = some '-' then
    if text[5]? = some 'W' then
      if length < 8 then none
      else if 8 < length ∧ text[8]? = some '-' then
        if length = 9 then none
        else if 10 < length ∧ (text[10]?.any isDigit) = true then some 8
        else some 10
      else some 8
    else some 10
  else if text[4]? = some 'W' then
    let stop := 7 + ((text.drop 7).takeWhile isDigit).length
    if stop < 9 then some stop
    else if stop % 2 = 0 then some 7 else some 8
  else some 8

end Parsing

namespace Parsing

def width (c : Char) : Nat := (Text.utf8 c).length

/-- The text as the scanner counts it, in bytes: a character, then a place for each byte that continues it. -/
def octets (text : String) : List Char :=
  text.toList.flatMap fun c => c::List.replicate (width c - 1) (Char.ofNat 128)

end Parsing

open Parsing in
/-- `datetime.fromisoformat(text)`; `none` where it raises `ValueError`. -/
def Datetime.fromisoformat (text : String) : Option Datetime := do
  let chars := octets text
  if chars.length < 7 then none
  else
    let split ← separator chars
    let (year,month,day) ← date chars split
    match chars[split]? with
    | none => Datetime.make ⟨year,month,day,0,0,0,0,none⟩
    | some mark =>
      let (clock,offset) ← time (chars.drop (split + width mark))
      Datetime.make ⟨year,month,day,clock.hour,clock.minute,clock.second,clock.microsecond,offset⟩

namespace Parsing

/-- A place of a directive's pattern: an ASCII digit within bounds, any decimal digit, or the
blank that `%d` takes before one digit. -/
inductive Place
  | within (low high : Nat)
  | decimal
  | blank

def Place.read (c : Char) : Place → Option Nat
  | .within low high => (digit c).filter fun value => low ≤ value && value ≤ high
  | .decimal => Text.decimalDigit c
  | .blank => if c = ' ' then some 0 else none

def places : List Place → Nat → List Char → Option (Nat × List Char)
  | [],value,rest => some (value,rest)
  | place::more,value,c::rest => do places more (value * 10 + (← place.read c)) rest
  | _::_,_,[] => none

/-- The numbers that a directive accepts, in the order of its alternatives, with the text after each. -/
def directive (alternatives : List (List Place)) (text : List Char) : List (Nat × List Char) :=
  alternatives.filterMap fun alternative => places alternative 0 text

def monthDirective : List (List Place) := [[.within 1 1,.within 0 2],[.within 0 0,.within 1 9],[.within 1 9]]

def dayDirective : List (List Place) :=
  [[.within 3 3,.within 0 1],[.within 1 2,.decimal],[.within 0 0,.within 1 9],[.within 1 9],[.blank,.within 1 9]]

def yearDirective : List (List Place) := [[.decimal,.decimal,.decimal,.decimal]]

def hourDirective : List (List Place) := [[.within 2 2,.within 0 3],[.within 0 1,.decimal],[.decimal]]

def minuteDirective : List (List Place) := [[.within 0 5,.decimal],[.decimal]]

def secondDirective : List (List Place) := [[.within 6 6,.within 0 1],[.within 0 5,.decimal],[.decimal]]

def literal (c : Char) : List Char → List (List Char)
  | head::rest => if head = c then [rest] else []
  | [] => []

/-- The rests after a run of whitespace, longest run first. -/
def blanks (text : List Char) : List (List Char) :=
  let run := (text.takeWhile Text.isspace).length
  (List.range run).map (fun i => text.drop (run - i))

def slashed (text : List Char) : List (List Nat × List Char) := do
  let (month,rest) ← directive monthDirective text
  let rest ← literal '/' rest
  let (day,rest) ← directive dayDirective rest
  let rest ← literal '/' rest
  let (year,rest) ← directive yearDirective rest
  let rest ← blanks rest
  let (hour,rest) ← directive hourDirective rest
  let rest ← literal ':' rest
  let (minute,rest) ← directive minuteDirective rest
  let rest ← literal ':' rest
  let (second,rest) ← directive secondDirective rest
  return ([year,month,day,hour,minute,second],rest)

end Parsing

open Parsing in
/-- `datetime.strptime(text, "%m/%d/%Y %H:%M:%S")`; `none` where it raises `ValueError`. -/
def Datetime.strptime (text : String) : Option Datetime :=
  match slashed text.toList with
  | ([year,month,day,hour,minute,second],[])::_ =>
    Datetime.make ⟨year,month,day,hour,minute,second,0,none⟩
  | _ => none

end AccessAgent
