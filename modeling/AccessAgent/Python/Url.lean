import AccessAgent.Python.Query
import AccessAgent.Semantics.Dictionary

/-! The fragment of a URL and its parameters (`urllib.parse.urlsplit`, and `parse_qsl` with blank
values left out). What is wrong with a network location other than unmatched brackets is a parameter. -/

namespace AccessAgent.Url
open Semantics

def stripped (url : List Char) : List Char := (url.dropWhile fun c => decide (c.toNat ≤ 0x20)).filter Query.kept

def schemeChar (c : Char) : Bool := c.isAlphanum || c == '+' || c == '-' || c == '.'

def afterScheme (url : List Char) : List Char :=
  let scheme := url.takeWhile (· != ':')
  match scheme,url.dropWhile (· != ':') with
  | first::_,_::rest => if first.isAlpha && scheme.all schemeChar then rest else url
  | _,_ => url

def netloc (url : List Char) : List Char :=
  match afterScheme (stripped url) with
  | '/' :: '/' :: rest => rest.takeWhile fun c => c != '/' && c != '?' && c != '#'
  | _ => []

def fragment (url : List Char) : List Char := ((afterScheme (stripped url)).dropWhile (· != '#')).tail

/-- One bracket without the other. -/
def Unmatched (netloc : List Char) : Prop := ¬('[' ∈ netloc ↔ ']' ∈ netloc)

instance (netloc : List Char) : Decidable (Unmatched netloc) := inferInstanceAs (Decidable (¬_))

/-- The fragment that `urlsplit` gives. -/
def urlsplit (fault : List Char → Option String) (url : List Char) : Except Exn (List Char) :=
  if Unmatched (netloc url) then .error (Exn.valueError "Invalid IPv6 URL")
  else match fault (netloc url) with
    | some message => .error (Exn.valueError message)
    | none => .ok (fragment url)

/-- A network location without faults. -/
def Splits (fault : List Char → Option String) (url : List Char) : Prop :=
  ¬Unmatched (netloc url) ∧ fault (netloc url) = none

theorem urlsplit_ok {fault : List Char → Option String} {url part : List Char} :
    urlsplit fault url = .ok part ↔ Splits fault url ∧ part = fragment url := by
  rw [urlsplit,Splits]
  split
  next unmatched => simp [unmatched]
  next matched =>
    cases fault (netloc url) with
    | some message => simp
    | none => simp [matched,eq_comm]

/-- `dict(parse_qsl(text))` -/
def parameters (text : List Char) : Dictionary String String :=
  ((text.splitOn '&').filter fun field => !(field.dropWhile (· != '=')).tail.isEmpty).foldl (fun read field =>
    read.set (String.ofList (Query.pair field).1) (String.ofList (Query.pair field).2)) []

end AccessAgent.Url
