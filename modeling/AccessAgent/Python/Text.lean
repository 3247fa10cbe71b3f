import AccessAgent.Python.Json

/-! String conversions: `str`, `repr`, `upper`, `join` and percent-encoding. -/

namespace AccessAgent

namespace Text

def join (separator : String) : List String → String
  | [] => ""
  | [part] => part
  | part::rest => part ++ separator ++ join separator rest

def hexDigit (n : Nat) : Char := ("0123456789abcdef".toList).getD n '0'

def hex (width n : Nat) : List Char := match width with
  | 0 => []
  | rest + 1 => hex rest (n / 16) ++ [hexDigit (n % 16)]

/-- The controls, formats, blanks and private characters that `repr` escapes. Code points that
are not assigned count as printable here. -/
def unprintable : List (Nat × Nat) :=
  [(0,31),(0x7f,0xa0),(0xad,0xad),(0x600,0x605),(0x61c,0x61c),(0x6dd,0x6dd),(0x70f,0x70f),(0x890,0x891),(0x8e2,0x8e2),
    (0x1680,0x1680),(0x180e,0x180e),(0x2000,0x200f),(0x2028,0x202f),(0x205f,0x2064),(0x2066,0x206f),(0x3000,0x3000),
    (0xe000,0xf8ff),(0xfeff,0xfeff),(0xfff9,0xfffb),(0x110bd,0x110bd),(0x110cd,0x110cd),(0x13430,0x1343f),
    (0x1bca0,0x1bca3),(0x1d173,0x1d17a),(0xe0001,0xe0001),(0xe0020,0xe007f),(0xf0000,0xffffd),(0x100000,0x10fffd)]

def escaped (n : Nat) : List Char :=
  if n < 256 then ['\\','x'] ++ hex 2 n else if n < 65536 then ['\\','u'] ++ hex 4 n else ['\\','U'] ++ hex 8 n

def reprChar (quote c : Char) : List Char :=
  if c = quote then ['\\',c]
  else if c = '\\' then ['\\','\\']
  else if c = '\n' then ['\\','n']
  else if c = '\r' then ['\\','r']
  else if c = '\t' then ['\\','t']
  else if unprintable.any fun range => range.1 ≤ c.toNat && c.toNat ≤ range.2 then escaped c.toNat
  else [c]

def reprText (text : String) : String :=
  let quote := if '\'' ∈ text.toList ∧ '"' ∉ text.toList then '"' else '\''
  String.ofList (quote::(text.toList.flatMap (reprChar quote) ++ [quote]))

/-- `str.upper` of one character, exact wherever the result is ASCII: the sharp s,
the long s, the dotless i and the Latin ligatures map into ASCII letters. -/
def upperChar (c : Char) : List Char :=
  if c = 'ß' then ['S','S']
  else if c = 'ſ' then ['S']
  else if c = 'ı' then ['I']
  else if c = 'ﬀ' then ['F','F']
  else if c = 'ﬁ' then ['F','I']
  else if c = 'ﬂ' then ['F','L']
  else if c = 'ﬃ' then ['F','F','I']
  else if c = 'ﬄ' then ['F','F','L']
  else if c = 'ﬅ' ∨ c = 'ﬆ' then ['S','T']
  else [c.toUpper]

def upper (text : String) : String := String.ofList (text.toList.flatMap upperChar)

def rstripSlash (text : String) : String :=
  String.ofList (text.toList.reverse.dropWhile (· == '/')).reverse

def utf8 (c : Char) : List Nat :=
  let n := c.toNat
  if n < 0x80 then [n]
  else if n < 0x800 then [0xc0 + n / 0x40,0x80 + n % 0x40]
  else if n < 0x10000 then [0xe0 + n / 0x1000,0x80 + n / 0x40 % 0x40,0x80 + n % 0x40]
  else [0xf0 + n / 0x40000,0x80 + n / 0x1000 % 0x40,0x80 + n / 0x40 % 0x40,0x80 + n % 0x40]

def unreserved (c : Char) : Bool :=
  ('a' ≤ c && c ≤ 'z') || ('A' ≤ c && c ≤ 'Z') || ('0' ≤ c && c ≤ '9') ||
    c == '_' || c == '.' || c == '-' || c == '~'

def percent (byte : Nat) : List Char := '%'::(hex 2 byte).map Char.toUpper

def quote (text : String) : String :=
  String.ofList (text.toList.flatMap (fun c => if unreserved c then [c] else (utf8 c).flatMap percent))

def padded (width n : Nat) : String :=
  let digits := (toString n).toList
  String.ofList (List.replicate (width - digits.length) '0' ++ digits)

end Text

namespace Json

mutual
def pyRepr : Json → String
  | .null => "None"
  | .bool value => if value then "True" else "False"
  | .int value => toString value
  | .float value => value.repr
  | .str value => Text.reprText value
  | .arr items => "[" ++ Text.join ", " (reprItems items) ++ "]"
  | .obj fields => "\x7b" ++ Text.join ", " (reprFields fields) ++ "\x7d"
def reprItems : List Json → List String
  | [] => []
  | item::rest => item.pyRepr :: reprItems rest
def reprFields : List (String × Json) → List String
  | [] => []
  | (key,value)::rest => (Text.reprText key ++ ": " ++ value.pyRepr) :: reprFields rest
end

def pyStr : Json → String
  | .str value => value
  | other => other.pyRepr

end Json

end AccessAgent
