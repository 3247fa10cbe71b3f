import AccessAgent.Python.Text
import Mathlib.Data.List.TakeWhile

/-! The query of a URL and its parameters (`urllib.parse.urlsplit` and `parse_qsl` with blank
values kept): split at the ampersands, a plus for a space, percent-encoded UTF-8 with the
replacement character for what is malformed. -/

namespace AccessAgent.Query

/-! ### Percent-encoding -/

inductive Token
  | byte (value : Nat)
  | char (value : Char)

def hexValue (c : Char) : Option Nat :=
  if '0' ≤ c ∧ c ≤ '9' then some (c.toNat - 48)
  else if 'a' ≤ c ∧ c ≤ 'f' then some (c.toNat - 87)
  else if 'A' ≤ c ∧ c ≤ 'F' then some (c.toNat - 55)
  else none

def escaped (mark high low : Char) : Option Nat :=
  if mark = '%' then do return 16 * (← hexValue high) + (← hexValue low) else none

def tokens : List Char → List Token
  | mark::high::low::rest => match escaped mark high low with
    | some value => .byte value::tokens rest
    | none => .char mark::tokens (high::low::rest)
  | rest => rest.map .char

/-- Some percent sign is followed by two hexadecimal digits. -/
def Escapes (text : List Char) : Prop :=
  ∃ before high low after, text = before ++ '%'::high::low::after ∧ (hexValue high).isSome = true ∧ (hexValue low).isSome = true

theorem escaped_some {mark high low : Char} : (∃ value, escaped mark high low = some value) ↔
    mark = '%' ∧ (hexValue high).isSome = true ∧ (hexValue low).isSome = true := by
  rw [escaped]
  by_cases percent : mark = '%'
  · rw [if_pos percent]
    cases hexValue high <;> cases hexValue low <;> simp [percent]
  · simp [percent]

theorem escapes_cons {mark : Char} {text : List Char} : Escapes (mark::text) ↔
    (∃ high low rest, text = high::low::rest ∧ ∃ value, escaped mark high low = some value) ∨ Escapes text := by
  simp only [escaped_some]
  constructor
  · rintro ⟨before,high,low,after,shape,digits⟩
    cases before with
    | nil =>
      obtain ⟨rfl,rfl⟩ := List.cons.inj shape
      exact Or.inl ⟨high,low,after,rfl,rfl,digits⟩
    | cons first before =>
      obtain ⟨rfl,rfl⟩ := List.cons.inj shape
      exact Or.inr ⟨before,high,low,after,rfl,digits⟩
  · rintro (⟨high,low,rest,rfl,rfl,digits⟩ | ⟨before,high,low,after,rfl,digits⟩)
    · exact ⟨[],high,low,rest,rfl,digits⟩
    · exact ⟨mark::before,high,low,after,rfl,digits⟩

theorem escapes_length {text : List Char} (escapes : Escapes text) : 3 ≤ text.length := by
  obtain ⟨before,high,low,after,rfl,_⟩ := escapes
  simp only [List.length_append,List.length_cons]
  omega

theorem tokens_length (text : List Char) : (tokens text).length ≤ text.length := by
  induction text using tokens.induct with
  | case1 mark high low rest value escape ih =>
    rw [tokens,escape]
    simp only [List.length_cons]
    omega
  | case2 mark high low rest escape ih =>
    rw [tokens,escape]
    simpa using ih
  | case3 rest short =>
    rw [tokens]
    · simp
    · exact short

theorem tokens_shorter {text : List Char} (escapes : Escapes text) : (tokens text).length < text.length := by
  induction text using tokens.induct with
  | case1 mark high low rest value escape ih =>
    have below := tokens_length rest
    rw [tokens,escape]
    simp only [List.length_cons]
    omega
  | case2 mark high low rest escape ih =>
    rw [tokens,escape]
    rcases escapes_cons.mp escapes with ⟨first,second,others,shape,value,here⟩ | later
    · obtain ⟨rfl,rest⟩ := List.cons.inj shape
      obtain ⟨rfl,_⟩ := List.cons.inj rest
      simp [escape] at here
    · simpa using ih later
  | case3 rest short =>
    have long := escapes_length escapes
    rcases rest with _ | ⟨mark,_ | ⟨high,_ | ⟨low,rest⟩⟩⟩
    · simp at long
    · simp at long
    · simp at long
    · exact absurd rfl (short mark high low rest)

theorem tokens_plain {text : List Char} (plain : ¬Escapes text) : tokens text = text.map .char := by
  induction text using tokens.induct with
  | case1 mark high low rest value escape ih =>
    exact absurd (escapes_cons.mpr (Or.inl ⟨high,low,rest,rfl,value,escape⟩)) plain
  | case2 mark high low rest escape ih =>
    rw [tokens,escape,List.map_cons,ih fun later => plain (escapes_cons.mpr (Or.inr later))]
  | case3 rest short =>
    rw [tokens]
    exact short

/-! ### UTF-8 -/

/-- A sequence that has begun: the bounds of its next byte, how many follow that, and the bits. -/
structure Pending where
  more : Nat
  low : Nat
  high : Nat
  bits : Nat

def replacement : Char := '\ufffd'

def lead (byte : Nat) : Option Pending :=
  if 0xc2 ≤ byte ∧ byte ≤ 0xdf then some ⟨0,0x80,0xbf,byte - 0xc0⟩
  else if byte = 0xe0 then some ⟨1,0xa0,0xbf,0⟩
  else if byte = 0xed then some ⟨1,0x80,0x9f,0xd⟩
  else if 0xe1 ≤ byte ∧ byte ≤ 0xef then some ⟨1,0x80,0xbf,byte - 0xe0⟩
  else if byte = 0xf0 then some ⟨2,0x90,0xbf,0⟩
  else if byte = 0xf4 then some ⟨2,0x80,0x8f,4⟩
  else if 0xf1 ≤ byte ∧ byte ≤ 0xf3 then some ⟨2,0x80,0xbf,byte - 0xf0⟩
  else none

/-- What a byte gives where no sequence has begun, and the sequence it begins. -/
def start (byte : Nat) : List Char × Option Pending :=
  if byte < 0x80 then ([Char.ofNat byte],none)
  else match lead byte with
    | some pending => ([],some pending)
    | none => ([replacement],none)

def flush : Option Pending → List Char
  | some _ => [replacement]
  | none => []

def accept : Option Pending → Nat → List Char × Option Pending
  | none,byte => start byte
  | some pending,byte =>
    if pending.low ≤ byte ∧ byte ≤ pending.high then
      let bits := pending.bits * 64 + byte % 64
      match pending.more with
      | 0 => ([Char.ofNat bits],none)
      | more + 1 => ([],some ⟨more,0x80,0xbf,bits⟩)
    else (replacement::(start byte).1,(start byte).2)

def decode : Option Pending → List Token → List Char
  | pending,[] => flush pending
  | pending,.char c::rest => flush pending ++ c::decode none rest
  | pending,.byte byte::rest => (accept pending byte).1 ++ decode (accept pending byte).2 rest

theorem decode_chars (text : List Char) : decode none (text.map .char) = text := by
  induction text with
  | nil => rfl
  | cons c rest ih =>
    rw [List.map_cons,decode,ih]
    rfl

/-- A sequence that has begun may still give one character. -/
theorem start_length (byte : Nat) : (start byte).1.length + (flush (start byte).2).length ≤ 1 := by
  rw [start]
  split
  · exact le_rfl
  · split <;> exact le_rfl

theorem accept_length (pending : Option Pending) (byte : Nat) :
    (accept pending byte).1.length + (flush (accept pending byte).2).length ≤ (flush pending).length + 1 := by
  have begun := start_length byte
  cases pending with
  | none => simpa [accept,flush] using begun
  | some pending =>
    rw [accept]
    split
    · dsimp only
      split <;> simp [flush]
    · have alone : (flush (some pending)).length = 1 := rfl
      rw [List.length_cons,alone]
      dsimp only
      omega

theorem decode_length (pending : Option Pending) (text : List Token) :
    (decode pending text).length ≤ text.length + (flush pending).length := by
  induction text generalizing pending with
  | nil => simp [decode]
  | cons token rest ih =>
    cases token with
    | char c =>
      have later := ih none
      simp only [decode,List.length_append,List.length_cons,flush,List.length_nil] at later ⊢
      omega
    | byte byte =>
      have here := accept_length pending byte
      have later := ih (accept pending byte).2
      simp only [decode,List.length_append,List.length_cons]
      omega

theorem accept_more {low high byte bits : Nat} (more : Nat) (within : low ≤ byte ∧ byte ≤ high) :
    accept (some ⟨more + 1,low,high,bits⟩) byte = ([],some ⟨more,0x80,0xbf,bits * 64 + byte % 64⟩) := by
  rw [accept,if_pos within]

theorem accept_last {low high byte bits : Nat} (within : low ≤ byte ∧ byte ≤ high) :
    accept (some ⟨0,low,high,bits⟩) byte = ([Char.ofNat (bits * 64 + byte % 64)],none) := by
  rw [accept,if_pos within]

theorem start_ascii {byte : Nat} (ascii : byte < 0x80) : start byte = ([Char.ofNat byte],none) := by
  rw [start,if_pos ascii]

theorem start_lead {byte : Nat} {pending : Pending} (known : lead byte = some pending) : start byte = ([],some pending) := by
  have beyond : ¬byte < 0x80 := by
    intro ascii
    simp only [lead] at known
    split_ifs at known <;> omega
  rw [start,if_neg beyond,known]

theorem lead_two {n : Nat} (long : 0x80 ≤ n) (short : n < 0x800) :
    lead (0xc0 + n / 0x40) = some ⟨0,0x80,0xbf,n / 0x40⟩ := by
  rw [lead,if_pos (by omega),Nat.add_sub_cancel_left]

theorem pending_bits (more low high : Nat) {bits other : Nat} (same : bits = other) :
    some (Pending.mk more low high bits) = some ⟨more,low,high,other⟩ := by
  rw [same]

theorem lead_three {n : Nat} (long : 0x800 ≤ n) (short : n < 0x10000) (scalar : n < 0xd800 ∨ 0xdfff < n) :
    ∃ low high, lead (0xe0 + n / 0x1000) = some ⟨1,low,high,n / 0x1000⟩ ∧ low ≤ 0x80 + n / 0x40 % 0x40 ∧
      0x80 + n / 0x40 % 0x40 ≤ high := by
  rw [lead,if_neg (by omega)]
  split_ifs
  · exact ⟨0xa0,0xbf,pending_bits _ _ _ (by omega),by omega,by omega⟩
  · exact ⟨0x80,0x9f,pending_bits _ _ _ (by omega),by omega,by omega⟩
  · exact ⟨0x80,0xbf,pending_bits _ _ _ (by omega),by omega,by omega⟩
  all_goals omega

theorem lead_four {n : Nat} (long : 0x10000 ≤ n) (short : n < 0x110000) :
    ∃ low high, lead (0xf0 + n / 0x40000) = some ⟨2,low,high,n / 0x40000⟩ ∧ low ≤ 0x80 + n / 0x1000 % 0x40 ∧
      0x80 + n / 0x1000 % 0x40 ≤ high := by
  rw [lead,if_neg (by omega),if_neg (by omega),if_neg (by omega),if_neg (by omega)]
  split_ifs
  · exact ⟨0x90,0xbf,pending_bits _ _ _ (by omega),by omega,by omega⟩
  · exact ⟨0x80,0x8f,pending_bits _ _ _ (by omega),by omega,by omega⟩
  · exact ⟨0x80,0xbf,pending_bits _ _ _ (by omega),by omega,by omega⟩
  · omega

/-- The bytes of a character are read back as that character. -/
theorem decode_utf8 (c : Char) (rest : List Token) :
    decode none ((Text.utf8 c).map .byte ++ rest) = c::decode none rest := by
  have range : c.toNat < 0xd800 ∨ 0xdfff < c.toNat ∧ c.toNat < 0x110000 := c.valid
  have back : Char.ofNat c.toNat = c := Char.ofNat_toNat c
  rw [Text.utf8]
  generalize c.toNat = n at range back
  subst back
  split
  next ascii => rw [List.map_singleton,List.singleton_append,decode,accept,start_ascii ascii,List.singleton_append]
  next long =>
    split
    next short =>
      rw [List.map_cons,List.map_singleton,List.cons_append,List.singleton_append,decode,decode,accept,
        start_lead (lead_two (not_lt.mp long) short),accept_last (by omega)]
      have sum : n / 0x40 * 64 + (0x80 + n % 0x40) % 64 = n := by omega
      rw [sum]
      rfl
    next longer =>
      split
      next short =>
        obtain ⟨low,high,begins,below,above⟩ := lead_three (not_lt.mp longer) short (by omega)
        simp only [List.map_cons,List.map_nil,List.cons_append,List.nil_append,decode]
        rw [accept,start_lead begins,accept_more 0 ⟨below,above⟩,accept_last (by omega)]
        have sum : (n / 0x1000 * 64 + (0x80 + n / 0x40 % 0x40) % 64) * 64 + (0x80 + n % 0x40) % 64 = n := by omega
        rw [sum]
        rfl
      next longest =>
        obtain ⟨low,high,begins,below,above⟩ := lead_four (not_lt.mp longest) (by omega)
        simp only [List.map_cons,List.map_nil,List.cons_append,List.nil_append,decode]
        rw [accept,start_lead begins,accept_more 1 ⟨below,above⟩,accept_more 0 (by omega),accept_last (by omega)]
        have sum : ((n / 0x40000 * 64 + (0x80 + n / 0x1000 % 0x40) % 64) * 64 + (0x80 + n / 0x40 % 0x40) % 64) * 64 +
            (0x80 + n % 0x40) % 64 = n := by omega
        rw [sum]
        rfl

/-! ### A component of a query -/

def plus (c : Char) : Char := if c = '+' then ' ' else c

def unquotePlus (text : List Char) : List Char := decode none (tokens (text.map plus))

theorem plus_other {text : List Char} (none : '+' ∉ text) : text.map plus = text := by
  have same : ∀ c ∈ text, plus c = id c := by
    intro c member
    have other : c ≠ '+' := by
      rintro rfl
      exact none member
    rw [plus,if_neg other]
    rfl
  rw [List.map_congr_left same,List.map_id]

theorem unquotePlus_length (text : List Char) : (unquotePlus text).length ≤ text.length := by
  have read := decode_length none (tokens (text.map plus))
  have short := tokens_length (text.map plus)
  rw [List.length_map] at short
  simp only [flush,List.length_nil,Nat.add_zero] at read
  exact read.trans short

/-- Only a text without escapes and without a plus stands for itself. -/
theorem unquotePlus_self {text : List Char} : unquotePlus text = text ↔ '+' ∉ text ∧ ¬Escapes text := by
  constructor
  · intro same
    have read := decode_length none (tokens (text.map plus))
    have plain : ¬Escapes (text.map plus) := by
      intro escapes
      have shorter := tokens_shorter escapes
      have longer : (decode none (tokens (text.map plus))).length = text.length := congrArg List.length same
      simp only [flush,List.length_nil,List.length_map] at read shorter
      omega
    rw [unquotePlus,tokens_plain plain,decode_chars] at same
    refine ⟨fun member => ?_,same ▸ plain⟩
    rw [← same] at member
    obtain ⟨c,_,turned⟩ := List.mem_map.mp member
    rw [plus] at turned
    split at turned
    next => cases turned
    next other => exact other turned
  · rintro ⟨none,plain⟩
    rw [unquotePlus,plus_other none,tokens_plain plain,decode_chars]

/-! ### Quoting -/

def quoteChars (text : List Char) : List Char :=
  text.flatMap fun c => if Text.unreserved c then [c] else (Text.utf8 c).flatMap Text.percent

def quoteTokens (text : List Char) : List Token :=
  text.flatMap fun c => if Text.unreserved c then [.char c] else (Text.utf8 c).map .byte

theorem utf8_byte (c : Char) : ∀ byte ∈ Text.utf8 c, byte < 256 := by
  have range : c.toNat < 0xd800 ∨ 0xdfff < c.toNat ∧ c.toNat < 0x110000 := c.valid
  rw [Text.utf8]
  split_ifs <;> simp <;> omega

theorem tokens_char {c : Char} (other : c ≠ '%') (rest : List Char) : tokens (c::rest) = .char c::tokens rest := by
  rcases rest with _ | ⟨high,_ | ⟨low,rest⟩⟩
  · rfl
  · rfl
  · rw [tokens,escaped,if_neg other]

theorem hexValue_digit : ∀ digit < 16, hexValue (Text.hexDigit digit).toUpper = some digit := by decide

theorem tokens_percent {byte : Nat} (small : byte < 256) (rest : List Char) :
    tokens (Text.percent byte ++ rest) = .byte byte::tokens rest := by
  have shape : Text.percent byte ++ rest =
      '%'::(Text.hexDigit (byte / 16 % 16)).toUpper::(Text.hexDigit (byte % 16)).toUpper::rest := rfl
  have digits : escaped '%' (Text.hexDigit (byte / 16 % 16)).toUpper (Text.hexDigit (byte % 16)).toUpper = some byte := by
    rw [escaped,if_pos rfl,hexValue_digit _ (Nat.mod_lt _ (by decide)),hexValue_digit _ (Nat.mod_lt _ (by decide))]
    refine congrArg some ?_
    omega
  rw [shape,tokens,digits]

theorem tokens_quote (text rest : List Char) : tokens (quoteChars text ++ rest) = quoteTokens text ++ tokens rest := by
  have bytes : ∀ (encoded : List Nat) (rest : List Char), (∀ byte ∈ encoded, byte < 256) →
      tokens (encoded.flatMap Text.percent ++ rest) = encoded.map .byte ++ tokens rest := by
    intro encoded rest small
    induction encoded with
    | nil => rfl
    | cons byte others ih =>
      obtain ⟨first,later⟩ := List.forall_mem_cons.mp small
      rw [List.flatMap_cons,List.append_assoc,tokens_percent first,ih later,List.map_cons,List.cons_append]
  induction text with
  | nil => rfl
  | cons c others ih =>
    rw [quoteChars,quoteTokens,List.flatMap_cons,List.flatMap_cons,List.append_assoc,List.append_assoc,← quoteChars,
      ← quoteTokens,← ih]
    split
    next kept =>
      have other : c ≠ '%' := by
        rintro rfl
        exact absurd kept (by decide)
      exact tokens_char other _
    next => exact bytes _ _ (utf8_byte c)

theorem decode_quoteTokens (text : List Char) (rest : List Token) :
    decode none (quoteTokens text ++ rest) = text ++ decode none rest := by
  induction text with
  | nil => rfl
  | cons c others ih =>
    rw [quoteTokens,List.flatMap_cons,List.append_assoc,← quoteTokens,List.cons_append,← ih]
    split
    · rfl
    · exact decode_utf8 c _

/-- What quoting leaves: letters, digits, a few marks and the percent sign. -/
theorem mem_quoteChars {text : List Char} {c : Char} (member : c ∈ quoteChars text) : Text.unreserved c = true ∨ c = '%' := by
  have digit : ∀ digit < 16, Text.unreserved (Text.hexDigit digit).toUpper = true := by decide
  obtain ⟨source,_,inside⟩ := List.mem_flatMap.mp member
  split at inside
  next kept =>
    obtain rfl := List.mem_singleton.mp inside
    exact Or.inl kept
  next =>
    obtain ⟨byte,_,inside⟩ := List.mem_flatMap.mp inside
    have shape : Text.percent byte = ['%',(Text.hexDigit (byte / 16 % 16)).toUpper,(Text.hexDigit (byte % 16)).toUpper] := rfl
    rw [shape] at inside
    simp only [List.mem_cons,List.not_mem_nil,or_false] at inside
    rcases inside with rfl | rfl | rfl
    · exact Or.inr rfl
    · exact Or.inl (digit _ (Nat.mod_lt _ (by decide)))
    · exact Or.inl (digit _ (Nat.mod_lt _ (by decide)))

theorem quoteChars_without {text : List Char} {mark : Char} (reserved : Text.unreserved mark = false ∧ mark ≠ '%') :
    mark ∉ quoteChars text := by
  intro member
  rcases mem_quoteChars member with kept | percent
  · exact absurd (reserved.1.symm.trans kept) (by decide)
  · exact reserved.2 percent

theorem unquotePlus_quote (text : List Char) : unquotePlus (quoteChars text) = text := by
  have read := tokens_quote text []
  rw [List.append_nil] at read
  rw [unquotePlus,plus_other (quoteChars_without (by decide)),read,decode_quoteTokens]
  exact List.append_nil text

/-! ### The parameters -/

def kept (c : Char) : Bool := c != '\t' && c != '\r' && c != '\n'

/-- What is left of a text in a URL, up to a fragment. -/
def visible (text : List Char) : List Char := (text.filter kept).takeWhile (· != '#')

def query (url : List Char) : List Char := ((visible url).dropWhile (· != '?')).tail

/-- The name and the value of a field. -/
def pair (field : List Char) : List Char × List Char :=
  (unquotePlus (field.takeWhile (· != '=')),unquotePlus (field.dropWhile (· != '=')).tail)

def parameters (query : List Char) : List (List Char × List Char) :=
  ((query.splitOn '&').filter fun field => !field.isEmpty).map pair

/-- The value of a parameter, the last of its name. -/
def parameter (name : List Char) (url : List Char) : Option (List Char) :=
  ((parameters (query url)).reverse.find? fun entry => entry.1 = name).map Prod.snd

theorem parameter_success {name url value : List Char} (found : parameter name url = some value) :
    ∃ field ∈ (query url).splitOn '&', pair field = (name,value) := by
  obtain ⟨⟨named,read⟩,last,rfl⟩ := Option.map_eq_some_iff.mp found
  have same : named = name := by simpa using List.find?_some last
  obtain ⟨field,listed,pairs⟩ := List.mem_map.mp (List.mem_reverse.mp (List.mem_of_find?_eq_some last))
  exact ⟨field,(List.mem_filter.mp listed).1,pairs.trans (Prod.ext same rfl)⟩

theorem parameters_append (query : List Char) {field : List Char} (some : field ≠ []) (single : '&' ∉ field) :
    parameters (query ++ '&'::field) = parameters query ++ [pair field] := by
  rw [parameters,List.splitOn_append_cons_self,List.splitOn_eq_singleton single,List.filter_append,List.map_append,parameters]
  simp [some]

theorem parameters_single {field : List Char} (some : field ≠ []) (single : '&' ∉ field) : parameters field = [pair field] := by
  rw [parameters,List.splitOn_eq_singleton single]
  simp [some]

theorem pair_named {name : List Char} (value : List Char) (plain : '=' ∉ name) :
    pair (name ++ '='::value) = (unquotePlus name,unquotePlus value) := by
  have before : ∀ c ∈ name, (c != '=') = true := by
    intro c member
    rw [bne_iff_ne]
    rintro rfl
    exact plain member
  rw [pair,List.takeWhile_append_of_pos before,List.dropWhile_append_of_pos before]
  simp

/-- A field is as long as its name and its value and the sign between them. -/
theorem pair_length {field name value : List Char} (pairs : pair field = (name,value)) :
    value = [] ∨ name.length + 1 + value.length ≤ field.length := by
  obtain ⟨rfl,rfl⟩ := Prod.mk.inj pairs
  have left := unquotePlus_length (field.takeWhile (· != '='))
  have right := unquotePlus_length (field.dropWhile (· != '=')).tail
  have whole := congrArg List.length (List.takeWhile_append_dropWhile (p := (· != '=')) (l := field))
  rw [List.length_append] at whole
  cases rest : field.dropWhile (· != '=') with
  | nil => exact Or.inl rfl
  | cons sign value =>
    rw [rest] at right whole
    simp only [List.tail_cons,List.length_cons] at right whole ⊢
    omega

/-- A field is no longer than the query, and shorter where the query has several. -/
theorem field_length {query field : List Char} (member : field ∈ query.splitOn '&') :
    field.length ≤ query.length ∧ ('&' ∈ query → field.length < query.length) := by
  induction query generalizing field with
  | nil =>
    simp only [List.splitOn_nil,List.mem_singleton] at member
    simp [member]
  | cons c rest ih =>
    rw [List.splitOn_cons_eq_if_modifyHead] at member
    split at member
    next separates =>
      rcases List.mem_cons.mp member with rfl | later
      · simp
      · have bound := (ih later).1
        simp only [List.length_cons]
        omega
    next other =>
      simp only [List.mem_cons,List.length_cons]
      have apart : ('&' = c ∨ '&' ∈ rest) ↔ '&' ∈ rest := or_iff_right fun same => other (beq_iff_eq.mpr same.symm)
      rw [apart]
      cases parts : rest.splitOn '&' with
      | nil => simp [parts] at member
      | cons first later =>
        rw [parts,List.modifyHead_cons] at member
        rw [parts] at ih
        rcases List.mem_cons.mp member with rfl | inside
        · obtain ⟨within,below⟩ := ih List.mem_cons_self
          simp only [List.length_cons]
          exact ⟨Nat.succ_le_succ within,fun several => Nat.succ_lt_succ (below several)⟩
        · have bound := ih (List.mem_cons_of_mem _ inside)
          omega

theorem visible_append {before after : List Char} (whole : '#' ∉ before) :
    visible (before ++ after) = before.filter kept ++ visible after := by
  rw [visible,List.filter_append,List.takeWhile_append_of_pos]
  · rfl
  · intro c member
    rw [bne_iff_ne]
    rintro rfl
    exact whole (List.mem_filter.mp member).1

/-- The query goes on with all that is seen after its question mark. -/
theorem query_append {before after : List Char} (whole : '#' ∉ before) (asks : '?' ∈ before) :
    query (before ++ after) = query before ++ visible after := by
  have seen : visible before = before.filter kept := by
    have alone : visible (before ++ []) = before.filter kept ++ visible [] := visible_append whole
    rwa [List.append_nil,show visible [] = [] from rfl,List.append_nil] at alone
  have begins : (visible before).dropWhile (· != '?') ≠ [] := by
    intro none
    have all := List.dropWhile_eq_nil_iff.mp none '?' (by simp [seen,asks,kept])
    exact absurd all (by decide)
  rw [query,visible_append whole,← seen,List.dropWhile_append,if_neg (by simpa using begins),query,
    List.tail_append_of_ne_nil begins]

theorem visible_sublist (text : List Char) : (visible text).Sublist text := (List.takeWhile_sublist _).trans List.filter_sublist

/-- A text is seen as it is when nothing in it is left out or begins a fragment. -/
theorem visible_self {text : List Char} : visible text = text ↔ ∀ c ∈ text, kept c = true ∧ c ≠ '#' := by
  constructor
  · intro same c member
    rw [← same] at member
    have inside := (List.takeWhile_sublist _).subset member
    refine ⟨(List.mem_filter.mp inside).2,?_⟩
    rintro rfl
    exact absurd (List.mem_takeWhile_imp member) (by decide)
  · intro each
    rw [visible,List.filter_eq_self.mpr fun c member => (each c member).1,List.takeWhile_eq_self_iff]
    exact fun c member => bne_iff_ne.mpr (each c member).2

end AccessAgent.Query
