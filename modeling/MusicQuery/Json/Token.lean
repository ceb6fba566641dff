import MusicQuery.Json.Number

namespace MusicQuery.Json

/-- A mark, a string or any other single value of a JSON text. A string is absent if it holds one half of a
surrogate pair. -/
inductive Token where
  | openArray
  | closeArray
  | openObject
  | closeObject
  | comma
  | colon
  | text (value : Option String)
  | scalar (value : Json)

namespace Token

/-- Blanks between tokens, which are fewer than the blanks of a text. -/
def isSpace (c : Char) : Bool := c = ' ' || c = '\n' || c = '\t' || c = '\r'

def isWordChar (c : Char) : Bool := c.isAlphanum || c = '-' || c = '+' || c = '.'

def ofWord? (word : List Char) : Option Token :=
  if word = "null".toList then some (scalar null)
  else if word = "true".toList then some (scalar (bool true))
  else if word = "false".toList then some (scalar (bool false))
  else (readNumber? word).map scalar

def ofMark? (c : Char) : Option Token :=
  if c = '[' then some openArray
  else if c = ']' then some closeArray
  else if c = '\x7b' then some openObject
  else if c = '\x7d' then some closeObject
  else if c = ',' then some comma
  else if c = ':' then some colon
  else none

def isHigh (unit : Nat) : Bool := 0xD800 ≤ unit && unit < 0xDC00

def isLow (unit : Nat) : Bool := 0xDC00 ≤ unit && unit < 0xE000

def joinUnits : List Nat → Option (List Char)
  | [] => some []
  | [u] => if isHigh u || isLow u then none else some [Char.ofNat u]
  | u :: v :: rest =>
    if isHigh u then
      if isLow v then (joinUnits rest).map (Char.ofNat (0x10000 + (u - 0xD800) * 0x400 + (v - 0xDC00)) :: ·)
      else none
    else if isLow u then none
    else (joinUnits (v :: rest)).map (Char.ofNat u :: ·)

def ofEscape? (c : Char) : Option Char :=
  if c = '"' || c = '\\' || c = '/' then some c
  else if c = 'b' then some '\x08'
  else if c = 'f' then some '\x0c'
  else if c = 'n' then some '\n'
  else if c = 'r' then some '\r'
  else if c = 't' then some '\t'
  else none

/-- Where a scan stands. Words and units are held last first; `hex` counts the digits still to come. -/
inductive State where
  | between
  | word (read : List Char)
  | inside (units : List Nat)
  | escape (units : List Nat)
  | hex (units : List Nat) (missing value : Nat)

structure Scan where
  tokens : List Token
  state : State

def enter (tokens : List Token) (c : Char) : Option Scan :=
  if isSpace c then some ⟨tokens, .between⟩
  else if c = '"' then some ⟨tokens, .inside []⟩
  else if isWordChar c then some ⟨tokens, .word [c]⟩
  else (ofMark? c).map fun t => ⟨t :: tokens, .between⟩

def step (scan : Scan) (c : Char) : Option Scan :=
  match scan.state with
  | .between => enter scan.tokens c
  | .word read =>
    if isWordChar c then some ⟨scan.tokens, .word (c :: read)⟩
    else do enter ((← ofWord? read.reverse) :: scan.tokens) c
  | .inside units =>
    if c = '"' then some ⟨text ((joinUnits units.reverse).map String.ofList) :: scan.tokens, .between⟩
    else if c = '\\' then some ⟨scan.tokens, .escape units⟩
    else if c.toNat < 0x20 then none
    else some ⟨scan.tokens, .inside (c.toNat :: units)⟩
  | .escape units =>
    if c = 'u' then some ⟨scan.tokens, .hex units 3 0⟩
    else (ofEscape? c).map fun e => ⟨scan.tokens, .inside (e.toNat :: units)⟩
  | .hex units missing value => do
    let value := 16 * value + (← Text.hexValue? c)
    match missing with
    | 0 => some ⟨scan.tokens, .inside (value :: units)⟩
    | missing + 1 => some ⟨scan.tokens, .hex units missing value⟩

def Scan.finish (scan : Scan) : Option (List Token) :=
  match scan.state with
  | .between => some scan.tokens.reverse
  | .word read => (ofWord? read.reverse).map fun t => (t :: scan.tokens).reverse
  | _ => none

def scan? (text : List Char) : Option (List Token) := do (← text.foldlM step ⟨[], .between⟩).finish

end Token

end MusicQuery.Json
