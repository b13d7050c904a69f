import FilingChecklist.Json.Basic
import FilingChecklist.Text.Hex

namespace FilingChecklist.Json

inductive Token
  | openArray
  | closeArray
  | openObject
  | closeObject
  | comma
  | colon
  | scalar (v : Json)

namespace Token

def isSpace (c : Char) : Bool :=
  c == ' ' || c == '\t' || c == '\n' || c == '\r'

def mark? (c : Char) : Option Token :=
  if c == '[' then some .openArray
  else if c == ']' then some .closeArray
  else if c == '\x7b' then some .openObject
  else if c == '\x7d' then some .closeObject
  else if c == ',' then some .comma
  else if c == ':' then some .colon
  else none

def codeUnit? (a b c d : Char) : Option Nat := do
  let a ← Text.hexDigit? a
  let b ← Text.hexDigit? b
  let c ← Text.hexDigit? c
  let d ← Text.hexDigit? d
  return ((a * 16 + b) * 16 + c) * 16 + d

def isLeadingSurrogate (unit : Nat) : Bool :=
  0xd800 ≤ unit && unit < 0xdc00

def isTrailingSurrogate (unit : Nat) : Bool :=
  0xdc00 ≤ unit && unit < 0xe000

def shortEscape? (c : Char) : Option Char :=
  if c == '\x22' || c == '\\' || c == '/' then some c
  else if c == 'b' then some '\x08'
  else if c == 'f' then some '\x0c'
  else if c == 'n' then some '\n'
  else if c == 'r' then some '\r'
  else if c == 't' then some '\t'
  else none

/-- The text that stands between two quotes, escapes resolved. Surrogates must stand in pairs, and
no control character may stand bare. -/
def unescape? : List Char → Option (List Char)
  | [] => some []
  | '\\' :: 'u' :: a :: b :: c :: d :: rest => do
      let unit ← codeUnit? a b c d
      if isLeadingSurrogate unit then
        match rest with
        | '\\' :: 'u' :: e :: f :: g :: h :: rest =>
            let trailing ← codeUnit? e f g h
            if isTrailingSurrogate trailing then
              let code := 0x10000 + (unit - 0xd800) * 0x400 + (trailing - 0xdc00)
              return Char.ofNat code :: (← unescape? rest)
            else none
        | _ => none
      else if isTrailingSurrogate unit then none
      else return Char.ofNat unit :: (← unescape? rest)
  | '\\' :: c :: rest => do
      let c ← shortEscape? c
      return c :: (← unescape? rest)
  | c :: rest =>
      if c == '\\' || c.toNat < 0x20 then none else (unescape? rest).map (c :: ·)

def bareScalar? (cs : List Char) : Option Json :=
  if cs == ['n', 'u', 'l', 'l'] then some .null
  else if cs == ['t', 'r', 'u', 'e'] then some (.bool true)
  else if cs == ['f', 'a', 'l', 's', 'e'] then some (.bool false)
  else (Number.ofText? cs).map .number

/-- Where the scanner stands, with the characters seen there so far, last one first: between tokens,
in a bare scalar, or in quotes. -/
inductive Scan
  | between
  | bare (seen : List Char)
  | quoted (seen : List Char) (escaped : Bool)

/-- A scanner position with the tokens completed before it, last one first. -/
structure Progress where
  scan : Scan
  tokens : List Token

def closeBare? (seen : List Char) (tokens : List Token) : Option (List Token) :=
  (bareScalar? seen.reverse).map fun v => .scalar v :: tokens

def stepBetween (tokens : List Token) (c : Char) : Progress :=
  if isSpace c then ⟨.between, tokens⟩
  else if c == '\x22' then ⟨.quoted [] false, tokens⟩
  else match mark? c with
    | some mark => ⟨.between, mark :: tokens⟩
    | none => ⟨.bare [c], tokens⟩

def endsBare (c : Char) : Bool :=
  isSpace c || c == '\x22' || (mark? c).isSome

def step (p : Progress) (c : Char) : Option Progress :=
  match p.scan with
  | .between => some (stepBetween p.tokens c)
  | .bare seen =>
      if endsBare c then (closeBare? seen p.tokens).map (stepBetween · c)
      else some ⟨.bare (c :: seen), p.tokens⟩
  | .quoted seen true => some ⟨.quoted (c :: seen) false, p.tokens⟩
  | .quoted seen false =>
      if c == '\x22' then
        (unescape? seen.reverse).map fun s =>
          ⟨.between, .scalar (.string (String.ofList s)) :: p.tokens⟩
      else some ⟨.quoted (c :: seen) (c == '\\'), p.tokens⟩

def finish (p : Progress) : Option (List Token) :=
  match p.scan with
  | .between => some p.tokens.reverse
  | .bare seen => (closeBare? seen p.tokens).map List.reverse
  | .quoted _ _ => none

def ofText? (cs : List Char) : Option (List Token) :=
  (cs.foldlM step ⟨.between, []⟩).bind finish

end Token

end FilingChecklist.Json
