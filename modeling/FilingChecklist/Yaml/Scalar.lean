import FilingChecklist.Json.Basic
import FilingChecklist.Text.Hex

namespace FilingChecklist.Yaml

structure Scalar where
  text : String
  isPlain : Bool

namespace Scalar

def nullWords : List String :=
  ["", "~", "null", "Null", "NULL"]

def boolWords : List (String × Bool) :=
  [("true", true), ("True", true), ("TRUE", true), ("false", false), ("False", false),
    ("FALSE", false)]

/-- The words that stand for infinities and for no number. None of these is a value of its own. -/
def boundlessWords : List String :=
  [".inf", ".Inf", ".INF", "+.inf", "+.Inf", "+.INF", "-.inf", "-.Inf", "-.INF", ".nan", ".NaN",
    ".NAN"]

def digitsIn? (base : Nat) (digits : List Char) : Option Nat :=
  if digits.isEmpty then none
  else digits.foldlM (fun n c => do
    let d ← Text.hexDigit? c
    if d < base then some (base * n + d) else none) 0

/-- A zero before other digits: such a row of digits is text. -/
def hasLeadingZero (digits : List Char) : Bool :=
  1 < digits.length && digits.head? == some '0'

def magnitude? : List Char → Option Nat
  | '0' :: 'x' :: digits => digitsIn? 16 digits
  | '0' :: 'o' :: digits => digitsIn? 8 digits
  | '0' :: 'b' :: digits => digitsIn? 2 digits
  | digits => if hasLeadingZero digits then none else digitsIn? 10 digits

def integer? : List Char → Option Int
  | '+' :: digits => (magnitude? digits).map Int.ofNat
  | '-' :: digits => (magnitude? digits).map fun n => -(n : Int)
  | digits => (magnitude? digits).map Int.ofNat

/-- Digits in base ten, with or without sign, and nothing else. -/
def isZeroLed (cs : List Char) : Bool :=
  let digits := (Decimal.splitSign cs).2
  hasLeadingZero digits && digits.all Char.isDigit

def decimal (text : String) : Json :=
  if isZeroLed text.toList then .string text
  else
    match Decimal.binary64OfText? text.toList with
    | some x => .ofBinary64 x
    | none => .string text

/-- An integer that fits 64 bits is a value and one that needs up to 128 bits is refused. Larger
ones are decimal numbers if they are written in base ten. -/
def ofInteger? (text : String) (i : Int) : Option Json :=
  if inRange : -0x8000000000000000 ≤ i ∧ i < 0x10000000000000000 then
    some (.number (.integer i inRange))
  else if
    -0x80000000000000000000000000000000 ≤ i ∧ i < 0x100000000000000000000000000000000 then none
  else some (decimal text)

def plainValue? (text : String) : Option Json :=
  if nullWords.contains text then some .null
  else
    match boolWords.lookup text with
    | some b => some (.bool b)
    | none =>
        match integer? text.toList with
        | some i => ofInteger? text i
        | none => if boundlessWords.contains text then some .null else some (decimal text)

def value? (s : Scalar) : Option Json :=
  if s.isPlain then plainValue? s.text else some (.string s.text)

end Scalar

end FilingChecklist.Yaml
