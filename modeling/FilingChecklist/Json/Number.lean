import FilingChecklist.Decimal.Shortest

/-!
Numbers in exchanged data. An integer literal that fits 64 bits, signed or unsigned, stays an
integer; every other literal is a binary number. Binary literals are scaled in two rounded steps:
the significand, cut to what fits 64 bits, is rounded first, and then its product or quotient with a
power of ten.
-/

namespace FilingChecklist.Json

open Decimal

inductive Number
  | integer (value : Int) (inRange : -0x8000000000000000 ≤ value ∧ value < 0x10000000000000000)
  | binary (value : Binary64)
  deriving DecidableEq

namespace Number

/-- Extend `n` by the leading digits with which it still fits 64 bits; also how many these are. -/
def takeDigits (n : Nat) : List Char → Nat × Nat
  | [] => (n, 0)
  | c :: rest =>
      let extended := 10 * n + (c.toNat - '0'.toNat)
      if extended < 0x10000000000000000 then
        let (result, taken) := takeDigits extended rest
        (result, taken + 1)
      else (n, 0)

theorem takeDigits_fst_lt (digits : List Char) {n : Nat} (h : n < 0x10000000000000000) :
    (takeDigits n digits).1 < 0x10000000000000000 := by
  induction digits generalizing n with
  | nil => exact h
  | cons c rest ih =>
      rw [takeDigits]
      split
      · next hext => exact ih hext
      · exact h

def powerOfTen (k : Nat) : Binary64 :=
  .ofInt (Nat.pow 10 k)

/-- Divide by `10 ^ 308` as often as `times` says, until nothing is left, then by
`10 ^ remaining`. -/
def divideDown (times remaining : Nat) (x : Binary64) : Option Binary64 :=
  match times with
  | 0 => x.div? (powerOfTen remaining)
  | times + 1 =>
      if x.isZero then some x
      else (x.div? (powerOfTen 308)).bind (divideDown times remaining)

/-- The significand times a power of ten, each rounded; refused beyond the finite numbers. -/
def scale? (significand : Nat) (power : Int) : Option Binary64 :=
  let x := Binary64.ofInt significand
  if power < 0 then
    let places := power.natAbs
    let times := (places - 1) / 308
    divideDown times (places - 308 * times) x
  else if power ≤ 308 then x.mul? (powerOfTen power.toNat)
  else if x.isZero then some x
  else none

/-- A literal without point and exponent whose digits fit 64 bits. Minus zero is a binary number. -/
def ofMagnitude (negative : Bool) (n : Nat) (h : n < 0x10000000000000000) : Number :=
  if negative then
    if hn : 0 < n ∧ n ≤ 0x8000000000000000 then .integer (-n) (by omega)
    else .binary (Binary64.ofInt n).neg
  else .integer n (by omega)

def ofNumeral? (n : Numeral) : Option Number :=
  let whole := takeDigits 0 n.whole
  if n.isIntegral && whole.2 == n.whole.length then
    some (ofMagnitude n.negative whole.1 (takeDigits_fst_lt n.whole (by decide)))
  else
    let (significand, places) := takeDigits whole.1 n.fractionDigits
    let power := n.power + (n.whole.length - whole.2 : Nat) - places
    (scale? significand power).map fun x => .binary (if n.negative then x.neg else x)

/-- No plus sign, no zero before another digit, and digits on both sides of a point. -/
def isLiteral (n : Numeral) : Bool :=
  n.sign != some '+' && !n.whole.isEmpty && (n.whole == ['0'] || n.whole.head? != some '0') &&
    n.fraction != some []

def ofText? (cs : List Char) : Option Number := do
  let n ← Numeral.split? cs
  if isLiteral n then ofNumeral? n else none

def toBinary64 : Number → Binary64
  | .integer i _ => .ofInt i
  | .binary x => x

/-- Equal numbers of one kind. An integer never equals a binary number. -/
def sameValue : Number → Number → Bool
  | .integer i _, .integer j _ => i == j
  | .binary x, .binary y => x.sameValue y
  | _, _ => false

/-- Binary numbers are written with a point or with an exponent: no exponent from 0.00001 up to
below 10 ^ 16. -/
def style : Style where
  tie := .toEven
  isPositional power := -5 ≤ power && power < 16
  keepsPoint := true

def integerText (i : Int) : String :=
  String.ofList ((if i < 0 then ['-'] else []) ++ Nat.toDigits 10 i.natAbs)

def text : Number → String
  | .integer i _ => integerText i
  | .binary x => style.text x

end Number

end FilingChecklist.Json
