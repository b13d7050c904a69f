import FilingChecklist.Decimal.Binary64
import FilingChecklist.Decimal.Numeral

namespace FilingChecklist

/-- The number `significand * 10 ^ exponent`, negated if `negative`. -/
structure Decimal where
  negative : Bool
  significand : Nat
  exponent : Int
  deriving DecidableEq

namespace Decimal

def ofNumeral (n : Numeral) : Decimal where
  negative := n.negative
  significand := ofDigits (n.whole ++ n.fractionDigits)
  exponent := n.power - n.fractionDigits.length

/-- The nearest binary number, if that is finite. Powers of ten outside the range of the binary
numbers are settled by their size alone: a significand of `b` bits is below `10 ^ b`. -/
def toBinary64? (d : Decimal) : Option Binary64 :=
  if d.significand = 0 then some (.zero d.negative)
  else if 400 < d.exponent then none
  else if d.exponent + (Nat.log2 d.significand + 1) < -400 then some (.zero d.negative)
  else if 0 ≤ d.exponent then
    Binary64.ofRatio? d.negative (d.significand * Nat.pow 10 d.exponent.toNat) 1
  else Binary64.ofRatio? d.negative d.significand (Nat.pow 10 (-d.exponent).toNat)

/-- Read a text that is a number and nothing else: an optional sign, digits with at most one point
and at least one digit, and an optional exponent. Numbers beyond the finite ones are refused. -/
def binary64OfText? (cs : List Char) : Option Binary64 := do
  let n ← Numeral.split? cs
  if n.hasDigit then (ofNumeral n).toBinary64? else none

end Decimal

end FilingChecklist
