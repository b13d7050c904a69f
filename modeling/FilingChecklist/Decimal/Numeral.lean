namespace FilingChecklist.Decimal

/-- The parts of a numeral. An exponent is its minus sign, if any, and its digits. -/
structure Numeral where
  sign : Option Char
  whole : List Char
  fraction : Option (List Char)
  exponent : Option (Bool × List Char)
  deriving DecidableEq

def ofDigits (digits : List Char) : Nat :=
  digits.foldl (fun n c => 10 * n + (c.toNat - '0'.toNat)) 0

def splitSign : List Char → Option Char × List Char
  | '+' :: rest => (some '+', rest)
  | '-' :: rest => (some '-', rest)
  | cs => (none, cs)

def splitFraction : List Char → Option (List Char) × List Char
  | '.' :: rest => (some (rest.takeWhile Char.isDigit), rest.dropWhile Char.isDigit)
  | cs => (none, cs)

/-- An exponent that runs to the end of the text: `none` if what is there is something else. -/
def splitExponent : List Char → Option (Option (Bool × List Char))
  | [] => some none
  | c :: rest =>
      let (sign, digits) := splitSign rest
      if (c == 'e' || c == 'E') && !digits.isEmpty && digits.all Char.isDigit then
        some (some (sign == some '-', digits))
      else none

namespace Numeral

/-- Split a text into the parts of a numeral, any of which may lack digits but the exponent. -/
def split? (cs : List Char) : Option Numeral :=
  let (sign, unsigned) := splitSign cs
  let whole := unsigned.takeWhile Char.isDigit
  let (fraction, rest) := splitFraction (unsigned.dropWhile Char.isDigit)
  (splitExponent rest).map fun exponent => { sign, whole, fraction, exponent }

def negative (n : Numeral) : Bool :=
  n.sign == some '-'

def fractionDigits (n : Numeral) : List Char :=
  n.fraction.getD []

def hasDigit (n : Numeral) : Bool :=
  !(n.whole ++ n.fractionDigits).isEmpty

def isIntegral (n : Numeral) : Bool :=
  n.fraction.isNone && n.exponent.isNone

def power (n : Numeral) : Int :=
  match n.exponent with
  | none => 0
  | some (true, digits) => -(ofDigits digits : Int)
  | some (false, digits) => ofDigits digits

end Numeral

end FilingChecklist.Decimal
