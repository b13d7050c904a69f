import FilingChecklist.Decimal.Basic

namespace FilingChecklist.Decimal

def digits (d : Decimal) : List Char :=
  Nat.toDigits 10 d.significand

/-- Drop zeros at the end of a significand, at most `limit` of them. -/
def dropZeros (limit : Nat) (d : Decimal) : Decimal :=
  match limit with
  | 0 => d
  | limit + 1 =>
      if d.significand % 10 = 0 ∧ d.significand ≠ 0 then
        dropZeros limit { d with significand := d.significand / 10, exponent := d.exponent + 1 }
      else d

/-- A binary number written out exactly: units of 2 ^ -1074 are units of 5 ^ 1074 * 10 ^ -1074. -/
def exact (x : Binary64) : Decimal where
  negative := x.negative
  significand := Binary64.units x.magnitude * Nat.pow 5 1074
  exponent := -1074

/-- Which of two equally near decimals is taken: the one with an even last digit, or the one
farther from zero. -/
inductive Tie
  | toEven
  | awayFromZero
  deriving DecidableEq

/-- Whether the upper neighbour of a decimal is preferred, given the lower one and what is left
above it, of a step. -/
def Tie.prefersUpper (tie : Tie) (lower rest step : Nat) : Bool :=
  step < 2 * rest || (step == 2 * rest && (tie == .awayFromZero || lower % 2 == 1))

/-- The two decimals next to `d` that have `dropped` digits fewer, the preferred one first. -/
def neighbours (d : Decimal) (tie : Tie) (dropped : Nat) : List Decimal :=
  let step := Nat.pow 10 dropped
  let lower := d.significand / step
  let below := { d with significand := lower, exponent := d.exponent + dropped }
  let above := { d with significand := lower + 1, exponent := d.exponent + dropped }
  if tie.prefersUpper lower (d.significand % step) step then [above, below] else [below, above]

/-- Decimals for `x` in order of preference: those of 1 to 17 digits next to it, then `x` itself. -/
def candidates (tie : Tie) (x : Binary64) : List Decimal :=
  let d := exact x
  let length := d.digits.length
  (List.range 17).flatMap (fun k => d.neighbours tie (length - (k + 1))) ++ [d]

/-- The decimal with the fewest digits that reads back as `x`; of two such, the nearer one. -/
def shortest (tie : Tie) (x : Binary64) : Decimal :=
  if x.isZero then { negative := x.negative, significand := 0, exponent := 0 }
  else
    let found := ((candidates tie x).find? fun d => d.toBinary64? = some x).getD (exact x)
    found.dropZeros found.digits.length

/-- How a number is written: which of two equally near decimals is taken, for which powers of ten
of the first digit no exponent is written, and whether an integral number keeps a point and a
zero. -/
structure Style where
  tie : Tie
  isPositional : Int → Bool
  keepsPoint : Bool

namespace Style

def positional (style : Style) (digits : List Char) (point : Int) : List Char :=
  if point ≤ 0 then
    '0' :: '.' :: (List.replicate (-point).toNat '0' ++ digits)
  else if digits.length ≤ point then
    digits ++ List.replicate (point - digits.length).toNat '0' ++
      if style.keepsPoint then ['.', '0'] else []
  else digits.take point.toNat ++ '.' :: digits.drop point.toNat

/-- The first digit, the others after a point, and the power of ten with its sign. -/
def scientific (digits : List Char) (power : Int) : List Char :=
  let sign := if power < 0 then '-' else '+'
  let mantissa := match digits with
    | first :: second :: rest => first :: '.' :: second :: rest
    | short => short
  mantissa ++ 'e' :: sign :: Nat.toDigits 10 power.natAbs

def write (style : Style) (d : Decimal) : List Char :=
  let digits := d.digits
  let point := d.exponent + digits.length
  let body :=
    if style.isPositional (point - 1) then style.positional digits point
    else scientific digits (point - 1)
  if d.negative then '-' :: body else body

def text (style : Style) (x : Binary64) : String :=
  String.ofList (style.write (shortest style.tie x))

end Style

theorem find?_candidates_reads_back {tie : Tie} {x : Binary64} {d : Decimal}
    (h : (candidates tie x).find? (fun d => d.toBinary64? = some x) = some d) :
    d.toBinary64? = some x := by
  simpa using List.find?_some h

end FilingChecklist.Decimal
