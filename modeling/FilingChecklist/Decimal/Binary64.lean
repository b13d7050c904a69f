/-!
Finite binary floating-point numbers of 64 bits. A number is a sign and the place of its magnitude
among all finite magnitudes in ascending order, so numbers compare as integers do, and a quotient
rounds to the nearer of two neighbouring places.
-/

namespace FilingChecklist

/-- How many magnitudes share one spacing. -/
def Binary64.binade : Nat := 0x10000000000000

/-- How many finite magnitudes there are. -/
def Binary64.magnitudes : Nat := 2047 * binade

structure Binary64 where
  negative : Bool
  magnitude : Nat
  isFinite : magnitude < Binary64.magnitudes
  deriving DecidableEq

namespace Binary64

/-- A magnitude in units of the smallest one, 2 ^ -1074. -/
def units (magnitude : Nat) : Nat :=
  if magnitude < binade then magnitude
  else (binade + magnitude % binade) * Nat.pow 2 (magnitude / binade - 1)

/-- The magnitude nearest to a quotient; of two equally near, the even one. A result that is not
below `magnitudes` stands for a quotient beyond the finite numbers. -/
def nearest (numerator denominator : Nat) : Nat :=
  let scaled := numerator * Nat.pow 2 1074
  let shift := Nat.log2 (scaled / denominator) - 52
  let step := denominator * Nat.pow 2 shift
  let lower := scaled / step
  let twice := 2 * (scaled % step)
  let upward := if step < twice || (twice == step && lower % 2 == 1) then 1 else 0
  shift * binade + lower + upward

/-- The number nearest to a signed quotient, if that is finite. -/
def ofRatio? (negative : Bool) (numerator denominator : Nat) : Option Binary64 :=
  let magnitude := nearest numerator denominator
  if isFinite : magnitude < magnitudes then some { negative, magnitude, isFinite } else none

/-- The number nearest to an integer, or the finite number farthest from zero. -/
def ofInt (i : Int) : Binary64 where
  negative := i < 0
  magnitude := min (nearest i.natAbs 1) (magnitudes - 1)
  isFinite := by
    have : 0 < magnitudes := by decide
    omega

def zero (negative : Bool) : Binary64 :=
  { negative, magnitude := 0, isFinite := by decide }

def isZero (x : Binary64) : Bool :=
  x.magnitude == 0

def neg (x : Binary64) : Binary64 :=
  { x with negative := !x.negative }

/-- The place of a number in ascending order. Both zeros have rank 0. -/
def rank (x : Binary64) : Int :=
  if x.negative then -(x.magnitude : Int) else x.magnitude

/-- Numbers with one value: the same number, or two zeros. -/
def sameValue (x y : Binary64) : Bool :=
  x.rank == y.rank

def order (x y : Binary64) : Ordering :=
  compare x.rank y.rank

def mul? (x y : Binary64) : Option Binary64 :=
  ofRatio? (x.negative != y.negative) (units x.magnitude * units y.magnitude) (Nat.pow 2 2148)

def div? (x y : Binary64) : Option Binary64 :=
  ofRatio? (x.negative != y.negative) (units x.magnitude) (units y.magnitude)

theorem sameValue_iff {x y : Binary64} : x.sameValue y = true ↔ x.rank = y.rank := by
  simp [sameValue]

theorem eq_of_rank_eq {x y : Binary64} (h : x.rank = y.rank) : x = y ∨ x.isZero ∧ y.isZero := by
  obtain ⟨xneg, xmag, _⟩ := x
  obtain ⟨yneg, ymag, _⟩ := y
  simp only [rank] at h
  simp only [isZero, mk.injEq, beq_iff_eq]
  by_cases hneg : xneg = yneg
  · subst hneg
    have hmag : xmag = ymag := by split at h <;> omega
    exact .inl ⟨rfl, hmag⟩
  · have hzero : xmag = 0 ∧ ymag = 0 := by
      match xneg, yneg with
      | false, false => exact absurd rfl hneg
      | true, true => exact absurd rfl hneg
      | false, true => simp only [reduceIte, Bool.false_eq_true] at h; omega
      | true, false => simp only [reduceIte, Bool.false_eq_true] at h; omega
    exact .inr hzero

end Binary64

end FilingChecklist
