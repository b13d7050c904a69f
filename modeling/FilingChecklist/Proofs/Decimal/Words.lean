import FilingChecklist.Decimal.Binary64

/-!
Binary numbers as words of 64 bits. The first bit of a word is its sign, the next 11 bits are the
exponent and the last 52 the fraction. Words with the highest exponent are no numbers or infinite.
-/

namespace FilingChecklist.Binary64

abbrev Word := BitVec 64

namespace Word

def exponent (w : Word) : Nat :=
  w.toNat / binade % 2048

def fraction (w : Word) : Nat :=
  w.toNat % binade

/-- What follows the sign: exponent and fraction together. -/
def magnitude (w : Word) : Nat :=
  w.toNat % (2048 * binade)

def IsFinite (w : Word) : Prop :=
  w.exponent ≠ 2047

def IsNaN (w : Word) : Prop :=
  w.exponent = 2047 ∧ w.fraction ≠ 0

instance (w : Word) : Decidable w.IsNaN :=
  inferInstanceAs (Decidable (_ ∧ _))

/-- The place of a word in ascending order. Both zeros have the same. -/
def place (w : Word) : Int :=
  if w.msb then -(w.magnitude : Int) else w.magnitude

/-- The order of two words. What is no number has none. -/
def order? (w v : Word) : Option Ordering :=
  if w.IsNaN ∨ v.IsNaN then none else some (compare w.place v.place)

theorem IsFinite.not_isNaN {w : Word} (h : w.IsFinite) : ¬ w.IsNaN :=
  fun hnan => h hnan.1

theorem IsFinite.order? {w v : Word} (hw : w.IsFinite) (hv : v.IsFinite) :
    w.order? v = some (compare w.place v.place) :=
  if_neg (not_or.mpr ⟨hw.not_isNaN, hv.not_isNaN⟩)

theorem exponent_eq (w : Word) : w.exponent = w.magnitude / binade := by
  rw [exponent, magnitude, binade]
  omega

theorem isFinite_iff {w : Word} : w.IsFinite ↔ w.magnitude < magnitudes := by
  have hlt : w.magnitude < 2048 * binade := Nat.mod_lt _ (by decide)
  rw [IsFinite, exponent_eq, magnitudes]
  rw [binade] at *
  omega

theorem toNat_eq (w : Word) : w.toNat = (if w.msb then 2048 * binade else 0) + w.magnitude := by
  have hlt := w.isLt
  rw [BitVec.msb_eq_decide, magnitude, binade]
  split <;> simp at * <;> omega

end Word

def word (x : Binary64) : Word :=
  .ofNat 64 ((if x.negative then 2048 * binade else 0) + x.magnitude)

variable {x y : Binary64}

theorem magnitude_lt (x : Binary64) : x.magnitude < 2048 * binade :=
  Nat.lt_trans x.isFinite (by decide)

theorem toNat_word : x.word.toNat = (if x.negative then 2048 * binade else 0) + x.magnitude := by
  have hmagnitude := x.magnitude_lt
  rw [word, BitVec.toNat_ofNat, Nat.mod_eq_of_lt]
  rw [binade] at *
  split <;> omega

theorem magnitude_word : x.word.magnitude = x.magnitude := by
  have hmagnitude := x.magnitude_lt
  rw [Word.magnitude, toNat_word]
  rw [binade] at *
  split <;> omega

theorem msb_word : x.word.msb = x.negative := by
  have hmagnitude := x.magnitude_lt
  rw [BitVec.msb_eq_decide, toNat_word]
  rw [binade] at *
  cases x.negative with
  | false =>
      simp
      omega
  | true => simp

theorem isFinite_word (x : Binary64) : x.word.IsFinite := by
  rw [Word.isFinite_iff, magnitude_word]
  exact x.isFinite

theorem place_word : x.word.place = x.rank := by
  rw [Word.place, msb_word, magnitude_word, rank]

/-- The numbers are the finite words. -/
theorem isFinite_iff_exists_word {w : Word} : w.IsFinite ↔ ∃ x : Binary64, x.word = w := by
  constructor
  · intro h
    let x : Binary64 := ⟨w.msb, w.magnitude, Word.isFinite_iff.mp h⟩
    exact ⟨x, BitVec.eq_of_toNat_eq (toNat_word.trans w.toNat_eq.symm)⟩
  · rintro ⟨x, rfl⟩
    exact x.isFinite_word

theorem order?_word (x y : Binary64) : x.word.order? y.word = some (x.order y) := by
  rw [x.isFinite_word.order? y.isFinite_word, place_word, place_word, order]

end FilingChecklist.Binary64
