import Mathlib.Tactic.Ring
import FilingChecklist.Proofs.Decimal.Order
import FilingChecklist.Decimal.Shortest

/-!
Rounding to the nearest binary number. What a quotient and a decimal are rounded to depends on their
values alone, a binary number is nearest to its own value, and so the shortest decimal of a binary
number reads back as that number.
-/

namespace FilingChecklist.Binary64

/-- The smallest magnitude is 2 ^ -lowest. -/
def lowest : Nat := 1074

section Quotients

variable {numerator denominator : Nat}

theorem nearest_eq (numerator denominator : Nat) :
    nearest numerator denominator =
      let scaled := numerator * 2 ^ lowest
      let shift := Nat.log2 (scaled / denominator) - 52
      let step := denominator * 2 ^ shift
      let lower := scaled / step
      let twice := 2 * (scaled % step)
      shift * binade + lower +
        if step < twice || (twice == step && lower % 2 == 1) then 1 else 0 := by
  have hlowest : 1074 = lowest := rfl
  simp only [nearest, hlowest, Nat.pow_eq]

theorem nearest_mul {factor : Nat} (hfactor : 0 < factor) (numerator denominator : Nat) :
    nearest (numerator * factor) (denominator * factor) = nearest numerator denominator := by
  simp only [nearest_eq]
  have hscaled : numerator * factor * 2 ^ lowest = numerator * 2 ^ lowest * factor :=
    Nat.mul_right_comm ..
  rw [hscaled, Nat.mul_div_mul_right _ _ hfactor]
  generalize numerator * 2 ^ lowest = scaled
  generalize Nat.log2 (scaled / denominator) - 52 = shift
  have hstep : denominator * factor * 2 ^ shift = denominator * 2 ^ shift * factor :=
    Nat.mul_right_comm ..
  rw [hstep]
  generalize denominator * 2 ^ shift = step
  have htwice : 2 * (scaled * factor % (step * factor)) = 2 * (scaled % step) * factor := by
    rw [Nat.mul_mod_mul_right, Nat.mul_assoc]
  have hless : step * factor < 2 * (scaled % step) * factor ↔ step < 2 * (scaled % step) :=
    Nat.mul_lt_mul_right hfactor
  have hsame : (2 * (scaled % step) * factor == step * factor) = (2 * (scaled % step) == step) := by
    rw [Bool.eq_iff_iff, beq_iff_eq, beq_iff_eq, Nat.mul_left_inj (Nat.ne_of_gt hfactor)]
  rw [Nat.mul_div_mul_right _ _ hfactor, htwice, hsame]
  simp only [hless]

/-- Quotients of one value have one nearest magnitude. -/
theorem nearest_congr {numerator' denominator' : Nat} (h : 0 < denominator) (h' : 0 < denominator')
    (hcross : numerator * denominator' = numerator' * denominator) :
    nearest numerator denominator = nearest numerator' denominator' := by
  rw [← nearest_mul h' numerator denominator, hcross, Nat.mul_comm denominator denominator',
    nearest_mul h]

theorem log2_units {place shift : Nat} (hplace : place < 2 * binade)
    (hshift : shift = 0 ∨ binade ≤ place) : Nat.log2 (place * 2 ^ shift) - 52 = shift := by
  rcases hshift with rfl | hbinade
  · have hlt : Nat.log2 (place * 2 ^ 0) < 53 := by
      rw [Nat.pow_zero, Nat.mul_one]
      rcases Nat.eq_zero_or_pos place with rfl | hpos
      · decide
      · exact (Nat.log2_lt hpos.ne').mpr hplace
    omega
  · have hpos : 0 < place := Nat.lt_of_lt_of_le binade_pos hbinade
    have hlog : Nat.log2 (place * 2 ^ shift) = 52 + shift := by
      rw [Nat.log2_eq_iff (Nat.mul_pos hpos (Nat.two_pow_pos shift)).ne']
      constructor
      · rw [Nat.pow_add]
        exact Nat.mul_le_mul_right _ hbinade
      · rw [Nat.add_right_comm, Nat.pow_add]
        exact Nat.mul_lt_mul_of_pos_right hplace (Nat.two_pow_pos shift)
    omega

/-- A value of at most 53 binary digits is not rounded. -/
theorem nearest_eq_of_exact {place shift : Nat} (hdenominator : 0 < denominator)
    (hplace : place < 2 * binade) (hshift : shift = 0 ∨ binade ≤ place)
    (hexact : numerator * 2 ^ lowest = denominator * (place * 2 ^ shift)) :
    nearest numerator denominator = shift * binade + place := by
  simp only [nearest_eq]
  rw [hexact, Nat.mul_div_cancel_left _ hdenominator, log2_units hplace hshift]
  have hsplit : denominator * (place * 2 ^ shift) = place * (denominator * 2 ^ shift) :=
    Nat.mul_left_comm ..
  have hstep : 0 < denominator * 2 ^ shift :=
    Nat.mul_pos hdenominator (Nat.two_pow_pos shift)
  rw [hsplit, Nat.mul_div_cancel _ hstep, Nat.mul_mod_left]
  simp [hdenominator.ne']

theorem nearest_eq_of_units {magnitude : Nat} (hdenominator : 0 < denominator)
    (hexact : numerator * 2 ^ lowest = denominator * units magnitude) :
    nearest numerator denominator = magnitude := by
  by_cases hsmall : magnitude < binade
  · have hplace : magnitude < 2 * binade := by omega
    rw [units_of_lt hsmall] at hexact
    rw [nearest_eq_of_exact hdenominator hplace (.inl rfl) (by rwa [Nat.pow_zero, Nat.mul_one]),
      Nat.zero_mul, Nat.zero_add]
  · obtain ⟨place, shift, hplace, rfl⟩ :
        ∃ place shift, place < binade ∧ place + (shift + 1) * binade = magnitude := by
      have hbinades : 0 < magnitude / binade :=
        Nat.div_pos (Nat.le_of_not_lt hsmall) binade_pos
      refine ⟨magnitude % binade, magnitude / binade - 1, Nat.mod_lt _ binade_pos, ?_⟩
      rw [Nat.sub_add_cancel hbinades, Nat.mod_add_div']
    rw [units_add_mul shift hplace] at hexact
    rw [nearest_eq_of_exact hdenominator (by omega) (.inr (Nat.le_add_right ..)) hexact]
    ring

theorem nearest_eq_zero (h : 2 * (numerator * 2 ^ lowest) < denominator) :
    nearest numerator denominator = 0 := by
  simp only [nearest_eq]
  generalize numerator * 2 ^ lowest = scaled at h
  have hbelow : scaled < denominator := by omega
  have hlog : Nat.log2 0 - 52 = 0 := by decide
  have hone : denominator * 2 ^ 0 = denominator := Nat.mul_one denominator
  rw [Nat.div_eq_of_lt hbelow, hlog, hone, Nat.div_eq_of_lt hbelow, Nat.mod_eq_of_lt hbelow]
  have hless : ¬ denominator < 2 * scaled := by omega
  simp [hless]

theorem mul_binade_le_nearest {shift : Nat} (hdenominator : 0 < denominator)
    (h : denominator * 2 ^ (shift + 52) ≤ numerator * 2 ^ lowest) :
    shift * binade ≤ nearest numerator denominator := by
  simp only [nearest_eq]
  generalize numerator * 2 ^ lowest = scaled at h
  have hquotient : 2 ^ (shift + 52) ≤ scaled / denominator :=
    (Nat.le_div_iff_mul_le hdenominator).mpr (by rwa [Nat.mul_comm])
  have hpos : 0 < scaled / denominator := Nat.lt_of_lt_of_le (Nat.two_pow_pos _) hquotient
  have hlog : shift + 52 ≤ Nat.log2 (scaled / denominator) :=
    (Nat.le_log2 hpos.ne').mpr hquotient
  have hshift : shift * binade ≤ (Nat.log2 (scaled / denominator) - 52) * binade :=
    Nat.mul_le_mul_right _ (by omega)
  exact hshift.trans ((Nat.le_add_right ..).trans (Nat.le_add_right ..))

theorem ofRatio?_of_nearest {x : Binary64} (h : nearest numerator denominator = x.magnitude) :
    ofRatio? x.negative numerator denominator = some x := by
  have hfinite : nearest numerator denominator < magnitudes := h ▸ x.isFinite
  simp only [ofRatio?, hfinite, reduceDIte]
  simp only [h]

theorem ofRatio?_eq_none {negative : Bool} (h : magnitudes ≤ nearest numerator denominator) :
    ofRatio? negative numerator denominator = none := by
  simp only [ofRatio?, Nat.not_lt_of_le h, reduceDIte]

end Quotients

end FilingChecklist.Binary64

namespace FilingChecklist.Decimal

open Binary64

theorem two_pow_le_ten_pow (exponent : Nat) : 2 ^ (3 * exponent) ≤ 10 ^ exponent := by
  rw [Nat.pow_mul]
  exact Nat.pow_le_pow_left (by decide) exponent

theorem ofRatio?_of_large {negative : Bool} {significand exponent : Nat} (hpos : 0 < significand)
    (hlarge : 400 < exponent) :
    ofRatio? negative (significand * Nat.pow 10 exponent) 1 = none := by
  have hlowest : lowest = 1074 := rfl
  have hvalue : 1 * 2 ^ (3 * exponent + lowest - 52 + 52) ≤
      significand * 10 ^ exponent * 2 ^ lowest := by
    calc
      1 * 2 ^ (3 * exponent + lowest - 52 + 52) = 1 * 2 ^ (3 * exponent) * 2 ^ lowest := by
        rw [Nat.sub_add_cancel (by omega), Nat.pow_add, Nat.mul_assoc]
      _ ≤ significand * 10 ^ exponent * 2 ^ lowest :=
        Nat.mul_le_mul_right _ (Nat.mul_le_mul hpos (two_pow_le_ten_pow exponent))
  apply ofRatio?_eq_none
  calc
    magnitudes ≤ (3 * exponent + lowest - 52) * binade := Nat.mul_le_mul_right _ (by omega)
    _ ≤ nearest (significand * 10 ^ exponent) 1 := mul_binade_le_nearest Nat.one_pos hvalue

theorem nearest_of_small {significand exponent : Nat}
    (hsmall : Nat.log2 significand + 1 + 400 < exponent) :
    nearest significand (Nat.pow 10 exponent) = 0 := by
  have hlowest : lowest = 1074 := rfl
  have hsignificand : significand < 2 ^ (Nat.log2 significand + 1) := Nat.lt_log2_self
  apply nearest_eq_zero
  calc
    2 * (significand * 2 ^ lowest) < 2 * (2 ^ (Nat.log2 significand + 1) * 2 ^ lowest) :=
      Nat.mul_lt_mul_of_pos_left
        (Nat.mul_lt_mul_of_pos_right hsignificand (Nat.two_pow_pos lowest)) Nat.two_pos
    _ = 2 ^ (Nat.log2 significand + 1 + lowest + 1) := by ring
    _ ≤ 2 ^ (3 * exponent) := Nat.pow_le_pow_right Nat.two_pos (by omega)
    _ ≤ 10 ^ exponent := two_pow_le_ten_pow exponent

/-- The powers of ten that are settled by their size round as the others do. -/
theorem toBinary64?_eq_ofRatio? (d : Decimal) :
    d.toBinary64? = ofRatio? d.negative (d.significand * Nat.pow 10 d.exponent.toNat)
      (Nat.pow 10 (-d.exponent).toNat) := by
  rw [toBinary64?]
  split
  · next hzero =>
      have hnearest : nearest (d.significand * Nat.pow 10 d.exponent.toNat)
          (Nat.pow 10 (-d.exponent).toNat) = (zero d.negative).magnitude := by
        rw [hzero, Nat.zero_mul]
        exact nearest_eq_zero (by simp)
      exact (ofRatio?_of_nearest hnearest).symm
  · next hpos =>
      rcases lt_or_ge d.exponent 0 with hdownward | hupward
      · have hone : d.exponent.toNat = 0 := by omega
        have hten : d.significand * Nat.pow 10 0 = d.significand := Nat.mul_one _
        rw [if_neg (by omega : ¬ 400 < d.exponent), if_neg (not_le_of_gt hdownward), hone, hten]
        split
        · have hnearest : nearest d.significand (Nat.pow 10 (-d.exponent).toNat) =
              (zero d.negative).magnitude :=
            nearest_of_small (by omega)
          exact (ofRatio?_of_nearest hnearest).symm
        · rfl
      · have hone : (-d.exponent).toNat = 0 := by omega
        rw [hone, if_pos hupward]
        split
        · exact (ofRatio?_of_large (Nat.pos_of_ne_zero hpos) (by omega)).symm
        · rw [if_neg (by omega)]

theorem toBinary64?_shift (negative : Bool) (significand : Nat) (exponent : Int) (places : Nat) :
    toBinary64? ⟨negative, significand * 10 ^ places, exponent - places⟩ =
      toBinary64? ⟨negative, significand, exponent⟩ := by
  rw [toBinary64?_eq_ofRatio?, toBinary64?_eq_ofRatio?]
  have hpowers : places + (exponent - places).toNat + (-exponent).toNat =
      exponent.toNat + (-(exponent - places)).toNat := by
    omega
  have hnearest : nearest (significand * 10 ^ places * 10 ^ (exponent - places).toNat)
      (10 ^ (-(exponent - places)).toNat) =
        nearest (significand * 10 ^ exponent.toNat) (10 ^ (-exponent).toNat) := by
    apply nearest_congr (Nat.pow_pos (by decide)) (Nat.pow_pos (by decide))
    simp only [Nat.mul_assoc, ← Nat.pow_add, hpowers]
  simp only [ofRatio?, Nat.pow_eq, hnearest]

theorem toBinary64?_dropZeros (limit : Nat) (d : Decimal) :
    (d.dropZeros limit).toBinary64? = d.toBinary64? := by
  induction limit generalizing d with
  | zero => rfl
  | succ limit ih =>
      rw [dropZeros]
      split
      · next hzero =>
          have hten : d.significand / 10 * 10 ^ 1 = d.significand := by omega
          have hshift := toBinary64?_shift d.negative (d.significand / 10) (d.exponent + 1) 1
          rw [ih, ← hshift, hten, Nat.cast_one, Int.add_sub_cancel]
      · rfl

theorem toBinary64?_exact (x : Binary64) : (exact x).toBinary64? = some x := by
  have hlowest : 1074 = lowest := rfl
  have hone : Nat.pow 10 (-1074 : Int).toNat = 1 := rfl
  have hdenominator : (- -1074 : Int).toNat = lowest := rfl
  have hnearest :
      nearest (units x.magnitude * Nat.pow 5 lowest) (Nat.pow 10 lowest) = x.magnitude := by
    apply nearest_eq_of_units (Nat.pow_pos (by decide))
    rw [Nat.pow_eq, Nat.mul_assoc, ← Nat.mul_pow, Nat.mul_comm]
  rw [toBinary64?_eq_ofRatio?]
  simp only [exact, hlowest]
  rw [hone, hdenominator, Nat.mul_one]
  exact ofRatio?_of_nearest hnearest

/-- The shortest decimal of a binary number reads back as the number. -/
theorem toBinary64?_shortest (tie : Tie) (x : Binary64) :
    (shortest tie x).toBinary64? = some x := by
  rw [shortest]
  split
  · next hzero =>
      obtain ⟨negative, magnitude, hmagnitude⟩ := x
      obtain rfl : magnitude = 0 := by simpa [isZero] using hzero
      rfl
  · rw [toBinary64?_dropZeros]
    cases hfound : (candidates tie x).find? fun d => d.toBinary64? = some x with
    | some d => exact find?_candidates_reads_back hfound
    | none => exact toBinary64?_exact x

end FilingChecklist.Decimal
