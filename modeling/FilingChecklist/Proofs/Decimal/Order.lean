import Mathlib.Order.Compare
import Mathlib.Order.Monotone.Basic
import Mathlib.Tactic.Ring
import FilingChecklist.Decimal.Binary64

namespace FilingChecklist.Binary64

theorem binade_pos : 0 < binade := by
  decide

theorem units_of_lt {magnitude : Nat} (h : magnitude < binade) : units magnitude = magnitude :=
  if_pos h

theorem units_add_mul {place : Nat} (shift : Nat) (h : place < binade) :
    units (place + (shift + 1) * binade) = (binade + place) * 2 ^ shift := by
  have hle : ¬ place + (shift + 1) * binade < binade := by
    rw [Nat.succ_mul]
    omega
  rw [units, if_neg hle, Nat.add_mul_mod_self_right, Nat.mod_eq_of_lt h,
    Nat.add_mul_div_right _ _ binade_pos, Nat.div_eq_of_lt h, Nat.zero_add, Nat.add_sub_cancel]
  rfl

theorem units_lt_units_succ (magnitude : Nat) : units magnitude < units (magnitude + 1) := by
  have hpos := binade_pos
  obtain ⟨place, shift, hplace, rfl⟩ :
      ∃ place shift, place < binade ∧ place + shift * binade = magnitude :=
    ⟨magnitude % binade, magnitude / binade, Nat.mod_lt _ hpos, Nat.mod_add_div' _ _⟩
  have hsucc : place + shift * binade + 1 = place + 1 + shift * binade := Nat.add_right_comm ..
  -- The last place of a binade is followed by the first of the next, spaced twice as widely.
  have hcarry (hlast : place + 1 = binade) :
      place + 1 + shift * binade = 0 + (shift + 1) * binade := by
    rw [hlast, Nat.succ_mul, Nat.zero_add, Nat.add_comm]
  rw [hsucc]
  cases shift with
  | zero =>
      rcases Nat.lt_or_eq_of_le hplace with hinner | hlast
      · rw [Nat.zero_mul, Nat.add_zero, Nat.add_zero, units_of_lt hplace, units_of_lt hinner]
        exact Nat.lt_succ_self place
      · rw [hcarry hlast, units_add_mul 0 hpos, Nat.zero_mul, Nat.add_zero, units_of_lt hplace,
          Nat.pow_zero, Nat.mul_one]
        exact hplace
  | succ shift =>
      rw [units_add_mul shift hplace]
      rcases Nat.lt_or_eq_of_le hplace with hinner | hlast
      · rw [units_add_mul shift hinner]
        exact Nat.mul_lt_mul_of_pos_right (by omega) (Nat.two_pow_pos shift)
      · rw [hcarry hlast, units_add_mul (shift + 1) hpos]
        calc
          (binade + place) * 2 ^ shift < 2 * binade * 2 ^ shift :=
            Nat.mul_lt_mul_of_pos_right (by omega) (Nat.two_pow_pos shift)
          _ = (binade + 0) * 2 ^ (shift + 1) := by ring

theorem units_strictMono : StrictMono units :=
  strictMono_nat_of_lt_succ units_lt_units_succ

theorem units_zero : units 0 = 0 :=
  units_of_lt binade_pos

/-- The value in units of the smallest magnitude, 2 ^ -1074. -/
def value (x : Binary64) : Int :=
  if x.negative then -(units x.magnitude : Int) else units x.magnitude

example : (ofInt (-3)).value = -3 * 2 ^ 1074 := by decide +kernel

theorem value_lt_of_rank_lt {x y : Binary64} (h : x.rank < y.rank) : x.value < y.value := by
  have hunits {m n : Nat} (h : m < n) : units m < units n := units_strictMono h
  have hpos {m : Nat} (h : 0 < m) : 0 < units m := by
    simpa only [units_zero] using hunits h
  simp only [rank, value] at h ⊢
  cases hx : x.negative with
  | false =>
      cases hy : y.negative with
      | false =>
          simp only [hx, hy, Bool.false_eq_true, reduceIte, Int.ofNat_lt] at h ⊢
          exact hunits h
      | true =>
          simp only [hx, hy, Bool.false_eq_true, reduceIte] at h
          omega
  | true =>
      cases hy : y.negative with
      | false =>
          simp only [hx, hy, Bool.false_eq_true, reduceIte] at h ⊢
          rcases Nat.eq_zero_or_pos x.magnitude with hzero | hmagnitude
          · have hother := hpos (show 0 < y.magnitude by omega)
            omega
          · have hown := hpos hmagnitude
            omega
      | true =>
          simp only [hx, hy, reduceIte, Int.neg_lt_neg_iff, Int.ofNat_lt] at h ⊢
          exact hunits h

theorem value_eq_of_rank_eq {x y : Binary64} (h : x.rank = y.rank) : x.value = y.value := by
  rcases eq_of_rank_eq h with rfl | ⟨hx, hy⟩
  · rfl
  · simp only [isZero, beq_iff_eq] at hx hy
    simp [value, hx, hy, units_zero]

theorem order_eq_compare_value (x y : Binary64) : x.order y = compare x.value y.value := by
  rw [order]
  rcases lt_trichotomy x.rank y.rank with h | h | h
  · rw [compare_lt_iff_lt.mpr h, compare_lt_iff_lt.mpr (value_lt_of_rank_lt h)]
  · rw [compare_eq_iff_eq.mpr h, compare_eq_iff_eq.mpr (value_eq_of_rank_eq h)]
  · rw [compare_gt_iff_gt.mpr h, compare_gt_iff_gt.mpr (value_lt_of_rank_lt h)]

theorem sameValue_iff_value {x y : Binary64} : x.sameValue y = true ↔ x.value = y.value := by
  rw [sameValue_iff, ← compare_eq_iff_eq, ← order, order_eq_compare_value, compare_eq_iff_eq]

end FilingChecklist.Binary64
