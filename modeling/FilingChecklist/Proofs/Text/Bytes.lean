import Mathlib.Algebra.Group.Nat.Defs

/-!
Texts as bytes, which stand in the order of the texts. A character is encoded by a lead byte and,
behind it, its lower digits in base 64.
-/

namespace FilingChecklist.Text

def bytes (s : String) : List UInt8 :=
  s.toByteArray.data.toList

theorem bytes_eq_flatMap (s : String) : bytes s = s.toList.flatMap String.utf8EncodeChar := by
  rw [bytes, ← String.ofList_toList (s := s), String.toByteArray_ofList, String.toList_ofList,
    List.utf8Encode, List.data_toByteArray]

/-- How many bytes follow the lead byte of a character. -/
def trailing (n : Nat) : Nat :=
  if n < 0x80 then 0 else if n < 0x800 then 1 else if n < 0x10000 then 2 else 3

/-- What marks a lead byte, by the number of bytes that follow it. -/
def marker : Nat → Nat
  | 0 => 0
  | 1 => 0xc0
  | 2 => 0xe0
  | _ => 0xf0

/-- So many of the lowest digits in base 64, each in a byte. -/
def digits : Nat → Nat → List UInt8
  | 0, _ => []
  | count + 1, n => digits count (n / 64) ++ [.ofNat (n % 64 + 0x80)]

/-- The bytes of the character with this number. -/
def encode (n : Nat) : List UInt8 :=
  .ofNat (n / 64 ^ trailing n + marker (trailing n)) :: digits (trailing n) n

theorem toNat_lt (c : Char) : c.toNat < 0x110000 := by
  rcases c.valid with hlow | ⟨-, hhigh⟩
  · exact Nat.lt_trans hlow (by decide)
  · exact hhigh

theorem utf8EncodeChar_eq (c : Char) : String.utf8EncodeChar c = encode c.toNat := by
  have hlt := toNat_lt c
  rw [String.utf8EncodeChar, show c.val.toNat = c.toNat from rfl, encode, trailing]
  generalize c.toNat = n at hlt
  simp only [← Nat.lt_succ_iff]
  split
  · simp [marker, digits]
  · split
    · rw [Nat.mod_eq_of_lt (show n / 64 < 0x20 by omega)]
      rfl
    · split
      · rw [Nat.mod_eq_of_lt (show n / 4096 < 0x10 by omega)]
        simp [marker, digits]
      · rw [Nat.mod_eq_of_lt (show n / 262144 < 0x08 by omega)]
        simp [marker, digits, Nat.div_div_eq_div_mul]

theorem trailing_le {m n : Nat} (h : m ≤ n) : trailing m ≤ trailing n := by
  simp only [trailing]
  grind

theorem lead_lt_lead {m n : Nat} (h : trailing m < trailing n) :
    m / 64 ^ trailing m + marker (trailing m) < n / 64 ^ trailing n + marker (trailing n) := by
  grind [trailing, marker]

theorem lead_lt {n : Nat} (h : n < 0x110000) :
    n / 64 ^ trailing n + marker (trailing n) < 0x100 := by
  grind [trailing, marker]

theorem ofNat_lt_ofNat {m n : Nat} (h : m < n) (hn : n < 0x100) :
    UInt8.ofNat m < UInt8.ofNat n := by
  rw [UInt8.lt_iff_toNat_lt, UInt8.toNat_ofNat', UInt8.toNat_ofNat', Nat.mod_eq_of_lt hn,
    Nat.mod_eq_of_lt (Nat.lt_trans h hn)]
  exact h

/-- The higher digits decide, and the first of them stands in the lead byte. -/
theorem cons_digits_append_lt (first : Nat → UInt8) (count : Nat) {m n : Nat} (h : m < n)
    (hfirst : m / 64 ^ count < n / 64 ^ count →
      first (m / 64 ^ count) < first (n / 64 ^ count)) (cs ds : List UInt8) :
    first (m / 64 ^ count) :: (digits count m ++ cs) <
      first (n / 64 ^ count) :: (digits count n ++ ds) := by
  induction count generalizing m n cs ds with
  | zero =>
      simp only [Nat.pow_zero, Nat.div_one] at hfirst ⊢
      exact .rel (hfirst h)
  | succ count ih =>
      have hpow (k : Nat) : k / 64 ^ (count + 1) = k / 64 / 64 ^ count := by
        rw [Nat.div_div_eq_div_mul, Nat.pow_succ']
      simp only [hpow] at hfirst ⊢
      simp only [digits, List.append_assoc, List.singleton_append]
      -- the lowest digits count only where the higher ones agree
      rcases Nat.lt_or_eq_of_le (Nat.div_le_div_right (c := 64) (Nat.le_of_lt h)) with hlt | heq
      · exact ih hlt hfirst _ _
      · have hdigit : UInt8.ofNat (m % 64 + 0x80) < .ofNat (n % 64 + 0x80) :=
          ofNat_lt_ofNat (by omega) (by omega)
        rw [heq, ← List.cons_append, ← List.cons_append]
        exact List.append_left_lt (.rel hdigit)

theorem encode_append_lt {m n : Nat} (h : m < n) (hn : n < 0x110000) (cs ds : List UInt8) :
    encode m ++ cs < encode n ++ ds := by
  have hlead := lead_lt hn
  rw [encode, encode, List.cons_append, List.cons_append]
  rcases Nat.lt_or_eq_of_le (trailing_le (Nat.le_of_lt h)) with hlt | heq
  · exact .rel (ofNat_lt_ofNat (lead_lt_lead hlt) hlead)
  · rw [heq]
    refine cons_digits_append_lt (fun digit => .ofNat (digit + marker (trailing n))) _ h ?_ cs ds
    intro hdigit
    exact ofNat_lt_ofNat (Nat.add_lt_add_right hdigit _) hlead

theorem flatMap_lt {cs ds : List Char} (h : cs < ds) :
    cs.flatMap String.utf8EncodeChar < ds.flatMap String.utf8EncodeChar := by
  induction h with
  | nil =>
      rw [List.flatMap_cons, utf8EncodeChar_eq, encode, List.cons_append]
      exact .nil
  | cons _ ih => exact List.append_left_lt ih
  | rel h =>
      simp only [List.flatMap_cons, utf8EncodeChar_eq]
      exact encode_append_lt h (toNat_lt _) _ _

theorem bytes_lt_iff {s t : String} : bytes s < bytes t ↔ s < t := by
  have hlt {s t : String} (h : s < t) : bytes s < bytes t := by
    rw [bytes_eq_flatMap, bytes_eq_flatMap]
    exact flatMap_lt h
  refine ⟨fun h => ?_, hlt⟩
  rcases Std.lt_trichotomy s t with hst | rfl | hts
  · exact hst
  · exact absurd h (List.lt_irrefl _)
  · exact absurd h (List.lt_asymm (hlt hts))

theorem bytes_le_iff {s t : String} : bytes s ≤ bytes t ↔ s ≤ t := by
  rw [← List.not_lt, bytes_lt_iff, String.not_lt]

end FilingChecklist.Text
