import FilingChecklist.Json.Number
import FilingChecklist.Text.Blank

namespace FilingChecklist.Decimal

def isNumeric (c : Char) : Bool :=
  c.isDigit || ['+', '-', '.', 'e', 'E'].contains c

theorem isNumeric_of_isDigit {c : Char} (h : c.isDigit = true) : isNumeric c = true := by
  rw [isNumeric, h, Bool.true_or]

theorem isNumeric_cases {c : Char} (h : isNumeric c = true) :
    c.isDigit = true ∨ c = '+' ∨ c = '-' ∨ c = '.' ∨ c = 'e' ∨ c = 'E' := by
  simpa [isNumeric] using h

theorem toNat_of_isDigit {c : Char} (h : c.isDigit = true) : 48 ≤ c.toNat ∧ c.toNat ≤ 57 := by
  simpa [Char.isDigit, UInt32.le_iff_toNat_le] using h

theorem isBlank_of_isNumeric {c : Char} (h : isNumeric c = true) : Text.isBlank c = false := by
  rcases isNumeric_cases h with hdigit | rfl | rfl | rfl | rfl | rfl
  · have hrange := toNat_of_isDigit hdigit
    exact Text.isBlank_of_ascii (by omega) (by omega)
  all_goals decide

theorem isNumeric_toLower {c : Char} (h : isNumeric c = true) : isNumeric c.toLower = true := by
  rcases isNumeric_cases h with hdigit | rfl | rfl | rfl | rfl | rfl
  · have hrange := toNat_of_isDigit hdigit
    rcases Text.toLower_cases c with hlower | ⟨hcapital, -, -⟩
    · rw [hlower]
      exact h
    · omega
  all_goals decide

theorem isNumeric_of_dropWhile {cs : List Char}
    (h : ∀ c ∈ cs.dropWhile Char.isDigit, isNumeric c = true) : ∀ c ∈ cs, isNumeric c = true := by
  intro c hc
  rw [← List.takeWhile_append_dropWhile (p := Char.isDigit) (l := cs)] at hc
  rcases List.mem_append.mp hc with hdigit | hrest
  · exact isNumeric_of_isDigit (List.all_eq_true.mp List.all_takeWhile c hdigit)
  · exact h c hrest

theorem isNumeric_of_splitSign {cs : List Char}
    (h : ∀ c ∈ (splitSign cs).2, isNumeric c = true) : ∀ c ∈ cs, isNumeric c = true := by
  rw [splitSign.eq_def] at h
  split at h
  · exact List.forall_mem_cons.mpr ⟨by decide, h⟩
  · exact List.forall_mem_cons.mpr ⟨by decide, h⟩
  · exact h

theorem isNumeric_of_splitFraction {cs : List Char}
    (h : ∀ c ∈ (splitFraction cs).2, isNumeric c = true) : ∀ c ∈ cs, isNumeric c = true := by
  rw [splitFraction.eq_def] at h
  split at h
  · exact List.forall_mem_cons.mpr ⟨by decide, isNumeric_of_dropWhile h⟩
  · exact h

theorem isNumeric_of_splitExponent {cs : List Char} {exponent : Option (Bool × List Char)}
    (h : splitExponent cs = some exponent) : ∀ c ∈ cs, isNumeric c = true := by
  cases cs with
  | nil => simp
  | cons c rest =>
      simp only [splitExponent] at h
      split at h
      · next hmark =>
          simp only [Bool.and_eq_true, Bool.or_eq_true, beq_iff_eq, List.all_eq_true] at hmark
          obtain ⟨⟨hletter, -⟩, hdigits⟩ := hmark
          refine List.forall_mem_cons.mpr ⟨?_, isNumeric_of_splitSign ?_⟩
          · rcases hletter with rfl | rfl <;> decide
          · intro d hd
            exact isNumeric_of_isDigit (hdigits d hd)
      · cases h

theorem isNumeric_of_split? {cs : List Char} {n : Numeral} (h : Numeral.split? cs = some n) :
    ∀ c ∈ cs, isNumeric c = true := by
  obtain ⟨exponent, hexponent, -⟩ := Option.map_eq_some_iff.mp h
  apply isNumeric_of_splitSign
  apply isNumeric_of_dropWhile
  apply isNumeric_of_splitFraction
  exact isNumeric_of_splitExponent hexponent

theorem isDigit_of_mem_toDigits {n : Nat} {c : Char} (h : c ∈ Nat.toDigits 10 n) :
    c.isDigit = true :=
  Nat.isDigit_of_mem_toDigits (by decide) (by decide) h

theorem isNumeric_of_mem_toDigits {n : Nat} {c : Char} (h : c ∈ Nat.toDigits 10 n) :
    isNumeric c = true :=
  isNumeric_of_isDigit (isDigit_of_mem_toDigits h)

namespace Style

theorem isNumeric_of_mem_positional (style : Style) {digits : List Char} {point : Int}
    (hdigits : ∀ c ∈ digits, isNumeric c = true) :
    ∀ c ∈ style.positional digits point, isNumeric c = true := by
  have hzeros (count : Nat) : ∀ c ∈ List.replicate count '0', isNumeric c = true := by
    intro c hc
    rw [List.eq_of_mem_replicate hc]
    decide
  have hzero : isNumeric '0' = true := by decide
  have hpoint : isNumeric '.' = true := by decide
  rw [positional]
  split
  · refine List.forall_mem_cons.mpr ⟨hzero, List.forall_mem_cons.mpr ⟨hpoint, ?_⟩⟩
    exact List.forall_mem_append.mpr ⟨hzeros _, hdigits⟩
  · split
    · refine List.forall_mem_append.mpr
        ⟨List.forall_mem_append.mpr ⟨hdigits, hzeros _⟩, ?_⟩
      split
      · exact List.forall_mem_cons.mpr ⟨hpoint, List.forall_mem_cons.mpr ⟨hzero, by simp⟩⟩
      · simp
    · refine List.forall_mem_append.mpr ⟨?_, List.forall_mem_cons.mpr ⟨hpoint, ?_⟩⟩
      · exact fun c hc => hdigits c (List.mem_of_mem_take hc)
      · exact fun c hc => hdigits c (List.mem_of_mem_drop hc)

theorem isNumeric_of_mem_scientific {digits : List Char} {power : Int}
    (hdigits : ∀ c ∈ digits, isNumeric c = true) :
    ∀ c ∈ scientific digits power, isNumeric c = true := by
  rw [scientific.eq_def]
  refine List.forall_mem_append.mpr ⟨?_, ?_⟩
  · split
    · simp only [List.forall_mem_cons] at hdigits ⊢
      exact ⟨hdigits.1, by decide, hdigits.2⟩
    · exact hdigits
  · refine List.forall_mem_cons.mpr ⟨by decide, List.forall_mem_cons.mpr ⟨?_, ?_⟩⟩
    · split <;> decide
    · exact fun c hc => isNumeric_of_mem_toDigits hc

theorem isNumeric_of_mem_write (style : Style) (d : Decimal) :
    ∀ c ∈ style.write d, isNumeric c = true := by
  have hdigits : ∀ c ∈ d.digits, isNumeric c = true :=
    fun c hc => isNumeric_of_mem_toDigits hc
  have hbody : ∀ c ∈ (if style.isPositional (d.exponent + d.digits.length - 1) then
      style.positional d.digits (d.exponent + d.digits.length)
      else scientific d.digits (d.exponent + d.digits.length - 1)), isNumeric c = true := by
    split
    · exact isNumeric_of_mem_positional style hdigits
    · exact isNumeric_of_mem_scientific hdigits
  rw [write]
  split
  · exact List.forall_mem_cons.mpr ⟨by decide, hbody⟩
  · exact hbody

theorem positional_ne_nil (style : Style) {digits : List Char} {point : Int}
    (hdigits : digits ≠ []) : style.positional digits point ≠ [] := by
  rw [positional]
  split
  · exact List.cons_ne_nil _ _
  · split
    · simp [hdigits]
    · simp

theorem write_ne_nil (style : Style) (d : Decimal) : style.write d ≠ [] := by
  have hdigits : d.digits ≠ [] := Nat.toDigits_ne_nil
  rw [write]
  split
  · exact List.cons_ne_nil _ _
  · split
    · exact positional_ne_nil style hdigits
    · rw [scientific.eq_def]
      simp

end Style

end FilingChecklist.Decimal

namespace FilingChecklist.Json.Number

open Decimal

theorem text_isNumeric (n : Number) :
    ∀ c ∈ n.text.toList, isNumeric c = true := by
  cases n with
  | integer i _ =>
      intro c hc
      simp only [text, integerText, String.toList_ofList] at hc
      rcases List.mem_append.mp hc with hsign | hdigit
      · split at hsign
        · rw [List.mem_singleton.mp hsign]
          decide
        · cases hsign
      · exact isNumeric_of_mem_toDigits hdigit
  | binary x =>
      rw [text, Style.text, String.toList_ofList]
      exact Style.isNumeric_of_mem_write style _

theorem text_ne_empty (n : Number) : n.text ≠ "" := by
  rw [ne_eq, ← String.toList_eq_nil_iff]
  cases n with
  | integer i _ => simp [text, integerText, Nat.toDigits_ne_nil]
  | binary x =>
      rw [text, Style.text, String.toList_ofList]
      exact Style.write_ne_nil style _

theorem trimmed_text (n : Number) : Text.trimmed n.text = n.text := by
  have hplain : ∀ c ∈ n.text.toList, Text.isBlank c = false :=
    fun c hc => isBlank_of_isNumeric (n.text_isNumeric c hc)
  rw [Text.trimmed, Text.trim_of_forall_filled hplain, String.ofList_toList]

end FilingChecklist.Json.Number
