import FilingChecklist.Proofs.Decimal.Characters
import FilingChecklist.Proofs.Decimal.Rounding

/-!
Reading written numbers. Every style writes a numeral of the decimal it is given, and the parts of a
numeral can be told from its characters, so the text of a binary number reads back as that number.
Numbers of exchanged data that differ have different texts.
-/

namespace FilingChecklist.Decimal

namespace Numeral

def fractionChars : Option (List Char) → List Char
  | none => []
  | some digits => '.' :: digits

def exponentChars : Option (Bool × List Char) → List Char
  | none => []
  | some (negative, digits) => 'e' :: (if negative then '-' else '+') :: digits

def chars (n : Numeral) : List Char :=
  n.sign.toList ++ (n.whole ++ (fractionChars n.fraction ++ exponentChars n.exponent))

/-- A numeral as numbers are written: no plus sign before it, digits before the point, and digits in
an exponent. -/
structure IsPlain (n : Numeral) : Prop where
  sign : n.sign = none ∨ n.sign = some '-'
  whole_ne_nil : n.whole ≠ []
  whole : ∀ c ∈ n.whole, c.isDigit = true
  fraction : ∀ digits, n.fraction = some digits → ∀ c ∈ digits, c.isDigit = true
  exponent : ∀ negative digits, n.exponent = some (negative, digits) →
    digits ≠ [] ∧ ∀ c ∈ digits, c.isDigit = true

theorem splitSign_of_isDigit {c : Char} {rest : List Char} (h : c.isDigit = true) :
    splitSign (c :: rest) = (none, c :: rest) := by
  have hplus : c ≠ '+' := fun hc => absurd h (by rw [hc]; decide)
  have hminus : c ≠ '-' := fun hc => absurd h (by rw [hc]; decide)
  simp [splitSign, hplus, hminus]

theorem digits_append {digits rest : List Char} (hdigits : ∀ c ∈ digits, c.isDigit = true)
    (hrest : ∀ c ∈ rest.head?, c.isDigit = false) :
    (digits ++ rest).takeWhile Char.isDigit = digits ∧
      (digits ++ rest).dropWhile Char.isDigit = rest := by
  rw [List.takeWhile_append_of_pos hdigits, List.dropWhile_append_of_pos hdigits]
  cases rest with
  | nil => simp
  | cons c rest =>
      have hc : c.isDigit = false := hrest c rfl
      simp [hc]

theorem splitExponent_exponentChars {exponent : Option (Bool × List Char)}
    (h : ∀ negative digits, exponent = some (negative, digits) →
      digits ≠ [] ∧ ∀ c ∈ digits, c.isDigit = true) :
    splitExponent (exponentChars exponent) = some exponent := by
  rcases exponent with _ | ⟨negative, digits⟩
  · rfl
  · obtain ⟨hne, hdigits⟩ := h negative digits rfl
    have hempty : digits.isEmpty = false := List.isEmpty_eq_false_iff.mpr hne
    have hall : digits.all Char.isDigit = true := List.all_eq_true.mpr hdigits
    cases negative <;> simp [exponentChars, splitExponent, splitSign, hempty, hall]

theorem splitFraction_fractionChars {fraction : Option (List Char)} {rest : List Char}
    (h : ∀ digits, fraction = some digits → ∀ c ∈ digits, c.isDigit = true)
    (hrest : ∀ c ∈ rest.head?, c = 'e') :
    splitFraction (fractionChars fraction ++ rest) = (fraction, rest) := by
  cases fraction with
  | none =>
      rw [fractionChars, List.nil_append, splitFraction.eq_def]
      split
      · exact absurd (hrest '.' rfl) (by decide)
      · rfl
  | some digits =>
      have hend : ∀ c ∈ rest.head?, c.isDigit = false := by
        intro c hc
        rw [hrest c hc]
        decide
      obtain ⟨htake, hdrop⟩ := digits_append (h digits rfl) hend
      rw [fractionChars, List.cons_append, splitFraction, htake, hdrop]

/-- The parts of a numeral can be told from its characters. -/
theorem split?_chars {n : Numeral} (h : n.IsPlain) : split? n.chars = some n := by
  obtain ⟨sign, whole, fraction, exponent⟩ := n
  obtain ⟨hsign, hne, hwhole, hfraction, hexponent⟩ := h
  have hmark : ∀ c ∈ (exponentChars exponent).head?, c = 'e' := by
    rcases exponent with _ | ⟨negative, digits⟩ <;> simp [exponentChars]
  have hrest : ∀ c ∈ (fractionChars fraction ++ exponentChars exponent).head?,
      c.isDigit = false := by
    cases fraction with
    | none =>
        intro c hc
        rw [hmark c hc]
        decide
    | some digits => simp [fractionChars]
  obtain ⟨htake, hdrop⟩ := digits_append hwhole hrest
  have hunsigned : splitSign (sign.toList ++
      (whole ++ (fractionChars fraction ++ exponentChars exponent))) =
        (sign, whole ++ (fractionChars fraction ++ exponentChars exponent)) := by
    obtain ⟨first, others, rfl⟩ := List.exists_cons_of_ne_nil hne
    rcases hsign with rfl | rfl
    · exact splitSign_of_isDigit (hwhole first (.head _))
    · rfl
  simp only [split?, chars, hunsigned, htake, hdrop, splitFraction_fractionChars hfraction hmark,
    splitExponent_exponentChars hexponent, Option.map_some]

theorem hasDigit_of_isPlain {n : Numeral} (h : n.IsPlain) : n.hasDigit = true := by
  simp [hasDigit, h.whole_ne_nil]

end Numeral

theorem ofDigits_toDigits (n : Nat) : ofDigits (Nat.toDigits 10 n) = n :=
  Nat.ofDigitChars_ten_toDigits

theorem ofDigits_zeros_append (count : Nat) (digits : List Char) :
    ofDigits (List.replicate count '0' ++ digits) = ofDigits digits := by
  induction count with
  | zero => rfl
  | succ count ih => rw [List.replicate_succ, List.cons_append, ← ih]; rfl

theorem ofDigits_append_zeros (digits : List Char) (count : Nat) :
    ofDigits (digits ++ List.replicate count '0') = ofDigits digits * 10 ^ count := by
  induction count with
  | zero => rw [List.replicate_zero, List.append_nil, Nat.pow_zero, Nat.mul_one]
  | succ count ih =>
      have hlast (digits : List Char) : ofDigits (digits ++ ['0']) = 10 * ofDigits digits := by
        rw [ofDigits, List.foldl_append]
        rfl
      rw [List.replicate_succ', ← List.append_assoc, hlast, ih]
      ring

section Styles

variable {style : Style} {d : Decimal}

theorem ofDigits_digits (d : Decimal) : ofDigits d.digits = d.significand :=
  ofDigits_toDigits d.significand

theorem digits_ne_nil (d : Decimal) : d.digits ≠ [] :=
  Nat.toDigits_ne_nil

/-- A numeral for a decimal: the digits of the decimal stand between zeros, and there is a point or
an exponent if the style asks for one. -/
structure Numeral.Presents (n : Numeral) (style : Style) (d : Decimal) : Prop where
  sign : n.sign = if d.negative then some '-' else none
  whole_ne_nil : n.whole ≠ []
  digits : ∃ before after : Nat,
    n.whole ++ n.fractionDigits =
      List.replicate before '0' ++ (d.digits ++ List.replicate after '0') ∧
    n.power - n.fractionDigits.length = d.exponent - after
  exponent : ∀ negative digits, n.exponent = some (negative, digits) →
    digits ≠ [] ∧ ∀ c ∈ digits, c.isDigit = true
  keepsPoint : style.keepsPoint = true → n.isIntegral = false

theorem Numeral.Presents.isPlain {n : Numeral} (h : n.Presents style d) : n.IsPlain := by
  obtain ⟨before, after, hdigits, -⟩ := h.digits
  have hall : ∀ c ∈ n.whole ++ n.fractionDigits, c.isDigit = true := by
    have hzeros (count : Nat) : ∀ c ∈ List.replicate count '0', c.isDigit = true := by
      intro c hc
      rw [List.eq_of_mem_replicate hc]
      decide
    have hown : ∀ c ∈ d.digits, c.isDigit = true := fun c hc => isDigit_of_mem_toDigits hc
    rw [hdigits]
    exact List.forall_mem_append.mpr
      ⟨hzeros before, List.forall_mem_append.mpr ⟨hown, hzeros after⟩⟩
  refine ⟨?_, h.whole_ne_nil, ?_, ?_, h.exponent⟩
  · rw [h.sign]
    cases d.negative <;> simp
  · exact fun c hc => hall c (List.mem_append_left _ hc)
  · intro digits hfraction c hc
    exact hall c (List.mem_append_right _ (by rwa [fractionDigits, hfraction, Option.getD_some]))

theorem Numeral.Presents.toBinary64? {n : Numeral} (h : n.Presents style d) :
    (ofNumeral n).toBinary64? = d.toBinary64? := by
  obtain ⟨before, after, hdigits, hexponent⟩ := h.digits
  have hnegative : n.negative = d.negative := by
    rw [negative, h.sign]
    cases d.negative <;> rfl
  rw [ofNumeral, hnegative, hdigits, ofDigits_zeros_append, ofDigits_append_zeros, ofDigits_digits,
    hexponent]
  exact toBinary64?_shift d.negative d.significand d.exponent after

theorem exists_presents_of_digits {sign : Option Char} {body : List Char} (whole : List Char)
    (fraction : Option (List Char)) (before after : Nat)
    (hsign : sign = if d.negative then some '-' else none) (hne : whole ≠ [])
    (hdigits : whole ++ fraction.getD [] =
      List.replicate before '0' ++ (d.digits ++ List.replicate after '0'))
    (hexponent : -((fraction.getD []).length : Int) = d.exponent - after)
    (hpoint : style.keepsPoint = true → fraction.isNone = false)
    (hbody : whole ++ Numeral.fractionChars fraction = body) :
    ∃ n : Numeral, n.Presents style d ∧ n.chars = sign.toList ++ body := by
  refine ⟨⟨sign, whole, fraction, none⟩, ⟨hsign, hne, ⟨before, after, hdigits, ?_⟩, ?_, ?_⟩, ?_⟩
  · exact (Int.zero_sub _).trans hexponent
  · simp
  · intro hkeeps
    rw [Numeral.isIntegral, hpoint hkeeps, Bool.false_and]
  · rw [Numeral.chars, Numeral.exponentChars, List.append_nil, hbody]

theorem Style.positional_presents (style : Style) (d : Decimal) {sign : Option Char}
    (hsign : sign = if d.negative then some '-' else none) :
    ∃ n : Numeral, n.Presents style d ∧
      n.chars = sign.toList ++ style.positional d.digits (d.exponent + d.digits.length) := by
  have hne := digits_ne_nil d
  have hpos := List.length_pos_iff.mpr hne
  obtain ⟨point, hpoint⟩ : ∃ point, point = d.exponent + d.digits.length := ⟨_, rfl⟩
  rw [positional, ← hpoint]
  split
  · -- Below one, all digits stand after the point.
    apply exists_presents_of_digits ['0'] (some (List.replicate (-point).toNat '0' ++ d.digits))
      ((-point).toNat + 1) 0 hsign
    · simp
    · simp [List.replicate_succ]
    · simp only [Option.getD_some, List.length_append, List.length_replicate]
      omega
    · simp
    · rfl
  · split
    · -- An integral number has zeros up to the point, and may have one after it.
      obtain ⟨count, hcount⟩ : ∃ count, count = (point - d.digits.length).toNat := ⟨_, rfl⟩
      rw [← hcount]
      cases hkeeps : style.keepsPoint with
      | true =>
          apply exists_presents_of_digits (d.digits ++ List.replicate count '0') (some ['0']) 0
            (count + 1) hsign
          · simp [hne]
          · simp [List.replicate_succ']
          · simp only [Option.getD_some, List.length_singleton]
            omega
          · simp
          · rfl
      | false =>
          apply exists_presents_of_digits (d.digits ++ List.replicate count '0') none 0 count hsign
          · simp [hne]
          · simp
          · simp only [Option.getD_none, List.length_nil]
            omega
          · simp [hkeeps]
          · rfl
    · -- The point stands between two digits.
      apply exists_presents_of_digits (d.digits.take point.toNat)
        (some (d.digits.drop point.toNat)) 0 0 hsign
      · rw [← List.length_pos_iff, List.length_take]
        omega
      · simp
      · simp only [Option.getD_some, List.length_drop]
        omega
      · simp
      · rfl

theorem Numeral.power_eq {n : Numeral} {power : Int}
    (h : n.exponent = some (decide (power < 0), Nat.toDigits 10 power.natAbs)) :
    n.power = power := by
  rw [Numeral.power, h]
  by_cases hnegative : power < 0
  · simp only [hnegative, decide_true, ofDigits_toDigits]
    omega
  · simp only [hnegative, decide_false, ofDigits_toDigits]
    omega

theorem scientific_cons (first : Char) (rest : List Char) (power : Int) :
    ∃ fraction : Option (List Char), fraction.getD [] = rest ∧
      Style.scientific (first :: rest) power = [first] ++ (Numeral.fractionChars fraction ++
        Numeral.exponentChars (some (decide (power < 0), Nat.toDigits 10 power.natAbs))) := by
  have hmark : Numeral.exponentChars (some (decide (power < 0), Nat.toDigits 10 power.natAbs)) =
      'e' :: (if power < 0 then '-' else '+') :: Nat.toDigits 10 power.natAbs := by
    simp [Numeral.exponentChars]
  rw [hmark]
  cases rest with
  | nil => exact ⟨none, rfl, rfl⟩
  | cons second rest => exact ⟨some (second :: rest), rfl, rfl⟩

theorem Style.scientific_presents (style : Style) (d : Decimal) {sign : Option Char}
    (hsign : sign = if d.negative then some '-' else none) :
    ∃ n : Numeral, n.Presents style d ∧
      n.chars = sign.toList ++ scientific d.digits (d.exponent + d.digits.length - 1) := by
  obtain ⟨power, hpower⟩ : ∃ power, power = d.exponent + d.digits.length - 1 := ⟨_, rfl⟩
  obtain ⟨first, rest, hdigits⟩ := List.exists_cons_of_ne_nil (digits_ne_nil d)
  obtain ⟨fraction, hfraction, hscientific⟩ := scientific_cons first rest power
  rw [← hpower, hdigits, hscientific]
  refine ⟨⟨sign, [first], fraction, some (decide (power < 0), Nat.toDigits 10 power.natAbs)⟩,
    ⟨hsign, by simp, ⟨0, 0, ?_, ?_⟩, ?_, ?_⟩, rfl⟩
  · simp [Numeral.fractionDigits, hfraction, hdigits]
  · rw [Numeral.power_eq rfl, Numeral.fractionDigits, hfraction]
    rw [hdigits, List.length_cons] at hpower
    omega
  · intro negative digits h
    obtain ⟨-, rfl⟩ := Prod.mk.inj (Option.some.inj h)
    exact ⟨Nat.toDigits_ne_nil, fun c hc => isDigit_of_mem_toDigits hc⟩
  · simp [Numeral.isIntegral]

/-- Every style writes a numeral for the decimal it is given. -/
theorem Style.exists_presents (style : Style) (d : Decimal) :
    ∃ n : Numeral, n.Presents style d ∧ n.chars = style.write d := by
  obtain ⟨sign, hsign⟩ : ∃ sign, sign = if d.negative then some '-' else none := ⟨_, rfl⟩
  have hwrite (body : List Char) :
      (if d.negative then '-' :: body else body) = sign.toList ++ body := by
    rw [hsign]
    cases d.negative <;> rfl
  rw [write, hwrite]
  split
  · exact style.positional_presents d hsign
  · exact style.scientific_presents d hsign

/-- The text of a number in any style reads back as the number. -/
theorem Style.binary64OfText?_text (style : Style) (x : Binary64) :
    binary64OfText? (style.text x).toList = some x := by
  obtain ⟨n, hpresents, hchars⟩ := style.exists_presents (shortest style.tie x)
  have hplain := hpresents.isPlain
  rw [text, String.toList_ofList, ← hchars, binary64OfText?, Numeral.split?_chars hplain,
    Option.bind_eq_bind, Option.bind_some, if_pos (Numeral.hasDigit_of_isPlain hplain),
    hpresents.toBinary64?, toBinary64?_shortest]

theorem Style.text_injective (style : Style) : Function.Injective style.text := by
  intro x y h
  have hread := style.binary64OfText?_text x
  rw [h, style.binary64OfText?_text y] at hread
  exact (Option.some.inj hread).symm

end Styles

end FilingChecklist.Decimal

namespace FilingChecklist.Json.Number

open Decimal

theorem integerText_splits (i : Int) :
    Numeral.split? (integerText i).toList =
      some ⟨if i < 0 then some '-' else none, Nat.toDigits 10 i.natAbs, none, none⟩ := by
  have hplain : Numeral.IsPlain
      ⟨if i < 0 then some '-' else none, Nat.toDigits 10 i.natAbs, none, none⟩ := by
    refine ⟨?_, Nat.toDigits_ne_nil, ?_, by simp, by simp⟩
    · simp only
      split <;> simp
    · exact fun c hc => isDigit_of_mem_toDigits hc
  rw [← Numeral.split?_chars hplain, integerText, String.toList_ofList, Numeral.chars]
  simp only [Numeral.fractionChars, Numeral.exponentChars, List.append_nil]
  split <;> rfl

theorem integerText_injective : Function.Injective integerText := by
  intro i j h
  have hsplits := integerText_splits i
  rw [h, integerText_splits j, Option.some.injEq, Numeral.mk.injEq] at hsplits
  obtain ⟨hsign, hdigits, -⟩ := hsplits
  have habs : j.natAbs = i.natAbs := by
    rw [← ofDigits_toDigits j.natAbs, hdigits, ofDigits_toDigits]
  have hnegative : j < 0 ↔ i < 0 := by
    by_cases hi : i < 0 <;> by_cases hj : j < 0 <;> simp [hi, hj] at hsign ⊢
  omega

theorem integerText_ne_style (i : Int) (x : Binary64) : integerText i ≠ style.text x := by
  intro h
  obtain ⟨n, hpresents, hchars⟩ := style.exists_presents (shortest style.tie x)
  have hsplits := integerText_splits i
  rw [h, Style.text, String.toList_ofList, ← hchars, Numeral.split?_chars hpresents.isPlain,
    Option.some.injEq] at hsplits
  have hpoint := hpresents.keepsPoint rfl
  rw [hsplits] at hpoint
  cases hpoint

theorem text_injective : Function.Injective text := by
  intro m n h
  cases m with
  | integer i _ =>
      cases n with
      | integer j _ =>
          obtain rfl := integerText_injective h
          rfl
      | binary y => exact absurd h (integerText_ne_style i y)
  | binary x =>
      cases n with
      | integer j _ => exact absurd h.symm (integerText_ne_style j x)
      | binary y => exact congrArg binary (style.text_injective h)

end FilingChecklist.Json.Number
