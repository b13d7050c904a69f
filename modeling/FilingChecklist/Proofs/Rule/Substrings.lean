import FilingChecklist.Proofs.Text.Lowering
import FilingChecklist.Rule.Evaluation

/-!
Substring tests on a text attribute. Attribute and operand are put in small letters apart from each
other, so an operand that stands in the attribute letter by letter is found there, unless one of its
capital sigmas ends a word in only one of the two.
-/

namespace FilingChecklist.Comparison

open Text (KeepsSigmas)

variable {test : Comparison} {attributes : Object} {text part : String} {before after : List Char}

theorem textContains_of_keepsSigmas (htext : text.toList = before ++ part.toList ++ after)
    (hsigmas : KeepsSigmas before part.toList after) : textContains text (.text part) = true := by
  rw [textContains, Operand.text?, Option.any_some, htext]
  exact Text.occursIn_lower hsigmas

theorem evaluate_of_textContains {operand : Operand}
    (hvalue : Path.resolve? attributes test.key = some (.string text))
    (hmem : operand ∈ test.operands) (hcontains : textContains text operand = true) :
    (test.operator = .contains → test.evaluate attributes = true) ∧
      (test.operator = .notContains → test.evaluate attributes = false) := by
  have hfound : contains (some (.string text)) test.operands = true :=
    List.any_eq_true.mpr ⟨operand, hmem, hcontains⟩
  constructor
  · intro hoperator
    rw [evaluate, hvalue, hoperator, holds, hfound]
  · intro hoperator
    rw [evaluate, hvalue, hoperator, holds, hfound]
    rfl

/-- A text attribute contains each expected text that is a part of it and keeps its sigmas there. -/
theorem evaluate_contains_of_part (hvalue : Path.resolve? attributes test.key = some (.string text))
    (hpart : .text part ∈ test.operands) (htext : text.toList = before ++ part.toList ++ after)
    (hsigmas : KeepsSigmas before part.toList after) :
    (test.operator = .contains → test.evaluate attributes = true) ∧
      (test.operator = .notContains → test.evaluate attributes = false) :=
  evaluate_of_textContains hvalue hpart (textContains_of_keepsSigmas htext hsigmas)

theorem evaluate_contains_of_part_street :
    let attributes : Object := [("street", .string "ΟΔΟΣ ΑΘΗΝΑΣ 12")]
    let word : Comparison := ⟨"street", .contains, [.null, .text "ΑΘΗΝΑΣ"]⟩
    let letters : Comparison := ⟨" street", .notContains, [.text "ΔΟ"]⟩
    word.evaluate attributes = true ∧ letters.evaluate attributes = false := by
  intro attributes word letters
  have hvalue (path : String) (hpath : Text.trimmed path = "street") :
      Path.resolve? attributes path = some (.string "ΟΔΟΣ ΑΘΗΝΑΣ 12") := by
    rw [← Path.resolve?_trimmed, hpath]
    exact Path.resolve?_of_get? (by decide) (by decide) rfl
  have hword : KeepsSigmas "ΟΔΟΣ ".toList "ΑΘΗΝΑΣ".toList " 12".toList :=
    Text.keepsSigmas_of_meetsCased (by decide +kernel) (by decide +kernel)
  have hletters : KeepsSigmas "Ο".toList "ΔΟ".toList "Σ ΑΘΗΝΑΣ 12".toList :=
    Text.keepsSigmas_of_not_mem (by decide)
  obtain ⟨hcontains, -⟩ := @evaluate_contains_of_part word attributes _ "ΑΘΗΝΑΣ" _ _
    (hvalue _ (by decide)) (by simp [word]) (by decide +kernel) hword
  obtain ⟨-, hlacks⟩ := @evaluate_contains_of_part letters attributes _ "ΔΟ" _ _
    (hvalue _ (by decide)) (by simp [letters]) (by decide +kernel) hletters
  exact ⟨hcontains rfl, hlacks rfl⟩

/-- A capital sigma on its own ends no word, so it is not found at the end of one. -/
theorem evaluate_contains_of_part_final_sigma :
    let attributes : Object := [("street", .string "ΟΔΟΣ")]
    Path.resolve? attributes "street" = some (.string "ΟΔΟΣ") ∧
      "ΟΔΟΣ".toList = "ΟΔΟ".toList ++ "Σ".toList ++ [] ∧
      Comparison.evaluate ⟨"street", .contains, [.text "Σ"]⟩ attributes = false ∧
      Comparison.evaluate ⟨"street", .notContains, [.text "Σ"]⟩ attributes = true := by
  intro attributes
  have hvalue : Path.resolve? attributes "street" = some (.string "ΟΔΟΣ") :=
    Path.resolve?_of_get? (by decide) (by decide) rfl
  exact ⟨hvalue, by decide, by decide +kernel, by decide +kernel⟩

end FilingChecklist.Comparison
