import FilingChecklist.Proofs.Rule.Conditions
import FilingChecklist.Proofs.Rule.Leaves

namespace FilingChecklist

/-- Neither text nor a list with a list among its items. -/
structure Json.IsPlain (v : Json) : Prop where
  not_text : ∀ s, v ≠ .string s
  not_nested : ∀ items inner, v = .array items → .array inner ∉ items

namespace Operand

theorem isLeaf_ofText (s : String) : (ofText s).IsLeaf := by
  rcases ofText_cases s with ⟨b, hs⟩ | ⟨x, hs⟩ | hs
  all_goals
    rw [hs]
    intro items h
    cases h

theorem isLeaf_ofJson {v : Json} (h : ∀ items, v ≠ .array items) : (ofJson v).IsLeaf := by
  cases v with
  | string s => exact isLeaf_ofText s
  | array items => exact absurd rfl (h items)
  | _ => nofun

theorem ofJson_string (s : String) : ofJson (.string s) = ofText s := by
  rw [ofJson, TextMode.operand, TextMode.text]

theorem ofJson_array (items : List Json) : ofJson (.array items) = .list (items.map ofJson) := by
  rw [ofJson, TextMode.operand, TextMode.operands_eq_map]

end Operand

namespace Comparison

open Operand (coerced)

variable {v : Json} {expected : List Operand}

theorem matchesOperand_map_coerced (h : ∀ items, v ≠ .array items) :
    matchesOperand (expected.map coerced) (.ofJson v) =
      expected.any fun e => (Operand.ofJson v).looselyEquals e.coerced := by
  rw [matchesOperand_of_isLeaf (Operand.isLeaf_ofJson h), List.any_map]
  rfl

theorem contains_eq_matchesAny (h : v.IsPlain) :
    contains (some v) expected = matchesAny (some v) (expected.map coerced) := by
  rw [matchesAny, Option.any_some]
  cases v with
  | string s => exact absurd rfl (h.not_text s)
  | array items =>
      rw [Operand.ofJson_array, matchesOperand_list, List.any_map, contains, Bool.eq_iff_iff,
        List.any_eq_true, List.any_eq_true]
      refine exists_congr fun item => and_congr_right fun hitem => ?_
      have hleaf : ∀ inner, item ≠ .array inner := by
        rintro inner rfl
        exact h.not_nested items inner rfl hitem
      rw [Function.comp_apply, matchesOperand_map_coerced hleaf]
  | _ =>
      refine (matchesOperand_map_coerced ?_).symm
      nofun

theorem contains_nil (actual : Option Json) : contains actual [] = false := by
  cases actual with
  | none => rfl
  | some v => cases v <;> simp [contains]

theorem holds_contains_eq {actual : Option Json} (h : ∀ v, actual = some v → v.IsPlain) :
    holds .contains actual expected = holds .oneOf actual (expected.map coerced) := by
  cases actual with
  | none => simp [holds, contains, matchesAny]
  | some v =>
      cases expected with
      | nil => simp [holds, contains_nil]
      | cons e rest => exact contains_eq_matchesAny (h v rfl)

end Comparison

namespace Source

open Text (trimmed)

/-- A condition that asks for containment says the same as one that asks for membership, of every
attribute that is missing or plain. -/
theorem evaluate_contains_eq_evaluate_in {key : String} {values attributes : Object}
    (hkey : trimmed key ≠ "")
    (hvalues : ∀ name ∈ Fields.keys values, name ∈ Expected.fieldNames)
    (hattribute : ∀ v, Path.resolve? attributes key = some v → v.IsPlain) :
    evaluate (.object (conditionObject key "contains" values)) attributes =
      evaluate (.object (conditionObject key "in" values)) attributes := by
  have hcontains := @ofSource_conditionObject key "contains" values .contains hvalues hkey
    (by decide +kernel)
  have hin := @ofSource_conditionObject key "in" values .oneOf hvalues hkey
    (by decide +kernel)
  rw [evaluate, evaluate, hcontains, hin]
  simp only [Rule.compare, Rule.evaluate, Comparison.evaluate, Path.resolve?_trimmed, textMode]
  rw [Comparison.holds_contains_eq hattribute, Expected.map_coerced_operands]

/-- A numeral with leading zeros is kept by the one operator and read by the other, and both find
the number in the list. -/
theorem evaluate_contains_eq_evaluate_in_numeral :
    let values : Object := [("options", .string "[null, \"deck\"]"), ("value", .string "a, 007")]
    let attributes : Object := [("scopes", .array [.string " 7.0", .bool true])]
    evaluate (.object (conditionObject " scopes" "contains" values)) attributes = true ∧
      evaluate (.object (conditionObject " scopes" "contains" values)) attributes =
        evaluate (.object (conditionObject " scopes" "in" values)) attributes := by
  intro values attributes
  refine ⟨by decide +kernel, evaluate_contains_eq_evaluate_in (by decide) (by decide) ?_⟩
  intro v hv
  have hscopes : Path.resolve? [("scopes", .array [.string " 7.0", .bool true])] " scopes" =
      some (.array [.string " 7.0", .bool true]) := rfl
  obtain rfl := Option.some.inj (hscopes.symm.trans hv)
  refine ⟨nofun, ?_⟩
  intro items inner heq hmem
  cases heq
  simp at hmem

end Source

end FilingChecklist
