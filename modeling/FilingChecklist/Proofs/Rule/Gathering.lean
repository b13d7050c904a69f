import Mathlib.Data.List.Basic
import FilingChecklist.Rule.Expected

namespace FilingChecklist

namespace Operand

@[simp] theorem ofText_trimmed (s : String) : ofText (Text.trimmed s) = ofText s := by
  simp only [ofText, Text.trimmed_trimmed]

theorem ofText_cases (s : String) :
    (∃ b, ofText s = .bool b) ∨ (∃ x, ofText s = .number x) ∨
      ofText s = .text (Text.trimmed s) := by
  rw [ofText]
  cases boolOfText? (Text.trimmed s) with
  | some b => exact .inl ⟨b, rfl⟩
  | none =>
      cases Decimal.binary64OfText? (Text.trimmed s).toList with
      | some x => exact .inr (.inl ⟨x, rfl⟩)
      | none => exact .inr (.inr rfl)

theorem coerced_ofText (s : String) : (ofText s).coerced = ofText s := by
  rcases ofText_cases s with ⟨b, hs⟩ | ⟨x, hs⟩ | hs
  · rw [hs, coerced.eq_def]
  · rw [hs, coerced.eq_def]
  · -- what stays text is trimmed, and reads as it did before
    calc
      (ofText s).coerced = ofText (Text.trimmed s) := by rw [hs, coerced]
      _ = ofText s := ofText_trimmed s

mutual

theorem coerced_coerced : (operand : Operand) → operand.coerced.coerced = operand.coerced
  | .null => rfl
  | .bool _ => rfl
  | .number _ => rfl
  | .text s => coerced_ofText s
  | .list items => by rw [coerced, coerced, coercedEach_coercedEach items]
  | .map _ => rfl

theorem coercedEach_coercedEach :
    (items : List Operand) → coercedEach (coercedEach items) = coercedEach items
  | [] => rfl
  | item :: items => by
      rw [coercedEach, coercedEach, coerced_coerced item, coercedEach_coercedEach items]

end

end Operand

namespace TextMode

@[simp] theorem coerced_text (s : String) : (verbatim.text s).coerced = coerce.text s := by
  rw [text, text, Operand.coerced, Operand.ofText_trimmed]

mutual

@[simp] theorem coerced_operand : (v : Json) → (verbatim.operand v).coerced = coerce.operand v
  | .null => rfl
  | .bool _ => rfl
  | .number _ => rfl
  | .string s => coerced_text s
  | .array items => by rw [operand, operand, Operand.coerced, coercedEach_operands items]
  | .object _ => rfl

theorem coercedEach_operands :
    (items : List Json) → Operand.coercedEach (verbatim.operands items) = coerce.operands items
  | [] => rfl
  | item :: items => by
      rw [operands, operands, Operand.coercedEach, coerced_operand item, coercedEach_operands items]

end

end TextMode

theorem Operand.coerced_ofJson (v : Json) : (ofJson v).coerced = ofJson v := by
  rw [ofJson, ← TextMode.coerced_operand, coerced_coerced]

namespace Expected

open Operand (coerced)

variable (decode : String → Option Json)

theorem map_coerced_ofParts (text : List Char) :
    (ofParts .verbatim text).map coerced = ofParts .coerce text := by
  simp only [ofParts]
  split
  · simp only [List.map_map, Function.comp_def, TextMode.coerced_text]
  · simp only [List.map_cons, List.map_nil, TextMode.coerced_text]

theorem map_coerced_ofDecoded (v : Json) :
    (ofDecoded .verbatim v).map coerced = ofDecoded .coerce v := by
  cases v with
  | array items =>
      simp only [ofDecoded, List.map_map, Function.comp_def, TextMode.coerced_operand]
  | _ => simp only [ofDecoded, List.map_cons, List.map_nil, TextMode.coerced_operand]

theorem map_coerced_ofText (s : String) :
    (ofText decode .verbatim s).map coerced = ofText decode .coerce s := by
  simp only [ofText]
  split
  · rfl
  · split
    · split
      · exact map_coerced_ofDecoded _
      · exact map_coerced_ofParts _
    · exact map_coerced_ofParts _

theorem map_coerced_ofField (field : Option Json) :
    (ofField decode .verbatim field).map coerced = ofField decode .coerce field := by
  cases field with
  | none => rfl
  | some v =>
      cases v with
      | null => rfl
      | string s => exact map_coerced_ofText decode s
      | _ => simp only [ofField, map_coerced_ofDecoded]

/-- Both modes gather the same operands, up to the reading of their texts. -/
theorem map_coerced_operands (rule : Object) :
    (operands decode .verbatim rule).map coerced = operands decode .coerce rule := by
  simp only [operands, List.map_flatMap, map_coerced_ofField]

/-- The operands that are read for their values are those that keep their text, each coerced.
Operands that were coerced before, and attributes, are not changed by it. -/
theorem operands_coerce_eq_map_coerced (rule : Object) :
    operands decode .coerce rule = (operands decode .verbatim rule).map coerced ∧
      (∀ operand : Operand, operand.coerced.coerced = operand.coerced) ∧
      ∀ v, (Operand.ofJson v).coerced = Operand.ofJson v :=
  ⟨(map_coerced_operands decode rule).symm, Operand.coerced_coerced, Operand.coerced_ofJson⟩

theorem operands_congr {mode : TextMode} {rule other : Object}
    (h : ∀ name ∈ fieldNames, Fields.get? rule name = Fields.get? other name) :
    operands decode mode rule = operands decode mode other := by
  apply List.flatMap_congr
  intro name hname
  rw [h name hname]

theorem operands_of_only {mode : TextMode} {rule : Object} {name : String}
    (hname : name ∈ fieldNames)
    (hothers : ∀ other ∈ fieldNames, other ≠ name → Fields.get? rule other = none) :
    operands decode mode rule = ofField decode mode (Fields.get? rule name) := by
  have hnodup : fieldNames.Nodup := by decide
  obtain ⟨before, after, hsplit⟩ := List.append_of_mem hname
  rw [hsplit, List.nodup_append, List.nodup_cons] at hnodup
  obtain ⟨-, ⟨hafter, -⟩, hbefore⟩ := hnodup
  have hempty {names : List String} (hnames : ∀ other ∈ names, other ∈ fieldNames ∧ other ≠ name) :
      (names.flatMap fun other => ofField decode mode (Fields.get? rule other)) = [] := by
    apply List.flatMap_eq_nil_iff.mpr
    intro other hother
    obtain ⟨hfield, hne⟩ := hnames other hother
    rw [hothers other hfield hne]
    rfl
  have hleft : ∀ other ∈ before, other ∈ fieldNames ∧ other ≠ name := by
    intro other hother
    exact ⟨by rw [hsplit]; exact List.mem_append_left _ hother,
      hbefore other hother name List.mem_cons_self⟩
  have hright : ∀ other ∈ after, other ∈ fieldNames ∧ other ≠ name := by
    intro other hother
    exact ⟨by rw [hsplit]; exact List.mem_append_right _ (List.mem_cons_of_mem _ hother),
      ne_of_mem_of_not_mem hother hafter⟩
  rw [operands, hsplit, List.flatMap_append, List.flatMap_cons, hempty hleft, hempty hright,
    List.nil_append, List.append_nil]

end Expected

end FilingChecklist
