import FilingChecklist.Proofs.Rule.Aliases
import FilingChecklist.Proofs.Rule.Membership

/-!
Conditions that compare an attribute with its own value. The expected operands are gathered from the
value and the attribute is read as one operand. Both have the same leaves, unless the value is text
that is cut into parts or read as JSON; and a value without leaves equals nothing.
-/

namespace FilingChecklist

open Text (trim trimmed)

namespace Json

theorem Number.sameValue_refl (n : Number) : n.sameValue n = true := by
  cases n with
  | integer i _ => exact beq_self_eq_true i
  | binary x => exact Binary64.sameValue_iff.mpr rfl

mutual

theorem sameValue_refl : (v : Json) → sameValue v v = true
  | .null => by rw [sameValue]
  | .bool b => by rw [sameValue, beq_self_eq_true]
  | .number n => by rw [sameValue, n.sameValue_refl]
  | .string s => by rw [sameValue, beq_self_eq_true]
  | .array items => by rw [sameValue, sameItems_refl items]
  | .object fields => by rw [sameValue, sameFields_refl fields]

theorem sameItems_refl : (items : List Json) → sameItems items items = true
  | [] => by rw [sameItems]
  | item :: items => by
      rw [sameItems, sameValue_refl item, sameItems_refl items, Bool.true_and]

theorem sameFields_refl : (fields : List (String × Json)) → sameFields fields fields = true
  | [] => by rw [sameFields]
  | (name, v) :: fields => by
      rw [sameFields, sameValue_refl v, sameFields_refl fields, beq_self_eq_true, Bool.true_and,
        Bool.true_and]

end

/-- A value that is no array stands somewhere in the value, inside arrays alone. -/
inductive HasLeaf : Json → Prop
  | leaf {v : Json} (h : ∀ items, v ≠ .array items) : HasLeaf v
  | item {items : List Json} {v : Json} (hmem : v ∈ items) (h : HasLeaf v) : HasLeaf (.array items)

/-- The value is one operand as it is authored, or its items are. -/
inductive IsWhole : Json → Prop
  | bool (b : Bool) : IsWhole (.bool b)
  | number (n : Number) : IsWhole (.number n)
  | object (fields : List (String × Json)) : IsWhole (.object fields)
  | text {s : String} (hfilled : trim s.toList ≠ [])
      (hlist : (trim s.toList).head? ≠ some '[') (hobject : (trim s.toList).head? ≠ some '\x7b')
      (hparts : (((Text.parts ',' (trim s.toList)).map trim).filter (!·.isEmpty)).length ≤ 1) :
      IsWhole (.string s)
  | array {items : List Json} (h : HasLeaf (.array items)) : IsWhole (.array items)

end Json

namespace Operand

theorem IsLeaf.sameLeaf_self {leaf : Operand} (h : leaf.IsLeaf) : leaf.sameLeaf leaf = true := by
  cases leaf with
  | null => rfl
  | bool b => exact beq_self_eq_true b
  | number x => exact Binary64.sameValue_iff.mpr rfl
  | text s => exact beq_self_eq_true s
  | list items => exact absurd rfl (h items)
  | map fields => exact Json.sameFields_refl fields

theorem isLeaf_of_mem_leaves {leaf operand : Operand} (h : leaf ∈ operand.leaves) :
    leaf.IsLeaf := by
  induction operand using induction_on_items with
  | leaf operand hleaf =>
      rw [hleaf.leaves_eq, List.mem_singleton] at h
      exact h ▸ hleaf
  | list items ih =>
      rw [leaves_list, List.mem_flatMap] at h
      obtain ⟨item, hitem, hmem⟩ := h
      exact ih item hitem hmem

theorem sharesLeaf_of_flatMap_eq {operand : Operand} {expected : List Operand}
    (hleaves : expected.flatMap leaves = operand.leaves) (hne : operand.leaves ≠ []) :
    operand.SharesLeaf expected := by
  obtain ⟨leaf, hleaf⟩ := List.exists_mem_of_ne_nil _ hne
  rw [sharesLeaf_iff_flatMap, hleaves]
  exact ⟨leaf, hleaf, leaf, hleaf, (isLeaf_of_mem_leaves hleaf).sameLeaf_self⟩

theorem leaves_ofJson_ne_nil {v : Json} (h : v.HasLeaf) : (ofJson v).leaves ≠ [] := by
  induction h with
  | leaf hleaf =>
      rw [(isLeaf_ofJson hleaf).leaves_eq]
      exact List.cons_ne_nil _ _
  | @item items v hmem _ ih =>
      obtain ⟨leaf, hleaf⟩ := List.exists_mem_of_ne_nil _ ih
      rw [ofJson_array, leaves_list]
      exact List.ne_nil_of_mem
        (List.mem_flatMap.mpr ⟨ofJson v, List.mem_map_of_mem hmem, hleaf⟩)

end Operand

namespace Json.IsWhole

open Operand (leaves)

variable {v : Json} (decode : String → Option Json)

theorem hasLeaf (h : v.IsWhole) : v.HasLeaf := by
  cases h with
  | array h => exact h
  | _ => exact .leaf nofun

theorem ofField_text {s : String} (h : IsWhole (.string s)) :
    Expected.ofField decode .coerce (some (.string s)) = [.ofText s] := by
  cases h with
  | text hfilled hlist hobject hparts =>
      have hempty : (trim s.toList).isEmpty = false := by simpa using hfilled
      have hopens : Expected.opensJson (trim s.toList) = false := by
        simp [Expected.opensJson, hlist, hobject]
      have hwhole := Nat.not_lt_of_le hparts
      change Expected.ofText decode .coerce s = _
      simp only [Expected.ofText, hempty, hopens, Bool.false_eq_true, if_false, Expected.ofParts,
        if_neg hwhole, TextMode.text]
      rw [← trimmed, Operand.ofText_trimmed]

/-- What is gathered from the value has the leaves of the value. -/
theorem flatMap_leaves_ofField (h : v.IsWhole) :
    (Expected.ofField decode .coerce (some v)).flatMap leaves = (Operand.ofJson v).leaves := by
  cases h with
  | text hfilled hlist hobject hparts =>
      rw [ofField_text decode (.text hfilled hlist hobject hparts), Operand.ofJson_string,
        List.flatMap_singleton]
  | @array items _ =>
      rw [Operand.ofJson_array, Operand.leaves_list]
      rfl
  | _ => exact List.flatMap_singleton ..

end Json.IsWhole

theorem Comparison.evaluate_of_isWhole {test : Comparison} {attributes : Object} {v : Json}
    {decode : String → Option Json} (hvalue : Path.resolve? attributes test.key = some v)
    (hv : v.IsWhole) (hoperands : test.operands = Expected.ofField decode .coerce (some v)) :
    (test.operator ∈ [Operator.equals, .oneOf] → test.evaluate attributes = true) ∧
      (test.operator ∈ [Operator.notEquals, .noneOf] → test.evaluate attributes = false) := by
  have hleaves := hv.flatMap_leaves_ofField decode
  rw [← hoperands] at hleaves
  have hown := Operand.leaves_ofJson_ne_nil hv.hasLeaf
  have hshares := Operand.sharesLeaf_of_flatMap_eq hleaves hown
  have hexpected : test.operands ≠ [] := by
    intro hnil
    rw [hnil] at hleaves
    exact hown hleaves.symm
  constructor
  · intro hequality
    rwa [evaluate_iff_of_equality hvalue hexpected hequality]
  · intro hdifference
    rwa [← Bool.not_eq_true, evaluate_iff_of_difference hvalue hexpected hdifference, not_not]

namespace Source

variable {key operatorName : String} {operator : Operator} {v : Json}

theorem evaluate_leaf_self (roles : Roles) (hkey : trimmed key = key) (hne : key ≠ "")
    (hv : v.IsWhole) (hoperator : Operator.ofName? operatorName = some operator) :
    (operator ∈ [Operator.equals, .oneOf] →
      evaluate (.object (leaf roles key operatorName v)) [(key, v)] = true) ∧
    (operator ∈ [Operator.notEquals, .noneOf] →
      evaluate (.object (leaf roles key operatorName v)) [(key, v)] = false) := by
  have hcoerce : ∀ operator ∈ [Operator.equals, .oneOf] ++ [.notEquals, .noneOf],
      textMode operator = .coerce := by
    decide
  have hvalue : Path.resolve? [(key, v)] key = some v :=
    Path.resolve?_of_get? hkey hne (by rw [Fields.get?_cons, if_pos rfl])
  have hself := @Comparison.evaluate_of_isWhole
    ⟨key, operator, Expected.ofField Json.ofText? .coerce (some v)⟩ _ v Json.ofText? hvalue hv rfl
  rw [evaluate_leaf roles (by rwa [hkey]) hoperator, hkey]
  constructor
  · intro hequality
    rw [hcoerce operator (List.mem_append_left _ hequality)]
    exact hself.1 hequality
  · intro hdifference
    rw [hcoerce operator (List.mem_append_right _ hdifference)]
    exact hself.2 hdifference

/-- A value that is compared with an attribute of the same value equals it and is in it. -/
theorem evaluate_own_value (hkey : trimmed key = key) (hne : key ≠ "") (hv : v.IsWhole) :
    let rule (operatorName : String) : Json :=
      .object [("key", .string key), ("operator", .string operatorName), ("value", v)]
    (∀ name ∈ ["equals", "in"], evaluate (rule name) [(key, v)] = true) ∧
      ∀ name ∈ ["not_equals", "not_in"], evaluate (rule name) [(key, v)] = false := by
  intro rule
  let roles : Roles := ⟨"key", "operator", "value", by decide, by decide, by decide⟩
  have hordered (name : String) : Fields.Ordered
      [("key", Json.string key), ("operator", .string name), ("value", v)] :=
    List.pairwise_map.mp (show ["key", "operator", "value"].Pairwise (· < ·) by decide)
  have hrule (name : String) : rule name = .object (leaf roles key name v) := by
    rw [leaf, (hordered name).ofList_eq]
  have hself (operator : Operator) :=
    evaluate_leaf_self roles hkey hne hv (Operator.ofName?_name operator)
  simp only [hrule]
  constructor
  · rw [List.forall_mem_cons, List.forall_mem_singleton]
    exact ⟨(hself .equals).1 (by decide), (hself .oneOf).1 (by decide)⟩
  · rw [List.forall_mem_cons, List.forall_mem_singleton]
    exact ⟨(hself .notEquals).2 (by decide), (hself .noneOf).2 (by decide)⟩

example :
    evaluate (.object [("key", .string "scope"), ("operator", .string "equals"),
      ("value", .string "deck, roof")]) [("scope", .string "deck, roof")] = false := by
  decide +kernel

theorem evaluate_own_value_nested :
    let nested : Json := .array [.array [], .array [.array [.number (.integer 60 (by decide))]]]
    let text : Json := .string " 60, "
    let rule (operatorName : String) (v : Json) : Json :=
      .object [("key", .string "panel.amps"), ("operator", .string operatorName), ("value", v)]
    trimmed "panel.amps" = "panel.amps" ∧
      (nested.IsWhole ∧ evaluate (rule "equals" nested) [("panel.amps", nested)] = true) ∧
      (text.IsWhole ∧ evaluate (rule "not_in" text) [("panel.amps", text)] = false) := by
  intro nested text rule
  have hkey : trimmed "panel.amps" = "panel.amps" := by decide
  have hnumber : (Json.number (.integer 60 (by decide))).HasLeaf := .leaf nofun
  have hnested : nested.IsWhole :=
    .array (.item (.tail _ (.head _)) (.item (.head _) (.item (.head _) hnumber)))
  have htext : text.IsWhole := .text (by decide) (by decide) (by decide) (by decide)
  have hequals := (evaluate_own_value hkey (by decide) hnested).1 "equals" (by decide)
  have hnotIn := (evaluate_own_value hkey (by decide) htext).2 "not_in" (by decide)
  exact ⟨hkey, ⟨hnested, hequals⟩, ⟨htext, hnotIn⟩⟩

end Source

end FilingChecklist
