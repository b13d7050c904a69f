import FilingChecklist.Proofs.Rule.Conditions
import FilingChecklist.Rule.Evaluation

namespace FilingChecklist.Source

open Text (trimmed)

/-- A field name for each part of a condition. -/
structure Roles where
  key : String
  operator : String
  operands : String
  key_mem : key ∈ keyFields
  operator_mem : operator ∈ operatorFields
  operands_mem : operands ∈ Expected.fieldNames

/-- The condition of a key, the name of an operator and one field for operands. -/
def leaf (roles : Roles) (key operatorName : String) (v : Json) : Object :=
  Fields.ofList
    [(roles.key, .string key), (roles.operator, .string operatorName), (roles.operands, v)]

def unnamedLeaf (roles : Roles) (key : String) (v : Json) : Object :=
  Fields.ofList [(roles.key, .string key), (roles.operands, v)]

namespace Roles

variable (roles : Roles)

theorem key_ne_operator : roles.key ≠ roles.operator :=
  (ne_of_mem_of_not_mem roles.operator_mem (keyFields_disjoint _ roles.key_mem).1).symm

theorem key_ne_operands : roles.key ≠ roles.operands :=
  (ne_of_mem_of_not_mem roles.operands_mem (keyFields_disjoint _ roles.key_mem).2).symm

theorem operator_ne_operands : roles.operator ≠ roles.operands :=
  (ne_of_mem_of_not_mem roles.operands_mem (operatorFields_disjoint _ roles.operator_mem)).symm

variable {key operatorName : String} {v : Json}

theorem get?_leaf (name : String) :
    Fields.get? (leaf roles key operatorName v) name =
      if roles.key = name then some (.string key)
      else if roles.operator = name then some (.string operatorName)
      else if roles.operands = name then some v else none := by
  have hnodup : (Fields.keys [(roles.key, Json.string key), (roles.operator, .string operatorName),
      (roles.operands, v)]).Nodup := by
    simp [roles.key_ne_operator, roles.key_ne_operands, roles.operator_ne_operands]
  rw [leaf, Fields.get?_ofList hnodup]
  simp only [Fields.get?_cons, Fields.get?_nil]

theorem get?_unnamedLeaf (name : String) :
    Fields.get? (unnamedLeaf roles key v) name =
      if roles.key = name then some (.string key)
      else if roles.operands = name then some v else none := by
  have hnodup : (Fields.keys [(roles.key, Json.string key), (roles.operands, v)]).Nodup := by
    simp [roles.key_ne_operands]
  rw [unnamedLeaf, Fields.get?_ofList hnodup]
  simp only [Fields.get?_cons, Fields.get?_nil]

theorem isLeaf :
    IsLeaf (leaf roles key operatorName v) roles.key roles.operator key (some operatorName) where
  keyField_mem := roles.key_mem
  operatorField_mem := roles.operator_mem
  get?_key := by rw [roles.get?_leaf, if_pos rfl]
  get?_operator := by rw [roles.get?_leaf, if_neg roles.key_ne_operator, if_pos rfl]; rfl
  get?_other name hkey hoperator hoperands := by
    have hne := ne_of_mem_of_not_mem roles.operands_mem hoperands
    rw [roles.get?_leaf, if_neg hkey.symm, if_neg hoperator.symm, if_neg hne]

theorem isLeaf_unnamed : IsLeaf (unnamedLeaf roles key v) roles.key roles.operator key none where
  keyField_mem := roles.key_mem
  operatorField_mem := roles.operator_mem
  get?_key := by rw [roles.get?_unnamedLeaf, if_pos rfl]
  get?_operator := by
    rw [roles.get?_unnamedLeaf, if_neg roles.key_ne_operator,
      if_neg roles.operator_ne_operands.symm]
    rfl
  get?_other name hkey _ hoperands := by
    have hne := ne_of_mem_of_not_mem roles.operands_mem hoperands
    rw [roles.get?_unnamedLeaf, if_neg hkey.symm, if_neg hne]

theorem operands_leaf (mode : TextMode) :
    Expected.operands Json.ofText? mode (leaf roles key operatorName v) =
      Expected.ofField Json.ofText? mode (some v) := by
  rw [Expected.operands_of_only _ roles.operands_mem, roles.get?_leaf, if_neg roles.key_ne_operands,
    if_neg roles.operator_ne_operands, if_pos rfl]
  intro other hother hne
  have hkey := ne_of_mem_of_not_mem hother (keyFields_disjoint _ roles.key_mem).2
  have hoperator := ne_of_mem_of_not_mem hother (operatorFields_disjoint _ roles.operator_mem)
  rw [roles.get?_leaf, if_neg hkey.symm, if_neg hoperator.symm, if_neg hne.symm]

theorem operands_unnamedLeaf (mode : TextMode) :
    Expected.operands Json.ofText? mode (unnamedLeaf roles key v) =
      Expected.ofField Json.ofText? mode (some v) := by
  rw [Expected.operands_of_only _ roles.operands_mem, roles.get?_unnamedLeaf,
    if_neg roles.key_ne_operands, if_pos rfl]
  intro other hother hne
  have hkey := ne_of_mem_of_not_mem hother (keyFields_disjoint _ roles.key_mem).2
  rw [roles.get?_unnamedLeaf, if_neg hkey.symm, if_neg hne.symm]

end Roles

theorem textMode_eq_ite (operator : Operator) :
    textMode operator =
      if operator = .contains ∨ operator = .notContains then .verbatim else .coerce := by
  cases operator <;> rfl

/-- The operator of a constant holds of every attribute, or of none, so that the comparison says
what the constant says. -/
theorem evaluate_constantOr (test : Comparison) (isConstant : Prop) [Decidable isConstant]
    (attributes : Object) :
    Rule.evaluate attributes
        (if isConstant ∧ test.operator = .always then .always
        else if isConstant ∧ test.operator = .never then .never
        else .comparison test) = test.evaluate attributes := by
  split
  · next h => rw [Comparison.evaluate, h.2]; rfl
  · split
    · next h => rw [Comparison.evaluate, h.2]; rfl
    · rfl

theorem evaluate_leaf (roles : Roles) {key operatorName : String} {operator : Operator}
    (hkey : trimmed key ≠ "") (hoperator : Operator.ofName? operatorName = some operator)
    (v : Json) (attributes : Object) :
    evaluate (.object (leaf roles key operatorName v)) attributes =
      Comparison.evaluate ⟨trimmed key, operator,
        Expected.ofField Json.ofText? (textMode operator) (some v)⟩ attributes := by
  rw [evaluate, roles.isLeaf.ofSource_eq hkey hoperator, roles.operands_leaf]
  exact evaluate_constantOr ⟨trimmed key, operator, _⟩ (roles.operator = "type") attributes

/-- Whichever fields hold them, a key, the name of an operator and one source of operands are the
same comparison and hold of the same attributes; only under `type` the two constant operators are
constants of their own. Without a name the operator is equality. -/
theorem ofSource_leaf {key operatorName : String} {operator : Operator} (hkey : trimmed key ≠ "")
    (hoperator : Operator.ofName? operatorName = some operator) (v : Json) :
    ∃ test : Comparison, test.key = trimmed key ∧ test.operator = operator ∧
      test.operands = Expected.ofField Json.ofText?
        (if operator = .contains ∨ operator = .notContains then .verbatim else .coerce) (some v) ∧
      ∀ roles : Roles,
        Rule.ofSource (.object (leaf roles key operatorName v)) =
          (if roles.operator = "type" ∧ operator = .always then .always
          else if roles.operator = "type" ∧ operator = .never then .never
          else .comparison test) ∧
        (∀ attributes, evaluate (.object (leaf roles key operatorName v)) attributes =
          test.evaluate attributes) ∧
        Rule.ofSource (.object (unnamedLeaf roles key v)) =
          Rule.ofSource (.object (leaf roles key "equals" v)) := by
  have hleaf (roles : Roles) := (roles.isLeaf (v := v)).ofSource_eq hkey hoperator
  simp only [Roles.operands_leaf] at hleaf
  refine ⟨⟨trimmed key, operator, Expected.ofField Json.ofText? (textMode operator) (some v)⟩, rfl,
    rfl, by rw [textMode_eq_ite], fun roles => ⟨hleaf roles, fun attributes => ?_, ?_⟩⟩
  · rw [evaluate, hleaf roles]
    exact evaluate_constantOr ⟨trimmed key, operator, _⟩ (roles.operator = "type") attributes
  · have hequals := Operator.ofName?_name .equals
    rw [roles.isLeaf.ofSource_eq hkey hequals, roles.isLeaf_unnamed.ofSource_eq hkey hequals,
      roles.operands_leaf, roles.operands_unnamedLeaf]

/-- Under `type`, which also names constants, an operator for substrings is as good as elsewhere,
and the operator that never holds is the constant. -/
theorem ofSource_leaf_under_type :
    let underType : Roles := ⟨"fact", "type", "contains", by decide, by decide, by decide⟩
    let usual : Roles := ⟨"key", "operator", "value", by decide, by decide, by decide⟩
    let v : Json := .string "007, x"
    trimmed " zone\n" ≠ "" ∧ Operator.ofName? " NOT_contains" = some .notContains ∧
      Operator.ofName? " Never " = some .never ∧
      (∀ roles ∈ [underType, usual],
        Rule.ofSource (.object (leaf roles " zone\n" " NOT_contains" v)) =
          .compare "zone" .notContains [.text "007", .text "x"]) ∧
      Rule.ofSource (.object (leaf underType " zone\n" " Never " v)) = .never ∧
      ∀ attributes, evaluate (.object (leaf usual " zone\n" " Never " v)) attributes =
        evaluate (.object (leaf underType " zone\n" " Never " v)) attributes := by
  intro underType usual v
  have hkey : trimmed " zone\n" ≠ "" := by decide
  have hcontains : Operator.ofName? " NOT_contains" = some .notContains := by decide +kernel
  have hnever : Operator.ofName? " Never " = some .never := by decide +kernel
  obtain ⟨⟨key, operator, operands⟩, rfl, rfl, rfl, hroles⟩ := ofSource_leaf hkey hcontains v
  obtain ⟨test, -, -, -, hroles'⟩ := ofSource_leaf hkey hnever v
  refine ⟨hkey, hcontains, hnever, ?_, ?_, ?_⟩
  · intro roles _
    rw [(hroles roles).1, if_neg (by simp), if_neg (by simp)]
    rfl
  · rw [(hroles' underType).1]
    rfl
  · intro attributes
    rw [(hroles' usual).2.1, (hroles' underType).2.1]

end FilingChecklist.Source
