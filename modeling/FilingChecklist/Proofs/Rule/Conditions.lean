import FilingChecklist.Proofs.Fields
import FilingChecklist.Proofs.Rule.Gathering
import FilingChecklist.Proofs.Rule.Nesting

namespace FilingChecklist.Source

open Text (asciiLower trimmed)

variable {decode : String → Option Json} {rule : Object}

theorem namedKind?_eq_none_iff :
    namedKind? rule = none ↔
      (∀ word ∈ ["all", "and", "any", "or"],
        loweredField rule "type" ≠ some word ∧ loweredField rule "combinator" ≠ some word) ∧
      ∀ word ∈ ["and", "or"], loweredField rule "condition" ≠ some word := by
  simp only [namedKind?, List.forall_mem_cons, Bool.or_eq_true, beq_iff_eq]
  split
  · grind
  · split <;> grind

/-- The fields that make an object something else than a condition by what they hold. -/
def formFields : List String :=
  ["all", "any", "none", "not", "combinator"]

/-- The words that make an object something else than a condition. -/
def formWords : List String :=
  ["all", "and", "any", "or", "not"]

/-- Without those fields and those words an object is a constant or a condition. -/
theorem objectForm_eq_getD (hfields : ∀ name ∈ formFields, Fields.get? rule name = none)
    (hwords : ∀ field ∈ ["type", "condition"], ∀ word ∈ formWords,
      loweredField rule field ≠ some word) :
    objectForm decode rule = (constantForm? rule).getD (.settled (condition decode rule)) := by
  simp only [formFields, List.forall_mem_cons] at hfields
  obtain ⟨hall, hany, hnone, hnot, hcombinator, -⟩ := hfields
  have hkeyed : keyedForm? rule = none := by
    simp [keyedForm?, Combinator.name, hall, hany, hnone]
  have hkind : namedKind? rule = none := by
    have hsubset : ∀ words ∈ [["all", "and", "any", "or"], ["and", "or"]],
        ∀ word ∈ words, word ∈ formWords := by
      decide
    refine namedKind?_eq_none_iff.mpr ⟨fun word hword => ⟨?_, ?_⟩, fun word hword => ?_⟩
    · exact hwords "type" (by decide) word (hsubset _ (by decide) word hword)
    · simp [loweredField, hcombinator]
    · exact hwords "condition" (by decide) word (hsubset _ (by decide) word hword)
  have hdenied : namedNegation? rule = none :=
    if_neg (hwords "type" (by decide) "not" (by decide))
  rw [objectForm, hkeyed, notForm?, hnot, namedForm?, hkind, hdenied]
  simp

theorem firstText?_eq_some {names : List String} {name s : String} (hname : name ∈ names)
    (hget : Fields.get? rule name = some (.string s)) (hs : trimmed s ≠ "")
    (hothers : ∀ other ∈ names, other ≠ name → Fields.get? rule other = none) :
    firstText? rule names = some (trimmed s) := by
  obtain ⟨before, after, hnames, hfirst⟩ := List.eq_append_cons_of_mem hname
  have hread : ((Json.string s).string?.bind nonBlank?) = some (trimmed s) := by
    simp [Json.string?, nonBlank?, hs]
  refine Fields.first?_eq_some_iff.mpr ⟨name, .string s, ?_, hread⟩
  refine ⟨before, after, hnames, hget, Option.isSome_iff_exists.mpr ⟨_, hread⟩, ?_⟩
  intro earlier hearlier v hv
  have hmem : earlier ∈ names := by
    rw [hnames]
    exact List.mem_append_left _ hearlier
  rw [hothers earlier hmem (ne_of_mem_of_not_mem hearlier hfirst)] at hv
  cases hv

theorem firstText?_eq_none {names : List String}
    (h : ∀ name ∈ names, Fields.get? rule name = none) : firstText? rule names = none := by
  refine Fields.first?_eq_none_iff.mpr fun name hname v hv => ?_
  rw [h name hname] at hv
  cases hv

theorem condition_of_key {key : String} {operator : Operator}
    (hkey : firstText? rule keyFields = some key)
    (hoperator : Operator.ofName? (asciiLower ((firstText? rule operatorFields).getD "equals")) =
      some operator) :
    condition decode rule =
      .compare key operator (Expected.operands decode (textMode operator) rule) := by
  simp only [condition, hkey, hoperator]

/-- The object has a key, perhaps the name of an operator, and apart from these only fields for
operands. -/
structure IsLeaf (rule : Object) (keyField operatorField key : String)
    (operatorName : Option String) : Prop where
  keyField_mem : keyField ∈ keyFields
  operatorField_mem : operatorField ∈ operatorFields
  get?_key : Fields.get? rule keyField = some (.string key)
  get?_operator : Fields.get? rule operatorField = operatorName.map .string
  get?_other : ∀ name, name ≠ keyField → name ≠ operatorField → name ∉ Expected.fieldNames →
    Fields.get? rule name = none

theorem keyFields_disjoint :
    ∀ name ∈ keyFields, name ∉ operatorFields ∧ name ∉ Expected.fieldNames := by
  decide

theorem operatorFields_disjoint : ∀ name ∈ operatorFields, name ∉ Expected.fieldNames := by
  decide

theorem formFields_disjoint :
    ∀ name ∈ formFields, name ∉ keyFields ∧ name ∉ operatorFields ∧ name ∉ Expected.fieldNames := by
  decide

/-- No operator is named by a word that names another form. -/
theorem not_mem_formWords (operator : Operator) :
    ∀ word ∈ operator.name :: operator.aliases, word ∉ formWords := by
  cases operator <;> decide

theorem constant_word_iff (operator : Operator) :
    ∀ word ∈ operator.name :: operator.aliases,
      (word = "always" ∨ word = "true" ↔ operator = .always) ∧
        (word = "never" ∨ word = "false" ↔ operator = .never) := by
  cases operator <;> decide

namespace IsLeaf

variable {keyField operatorField key : String} {operatorName : Option String} {operator : Operator}

theorem firstText?_keyFields (h : IsLeaf rule keyField operatorField key operatorName)
    (hkey : trimmed key ≠ "") : firstText? rule keyFields = some (trimmed key) := by
  refine firstText?_eq_some h.keyField_mem h.get?_key hkey fun other hother hne => ?_
  obtain ⟨hoperators, hoperands⟩ := keyFields_disjoint other hother
  exact h.get?_other other hne (ne_of_mem_of_not_mem h.operatorField_mem hoperators).symm hoperands

theorem get?_otherOperatorField (h : IsLeaf rule keyField operatorField key operatorName)
    {field : String} (hfield : field ∈ operatorFields) (hne : field ≠ operatorField) :
    Fields.get? rule field = none := by
  have hkey : field ≠ keyField :=
    ne_of_mem_of_not_mem hfield (keyFields_disjoint _ h.keyField_mem).1
  exact h.get?_other field hkey hne (operatorFields_disjoint field hfield)

theorem firstText?_operatorFields (h : IsLeaf rule keyField operatorField key operatorName)
    (hoperator : Operator.ofName? (operatorName.getD "equals") = some operator) :
    firstText? rule operatorFields = operatorName.map trimmed := by
  cases operatorName with
  | none =>
      refine firstText?_eq_none fun field hfield => ?_
      by_cases hne : field = operatorField
      · rw [hne, h.get?_operator, Option.map_none]
      · exact h.get?_otherOperatorField hfield hne
  | some s =>
      exact firstText?_eq_some h.operatorField_mem h.get?_operator
        (Operator.trimmed_ne_of_ofName? hoperator) fun _ => h.get?_otherOperatorField

theorem get?_formFields (h : IsLeaf rule keyField operatorField key operatorName) :
    ∀ name ∈ formFields, Fields.get? rule name = none := by
  intro name hname
  obtain ⟨hkeys, hoperators, hoperands⟩ := formFields_disjoint name hname
  exact h.get?_other name (ne_of_mem_of_not_mem h.keyField_mem hkeys).symm
    (ne_of_mem_of_not_mem h.operatorField_mem hoperators).symm hoperands

theorem loweredField_eq (h : IsLeaf rule keyField operatorField key operatorName) {field : String}
    (hfield : field ∈ operatorFields) :
    loweredField rule field =
      if field = operatorField then operatorName.map (asciiLower ∘ trimmed) else none := by
  split
  · next heq =>
      rw [loweredField, heq, h.get?_operator]
      cases operatorName <;> rfl
  · next hne =>
      rw [loweredField, h.get?_otherOperatorField hfield hne]
      rfl

theorem constantForm?_eq (h : IsLeaf rule keyField operatorField key operatorName)
    (hoperator : Operator.ofName? (operatorName.getD "equals") = some operator) :
    constantForm? rule =
      if operatorField = "type" ∧ operator = .always then some (.settled .always)
      else if operatorField = "type" ∧ operator = .never then some (.settled .never)
      else none := by
  rw [constantForm?, h.loweredField_eq (by decide)]
  cases operatorName with
  | none =>
      -- Equality is neither of the two constant operators.
      rw [Option.getD_none, show "equals" = Operator.name .equals from rfl,
        Operator.ofName?_name] at hoperator
      obtain rfl := Option.some.inj hoperator
      simp
  | some s =>
      obtain ⟨halways, hnever⟩ :=
        constant_word_iff operator _ (Operator.mem_spellings_of_ofName? hoperator)
      by_cases htype : operatorField = "type"
      · simp only [htype, if_true, Option.map_some, Function.comp_apply]
        rw [Option.getD_some] at halways hnever
        simp only [halways, hnever, true_and]
      · simp only [htype, Ne.symm htype, if_false, false_and]

/-- The object is the comparison that it writes, or under `type` a constant. Without the name of an
operator it asks for equality. -/
theorem ofSource_eq (h : IsLeaf rule keyField operatorField key operatorName)
    (hkey : trimmed key ≠ "")
    (hoperator : Operator.ofName? (operatorName.getD "equals") = some operator) :
    Rule.ofSource (.object rule) =
      if operatorField = "type" ∧ operator = .always then .always
      else if operatorField = "type" ∧ operator = .never then .never
      else .compare (trimmed key) operator
        (Expected.operands Json.ofText? (textMode operator) rule) := by
  have hwords : ∀ field ∈ ["type", "condition"], ∀ word ∈ formWords,
      loweredField rule field ≠ some word := by
    have hsubset : ∀ field ∈ ["type", "condition"], field ∈ operatorFields := by decide
    intro field hfield word hword hlowered
    rw [h.loweredField_eq (hsubset field hfield), Option.ite_none_right_eq_some,
      Option.map_eq_some_iff] at hlowered
    obtain ⟨-, s, rfl, rfl⟩ := hlowered
    have hspelling := Operator.mem_spellings_of_ofName? hoperator
    exact not_mem_formWords operator _ hspelling hword
  have hnamed : Operator.ofName? (asciiLower ((firstText? rule operatorFields).getD "equals")) =
      some operator := by
    rw [h.firstText?_operatorFields hoperator, ← hoperator]
    cases operatorName with
    | none => rfl
    | some s => exact Operator.ofName?_asciiLower_trimmed s
  have hcondition := @condition_of_key Json.ofText? rule _ operator (h.firstText?_keyFields hkey)
    hnamed
  apply ofSource_of_settled
  rw [form, objectForm_eq_getD h.get?_formFields hwords, h.constantForm?_eq hoperator, hcondition]
  split
  · rfl
  · split <;> rfl

end IsLeaf

/-- The rule object that tests the attribute at `key`, with further fields for the expected
operands. -/
def conditionObject (key operatorName : String) (values : Object) : Object :=
  (values.insert "key" (.string key)).insert "operator" (.string operatorName)

section

variable {key operatorName : String} {values : Object}

theorem get?_conditionObject_key :
    Fields.get? (conditionObject key operatorName values) "key" = some (.string key) := by
  simp [conditionObject, Fields.get?_insert]

theorem get?_conditionObject_operator :
    Fields.get? (conditionObject key operatorName values) "operator" =
      some (.string operatorName) := by
  simp [conditionObject, Fields.get?_insert]

theorem get?_conditionObject_of_ne {name : String} (hkey : name ≠ "key")
    (hoperator : name ≠ "operator") :
    Fields.get? (conditionObject key operatorName values) name = Fields.get? values name := by
  simp [conditionObject, Fields.get?_insert, hkey.symm, hoperator.symm]

theorem operands_conditionObject (mode : TextMode) :
    Expected.operands decode mode (conditionObject key operatorName values) =
      Expected.operands decode mode values := by
  have hnames : ∀ name ∈ Expected.fieldNames, name ≠ "key" ∧ name ≠ "operator" := by decide
  apply Expected.operands_congr
  intro name hname
  exact get?_conditionObject_of_ne (hnames name hname).1 (hnames name hname).2

theorem ofSource_conditionObject {operator : Operator}
    (hvalues : ∀ name ∈ Fields.keys values, name ∈ Expected.fieldNames)
    (hkey : trimmed key ≠ "")
    (hoperator : Operator.ofName? (asciiLower (trimmed operatorName)) = some operator) :
    Rule.ofSource (.object (conditionObject key operatorName values)) =
      .compare (trimmed key) operator
        (Expected.operands Json.ofText? (textMode operator) values) := by
  rw [Operator.ofName?_asciiLower_trimmed] at hoperator
  have hleaf : IsLeaf (conditionObject key operatorName values) "key" "operator" key
      (some operatorName) :=
    { keyField_mem := by decide
      operatorField_mem := by decide
      get?_key := get?_conditionObject_key
      get?_operator := get?_conditionObject_operator
      get?_other := by
        intro name hkey hoperator hother
        rw [get?_conditionObject_of_ne hkey hoperator, Fields.get?_eq_none_iff]
        exact fun hmem => hother (hvalues name hmem) }
  have htype : ¬ "operator" = "type" := by decide
  simp only [hleaf.ofSource_eq hkey hoperator, htype, false_and, if_false,
    operands_conditionObject]

end

end FilingChecklist.Source
