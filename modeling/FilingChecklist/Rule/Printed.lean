import FilingChecklist.Rule.Tree

namespace FilingChecklist

def Comparison.toJson (test : Comparison) : Json :=
  .object [
    ("key", .string test.key),
    ("operator", .string test.operator.name),
    ("operands", .array (Operand.toJsonEach test.operands))
  ]

namespace Rule

mutual

def toJson : Rule → Json
  | .literal b => .object [("literal", .bool b)]
  | .always => .string "always"
  | .never => .string "never"
  | .comparison test => .object [("comparison", test.toJson)]
  | .combinator kind children =>
      .object [("combinator", .object [
        ("kind", .string kind.name),
        ("children", .array (toJsonEach children))
      ])]
  | .negation child => .object [("negation", toJson child)]

def toJsonEach : List Rule → List Json
  | [] => []
  | child :: children => toJson child :: toJsonEach children

end

end Rule

def Comparison.ofPrinted? : Json → Option Comparison
  | .object fields => do
      let key ← (← Fields.get? fields "key").string?
      let operator ← Operator.ofName? (← (← Fields.get? fields "operator").string?)
      let operands ← (← Fields.get? fields "operands").array?
      return { key, operator, operands := Operand.ofExactEach operands }
  | _ => none

namespace Rule

mutual

/-- The tree that the shown form stands for. -/
def ofPrinted? : Json → Option Rule
  | .string "always" => some .always
  | .string "never" => some .never
  | .object [("literal", .bool b)] => some (.literal b)
  | .object [("comparison", v)] => (Comparison.ofPrinted? v).map .comparison
  | .object [("combinator", .object [("children", .array children), ("kind", .string kind)])] => do
      return .combinator (← Combinator.ofName? kind) (← ofPrintedEach? children)
  | .object [("combinator", .object [("kind", .string kind), ("children", .array children)])] => do
      return .combinator (← Combinator.ofName? kind) (← ofPrintedEach? children)
  | .object [("negation", child)] => (ofPrinted? child).map .negation
  | _ => none

def ofPrintedEach? : List Json → Option (List Rule)
  | [] => some []
  | child :: children => do
      return (← ofPrinted? child) :: (← ofPrintedEach? children)

end

end Rule

theorem Comparison.ofPrinted?_toJson (test : Comparison) : ofPrinted? test.toJson = some test := by
  obtain ⟨key, operator, operands⟩ := test
  simp [toJson, ofPrinted?, Fields.get?, Json.string?, Json.array?,
    Operand.ofExactEach_toJsonEach]

namespace Rule

mutual

theorem ofPrinted?_toJson : (rule : Rule) → ofPrinted? rule.toJson = some rule
  | .literal _ => rfl
  | .always => rfl
  | .never => rfl
  | .comparison test => by
      rw [toJson, ofPrinted?, Comparison.ofPrinted?_toJson test, Option.map_some]
  | .combinator kind children => by
      rw [toJson, ofPrinted?, ofPrintedEach?_toJsonEach children, Combinator.ofName?_name]
      rfl
  | .negation child => by
      rw [toJson, ofPrinted?, ofPrinted?_toJson child, Option.map_some]

theorem ofPrintedEach?_toJsonEach :
    (children : List Rule) → ofPrintedEach? (toJsonEach children) = some children
  | [] => rfl
  | child :: children => by
      rw [toJsonEach, ofPrintedEach?, ofPrinted?_toJson child, ofPrintedEach?_toJsonEach children]
      rfl

end

end Rule

end FilingChecklist
