import FilingChecklist.Rule.Attribute
import FilingChecklist.Rule.Path
import FilingChecklist.Rule.Source
import FilingChecklist.Text.LowerCase

namespace FilingChecklist

namespace Comparison

mutual

/-- Whether an operand or, for a list, one of the operands inside it equals an expected one. -/
def matchesOperand (expected : List Operand) : Operand → Bool
  | .list items => matchesAnyOf expected items
  | operand => expected.any operand.looselyEquals

def matchesAnyOf (expected : List Operand) : List Operand → Bool
  | [] => false
  | item :: items => matchesOperand expected item || matchesAnyOf expected items

end

def matchesAny (actual : Option Json) (expected : List Operand) : Bool :=
  actual.any fun v => matchesOperand expected (.ofJson v)

/-- Whether a text contains the text of an operand, letter case ignored. -/
def textContains (text : String) (operand : Operand) : Bool :=
  operand.text?.any fun part => Text.occursIn (Text.lower part.toList) (Text.lower text.toList)

/-- Text contains a part of it, a list contains an item, and any other value contains itself. -/
def contains (actual : Option Json) (expected : List Operand) : Bool :=
  match actual with
  | none => false
  | some (.string text) => expected.any (textContains text)
  | some (.array items) =>
      items.any fun item => expected.any fun e => (Operand.ofJson item).looselyEquals e.coerced
  | some v => expected.any fun e => (Operand.ofJson v).looselyEquals e.coerced

/-- The order of the attribute and the first expected operand, if both are numbers. -/
def orderOf? (actual : Option Json) (expected : List Operand) : Option Ordering := do
  let left ← (Operand.ofJson (← actual)).number?
  let right ← (← expected.head?).number?
  return left.order right

def holds (operator : Operator) (actual : Option Json) (expected : List Operand) : Bool :=
  match operator with
  | .equals => if expected.isEmpty then Attribute.isTruthy actual else matchesAny actual expected
  | .notEquals => expected.isEmpty || !matchesAny actual expected
  | .oneOf => !expected.isEmpty && matchesAny actual expected
  | .noneOf => !expected.isEmpty && !matchesAny actual expected
  | .contains => contains actual expected
  | .notContains => !contains actual expected
  | .greaterThan => (orderOf? actual expected).any Ordering.isGT
  | .greaterOrEqual => (orderOf? actual expected).any Ordering.isGE
  | .lessThan => (orderOf? actual expected).any Ordering.isLT
  | .lessOrEqual => (orderOf? actual expected).any Ordering.isLE
  | .present => !Attribute.isEmpty actual
  | .absent => Attribute.isEmpty actual
  | .truthy => Attribute.isTruthy actual
  | .falsy => !Attribute.isTruthy actual
  | .always => true
  | .never => false

def evaluate (test : Comparison) (attributes : Object) : Bool :=
  holds test.operator (Path.resolve? attributes test.key) test.operands

end Comparison

namespace Rule

mutual

def evaluate (attributes : Object) : Rule → Bool
  | .literal b => b
  | .always => true
  | .never => false
  | .comparison test => test.evaluate attributes
  | .combinator kind children => kind.holds (evaluateEach attributes children)
  | .negation child => !evaluate attributes child

def evaluateEach (attributes : Object) : List Rule → List Bool
  | [] => []
  | child :: children => evaluate attributes child :: evaluateEach attributes children

end

@[simp] theorem evaluateEach_eq_map (attributes : Object) (children : List Rule) :
    evaluateEach attributes children = children.map (evaluate attributes) := by
  induction children with
  | nil => rfl
  | cons child children ih => rw [evaluateEach, ih, List.map_cons]

end Rule

def Source.evaluate (source : Json) (attributes : Object) : Bool :=
  (Rule.ofSource source).evaluate attributes

end FilingChecklist
