import FilingChecklist.Rule.Operand
import FilingChecklist.Rule.Operator

namespace FilingChecklist

structure Comparison where
  key : String
  operator : Operator
  operands : List Operand

inductive Combinator
  | all
  | any
  | noneOf
  deriving DecidableEq

namespace Combinator

def name : Combinator → String
  | all => "all"
  | any => "any"
  | noneOf => "none"

def ofName? (text : String) : Option Combinator :=
  [all, any, noneOf].find? fun kind => kind.name == text

@[simp] theorem ofName?_name (kind : Combinator) : ofName? kind.name = some kind := by
  cases kind <;> decide

theorem name_injective {kind other : Combinator} (h : kind.name = other.name) : kind = other := by
  have hread := ofName?_name kind
  rw [h, ofName?_name] at hread
  exact (Option.some.inj hread).symm

/-- Whether the combination holds, given what each child says. All, any and none of no children
hold alike. -/
def holds (kind : Combinator) (children : List Bool) : Bool :=
  match kind with
  | all => children.all id
  | any => children.isEmpty || children.any id
  | noneOf => !children.any id

end Combinator

inductive Rule
  | literal (b : Bool)
  | always
  | never
  | comparison (test : Comparison)
  | combinator (kind : Combinator) (children : List Rule)
  | negation (child : Rule)

namespace Rule

instance : Inhabited Rule := ⟨.never⟩

def compare (key : String) (operator : Operator) (operands : List Operand) : Rule :=
  .comparison { key, operator, operands }

mutual

def depth : Rule → Nat
  | .combinator _ children => 1 + depthOfDeepest children
  | .negation child => 1 + depth child
  | _ => 1

def depthOfDeepest : List Rule → Nat
  | [] => 0
  | child :: children => max (depth child) (depthOfDeepest children)

end

end Rule

end FilingChecklist
