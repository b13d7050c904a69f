import FilingChecklist.Text.Blank

namespace FilingChecklist

inductive Operator
  | equals
  | notEquals
  | oneOf
  | noneOf
  | contains
  | notContains
  | greaterThan
  | greaterOrEqual
  | lessThan
  | lessOrEqual
  | present
  | absent
  | truthy
  | falsy
  | always
  | never
  deriving DecidableEq, Repr

namespace Operator

def all : List Operator :=
  [equals, notEquals, oneOf, noneOf, contains, notContains, greaterThan, greaterOrEqual, lessThan,
    lessOrEqual, present, absent, truthy, falsy, always, never]

def name : Operator → String
  | equals => "equals"
  | notEquals => "not_equals"
  | oneOf => "in"
  | noneOf => "not_in"
  | contains => "contains"
  | notContains => "not_contains"
  | greaterThan => "greater_than"
  | greaterOrEqual => "greater_or_equal"
  | lessThan => "less_than"
  | lessOrEqual => "less_or_equal"
  | present => "exists"
  | absent => "not_exists"
  | truthy => "truthy"
  | falsy => "falsy"
  | always => "always"
  | never => "never"

def aliases : Operator → List String
  | equals => ["eq", "==", "=", "===", "is"]
  | notEquals => ["not-equals", "ne", "neq", "!=", "!==", "<>", "is_not"]
  | oneOf => ["one_of", "includes", "any_of"]
  | noneOf => ["none_of", "excludes"]
  | greaterThan => ["gt", ">"]
  | greaterOrEqual => ["greater_than_or_equal", "gte", "ge", ">="]
  | lessThan => ["lt", "<"]
  | lessOrEqual => ["less_than_or_equal", "lte", "le", "<="]
  | present => ["present", "defined", "is_defined", "is_not_blank"]
  | absent => ["absent", "undefined", "is_blank", "missing"]
  | always => ["true"]
  | never => ["false"]
  | _ => []

def hasSpelling (spelling : String) (op : Operator) : Bool :=
  op.name == spelling || op.aliases.contains spelling

/-- The operator that a text names, white space around it and the case of A to Z ignored. -/
def ofName? (text : String) : Option Operator :=
  all.find? (hasSpelling (Text.asciiLower (Text.trimmed text)))

@[simp] theorem ofName?_name (op : Operator) : ofName? op.name = some op := by
  cases op <;> decide +kernel

theorem name_injective {op other : Operator} (h : op.name = other.name) : op = other := by
  have hread := ofName?_name op
  rw [h, ofName?_name] at hread
  exact (Option.some.inj hread).symm

@[simp] theorem ofName?_asciiLower_trimmed (text : String) :
    ofName? (Text.asciiLower (Text.trimmed text)) = ofName? text := by
  simp only [ofName?, Text.trimmed_asciiLower, Text.trimmed_trimmed, Text.asciiLower_asciiLower]

theorem mem_spellings_of_ofName? {text : String} {op : Operator} (h : ofName? text = some op) :
    Text.asciiLower (Text.trimmed text) ∈ op.name :: op.aliases := by
  have hspelling := List.find?_some h
  simp only [hasSpelling, Bool.or_eq_true, beq_iff_eq, List.contains_iff_mem] at hspelling
  rcases hspelling with hname | halias
  · exact List.mem_cons.mpr (.inl hname.symm)
  · exact List.mem_cons_of_mem _ halias

/-- No operator is named by white space. -/
theorem trimmed_ne_of_ofName? {text : String} {op : Operator} (h : ofName? text = some op) :
    Text.trimmed text ≠ "" := by
  intro hblank
  have hspelling := mem_spellings_of_ofName? h
  rw [hblank] at hspelling
  revert hspelling
  cases op <;> decide

end Operator

end FilingChecklist
