import FilingChecklist.Rule.Operand

namespace FilingChecklist.Attribute

/-- Missing, null, blank text, or a list without items. -/
def isEmpty : Option Json → Bool
  | none => true
  | some .null => true
  | some (.string s) => (Text.trim s.toList).isEmpty
  | some (.array items) => items.isEmpty
  | some _ => false

/-- Neither missing, nor null, nor false, nor zero, nor the text of no characters. -/
def isTruthy : Option Json → Bool
  | none => false
  | some .null => false
  | some (.bool b) => b
  | some (.number n) => !n.toBinary64.isZero
  | some (.string s) => !s.isEmpty
  | some (.array _) => true
  | some (.object _) => true

/-- The truth value of a truth value or of text that writes one. -/
def boolLike? : Json → Option Bool
  | .bool b => some b
  | .string s => Operand.boolOfText? (Text.trimmed s)
  | _ => none

end FilingChecklist.Attribute
