import FilingChecklist.Rule.Evaluation
import FilingChecklist.Rule.Printed

namespace FilingChecklist

/-- The rule source that a text gives: JSON if the text reads as JSON, and a text rule otherwise. -/
def Source.ofText (raw : String) : Json :=
  (Json.ofText? raw).getD (.string raw)

def Source.evaluateText (raw : String) (attributes : Object) : Bool :=
  Source.evaluate (Source.ofText raw) attributes

structure Explanation where
  source : Json
  rule : Rule

namespace Explanation

def ofText (raw : String) : Explanation where
  source := Source.ofText raw
  rule := .ofSource (Source.ofText raw)

def toJson (e : Explanation) : Json :=
  .object [
    ("source", e.source),
    ("normalized", e.rule.toJson),
    ("depth", .ofNat e.rule.depth)
  ]

end Explanation

end FilingChecklist
