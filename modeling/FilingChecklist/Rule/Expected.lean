import FilingChecklist.Rule.Operand
import FilingChecklist.Text.Parts

namespace FilingChecklist.Expected

/-- The fields that may hold expected operands, in the order in which they are collected. -/
def fieldNames : List String :=
  ["values", "value", "matches", "equals", "expected", "options", "in", "oneOf", "anyOf", "allOf",
    "contains", "threshold", "expectedValue", "target", "targets"]

/-- The operands of a trimmed text that is not JSON: its parts between commas, if two or more of
them are not blank, else the text as a whole. -/
def ofParts (mode : TextMode) (text : List Char) : List Operand :=
  let parts := ((Text.parts ',' text).map Text.trim).filter (!·.isEmpty)
  if 1 < parts.length then parts.map fun part => mode.text (String.ofList part)
  else [mode.text (String.ofList text)]

/-- A list gives its items, any other value itself. -/
def ofDecoded (mode : TextMode) : Json → List Operand
  | .array items => items.map mode.operand
  | v => [mode.operand v]

def opensJson (text : List Char) : Bool :=
  text.head? == some '[' || text.head? == some '\x7b'

/-- The operands of a text. Blank text has none; `decode` reads JSON in it. -/
def ofText (decode : String → Option Json) (mode : TextMode) (s : String) : List Operand :=
  let text := Text.trim s.toList
  if text.isEmpty then []
  else if opensJson text then
    match decode (String.ofList text) with
    | some v => ofDecoded mode v
    | none => ofParts mode text
  else ofParts mode text

def ofField (decode : String → Option Json) (mode : TextMode) : Option Json → List Operand
  | none => []
  | some .null => []
  | some (.string s) => ofText decode mode s
  | some v => ofDecoded mode v

def operands (decode : String → Option Json) (mode : TextMode) (rule : Object) : List Operand :=
  fieldNames.flatMap fun name => ofField decode mode (Fields.get? rule name)

end FilingChecklist.Expected
