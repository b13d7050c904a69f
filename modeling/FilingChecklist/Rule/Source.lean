import FilingChecklist.Json.Reader
import FilingChecklist.Rule.Attribute
import FilingChecklist.Rule.Expected
import FilingChecklist.Rule.Shorthand

/-!
Reading a rule source into a rule tree. A source is a truth value, a number, a text, a list or an
object with any of the field names that catalogs use. Each step of the reading looks at the
outermost form of a source and leaves the sources inside it to further steps; nesting beyond
`maxDepth` reads as `never`, and so does whatever is not understood.
-/

namespace FilingChecklist

namespace Source

/-- The outermost form of a rule source: a tree that needs no further reading, a combination or a
negation of sources, or a source written as text. -/
inductive Form
  | settled (rule : Rule)
  | group (kind : Combinator) (children : List Json)
  | negated (child : Json)
  | decoded (inner : Json)

def keyFields : List String :=
  ["project_value_key", "projectValueKey", "project_values_key", "value_key", "fact", "key",
    "field", "path", "property", "attribute"]

def operatorFields : List String :=
  ["operator", "op", "comparison", "comparator", "condition", "type", "presence"]

/-- The fields that hold the children of a combination named by `type`, `combinator` or
`condition`. -/
def childFields : List String :=
  ["rules", "conditions", "children", "expressions", "operands"]

/-- The fields that hold the child of `type: not`. -/
def negatedFields : List String :=
  ["rule", "condition", "child", "expression", "operand", "value"]

/-- The fields that hold the truth value of a condition without attribute. -/
def resultFields : List String :=
  ["value", "result", "default"]

def loweredField (rule : Object) (name : String) : Option String :=
  ((Fields.get? rule name).bind Json.string?).map fun s => Text.asciiLower (Text.trimmed s)

def nonBlank? (s : String) : Option String :=
  let text := Text.trimmed s
  if text.isEmpty then none else some text

/-- The first of the named fields that holds a text which is not blank. -/
def firstText? (rule : Object) (names : List String) : Option String :=
  Fields.first? rule names fun v => v.string?.bind nonBlank?

def constantCondition (rule : Object) (operatorName : String) : Rule :=
  if operatorName = "always" ∨ operatorName = "true" then .always
  else if operatorName = "never" ∨ operatorName = "false" then .never
  else
    match (Fields.first? rule resultFields Json.nonNull?).bind Attribute.boolLike? with
    | some b => .literal b
    | none => .never

/-- Substring tests compare with the text as authored. -/
def textMode : Operator → TextMode
  | .contains => .verbatim
  | .notContains => .verbatim
  | _ => .coerce

def condition (decode : String → Option Json) (rule : Object) : Rule :=
  let operatorName := Text.asciiLower ((firstText? rule operatorFields).getD "equals")
  match firstText? rule keyFields with
  | none => constantCondition rule operatorName
  | some key =>
      match Operator.ofName? operatorName with
      | some operator =>
          .compare key operator (Expected.operands decode (textMode operator) rule)
      | none => .never

def constantForm? (rule : Object) : Option Form :=
  match loweredField rule "type" with
  | some kind =>
      if kind = "always" ∨ kind = "true" then some (.settled .always)
      else if kind = "never" ∨ kind = "false" then some (.settled .never)
      else none
  | none => none

def keyedForm? (rule : Object) : Option Form :=
  [Combinator.all, .any, .noneOf].findSome? fun kind =>
    ((Fields.get? rule kind.name).bind Json.array?).map (.group kind)

def notForm? (rule : Object) : Option Form :=
  (Fields.get? rule "not").map .negated

/-- The combination that `type`, `combinator` or `condition` names. The word `condition: all` is no
such name, nor is `condition: any`. -/
def namedKind? (rule : Object) : Option Combinator :=
  let kind := loweredField rule "type"
  let combinator := loweredField rule "combinator"
  let condition := loweredField rule "condition"
  let names (word : String) : Bool := kind == some word || combinator == some word
  if names "all" || names "and" || condition == some "and" then some .all
  else if names "any" || names "or" || condition == some "or" then some .any
  else none

/-- A combination by name, of the children in the first field that holds a list. -/
def namedForm? (rule : Object) : Option Form :=
  (namedKind? rule).map fun kind =>
    .group kind ((Fields.first? rule childFields Json.array?).getD [])

def namedNegation? (rule : Object) : Option Form :=
  if loweredField rule "type" = some "not" then
    (Fields.first? rule negatedFields some).map .negated
  else none

/-- The form of an object: the first of these that applies. -/
def objectForm (decode : String → Option Json) (rule : Object) : Form :=
  (constantForm? rule <|> keyedForm? rule <|> notForm? rule <|> namedForm? rule <|>
    namedNegation? rule).getD (.settled (condition decode rule))

/-- The form of a text: blank or a truth value, JSON, a comparison, or the path of an attribute that
must be true. -/
def textForm (decode : String → Option Json) (s : String) : Form :=
  let text := Text.trimmed s
  let lowered := Text.asciiLower text
  if text.isEmpty ∨ lowered = "true" then .settled (.literal true)
  else if lowered = "false" then .settled (.literal false)
  else
    match decode text with
    | some inner => .decoded inner
    | none =>
        match Shorthand.comparison? text with
        | some test => .settled (.comparison test)
        | none => .settled (.compare text .truthy [])

def form (decode : String → Option Json) : Json → Form
  | .null => .settled (.literal true)
  | .bool b => .settled (.literal b)
  | .number n => .settled (.literal (!n.toBinary64.isZero))
  | .string s => textForm decode s
  | .array items => .group .all items
  | .object fields => objectForm decode fields

/-- Read a source, going at most `levels` forms deep. -/
def read (decode : String → Option Json) (levels : Nat) (source : Json) : Rule :=
  match levels with
  | 0 => .never
  | levels + 1 =>
      match form decode source with
      | .settled rule => rule
      | .group kind children => .combinator kind (children.map (read decode levels))
      | .negated child => .negation (read decode levels child)
      | .decoded inner => read decode levels inner

/-- The deepest nesting that is read; the outermost source has nesting 0. -/
def maxDepth : Nat := 64

/-- Read a source that stands at nesting `depth` of a rule. -/
def readAt (decode : String → Option Json) (depth : Nat) (source : Json) : Rule :=
  read decode (maxDepth + 1 - depth) source

end Source

def Rule.ofSource (source : Json) : Rule :=
  Source.readAt Json.ofText? 0 source

end FilingChecklist
