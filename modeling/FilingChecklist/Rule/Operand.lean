import FilingChecklist.Json.Basic
import FilingChecklist.Text.Blank

namespace FilingChecklist

inductive Operand
  | null
  | bool (b : Bool)
  | number (x : Binary64)
  | text (s : String)
  | list (items : List Operand)
  | map (fields : List (String × Json))

/-- Whether authored text is read for the value it writes or kept as text. -/
inductive TextMode
  | coerce
  | verbatim
  deriving DecidableEq

namespace Operand

def boolOfText? (s : String) : Option Bool :=
  let lowered := Text.asciiLower s
  if lowered = "true" then some true
  else if lowered = "false" then some false
  else none

def ofText (s : String) : Operand :=
  let trimmed := Text.trimmed s
  match boolOfText? trimmed with
  | some b => .bool b
  | none =>
      match Decimal.binary64OfText? trimmed.toList with
      | some x => .number x
      | none => .text trimmed

end Operand

def TextMode.text (mode : TextMode) (s : String) : Operand :=
  match mode with
  | .coerce => .ofText s
  | .verbatim => .text (Text.trimmed s)

mutual

/-- The operand of a value, with its texts read in the given mode. Objects stay as they are. -/
def TextMode.operand (mode : TextMode) : Json → Operand
  | .null => .null
  | .bool b => .bool b
  | .number n => .number n.toBinary64
  | .string s => mode.text s
  | .array items => .list (mode.operands items)
  | .object fields => .map fields

def TextMode.operands (mode : TextMode) : List Json → List Operand
  | [] => []
  | item :: items => mode.operand item :: mode.operands items

end

@[simp] theorem TextMode.operands_eq_map (mode : TextMode) (items : List Json) :
    mode.operands items = items.map mode.operand := by
  induction items with
  | nil => rfl
  | cons item items ih => rw [TextMode.operands, ih, List.map_cons]

namespace Operand

def ofJson : Json → Operand :=
  TextMode.coerce.operand

mutual

/-- Read the texts of an operand for the values they write. -/
def coerced : Operand → Operand
  | .text s => ofText s
  | .list items => .list (coercedEach items)
  | operand => operand

def coercedEach : List Operand → List Operand
  | [] => []
  | item :: items => coerced item :: coercedEach items

end

mutual

/-- The operands other than lists that are reached by descending through lists. -/
def leaves : Operand → List Operand
  | .list items => leavesEach items
  | operand => [operand]

def leavesEach : List Operand → List Operand
  | [] => []
  | item :: items => leaves item ++ leavesEach items

end

@[simp] theorem leavesEach_eq_flatMap (items : List Operand) :
    leavesEach items = items.flatMap leaves := by
  induction items with
  | nil => rfl
  | cons item items ih => rw [leavesEach, ih, List.flatMap_cons]

/-- Equality of operands that are not lists: texts letter by letter, numbers by value, objects field
by field. -/
def sameLeaf : Operand → Operand → Bool
  | .null, .null => true
  | .bool a, .bool b => a == b
  | .number x, .number y => x.sameValue y
  | .text s, .text t => s == t
  | .map fields, .map others => Json.sameFields fields others
  | _, _ => false

mutual

/-- Whether `leaf` equals an operand or, for a list, one of its items. -/
def meets (leaf : Operand) : Operand → Bool
  | .list items => meetsAny leaf items
  | operand => sameLeaf leaf operand

def meetsAny (leaf : Operand) : List Operand → Bool
  | [] => false
  | item :: items => meets leaf item || meetsAny leaf items

end

mutual

/-- Loose equality: two lists are equal item by item, a list and something else are equal if one
item is, and other operands are compared directly. -/
def looselyEquals : Operand → Operand → Bool
  | .list items, .list others => pairwiseEquals items others
  | .list items, other => anyEquals items other
  | leaf, other => meets leaf other

def pairwiseEquals : List Operand → List Operand → Bool
  | [], [] => true
  | item :: items, other :: others => looselyEquals item other && pairwiseEquals items others
  | _, _ => false

def anyEquals : List Operand → Operand → Bool
  | [], _ => false
  | item :: items, other => looselyEquals item other || anyEquals items other

end

@[simp] theorem meetsAny_eq_any (leaf : Operand) (items : List Operand) :
    meetsAny leaf items = items.any (meets leaf) := by
  induction items with
  | nil => rfl
  | cons item items ih => rw [meetsAny, ih, List.any_cons]

@[simp] theorem anyEquals_eq_any (items : List Operand) (other : Operand) :
    anyEquals items other = items.any (looselyEquals · other) := by
  induction items with
  | nil => rfl
  | cons item items ih => rw [anyEquals, ih, List.any_cons]

def number? : Operand → Option Binary64
  | .number x => some x
  | _ => none

/-- Numbers in a text are written without exponent and, if integral, without point. -/
def style : Decimal.Style where
  tie := .awayFromZero
  isPositional _ := true
  keepsPoint := false

/-- The text of an operand that is neither empty nor composed, for substring tests. -/
def text? : Operand → Option String
  | .text s => some s
  | .number x => some (style.text x)
  | .bool true => some "true"
  | .bool false => some "false"
  | _ => none

mutual

def toJson : Operand → Json
  | .null => .null
  | .bool b => .bool b
  | .number x => .ofBinary64 x
  | .text s => .string s
  | .list items => .array (toJsonEach items)
  | .map fields => .object fields

def toJsonEach : List Operand → List Json
  | [] => []
  | item :: items => toJson item :: toJsonEach items

end

mutual

/-- The operand that data stand for when nothing in them is read as something else: the reverse of
`toJson`. -/
def ofExact : Json → Operand
  | .null => .null
  | .bool b => .bool b
  | .number n => .number n.toBinary64
  | .string s => .text s
  | .array items => .list (ofExactEach items)
  | .object fields => .map fields

def ofExactEach : List Json → List Operand
  | [] => []
  | item :: items => ofExact item :: ofExactEach items

end

mutual

theorem ofExact_toJson : (operand : Operand) → ofExact operand.toJson = operand
  | .null => rfl
  | .bool _ => rfl
  | .number _ => rfl
  | .text _ => rfl
  | .list items => by rw [toJson, ofExact, ofExactEach_toJsonEach items]
  | .map _ => rfl

theorem ofExactEach_toJsonEach :
    (items : List Operand) → ofExactEach (toJsonEach items) = items
  | [] => rfl
  | item :: items => by
      rw [toJsonEach, ofExactEach, ofExact_toJson item, ofExactEach_toJsonEach items]

end

end Operand

end FilingChecklist
