import FilingChecklist.Json.Basic
import FilingChecklist.Text.Hex

namespace FilingChecklist.Json

inductive Layout
  | compact
  | indented
  deriving DecidableEq

namespace Layout

/-- What stands before an item at nesting `depth`. -/
def gap (layout : Layout) (depth : Nat) : String :=
  match layout with
  | .compact => ""
  | .indented => String.ofList ('\n' :: List.replicate (2 * depth) ' ')

def colon : Layout → String
  | .compact => ":"
  | .indented => ": "

end Layout

/-- Quotes, backslashes and control characters are escaped; other characters stand as they are. -/
def escape (c : Char) : List Char :=
  if c == '\x22' then ['\\', '\x22']
  else if c == '\\' then ['\\', '\\']
  else if c == '\x08' then ['\\', 'b']
  else if c == '\x0c' then ['\\', 'f']
  else if c == '\n' then ['\\', 'n']
  else if c == '\r' then ['\\', 'r']
  else if c == '\t' then ['\\', 't']
  else if c.toNat < 0x20 then
    ['\\', 'u', '0', '0', Text.hexDigit (c.toNat / 16), Text.hexDigit (c.toNat % 16)]
  else [c]

def quote (s : String) : String :=
  String.ofList ('\x22' :: s.toList.flatMap escape ++ ['\x22'])

mutual

/-- The text of a value at nesting `depth`. -/
def write (layout : Layout) (depth : Nat) : Json → String
  | .null => "null"
  | .bool true => "true"
  | .bool false => "false"
  | .number n => n.text
  | .string s => quote s
  | .array [] => "[]"
  | .array (item :: items) =>
      "[" ++ layout.gap (depth + 1) ++ write layout (depth + 1) item ++
        writeItems layout depth items ++ layout.gap depth ++ "]"
  | .object [] => "\x7b\x7d"
  | .object ((name, v) :: fields) =>
      "\x7b" ++ layout.gap (depth + 1) ++ quote name ++ layout.colon ++
        write layout (depth + 1) v ++ writeFields layout depth fields ++
        layout.gap depth ++ "\x7d"

def writeItems (layout : Layout) (depth : Nat) : List Json → String
  | [] => ""
  | item :: items =>
      "," ++ layout.gap (depth + 1) ++ write layout (depth + 1) item ++
        writeItems layout depth items

def writeFields (layout : Layout) (depth : Nat) : List (String × Json) → String
  | [] => ""
  | (name, v) :: fields =>
      "," ++ layout.gap (depth + 1) ++ quote name ++ layout.colon ++
        write layout (depth + 1) v ++ writeFields layout depth fields

end

def compactText (v : Json) : String :=
  write .compact 0 v

def indentedText (v : Json) : String :=
  write .indented 0 v

end FilingChecklist.Json
