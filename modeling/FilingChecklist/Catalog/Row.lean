import FilingChecklist.Catalog.Key
import FilingChecklist.Json.Basic

/-!
Reading the cells of a catalog row. Rows are imported from spreadsheets: a key may stand under
several column names and may be a number, and a flag may be written in several ways.
-/

namespace FilingChecklist

inductive RowError
  | notAnObject
  | missingField (column : String)
  deriving DecidableEq

def RowError.message : RowError → String
  | notAnObject => "record is not an object"
  | missingField column => "missing or empty field: " ++ column

namespace Row

/-- The key in a cell: text that is not blank, or a number as it is written. -/
def keyOfCell? {kind : KeyKind} : Json → Option (Key kind)
  | .string s => Key.ofText? s
  | .number n => Key.ofText? n.text
  | _ => none

def object (row : Json) : Except RowError Object :=
  match row with
  | .object fields => .ok fields
  | _ => .error .notAnObject

def key (row : Object) (kind : KeyKind) : Except RowError (Key kind) :=
  match Fields.first? row kind.columns keyOfCell? with
  | some key => .ok key
  | none => .error (.missingField kind.column)

def text? (row : Object) (column : String) : Option String :=
  (Fields.get? row column).bind Json.string?

def text (row : Object) (column : String) : Except RowError String :=
  match text? row column with
  | some s => .ok s
  | none => .error (.missingField column)

/-- A key that must be text in the column under which it is written. -/
def textKey (row : Object) (kind : KeyKind) : Except RowError (Key kind) :=
  match (text? row kind.column).bind Key.ofText? with
  | some key => .ok key
  | none => .error (.missingField kind.column)

/-- An active flag: true, the number 1, or text that writes one of them. A missing flag is not
active. -/
def isActive : Option Json → Bool
  | some (.bool b) => b
  | some (.string s) =>
      let flag := Text.trimmed s
      Text.asciiLower flag == "true" || flag == "1"
  | some (.number n) => n.toBinary64.sameValue (.ofInt 1)
  | _ => false

end Row

end FilingChecklist
