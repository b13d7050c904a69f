import FilingChecklist.Fields
import FilingChecklist.Json.Number

namespace FilingChecklist

inductive Json
  | null
  | bool (b : Bool)
  | number (n : Json.Number)
  | string (s : String)
  | array (items : List Json)
  | object (fields : List (String × Json))

/-- A project's attributes, or the cells of a catalog row. -/
abbrev Object := Fields Json

namespace Json

instance : Inhabited Json := ⟨.null⟩

mutual

/-- Equality of contents, where numbers are compared as numbers of their kind. -/
def sameValue : Json → Json → Bool
  | .null, .null => true
  | .bool a, .bool b => a == b
  | .number a, .number b => a.sameValue b
  | .string a, .string b => a == b
  | .array as, .array bs => sameItems as bs
  | .object as, .object bs => sameFields as bs
  | _, _ => false

def sameItems : List Json → List Json → Bool
  | [], [] => true
  | a :: as, b :: bs => sameValue a b && sameItems as bs
  | _, _ => false

def sameFields : List (String × Json) → List (String × Json) → Bool
  | [], [] => true
  | (name, a) :: as, (other, b) :: bs => name == other && sameValue a b && sameFields as bs
  | _, _ => false

end

def string? : Json → Option String
  | .string s => some s
  | _ => none

def array? : Json → Option (List Json)
  | .array items => some items
  | _ => none

def object? : Json → Option Object
  | .object fields => some fields
  | _ => none

theorem string?_eq_some_iff {v : Json} {s : String} : v.string? = some s ↔ v = .string s := by
  cases v <;> simp [string?]

theorem array?_eq_some_iff {v : Json} {items : List Json} :
    v.array? = some items ↔ v = .array items := by
  cases v <;> simp [array?]

def isNull : Json → Bool
  | .null => true
  | _ => false

def nonNull? (v : Json) : Option Json :=
  if v.isNull then none else some v

def ofNat (n : Nat) : Json :=
  if h : n < 0x10000000000000000 then .number (.ofMagnitude false n h) else .null

def ofBinary64 (x : Binary64) : Json :=
  .number (.binary x)

def ofOption (v : Option Json) : Json :=
  v.getD .null

end Json

end FilingChecklist
